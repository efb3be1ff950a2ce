import EntityQuery.Proofs.Text.Utf8
import EntityQuery.Text.Percent
import EntityQuery.Text.Quoted

/-!
# Writing text with percent escapes

The texts that stand for a character, and for a quoted literal, in a path and in a query, and what
decoding makes of them outside and inside quotes.  What is written for a query is written for a path
as well, where an ampersand need not be escaped.
-/

set_option autoImplicit false

namespace EntityQuery.Text

/-- A hexadecimal digit; a letter has either case. -/
def IsDigitOf (value : Nat) (symbol : Char) : Prop :=
  symbol = Nat.digitChar value ∨ symbol = (Nat.digitChar value).toUpper

/-- Bytes written as percent signs with two hexadecimal digits each. -/
inductive Escapes : List UInt8 → List Char → Prop where
  | nil : Escapes [] []
  | cons {byte : UInt8} {bytes : List UInt8} {high low : Char} {rest : List Char}
      (isHigh : IsDigitOf (byte.toNat / 16) high) (isLow : IsDigitOf (byte.toNat % 16) low)
      (others : Escapes bytes rest) : Escapes (byte :: bytes) ('%' :: high :: low :: rest)

/-- The texts that write a character in a query: itself, except for the three characters that mean
something else there, its bytes escaped, or a plus sign for a space. -/
inductive Writes (symbol : Char) : List Char → Prop where
  | raw (plain : symbol ∉ ['%', '+', '&']) : Writes symbol [symbol]
  | escaped {text : List Char} (escapes : Escapes (String.utf8EncodeChar symbol) text) :
      Writes symbol text
  | plus (space : symbol = ' ') : Writes symbol ['+']

/-- The texts that write a character in a path: itself, except for the two characters that mean
something else in every request, its bytes escaped, or a plus sign for a space. -/
inductive WritesInPath (symbol : Char) : List Char → Prop where
  | raw (plain : symbol ∉ ['%', '+']) : WritesInPath symbol [symbol]
  | escaped {text : List Char} (escapes : Escapes (String.utf8EncodeChar symbol) text) :
      WritesInPath symbol text
  | plus (space : symbol = ' ') : WritesInPath symbol ['+']

/-- The texts that write characters in a path, each of them on its own. -/
inductive WritesEach : List Char → List Char → Prop where
  | nil : WritesEach [] []
  | cons {symbol : Char} {held first text : List Char} (writes : WritesInPath symbol first)
      (others : WritesEach held text) : WritesEach (symbol :: held) (first ++ text)

/-- The texts that write the inside of a literal, a quote in it twice; `alike` tells how the two may
be written. -/
inductive WritesInside (alike : List Char → List Char → Prop) : List Char → List Char → Prop where
  | nil : WritesInside alike [] []
  | symbol {symbol : Char} {held first text : List Char} (notQuote : symbol ≠ '\'')
      (writes : Writes symbol first) (others : WritesInside alike held text) :
      WritesInside alike (symbol :: held) (first ++ text)
  | quotes {held first second text : List Char} (writesFirst : Writes '\'' first)
      (writesSecond : Writes '\'' second) (same : alike first second)
      (others : WritesInside alike held text) :
      WritesInside alike ('\'' :: held) (first ++ (second ++ text))

/-- The texts that write the literal of a string. -/
def WritesLiteral (alike : List Char → List Char → Prop) (held text : List Char) : Prop :=
  ∃ opening inside closing, Writes '\'' opening ∧ WritesInside alike held inside ∧
    Writes '\'' closing ∧ text = opening ++ (inside ++ closing)

theorem digit_byte {value : Nat} (small : value < 16) {symbol : Char}
    (digit : IsDigitOf value symbol) :
    ∃ byte, String.utf8EncodeChar symbol = [byte] ∧ hexValue? byte = some (UInt8.ofNat value) := by
  have every : ∀ value < 16, [Nat.digitChar value, (Nat.digitChar value).toUpper].all fun symbol =>
      (String.utf8EncodeChar symbol).map hexValue? = [some (UInt8.ofNat value)] := by decide
  have bytes : (String.utf8EncodeChar symbol).map hexValue? = [some (UInt8.ofNat value)] := by
    simpa using List.all_eq_true.mp (every value small) symbol (by simpa [IsDigitOf] using digit)
  obtain ⟨byte, single, hex⟩ := List.map_eq_singleton_iff.mp bytes
  exact ⟨byte, single, hex⟩

theorem digit_plain {value : Nat} (small : value < 16) {symbol : Char}
    (digit : IsDigitOf value symbol) : symbol ∉ ['%', '+', '&', '\''] := by
  have every : ∀ value < 16, [Nat.digitChar value, (Nat.digitChar value).toUpper].all fun symbol =>
      symbol ∉ ['%', '+', '&', '\''] := by decide
  simpa using List.all_eq_true.mp (every value small) symbol (by simpa [IsDigitOf] using digit)

theorem byte_of_halves (byte : UInt8) :
    UInt8.ofNat (byte.toNat / 16) * 16 + UInt8.ofNat (byte.toNat % 16) = byte := by
  have small := byte.toNat_lt
  have sixteen : (16 : UInt8).toNat = 16 := rfl
  rw [← UInt8.toNat_inj, UInt8.toNat_add, UInt8.toNat_mul, toNat_ofNat_of_lt (by omega),
    toNat_ofNat_of_lt (by omega), sixteen]
  omega

theorem escapes_plain {bytes : List UInt8} {text : List Char} (escapes : Escapes bytes text) :
    ∀ symbol ∈ text, symbol ∉ ['+', '&', '\''] := by
  induction escapes with
  | nil => simp
  | @cons byte bytes high low rest isHigh isLow others inductionHypothesis =>
      have small := byte.toNat_lt
      have highPlain := digit_plain (by omega) isHigh
      have lowPlain := digit_plain (by omega) isLow
      simp only [List.forall_mem_cons]
      refine ⟨by decide, ?_, ?_, inductionHypothesis⟩
      · exact fun member => highPlain (List.mem_cons_of_mem _ member)
      · exact fun member => lowPlain (List.mem_cons_of_mem _ member)

/-- A text is split into these pieces, whatever follows it. -/
structure Splits (text : List Char) (run : List Piece) : Prop where
  pieces (rest : List UInt8) : pieces (utf8 text ++ rest) = run ++ pieces rest
  spans : run.flatMap Piece.span = utf8 text

theorem Splits.append {first second : List Char} {run later : List Piece}
    (splits : Splits first run) (others : Splits second later) :
    Splits (first ++ second) (run ++ later) where
  pieces rest := by
    rw [utf8_append, List.append_assoc, splits.pieces, others.pieces, List.append_assoc]
  spans := by rw [List.flatMap_append, splits.spans, others.spans, utf8_append]

theorem Splits.nil : Splits [] [] := ⟨fun _ => rfl, rfl⟩

theorem pieces_cons {first : UInt8} (notPercent : first ≠ percentByte) (rest : List UInt8) :
    pieces (first :: rest) = .ofByte first :: pieces rest := by
  match rest with
  | [] => rfl
  | [_] => rfl
  | _ :: _ :: _ => rw [pieces, if_neg notPercent]

theorem pieces_bytes {bytes : List UInt8} (noPercent : ∀ byte ∈ bytes, byte ≠ percentByte)
    (rest : List UInt8) : pieces (bytes ++ rest) = bytes.map Piece.ofByte ++ pieces rest := by
  induction bytes with
  | nil => rfl
  | cons first more inductionHypothesis =>
      obtain ⟨notPercent, others⟩ := List.forall_mem_cons.mp noPercent
      rw [List.cons_append, pieces_cons notPercent, inductionHypothesis others]
      rfl

theorem flatMap_span_ofByte (bytes : List UInt8) :
    (bytes.map Piece.ofByte).flatMap Piece.span = bytes := by
  induction bytes with
  | nil => rfl
  | cons first more inductionHypothesis =>
      rw [List.map_cons, List.flatMap_cons, inductionHypothesis]
      rfl

theorem map_byte_ofByte (bytes : List UInt8) :
    (bytes.map Piece.ofByte).map Piece.byte = bytes := by
  rw [List.map_map]
  exact List.map_id' bytes

theorem splits_raw {symbol : Char} (notPercent : symbol ≠ '%') :
    Splits [symbol] ((String.utf8EncodeChar symbol).map Piece.ofByte) where
  pieces rest := by
    have single : utf8 [symbol] = String.utf8EncodeChar symbol := by simp [utf8]
    rw [single]
    refine pieces_bytes ?_ rest
    rintro byte member rfl
    exact notPercent (mem_utf8EncodeChar member (by decide))
  spans := by simp [utf8, flatMap_span_ofByte]

theorem splits_escapes {bytes : List UInt8} {text : List Char} (escapes : Escapes bytes text) :
    ∃ run, Splits text run ∧ run.map Piece.byte = bytes ∧
      ∀ piece ∈ run, piece.isRaw = false := by
  induction escapes with
  | nil => exact ⟨[], .nil, rfl, by simp⟩
  | @cons byte bytes high low rest isHigh isLow others inductionHypothesis =>
      obtain ⟨run, splits, bytesOf, escaped⟩ := inductionHypothesis
      have small := byte.toNat_lt
      obtain ⟨highByte, highBytes, highValue⟩ := digit_byte (by omega) isHigh
      obtain ⟨lowByte, lowBytes, lowValue⟩ := digit_byte (by omega) isLow
      have percent : String.utf8EncodeChar '%' = [percentByte] := by decide
      have front : utf8 ['%', high, low] = [percentByte, highByte, lowByte] := by
        simp [utf8, percent, highBytes, lowBytes]
      have one : Splits ['%', high, low] [⟨byte, [percentByte, highByte, lowByte]⟩] := by
        refine ⟨fun rest => ?_, by simp [front]⟩
        have pair : hexPair? highByte lowByte = some byte := by
          simp only [hexPair?, highValue, lowValue, byte_of_halves]
        rw [front]
        simp only [List.cons_append, List.nil_append, pieces, if_true, pair]
      refine ⟨_, one.append splits, by simp [bytesOf], ?_⟩
      exact List.forall_mem_cons.mpr ⟨rfl, escaped⟩

/-! ## Characters as pieces -/

def escapePlus (text : List Char) : List Char :=
  text.flatMap fun symbol => if symbol = '+' then ['%', '2', '0'] else [symbol]

theorem escapePlus_append (first second : List Char) :
    escapePlus (first ++ second) = escapePlus first ++ escapePlus second := List.flatMap_append

theorem escapePlus_of_not_mem {text : List Char} (noPlus : '+' ∉ text) :
    escapePlus text = text := by
  induction text with
  | nil => rfl
  | cons symbol rest inductionHypothesis =>
      obtain ⟨differs, others⟩ : '+' ≠ symbol ∧ '+' ∉ rest := by simpa using noPlus
      have same := inductionHypothesis others
      rw [escapePlus] at same ⊢
      rw [List.flatMap_cons, if_neg (Ne.symm differs), same]
      rfl

namespace Writes

variable {symbol : Char} {text : List Char}

theorem inPath (writes : Writes symbol text) : WritesInPath symbol text := by
  cases writes with
  | raw plain => exact .raw fun special => plain (List.mem_append_left ['&'] special)
  | escaped escapes => exact .escaped escapes
  | plus space => exact .plus space

theorem not_ampersand (writes : Writes symbol text) : '&' ∉ text := by
  cases writes with
  | raw plain =>
      intro member
      refine plain ?_
      rw [← List.mem_singleton.mp member]
      decide
  | escaped escapes => exact fun member => escapes_plain escapes '&' member (by decide)
  | plus space => decide

end Writes

namespace WritesInPath

variable {symbol : Char} {text : List Char}

theorem plus_or_not_mem (writes : WritesInPath symbol text) :
    (symbol = ' ' ∧ text = ['+']) ∨ '+' ∉ text := by
  cases writes with
  | raw plain =>
      refine Or.inr fun member => plain ?_
      rw [← List.mem_singleton.mp member]
      decide
  | escaped escapes => exact Or.inr fun member => escapes_plain escapes '+' member (by decide)
  | plus space => exact Or.inl ⟨space, rfl⟩

theorem not_quote (writes : WritesInPath symbol text) (notQuote : symbol ≠ '\'') :
    '\'' ∉ text := by
  cases writes with
  | raw plain => exact fun member => notQuote (List.mem_singleton.mp member).symm
  | escaped escapes => exact fun member => escapes_plain escapes '\'' member (by decide)
  | plus space => decide

theorem escapePlus (writes : WritesInPath symbol text) :
    WritesInPath symbol (escapePlus text) ∧ '+' ∉ Text.escapePlus text := by
  rcases writes.plus_or_not_mem with ⟨rfl, rfl⟩ | noPlus
  · have space : String.utf8EncodeChar ' ' = [spaceByte] := by decide
    refine ⟨.escaped ?_, by decide⟩
    rw [space]
    exact .cons (Or.inl (by decide)) (Or.inl (by decide)) .nil
  · rw [escapePlus_of_not_mem noPlus]
    exact ⟨writes, noPlus⟩

/-- A character written without a plus sign is split into pieces with its bytes. -/
theorem splits (writes : WritesInPath symbol text) (noPlus : '+' ∉ text) :
    ∃ run, Splits text run ∧ run.map Piece.byte = String.utf8EncodeChar symbol ∧
      ∀ piece ∈ run, (decide (piece.byte = plusByte) && piece.isRaw) = false := by
  cases writes with
  | raw plain =>
      have notPercent : symbol ≠ '%' := by
        rintro rfl
        exact plain (by decide)
      refine ⟨_, splits_raw notPercent, map_byte_ofByte _, ?_⟩
      intro piece member
      obtain ⟨byte, inside, rfl⟩ := List.mem_map.mp member
      have notPlus : byte ≠ plusByte := by
        rintro rfl
        have same : symbol = '+' := mem_utf8EncodeChar inside (by decide)
        exact noPlus (by rw [same]; decide)
      simp [Piece.ofByte, notPlus]
  | escaped escapes =>
      obtain ⟨run, splits, bytesOf, escaped⟩ := splits_escapes escapes
      refine ⟨run, splits, bytesOf, fun piece member => ?_⟩
      rw [escaped piece member, Bool.and_false]
  | plus space => exact absurd (by decide) noPlus

end WritesInPath

theorem WritesEach.uncons {symbol : Char} {held text : List Char}
    (writes : WritesEach (symbol :: held) text) :
    ∃ first others, text = first ++ others ∧ WritesInPath symbol first ∧
      WritesEach held others := by
  cases writes with
  | cons isFirst others => exact ⟨_, _, rfl, isFirst, others⟩

/-- What stands before the last of some characters, and what is written for it. -/
theorem WritesEach.split_last {front text : List Char} {last : Char}
    (writes : WritesEach (front ++ [last]) text) :
    ∃ first closing, WritesEach front first ∧ WritesInPath last closing ∧
      text = first ++ closing := by
  induction front generalizing text with
  | nil =>
      obtain ⟨closing, others, rfl, isLast, none⟩ := writes.uncons
      cases none
      exact ⟨[], closing, .nil, isLast, List.append_nil closing⟩
  | cons symbol rest inductionHypothesis =>
      obtain ⟨opening, others, rfl, isFirst, later⟩ := writes.uncons
      obtain ⟨first, closing, before, isLast, rfl⟩ := inductionHypothesis later
      exact ⟨_, closing, .cons isFirst before, isLast, (List.append_assoc _ _ _).symm⟩

theorem WritesInside.inPath {alike : List Char → List Char → Prop} {held inside : List Char}
    (writes : WritesInside alike held inside) : WritesEach (doubleQuotes held) inside := by
  induction writes with
  | nil => exact .nil
  | symbol notQuote writes others inductionHypothesis =>
      rw [doubleQuotes, if_neg notQuote]
      exact .cons writes.inPath inductionHypothesis
  | quotes writesFirst writesSecond same others inductionHypothesis =>
      rw [doubleQuotes, if_pos rfl]
      exact .cons writesFirst.inPath (.cons writesSecond.inPath inductionHypothesis)

theorem utf8EncodeChar_quote : String.utf8EncodeChar '\'' = [quoteByte] := by decide

theorem not_plus_of_quote {text : List Char} (writes : WritesInPath '\'' text) : '+' ∉ text := by
  rcases writes.plus_or_not_mem with ⟨space, -⟩ | noPlus
  · exact absurd space (by decide)
  · exact noPlus

theorem splits_quote {text : List Char} (writes : WritesInPath '\'' text) :
    ∃ piece, Splits text [piece] ∧ piece.byte = quoteByte := by
  have noPlus := not_plus_of_quote writes
  obtain ⟨run, splits, bytesOf, -⟩ := writes.splits noPlus
  rw [utf8EncodeChar_quote] at bytesOf
  obtain ⟨piece, rfl, byte⟩ := List.map_eq_singleton_iff.mp bytesOf
  exact ⟨piece, splits, byte⟩

/-! ## Decoding -/

theorem decodeInside_cons {piece : Piece} (notQuote : piece.byte ≠ quoteByte) (rest : List Piece) :
    decodeInside (piece :: rest) =
      (if piece.byte = plusByte && piece.isRaw then [0x25, 0x32, 0x30] else piece.span) ++
        decodeInside rest := by
  cases rest with
  | nil =>
      simp only [decodeInside, notQuote, if_false, List.append_nil]
  | cons next rest =>
      rw [decodeInside, if_neg notQuote]
      split <;> rfl

/-- Pieces that are neither quotes nor plus signs stay as they are written. -/
theorem decodeInside_run {run : List Piece} (noQuote : ∀ piece ∈ run, piece.byte ≠ quoteByte)
    (noPlus : ∀ piece ∈ run, (decide (piece.byte = plusByte) && piece.isRaw) = false)
    (rest : List Piece) :
    decodeInside (run ++ rest) = run.flatMap Piece.span ++ decodeInside rest := by
  induction run with
  | nil => rfl
  | cons piece more inductionHypothesis =>
      obtain ⟨notQuote, othersQuote⟩ := List.forall_mem_cons.mp noQuote
      obtain ⟨notPlus, othersPlus⟩ := List.forall_mem_cons.mp noPlus
      rw [List.cons_append, decodeInside_cons notQuote, notPlus,
        inductionHypothesis othersQuote othersPlus]
      simp

theorem decodeInside_quotes {first second : Piece} (isFirst : first.byte = quoteByte)
    (isSecond : second.byte = quoteByte) (rest : List Piece) :
    decodeInside (first :: second :: rest) = first.span ++ second.span ++ decodeInside rest := by
  rw [decodeInside, if_pos isFirst, if_pos isSecond]

theorem decodeOutside_bytes {bytes : List UInt8}
    (plain : ∀ byte ∈ bytes, byte ≠ quoteByte ∧ byte ≠ plusByte) (rest : List Piece) :
    decodeOutside (bytes.map Piece.ofByte ++ rest) = bytes ++ decodeOutside rest := by
  induction bytes with
  | nil => rfl
  | cons byte more inductionHypothesis =>
      obtain ⟨⟨notQuote, notPlus⟩, others⟩ := List.forall_mem_cons.mp plain
      simp only [List.map_cons, List.cons_append, decodeOutside, Piece.ofByte, notQuote, notPlus,
        decide_false, Bool.false_and, Bool.false_eq_true, if_false]
      rw [← inductionHypothesis others]

/-- A quote that no other follows ends the literal. -/
theorem decodeInside_closing {piece : Piece} (isQuote : piece.byte = quoteByte)
    {bytes : List UInt8} (plain : ∀ byte ∈ bytes, byte ≠ quoteByte ∧ byte ≠ plusByte) :
    decodeInside (piece :: bytes.map Piece.ofByte) = quoteByte :: bytes := by
  have outside := decodeOutside_bytes plain []
  rw [List.append_nil, decodeOutside, List.append_nil] at outside
  cases bytes with
  | nil => rw [List.map_nil, decodeInside, if_pos isQuote]
  | cons next rest =>
      have notQuote : (Piece.ofByte next).byte ≠ quoteByte := (plain next List.mem_cons_self).1
      rw [List.map_cons, decodeInside, if_pos isQuote, if_neg notQuote, ← List.map_cons, outside]

/-- The bytes of text in which nothing has a meaning of its own. -/
theorem utf8_plain {text : List Char} (plain : ∀ symbol ∈ text, symbol ∉ ['%', '+', '\'']) :
    ∀ byte ∈ utf8 text, byte ≠ percentByte ∧ byte ≠ quoteByte ∧ byte ≠ plusByte := by
  have apart : ∀ {other : Char} {byte : UInt8}, other ∈ ['%', '+', '\''] → byte < 0x80 →
      Char.ofNat byte.toNat = other → byte ∉ utf8 text := by
    intro other byte special ascii same member
    obtain ⟨symbol, inText, inBytes⟩ := List.mem_flatMap.mp member
    rw [← same, ← mem_utf8EncodeChar inBytes ascii] at special
    exact plain symbol inText special
  refine fun byte member => ⟨?_, ?_, ?_⟩
  · rintro rfl
    exact apart (by decide : '%' ∈ ['%', '+', '\'']) (by decide) rfl member
  · rintro rfl
    exact apart (by decide : '\'' ∈ ['%', '+', '\'']) (by decide) rfl member
  · rintro rfl
    exact apart (by decide : '+' ∈ ['%', '+', '\'']) (by decide) rfl member

section Inside

variable {held inside text : List Char}

theorem decodeInside_writes (writes : WritesEach (doubleQuotes held) inside) :
    ∃ run, Splits inside run ∧
      ∀ rest, decodeInside (run ++ rest) = utf8 (escapePlus inside) ++ decodeInside rest := by
  induction held generalizing inside with
  | nil =>
      cases writes
      exact ⟨[], .nil, fun rest => rfl⟩
  | cons symbol held inductionHypothesis =>
      by_cases isQuote : symbol = '\''
      · rw [doubleQuotes, if_pos isQuote] at writes
        obtain ⟨first, _, rfl, writesFirst, later⟩ := writes.uncons
        obtain ⟨second, inside, rfl, writesSecond, others⟩ := later.uncons
        obtain ⟨run, splits, decoded⟩ := inductionHypothesis others
        obtain ⟨piece, splitsFirst, isFirst⟩ := splits_quote writesFirst
        obtain ⟨next, splitsSecond, isSecond⟩ := splits_quote writesSecond
        refine ⟨_, splitsFirst.append (splitsSecond.append splits), fun rest => ?_⟩
        have firstSpan := splitsFirst.spans
        have secondSpan := splitsSecond.spans
        rw [List.flatMap_singleton] at firstSpan secondSpan
        simp only [List.nil_append, List.cons_append, decodeInside_quotes isFirst isSecond,
          decoded, escapePlus_append, escapePlus_of_not_mem (not_plus_of_quote writesFirst),
          escapePlus_of_not_mem (not_plus_of_quote writesSecond), utf8_append, firstSpan,
          secondSpan, List.append_assoc]
      · rw [doubleQuotes, if_neg isQuote] at writes
        obtain ⟨first, inside, rfl, writesFirst, others⟩ := writes.uncons
        obtain ⟨run, splits, decoded⟩ := inductionHypothesis others
        rcases writesFirst.plus_or_not_mem with ⟨-, rfl⟩ | noPlus
        · have single := splits_raw (by decide : '+' ≠ '%')
          refine ⟨_, single.append splits, fun rest => ?_⟩
          have plus : (String.utf8EncodeChar '+').map Piece.ofByte = [.ofByte plusByte] := by
            decide
          rw [plus, List.append_assoc, List.singleton_append, decodeInside_cons (by decide),
            decoded, escapePlus_append, utf8_append, List.append_assoc]
          rfl
        · obtain ⟨front, single, bytesOf, notPlus⟩ := writesFirst.splits noPlus
          have noQuote : ∀ piece ∈ front, piece.byte ≠ quoteByte := by
            intro piece member isByte
            have byte : quoteByte ∈ String.utf8EncodeChar symbol := by
              rw [← bytesOf, ← isByte]
              exact List.mem_map_of_mem member
            exact isQuote (mem_utf8EncodeChar byte (by decide))
          refine ⟨_, single.append splits, fun rest => ?_⟩
          rw [List.append_assoc, decodeInside_run noQuote notPlus, decoded, single.spans,
            escapePlus_append, escapePlus_of_not_mem noPlus, utf8_append, List.append_assoc]

/-- Undoing the escapes of what has been kept gives the characters that were written. -/
theorem percentDecode_escapePlus (writes : WritesEach held inside) :
    percentDecode (escapePlus inside) = .ok held := by
  have bytes : ∃ run, Splits (escapePlus inside) run ∧ run.map Piece.byte = utf8 held := by
    induction writes with
    | nil => exact ⟨[], .nil, rfl⟩
    | @cons symbol held first text writes others inductionHypothesis =>
        obtain ⟨run, splits, bytesOf⟩ := inductionHypothesis
        obtain ⟨front, single, bytesOfFirst, -⟩ := writes.escapePlus.1.splits writes.escapePlus.2
        rw [escapePlus_append, utf8_cons]
        exact ⟨_, single.append splits, by rw [List.map_append, bytesOfFirst, bytesOf]⟩
  obtain ⟨run, splits, bytesOf⟩ := bytes
  have whole := splits.pieces []
  rw [List.append_nil, pieces, List.append_nil] at whole
  rw [percentDecode, percentDecodeBytes, whole, bytesOf, decodeUtf8_utf8]

/-- Outside quotes everything is decoded, and a literal keeps its inside encoded. -/
theorem decodeUnquoted?_quoted {opening closing : List Char}
    (writesOpening : WritesInPath '\'' opening)
    (writesInside : WritesEach (doubleQuotes held) inside)
    (writesClosing : WritesInPath '\'' closing) {front back : List Char}
    (plain : ∀ symbol ∈ front, symbol ∉ ['%', '+', '\''])
    (plainAfter : ∀ symbol ∈ back, symbol ∉ ['%', '+', '\'']) :
    decodeUnquoted? (front ++ (opening ++ (inside ++ (closing ++ back)))) =
      some (front ++ '\'' :: (escapePlus inside ++ '\'' :: back)) := by
  obtain ⟨first, splitsOpening, isFirst⟩ := splits_quote writesOpening
  obtain ⟨last, splitsClosing, isLast⟩ := splits_quote writesClosing
  obtain ⟨run, splits, decoded⟩ := decodeInside_writes writesInside
  have before := utf8_plain plain
  have after := utf8_plain plainAfter
  have ends := pieces_bytes (fun byte member => (after byte member).1) []
  rw [pieces, List.append_nil, List.append_nil] at ends
  have whole := (splitsOpening.append (splits.append splitsClosing)).pieces (utf8 back)
  rw [ends, List.singleton_append, List.cons_append, List.append_assoc] at whole
  have out : decodeOutside (pieces
      (utf8 (front ++ (opening ++ (inside ++ (closing ++ back)))))) =
      utf8 (front ++ '\'' :: (escapePlus inside ++ '\'' :: back)) := by
    have joined : utf8 (opening ++ (inside ++ (closing ++ back))) =
        utf8 (opening ++ (inside ++ closing)) ++ utf8 back := by
      simp only [utf8_append, List.append_assoc]
    rw [utf8_append, joined, pieces_bytes (fun byte member => (before byte member).1), whole,
      decodeOutside_bytes (fun byte member => (before byte member).2), decodeOutside,
      if_pos isFirst, decoded, List.singleton_append,
      decodeInside_closing isLast (fun byte member => (after byte member).2), utf8_append,
      utf8_cons, utf8_append, utf8_cons, utf8EncodeChar_quote]
    rfl
  rw [decodeUnquoted?, out, decodeUtf8_utf8]
  rfl

variable {alike : List Char → List Char → Prop}

theorem decodeUnquoted?_literal (writes : WritesLiteral alike held text) {front : List Char}
    (plain : ∀ symbol ∈ front, symbol ∉ ['%', '+', '\'']) :
    ∃ inside, WritesInside alike held inside ∧
      decodeUnquoted? (front ++ text) = some (front ++ '\'' :: (escapePlus inside ++ ['\''])) := by
  obtain ⟨opening, inside, closing, writesOpening, writesInside, writesClosing, rfl⟩ := writes
  have nothing : ∀ symbol ∈ ([] : List Char), symbol ∉ ['%', '+', '\''] := by simp
  have decoded := decodeUnquoted?_quoted writesOpening.inPath writesInside.inPath
    writesClosing.inPath plain nothing
  rw [List.append_nil] at decoded
  exact ⟨inside, writesInside, decoded⟩

end Inside

theorem collapseQuotes_doubleQuotes (held : List Char) :
    collapseQuotes (doubleQuotes held) = held := by
  induction held with
  | nil => rfl
  | cons symbol rest inductionHypothesis =>
      by_cases isQuote : symbol = '\''
      · rw [doubleQuotes, if_pos isQuote, collapseQuotes, inductionHypothesis, isQuote]
      · rw [doubleQuotes, if_neg isQuote, collapseQuotes, inductionHypothesis]
        rintro others rfl
        exact absurd rfl isQuote

theorem unquote?_quoted (inside : List Char) :
    unquote? ('\'' :: (inside ++ ['\''])) = some inside := by
  simp [unquote?]

end EntityQuery.Text
