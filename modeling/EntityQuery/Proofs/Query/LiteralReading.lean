import EntityQuery.Proofs.Query.Literal

/-!
# Reading a literal again

A text of one of the forms of literals is read as that literal, whatever token comes after it: the
readers that are tried before the one for the form refuse the text.
-/

set_option autoImplicit false

namespace EntityQuery.Query

open Decimal (isDigit)
open Text (GoesOn goesOn_cons)

/-! ## Texts that a reader refuses -/

theorem readRun_eq_some {count : Nat} {holds : Char → Bool} {text first rest : List Char} :
    readRun count holds text = some (first, rest) ↔
      text = first ++ rest ∧ first.length = count ∧ ∀ symbol ∈ first, holds symbol = true := by
  constructor
  · intro read
    have split := (resumes_readRun count holds).split read
    rw [readRun] at read
    split at read
    · rename_i fits
      cases read
      exact ⟨split, fits.1, List.all_eq_true.mp fits.2⟩
    · cases read
  · rintro ⟨rfl, rfl, every⟩
    have fits : first.length = first.length ∧ first.all holds = true :=
      ⟨rfl, List.all_eq_true.mpr every⟩
    rw [readRun, List.take_left, List.drop_left, if_pos fits]

theorem readRun_refuses {count : Nat} {holds : Char → Bool} {before : List Char} {symbol : Char}
    (inside : before.length < count) (fails : holds symbol = false) (rest : List Char) :
    readRun count holds (before ++ symbol :: rest) = none := by
  rw [Option.eq_none_iff_forall_ne_some]
  rintro ⟨first, after⟩ read
  obtain ⟨split, length, every⟩ := readRun_eq_some.mp read
  have reached : (first ++ after)[before.length]? = some symbol := by
    rw [← split, List.getElem?_append_right (le_refl _)]
    simp
  rw [List.getElem?_append_left (by omega)] at reached
  have holdsHere := every symbol (List.mem_of_getElem? reached)
  rw [fails] at holdsHere
  cases holdsHere

theorem readDayDigits_refuses {symbol : Char} (notDigit : isDigit symbol = false)
    (rest : List Char) : readDayDigits (symbol :: rest) = none := by
  have run : readRun 4 isDigit ([] ++ symbol :: rest) = none :=
    readRun_refuses (by decide) notDigit rest
  exact inSequence_refuses run _

theorem readInstant_refuses {text : List Char} (noDay : readDayDigits text = none) :
    readInstant text = none := inSequence_refuses noDay _

theorem readDate_refuses {text : List Char} (noDay : readDayDigits text = none) :
    readDate text = none := by
  rw [readDate, noDay]

def PassesStops (reader : List Char → Lexeme) : Prop :=
  ∀ text first rest, reader text = some (first, rest) → ∀ symbol ∈ first, isStop symbol = false

theorem passesStops_readRun {count : Nat} {holds : Char → Bool}
    (apart : ∀ symbol, holds symbol = true → isStop symbol = false) :
    PassesStops (readRun count holds) := by
  intro text first rest read symbol member
  exact apart symbol ((readRun_eq_some.mp read).2.2 symbol member)

theorem passesStops_hyphen : PassesStops (readSymbol '-') := by
  intro text first rest read symbol member
  rw [(readSymbol_eq_some.mp read).1, List.mem_singleton] at member
  rw [member]
  rfl

theorem passesStops_nil : PassesStops (inSequence []) := by
  intro text first rest read symbol member
  rw [(inSequence_nil_eq_some.mp read).1] at member
  cases member

theorem PassesStops.cons {reader : List Char → Lexeme} {readers : List (List Char → Lexeme)}
    (passes : PassesStops reader) (later : PassesStops (inSequence readers)) :
    PassesStops (inSequence (reader :: readers)) := by
  intro text first rest read symbol member
  obtain ⟨start, finish, middle, readFirst, readLater, rfl⟩ := inSequence_cons_eq_some.mp read
  rcases List.mem_append.mp member with inStart | inFinish
  · exact passes _ _ _ readFirst symbol inStart
  · exact later _ _ _ readLater symbol inFinish

theorem isHexDigit_apart {symbol : Char} (hex : isHexDigit symbol = true) :
    isStop symbol = false := by
  rw [Bool.eq_false_iff]
  intro stop
  rw [(isStop_apart stop).2.2.1] at hex
  cases hex

theorem isDigit_apart {symbol : Char} (digit : isDigit symbol = true) : isStop symbol = false := by
  rw [Bool.eq_false_iff]
  intro stop
  rw [not_isDigit_of_stop stop] at digit
  cases digit

theorem passesStops_readDayDigits : PassesStops readDayDigits :=
  have run (count : Nat) : PassesStops (readRun count isDigit) :=
    passesStops_readRun fun _ => isDigit_apart
  (run 4).cons <| passesStops_hyphen.cons <| (run 2).cons <| passesStops_hyphen.cons <|
    (run 2).cons passesStops_nil

theorem passesStops_readGuid : PassesStops readGuid :=
  have run (count : Nat) : PassesStops (readRun count isHexDigit) :=
    passesStops_readRun fun _ => isHexDigit_apart
  (run 8).cons <| passesStops_hyphen.cons <| (run 4).cons <| passesStops_hyphen.cons <|
    (run 4).cons <| passesStops_hyphen.cons <| (run 4).cons <| passesStops_hyphen.cons <|
      (run 12).cons passesStops_nil

/-- Two runs with hyphens after them: the first run, a hyphen, and a second one further on. -/
theorem twoHyphens {count count' : Nat} {holds : Char → Bool}
    {readers : List (List Char → Lexeme)} {text first rest : List Char}
    (read : inSequence (readRun count holds :: readSymbol '-' :: readRun count' holds ::
      readSymbol '-' :: readers) text = some (first, rest)) :
    ∃ start later, first = start ++ '-' :: later ∧ start.length = count ∧
      (∀ symbol ∈ start, holds symbol = true) ∧ '-' ∈ later := by
  obtain ⟨start, _, _, readStart, afterStart, rfl⟩ := inSequence_cons_eq_some.mp read
  obtain ⟨hyphen, _, _, readHyphen, afterHyphen, rfl⟩ := inSequence_cons_eq_some.mp afterStart
  obtain ⟨middle, _, _, -, afterMiddle, rfl⟩ := inSequence_cons_eq_some.mp afterHyphen
  obtain ⟨second, later, _, readSecond, -, rfl⟩ := inSequence_cons_eq_some.mp afterMiddle
  obtain ⟨rfl, -⟩ := readSymbol_eq_some.mp readHyphen
  obtain ⟨rfl, -⟩ := readSymbol_eq_some.mp readSecond
  obtain ⟨-, length, every⟩ := readRun_eq_some.mp readStart
  exact ⟨start, middle ++ ('-' :: later), rfl, length, every, by simp⟩

theorem prefix_of_passesStops {reader : List Char → Lexeme} (passes : PassesStops reader)
    (resumes : Resumes (fun _ => True) reader) {token tail first rest : List Char}
    (stops : AfterToken tail) (read : reader (token ++ tail) = some (first, rest)) :
    ∃ more, token = first ++ more := by
  rcases List.append_eq_append_iff.mp (resumes.split read) with
    ⟨beyond, split, after⟩ | ⟨more, split, -⟩
  · cases beyond with
    | nil => exact ⟨[], by simp [split]⟩
    | cons symbol others =>
        rw [after, List.cons_append, AfterToken, goesOn_cons] at stops
        have passed := passes _ _ _ read symbol (by simp [split])
        rw [stops] at passed
        cases passed
  · exact ⟨more, split⟩

theorem readDigits_hyphens {text first rest : List Char}
    (read : readDigits text = some (first, rest)) : first.count '-' = 0 := by
  rw [List.count_eq_zero]
  intro member
  have isDigit := (readDigits_eq_some.mp read).2.2.1 '-' member
  simp [Decimal.isDigit] at isDigit

theorem readPower_hyphens {text first rest : List Char}
    (read : readPower text = some (first, rest)) : first.count '-' ≤ 1 := by
  obtain ⟨letter, _, _, readLetter, afterLetter, rfl⟩ := inSequence_cons_eq_some.mp read
  obtain ⟨sign, _, _, readSign, afterSign, rfl⟩ := inSequence_cons_eq_some.mp afterLetter
  obtain ⟨digits, last, _, readDigits, readLast, rfl⟩ := inSequence_cons_eq_some.mp afterSign
  obtain ⟨rfl, -⟩ := inSequence_nil_eq_some.mp readLast
  have letterCount : letter.count '-' = 0 := by
    rcases readLetter_eq readLetter with rfl | rfl <;> rfl
  have signCount : sign.count '-' ≤ 1 := by
    rcases optionally_eq_some.mp readSign with present | ⟨-, rfl, -⟩
    · rcases readSign_eq present with rfl | rfl <;> decide
    · decide
  have digitsCount := readDigits_hyphens readDigits
  simp only [List.count_append, List.count_nil]
  omega

theorem readMagnitude_hyphens {text first rest : List Char}
    (read : readMagnitude text = some (first, rest)) : first.count '-' ≤ 1 := by
  rcases firstOf_pair_eq_some.mp read with word | ⟨-, number⟩
  · obtain ⟨rfl, -⟩ := readWord_eq_some.mp word
    decide
  obtain ⟨digits, _, _, readDigits, afterDigits, rfl⟩ := inSequence_cons_eq_some.mp number
  obtain ⟨fraction, _, _, readFraction, afterFraction, rfl⟩ :=
    inSequence_cons_eq_some.mp afterDigits
  obtain ⟨power, last, _, readPower, readLast, rfl⟩ := inSequence_cons_eq_some.mp afterFraction
  obtain ⟨rfl, -⟩ := inSequence_nil_eq_some.mp readLast
  have digitsCount := readDigits_hyphens readDigits
  have fractionCount : fraction.count '-' = 0 := by
    rcases optionally_eq_some.mp readFraction with present | ⟨-, rfl, -⟩
    · obtain ⟨point, _, _, readPoint, afterPoint, rfl⟩ := inSequence_cons_eq_some.mp present
      obtain ⟨digits, last, _, readDigits, readLast, rfl⟩ := inSequence_cons_eq_some.mp afterPoint
      obtain ⟨rfl, -⟩ := inSequence_nil_eq_some.mp readLast
      obtain ⟨rfl, -⟩ := readSymbol_eq_some.mp readPoint
      simpa using readDigits_hyphens readDigits
    · rfl
  have powerCount : power.count '-' ≤ 1 := by
    rcases optionally_eq_some.mp readPower with present | ⟨-, rfl, -⟩
    · exact readPower_hyphens present
    · decide
  simp only [List.count_append, List.count_nil]
  omega

/-- A number has at most one hyphen after its first character: the sign of its power of ten. -/
theorem readNumber_hyphens {text first rest : List Char}
    (read : readNumber text = some (first, rest)) : (first.drop 1).count '-' ≤ 1 := by
  obtain ⟨sign, _, _, readSign, afterSign, rfl⟩ := inSequence_cons_eq_some.mp read
  obtain ⟨magnitude, last, _, readMagnitude, readLast, rfl⟩ := inSequence_cons_eq_some.mp afterSign
  obtain ⟨rfl, -⟩ := inSequence_nil_eq_some.mp readLast
  have count := readMagnitude_hyphens readMagnitude
  rcases optionally_eq_some.mp readSign with present | ⟨-, rfl, -⟩
  · obtain ⟨rfl, -⟩ := readSymbol_eq_some.mp present
    simpa using count
  · rw [List.append_nil, List.nil_append]
    exact ((List.drop_sublist 1 magnitude).count_le '-').trans count

theorem number_not_hyphenated {raw tail first rest start later : List Char}
    {reader : List Char → Lexeme} (number : readNumber raw = some (raw, []))
    (passes : PassesStops reader) (resumes : Resumes (fun _ => True) reader)
    (stops : AfterToken tail) (read : reader (raw ++ tail) = some (first, rest))
    (shape : first = start ++ '-' :: later) (nonempty : start ≠ []) (second : '-' ∈ later) :
    False := by
  obtain ⟨more, split⟩ := prefix_of_passesStops passes resumes stops read
  obtain ⟨symbol, others, rfl⟩ := List.exists_cons_of_ne_nil nonempty
  have few := readNumber_hyphens number
  have many : 0 < later.count '-' := List.count_pos_iff.mpr second
  rw [split, shape] at few
  simp only [List.cons_append, List.append_assoc, List.drop_succ_cons, List.drop_zero,
    List.count_append, List.count_cons_self] at few
  omega

/-! ## Reading a literal again -/

theorem readNumber_starts {text first rest : List Char}
    (read : readNumber text = some (first, rest)) :
    ∃ symbol more, first = symbol :: more ∧
      (symbol = '-' ∨ symbol = 'I' ∨ isDigit symbol = true) := by
  obtain ⟨sign, _, _, readSign, afterSign, rfl⟩ := inSequence_cons_eq_some.mp read
  obtain ⟨magnitude, later, _, readMagnitude, -, rfl⟩ := inSequence_cons_eq_some.mp afterSign
  rcases optionally_eq_some.mp readSign with present | ⟨-, rfl, -⟩
  · obtain ⟨rfl, -⟩ := readSymbol_eq_some.mp present
    exact ⟨'-', _, rfl, Or.inl rfl⟩
  · rcases readMagnitude_starts readMagnitude with rfl | ⟨symbol, more, rfl, isDigit⟩
    · exact ⟨'I', _, rfl, Or.inr (Or.inl rfl)⟩
    · exact ⟨symbol, _, rfl, Or.inr (Or.inr isDigit)⟩

theorem readDuration_refuses {symbol : Char} (differs : symbol ≠ 'd') (rest : List Char) :
    readDuration (symbol :: rest) = none := by
  rw [Option.eq_none_iff_forall_ne_some]
  rintro ⟨first, after⟩ read
  obtain ⟨inside, later, split, -⟩ := readDuration_eq_some.mp read
  exact differs (List.cons.inj split).1

theorem readString_refuses {symbol : Char} (differs : symbol ≠ '\'') (rest : List Char) :
    readString (symbol :: rest) = none := by
  rw [Option.eq_none_iff_forall_ne_some]
  rintro ⟨first, after⟩ read
  obtain ⟨inside, later, split, -⟩ := readString_eq_some.mp read
  exact differs (List.cons.inj split).1

theorem readBoolean_refuses {symbol : Char} (notTrue : symbol ≠ 't') (notFalse : symbol ≠ 'f')
    (rest : List Char) : firstOf [readWord "true", readWord "false"] (symbol :: rest) = none := by
  have spelledTrue : "true".toList = 't' :: ['r', 'u', 'e'] := rfl
  have spelledFalse : "false".toList = 'f' :: ['a', 'l', 's', 'e'] := rfl
  simp [firstOf, readWord_refuses spelledTrue notTrue, readWord_refuses spelledFalse notFalse]

theorem readNull_refuses {symbol : Char} (differs : symbol ≠ 'n') (rest : List Char) :
    readWord "null" (symbol :: rest) = none := by
  have spelled : "null".toList = 'n' :: ['u', 'l', 'l'] := rfl
  exact readWord_refuses spelled differs rest

theorem readDayDigits_starts {text first rest : List Char}
    (read : readDayDigits text = some (first, rest)) :
    ∃ symbol more, first = symbol :: more ∧ isDigit symbol = true := by
  obtain ⟨year, later, rfl, length, every, -⟩ := twoHyphens read
  obtain ⟨symbol, more, rfl⟩ := List.exists_cons_of_length_pos (by omega : 0 < year.length)
  exact ⟨symbol, more ++ '-' :: later, rfl, every symbol List.mem_cons_self⟩

theorem readInstant_starts {text first rest : List Char}
    (read : readInstant text = some (first, rest)) :
    ∃ symbol more, first = symbol :: more ∧ isDigit symbol = true := by
  obtain ⟨day, later, _, readDay, -, rfl⟩ := inSequence_cons_eq_some.mp read
  obtain ⟨symbol, more, rfl, isDigit⟩ := readDayDigits_starts readDay
  exact ⟨symbol, more ++ later, rfl, isDigit⟩

theorem readGuid_front {text first rest : List Char} (read : readGuid text = some (first, rest))
    {index : Nat} (inFront : index < 8) {symbol : Char} (stands : text[index]? = some symbol) :
    isHexDigit symbol = true := by
  obtain ⟨start, later, rfl, length, every, -⟩ := twoHyphens read
  rw [resumes_readGuid.split read, List.append_assoc,
    List.getElem?_append_left (by omega)] at stands
  exact every symbol (List.mem_of_getElem? stands)

theorem readDayDigits_refuses_guid {text first rest : List Char}
    (read : readGuid text = some (first, rest)) : readDayDigits text = none := by
  rw [Option.eq_none_iff_forall_ne_some]
  rintro ⟨day, after⟩ readDay
  have stands : text[4]? = some '-' := by
    obtain ⟨year, later, rfl, length, -⟩ := twoHyphens readDay
    rw [resumes_readDayDigits.split readDay, List.append_assoc,
      List.getElem?_append_right (by omega), length]
    rfl
  have isHex := readGuid_front read (by decide) stands
  revert isHex
  decide

theorem readBoolean_refuses_guid {text first rest : List Char}
    (read : readGuid text = some (first, rest)) :
    firstOf [readWord "true", readWord "false"] text = none := by
  rw [Option.eq_none_iff_forall_ne_some]
  rintro ⟨word, after⟩ readWords
  rcases firstOf_pair_eq_some.mp readWords with readTrue | ⟨-, readFalse⟩
  · have stands : text[0]? = some 't' := by
      rw [(readKeyword_eq_some.mp (readWord_eq_some.mp readTrue).2).1]
      rfl
    have isHex := readGuid_front read (by decide) stands
    revert isHex
    decide
  · have stands : text[2]? = some 'l' := by
      rw [(readKeyword_eq_some.mp (readWord_eq_some.mp readFalse).2).1]
      rfl
    have isHex := readGuid_front read (by decide) stands
    revert isHex
    decide

theorem ne_of_isDigit {symbol other : Char} (digit : isDigit symbol = true)
    (notDigit : isDigit other = false) : symbol ≠ other := by
  rintro rfl
  rw [notDigit] at digit
  cases digit

/-- The alternatives for a literal one after another. -/
theorem readLiteral_eq (text : List Char) :
    readLiteral text =
      ((readWord "null" text).map fun read => (EdmType.null, read.1, read.2)).or
        (((firstOf [readWord "true", readWord "false"] text).map
            fun read => (EdmType.boolean, read.1, read.2)).or
          (((readInstant text).map fun read => (EdmType.dateTimeOffset, read.1, read.2)).or
            (((readDate text).map fun read => (EdmType.date, read.1, read.2)).or
              (((readGuid text).map fun read => (EdmType.guid, read.1, read.2)).or
                (((readDuration text).map fun read =>
                    (EdmType.duration, read.1.drop "duration".length, read.2)).or
                  (((readString text).map fun read => (EdmType.string, read.1, read.2)).or
                    ((readNumber text).map fun read =>
                      (numberType read.1, read.1, read.2)))))))) := by
  simp only [readLiteral, Option.orElse_eq_orElse, Option.orElse_eq_or]

theorem readWords_refuse_digit {symbol : Char} (digit : isDigit symbol = true)
    (rest : List Char) : readWord "null" (symbol :: rest) = none ∧
      firstOf [readWord "true", readWord "false"] (symbol :: rest) = none :=
  ⟨readNull_refuses (ne_of_isDigit digit (by decide)) rest,
    readBoolean_refuses (ne_of_isDigit digit (by decide)) (ne_of_isDigit digit (by decide)) rest⟩

/-! ## Reading a literal from a longer text

Each kind of literal is read from every text that goes on after it with a stop: the alternatives
before it refuse the text. -/

section Stops

variable {raw tail : List Char} (stops : AfterToken tail)

include stops

theorem endsWord_of_stop : endsWord tail = true :=
  endsWord_iff.mpr (stops.imp fun _ stop => (isStop_apart stop).2.1)

theorem notQuoted_of_stop : GoesOn (fun symbol => symbol ≠ '\'') tail := by
  refine stops.imp fun symbol stop => ?_
  rintro rfl
  revert stop
  decide

theorem readWord_of_stop (word : String) :
    readWord word (word.toList ++ tail) = some (word.toList, tail) :=
  readWord_eq_some.mpr ⟨rfl, readKeyword_eq_some.mpr ⟨rfl, endsWord_of_stop stops⟩⟩

theorem readLiteral_null :
    readLiteral (literalText .null "null".toList ++ tail) = some (.null, "null".toList, tail) := by
  rw [readLiteral_eq, literalText_of_ne (by decide), readWord_of_stop stops, Option.map_some,
    Option.some_or]

theorem readLiteral_true :
    readLiteral (literalText .boolean "true".toList ++ tail) =
      some (.boolean, "true".toList, tail) := by
  have boolean : firstOf [readWord "true", readWord "false"] ("true".toList ++ tail) =
      some ("true".toList, tail) :=
    firstOf_pair_eq_some.mpr (Or.inl (readWord_of_stop stops "true"))
  have notNull : readWord "null" ("true".toList ++ tail) = none := readNull_refuses (by decide) _
  rw [readLiteral_eq, literalText_of_ne (by decide), notNull, boolean]
  rfl

theorem readLiteral_false :
    readLiteral (literalText .boolean "false".toList ++ tail) =
      some (.boolean, "false".toList, tail) := by
  have spelled : "true".toList = 't' :: ['r', 'u', 'e'] := rfl
  have notTrue : readWord "true" ("false".toList ++ tail) = none :=
    readWord_refuses spelled (by decide) _
  have boolean : firstOf [readWord "true", readWord "false"] ("false".toList ++ tail) =
      some ("false".toList, tail) :=
    firstOf_pair_eq_some.mpr (Or.inr ⟨notTrue, readWord_of_stop stops "false"⟩)
  have notNull : readWord "null" ("false".toList ++ tail) = none := readNull_refuses (by decide) _
  rw [readLiteral_eq, literalText_of_ne (by decide), notNull, boolean]
  rfl

theorem readLiteral_instant (whole : readInstant raw = some (raw, [])) :
    readLiteral (literalText .dateTimeOffset raw ++ tail) = some (.dateTimeOffset, raw, tail) := by
  have again := resumes_readInstant.again whole (stops.imp fun _ _ => trivial)
  obtain ⟨symbol, more, rfl, digit⟩ := readInstant_starts whole
  obtain ⟨notNull, notBoolean⟩ := readWords_refuse_digit digit (more ++ tail)
  rw [List.cons_append] at again
  rw [readLiteral_eq, literalText_of_ne (by decide), List.cons_append, notNull, notBoolean, again]
  rfl

theorem readLiteral_date (whole : readDayDigits raw = some (raw, [])) :
    readLiteral (literalText .date raw ++ tail) = some (.date, raw, tail) := by
  have again := resumes_readDayDigits.again whole (stops.imp fun _ _ => trivial)
  have date := readDate_eq_some.mpr ⟨again, endsWord_of_stop stops⟩
  have notInstant : readInstant (raw ++ tail) = none := by
    have noTime : readSymbol 'T' tail = none := readSymbol_goesOn (by decide) stops
    simp [readInstant, inSequence, again, noTime]
  obtain ⟨symbol, more, rfl, digit⟩ := readDayDigits_starts whole
  obtain ⟨notNull, notBoolean⟩ := readWords_refuse_digit digit (more ++ tail)
  rw [List.cons_append] at notInstant date
  rw [readLiteral_eq, literalText_of_ne (by decide), List.cons_append, notNull, notBoolean,
    notInstant, date]
  rfl

theorem readLiteral_guid (whole : readGuid raw = some (raw, [])) :
    readLiteral (literalText .guid raw ++ tail) = some (.guid, raw, tail) := by
  have again := resumes_readGuid.again whole (stops.imp fun _ _ => trivial)
  have noDay := readDayDigits_refuses_guid again
  have notNull : readWord "null" (raw ++ tail) = none := by
    rw [Option.eq_none_iff_forall_ne_some]
    rintro ⟨word, after⟩ readNull
    have stands : (raw ++ tail)[0]? = some 'n' := by
      rw [(readKeyword_eq_some.mp (readWord_eq_some.mp readNull).2).1]
      rfl
    have isHex := readGuid_front again (by decide) stands
    revert isHex
    decide
  rw [readLiteral_eq, literalText_of_ne (by decide), notNull, readBoolean_refuses_guid again,
    readInstant_refuses noDay, readDate_refuses noDay, again]
  rfl

theorem readLiteral_duration (whole : readString raw = some (raw, [])) :
    readLiteral (literalText .duration raw ++ tail) = some (.duration, raw, tail) := by
  have again := resumes_readString.again whole (notQuoted_of_stop stops)
  have duration : readDuration ('d' :: ("uration".toList ++ (raw ++ tail))) =
      some ("duration".toList ++ raw, tail) :=
    readDuration_eq_some.mpr ⟨raw, raw ++ tail, rfl, rfl, again⟩
  have text : literalText .duration raw ++ tail = 'd' :: ("uration".toList ++ (raw ++ tail)) := by
    rw [literalText, if_pos rfl, List.append_assoc]
    rfl
  have noDay : readDayDigits ('d' :: ("uration".toList ++ (raw ++ tail))) = none :=
    readDayDigits_refuses (by decide) _
  have noGuid : readGuid ('d' :: ("uration".toList ++ (raw ++ tail))) = none := by
    have run : readRun 8 isHexDigit (['d'] ++ 'u' :: ("ration".toList ++ (raw ++ tail))) = none :=
      readRun_refuses (by decide) (by decide) _
    exact inSequence_refuses run _
  have dropped : ("duration".toList ++ raw).drop "duration".length = raw := List.drop_left' rfl
  rw [readLiteral_eq, text, readNull_refuses (by decide : 'd' ≠ 'n'),
    readBoolean_refuses (by decide : 'd' ≠ 't') (by decide), readInstant_refuses noDay,
    readDate_refuses noDay, noGuid, duration]
  simp only [dropped, Option.map_none, Option.none_or, Option.map_some, Option.some_or]

theorem readLiteral_string (whole : readString raw = some (raw, [])) :
    readLiteral (literalText .string raw ++ tail) = some (.string, raw, tail) := by
  have again := resumes_readString.again whole (notQuoted_of_stop stops)
  obtain ⟨inside, later, rfl, -, -⟩ := readString_eq_some.mp whole
  have noDay : readDayDigits ('\'' :: (later ++ tail)) = none :=
    readDayDigits_refuses (by decide) _
  have noGuid : readGuid ('\'' :: (later ++ tail)) = none := by
    have run : readRun 8 isHexDigit ([] ++ '\'' :: (later ++ tail)) = none :=
      readRun_refuses (by decide) (by decide) _
    exact inSequence_refuses run _
  rw [List.cons_append] at again
  rw [readLiteral_eq, literalText_of_ne (by decide), List.cons_append,
    readNull_refuses (by decide : '\'' ≠ 'n'), readBoolean_refuses (by decide : '\'' ≠ 't')
      (by decide), readInstant_refuses noDay, readDate_refuses noDay, noGuid,
    readDuration_refuses (by decide : '\'' ≠ 'd'), again]
  rfl

theorem readLiteral_number (whole : readNumber raw = some (raw, [])) :
    readLiteral (literalText (numberType raw) raw ++ tail) = some (numberType raw, raw, tail) := by
  have again := resumes_readNumber.again whole stops
  have noDay : readDayDigits (raw ++ tail) = none := by
    rw [Option.eq_none_iff_forall_ne_some]
    rintro ⟨first, rest⟩ readDay
    obtain ⟨start, later, shape, length, -, second⟩ := twoHyphens readDay
    exact number_not_hyphenated whole passesStops_readDayDigits resumes_readDayDigits stops
      readDay shape (List.ne_nil_of_length_pos (by omega)) second
  have noGuid : readGuid (raw ++ tail) = none := by
    rw [Option.eq_none_iff_forall_ne_some]
    rintro ⟨first, rest⟩ readGuid
    obtain ⟨start, later, shape, length, -, second⟩ := twoHyphens readGuid
    exact number_not_hyphenated whole passesStops_readGuid resumes_readGuid stops
      readGuid shape (List.ne_nil_of_length_pos (by omega)) second
  have noInstant := readInstant_refuses noDay
  have noDate := readDate_refuses noDay
  have text := literalText_of_ne (numberType_ne_duration raw) raw
  obtain ⟨symbol, more, rfl, starts⟩ := readNumber_starts whole
  have apart : ∀ other ∈ ['n', 't', 'f', 'd', '\''], symbol ≠ other := by
    rcases starts with rfl | rfl | digit
    · simp
    · simp
    · have noDigits : ∀ other ∈ ['n', 't', 'f', 'd', '\''], isDigit other = false := by
        simp [isDigit]
      exact fun other member => ne_of_isDigit digit (noDigits other member)
  simp only [List.forall_mem_cons, List.not_mem_nil] at apart
  obtain ⟨notN, notT, notF, notD, notQuote, -⟩ := apart
  rw [List.cons_append] at noInstant noDate noGuid again
  rw [readLiteral_eq, text, List.cons_append, readNull_refuses notN,
    readBoolean_refuses notT notF, noInstant, noDate, noGuid, readDuration_refuses notD,
    readString_refuses notQuote, again]
  rfl

theorem readLiteral_complete {type : EdmType} (literal : IsLiteral type raw) :
    readLiteral (literalText type raw ++ tail) = some (type, raw, tail) := by
  cases literal with
  | null => exact readLiteral_null stops
  | true => exact readLiteral_true stops
  | false => exact readLiteral_false stops
  | instant whole => exact readLiteral_instant stops whole
  | date whole => exact readLiteral_date stops whole
  | guid whole => exact readLiteral_guid stops whole
  | duration whole => exact readLiteral_duration stops whole
  | string whole => exact readLiteral_string stops whole
  | number whole => exact readLiteral_number stops whole

end Stops

end EntityQuery.Query
