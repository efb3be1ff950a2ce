import EntityQuery.Proofs.Query.LiteralReading
import EntityQuery.Query.Parser

/-!
# Names beside literals

Which of the two an operand is.  A name that is no literal is not the start of one either, and what
follows the name that a literal starts with does not make it a call.
-/

set_option autoImplicit false

namespace EntityQuery.Query

open Decimal (isDigit)
open Text (goesOn_cons)

/-- The names that are read as literals. -/
def reserved : List (List Char) :=
  ["null".toList, "true".toList, "false".toList, "INF".toList]

theorem isNameStart_apart {symbol : Char} (starts : isNameStart symbol = true) :
    isDigit symbol = false ∧ isSpace symbol = false ∧ symbol ≠ '(' := by
  refine ⟨?_, ?_, ?_⟩
  · rw [Bool.eq_false_iff]
    intro digit
    simp only [isNameStart, isLetter, isDigit, Bool.or_eq_true, Bool.and_eq_true,
      decide_eq_true_eq, beq_iff_eq, Char.le_def, UInt32.le_iff_toNat_le] at starts digit
    rcases starts with (small | capital) | rfl
    · have least : (97 : Nat) ≤ symbol.val.toNat := small.1
      have most : symbol.val.toNat ≤ 57 := digit.2
      omega
    · have least : (65 : Nat) ≤ symbol.val.toNat := capital.1
      have most : symbol.val.toNat ≤ 57 := digit.2
      omega
    · exact absurd digit.2 (by decide)
  · rw [Bool.eq_false_iff]
    intro space
    simp only [isSpace, Bool.or_eq_true, beq_iff_eq] at space
    rcases space with ((rfl | rfl) | rfl) | rfl <;> revert starts <;> decide
  · rintro rfl
    revert starts
    decide

theorem readLiteral_eq_none {text : List Char} :
    readLiteral text = none ↔
      readWord "null" text = none ∧ firstOf [readWord "true", readWord "false"] text = none ∧
        readInstant text = none ∧ readDate text = none ∧ readGuid text = none ∧
        readDuration text = none ∧ readString text = none ∧ readNumber text = none := by
  simp only [readLiteral_eq, Option.or_eq_none_iff, Option.map_eq_none_iff]

theorem readLiteral_reserved {name rest : List Char} (taken : name ∈ reserved)
    (ends : endsWord rest = true) : readLiteral (name ++ rest) ≠ none := by
  have word (word : String) : readWord word (word.toList ++ rest) = some (word.toList, rest) :=
    readWord_eq_some.mpr ⟨rfl, readKeyword_eq_some.mpr ⟨rfl, ends⟩⟩
  rw [ne_eq, readLiteral_eq_none]
  rintro ⟨null, boolean, -, -, -, -, -, number⟩
  simp only [reserved, List.mem_cons, List.not_mem_nil, or_false] at taken
  rcases taken with rfl | rfl | rfl | rfl
  · rw [word] at null
    cases null
  · rw [firstOf_pair_eq_some.mpr (Or.inl (word "true"))] at boolean
    cases boolean
  · cases readTrue : readWord "true" ("false".toList ++ rest) with
    | some read =>
        rw [firstOf_pair_eq_some.mpr (Or.inl readTrue)] at boolean
        cases boolean
    | none =>
        rw [firstOf_pair_eq_some.mpr (Or.inr ⟨readTrue, word "false"⟩)] at boolean
        cases boolean
  · have magnitude : readMagnitude ("INF".toList ++ rest) = some ("INF".toList, rest) :=
      firstOf_pair_eq_some.mpr (Or.inl (word "INF"))
    have unsigned : optionally (readSymbol '-') ("INF".toList ++ rest) =
        some ([], "INF".toList ++ rest) :=
      optionally_eq_some.mpr (Or.inr ⟨readSymbol_refuses (by decide) _, rfl, rfl⟩)
    have whole : readNumber ("INF".toList ++ rest) = some ([] ++ ("INF".toList ++ []), rest) :=
      inSequence_cons_eq_some.mpr ⟨_, _, _, unsigned, inSequence_cons_eq_some.mpr
        ⟨_, _, _, magnitude, inSequence_nil_eq_some.mpr ⟨rfl, rfl⟩, rfl⟩, rfl⟩
    rw [whole] at number
    cases number

theorem readNumber_refuses {symbol : Char} {rest : List Char} (notDigit : isDigit symbol = false)
    (notMinus : symbol ≠ '-') (notInfinite : readWord "INF" (symbol :: rest) = none) :
    readNumber (symbol :: rest) = none := by
  have unsigned : optionally (readSymbol '-') (symbol :: rest) = some ([], symbol :: rest) :=
    optionally_eq_some.mpr (Or.inr ⟨readSymbol_refuses notMinus _, rfl, rfl⟩)
  have noDigits : readDigits (symbol :: rest) = none := by
    simp [readDigits, notDigit]
  rw [Option.eq_none_iff_forall_ne_some]
  rintro ⟨first, finish⟩ read
  obtain ⟨sign, finish, middle, readSign, afterSign, -⟩ := inSequence_cons_eq_some.mp read
  rw [unsigned] at readSign
  cases readSign
  obtain ⟨magnitude, finish, middle, readMagnitude, -⟩ := inSequence_cons_eq_some.mp afterSign
  rcases firstOf_pair_eq_some.mp readMagnitude with word | ⟨-, digits⟩
  · rw [notInfinite] at word
    cases word
  · rw [inSequence_refuses noDigits] at digits
    cases digits

/-- A literal starts with a hexadecimal digit, a letter of a word, a quote or a minus. -/
theorem readLiteral_refuses {symbol : Char} {rest : List Char}
    (notNull : readWord "null" (symbol :: rest) = none) (notHex : isHexDigit symbol = false)
    (others : symbol ∉ ['t', '\'', '-', 'I']) : readLiteral (symbol :: rest) = none := by
  have notDigit : isDigit symbol = false := by
    simp only [isHexDigit, Bool.or_eq_false_iff] at notHex
    exact notHex.1.1
  have hexLetters : ∀ letter ∈ ['d', 'f'], isHexDigit letter = true :=
    List.all_eq_true.mp (by decide)
  have apart : ∀ letter ∈ ['d', 'f'], symbol ≠ letter := by
    rintro letter member rfl
    rw [hexLetters symbol member] at notHex
    cases notHex
  simp only [List.mem_cons, List.not_mem_nil, or_false, not_or] at others
  obtain ⟨notT, notQuote, notMinus, notI⟩ := others
  have noDay := readDayDigits_refuses notDigit rest
  have run : readRun 8 isHexDigit ([] ++ symbol :: rest) = none :=
    readRun_refuses (by decide) notHex rest
  have notInfinite : readWord "INF" (symbol :: rest) = none :=
    readWord_refuses (rfl : "INF".toList = 'I' :: ['N', 'F']) notI rest
  exact readLiteral_eq_none.mpr ⟨notNull, readBoolean_refuses notT (apart 'f' (by simp)) rest,
    readInstant_refuses noDay, readDate_refuses noDay, inSequence_refuses run _,
    readDuration_refuses (apart 'd' (by simp)) rest, readString_refuses notQuote rest,
    readNumber_refuses notDigit notMinus notInfinite⟩

theorem readLiteral_nil : readLiteral [] = none := by decide

theorem readLiteral_not {text after : List Char} (keyword : readKeyword "not" text = some after) :
    readLiteral text = none := by
  obtain ⟨rfl, -⟩ := readKeyword_eq_some.mp keyword
  have notNull : readWord "null" ('n' :: ('o' :: 't' :: after)) = none := by
    rw [Option.eq_none_iff_forall_ne_some]
    rintro ⟨word, rest⟩ null
    have split := (readKeyword_eq_some.mp (readWord_eq_some.mp null).2).1
    have second : 'o' = 'u' := (List.cons.inj (List.cons.inj split).2).1
    exact absurd second (by decide)
  exact readLiteral_refuses notNull (by decide) (by decide)

theorem readName_refuses {symbol : Char} (notStart : isNameStart symbol = false)
    (rest : List Char) : readName (symbol :: rest) = none := by
  simp [readName, notStart]

theorem not_isNameStart_of_digit {symbol : Char} (digit : isDigit symbol = true) :
    isNameStart symbol = false := by
  rw [Bool.eq_false_iff]
  intro starts
  rw [(isNameStart_apart starts).1] at digit
  cases digit

theorem isNameSymbol_of_hex {symbol : Char} (hex : isHexDigit symbol = true) :
    isNameSymbol symbol = true := by
  simp only [isHexDigit, isNameSymbol, isLetter, Bool.or_eq_true, Bool.and_eq_true,
    decide_eq_true_eq] at hex ⊢
  rcases hex with (digit | small) | capital
  · exact Or.inl (Or.inr digit)
  · exact Or.inl (Or.inl (Or.inl ⟨small.1, Char.le_trans small.2 (by decide : 'f' ≤ 'z')⟩))
  · exact Or.inl (Or.inl (Or.inr ⟨capital.1, Char.le_trans capital.2 (by decide : 'F' ≤ 'Z')⟩))

theorem isName_reserved {name : List Char} (taken : name ∈ reserved) : IsName name := by
  simp only [reserved, List.mem_cons, List.not_mem_nil, or_false] at taken
  rcases taken with rfl | rfl | rfl | rfl <;> decide

theorem readWord_name {word : String} {name tail : List Char} (isName : IsName name)
    (isWord : word.toList ∈ reserved) (free : name ∉ reserved) (ends : endsWord tail = true) :
    readWord word (name ++ tail) = none := by
  have differs : name ≠ word.toList := by
    rintro rfl
    exact free isWord
  rw [readWord, readKeyword_name isName (isName_reserved isWord) ends differs]
  rfl

section Names

variable {name tail : List Char} (isName : IsName name) (stops : AfterToken tail)

include isName stops

theorem readGuid_name : readGuid (name ++ tail) = none := by
  rw [Option.eq_none_iff_forall_ne_some]
  rintro ⟨first, rest⟩ read
  obtain ⟨more, rfl⟩ := prefix_of_passesStops passesStops_readGuid resumes_readGuid stops read
  obtain ⟨start, later, rfl, -⟩ := twoHyphens read
  have symbol := isName.every '-' (by simp)
  revert symbol
  decide

/-- The word of a duration is followed by a quote, which ends no token. -/
theorem readDuration_name : readDuration (name ++ tail) = none := by
  rw [Option.eq_none_iff_forall_ne_some]
  rintro ⟨first, rest⟩ read
  obtain ⟨inside, later, split, -, string⟩ := readDuration_eq_some.mp read
  obtain ⟨others, after, rfl, -⟩ := readString_eq_some.mp string
  have asName := readName_eq_some.mpr ⟨rfl, isName, endsWord_of_stop stops⟩
  have asWord : readName (name ++ tail) = some ("duration".toList, '\'' :: after) :=
    readName_eq_some.mpr ⟨split, by decide, rfl⟩
  rw [asName] at asWord
  cases asWord
  exact absurd (goesOn_cons.mp stops) (by decide)

theorem readLiteral_name (free : name ∉ reserved) : readLiteral (name ++ tail) = none := by
  have notWord : ∀ word : String, word.toList ∈ reserved → readWord word (name ++ tail) = none :=
    fun word isWord => readWord_name isName isWord free (endsWord_of_stop stops)
  have notNull := notWord "null" (by simp [reserved])
  have notTrue := notWord "true" (by simp [reserved])
  have notFalse := notWord "false" (by simp [reserved])
  have notInfinite := notWord "INF" (by simp [reserved])
  have notGuid := readGuid_name isName stops
  have notDuration := readDuration_name isName stops
  cases name with
  | nil => exact False.elim isName
  | cons symbol more =>
      have notDigit := (isNameStart_apart isName.1).1
      have noDay := readDayDigits_refuses notDigit (more ++ tail)
      have notQuote : symbol ≠ '\'' := by
        rintro rfl
        exact absurd isName.1 (by decide)
      have notMinus : symbol ≠ '-' := by
        rintro rfl
        exact absurd isName.1 (by decide)
      rw [List.cons_append] at notTrue notFalse
      refine readLiteral_eq_none.mpr ⟨notNull, ?_, readInstant_refuses noDay,
        readDate_refuses noDay, notGuid, notDuration, readString_refuses notQuote _,
        readNumber_refuses notDigit notMinus notInfinite⟩
      simp [firstOf, notTrue, notFalse]

end Names

/-- How a text begins with a name: not at all, as a whole, or up to a hyphen or a quote. -/
inductive NameInFront : List Char → Prop
  | absent {symbol : Char} {more : List Char} (notStart : isNameStart symbol = false) :
      NameInFront (symbol :: more)
  | whole {name : List Char} (isName : IsName name) : NameInFront name
  | before {name more : List Char} {symbol : Char} (isName : IsName name)
      (mark : symbol = '-' ∨ symbol = '\'') : NameInFront (name ++ symbol :: more)

theorem NameInFront.guid {raw : List Char} (whole : readGuid raw = some (raw, [])) :
    NameInFront raw := by
  obtain ⟨start, later, rfl, length, hex, -⟩ := twoHyphens whole
  obtain ⟨symbol, more, rfl⟩ := List.exists_cons_of_length_pos (by omega : 0 < start.length)
  cases starts : isNameStart symbol with
  | false => exact .absent starts
  | true =>
      have isName : IsName (symbol :: more) :=
        ⟨starts, fun next member =>
          isNameSymbol_of_hex (hex next (List.mem_cons_of_mem _ member))⟩
      exact .before isName (Or.inl rfl)

theorem NameInFront.number {raw : List Char} (whole : readNumber raw = some (raw, [])) :
    NameInFront raw := by
  obtain ⟨sign, _, _, readSign, afterSign, split⟩ := inSequence_cons_eq_some.mp whole
  obtain ⟨magnitude, last, _, readMagnitude, readLast, rfl⟩ :=
    inSequence_cons_eq_some.mp afterSign
  obtain ⟨rfl, -⟩ := inSequence_nil_eq_some.mp readLast
  rw [List.append_nil] at split
  subst split
  rcases optionally_eq_some.mp readSign with present | ⟨-, rfl, -⟩
  · obtain ⟨rfl, -⟩ := readSymbol_eq_some.mp present
    exact .absent (by decide)
  · rcases readMagnitude_starts readMagnitude with rfl | ⟨symbol, more, rfl, digit⟩
    · exact .whole (by decide)
    · exact .absent (not_isNameStart_of_digit digit)

theorem NameInFront.literal {type : EdmType} {raw : List Char} (literal : IsLiteral type raw) :
    NameInFront (literalText type raw) := by
  cases literal with
  | null => exact .whole (by decide)
  | true => exact .whole (by decide)
  | false => exact .whole (by decide)
  | instant whole =>
      obtain ⟨symbol, more, rfl, digit⟩ := readInstant_starts whole
      exact .absent (not_isNameStart_of_digit digit)
  | date whole =>
      obtain ⟨symbol, more, rfl, digit⟩ := readDayDigits_starts whole
      exact .absent (not_isNameStart_of_digit digit)
  | guid whole => exact .guid whole
  | duration whole =>
      obtain ⟨inside, later, rfl, -⟩ := readString_eq_some.mp whole
      have word : NameInFront ("duration".toList ++ '\'' :: later) :=
        .before (by decide) (Or.inr rfl)
      exact word
  | string whole =>
      obtain ⟨inside, later, rfl, -⟩ := readString_eq_some.mp whole
      exact .absent (by decide)
  | number whole =>
      rw [literalText_of_ne (numberType_ne_duration raw)]
      exact .number whole

/-- A literal is not called: the name in front of it ends before a hyphen or a quote, or is the
whole literal. -/
theorem literal_not_called {type : EdmType} {raw tail name rest : List Char}
    (literal : IsLiteral type raw) (ends : endsWord tail = true)
    (noCall : readExact ['('] (skipSpace tail) = none)
    (named : readName (literalText type raw ++ tail) = some (name, rest)) :
    readExact ['('] (skipSpace rest) = none := by
  have front := NameInFront.literal literal
  generalize literalText type raw = text at named front
  cases front with
  | absent notStart =>
      rw [List.cons_append, readName_refuses notStart] at named
      cases named
  | whole isName =>
      rw [readName_eq_some.mpr ⟨rfl, isName, ends⟩] at named
      cases named
      exact noCall
  | @before front more symbol isName mark =>
      have wordEnds : endsWord (symbol :: (more ++ tail)) = true := by
        rcases mark with rfl | rfl <;> rfl
      rw [List.append_assoc, List.cons_append,
        readName_eq_some.mpr ⟨rfl, isName, wordEnds⟩] at named
      cases named
      rcases mark with rfl | rfl <;> rfl

end EntityQuery.Query
