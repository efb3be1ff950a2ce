import EntityQuery.Proofs.Query.Token
import Mathlib.Tactic.Common

/-!
# Literals among tokens

The forms of literals, and that what is read as a literal has one of the forms and is read from
every other text that goes on after it as a token may.
-/

set_option autoImplicit false

namespace EntityQuery.Query

open Decimal (isDigit)
open Text (GoesOn goesOn_cons)

/-- The characters that stand after a token in a text that has its tokens apart. -/
def isStop (symbol : Char) : Bool := symbol == ' ' || symbol == ',' || symbol == ')'

abbrev AfterToken (text : List Char) : Prop := GoesOn (fun symbol => isStop symbol = true) text

theorem isStop_iff {symbol : Char} :
    isStop symbol = true ↔ symbol = ' ' ∨ symbol = ',' ∨ symbol = ')' := by
  simp [isStop, or_assoc]

theorem resumes_readDayDigits : Resumes (fun _ => True) readDayDigits :=
  (resumes_readRun 4 isDigit).consFree <| (resumes_readSymbol '-').consFree <|
    (resumes_readRun 2 isDigit).consFree <| (resumes_readSymbol '-').consFree <|
      (resumes_readRun 2 isDigit).consFree Resumes.nil

theorem resumes_readGuid : Resumes (fun _ => True) readGuid :=
  (resumes_readRun 8 isHexDigit).consFree <| (resumes_readSymbol '-').consFree <|
    (resumes_readRun 4 isHexDigit).consFree <| (resumes_readSymbol '-').consFree <|
      (resumes_readRun 4 isHexDigit).consFree <| (resumes_readSymbol '-').consFree <|
        (resumes_readRun 4 isHexDigit).consFree <| (resumes_readSymbol '-').consFree <|
          (resumes_readRun 12 isHexDigit).consFree Resumes.nil

theorem resumes_readSign : Resumes (fun _ => True) readSign := by
  refine (resumes_readSymbol '+').firstOf (resumes_readSymbol '-') ?_
  intro text first rest read tail
  obtain ⟨rfl, -⟩ := readSymbol_eq_some.mp read
  rfl

theorem readSign_eq {text first rest : List Char} (read : readSign text = some (first, rest)) :
    first = ['+'] ∨ first = ['-'] := by
  rcases firstOf_pair_eq_some.mp read with plus | ⟨-, minus⟩
  · exact Or.inl (readSymbol_eq_some.mp plus).1
  · exact Or.inr (readSymbol_eq_some.mp minus).1

theorem resumes_readOffset : Resumes (fun _ => True) readOffset := by
  refine (resumes_readSymbol 'Z').firstOf (resumes_readSign.consFree <|
    (resumes_readRun 2 isDigit).consFree <| (resumes_readSymbol ':').consFree <|
      (resumes_readRun 2 isDigit).consFree Resumes.nil) ?_
  intro text first rest read tail
  obtain ⟨sign, later, middle, readSign, -, rfl⟩ := inSequence_cons_eq_some.mp read
  rcases readSign_eq readSign with rfl | rfl <;> rfl

theorem readOffset_starts {text first rest : List Char}
    (read : readOffset text = some (first, rest)) :
    ∃ symbol more, first = symbol :: more ∧ (symbol = 'Z' ∨ symbol = '+' ∨ symbol = '-') := by
  rcases firstOf_pair_eq_some.mp read with universal | ⟨-, shifted⟩
  · obtain ⟨rfl, -⟩ := readSymbol_eq_some.mp universal
    exact ⟨'Z', [], rfl, Or.inl rfl⟩
  · obtain ⟨sign, later, middle, readSign, -, rfl⟩ := inSequence_cons_eq_some.mp shifted
    rcases readSign_eq readSign with rfl | rfl
    · exact ⟨'+', later, rfl, Or.inr (Or.inl rfl)⟩
    · exact ⟨'-', later, rfl, Or.inr (Or.inr rfl)⟩

theorem inSequence_refuses {reader : List Char → Lexeme} {text : List Char}
    (refuses : reader text = none) (readers : List (List Char → Lexeme)) :
    inSequence (reader :: readers) text = none := by
  simp [inSequence, refuses]

theorem readSymbol_goesOn {symbol : Char} {allowed : Char → Prop} (notAllowed : ¬ allowed symbol)
    {tail : List Char} (goesOn : GoesOn allowed tail) : readSymbol symbol tail = none := by
  cases tail with
  | nil => rfl
  | cons next rest =>
      refine readSymbol_refuses ?_ rest
      rintro rfl
      exact notAllowed (goesOn_cons.mp goesOn)

theorem resumes_readFraction : Resumes (fun symbol => isDigit symbol = false) readFraction :=
  (resumes_readSymbol '.').consFree resumes_readDigits.last

theorem resumes_optionally_readFraction :
    Resumes (fun symbol => isDigit symbol = false ∧ symbol ≠ '.') (optionally readFraction) := by
  refine (resumes_readFraction.weaken fun symbol allowed => allowed.1).optionally ?_
  intro tail goesOn
  exact inSequence_refuses (readSymbol_goesOn (fun allowed => allowed.2 rfl) goesOn) _

theorem resumes_readSeconds :
    Resumes (fun symbol => isDigit symbol = false ∧ symbol ≠ '.') readSeconds :=
  (resumes_readSymbol ':').consFree <| (resumes_readRun 2 isDigit).consFree
    resumes_optionally_readFraction.last

/-- An offset ends the seconds before it, so nothing after an instant matters to it. -/
theorem resumes_readInstant : Resumes (fun _ => True) readInstant := by
  have seconds : Resumes
      (fun symbol => isDigit symbol = false ∧ symbol ≠ '.' ∧ symbol ≠ ':')
      (optionally readSeconds) := by
    refine (resumes_readSeconds.weaken fun symbol allowed => ⟨allowed.1, allowed.2.1⟩).optionally ?_
    exact fun tail goesOn =>
      inSequence_refuses (readSymbol_goesOn (fun allowed => allowed.2.2 rfl) goesOn) _
  have ending : Resumes (fun _ => True) (inSequence [optionally readSeconds, readOffset]) := by
    refine seconds.cons (resumes_readOffset.consFree Resumes.nil) ?_
    intro text second rest read tail _
    obtain ⟨offset, later, middle, readOffset, -, rfl⟩ := inSequence_cons_eq_some.mp read
    obtain ⟨symbol, more, rfl, starts⟩ := readOffset_starts readOffset
    rw [List.cons_append, List.cons_append, goesOn_cons]
    rcases starts with rfl | rfl | rfl <;> decide
  exact resumes_readDayDigits.consFree <| (resumes_readSymbol 'T').consFree <|
    (resumes_readRun 2 isDigit).consFree <| (resumes_readSymbol ':').consFree <|
      (resumes_readRun 2 isDigit).consFree ending

/-! ## Numbers -/

theorem isStop_apart {symbol : Char} (stop : isStop symbol = true) :
    isDigit symbol = false ∧ isNameSymbol symbol = false ∧ isHexDigit symbol = false ∧
      symbol ≠ '-' ∧ symbol ≠ '.' := by
  rcases isStop_iff.mp stop with rfl | rfl | rfl <;> decide

theorem not_isDigit_of_stop {symbol : Char} (stop : isStop symbol = true) :
    isDigit symbol = false := (isStop_apart stop).1

theorem readLetter_eq {text first rest : List Char}
    (read : firstOf [readSymbol 'e', readSymbol 'E'] text = some (first, rest)) :
    first = ['e'] ∨ first = ['E'] := by
  rcases firstOf_pair_eq_some.mp read with small | ⟨-, capital⟩
  · exact Or.inl (readSymbol_eq_some.mp small).1
  · exact Or.inr (readSymbol_eq_some.mp capital).1

theorem resumes_readPower : Resumes (fun symbol => isDigit symbol = false) readPower := by
  have letter : Resumes (fun _ => True) (firstOf [readSymbol 'e', readSymbol 'E']) := by
    refine (resumes_readSymbol 'e').firstOf (resumes_readSymbol 'E') ?_
    intro text first rest read tail
    obtain ⟨rfl, -⟩ := readSymbol_eq_some.mp read
    rfl
  have sign : Resumes (fun symbol => symbol ≠ '+' ∧ symbol ≠ '-') (optionally readSign) := by
    refine (resumes_readSign.weaken fun _ _ => trivial).optionally fun tail goesOn => ?_
    have noPlus := readSymbol_goesOn (fun allowed => allowed.1 rfl) goesOn
    have noMinus := readSymbol_goesOn (fun allowed => allowed.2 rfl) goesOn
    simp [readSign, firstOf, noPlus, noMinus]
  refine letter.consFree (sign.cons resumes_readDigits.last ?_)
  intro text second rest read tail _
  obtain ⟨digits, later, middle, readDigits, -, rfl⟩ := inSequence_cons_eq_some.mp read
  obtain ⟨symbol, more, rfl, isDigit⟩ := readDigits_starts readDigits
  rw [List.cons_append, List.cons_append, goesOn_cons]
  constructor <;> rintro rfl <;> simp [Decimal.isDigit] at isDigit

theorem resumes_optionally_readPower :
    Resumes (fun symbol => isStop symbol = true) (optionally readPower) := by
  refine (resumes_readPower.weaken fun symbol => not_isDigit_of_stop).optionally ?_
  intro tail stops
  have small : readSymbol 'e' tail = none := readSymbol_goesOn (by decide) stops
  have capital : readSymbol 'E' tail = none := readSymbol_goesOn (by decide) stops
  exact inSequence_refuses (by simp [firstOf, small, capital]) _

theorem optionally_readPower_starts {text first rest : List Char}
    (read : optionally readPower text = some (first, rest)) :
    first = [] ∨ ∃ more, first = 'e' :: more ∨ first = 'E' :: more := by
  rcases optionally_eq_some.mp read with present | ⟨-, rfl, -⟩
  · obtain ⟨letter, later, middle, readLetter, -, rfl⟩ := inSequence_cons_eq_some.mp present
    rcases readLetter_eq readLetter with rfl | rfl
    · exact Or.inr ⟨later, Or.inl rfl⟩
    · exact Or.inr ⟨later, Or.inr rfl⟩
  · exact Or.inl rfl

theorem optionally_readFraction_starts {text first rest : List Char}
    (read : optionally readFraction text = some (first, rest)) :
    first = [] ∨ ∃ more, first = '.' :: more := by
  rcases optionally_eq_some.mp read with present | ⟨-, rfl, -⟩
  · obtain ⟨point, later, middle, readPoint, -, rfl⟩ := inSequence_cons_eq_some.mp present
    obtain ⟨rfl, -⟩ := readSymbol_eq_some.mp readPoint
    exact Or.inr ⟨later, rfl⟩
  · exact Or.inl rfl

/-- With a power of ten or without one, neither a digit nor a point comes next. -/
theorem power_goesOn {text power rest : List Char}
    (read : inSequence [optionally readPower] text = some (power, rest)) (tail : List Char)
    (stops : AfterToken tail) :
    GoesOn (fun symbol => isDigit symbol = false ∧ symbol ≠ '.') (power ++ tail) := by
  obtain ⟨first, later, middle, readFirst, readLater, rfl⟩ := inSequence_cons_eq_some.mp read
  obtain ⟨rfl, -⟩ := inSequence_nil_eq_some.mp readLater
  rcases optionally_readPower_starts readFirst with rfl | ⟨more, rfl | rfl⟩
  · exact GoesOn.imp stops fun symbol stop =>
      ⟨not_isDigit_of_stop stop, (isStop_apart stop).2.2.2.2⟩
  · exact goesOn_cons.mpr (by decide)
  · exact goesOn_cons.mpr (by decide)

theorem resumes_readUnsigned : Resumes (fun symbol => isStop symbol = true)
    (inSequence [readDigits, optionally readFraction, optionally readPower]) := by
  refine resumes_readDigits.cons
    (resumes_optionally_readFraction.cons resumes_optionally_readPower.last power_goesOn) ?_
  intro text second rest read tail stops
  obtain ⟨fraction, power, middle, readFraction, readPower, rfl⟩ :=
    inSequence_cons_eq_some.mp read
  rcases optionally_readFraction_starts readFraction with rfl | ⟨more, rfl⟩
  · exact (power_goesOn readPower tail stops).imp fun symbol allowed => allowed.1
  · exact goesOn_cons.mpr (by decide)

theorem readMagnitude_starts {text first rest : List Char}
    (read : readMagnitude text = some (first, rest)) :
    first = ['I', 'N', 'F'] ∨
      ∃ symbol more, first = symbol :: more ∧ isDigit symbol = true := by
  rcases firstOf_pair_eq_some.mp read with word | ⟨-, digits⟩
  · rw [readWord, Option.map_eq_some_iff] at word
    obtain ⟨after, -, equal⟩ := word
    cases equal
    exact Or.inl rfl
  · obtain ⟨digits, later, middle, readDigits, -, rfl⟩ := inSequence_cons_eq_some.mp digits
    obtain ⟨symbol, more, rfl, isDigit⟩ := readDigits_starts readDigits
    exact Or.inr ⟨symbol, more ++ later, rfl, isDigit⟩

/-- A word is refused by a text that starts with another character. -/
theorem readWord_refuses {word : String} {letter : Char} {letters : List Char}
    (spelled : word.toList = letter :: letters) {symbol : Char} (differs : symbol ≠ letter)
    (rest : List Char) : readWord word (symbol :: rest) = none := by
  rw [readWord, Option.map_eq_none_iff, Option.eq_none_iff_forall_ne_some]
  intro after keyword
  obtain ⟨split, -⟩ := readKeyword_eq_some.mp keyword
  rw [spelled] at split
  exact differs (List.cons.inj split).1

theorem resumes_readMagnitude : Resumes (fun symbol => isStop symbol = true) readMagnitude := by
  have word : Resumes (fun symbol => isStop symbol = true) (readWord "INF") :=
    (resumes_readWord "INF").weaken fun symbol stop => (isStop_apart stop).2.1
  refine word.firstOf resumes_readUnsigned ?_
  intro text first rest read tail
  obtain ⟨digits, later, middle, readDigits, -, rfl⟩ := inSequence_cons_eq_some.mp read
  obtain ⟨symbol, more, rfl, isDigit⟩ := readDigits_starts readDigits
  have spelled : "INF".toList = 'I' :: ['N', 'F'] := rfl
  refine readWord_refuses spelled ?_ _
  rintro rfl
  simp [Decimal.isDigit] at isDigit

theorem resumes_readNumber : Resumes (fun symbol => isStop symbol = true) readNumber := by
  have sign : Resumes (fun symbol => symbol ≠ '-') (optionally (readSymbol '-')) :=
    ((resumes_readSymbol '-').weaken fun _ _ => trivial).optionally fun tail goesOn =>
      readSymbol_goesOn (fun allowed => allowed rfl) goesOn
  refine sign.cons resumes_readMagnitude.last ?_
  intro text second rest read tail _
  obtain ⟨magnitude, later, middle, readMagnitude, -, rfl⟩ := inSequence_cons_eq_some.mp read
  rcases readMagnitude_starts readMagnitude with rfl | ⟨symbol, more, rfl, isDigit⟩
  · exact goesOn_cons.mpr (by decide)
  · refine goesOn_cons.mpr ?_
    rintro rfl
    simp [Decimal.isDigit] at isDigit

theorem readStringRest_quote {tail : List Char}
    (goesOn : GoesOn (fun symbol => symbol ≠ '\'') tail) :
    readStringRest ('\'' :: tail) = some (['\''], tail) := by
  cases tail with
  | nil => rfl
  | cons symbol rest =>
      have differs := goesOn_cons.mp goesOn
      rw [readStringRest]
      intro others split
      exact differs (List.cons.inj split).1

theorem readStringRest_other {symbol : Char} (differs : symbol ≠ '\'') (rest : List Char) :
    readStringRest (symbol :: rest) =
      (readStringRest rest).map fun read => (symbol :: read.1, read.2) := by
  rw [readStringRest]
  · rintro others rfl
    exact absurd rfl differs
  · rintro rfl
    exact absurd rfl differs

theorem resumes_readStringRest : Resumes (fun symbol => symbol ≠ '\'') readStringRest := by
  intro text
  fun_induction readStringRest text with
  | case1 =>
      intro first rest read
      cases read
  | case2 later inductionHypothesis =>
      intro first rest read
      obtain ⟨⟨inside, after⟩, readLater, equal⟩ := Option.map_eq_some_iff.mp read
      cases equal
      obtain ⟨split, again⟩ := inductionHypothesis _ _ readLater
      refine ⟨by rw [split]; rfl, fun tail goesOn => ?_⟩
      simp [readStringRest, again tail goesOn]
  | case3 later notQuote =>
      intro first rest read
      cases read
      exact ⟨rfl, fun tail goesOn => readStringRest_quote goesOn⟩
  | case4 symbol later notPair notQuote inductionHypothesis =>
      intro first rest read
      obtain ⟨⟨inside, after⟩, readLater, equal⟩ := Option.map_eq_some_iff.mp read
      cases equal
      obtain ⟨split, again⟩ := inductionHypothesis _ _ readLater
      refine ⟨by rw [split]; rfl, fun tail goesOn => ?_⟩
      rw [List.cons_append, readStringRest_other notQuote, again tail goesOn]
      rfl

theorem readString_eq_some {text first rest : List Char} :
    readString text = some (first, rest) ↔
      ∃ inside later, text = '\'' :: later ∧ first = '\'' :: inside ∧
        readStringRest later = some (inside, rest) := by
  constructor
  · intro read
    rw [readString.eq_def] at read
    split at read
    · rename_i later
      obtain ⟨⟨inside, after⟩, readLater, equal⟩ := Option.map_eq_some_iff.mp read
      cases equal
      exact ⟨inside, later, rfl, rfl, readLater⟩
    · cases read
  · rintro ⟨inside, later, rfl, rfl, readLater⟩
    simp [readString, readLater]

theorem resumes_readString : Resumes (fun symbol => symbol ≠ '\'') readString := by
  intro text first rest read
  obtain ⟨inside, later, rfl, rfl, readLater⟩ := readString_eq_some.mp read
  obtain ⟨split, again⟩ := resumes_readStringRest _ _ _ readLater
  refine ⟨by rw [split]; rfl, fun tail goesOn => ?_⟩
  exact readString_eq_some.mpr ⟨inside, inside ++ tail, rfl, rfl, again tail goesOn⟩

/-! ## Literals -/

inductive IsLiteral : EdmType → List Char → Prop where
  | null : IsLiteral .null "null".toList
  | true : IsLiteral .boolean "true".toList
  | false : IsLiteral .boolean "false".toList
  | instant {raw : List Char} (whole : readInstant raw = some (raw, [])) :
      IsLiteral .dateTimeOffset raw
  | date {raw : List Char} (whole : readDayDigits raw = some (raw, [])) : IsLiteral .date raw
  | guid {raw : List Char} (whole : readGuid raw = some (raw, [])) : IsLiteral .guid raw
  | duration {raw : List Char} (whole : readString raw = some (raw, [])) : IsLiteral .duration raw
  | string {raw : List Char} (whole : readString raw = some (raw, [])) : IsLiteral .string raw
  | number {raw : List Char} (whole : readNumber raw = some (raw, [])) :
      IsLiteral (numberType raw) raw

def literalText (type : EdmType) (raw : List Char) : List Char :=
  if type = .duration then "duration".toList ++ raw else raw

theorem literalText_of_ne {type : EdmType} (differs : type ≠ .duration) (raw : List Char) :
    literalText type raw = raw := if_neg differs

theorem readWord_eq_some {word : String} {text first rest : List Char} :
    readWord word text = some (first, rest) ↔
      first = word.toList ∧ readKeyword word text = some rest := by
  rw [readWord, Option.map_eq_some_iff]
  constructor
  · rintro ⟨after, keyword, equal⟩
    cases equal
    exact ⟨rfl, keyword⟩
  · rintro ⟨rfl, keyword⟩
    exact ⟨rest, keyword, rfl⟩

theorem numberType_ne_duration (raw : List Char) : numberType raw ≠ .duration := by
  rw [numberType]
  split
  · decide
  · split
    · split <;> decide
    · decide

theorem readDate_eq_some {text first rest : List Char} :
    readDate text = some (first, rest) ↔
      readDayDigits text = some (first, rest) ∧ endsWord rest = true := by
  rw [readDate]
  cases days : readDayDigits text with
  | none => simp
  | some read =>
      obtain ⟨date, after⟩ := read
      dsimp only
      split
      · rename_i ends
        constructor
        · intro equal
          cases equal
          exact ⟨rfl, ends⟩
        · intro both
          exact both.1
      · rename_i goes
        constructor
        · intro equal
          cases equal
        · rintro ⟨equal, ends⟩
          cases equal
          exact absurd ends goes

theorem readDuration_eq_some {text first rest : List Char} :
    readDuration text = some (first, rest) ↔
      ∃ inside later, text = "duration".toList ++ later ∧ first = "duration".toList ++ inside ∧
        readString later = some (inside, rest) := by
  rw [readDuration]
  cases exact : readExact "duration".toList text with
  | none =>
      constructor
      · intro read
        cases read
      · rintro ⟨inside, later, split, -⟩
        rw [readExact_eq_some.mpr split] at exact
        cases exact
  | some later =>
      have split := readExact_eq_some.mp exact
      constructor
      · intro read
        obtain ⟨⟨inside, after⟩, readLater, equal⟩ := Option.map_eq_some_iff.mp read
        cases equal
        exact ⟨inside, later, split, rfl, readLater⟩
      · rintro ⟨inside, later', split', rfl, readLater⟩
        rw [split] at split'
        rw [← List.append_cancel_left split'] at readLater
        simp [readLater]

theorem readLiteral_sound {text raw rest : List Char} {type : EdmType}
    (read : readLiteral text = some (type, raw, rest)) :
    IsLiteral type raw ∧ text = literalText type raw ++ rest := by
  simp only [readLiteral, Option.orElse_eq_orElse, Option.orElse_eq_or, Option.or_eq_some_iff,
    Option.map_eq_some_iff] at read
  rcases read with ⟨⟨first, after⟩, word, equal⟩ | ⟨-, read⟩
  · cases equal
    obtain ⟨rfl, keyword⟩ := readWord_eq_some.mp word
    exact ⟨.null, (readKeyword_eq_some.mp keyword).1⟩
  rcases read with ⟨⟨first, after⟩, words, equal⟩ | ⟨-, read⟩
  · cases equal
    rcases firstOf_pair_eq_some.mp words with word | ⟨-, word⟩
    · obtain ⟨rfl, keyword⟩ := readWord_eq_some.mp word
      exact ⟨.true, (readKeyword_eq_some.mp keyword).1⟩
    · obtain ⟨rfl, keyword⟩ := readWord_eq_some.mp word
      exact ⟨.false, (readKeyword_eq_some.mp keyword).1⟩
  rcases read with ⟨⟨first, after⟩, instant, equal⟩ | ⟨-, read⟩
  · cases equal
    exact ⟨.instant (resumes_readInstant.alone instant), resumes_readInstant.split instant⟩
  rcases read with ⟨⟨first, after⟩, date, equal⟩ | ⟨-, read⟩
  · cases equal
    have days := (readDate_eq_some.mp date).1
    exact ⟨.date (resumes_readDayDigits.alone days), resumes_readDayDigits.split days⟩
  rcases read with ⟨⟨first, after⟩, guid, equal⟩ | ⟨-, read⟩
  · cases equal
    exact ⟨.guid (resumes_readGuid.alone guid), resumes_readGuid.split guid⟩
  rcases read with ⟨⟨first, after⟩, duration, equal⟩ | ⟨-, read⟩
  · cases equal
    obtain ⟨inside, later, rfl, rfl, string⟩ := readDuration_eq_some.mp duration
    have dropped : ("duration".toList ++ inside).drop "duration".length = inside :=
      List.drop_left' rfl
    rw [dropped]
    exact ⟨.duration (resumes_readString.alone string),
      by rw [resumes_readString.split string]; rfl⟩
  rcases read with ⟨⟨first, after⟩, string, equal⟩ | ⟨-, ⟨first, after⟩, number, equal⟩
  · cases equal
    exact ⟨.string (resumes_readString.alone string), resumes_readString.split string⟩
  · cases equal
    rw [literalText_of_ne (numberType_ne_duration first)]
    exact ⟨.number (resumes_readNumber.alone number), resumes_readNumber.split number⟩

end EntityQuery.Query
