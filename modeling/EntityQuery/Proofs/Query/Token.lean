import EntityQuery.Proofs.Text.Runs
import EntityQuery.Query.Token
import Mathlib.Data.List.Infix

/-!
# What follows a token

A reader of tokens looks at what comes after the token only to see that the token ends there.  So a
token that has been read from one text is read again from any other text that goes on after it with
a character at which it can end.
-/

set_option autoImplicit false

namespace EntityQuery.Query

open Decimal (isDigit)
open Text (GoesOn goesOn_nil goesOn_cons takeWhile_append_stop goesOn_dropWhile)

theorem inSequence_cons_eq_some {reader : List Char → Lexeme}
    {readers : List (List Char → Lexeme)} {text first rest : List Char} :
    inSequence (reader :: readers) text = some (first, rest) ↔
      ∃ start finish middle, reader text = some (start, middle) ∧
        inSequence readers middle = some (finish, rest) ∧ first = start ++ finish := by
  rw [inSequence]
  cases readFirst : reader text with
  | none => simp
  | some start =>
      obtain ⟨start, middle⟩ := start
      cases readLater : inSequence readers middle with
      | none => simp [readLater]
      | some finish =>
          obtain ⟨finish, reached⟩ := finish
          simp only [readLater, Option.some.injEq, Prod.mk.injEq]
          constructor
          · rintro ⟨rfl, rfl⟩
            exact ⟨start, finish, middle, ⟨rfl, rfl⟩, readLater, rfl⟩
          · rintro ⟨start', finish', middle', ⟨rfl, rfl⟩, again, rfl⟩
            rw [readLater] at again
            cases again
            exact ⟨rfl, rfl⟩

theorem inSequence_nil_eq_some {text first rest : List Char} :
    inSequence [] text = some (first, rest) ↔ first = [] ∧ text = rest := by
  simp [inSequence, eq_comm]

theorem optionally_eq_some {reader : List Char → Lexeme} {text first rest : List Char} :
    optionally reader text = some (first, rest) ↔
      reader text = some (first, rest) ∨ (reader text = none ∧ first = [] ∧ rest = text) := by
  rw [optionally]
  cases reader text <;> simp [eq_comm]

theorem firstOf_pair_eq_some {reader other : List Char → Lexeme} {text : List Char}
    {read : List Char × List Char} :
    firstOf [reader, other] text = some read ↔
      reader text = some read ∨ (reader text = none ∧ other text = some read) := by
  rw [firstOf, List.findSome?_cons]
  cases reader text with
  | some one => simp
  | none => cases second : other text <;> simp [second]

/-- What has been read from a text is read again from every text that goes on after it with an
allowed character. -/
def Resumes (allowed : Char → Prop) (reader : List Char → Lexeme) : Prop :=
  ∀ text first rest, reader text = some (first, rest) →
    text = first ++ rest ∧
      ∀ tail, GoesOn allowed tail → reader (first ++ tail) = some (first, tail)

namespace Resumes

variable {allowed allowed' : Char → Prop} {reader : List Char → Lexeme}
  {readers : List (List Char → Lexeme)}

theorem split (resumes : Resumes allowed reader) {text first rest : List Char}
    (read : reader text = some (first, rest)) : text = first ++ rest :=
  (resumes _ _ _ read).1

theorem again (resumes : Resumes allowed reader) {text first rest tail : List Char}
    (read : reader text = some (first, rest)) (goesOn : GoesOn allowed tail) :
    reader (first ++ tail) = some (first, tail) :=
  (resumes _ _ _ read).2 tail goesOn

theorem alone (resumes : Resumes allowed reader) {text first rest : List Char}
    (read : reader text = some (first, rest)) : reader first = some (first, []) := by
  have again := resumes.again read (goesOn_nil allowed)
  rwa [List.append_nil] at again

theorem weaken (resumes : Resumes allowed reader)
    (weaker : ∀ symbol, allowed' symbol → allowed symbol) : Resumes allowed' reader := by
  intro text first rest read
  obtain ⟨split, again⟩ := resumes _ _ _ read
  exact ⟨split, fun tail goesOn => again tail (goesOn.imp weaker)⟩

theorem nil : Resumes allowed (inSequence []) := by
  intro text first rest read
  obtain ⟨rfl, rfl⟩ := inSequence_nil_eq_some.mp read
  exact ⟨rfl, fun tail _ => rfl⟩

theorem cons (first : Resumes allowed reader) (later : Resumes allowed' (inSequence readers))
    (between : ∀ {text second rest : List Char}, inSequence readers text = some (second, rest) →
      ∀ tail, GoesOn allowed' tail → GoesOn allowed (second ++ tail)) :
    Resumes allowed' (inSequence (reader :: readers)) := by
  intro text whole rest read
  obtain ⟨start, finish, middle, readFirst, readLater, rfl⟩ := inSequence_cons_eq_some.mp read
  refine ⟨?_, ?_⟩
  · rw [first.split readFirst, later.split readLater, List.append_assoc]
  · intro tail goesOn
    have resumed := first.again readFirst (between readLater tail goesOn)
    refine inSequence_cons_eq_some.mpr ⟨start, finish, finish ++ tail, ?_, ?_, rfl⟩
    · rw [List.append_assoc, resumed]
    · exact later.again readLater goesOn

theorem consFree (first : Resumes (fun _ => True) reader)
    (later : Resumes allowed (inSequence readers)) :
    Resumes allowed (inSequence (reader :: readers)) :=
  first.cons later fun _ _ _ _ _ => trivial

theorem last (resumes : Resumes allowed reader) : Resumes allowed (inSequence [reader]) := by
  refine resumes.cons nil ?_
  intro text second rest read tail goesOn
  obtain ⟨rfl, -⟩ := inSequence_nil_eq_some.mp read
  exact goesOn

theorem optionally (resumes : Resumes allowed reader)
    (refuses : ∀ tail, GoesOn allowed tail → reader tail = none) :
    Resumes allowed (optionally reader) := by
  intro text first rest read
  rcases optionally_eq_some.mp read with readOne | ⟨-, rfl, rfl⟩
  · exact ⟨resumes.split readOne, fun tail goesOn =>
      optionally_eq_some.mpr (Or.inl (resumes.again readOne goesOn))⟩
  · exact ⟨rfl, fun tail goesOn =>
      optionally_eq_some.mpr (Or.inr ⟨refuses tail goesOn, rfl, rfl⟩)⟩

/-- Of two readers the second counts where the first refuses the text. -/
theorem firstOf {other : List Char → Lexeme} (resumes : Resumes allowed reader)
    (otherwise : Resumes allowed other)
    (apart : ∀ {text first rest : List Char}, other text = some (first, rest) →
      ∀ tail, reader (first ++ tail) = none) :
    Resumes allowed (firstOf [reader, other]) := by
  intro text first rest read
  rcases firstOf_pair_eq_some.mp read with readOne | ⟨-, readOther⟩
  · exact ⟨resumes.split readOne, fun tail goesOn =>
      firstOf_pair_eq_some.mpr (Or.inl (resumes.again readOne goesOn))⟩
  · exact ⟨otherwise.split readOther, fun tail goesOn =>
      firstOf_pair_eq_some.mpr
        (Or.inr ⟨apart readOther tail, otherwise.again readOther goesOn⟩)⟩

end Resumes

theorem resumes_readRun (count : Nat) (holds : Char → Bool) :
    Resumes (fun _ => True) (readRun count holds) := by
  intro text first rest read
  rw [readRun] at read
  split at read
  · rename_i fits
    simp only [Option.some.injEq, Prod.mk.injEq] at read
    obtain ⟨rfl, rfl⟩ := read
    refine ⟨(List.take_append_drop count text).symm, fun tail _ => ?_⟩
    have taken : (text.take count ++ tail).take count = text.take count :=
      List.take_left' fits.1
    have dropped : (text.take count ++ tail).drop count = tail := List.drop_left' fits.1
    rw [readRun, taken, dropped, if_pos fits]
  · cases read

theorem readSymbol_eq_some {symbol : Char} {text first rest : List Char} :
    readSymbol symbol text = some (first, rest) ↔ first = [symbol] ∧ text = symbol :: rest := by
  cases text with
  | nil => simp [readSymbol]
  | cons next others =>
      rw [readSymbol]
      split
      · rename_i same
        subst same
        simp [eq_comm]
      · rename_i differs
        simp [differs]

theorem readSymbol_refuses {symbol next : Char} (differs : next ≠ symbol) (rest : List Char) :
    readSymbol symbol (next :: rest) = none := by
  simp [readSymbol, differs]

theorem resumes_readSymbol (symbol : Char) : Resumes (fun _ => True) (readSymbol symbol) := by
  intro text first rest read
  obtain ⟨rfl, rfl⟩ := readSymbol_eq_some.mp read
  exact ⟨rfl, fun tail _ => readSymbol_eq_some.mpr ⟨rfl, rfl⟩⟩

theorem readDigits_eq_some {text first rest : List Char} :
    readDigits text = some (first, rest) ↔
      text = first ++ rest ∧ first ≠ [] ∧ (∀ symbol ∈ first, isDigit symbol = true) ∧
        GoesOn (fun symbol => isDigit symbol = false) rest := by
  simp only [readDigits]
  constructor
  · intro read
    split at read
    · cases read
    · rename_i present
      cases read
      refine ⟨List.takeWhile_append_dropWhile.symm, ?_, ?_, goesOn_dropWhile _ _⟩
      · intro empty
        rw [empty] at present
        exact present rfl
      · exact fun symbol member => List.mem_takeWhile_imp member
  · rintro ⟨rfl, present, every, stops⟩
    obtain ⟨taken, dropped⟩ := takeWhile_append_stop every stops
    rw [taken, dropped, if_neg (by simpa using present)]

theorem resumes_readDigits : Resumes (fun symbol => isDigit symbol = false) readDigits := by
  intro text first rest read
  obtain ⟨split, present, every, -⟩ := readDigits_eq_some.mp read
  exact ⟨split, fun tail stops => readDigits_eq_some.mpr ⟨rfl, present, every, stops⟩⟩

theorem readDigits_starts {text first rest : List Char}
    (read : readDigits text = some (first, rest)) :
    ∃ symbol more, first = symbol :: more ∧ isDigit symbol = true := by
  obtain ⟨-, present, every, -⟩ := readDigits_eq_some.mp read
  obtain ⟨symbol, more, rfl⟩ := List.exists_cons_of_ne_nil present
  exact ⟨symbol, more, rfl, every symbol List.mem_cons_self⟩

/-! ## Words and names -/

theorem endsWord_iff {text : List Char} :
    endsWord text = true ↔ GoesOn (fun symbol => isNameSymbol symbol = false) text := by
  cases text with
  | nil => simp [endsWord, goesOn_nil]
  | cons symbol rest => simp [endsWord, goesOn_cons]

theorem readExact_eq_some {word text rest : List Char} :
    readExact word text = some rest ↔ text = word ++ rest := by
  rw [readExact]
  constructor
  · intro read
    split at read
    · rename_i starts
      obtain ⟨after, rfl⟩ := List.isPrefixOf_iff_prefix.mp starts
      simp only [List.drop_left, Option.some.injEq] at read
      rw [read]
    · cases read
  · rintro rfl
    rw [if_pos (List.isPrefixOf_iff_prefix.mpr ⟨rest, rfl⟩), List.drop_left]

theorem readKeyword_eq_some {word : String} {text rest : List Char} :
    readKeyword word text = some rest ↔ text = word.toList ++ rest ∧ endsWord rest = true := by
  rw [readKeyword]
  cases exact : readExact word.toList text with
  | none =>
      have differs : text ≠ word.toList ++ rest := by
        intro same
        rw [readExact_eq_some.mpr same] at exact
        cases exact
      simp [differs]
  | some after =>
      have split := readExact_eq_some.mp exact
      subst split
      dsimp only
      constructor
      · intro read
        split at read
        · rename_i ends
          rw [Option.some.injEq] at read
          exact ⟨by rw [read], read ▸ ends⟩
        · cases read
      · rintro ⟨same, ends⟩
        rw [List.append_cancel_left same, if_pos ends]

theorem resumes_readWord (word : String) :
    Resumes (fun symbol => isNameSymbol symbol = false) (readWord word) := by
  intro text first rest read
  rw [readWord, Option.map_eq_some_iff] at read
  obtain ⟨after, keyword, equal⟩ := read
  cases equal
  refine ⟨(readKeyword_eq_some.mp keyword).1, fun tail stops => ?_⟩
  rw [readWord, readKeyword_eq_some.mpr ⟨rfl, endsWord_iff.mpr stops⟩]
  rfl

/-- A name: a letter or an underscore, and name characters after it. -/
def IsName : List Char → Prop
  | [] => False
  | first :: more => isNameStart first = true ∧ ∀ symbol ∈ more, isNameSymbol symbol = true

instance : DecidablePred IsName
  | [] => isFalse id
  | first :: more =>
      decidable_of_iff (isNameStart first = true ∧ more.all isNameSymbol = true)
        (and_congr_right fun _ => List.all_eq_true)

theorem isNameSymbol_of_start {symbol : Char} (starts : isNameStart symbol = true) :
    isNameSymbol symbol = true := by
  simp only [isNameStart, Bool.or_eq_true] at starts
  rcases starts with letter | underscore
  · simp [isNameSymbol, letter]
  · simp [isNameSymbol, underscore]

theorem IsName.every {name : List Char} (isName : IsName name) :
    ∀ symbol ∈ name, isNameSymbol symbol = true := by
  cases name with
  | nil => simp
  | cons first more =>
      intro symbol member
      rcases List.mem_cons.mp member with rfl | later
      · exact isNameSymbol_of_start isName.1
      · exact isName.2 symbol later

theorem readName_eq_some {text name rest : List Char} :
    readName text = some (name, rest) ↔
      text = name ++ rest ∧ IsName name ∧ endsWord rest = true := by
  cases text with
  | nil =>
      constructor
      · intro read
        cases read
      · rintro ⟨split, isName, -⟩
        rw [(List.append_eq_nil_iff.mp split.symm).1] at isName
        exact False.elim isName
  | cons first more =>
      rw [readName, endsWord_iff]
      constructor
      · intro read
        split at read
        · rename_i starts
          simp only [Option.some.injEq, Prod.mk.injEq] at read
          obtain ⟨rfl, rfl⟩ := read
          refine ⟨by simp, ⟨starts, ?_⟩, goesOn_dropWhile _ _⟩
          exact fun symbol member => List.mem_takeWhile_imp member
        · cases read
      · rintro ⟨split, isName, stops⟩
        cases name with
        | nil => exact False.elim isName
        | cons start others =>
            obtain ⟨rfl, rfl⟩ := List.cons.inj split
            obtain ⟨taken, dropped⟩ := takeWhile_append_stop isName.2 stops
            rw [if_pos isName.1]
            simp only [List.append_eq] at taken dropped ⊢
            rw [taken, dropped]

theorem readKeyword_name {word : String} {name tail : List Char} (isName : IsName name)
    (isWord : IsName word.toList) (ends : endsWord tail = true) (differs : name ≠ word.toList) :
    readKeyword word (name ++ tail) = none := by
  cases keyword : readKeyword word (name ++ tail) with
  | none => rfl
  | some rest =>
      obtain ⟨split, restEnds⟩ := readKeyword_eq_some.mp keyword
      have asName := readName_eq_some.mpr ⟨rfl, isName, ends⟩
      have asWord := readName_eq_some.mpr ⟨split, isWord, restEnds⟩
      rw [asName] at asWord
      cases asWord
      exact absurd rfl differs

end EntityQuery.Query
