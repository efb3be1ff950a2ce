import EntityQuery.Text.Blank
import Mathlib.Data.List.DropRight
import Mathlib.Data.List.TakeWhile

/-!
# Runs of characters

The longest run of characters of a class at the start of a text ends where the text goes on with
another character.  A text without characters of the class is not trimmed.
-/

set_option autoImplicit false

namespace EntityQuery.Text

/-- A text is at its end or goes on with a character of a class. -/
def GoesOn (allowed : Char → Prop) (text : List Char) : Prop :=
  ∀ symbol ∈ text.head?, allowed symbol

theorem goesOn_nil (allowed : Char → Prop) : GoesOn allowed [] := by
  intro symbol member
  cases member

theorem goesOn_cons {allowed : Char → Prop} {symbol : Char} {rest : List Char} :
    GoesOn allowed (symbol :: rest) ↔ allowed symbol := by
  simp [GoesOn]

theorem GoesOn.imp {allowed allowed' : Char → Prop} {text : List Char}
    (goesOn : GoesOn allowed text) (weaker : ∀ symbol, allowed symbol → allowed' symbol) :
    GoesOn allowed' text :=
  fun symbol member => weaker symbol (goesOn symbol member)

theorem takeWhile_append_stop {holds : Char → Bool} {first tail : List Char}
    (every : ∀ symbol ∈ first, holds symbol = true)
    (stops : GoesOn (fun symbol => holds symbol = false) tail) :
    (first ++ tail).takeWhile holds = first ∧ (first ++ tail).dropWhile holds = tail := by
  have head : tail.takeWhile holds = [] ∧ tail.dropWhile holds = tail := by
    cases tail with
    | nil => exact ⟨rfl, rfl⟩
    | cons symbol rest =>
        have stop := goesOn_cons.mp stops
        simp [stop]
  rw [List.takeWhile_append_of_pos every, List.dropWhile_append_of_pos every, head.1, head.2]
  simp

theorem goesOn_dropWhile (holds : Char → Bool) (text : List Char) :
    GoesOn (fun symbol => holds symbol = false) (text.dropWhile holds) := by
  intro symbol member
  have fails := List.head?_dropWhile_not holds text
  rw [Option.mem_def.mp member] at fails
  simpa using fails

theorem trimBoth_eq_self {drops : Char → Bool} {text : List Char}
    (keeps : ∀ symbol ∈ text, drops symbol = false) : trimBoth drops text = text := by
  have front : ∀ {text : List Char}, (∀ symbol ∈ text, drops symbol = false) →
      text.dropWhile drops = text := by
    intro text all
    cases text with
    | nil => rfl
    | cons symbol rest => simp [all symbol List.mem_cons_self]
  have backwards : ∀ symbol ∈ text.reverse, drops symbol = false :=
    fun symbol member => keeps symbol (List.mem_reverse.mp member)
  rw [trimBoth, front keeps, front backwards, List.reverse_reverse]

/-- A text that is trimmed stays as it is when it is trimmed again. -/
theorem trimBoth_twice (drops : Char → Bool) (text : List Char) :
    trimBoth drops (trimBoth drops text) = trimBoth drops text := by
  have shape : ∀ text, trimBoth drops text = (text.dropWhile drops).rdropWhile drops :=
    fun text => rfl
  have front : (trimBoth drops text).dropWhile drops = trimBoth drops text := by
    have leads := List.rdropWhile_prefix drops (text.dropWhile drops)
    rw [shape]
    cases kept : (text.dropWhile drops).rdropWhile drops with
    | nil => rfl
    | cons first rest =>
        rw [kept] at leads
        obtain ⟨dropped, whole⟩ := leads
        have goesOn := goesOn_dropWhile drops text
        rw [← whole] at goesOn
        rw [List.dropWhile_cons_of_neg (by simp [goesOn_cons.mp goesOn])]
  rw [shape (trimBoth drops text), front, shape text, List.rdropWhile_idempotent]

end EntityQuery.Text
