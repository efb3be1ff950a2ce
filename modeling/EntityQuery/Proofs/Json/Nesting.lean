import EntityQuery.Json.Parser
import EntityQuery.Json.Printer
import EntityQuery.Proofs.Keys
import Mathlib.Data.List.TakeWhile

/-!
# Brackets in JSON text

A text is walked from left to right, counting the brackets that are open outside of strings.  What
is written for a document closes every bracket that it opens, and so does every text that is read as
a document.  So a text that leaves a bracket open is the beginning of a document at most.
-/

set_option autoImplicit false

namespace EntityQuery.Json

/-- Where a walk stands: how many brackets are open, and whether a string is. -/
inductive Standing where
  | outside (depth : Int)
  | inside (depth : Int)
  /-- After a backslash inside a string. -/
  | escaped (depth : Int)
  deriving DecidableEq

def isOpening (symbol : Char) : Bool := symbol == '[' || symbol.toNat == 0x7b

def isClosing (symbol : Char) : Bool := symbol == ']' || symbol.toNat == 0x7d

namespace Standing

def step : Standing → Char → Standing
  | .outside depth, symbol =>
      if symbol = '"' then .inside depth
      else if isOpening symbol then .outside (depth + 1)
      else if isClosing symbol then .outside (depth - 1)
      else .outside depth
  | .inside depth, symbol =>
      if symbol = '"' then .outside depth
      else if symbol = '\\' then .escaped depth
      else .inside depth
  | .escaped depth, _ => .inside depth

def walk (start : Standing) (text : List Char) : Standing := text.foldl step start

theorem walk_append (start : Standing) (first second : List Char) :
    start.walk (first ++ second) = (start.walk first).walk second :=
  List.foldl_append

theorem walk_cons (start : Standing) (symbol : Char) (rest : List Char) :
    start.walk (symbol :: rest) = (start.step symbol).walk rest := rfl

end Standing

open Standing

/-- Text that closes the brackets and strings that it opens, and no others. -/
def Balanced (text : List Char) : Prop := ∀ depth, (outside depth).walk text = outside depth

def Within (text : List Char) : Prop := ∀ depth, (inside depth).walk text = inside depth

def isPlain (symbol : Char) : Bool :=
  symbol != '"' && symbol != '\\' && !isOpening symbol && !isClosing symbol

theorem Balanced.append {first second : List Char} (isFirst : Balanced first)
    (isSecond : Balanced second) : Balanced (first ++ second) := by
  intro depth
  rw [walk_append, isFirst, isSecond]

theorem Within.append {first second : List Char} (isFirst : Within first)
    (isSecond : Within second) : Within (first ++ second) := by
  intro depth
  rw [walk_append, isFirst, isSecond]

theorem step_plain {symbol : Char} (plain : isPlain symbol = true) (depth : Int) :
    (outside depth).step symbol = outside depth ∧ (inside depth).step symbol = inside depth := by
  simp only [isPlain, Bool.and_eq_true, bne_iff_ne, Bool.not_eq_true'] at plain
  obtain ⟨⟨⟨notQuote, notBackslash⟩, notOpening⟩, notClosing⟩ := plain
  simp [step, notQuote, notBackslash, notOpening, notClosing]

def Plain (text : List Char) : Prop := ∀ symbol ∈ text, isPlain symbol = true

instance (text : List Char) : Decidable (Plain text) :=
  decidable_of_iff (text.all isPlain = true) List.all_eq_true

theorem Plain.append {first second : List Char} (isFirst : Plain first) (isSecond : Plain second) :
    Plain (first ++ second) := by
  intro symbol member
  rcases List.mem_append.mp member with inFirst | inSecond
  · exact isFirst symbol inFirst
  · exact isSecond symbol inSecond

theorem Plain.cons {symbol : Char} {rest : List Char} (isFirst : isPlain symbol = true)
    (isRest : Plain rest) : Plain (symbol :: rest) :=
  List.forall_mem_cons.mpr ⟨isFirst, isRest⟩

theorem Plain.balanced {text : List Char} (plain : Plain text) : Balanced text := by
  intro depth
  induction text with
  | nil => rfl
  | cons symbol rest inductionHypothesis =>
      obtain ⟨first, others⟩ := List.forall_mem_cons.mp plain
      rw [walk_cons, (step_plain first depth).1]
      exact inductionHypothesis others

theorem isPlain_of_far {symbol : Char} (far : symbol.toNat ≠ 34 ∧ symbol.toNat ≠ 92 ∧
      symbol.toNat ≠ 91 ∧ symbol.toNat ≠ 93 ∧ symbol.toNat ≠ 0x7b ∧ symbol.toNat ≠ 0x7d) :
    isPlain symbol = true := by
  have differs : ∀ other : Char, symbol.toNat ≠ other.toNat → symbol ≠ other :=
    fun other apart same => apart (congrArg Char.toNat same)
  obtain ⟨quote, backslash, opening, closing, openingBrace, closingBrace⟩ := far
  simp [isPlain, isOpening, isClosing, differs '"' quote, differs '\\' backslash,
    differs '[' opening, differs ']' closing, openingBrace, closingBrace]

theorem isPlain_of_isDigit {symbol : Char} (digit : Decimal.isDigit symbol = true) :
    isPlain symbol = true := by
  simp only [Decimal.isDigit, Bool.and_eq_true, decide_eq_true_eq, Char.le_def,
    UInt32.le_iff_toNat_le] at digit
  have low : 48 ≤ symbol.toNat := digit.1
  have high : symbol.toNat ≤ 57 := digit.2
  exact isPlain_of_far (by omega)

/-! ## Written documents -/

open Decimal.Layout

theorem plain_digitChars (value : Nat) : Plain (digitChars value) :=
  fun _ member => isPlain_of_isDigit (Decimal.isDigit_toDigits member)

theorem plain_zeros (count : Nat) : Plain (zeros count) := by
  intro symbol member
  rw [List.eq_of_mem_replicate member]
  rfl

theorem plain_toString (value : Int) : Plain (toString value).toList := by
  rw [toString_toList]
  refine Plain.append ?_ (plain_digitChars _)
  split
  · decide
  · decide

theorem plain_positionalText (keepsPoint : Bool) (value : Decimal.Digits) :
    Plain (positionalText keepsPoint value) := by
  have digits := plain_digitChars value.digits
  unfold positionalText
  dsimp only
  split
  · refine (digits.append (plain_zeros _)).append ?_
    cases keepsPoint <;> decide
  · split
    · refine Plain.append (fun symbol member => digits symbol (List.mem_of_mem_take member)) ?_
      exact Plain.cons rfl fun symbol member => digits symbol (List.mem_of_mem_drop member)
    · exact Plain.cons rfl (Plain.cons rfl ((plain_zeros _).append digits))

theorem plain_exponentText (plusSign : Bool) (value : Decimal.Digits) :
    Plain (exponentText plusSign value) := by
  have digits := plain_digitChars value.digits
  unfold exponentText
  dsimp only
  refine Plain.append ?_ (Plain.cons rfl (Plain.append ?_ (plain_digitChars _)))
  · split
    · decide
    · rename_i single same
      rw [same] at digits
      exact digits
    · rename_i first rest _ same
      rw [same] at digits
      obtain ⟨isFirst, isRest⟩ := List.forall_mem_cons.mp digits
      exact Plain.cons isFirst (Plain.cons rfl isRest)
  · split
    · decide
    · cases plusSign <;> decide

theorem plain_writeFloat (value : Decimal.Binary64) : Plain (Decimal.Layout.json.write value) := by
  have sign : ∀ negative, Plain (signText negative) := by
    intro negative
    cases negative <;> decide
  unfold Decimal.Layout.write
  cases value with
  | nan => decide
  | infinite negative => exact (sign negative).append (by decide)
  | finite negative units =>
      refine (sign negative).append ?_
      unfold magnitudeText
      dsimp only
      split
      · decide
      · split
        · exact plain_positionalText _ _
        · exact plain_exponentText _ _

theorem isPlain_hexDigit : ∀ value < 16, isPlain (hexDigit value) = true := by decide

theorem within_escapeCharacter (symbol : Char) : Within (escapeCharacter symbol) := by
  intro depth
  unfold escapeCharacter
  repeat' split
  all_goals try rfl
  · have high := isPlain_hexDigit (symbol.toNat / 16) (by omega)
    have low := isPlain_hexDigit (symbol.toNat % 16) (by omega)
    change ((inside depth).step _).step _ = inside depth
    rw [(step_plain high depth).2, (step_plain low depth).2]
  · rename_i notQuote notBackslash _ _ _ _ _ _
    change (inside depth).step symbol = inside depth
    rw [step, if_neg notQuote, if_neg notBackslash]

theorem balanced_writeString (text : String) : Balanced (writeString text) := by
  have characters : Within (text.toList.flatMap escapeCharacter) := by
    induction text.toList with
    | nil => exact fun _ => rfl
    | cons symbol rest inductionHypothesis =>
        exact (within_escapeCharacter symbol).append inductionHypothesis
  intro depth
  rw [writeString, walk_cons, walk_append]
  change ((inside depth).walk _).walk ['"'] = _
  rw [characters]
  rfl

theorem Balanced.after {symbol : Char} {rest : List Char} (balanced : Balanced rest)
    (plain : isPlain symbol = true) : Balanced (symbol :: rest) := by
  intro depth
  rw [walk_cons, (step_plain plain depth).1, balanced]

theorem Balanced.bracketed {opening closing : Char} (opens : isOpening opening = true)
    (closes : isClosing closing = true) {text : List Char} (balanced : Balanced text) :
    Balanced (opening :: (text ++ [closing])) := by
  intro depth
  have openingStep : (outside depth).step opening = outside (depth + 1) := by
    have notQuote : opening ≠ '"' := by
      rintro rfl
      cases opens
    rw [step, if_neg notQuote, if_pos opens]
  have closingStep : (outside (depth + 1)).step closing = outside depth := by
    have notQuote : closing ≠ '"' := by
      rintro rfl
      cases closes
    have notOpening : ¬ isOpening closing = true := by
      simp only [isClosing, isOpening, Bool.or_eq_true, beq_iff_eq] at closes ⊢
      rcases closes with rfl | brace
      · decide
      · rintro (rfl | other)
        · cases brace
        · omega
    rw [step, if_neg notQuote, if_neg notOpening, if_pos closes, Int.add_sub_cancel]
  rw [walk_cons, openingStep, walk_append, balanced]
  exact closingStep

mutual

theorem balanced_write : (document : Json) → Balanced (write document)
  | .null => by rw [write]; exact Plain.balanced (by decide)
  | .boolean true => by rw [write]; exact Plain.balanced (by decide)
  | .boolean false => by rw [write]; exact Plain.balanced (by decide)
  | .integer value => by rw [write]; exact (plain_toString value).balanced
  | .float value => by rw [write]; exact (plain_writeFloat value).balanced
  | .string text => by rw [write]; exact balanced_writeString text
  | .array items => by rw [write]; exact (balanced_writeItems items).bracketed rfl rfl
  | .object fields => by rw [write]; exact (balanced_writeFields fields).bracketed rfl rfl

theorem balanced_writeItems : (items : List Json) → Balanced (writeItems items)
  | [] => by rw [writeItems]; exact fun _ => rfl
  | [item] => by rw [writeItems]; exact balanced_write item
  | item :: next :: rest => by
      rw [writeItems]
      exact (balanced_write item).append ((balanced_writeItems (next :: rest)).after rfl)

theorem balanced_writeFields : (fields : List (String × Json)) → Balanced (writeFields fields)
  | [] => by rw [writeFields]; exact fun _ => rfl
  | [(name, value)] => by
      rw [writeFields]
      exact (balanced_writeString name).append ((balanced_write value).after rfl)
  | (name, value) :: next :: rest => by
      rw [writeFields]
      have others : Balanced (',' :: writeFields (next :: rest)) :=
        (balanced_writeFields (next :: rest)).after rfl
      have field : Balanced (writeString name ++ ':' :: write value) :=
        (balanced_writeString name).append ((balanced_write value).after rfl)
      simpa using field.append others

end

/-! ## Documents that are read -/

def Walks (text rest : List Char) (start finish : Int → Standing) : Prop :=
  ∃ used, text = used ++ rest ∧ ∀ depth, (start depth).walk used = finish depth

namespace Walks

variable {text middle rest : List Char} {start between finish : Int → Standing}

theorem refl (text : List Char) (start : Int → Standing) : Walks text text start start :=
  ⟨[], rfl, fun _ => rfl⟩

theorem trans (first : Walks text middle start between)
    (second : Walks middle rest between finish) :
    Walks text rest start finish := by
  obtain ⟨used, rfl, toMiddle⟩ := first
  obtain ⟨more, rfl, toEnd⟩ := second
  refine ⟨used ++ more, (List.append_assoc _ _ _).symm, ?_⟩
  intro depth
  rw [walk_append, toMiddle, toEnd]

theorem symbol {symbol : Char} (stepped : ∀ depth, (start depth).step symbol = finish depth) :
    Walks (symbol :: rest) rest start finish :=
  ⟨[symbol], rfl, stepped⟩

theorem plain {used : List Char} (plain : Plain used) :
    Walks (used ++ rest) rest outside outside :=
  ⟨used, rfl, plain.balanced⟩

theorem dropWhile {accepts : Char → Bool}
    (plain : ∀ symbol, accepts symbol = true → isPlain symbol = true) (text : List Char) :
    Walks text (text.dropWhile accepts) outside outside := by
  refine ⟨text.takeWhile accepts, (List.takeWhile_append_dropWhile).symm, Plain.balanced ?_⟩
  intro symbol member
  exact plain symbol (List.mem_takeWhile_imp member)

theorem skipSpace (text : List Char) : Walks text (skipSpace text) outside outside := by
  apply dropWhile
  intro symbol space
  simp only [isSpace, Bool.or_eq_true, beq_iff_eq] at space
  rcases space with ((rfl | rfl) | rfl) | rfl <;> rfl

theorem digits (text : List Char) :
    Walks text (text.dropWhile Decimal.isDigit) outside outside :=
  dropWhile (fun _ => isPlain_of_isDigit) text

end Walks

theorem walks_readSign (text : List Char) :
    Walks text (Decimal.readSign text).2 outside outside := by
  unfold Decimal.readSign
  split
  · exact Walks.symbol fun _ => rfl
  · exact Walks.symbol fun _ => rfl
  · exact Walks.refl _ _

theorem walks_readPower {text rest : List Char} {power : Int}
    (read : readPower text = some (power, rest)) : Walks text rest outside outside := by
  unfold readPower at read
  dsimp only at read
  split at read
  · cases read
  · cases read
    exact (walks_readSign text).trans (Walks.digits _)

/-- What ends a number after its digits: a power of ten, or nothing. -/
def readScaled (signed : Decimal.Binary64 → Decimal.Binary64) (significand : Nat) (exponent : Int)
    (rest : List Char) : Option (Json × List Char) :=
  match rest with
  | 'e' :: power | 'E' :: power =>
      match readPower power with
      | none => none
      | some (shift, rest) =>
          (scale? significand (exponent + shift)).map fun value => (.float (signed value), rest)
  | _ => (scale? significand exponent).map fun value => (.float (signed value), rest)

theorem walks_readScaled {signed : Decimal.Binary64 → Decimal.Binary64} {significand : Nat}
    {exponent : Int} {text rest : List Char} {value : Json}
    (read : readScaled signed significand exponent text = some (value, rest)) :
    Walks text rest outside outside := by
  have powered : ∀ {symbol : Char} {power : List Char}, isPlain symbol = true →
      (match readPower power with
        | none => none
        | some (shift, rest) =>
            (scale? significand (exponent + shift)).map fun value =>
              (Json.float (signed value), rest)) = some (value, rest) →
      Walks (symbol :: power) rest outside outside := by
    intro symbol power plain read
    split at read
    · cases read
    · rename_i shift after isPower
      obtain ⟨scaled, -, same⟩ := Option.map_eq_some_iff.mp read
      cases same
      exact (Walks.symbol fun depth => (step_plain plain depth).1).trans (walks_readPower isPower)
  unfold readScaled at read
  split at read
  · exact powered rfl read
  · exact powered rfl read
  · obtain ⟨scaled, -, same⟩ := Option.map_eq_some_iff.mp read
    cases same
    exact Walks.refl _ _

theorem walks_readMagnitude {negative : Bool} {text rest : List Char} {value : Json}
    (read : readMagnitude negative text = some (value, rest)) :
    Walks text rest outside outside := by
  refine (Walks.digits text).trans ?_
  unfold readMagnitude at read
  simp only [] at read
  split at read
  · cases read
  · split at read
    · rename_i afterPoint isFraction
      rw [isFraction]
      have point : Walks ('.' :: afterPoint) afterPoint outside outside :=
        Walks.symbol fun _ => rfl
      refine point.trans ?_
      split at read
      · cases read
      · exact (Walks.digits afterPoint).trans (walks_readScaled read)
    · exact walks_readScaled read
    · exact walks_readScaled read
    · split at read
      · exact walks_readScaled read
      · split at read
        · split at read
          · exact walks_readScaled read
          · cases read
            exact Walks.refl _ _
        · cases read
          exact Walks.refl _ _

theorem walks_readNumber {text rest : List Char} {value : Json}
    (read : readNumber text = some (value, rest)) : Walks text rest outside outside := by
  unfold readNumber at read
  split at read
  · exact (Walks.symbol fun _ => rfl).trans (walks_readMagnitude read)
  · exact walks_readMagnitude read

theorem isPlain_of_hexDigitValue? {symbol : Char} {value : Nat}
    (digit : hexDigitValue? symbol = some value) : isPlain symbol = true := by
  have ranges : (48 ≤ symbol.toNat ∧ symbol.toNat ≤ 57) ∨ (65 ≤ symbol.toNat ∧ symbol.toNat ≤ 70) ∨
      (97 ≤ symbol.toNat ∧ symbol.toNat ≤ 102) := by
    unfold hexDigitValue? at digit
    simp only [Char.le_def, UInt32.le_iff_toNat_le] at digit
    split at digit
    · rename_i range
      exact .inl range
    · split at digit
      · rename_i range
        exact .inr (.inl range)
      · split at digit
        · rename_i range
          exact .inr (.inr range)
        · cases digit
  exact isPlain_of_far (by omega)

/-- An escape of four hexadecimal digits. -/
theorem walks_quad {a b c d : Char} {code : Nat} (quad : hexQuad? a b c d = some code)
    (rest : List Char) :
    Walks ('\\' :: 'u' :: a :: b :: c :: d :: rest) rest inside inside := by
  unfold hexQuad? at quad
  split at quad
  · rename_i isFirst isSecond isThird isFourth
    refine ⟨['\\', 'u', a, b, c, d], rfl, ?_⟩
    intro depth
    change ((((inside depth).step a).step b).step c).step d = inside depth
    rw [(step_plain (isPlain_of_hexDigitValue? isFirst) depth).2,
      (step_plain (isPlain_of_hexDigitValue? isSecond) depth).2,
      (step_plain (isPlain_of_hexDigitValue? isThird) depth).2,
      (step_plain (isPlain_of_hexDigitValue? isFourth) depth).2]
  · cases quad

theorem Walks.beforeCharacters {text middle rest characters : List Char}
    {add : List Char → List Char} (walked : Walks text middle inside inside)
    (others : ∀ {rest characters}, readCharacters middle = some (characters, rest) →
      Walks middle rest inside outside)
    (read : ((readCharacters middle).map fun read => (add read.1, read.2)) =
      some (characters, rest)) :
    Walks text rest inside outside := by
  obtain ⟨⟨found, after⟩, isRead, same⟩ := Option.map_eq_some_iff.mp read
  cases same
  exact walked.trans (others isRead)

theorem walks_readCharacters {text rest characters : List Char}
    (read : readCharacters text = some (characters, rest)) : Walks text rest inside outside := by
  fun_induction readCharacters text generalizing characters rest
  case case2 =>
    cases read
    exact Walks.symbol fun _ => rfl
  case case6 isFirst _ _ _ isSecond _ _ others =>
    exact ((walks_quad isFirst _).trans (walks_quad isSecond _)).beforeCharacters others read
  case case8 isCode _ _ others | case11 isCode _ others =>
    exact (walks_quad isCode _).beforeCharacters others read
  case case13 escape text _ _ _ _ others =>
    have escaped : Walks ('\\' :: escape :: text) text inside inside :=
      ⟨['\\', escape], rfl, fun _ => rfl⟩
    exact escaped.beforeCharacters others read
  case case15 symbol text notQuote _ _ _ usual others =>
    have shown : Walks (symbol :: text) text inside inside := by
      refine Walks.symbol fun depth => ?_
      rw [step, if_neg notQuote, if_neg fun same => usual (.inl same)]
    exact shown.beforeCharacters others read
  all_goals cases read

/-! ### Values -/

theorem walks_readWord {word : List Char} (plain : Plain word) {found value : Json}
    {text rest : List Char} (read : readWord word value text = some (found, rest)) :
    Walks text rest outside outside := by
  unfold readWord at read
  split at read
  · rename_i starts
    cases read
    obtain ⟨after, rfl⟩ := List.isPrefixOf_iff_prefix.mp starts
    rw [List.drop_left]
    exact Walks.plain plain
  · cases read

/-- What is read between two brackets is balanced when it is up to the closing one. -/
theorem Walks.enclosed {opening closing : Char} (opens : isOpening opening = true)
    (closes : isClosing closing = true) {text rest : List Char}
    (walks : Walks text (closing :: rest) outside outside) :
    Walks (opening :: text) rest outside outside := by
  obtain ⟨used, rfl, balanced⟩ := walks
  refine ⟨opening :: (used ++ [closing]), ?_, Balanced.bracketed opens closes balanced⟩
  rw [List.cons_append, List.append_assoc]
  rfl

/-- What each of the three readers of documents does. -/
structure Reads (fuel : Nat) : Prop where
  value : ∀ {depth text value rest}, readValue fuel depth text = some (value, rest) →
    Walks text rest outside outside
  items : ∀ {depth text items rest}, readItems fuel depth text = some (items, rest) →
    Walks text (']' :: rest) outside outside
  fields : ∀ {depth fields text found rest},
    readFields fuel depth fields text = some (found, rest) →
    ∃ closing, isClosing closing = true ∧ Walks text (closing :: rest) outside outside

theorem Reads.zero : Reads 0 := by
  constructor
  · intro depth text value rest read
    rw [readValue] at read
    cases read
  · intro depth text items rest read
    rw [readItems] at read
    cases read
  · intro depth fields text found rest read
    rw [readFields] at read
    cases read

theorem isOpening_brace {symbol : Char} (brace : symbol.toNat = 0x7b) :
    isOpening symbol = true := by
  rw [isOpening, brace, Bool.or_eq_true]
  exact .inr rfl

theorem isClosing_brace {symbol : Char} (brace : symbol.toNat = 0x7d) :
    isClosing symbol = true := by
  rw [isClosing, brace, Bool.or_eq_true]
  exact .inr rfl

theorem walks_readValue {fuel : Nat} (reads : Reads fuel) {depth : Nat} {text rest : List Char}
    {value : Json} (read : readValue (fuel + 1) depth text = some (value, rest)) :
    Walks text rest outside outside := by
  unfold readValue at read
  split at read
  · cases read
  · obtain ⟨⟨characters, after⟩, isRead, same⟩ := Option.map_eq_some_iff.mp read
    cases same
    exact (Walks.symbol fun _ => rfl).trans (walks_readCharacters isRead)
  · rename_i text
    split at read
    · cases read
    · have closes : isClosing ']' = true := rfl
      refine Walks.enclosed rfl closes ((Walks.skipSpace text).trans ?_)
      split at read
      · rename_i after isEmpty
        cases read
        rw [isEmpty]
        exact Walks.refl _ _
      · obtain ⟨⟨items, after⟩, isRead, same⟩ := Option.map_eq_some_iff.mp read
        cases same
        exact reads.items isRead
  · exact walks_readWord (by decide) read
  · exact walks_readWord (by decide) read
  · exact walks_readWord (by decide) read
  · rename_i symbol text _ _ _ _ _
    split at read
    · rename_i brace
      split at read
      · cases read
      · split at read
        · cases read
        · rename_i next after isNext
          split at read
          · rename_i closes
            cases read
            refine Walks.enclosed (isOpening_brace brace) (isClosing_brace closes) ?_
            rw [← isNext]
            exact Walks.skipSpace text
          · obtain ⟨⟨fields, after⟩, isRead, same⟩ := Option.map_eq_some_iff.mp read
            cases same
            obtain ⟨closing, closes, walked⟩ := reads.fields isRead
            rw [← isNext] at walked
            exact Walks.enclosed (isOpening_brace brace) closes
              ((Walks.skipSpace text).trans walked)
    · exact walks_readNumber read

theorem walks_readItems {fuel : Nat} (reads : Reads fuel) {depth : Nat} {text rest : List Char}
    {items : List Json} (read : readItems (fuel + 1) depth text = some (items, rest)) :
    Walks text (']' :: rest) outside outside := by
  unfold readItems at read
  split at read
  · cases read
  · rename_i item middle isRead
    refine (reads.value isRead).trans ((Walks.skipSpace middle).trans ?_)
    split at read
    · rename_i after isClosed
      cases read
      rw [isClosed]
      exact Walks.refl _ _
    · rename_i more continues
      rw [continues]
      obtain ⟨⟨others, after⟩, isOthers, same⟩ := Option.map_eq_some_iff.mp read
      cases same
      have comma : Walks (',' :: more) more outside outside := Walks.symbol fun _ => rfl
      exact comma.trans ((Walks.skipSpace more).trans (reads.items isOthers))
    · cases read

theorem walks_readFields {fuel : Nat} (reads : Reads fuel) {depth : Nat} {text rest : List Char}
    {fields found : List (String × Json)}
    (read : readFields (fuel + 1) depth fields text = some (found, rest)) :
    ∃ closing, isClosing closing = true ∧ Walks text (closing :: rest) outside outside := by
  unfold readFields at read
  split at read
  · rename_i text
    split at read
    · cases read
    · rename_i name afterName isName
      split at read
      · rename_i beforeValue isColon
        split at read
        · cases read
        · rename_i value afterValue isValue
          have quote : Walks ('"' :: text) text outside inside := Walks.symbol fun _ => rfl
          have colon : Walks (':' :: beforeValue) beforeValue outside outside :=
            Walks.symbol fun _ => rfl
          have field : Walks ('"' :: text) (skipSpace afterValue) outside outside := by
            refine quote.trans ((walks_readCharacters isName).trans ?_)
            refine (Walks.skipSpace afterName).trans ?_
            rw [isColon]
            refine colon.trans ((Walks.skipSpace beforeValue).trans ?_)
            exact (reads.value isValue).trans (Walks.skipSpace afterValue)
          split at read
          · rename_i more continues
            obtain ⟨closing, closes, walked⟩ := reads.fields read
            refine ⟨closing, closes, field.trans ?_⟩
            rw [continues]
            have comma : Walks (',' :: more) more outside outside := Walks.symbol fun _ => rfl
            exact comma.trans ((Walks.skipSpace more).trans walked)
          · rename_i symbol after _ isClosed
            split at read
            · rename_i brace
              cases read
              refine ⟨symbol, isClosing_brace brace, ?_⟩
              rw [← isClosed]
              exact field
            · cases read
          · cases read
      · cases read
  · cases read

theorem reads (fuel : Nat) : Reads fuel := by
  induction fuel with
  | zero => exact Reads.zero
  | succ fuel smaller =>
      exact ⟨walks_readValue smaller, walks_readItems smaller, walks_readFields smaller⟩

def IsDocument (text : String) : Prop :=
  ∃ limit document, parseNested? limit text.toList = some document

theorem IsDocument.balanced {text : String} (isDocument : IsDocument text) :
    Balanced text.toList := by
  obtain ⟨limit, document, parsed⟩ := isDocument
  unfold parseNested? at parsed
  split at parsed
  · cases parsed
  · rename_i found rest isRead
    split at parsed
    · rename_i isEmpty
      have whole : Walks text.toList (skipSpace rest) outside outside :=
        (Walks.skipSpace _).trans (((reads _).value isRead).trans (Walks.skipSpace rest))
      obtain ⟨used, split, balanced⟩ := whole
      rw [List.isEmpty_iff.mp isEmpty, List.append_nil] at split
      rw [split]
      exact balanced
    · cases parsed

theorem IsDocument.ne_empty {text : String} (isDocument : IsDocument text) : text ≠ "" := by
  rintro rfl
  obtain ⟨limit, document, parsed⟩ := isDocument
  cases parsed

end EntityQuery.Json
