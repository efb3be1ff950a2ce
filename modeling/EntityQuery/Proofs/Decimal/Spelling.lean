import EntityQuery.Proofs.Decimal.Numeral

/-!
# The spelling of numerals

The texts of whole numbers and of decimal numerals as a grammar: which parts a numeral has, which of
them may be absent, and what number the parts stand for.  A text is read as a numeral exactly if the
grammar has it, and as the numeral that the grammar says.
-/

set_option autoImplicit false

namespace EntityQuery.Decimal

open Text (GoesOn goesOn_cons takeWhile_append_stop goesOn_dropWhile)

/-- A sign in front of a number, and whether it is a minus. -/
inductive Signs : List Char → Bool → Prop where
  | none : Signs [] false
  | plus : Signs ['+'] false
  | minus : Signs ['-'] true

structure Digital (digits : List Char) : Prop where
  notEmpty : digits ≠ []
  areDigits : ∀ symbol ∈ digits, isDigit symbol = true

/-- The text of a whole number: a sign and digits. -/
inductive SpellsInteger : List Char → ℤ → Prop where
  | intro {sign digits : List Char} {negative : Bool} (signed : Signs sign negative)
      (digital : Digital digits) :
      SpellsInteger (sign ++ digits) (applySign negative (digitsValue 0 digits))

/-- What stands after the digits of a numeral: nothing, or the letter of either case and the power
of ten. -/
inductive Raises : List Char → ℤ → Prop where
  | nothing : Raises [] 0
  | power {letter : Char} {text : List Char} {power : ℤ} (isLetter : letter = 'e' ∨ letter = 'E')
      (spells : SpellsInteger text power) : Raises (letter :: text) power

/-- What stands between the whole digits and the power of ten: nothing, or a point and further
digits, of which there may be none. -/
inductive Points : List Char → List Char → Prop where
  | nothing : Points [] []
  | point (fraction : List Char) : Points ('.' :: fraction) fraction

/-- The text of a numeral: a sign, digits with at most one point among or beside them, and a power
of ten. -/
inductive Spells : List Char → Numeral → Prop where
  | intro {sign whole pointed fraction raised : List Char} {negative : Bool} {power : ℤ}
      (signed : Signs sign negative) (points : Points pointed fraction)
      (digital : Digital (whole ++ fraction)) (raises : Raises raised power) :
      Spells (sign ++ (whole ++ (pointed ++ raised)))
        ⟨negative, digitsValue 0 (whole ++ fraction), power - fraction.length⟩

theorem digitsValue_lt {digits : List Char}
    (areDigits : ∀ symbol ∈ digits, isDigit symbol = true) :
    digitsValue 0 digits < 10 ^ digits.length := by
  induction digits with
  | nil => decide
  | cons symbol rest inductionHypothesis =>
      obtain ⟨digit, rest_⟩ := List.forall_mem_cons.mp areDigits
      have first : digitsValue 0 [symbol] < 10 := by
        rw [digitsValue, List.foldl_cons, List.foldl_nil, digitValue?,
          if_pos (by simpa [isDigit] using digit), Option.getD_some]
        simp only [isDigit, Bool.and_eq_true, decide_eq_true_eq, Char.le_def,
          UInt32.le_iff_toNat_le] at digit
        have high : symbol.toNat ≤ 57 := digit.2
        have zero : '0'.toNat = 48 := rfl
        omega
      have small := inductionHypothesis rest_
      rw [← List.singleton_append, digitsValue_append, digitsValue_start rest_,
        List.length_append, List.length_singleton, Nat.pow_add]
      calc digitsValue 0 [symbol] * 10 ^ rest.length + digitsValue 0 rest
          < digitsValue 0 [symbol] * 10 ^ rest.length + 10 ^ rest.length := by omega
        _ = (digitsValue 0 [symbol] + 1) * 10 ^ rest.length := (Nat.succ_mul _ _).symm
        _ ≤ 10 ^ 1 * 10 ^ rest.length := Nat.mul_le_mul_right _ (by omega)

theorem notBlank_sign {sign : List Char} {negative : Bool} (signed : Signs sign negative) :
    ∀ symbol ∈ sign, Text.isBlank symbol = false := by
  cases signed <;> simp <;> decide

theorem notBlank_digits {digits : List Char}
    (areDigits : ∀ symbol ∈ digits, isDigit symbol = true) :
    ∀ symbol ∈ digits, Text.isBlank symbol = false :=
  fun symbol member => isBlank_of_isDigit (areDigits symbol member)

theorem trim_spells {text : List Char} {numeral : Numeral} (spells : Spells text numeral) :
    Text.trim text = text := by
  refine Text.trimBoth_eq_self ?_
  cases spells with
  | @intro sign whole pointed fraction raised negative power signed points digital raises =>
      obtain ⟨wholeDigits, fractionDigits⟩ := List.forall_mem_append.mp digital.areDigits
      simp only [List.forall_mem_append]
      refine ⟨notBlank_sign signed, notBlank_digits wholeDigits, ?_, ?_⟩
      · cases points with
        | nothing => exact fun symbol member => absurd member List.not_mem_nil
        | point =>
            exact List.forall_mem_cons.mpr ⟨by decide, notBlank_digits fractionDigits⟩
      · cases raises with
        | nothing => exact fun symbol member => absurd member List.not_mem_nil
        | power isLetter spells =>
            cases spells with
            | intro signed digital =>
                refine List.forall_mem_cons.mpr ⟨?_, List.forall_mem_append.mpr
                  ⟨notBlank_sign signed, notBlank_digits digital.areDigits⟩⟩
                rcases isLetter with rfl | rfl <;> decide

/-! ## Reading -/

theorem digital_iff {digits : List Char} :
    Digital digits ↔ (digits.isEmpty || !digits.all isDigit) = false := by
  constructor
  · rintro ⟨notEmpty, areDigits⟩
    have every : digits.all isDigit = true := List.all_eq_true.mpr areDigits
    simp [every, notEmpty]
  · intro both
    simp only [Bool.or_eq_false_iff, List.isEmpty_eq_false_iff, Bool.not_eq_false'] at both
    exact ⟨both.1, List.all_eq_true.mp both.2⟩

theorem signs_readSign (text : List Char) :
    ∃ sign, Signs sign (readSign text).1 ∧ text = sign ++ (readSign text).2 := by
  rw [readSign.eq_def]
  split
  · exact ⟨['-'], .minus, rfl⟩
  · exact ⟨['+'], .plus, rfl⟩
  · exact ⟨[], .none, rfl⟩

theorem readSign_signs {sign text : List Char} {negative : Bool} (signed : Signs sign negative)
    (noSign : GoesOn (fun symbol => symbol ≠ '-' ∧ symbol ≠ '+') text) :
    readSign (sign ++ text) = (negative, text) := by
  cases signed with
  | plus => rfl
  | minus => rfl
  | none =>
      cases text with
      | nil => rfl
      | cons symbol rest =>
          obtain ⟨notMinus, notPlus⟩ := goesOn_cons.mp noSign
          rw [List.nil_append, readSign]
          · rintro _ ⟨⟩
            exact notMinus rfl
          · rintro _ ⟨⟩
            exact notPlus rfl

theorem not_sign_of_isDigit {symbol : Char} (digit : isDigit symbol = true) :
    symbol ≠ '-' ∧ symbol ≠ '+' := by
  constructor <;> rintro rfl <;> exact absurd digit (by decide)

theorem Digital.noSign {digits : List Char} (digital : Digital digits) (rest : List Char) :
    GoesOn (fun symbol => symbol ≠ '-' ∧ symbol ≠ '+') (digits ++ rest) := by
  obtain ⟨first, others, rfl⟩ := List.exists_cons_of_ne_nil digital.notEmpty
  exact goesOn_cons.mpr (not_sign_of_isDigit (digital.areDigits first List.mem_cons_self))

theorem readInteger?_eq_some {text : List Char} {value : ℤ} :
    readInteger? text = some value ↔ SpellsInteger text value := by
  constructor
  · intro read
    obtain ⟨sign, signed, split⟩ := signs_readSign text
    rw [readInteger?] at read
    dsimp only at read
    split at read
    · cases read
    · rename_i digits
      cases read
      have spelled := SpellsInteger.intro signed (digital_iff.mpr (Bool.not_eq_true _ ▸ digits))
      rwa [← split] at spelled
  · rintro ⟨signed, digital⟩
    have noSign := digital.noSign []
    rw [List.append_nil] at noSign
    rw [readInteger?, readSign_signs signed noSign]
    dsimp only
    rw [digital_iff.mp digital]
    rfl

theorem readExponent?_eq_some {text : List Char} {power : ℤ} :
    readExponent? text = some power ↔ Raises text power := by
  constructor
  · intro read
    cases text with
    | nil =>
        cases read
        exact .nothing
    | cons letter rest =>
        rw [readExponent?] at read
        split at read
        · rename_i isLetter
          exact .power (by simpa using isLetter) (readInteger?_eq_some.mp read)
        · cases read
  · intro raises
    cases raises with
    | nothing => rfl
    | power isLetter spells =>
        rw [readExponent?, if_pos (by simpa using isLetter)]
        exact readInteger?_eq_some.mpr spells

theorem goesOn_raises {raised : List Char} {power : ℤ} (raises : Raises raised power) :
    GoesOn (fun symbol => isDigit symbol = false) raised ∧
      ∀ rest, raised ≠ '.' :: rest := by
  cases raises with
  | nothing => exact ⟨Text.goesOn_nil _, fun rest same => by cases same⟩
  | power isLetter spells =>
      rcases isLetter with rfl | rfl
      · exact ⟨goesOn_cons.mpr (by decide), fun rest same => by cases same⟩
      · exact ⟨goesOn_cons.mpr (by decide), fun rest same => by cases same⟩

def splitFraction : List Char → List Char × List Char
  | '.' :: rest => (rest.takeWhile isDigit, rest.dropWhile isDigit)
  | other => ([], other)

theorem readNumeral?_eq {text unsigned whole fraction raised : List Char} {negative : Bool}
    (sign : readSign text = (negative, unsigned)) (isWhole : unsigned.takeWhile isDigit = whole)
    (parts : splitFraction (unsigned.dropWhile isDigit) = (fraction, raised)) :
    readNumeral? text = if whole.isEmpty && fraction.isEmpty then none
      else (readExponent? raised).map fun power =>
        ⟨negative, digitsValue 0 (whole ++ fraction), power - fraction.length⟩ := by
  rw [readNumeral?, sign]
  dsimp only
  rw [isWhole]
  generalize unsigned.dropWhile isDigit = later at parts ⊢
  by_cases point : ∃ rest, later = '.' :: rest
  · obtain ⟨rest, rfl⟩ := point
    cases parts
    cases exponent : readExponent? (rest.dropWhile isDigit) <;> simp [exponent]
  · have noPoint : ∀ rest, later ≠ '.' :: rest := fun rest same => point ⟨rest, same⟩
    rw [splitFraction.eq_2 later noPoint] at parts
    cases parts
    split
    · rename_i rest
      exact absurd rfl (noPoint rest)
    · cases readExponent? _ <;> rfl

theorem splitFraction_points (later : List Char) :
    ∃ pointed, later = pointed ++ (splitFraction later).2 ∧
      Points pointed (splitFraction later).1 ∧
      ∀ symbol ∈ (splitFraction later).1, isDigit symbol = true := by
  rw [splitFraction.eq_def]
  split
  · rename_i rest
    refine ⟨_, ?_, .point _, fun symbol member => List.mem_takeWhile_imp member⟩
    rw [List.cons_append, List.takeWhile_append_dropWhile]
  · exact ⟨[], rfl, .nothing, fun symbol member => absurd member List.not_mem_nil⟩

theorem splitFraction_append {pointed fraction raised : List Char} {power : ℤ}
    (points : Points pointed fraction) (areDigits : ∀ symbol ∈ fraction, isDigit symbol = true)
    (raises : Raises raised power) : splitFraction (pointed ++ raised) = (fraction, raised) := by
  obtain ⟨stops, noPoint⟩ := goesOn_raises raises
  cases points with
  | nothing => exact splitFraction.eq_2 raised noPoint
  | point =>
      obtain ⟨taken, dropped⟩ := takeWhile_append_stop areDigits stops
      rw [List.cons_append, splitFraction, taken, dropped]

theorem readNumeral?_eq_some {text : List Char} {numeral : Numeral} :
    readNumeral? text = some numeral ↔ Spells text numeral := by
  constructor
  · intro read
    obtain ⟨negative, unsigned, isSign⟩ :
        ∃ negative unsigned, readSign text = (negative, unsigned) := ⟨_, _, rfl⟩
    obtain ⟨fraction, raised, parts⟩ : ∃ fraction raised,
        splitFraction (unsigned.dropWhile isDigit) = (fraction, raised) := ⟨_, _, rfl⟩
    obtain ⟨sign, signed, front⟩ := signs_readSign text
    obtain ⟨pointed, shape, points, fractionDigits⟩ :=
      splitFraction_points (unsigned.dropWhile isDigit)
    rw [isSign] at signed front
    rw [parts] at shape points fractionDigits
    rw [readNumeral?_eq isSign rfl parts] at read
    split at read
    · cases read
    · rename_i some_
      obtain ⟨power, exponent, rfl⟩ := Option.map_eq_some_iff.mp read
      have digital : Digital (unsigned.takeWhile isDigit ++ fraction) := by
        refine ⟨by simpa using some_, List.forall_mem_append.mpr ⟨?_, fractionDigits⟩⟩
        exact fun symbol member => List.mem_takeWhile_imp member
      have spelled := Spells.intro signed points digital (readExponent?_eq_some.mp exponent)
      rwa [← shape, List.takeWhile_append_dropWhile, ← front] at spelled
  · rintro ⟨signed, points, digital, raises⟩
    rename_i sign whole pointed fraction raised negative power
    obtain ⟨wholeDigits, fractionDigits⟩ := List.forall_mem_append.mp digital.areDigits
    have later : GoesOn (fun symbol => isDigit symbol = false) (pointed ++ raised) := by
      cases points with
      | nothing => exact (goesOn_raises raises).1
      | point => exact goesOn_cons.mpr (by decide)
    have noSign : GoesOn (fun symbol => symbol ≠ '-' ∧ symbol ≠ '+')
        (whole ++ (pointed ++ raised)) := by
      cases whole with
      | cons first rest =>
          exact goesOn_cons.mpr (not_sign_of_isDigit (wholeDigits first List.mem_cons_self))
      | nil =>
          cases points with
          | nothing => exact absurd rfl digital.notEmpty
          | point => exact goesOn_cons.mpr (by decide)
    obtain ⟨taken, dropped⟩ := takeWhile_append_stop wholeDigits later
    have some_ : (whole.isEmpty && fraction.isEmpty) = false := by
      have notEmpty := digital.notEmpty
      cases whole <;> simp_all
    rw [readNumeral?_eq (readSign_signs signed noSign) taken
      (dropped ▸ splitFraction_append points fractionDigits raises), some_,
      readExponent?_eq_some.mpr raises]
    rfl

end EntityQuery.Decimal
