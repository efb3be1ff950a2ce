import EntityQuery.Proofs.Decimal.Numeral

/-!
# Written numbers are read back

The shortest digits of a number are digits that read back as the number, and every layout writes
these digits.  So a number of the format is read from its text as it is, with the sign of a zero,
and different numbers have different texts.
-/

set_option autoImplicit false

namespace EntityQuery.Decimal

open Text (GoesOn)

namespace Shortest

open Binary64 (Representable)

theorem readsBack_iff (units digits : Nat) (exponent : Int) :
    readsBack units digits exponent = true ↔
      Numeral.toBinary64 ⟨false, digits, exponent⟩ = .finite false units := by
  rw [readsBack, beq_iff_eq]

theorem readsBack_neighbour? {tie : Tie} {units : Nat} {exponent : Int} {value : Digits}
    (found : neighbour? tie units exponent = some value) :
    readsBack units value.digits value.exponent = true := by
  simp only [neighbour?] at found
  split at found
  · cases found
  · rename_i lower _
    cases found
    exact lower
  · rename_i _ upper
    cases found
    exact upper
  · rename_i lower upper
    split at found
    · cases found
      exact lower
    · split at found
      · cases found
        exact upper
      · split at found
        · cases found
          exact lower
        · cases found
          exact upper

theorem toBinary64_stripZeros (negative : Bool) (fuel : Nat) (value : Digits) :
    Numeral.toBinary64 ⟨negative, (stripZeros fuel value).digits,
        (stripZeros fuel value).exponent⟩ =
      Numeral.toBinary64 ⟨negative, value.digits, value.exponent⟩ := by
  induction fuel generalizing value with
  | zero => rfl
  | succ fuel inductionHypothesis =>
      rw [stripZeros]
      split
      · rename_i ends
        have shorter : value.digits / 10 * 10 = value.digits := by omega
        rw [inductionHypothesis, ← Numeral.toBinary64_mul_ten, shorter]
      · rfl

/-- The shortest digits of a number read back as the number. -/
theorem toBinary64_shortest (negative : Bool) (tie : Tie) {units : Nat}
    (representable : Representable units) :
    Numeral.toBinary64 ⟨negative, (shortest tie units).digits, (shortest tie units).exponent⟩ =
      .finite negative units := by
  refine Numeral.toBinary64_sign negative ?_
  simp only [shortest]
  rw [toBinary64_stripZeros]
  cases found : (List.range 17).findSome? fun (extra : Nat) =>
      neighbour? tie units (leadingPower units - extra) with
  | none => exact Numeral.toBinary64_exact false representable
  | some value =>
      obtain ⟨extra, -, isNeighbour⟩ := List.exists_of_findSome?_eq_some found
      exact (readsBack_iff _ _ _).mp (readsBack_neighbour? isNeighbour)

end Shortest

namespace Layout

def Reads (text : List Char) (negative : Bool) (value : Digits) : Prop :=
  ∃ numeral, readNumeral? text = some numeral ∧
    numeral.toBinary64 = Numeral.toBinary64 ⟨negative, value.digits, value.exponent⟩

/-- Written digits may end in zeros that count as powers of ten. -/
theorem reads_of_digits (negative : Bool) {value : Digits} {whole fraction tail : List Char}
    {power : Int} (count : Nat) (notEmpty : whole ≠ [])
    (areDigits : ∀ symbol ∈ whole ++ fraction, isDigit symbol = true)
    (held : digitsValue 0 (whole ++ fraction) = value.digits * 10 ^ count)
    (exponent : readExponent? tail = some power)
    (place : power - fraction.length + count = value.exponent) :
    Reads (signText negative ++ (whole ++ (fractionText fraction ++ tail))) negative value := by
  obtain ⟨wholeDigits, fractionDigits⟩ := List.forall_mem_append.mp areDigits
  refine ⟨_, readNumeral?_written negative notEmpty wholeDigits fractionDigits exponent, ?_⟩
  rw [held, Numeral.toBinary64_mul_pow, place]

theorem reads_positionalText (keepsPoint negative : Bool) (value : Digits) :
    Reads (signText negative ++ positionalText keepsPoint value) negative value := by
  have notEmpty : digitChars value.digits ≠ [] := Nat.toDigits_ne_nil
  have areDigits : ∀ symbol ∈ digitChars value.digits, isDigit symbol = true :=
    fun symbol => isDigit_toDigits
  have held : digitsValue 0 (digitChars value.digits) = value.digits := digitsValue_toDigits _
  have areZeros : ∀ count, ∀ symbol ∈ zeros count, isDigit symbol = true :=
    fun count symbol => isDigit_zeros
  simp only [positionalText]
  generalize digitChars value.digits = digits at notEmpty areDigits held ⊢
  by_cases whole : 0 ≤ value.exponent
  · -- The zeros up to the point, and the one after it, count as powers of ten.
    obtain ⟨places, point⟩ : ∃ places : Nat,
        (if keepsPoint then ['.', '0'] else []) = fractionText (zeros places) ++ [] := by
      cases keepsPoint with
      | true => exact ⟨1, rfl⟩
      | false => exact ⟨0, rfl⟩
    rw [if_pos whole, point]
    apply reads_of_digits negative (value.exponent.toNat + places)
      (List.append_ne_nil_of_left_ne_nil notEmpty _)
    · exact List.forall_mem_append.mpr ⟨List.forall_mem_append.mpr ⟨areDigits, areZeros _⟩,
        areZeros _⟩
    · rw [digitsValue_append, digitsValue_append, held, zeros, zeros, digitsValue_zeros,
        digitsValue_zeros, Nat.pow_add, Nat.mul_assoc]
    · exact (rfl : readExponent? [] = some 0)
    · rw [zeros, List.length_replicate]
      omega
  · obtain ⟨places, isExponent⟩ : ∃ places : Nat, value.exponent = -(places + 1 : Nat) :=
      ⟨(-value.exponent).toNat - 1, by omega⟩
    have isPlaces : (-value.exponent).toNat = places + 1 := by omega
    rw [if_neg whole, isPlaces]
    by_cases inside : places + 1 < digits.length
    · have rest : digits.drop (digits.length - (places + 1)) ≠ [] := by
        rw [ne_eq, List.drop_eq_nil_iff]
        omega
      rw [if_pos inside, ← fractionText_of_ne_nil rest, ← List.append_nil (fractionText _)]
      apply reads_of_digits negative 0
      · rw [ne_eq, List.take_eq_nil_iff]
        exact fun none_ => none_.elim (by omega) notEmpty
      · rwa [List.take_append_drop]
      · rw [List.take_append_drop, held, Nat.pow_zero, Nat.mul_one]
      · exact (rfl : readExponent? [] = some 0)
      · rw [List.length_drop, isExponent]
        omega
    · have rest : zeros (places + 1 - digits.length) ++ digits ≠ [] :=
        List.append_ne_nil_of_right_ne_nil _ notEmpty
      rw [if_neg inside, ← fractionText_of_ne_nil rest, ← List.append_nil (fractionText _)]
      apply reads_of_digits negative 0 (List.cons_ne_nil '0' [])
      · exact List.forall_mem_append.mpr ⟨areZeros 1, List.forall_mem_append.mpr
          ⟨areZeros _, areDigits⟩⟩
      · rw [digitsValue_append, digitsValue_append, zeros, digitsValue_zeros, Nat.pow_zero,
          Nat.mul_one]
        exact (congrArg (digitsValue · digits) (Nat.zero_mul _)).trans held
      · exact (rfl : readExponent? [] = some 0)
      · rw [List.length_append, zeros, List.length_replicate]
        omega

theorem reads_exponentText (plusSign negative : Bool) (value : Digits) :
    Reads (signText negative ++ exponentText plusSign value) negative value := by
  obtain ⟨first, rest, shape, digits⟩ := toDigits_eq_cons value.digits
  have isText : exponentText plusSign value = [first] ++ (fractionText rest ++ 'e' ::
      ((if value.exponent + rest.length < 0 then ['-'] else if plusSign then ['+'] else []) ++
        Nat.toDigits 10 (value.exponent + rest.length).natAbs)) := by
    have power : value.exponent + ((first :: rest).length : Nat) - 1 =
        value.exponent + rest.length := by
      rw [List.length_cons]
      omega
    simp only [exponentText, digitChars, shape, power]
    cases rest <;> rfl
  have exponent : readExponent? ('e' :: ((if value.exponent + rest.length < 0 then ['-'] else
      if plusSign then ['+'] else []) ++
        Nat.toDigits 10 (value.exponent + rest.length).natAbs)) =
      some (value.exponent + rest.length) := by
    rw [readExponent?, if_pos (by decide)]
    generalize value.exponent + rest.length = power
    by_cases below : power < 0
    · rw [if_pos below]
      refine (readInteger?_signText true power.natAbs).trans (congrArg some ?_)
      change -(power.natAbs : Int) = power
      omega
    · have same : applySign false power.natAbs = power := by
        change (power.natAbs : Int) = power
        omega
      rw [if_neg below]
      cases plusSign with
      | true => exact (readInteger?_of_readSign rfl).trans (congrArg some same)
      | false => exact (readInteger?_signText false power.natAbs).trans (congrArg some same)
  rw [isText]
  have held : digitsValue 0 ([first] ++ rest) = value.digits * 10 ^ 0 := by
    rw [Nat.pow_zero, Nat.mul_one, List.singleton_append, ← shape, digitsValue_toDigits]
  exact reads_of_digits negative 0 (List.cons_ne_nil first []) digits held exponent (by omega)

open Binary64 (Representable)

theorem reads_magnitudeText (layout : Layout) (negative : Bool) {units : Nat}
    (representable : Representable units) :
    ∃ numeral, readNumeral? (signText negative ++ layout.magnitudeText units) = some numeral ∧
      numeral.toBinary64 = .finite negative units := by
  rw [magnitudeText]
  by_cases isZero : units = 0
  · obtain ⟨numeral, read, value⟩ := reads_positionalText layout.keepsPoint negative ⟨0, 0⟩
    rw [if_pos isZero, isZero]
    exact ⟨numeral, read, value.trans (Numeral.toBinary64_zero _ _)⟩
  · rw [if_neg isZero]
    have shortest_ := Shortest.toBinary64_shortest negative layout.tie representable
    dsimp only
    split
    · obtain ⟨numeral, read, value⟩ :=
        reads_positionalText layout.keepsPoint negative (shortest layout.tie units)
      exact ⟨numeral, read, value.trans shortest_⟩
    · obtain ⟨numeral, read, value⟩ :=
        reads_exponentText layout.plusSign negative (shortest layout.tie units)
      exact ⟨numeral, read, value.trans shortest_⟩

theorem read?_write (layout : Layout) (negative : Bool) {units : Nat}
    (representable : Representable units) :
    Binary64.read? (layout.write (.finite negative units)) = some (.finite negative units) := by
  obtain ⟨numeral, read, value⟩ := reads_magnitudeText layout negative representable
  rw [write, Binary64.read?_of_readNumeral? read, value]

theorem read?_wire {value : Binary64} (wellFormed : value.WellFormed) (isNumber : value ≠ .nan) :
    Binary64.read? (wire.write value) = some value := by
  cases value with
  | nan => exact absurd rfl isNumber
  | infinite negative => cases negative <;> rfl
  | finite negative units => exact read?_write wire negative wellFormed

/-! ## Symbols -/

def IsNumeralSymbol (symbol : Char) : Prop :=
  isDigit symbol = true ∨ symbol ∈ ['.', '-', '+', 'e']

theorem IsNumeralSymbol.isBlank {symbol : Char} (numeral : IsNumeralSymbol symbol) :
    Text.isBlank symbol = false := by
  rcases numeral with digit | mark
  · exact isBlank_of_isDigit digit
  · simp only [List.mem_cons, List.not_mem_nil, or_false] at mark
    rcases mark with rfl | rfl | rfl | rfl <;> decide

section Symbols

variable {symbol : Char}

theorem numeralSymbol_mark (mark : symbol ∈ ['.', '-', '+', 'e']) : IsNumeralSymbol symbol :=
  Or.inr mark

theorem numeralSymbol_digits {value : Nat} (member : symbol ∈ digitChars value) :
    IsNumeralSymbol symbol :=
  Or.inl (isDigit_toDigits member)

theorem numeralSymbol_zeros {count : Nat} (member : symbol ∈ zeros count) :
    IsNumeralSymbol symbol :=
  Or.inl (isDigit_zeros member)

theorem numeralSymbol_positionalText {keepsPoint : Bool} {value : Digits}
    (member : symbol ∈ positionalText keepsPoint value) : IsNumeralSymbol symbol := by
  unfold positionalText at member
  dsimp only at member
  split at member
  · simp only [List.mem_append] at member
    rcases member with (digit | zero) | point
    · exact numeralSymbol_digits digit
    · exact numeralSymbol_zeros zero
    · split at point
      · simp only [List.mem_cons, List.not_mem_nil, or_false] at point
        rcases point with rfl | rfl
        · exact numeralSymbol_mark (by simp)
        · exact Or.inl (by decide)
      · cases point
  · split at member
    · simp only [List.mem_append, List.mem_cons] at member
      rcases member with digit | rfl | digit
      · exact numeralSymbol_digits (List.mem_of_mem_take digit)
      · exact numeralSymbol_mark (by simp)
      · exact numeralSymbol_digits (List.mem_of_mem_drop digit)
    · simp only [List.mem_cons, List.mem_append] at member
      rcases member with rfl | rfl | zero | digit
      · exact Or.inl (by decide)
      · exact numeralSymbol_mark (by simp)
      · exact numeralSymbol_zeros zero
      · exact numeralSymbol_digits digit

theorem numeralSymbol_exponentText {plusSign : Bool} {value : Digits}
    (member : symbol ∈ exponentText plusSign value) : IsNumeralSymbol symbol := by
  unfold exponentText at member
  simp only [List.mem_append, List.mem_cons] at member
  rcases member with mantissa | rfl | sign | digit
  · split at mantissa
    · cases mantissa
    · rename_i single shape
      exact numeralSymbol_digits (shape ▸ mantissa)
    · rename_i first rest several shape
      rcases List.mem_cons.mp mantissa with rfl | point
      · exact numeralSymbol_digits (shape ▸ List.mem_cons_self)
      · rcases List.mem_cons.mp point with rfl | digit
        · exact numeralSymbol_mark (by simp)
        · exact numeralSymbol_digits (shape ▸ List.mem_cons_of_mem _ digit)
  · exact numeralSymbol_mark (by simp)
  · repeat' split at sign
    · exact numeralSymbol_mark (List.mem_singleton.mp sign ▸ by simp)
    · exact numeralSymbol_mark (List.mem_singleton.mp sign ▸ by simp)
    · cases sign
  · exact numeralSymbol_digits digit

theorem numeralSymbol_write {layout : Layout} {negative : Bool} {units : Nat}
    (member : symbol ∈ layout.write (.finite negative units)) : IsNumeralSymbol symbol := by
  rcases List.mem_append.mp member with sign | magnitude
  · unfold signText at sign
    split at sign
    · exact numeralSymbol_mark (List.mem_singleton.mp sign ▸ by simp)
    · cases sign
  · unfold magnitudeText at magnitude
    split at magnitude
    · split at magnitude
      · simp only [List.mem_cons, List.not_mem_nil, or_false] at magnitude
        rcases magnitude with rfl | rfl | rfl
        · exact Or.inl (by decide)
        · exact numeralSymbol_mark (by simp)
        · exact Or.inl (by decide)
      · rw [List.mem_singleton.mp magnitude]
        exact Or.inl (by decide)
    · dsimp only at magnitude
      split at magnitude
      · exact numeralSymbol_positionalText magnitude
      · exact numeralSymbol_exponentText magnitude

end Symbols

end Layout

end EntityQuery.Decimal
