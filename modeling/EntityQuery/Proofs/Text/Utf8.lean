import EntityQuery.Text.Utf8
import Mathlib.Tactic.Common

/-!
# Reading the bytes of a text

The bytes of every text are read back as the text, and a byte below 128 among them is a character of
its own.
-/

set_option autoImplicit false

namespace EntityQuery.Text

theorem utf8_append (first second : List Char) :
    utf8 (first ++ second) = utf8 first ++ utf8 second :=
  List.flatMap_append

theorem utf8_cons (symbol : Char) (rest : List Char) :
    utf8 (symbol :: rest) = String.utf8EncodeChar symbol ++ utf8 rest := rfl

theorem toNat_ofNat_of_lt {value : Nat} (small : value < 256) :
    (UInt8.ofNat value).toNat = value := by
  rw [UInt8.toNat_ofNat']
  exact Nat.mod_eq_of_lt small

theorem char_code_lt (symbol : Char) : symbol.val.toNat < 1114112 := by
  rcases symbol.valid with low | high
  · exact Nat.lt_trans low (by decide)
  · exact high.2

/-- The code of a character lies beside the surrogates. -/
theorem char_code_apart (symbol : Char) : symbol.val.toNat < 55296 ∨ 57343 < symbol.val.toNat := by
  rcases symbol.valid with low | high
  · exact Or.inl low
  · exact Or.inr high.1

theorem ofNat_code (symbol : Char) {value : Nat} (same : value = symbol.val.toNat) :
    Char.ofNat value = symbol := by
  rw [same]
  exact Char.ofNat_toNat symbol

theorem lt_literal {value : Nat} (small : value < 256) (bound : UInt8) :
    UInt8.ofNat value < bound ↔ value < bound.toNat := by
  rw [UInt8.lt_iff_toNat_lt, toNat_ofNat_of_lt small]

theorem between_literals {value : Nat} (small : value < 256) (least most : UInt8) :
    (decide (least ≤ UInt8.ofNat value) && decide (UInt8.ofNat value ≤ most)) = true ↔
      least.toNat ≤ value ∧ value ≤ most.toNat := by
  rw [Bool.and_eq_true, decide_eq_true_eq, decide_eq_true_eq, UInt8.le_iff_toNat_le,
    UInt8.le_iff_toNat_le, toNat_ofNat_of_lt small]

theorem eq_literal {value : Nat} (small : value < 256) (bound : UInt8) :
    UInt8.ofNat value = bound ↔ value = bound.toNat := by
  rw [← UInt8.toNat_inj, toNat_ofNat_of_lt small]

theorem isContinuation_ofNat {low : Nat} (small : low < 64) :
    isContinuation (UInt8.ofNat (low + 128)) = true := by
  rw [isContinuation, between_literals (by omega)]
  exact ⟨show 128 ≤ low + 128 by omega, show low + 128 ≤ 191 by omega⟩

theorem payload_ofNat {low : Nat} (small : low < 64) : payload (UInt8.ofNat (low + 128)) = low := by
  rw [payload, toNat_ofNat_of_lt (by omega)]
  omega

/-- A character of three bytes has a second byte that neither makes it too long nor a surrogate. -/
theorem secondOfThree_ofNat {code : Nat} (least : 2047 < code) (most : code ≤ 65535)
    (apart : code < 55296 ∨ 57343 < code) :
    secondOfThree (UInt8.ofNat (code / 4096 % 16 + 224)) (UInt8.ofNat (code / 64 % 64 + 128)) =
      true := by
  have first : code / 4096 % 16 + 224 < 256 := by omega
  have second : code / 64 % 64 + 128 < 256 := by omega
  have ends : (0xE0 : UInt8).toNat = 224 ∧ (0xED : UInt8).toNat = 237 ∧ (0xA0 : UInt8).toNat = 160 ∧
      (0xBF : UInt8).toNat = 191 ∧ (0x80 : UInt8).toNat = 128 ∧ (0x9F : UInt8).toNat = 159 := by
    decide
  rw [secondOfThree]
  split
  · rename_i start
    rw [eq_literal first] at start
    exact (between_literals second _ _).mpr (by omega)
  · split
    · rename_i start
      rw [eq_literal first] at start
      exact (between_literals second _ _).mpr (by omega)
    · exact isContinuation_ofNat (by omega)

theorem secondOfFour_ofNat {code : Nat} (least : 65535 < code) (most : code < 1114112) :
    secondOfFour (UInt8.ofNat (code / 262144 % 8 + 240)) (UInt8.ofNat (code / 4096 % 64 + 128)) =
      true := by
  have first : code / 262144 % 8 + 240 < 256 := by omega
  have second : code / 4096 % 64 + 128 < 256 := by omega
  have ends : (0xF0 : UInt8).toNat = 240 ∧ (0xF4 : UInt8).toNat = 244 ∧ (0x90 : UInt8).toNat = 144 ∧
      (0xBF : UInt8).toNat = 191 ∧ (0x80 : UInt8).toNat = 128 ∧ (0x8F : UInt8).toNat = 143 := by
    decide
  rw [secondOfFour]
  split
  · rename_i start
    rw [eq_literal first] at start
    exact (between_literals second _ _).mpr (by omega)
  · split
    · rename_i start
      rw [eq_literal first] at start
      exact (between_literals second _ _).mpr (by omega)
    · exact isContinuation_ofNat (by omega)

theorem readCharacter_utf8EncodeChar (symbol : Char) (rest : List UInt8) :
    readCharacter (String.utf8EncodeChar symbol ++ rest) =
      .character symbol (String.utf8EncodeChar symbol).length rest := by
  have most := char_code_lt symbol
  have apart := char_code_apart symbol
  have starts : (0x80 : UInt8).toNat = 128 ∧ (0xC2 : UInt8).toNat = 194 ∧
      (0xE0 : UInt8).toNat = 224 ∧ (0xF0 : UInt8).toNat = 240 ∧
        (0xF5 : UInt8).toNat = 245 := by decide
  generalize code : symbol.val.toNat = value at most apart
  simp only [String.utf8EncodeChar, code]
  split
  · rename_i short
    have first : value < 256 := by omega
    simp only [List.cons_append, List.nil_append, readCharacter, lt_literal first]
    rw [if_pos (by omega), toNat_ofNat_of_lt first, ofNat_code symbol code.symm]
    rfl
  split
  · rename_i long short
    have first : value / 64 % 32 + 192 < 256 := by omega
    simp only [List.cons_append, List.nil_append, readCharacter, lt_literal first]
    rw [if_neg (by omega), if_neg (by omega), if_pos (by omega), readTwo,
      if_pos (isContinuation_ofNat (by omega)), toNat_ofNat_of_lt first,
      payload_ofNat (by omega), ofNat_code symbol (by omega)]
    rfl
  split
  · rename_i long short
    have first : value / 4096 % 16 + 224 < 256 := by omega
    have second := secondOfThree_ofNat (by omega) short apart
    simp only [List.cons_append, List.nil_append, readCharacter, lt_literal first]
    rw [if_neg (by omega), if_neg (by omega), if_neg (by omega), if_pos (by omega), readThree,
      if_pos second, if_pos (isContinuation_ofNat (by omega)), toNat_ofNat_of_lt first,
      payload_ofNat (by omega), payload_ofNat (by omega), ofNat_code symbol (by omega)]
    rfl
  · rename_i long
    have first : value / 262144 % 8 + 240 < 256 := by omega
    have second := secondOfFour_ofNat (by omega) most
    simp only [List.cons_append, List.nil_append, readCharacter, lt_literal first]
    rw [if_neg (by omega), if_neg (by omega), if_neg (by omega), if_neg (by omega),
      if_pos (by omega), readFour, if_pos second, if_pos (isContinuation_ofNat (by omega)),
      if_pos (isContinuation_ofNat (by omega)), toNat_ofNat_of_lt first,
      payload_ofNat (by omega), payload_ofNat (by omega), payload_ofNat (by omega),
      ofNat_code symbol (by omega)]
    rfl

theorem utf8EncodeChar_length_pos (symbol : Char) : 0 < (String.utf8EncodeChar symbol).length := by
  simp only [String.utf8EncodeChar]
  split
  · exact Nat.succ_pos _
  split
  · exact Nat.succ_pos _
  split <;> exact Nat.succ_pos _

theorem decodeFrom_utf8 (text : List Char) {fuel : Nat} (enough : (utf8 text).length ≤ fuel)
    (index : Nat) : decodeFrom fuel index (utf8 text) = .ok text := by
  induction text generalizing fuel index with
  | nil =>
      cases fuel with
      | zero => rfl
      | succ fuel => rfl
  | cons symbol rest inductionHypothesis =>
      have width := utf8EncodeChar_length_pos symbol
      rw [utf8_cons, List.length_append] at enough
      obtain ⟨less, rfl⟩ : ∃ less, fuel = less + 1 := ⟨fuel - 1, by omega⟩
      rw [utf8_cons, decodeFrom, readCharacter_utf8EncodeChar]
      simp only [inductionHypothesis (by omega : _ ≤ less)]

theorem decodeUtf8_utf8 (text : List Char) : decodeUtf8 (utf8 text) = .ok text :=
  decodeFrom_utf8 text (Nat.le_refl _) 0

theorem mem_utf8EncodeChar {symbol : Char} {byte : UInt8}
    (member : byte ∈ String.utf8EncodeChar symbol)
    (ascii : byte < 0x80) : symbol = Char.ofNat byte.toNat := by
  have most := char_code_lt symbol
  have bound : (0x80 : UInt8).toNat = 128 := rfl
  simp only [String.utf8EncodeChar] at member
  split at member
  · rename_i short
    rw [List.mem_singleton.mp member, toNat_ofNat_of_lt (by omega), ofNat_code symbol rfl]
  split at member
  · simp only [List.mem_cons, List.not_mem_nil, or_false] at member
    rcases member with rfl | rfl <;> rw [lt_literal (by omega)] at ascii <;> omega
  split at member
  · simp only [List.mem_cons, List.not_mem_nil, or_false] at member
    rcases member with rfl | rfl | rfl <;> rw [lt_literal (by omega)] at ascii <;> omega
  · simp only [List.mem_cons, List.not_mem_nil, or_false] at member
    rcases member with rfl | rfl | rfl | rfl <;> rw [lt_literal (by omega)] at ascii <;> omega

end EntityQuery.Text
