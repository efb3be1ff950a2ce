import EntityQuery.Calendar.Date
import Mathlib.Tactic.IntervalCases
import Mathlib.Tactic.Ring

/-!
# Days and dates

The date that lies a number of days after 1 January 1970 is that number of days after it.  A cycle
of four hundred years has four centuries of twenty-five cycles of four years each, and its last day
is the leap day that the last century has more than the others.
-/

set_option autoImplicit false

namespace EntityQuery.Calendar.Date

structure InEra (century cycle year day : Int) : Prop where
  centuries : 0 ≤ century ∧ century ≤ 3
  cycles : 0 ≤ cycle ∧ cycle ≤ 24
  years : 0 ≤ year ∧ year ≤ 3
  days : 0 ≤ day ∧ day ≤ 365
  leap : day = 365 → year = 3 ∧ (cycle = 24 → century = 3)

theorem exists_inEra {dayOfEra : Int} (low : 0 ≤ dayOfEra) (high : dayOfEra < 146097) :
    ∃ century cycle year day, InEra century cycle year day ∧
      dayOfEra = 36524 * century + 1461 * cycle + 365 * year + day := by
  by_cases last : dayOfEra = 146096
  · exact ⟨3, 24, 3, 365, ⟨by omega, by omega, by omega, by omega, by omega⟩, by omega⟩
  · refine ⟨dayOfEra / 36524, dayOfEra % 36524 / 1461,
      min 3 (dayOfEra % 36524 % 1461 / 365),
      dayOfEra % 36524 % 1461 - 365 * min 3 (dayOfEra % 36524 % 1461 / 365),
      ⟨?_, ?_, ?_, ?_, ?_⟩, ?_⟩ <;> omega

theorem yearOfEra_eq {century cycle year day dayOfEra : Int}
    (inEra : InEra century cycle year day)
    (isDay : dayOfEra = 36524 * century + 1461 * cycle + 365 * year + day) :
    (dayOfEra - dayOfEra / 1460 + dayOfEra / 36524 - dayOfEra / 146096) / 365 =
      100 * century + 4 * cycle + year := by
  obtain ⟨centuries, cycles, years, days, leap⟩ := inEra
  by_cases last : dayOfEra = 146096
  · subst last
    omega
  · have eras : dayOfEra / 146096 = 0 := by omega
    have before : dayOfEra / 36524 = century := by omega
    have cyclesBefore : dayOfEra / 1460 = 25 * century + cycle +
        (if 1460 ≤ 24 * century + cycle + 365 * year + day then 1 else 0) := by
      split <;> omega
    rw [eras, before, cyclesBefore]
    split <;> omega

theorem InEra.leapDays {century cycle year day : Int} (inEra : InEra century cycle year day) :
    (100 * century + 4 * cycle + year) / 4 = 25 * century + cycle ∧
      (100 * century + 4 * cycle + year) / 100 = century ∧
      0 ≤ 100 * century + 4 * cycle + year ∧ 100 * century + 4 * cycle + year ≤ 399 := by
  obtain ⟨centuries, cycles, years, days, leap⟩ := inEra
  omega

/-- A leap day ends a year that begins in March, so that the year it stands in is the next one. -/
theorem InEra.isLeapYear {century cycle year day : Int} (inEra : InEra century cycle year day)
    (last : day = 365) (era : Int) :
    isLeapYear (100 * century + 4 * cycle + year + era * 400 + 1) = true := by
  obtain ⟨ends, wholeEra⟩ := inEra.leap last
  have fourth : (100 * century + 4 * cycle + year + era * 400 + 1) % 4 = 0 := by omega
  have fewCycles := inEra.cycles.2
  simp only [Calendar.isLeapYear, fourth, beq_self_eq_true, Bool.true_and, Bool.or_eq_true,
    bne_iff_ne, beq_iff_eq]
  by_cases lastCycle : cycle = 24
  · apply Or.inr
    have lastCentury := wholeEra lastCycle
    omega
  · apply Or.inl
    have leastCycle := inEra.cycles.1
    omega

theorem monthIndex_bounds {dayOfYear : Int} (low : 0 ≤ dayOfYear) (high : dayOfYear ≤ 365) :
    0 ≤ (5 * dayOfYear + 2) / 153 ∧ (5 * dayOfYear + 2) / 153 ≤ 11 ∧
      0 ≤ dayOfYear - (153 * ((5 * dayOfYear + 2) / 153) + 2) / 5 ∧
      dayOfYear - (153 * ((5 * dayOfYear + 2) / 153) + 2) / 5 ≤ 30 := by
  omega

/-- The fields of the date that lies a number of days after 1 January 1970. -/
theorem exists_ofDays (days : Int) :
    ∃ era yearOfEra dayOfYear : Int, 0 ≤ yearOfEra ∧ yearOfEra ≤ 399 ∧ 0 ≤ dayOfYear ∧
      dayOfYear ≤ 365 ∧
      (dayOfYear = 365 → isLeapYear (yearOfEra + era * 400 + 1) = true) ∧
      days + 719468 = era * 146097 + (yearOfEra * 365 + yearOfEra / 4 - yearOfEra / 100 +
        dayOfYear) ∧
      ofDays days =
        let monthIndex := (5 * dayOfYear + 2) / 153
        let month := if monthIndex < 10 then monthIndex + 3 else monthIndex - 9
        ⟨yearOfEra + era * 400 + (if month ≤ 2 then 1 else 0), month.toNat,
          (dayOfYear - (153 * monthIndex + 2) / 5 + 1).toNat⟩ := by
  have low := Int.emod_nonneg (days + 719468) (by decide : (146097 : Int) ≠ 0)
  have high := Int.emod_lt_of_pos (days + 719468) (by decide : (0 : Int) < 146097)
  have split := Int.mul_ediv_add_emod (days + 719468) 146097
  rw [ofDays]
  dsimp only
  generalize (days + 719468) % 146097 = dayOfEra at low high split ⊢
  generalize (days + 719468) / 146097 = era at split ⊢
  obtain ⟨century, cycle, year, day, inEra, isDay⟩ := exists_inEra low high
  obtain ⟨fours, hundreds, leastYear, greatestYear⟩ := inEra.leapDays
  have dayOfYear : dayOfEra - (365 * (100 * century + 4 * cycle + year) +
      (100 * century + 4 * cycle + year) / 4 - (100 * century + 4 * cycle + year) / 100) =
      day := by
    rw [fours, hundreds, isDay]
    ring
  rw [yearOfEra_eq inEra isDay, dayOfYear]
  refine ⟨era, 100 * century + 4 * cycle + year, day, leastYear, greatestYear, inEra.days.1,
    inEra.days.2, fun last => inEra.isLeapYear last era, ?_, rfl⟩
  rw [← split, isDay, fours, hundreds]
  ring

/-- The date that lies a number of days after 1 January 1970 is that number of days after it. -/
theorem toDays_ofDays (days : Int) : toDays (ofDays days) = days := by
  obtain ⟨era, yearOfEra, dayOfYear, leastYear, greatestYear, leastDay, greatestDay, -, split,
    fields⟩ := exists_ofDays days
  obtain ⟨leastMonth, greatestMonth, leastOfMonth, greatestOfMonth⟩ :=
    monthIndex_bounds leastDay greatestDay
  rw [fields]
  simp only [toDays]
  generalize (5 * dayOfYear + 2) / 153 = monthIndex at *
  have inYear : dayOfYear - (153 * monthIndex + 2) / 5 + 1 =
      ((dayOfYear - (153 * monthIndex + 2) / 5 + 1).toNat : Int) :=
    (Int.toNat_of_nonneg (by omega)).symm
  have eraOf : (yearOfEra + era * 400) / 400 = era := by omega
  have yearOf : (yearOfEra + era * 400) % 400 = yearOfEra := by omega
  by_cases march : monthIndex < 10
  · have month : ((monthIndex + 3).toNat : Int) = monthIndex + 3 := by omega
    have late : ¬ (monthIndex + 3).toNat ≤ 2 := by omega
    have lateInt : ¬ monthIndex + 3 ≤ 2 := by omega
    rw [if_pos march, if_neg lateInt, if_neg late, if_neg late, ← inYear, month, Int.add_zero,
      eraOf, yearOf]
    have back : monthIndex + 3 - 3 = monthIndex := by omega
    rw [back]
    omega
  · have month : ((monthIndex - 9).toNat : Int) = monthIndex - 9 := by omega
    have early : (monthIndex - 9).toNat ≤ 2 := by omega
    have earlyInt : monthIndex - 9 ≤ 2 := by omega
    have before : yearOfEra + era * 400 + 1 - 1 = yearOfEra + era * 400 := by omega
    have back : monthIndex - 9 + 9 = monthIndex := by omega
    rw [if_neg march, if_pos earlyInt, if_pos early, if_pos early, ← inYear, month, before,
      eraOf, yearOf, back]
    omega

/-- The lengths of the months from March to January are the steps between their first days. -/
theorem daysInMonth_index (year : Int) {index : Int} (least : 0 ≤ index) (greatest : index ≤ 10) :
    (daysInMonth year (if index < 10 then index + 3 else index - 9).toNat : Int) =
      (153 * (index + 1) + 2) / 5 - (153 * index + 2) / 5 := by
  interval_cases index <;> rfl

theorem ofDays_inMonth (days : Int) :
    1 ≤ (ofDays days).day ∧
      (ofDays days).day ≤ daysInMonth (ofDays days).year (ofDays days).month := by
  obtain ⟨era, yearOfEra, dayOfYear, -, -, leastDay, greatestDay, leap, -, fields⟩ :=
    exists_ofDays days
  obtain ⟨leastMonth, greatestMonth, leastOfMonth, -⟩ := monthIndex_bounds leastDay greatestDay
  have before : dayOfYear < (153 * ((5 * dayOfYear + 2) / 153 + 1) + 2) / 5 := by omega
  rw [fields]
  dsimp only
  generalize (5 * dayOfYear + 2) / 153 = index at *
  refine ⟨by omega, ?_⟩
  by_cases february : index = 11
  · -- February ends the year, so only its leap day is the last of 366 days.
    subst february
    by_cases leapDay : dayOfYear = 365
    · have isLeap := leap leapDay
      simp [daysInMonth, isLeap]
      omega
    · simp [daysInMonth]
      split <;> omega
  · have length := daysInMonth_index
      (yearOfEra + era * 400 + if (if index < 10 then index + 3 else index - 9) ≤ 2 then 1 else 0)
      leastMonth (by omega)
    omega

end EntityQuery.Calendar.Date
