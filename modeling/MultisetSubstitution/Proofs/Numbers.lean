import Mathlib.Data.List.TakeWhile
import MultisetSubstitution.Proofs.Holding

/-! The numbers in texts of counts. A text can be written if none of its numbers is too long, and
then so can one whose numbers are smaller. -/

set_option autoImplicit false

namespace MultisetSubstitution

theorem Text.fits_of_le {limit : Option Nat} {less more : Int} (nonnegative : 0 ≤ less)
    (ordered : less ≤ more) (fits : Text.fits limit more = true) :
    Text.fits limit less = true := by
  cases limit with
  | none => rfl
  | some most =>
    have enough : (Nat.toDigits 10 more.natAbs).length ≤ most := of_decide_eq_true fits
    have positive : 0 < most := Nat.lt_of_lt_of_le Nat.length_toDigits_pos enough
    rw [Nat.length_toDigits_le_iff (by decide) positive] at enough
    refine decide_eq_true ((Nat.length_toDigits_le_iff (by decide) positive).mpr ?_)
    omega

def Text.overlong : Int := (Nat.pow 10 digitLimit : Nat)

theorem Text.not_fits_overlong :
    fits (some digitLimit) overlong = false ∧ fits (some digitLimit) (-overlong) = false := by
  decide +kernel

namespace Vocabulary

variable {vocabulary : Vocabulary} {counts : Counts}

theorem Counted.mem_numbers (counted : vocabulary.Counted counts) {number : Int} :
    number ∈ vocabulary.numbers counts ↔ 0 < number ∧ ∃ id, counts.slot id = number := by
  have all : (vocabulary.names.zip counts).map (·.2) = counts :=
    List.map_snd_zip (Nat.le_of_eq counted.length)
  have filtered : vocabulary.numbers counts = counts.filter (0 < ·) := by
    conv_rhs => rw [← all, List.filter_map]
    rfl
  rw [filtered, List.mem_filter, decide_eq_true_eq, and_comm]
  refine and_congr_right fun positive => ?_
  rw [List.mem_iff_getElem]
  constructor
  · rintro ⟨id, inside, rfl⟩
    exact ⟨id, Counts.slot_of_lt inside⟩
  · rintro ⟨id, rfl⟩
    have inside : id < counts.length := by
      by_contra outside
      rw [Counts.slot_of_le (Nat.le_of_not_lt outside)] at positive
      exact absurd positive (Int.lt_irrefl 0)
    exact ⟨id, inside, (Counts.slot_of_lt inside).symm⟩

theorem Counted.fits_of_slots {digits : Option Nat} (counted : vocabulary.Counted counts)
    (bounded : ∀ id, ∃ larger, vocabulary.Counted larger ∧ counts.slot id ≤ larger.slot id ∧
      ∀ number ∈ vocabulary.numbers larger, Text.fits digits number = true) :
    ∀ number ∈ vocabulary.numbers counts, Text.fits digits number = true := by
  intro number numbered
  obtain ⟨positive, id, rfl⟩ := counted.mem_numbers.mp numbered
  obtain ⟨larger, more, most, fits⟩ := bounded id
  have written : larger.slot id ∈ vocabulary.numbers larger :=
    more.mem_numbers.mpr ⟨Int.lt_of_lt_of_le positive most, id, rfl⟩
  exact Text.fits_of_le (Int.le_of_lt positive) most (fits _ written)

end Vocabulary

end MultisetSubstitution
