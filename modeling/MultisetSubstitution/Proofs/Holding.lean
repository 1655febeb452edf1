import Mathlib.Data.List.Forall2
import MultisetSubstitution.RuleSet

/-! What counts hold, slot by slot, and the counts of multisets over a vocabulary: one slot an
attribute, none below zero. Firing an enabled rule leads from one of these to another. -/

set_option autoImplicit false

namespace MultisetSubstitution

namespace Counts

/-- At least as much in every slot, where the slots are the same. -/
def Holds (counts required : Counts) : Prop := List.Forall₂ (· ≤ ·) required counts

/-- Slot by slot, what is left without the inputs, together with the outputs. -/
def rewritten (counts inputs outputs : Counts) : Counts :=
  List.zipWith (· + ·) (List.zipWith (· - ·) counts inputs) outputs

-- Slots that only one of the two has are not compared, so the lengths must be known to be the same.
theorem dominates_iff_holds {counts required : Counts}
    (sameLength : required.length = counts.length) :
    counts.dominates required = true ↔ counts.Holds required := by
  induction counts generalizing required with
  | nil =>
    obtain rfl := List.length_eq_zero_iff.mp sameLength
    simp [dominates, Holds]
  | cons held counts ih =>
    cases required with
    | nil => exact nomatch sameLength
    | cons needed required =>
      have rest := ih (Nat.succ.inj sameLength)
      simp only [Holds] at rest
      simp only [dominates, Holds, Bool.and_eq_true, decide_eq_true_eq, List.forall₂_cons, rest]

theorem exchange_eq_rewritten {counts inputs outputs : Counts}
    (inputsFit : inputs.length = counts.length) (outputsFit : outputs.length = counts.length) :
    counts.exchange inputs outputs = counts.rewritten inputs outputs := by
  induction counts generalizing inputs outputs with
  | nil =>
    obtain rfl := List.length_eq_zero_iff.mp inputsFit
    obtain rfl := List.length_eq_zero_iff.mp outputsFit
    rfl
  | cons count counts ih =>
    cases inputs with
    | nil => exact nomatch inputsFit
    | cons input inputs =>
      cases outputs with
      | nil => exact nomatch outputsFit
      | cons output outputs =>
        have rest := ih (Nat.succ.inj inputsFit) (Nat.succ.inj outputsFit)
        simp only [rewritten] at rest
        have first : count + (output - input) = count - input + output := by omega
        simp only [exchange, rewritten, List.zipWith_cons_cons, rest, first]

theorem Holds.exchange_nonnegative {counts inputs outputs : Counts} (held : counts.Holds inputs)
    (sameLength : outputs.length = inputs.length) (nonnegative : ∀ count ∈ outputs, 0 ≤ count) :
    ∀ count ∈ counts.exchange inputs outputs, 0 ≤ count := by
  -- In each slot the input is at most the count, so what is left is not below zero.
  induction held generalizing outputs with
  | nil => simp [exchange]
  | cons enough held ih =>
    cases outputs with
    | nil => exact nomatch sameLength
    | cons output outputs =>
      have rest := ih (Nat.succ.inj sameLength) fun count member =>
        nonnegative count (List.mem_cons_of_mem output member)
      have first := nonnegative output List.mem_cons_self
      intro count member
      rcases List.mem_cons.mp member with rfl | later
      · omega
      · exact rest count later

/-- What is counted in a slot; there is nothing past the last one. -/
def slot (counts : Counts) (id : Nat) : Int := counts[id]?.getD 0

section

variable {counts other : Counts} {id : Nat}

theorem slot_of_lt (inside : id < counts.length) : counts.slot id = counts[id] := by
  rw [slot, List.getElem?_eq_getElem inside, Option.getD_some]

theorem slot_of_le (outside : counts.length ≤ id) : counts.slot id = 0 := by
  rw [slot, List.getElem?_eq_none outside, Option.getD_none]

theorem forall_slot (related : Int → Int → Prop) (zero : related 0 0)
    (sameLength : counts.length = other.length) :
    (∀ id, related (counts.slot id) (other.slot id)) ↔ List.Forall₂ related counts other := by
  rw [List.forall₂_iff_get]
  constructor
  · intro all
    refine ⟨sameLength, fun id inside otherInside => ?_⟩
    have here := all id
    rwa [slot_of_lt inside, slot_of_lt otherInside] at here
  · rintro ⟨-, slots⟩ id
    by_cases inside : id < counts.length
    · rw [slot_of_lt inside, slot_of_lt (sameLength ▸ inside)]
      exact slots id inside (sameLength ▸ inside)
    · rw [slot_of_le (Nat.le_of_not_lt inside), slot_of_le (by omega)]
      exact zero

theorem holds_iff_slot (sameLength : other.length = counts.length) :
    counts.Holds other ↔ ∀ id, other.slot id ≤ counts.slot id :=
  (forall_slot (· ≤ ·) (Int.le_refl 0) sameLength).symm

theorem eq_iff_slot (sameLength : counts.length = other.length) :
    counts = other ↔ ∀ id, counts.slot id = other.slot id := by
  rw [forall_slot (· = ·) rfl sameLength, List.forall₂_eq_eq_eq]

theorem slot_nonnegative (nonnegative : ∀ count ∈ counts, 0 ≤ count) (id : Nat) :
    0 ≤ counts.slot id := by
  by_cases inside : id < counts.length
  · rw [slot_of_lt inside]
    exact nonnegative _ (List.getElem_mem inside)
  · exact Int.le_of_eq (slot_of_le (Nat.le_of_not_lt inside)).symm

theorem slot_exchange {inputs outputs : Counts} (inputsFit : inputs.length = counts.length)
    (outputsFit : outputs.length = counts.length) (id : Nat) :
    (counts.exchange inputs outputs).slot id =
      counts.slot id + (outputs.slot id - inputs.slot id) := by
  have length := length_exchange counts inputs outputs
  by_cases inside : id < counts.length
  · have here : id < (counts.exchange inputs outputs).length := by omega
    have inInputs : id < inputs.length := by omega
    have inOutputs : id < outputs.length := by omega
    rw [slot_of_lt here, slot_of_lt inside, slot_of_lt inInputs, slot_of_lt inOutputs]
    simp only [exchange_eq_rewritten inputsFit outputsFit, rewritten, List.getElem_zipWith]
    omega
  · rw [slot_of_le (by omega), slot_of_le (by omega), slot_of_le (by omega), slot_of_le (by omega)]
    rfl

end

end Counts

structure Vocabulary.Counted (vocabulary : Vocabulary) (counts : Counts) : Prop where
  length : counts.length = vocabulary.size
  nonnegative : ∀ count ∈ counts, 0 ≤ count

namespace Vocabulary.Counted

variable {vocabulary : Vocabulary} {counts : Counts}

theorem zeros : vocabulary.Counted vocabulary.zeros :=
  ⟨Counts.length_zeros vocabulary.size, Counts.zeros_nonnegative⟩

theorem increment (counted : vocabulary.Counted counts) (id : Nat) :
    vocabulary.Counted (counts.increment id) :=
  ⟨(Counts.length_increment counts id).trans counted.length,
    Counts.increment_nonnegative id counted.nonnegative⟩

end Vocabulary.Counted

namespace Rule

variable {vocabulary : Vocabulary} {rule : Rule} {counts : Counts}

theorem counted_inputs (fits : rule.dimension = vocabulary.size) :
    vocabulary.Counted rule.inputs :=
  ⟨fits, rule.inputsNonnegative⟩

theorem counted_outputs (fits : rule.dimension = vocabulary.size) :
    vocabulary.Counted rule.outputs :=
  ⟨rule.length_outputs.trans fits, rule.outputsNonnegative⟩

theorem enabled_iff_holds (fits : rule.dimension = vocabulary.size)
    (length : counts.length = vocabulary.size) :
    rule.enabled counts = true ↔ counts.Holds rule.inputs :=
  Counts.dominates_iff_holds (fits.trans length.symm)

theorem fire_counted (fits : rule.dimension = vocabulary.size)
    (counted : vocabulary.Counted counts) (enabled : rule.enabled counts = true) :
    vocabulary.Counted (rule.fire counts) where
  length := (rule.length_fire counts).trans counted.length
  nonnegative :=
    ((enabled_iff_holds fits counted.length).mp enabled).exchange_nonnegative
      rule.length_outputs rule.outputsNonnegative

end Rule

namespace RuleSet

variable {set : RuleSet} {rule : Rule} {counts : Counts}

theorem inputs_length (member : rule ∈ set.rules) : rule.inputs.length = set.vocabulary.size :=
  set.fits rule member

theorem outputs_length (member : rule ∈ set.rules) : rule.outputs.length = set.vocabulary.size :=
  rule.length_outputs.trans (set.fits rule member)

theorem enabled_iff_holds (member : rule ∈ set.rules)
    (length : counts.length = set.vocabulary.size) :
    rule.enabled counts = true ↔ counts.Holds rule.inputs :=
  Rule.enabled_iff_holds (set.fits rule member) length

theorem fire_eq_rewritten (member : rule ∈ set.rules)
    (length : counts.length = set.vocabulary.size) :
    rule.fire counts = counts.rewritten rule.inputs rule.outputs :=
  Counts.exchange_eq_rewritten ((inputs_length member).trans length.symm)
    ((outputs_length member).trans length.symm)

theorem fire_counted (member : rule ∈ set.rules) (counted : set.vocabulary.Counted counts)
    (enabled : rule.enabled counts = true) : set.vocabulary.Counted (rule.fire counts) :=
  Rule.fire_counted (set.fits rule member) counted enabled

end RuleSet

end MultisetSubstitution
