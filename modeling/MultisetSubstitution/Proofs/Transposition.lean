import Mathlib.Logic.Equiv.Basic
import MultisetSubstitution.Proofs.Balance
import MultisetSubstitution.Proofs.Observation

/-! Neighbouring rules that can have their turns in either order, because neither changes a slot
that the other takes from. Runs come to the same in both orders, by as many applications of each
rule. -/

set_option autoImplicit false

namespace MultisetSubstitution

namespace Rule

def Spares (rule other : Rule) : Prop :=
  ∀ id < rule.dimension, rule.inputs.slot id = rule.outputs.slot id ∨ other.inputs.slot id = 0

instance (rule other : Rule) : Decidable (rule.Spares other) :=
  inferInstanceAs (Decidable (∀ id < rule.dimension, _ ∨ _))

/-- Neither changes a slot that the other takes from. Both may take from a slot that they leave as
it is, and both may put into one that they do not take from. -/
def Independent (first second : Rule) : Prop := first.Spares second ∧ second.Spares first

instance (first second : Rule) : Decidable (first.Independent second) :=
  inferInstanceAs (Decidable (_ ∧ _))

theorem Independent.symm {first second : Rule} (independent : first.Independent second) :
    second.Independent first := And.symm independent

end Rule

def transposeAt : Nat → List Rule → List Rule
  | 0, first :: second :: rest => second :: first :: rest
  | index + 1, rule :: rest => rule :: transposeAt index rest
  | _, rules => rules

theorem transposeAt_append (before : List Rule) (first second : Rule) (after : List Rule) :
    transposeAt before.length (before ++ first :: second :: after) =
      before ++ second :: first :: after := by
  induction before with
  | nil => rfl
  | cons rule rest ih => exact congrArg (rule :: ·) ih

theorem transposeAt_perm (index : Nat) (rules : List Rule) :
    (transposeAt index rules).Perm rules := by
  fun_induction transposeAt index rules with
  | case1 first second rest => exact .swap first second rest
  | case2 index rule rest ih => exact ih.cons rule
  | case3 => exact .refl _

theorem transposeAt_transposeAt (index : Nat) (rules : List Rule) :
    transposeAt index (transposeAt index rules) = rules := by
  fun_induction transposeAt index rules with
  | case1 => rfl
  | case2 index rule rest ih => exact congrArg (rule :: ·) ih
  | case3 index rules notPair notLonger =>
    rw [transposeAt]
    · exact notPair
    · exact notLonger

def RuleSet.transpose (set : RuleSet) (index : Nat) : RuleSet where
  vocabulary := set.vocabulary
  rules := transposeAt index set.rules
  fits rule member := set.fits rule ((transposeAt_perm index set.rules).mem_iff.mp member)

@[simp] theorem RuleSet.rules_transpose (set : RuleSet) (index : Nat) :
    (set.transpose index).rules = transposeAt index set.rules := rfl

def Engine.transpose (engine : Engine) (index : Nat) : Engine :=
  { engine with rules := engine.rules.transpose index }

namespace Rule

variable {vocabulary : Vocabulary} {rule other first second : Rule} {counts : Counts}

theorem Spares.gain_or_input_eq_zero (spares : rule.Spares other)
    (sameDimension : other.dimension = rule.dimension) (id : Nat) :
    rule.gain id = 0 ∨ other.inputs.slot id = 0 := by
  by_cases inside : id < rule.dimension
  · refine (spares id inside).imp_left fun same => ?_
    rw [gain, same, Int.sub_self]
  · have outside : other.dimension ≤ id := sameDimension ▸ Nat.le_of_not_lt inside
    exact .inr (Counts.slot_of_le outside)

theorem Spares.enabled_fire (spares : rule.Spares other) (fits : rule.dimension = vocabulary.size)
    (otherFits : other.dimension = vocabulary.size) (counted : vocabulary.Counted counts)
    (enabled : rule.enabled counts = true) :
    other.enabled (rule.fire counts) = other.enabled counts := by
  have fired := fire_counted fits counted enabled
  rw [Bool.eq_iff_iff, enabled_iff_holds otherFits fired.length,
    enabled_iff_holds otherFits counted.length,
    Counts.holds_iff_slot (otherFits.trans fired.length.symm),
    Counts.holds_iff_slot (otherFits.trans counted.length.symm)]
  refine forall_congr' fun id => ?_
  rcases spares.gain_or_input_eq_zero (otherFits.trans fits.symm) id with unchanged | unneeded
  · rw [slot_fire fits counted.length, unchanged, Int.add_zero]
  · -- Nothing is needed in this slot, and no count is below zero.
    rw [unneeded]
    exact iff_of_true (Counts.slot_nonnegative fired.nonnegative id)
      (Counts.slot_nonnegative counted.nonnegative id)

theorem fire_comm (firstFits : first.dimension = vocabulary.size)
    (secondFits : second.dimension = vocabulary.size) (length : counts.length = vocabulary.size) :
    first.fire (second.fire counts) = second.fire (first.fire counts) := by
  rw [Counts.eq_iff_slot (by simp)]
  intro id
  rw [slot_fire firstFits ((length_fire second counts).trans length), slot_fire secondFits length,
    slot_fire secondFits ((length_fire first counts).trans length), slot_fire firstFits length]
  exact Int.add_right_comm _ _ _

theorem Independent.turn_comm (independent : first.Independent second)
    (firstFits : first.dimension = vocabulary.size)
    (secondFits : second.dimension = vocabulary.size) (counted : vocabulary.Counted counts) :
    first.turn (second.turn counts) = second.turn (first.turn counts) := by
  by_cases firstEnabled : first.enabled counts = true <;>
    by_cases secondEnabled : second.enabled counts = true
  · have secondLater := independent.1.enabled_fire firstFits secondFits counted firstEnabled
    have firstLater := independent.2.enabled_fire secondFits firstFits counted secondEnabled
    simp only [turn, firstEnabled, secondEnabled, firstLater, secondLater, if_true]
    exact fire_comm firstFits secondFits counted.length
  · have secondLater := independent.1.enabled_fire firstFits secondFits counted firstEnabled
    simp [turn, firstEnabled, secondEnabled, secondLater]
  · have firstLater := independent.2.enabled_fire secondFits firstFits counted secondEnabled
    simp [turn, firstEnabled, secondEnabled, firstLater]
  · simp [turn, firstEnabled, secondEnabled]

end Rule

def sides (steps : List Step) : List Counts :=
  steps.flatMap fun step => [step.before, step.after]

/-- The same applications in another order, up to the indices of the rules. No slot comes to hold
more by them than it does by the first ones. -/
structure Reordered (relabel : Int → Int) (steps others : List Step) : Prop where
  indices : (steps.map (relabel ·.ruleIndex)).Perm (others.map Step.ruleIndex)
  bounded : ∀ counts ∈ sides others, ∀ id, ∃ larger ∈ sides steps, counts.slot id ≤ larger.slot id

namespace Reordered

variable {relabel : Int → Int} {steps others : List Step}

theorem of_sides_eq (indices : steps.map (relabel ·.ruleIndex) = others.map Step.ruleIndex)
    (same : sides others = sides steps) : Reordered relabel steps others where
  indices := .of_eq indices
  bounded counts member _ := ⟨counts, same ▸ member, Int.le_refl _⟩

theorem refl (kept : ∀ step ∈ steps, relabel step.ruleIndex = step.ruleIndex) :
    Reordered relabel steps steps :=
  .of_sides_eq (List.map_congr_left kept) rfl

theorem append {more further : List Step} (first : Reordered relabel steps others)
    (second : Reordered relabel more further) :
    Reordered relabel (steps ++ more) (others ++ further) where
  indices := by
    rw [List.map_append, List.map_append]
    exact first.indices.append second.indices
  bounded counts member id := by
    simp only [sides, List.flatMap_append, List.mem_append] at member ⊢
    rcases member with inFirst | inSecond
    · obtain ⟨larger, inSteps, most⟩ := first.bounded counts inFirst id
      exact ⟨larger, .inl inSteps, most⟩
    · obtain ⟨larger, inMore, most⟩ := second.bounded counts inSecond id
      exact ⟨larger, .inr inMore, most⟩

theorem length_eq (reordered : Reordered relabel steps others) : steps.length = others.length := by
  have same := reordered.indices.length_eq
  rwa [List.length_map, List.length_map] at same

end Reordered

def swapIndices (index : Nat) : Equiv.Perm Int := Equiv.swap (index : Int) (index + 1)

section

variable {index : Nat}

@[simp] theorem swapIndices_left : swapIndices index index = index + 1 :=
  Equiv.swap_apply_left _ _

@[simp] theorem swapIndices_right : swapIndices index (index + 1) = index :=
  Equiv.swap_apply_right _ _

theorem swapIndices_of_ne {other : Int} (notLeft : other ≠ index) (notRight : other ≠ index + 1) :
    swapIndices index other = other :=
  Equiv.swap_apply_of_ne_of_ne notLeft notRight

end

namespace Rule.Independent

variable {vocabulary : Vocabulary} {first second : Rule} {counts : Counts}

/-- The counts between the two turns hold no more than those before or those after them. -/
theorem slot_fire_le (independent : first.Independent second)
    (firstFits : first.dimension = vocabulary.size)
    (secondFits : second.dimension = vocabulary.size) (length : counts.length = vocabulary.size)
    (id : Nat) :
    (second.fire counts).slot id ≤ counts.slot id ∨
      (second.fire counts).slot id ≤ (second.fire (first.fire counts)).slot id := by
  have firedLength := (length_fire first counts).trans length
  rw [slot_fire secondFits firedLength, slot_fire firstFits length, slot_fire secondFits length]
  rcases independent.2.gain_or_input_eq_zero (firstFits.trans secondFits.symm) id with
    unchanged | unneeded
  · left
    omega
  · right
    have put : 0 ≤ first.gain id := by
      rw [gain, unneeded, Int.sub_zero]
      exact Counts.slot_nonnegative first.outputsNonnegative id
    omega

theorem sweepSteps_reordered (independent : first.Independent second)
    (firstFits : first.dimension = vocabulary.size)
    (secondFits : second.dimension = vocabulary.size) (counted : vocabulary.Counted counts)
    (pass index : Nat) :
    Reordered (swapIndices index) (sweepSteps pass index counts [first, second])
      (sweepSteps pass index counts [second, first]) := by
  by_cases firstEnabled : first.enabled counts = true <;>
    by_cases secondEnabled : second.enabled counts = true
  · have secondLater := independent.1.enabled_fire firstFits secondFits counted firstEnabled
    have firstLater := independent.2.enabled_fire secondFits firstFits counted secondEnabled
    simp only [sweepSteps, firstEnabled, secondEnabled, firstLater, secondLater, if_true]
    constructor
    · simp only [List.map_cons, List.map_nil, Nat.cast_add, Nat.cast_one, swapIndices_left,
        swapIndices_right]
      exact .swap _ _ _
    · simp only [sides, List.flatMap_cons, List.flatMap_nil, List.cons_append, List.nil_append,
        List.forall_mem_cons, List.not_mem_nil, false_implies, implies_true, and_true]
      have between : ∀ id, ∃ larger ∈ [counts, first.fire counts, first.fire counts,
          second.fire (first.fire counts)], (second.fire counts).slot id ≤ larger.slot id := by
        intro id
        rcases independent.slot_fire_le firstFits secondFits counted.length id with before | after
        · exact ⟨counts, by simp, before⟩
        · exact ⟨second.fire (first.fire counts), by simp, after⟩
      refine ⟨fun id => ⟨counts, by simp, Int.le_refl _⟩, between, between, fun id => ?_⟩
      rw [fire_comm firstFits secondFits counted.length]
      exact ⟨second.fire (first.fire counts), by simp, Int.le_refl _⟩
  · have secondLater := independent.1.enabled_fire firstFits secondFits counted firstEnabled
    simp only [sweepSteps, firstEnabled, secondEnabled, secondLater, if_true, if_false,
      Bool.false_eq_true]
    exact .of_sides_eq (by simp) rfl
  · have firstLater := independent.2.enabled_fire secondFits firstFits counted secondEnabled
    simp only [sweepSteps, firstEnabled, secondEnabled, firstLater, if_true, if_false,
      Bool.false_eq_true]
    exact .of_sides_eq (by simp) rfl
  · simp only [sweepSteps, firstEnabled, secondEnabled, if_false, Bool.false_eq_true]
    exact .refl (by simp)

end Rule.Independent

namespace RuleSet

def IndependentAt (set : RuleSet) (index : Nat) : Prop :=
  ∃ before first second after, set.rules = before ++ first :: second :: after ∧
    before.length = index ∧ first.Independent second

variable {set : RuleSet} {index : Nat} {counts : Counts}

theorem independentAt_of_getElem? {first second : Rule} (atFirst : set.rules[index]? = some first)
    (atSecond : set.rules[index + 1]? = some second) (independent : first.Independent second) :
    set.IndependentAt index := by
  obtain ⟨firstInside, rfl⟩ := List.getElem?_eq_some_iff.mp atFirst
  obtain ⟨secondInside, rfl⟩ := List.getElem?_eq_some_iff.mp atSecond
  refine ⟨set.rules.take index, _, _, set.rules.drop (index + 1 + 1), ?_, ?_, independent⟩
  · rw [← List.drop_eq_getElem_cons secondInside, ← List.drop_eq_getElem_cons firstInside,
      List.take_append_drop]
  · rw [List.length_take]
    omega

theorem IndependentAt.transpose (independent : set.IndependentAt index) :
    (set.transpose index).IndependentAt index := by
  obtain ⟨before, first, second, after, rules, rfl, apart⟩ := independent
  refine ⟨before, second, first, after, ?_, rfl, apart.symm⟩
  rw [rules_transpose, rules, transposeAt_append]

theorem transpose_transpose (set : RuleSet) (index : Nat) :
    (set.transpose index).transpose index = set := by
  cases set
  simp only [transpose, transposeAt_transposeAt]

/-- A pass goes to the two turns, makes them in one order or the other, and goes on. -/
theorem IndependentAt.parts (independent : set.IndependentAt index)
    (counted : set.vocabulary.Counted counts) :
    ∃ before first second after, set.rules = before ++ ([first, second] ++ after) ∧
      (set.transpose index).rules = before ++ ([second, first] ++ after) ∧
      before.length = index ∧ first.Independent second ∧
      first.dimension = set.vocabulary.size ∧ second.dimension = set.vocabulary.size ∧
      set.vocabulary.Counted (before.foldl (fun counts rule => rule.turn counts) counts) := by
  obtain ⟨before, first, second, after, rules, rfl, apart⟩ := independent
  have within : ∀ rule ∈ before ++ first :: second :: after, rule ∈ set.rules := by
    rw [rules]
    exact fun _ member => member
  simp only [List.forall_mem_append, List.forall_mem_cons] at within
  obtain ⟨inBefore, isFirst, isSecond, -⟩ := within
  refine ⟨before, first, second, after, rules, ?_, rfl, apart, set.fits first isFirst,
    set.fits second isSecond, turns_counted inBefore counted⟩
  rw [rules_transpose, rules, transposeAt_append]
  rfl

theorem normal_transpose (set : RuleSet) (index : Nat) (counts : Counts) :
    (set.transpose index).normal counts = set.normal counts :=
  (transposeAt_perm index set.rules).all_eq

theorem pass_transpose (independent : set.IndependentAt index)
    (counted : set.vocabulary.Counted counts) :
    (set.transpose index).pass counts = set.pass counts := by
  obtain ⟨before, first, second, after, rules, exchanged, -, apart, firstFits, secondFits,
    atTurn⟩ := independent.parts counted
  rw [pass, pass, rules, exchanged]
  simp only [List.foldl_append, List.foldl_cons, List.foldl_nil,
    apart.turn_comm firstFits secondFits atTurn]

theorem passSteps_reordered (independent : set.IndependentAt index)
    (counted : set.vocabulary.Counted counts) (pass : Nat) :
    Reordered (swapIndices index) (set.passSteps pass counts)
      ((set.transpose index).passSteps pass counts) := by
  obtain ⟨before, first, second, after, rules, exchanged, rfl, apart, firstFits, secondFits,
    atTurn⟩ := independent.parts counted
  have turns := apart.turn_comm firstFits secondFits atTurn
  rw [passSteps, passSteps, rules, exchanged, sweepSteps_append, sweepSteps_append,
    sweepSteps_append, sweepSteps_append]
  simp only [List.foldl_cons, List.foldl_nil, turns, Nat.zero_add]
  -- The turns before and after the two are the same, and at other indices.
  refine .append (.refl ?_) (.append ?_ (.refl ?_))
  · intro step member
    obtain ⟨offset, position, found⟩ := sweepSteps_rule member
    have inside := (List.getElem?_eq_some_iff.mp found).1
    exact swapIndices_of_ne (by omega) (by omega)
  · exact apart.sweepSteps_reordered firstFits secondFits atTurn pass before.length
  · intro step member
    have later := le_ruleIndex_of_mem_sweepSteps member
    rw [List.length_cons, List.length_singleton] at later
    exact swapIndices_of_ne (by omega) (by omega)

theorem simulates_transpose (independent : set.IndependentAt index) :
    set.Simulates (set.transpose index)
      fun counts other => other = counts ∧ set.vocabulary.Counted counts where
  normal := by
    rintro counts other ⟨rfl, -⟩
    exact (set.normal_transpose index other).symm
  pass := by
    rintro counts other ⟨rfl, counted⟩
    exact ⟨pass_transpose independent counted, pass_counted counted⟩

theorem unrolled_reordered (independent : set.IndependentAt index)
    (counted : set.vocabulary.Counted counts) (done most : Nat) :
    Reordered (swapIndices index) (set.unrolled done counts most)
      ((set.transpose index).unrolled done counts most) := by
  induction most generalizing done counts with
  | zero => exact .refl (by simp [unrolled])
  | succ most ih =>
    rw [unrolled, unrolled, pass_transpose independent counted]
    exact (passSteps_reordered independent counted (done + 1)).append
      (ih (pass_counted counted) (done + 1))

end RuleSet

theorem Trace.ruleCounts_perm {trace others : Trace} {relabel : Equiv.Perm Int}
    (indices : (trace.steps.map (relabel ·.ruleIndex)).Perm (others.steps.map Step.ruleIndex)) :
    (trace.ruleCounts.map fun entry => (relabel entry.1, entry.2)).Perm others.ruleCounts := by
  have alike : ∀ index, others.fired.count (relabel index) = trace.fired.count index := by
    intro index
    have relabelled : (trace.fired.map relabel).Perm others.fired := by
      rw [fired, List.map_map]
      exact indices
    rw [← relabelled.count_eq, List.count_map_of_injective _ _ relabel.injective]
  have distinct : (trace.ruleCounts.map fun entry => (relabel entry.1, entry.2)).Nodup := by
    refine (trace.nodup_ruleCounts.of_map _).map ?_
    rintro ⟨first, times⟩ ⟨second, others⟩ same
    obtain ⟨indices, rfl⟩ := Prod.mk.inj same
    exact congrArg (·, times) (relabel.injective indices)
  rw [List.perm_ext_iff_of_nodup distinct (others.nodup_ruleCounts.of_map _)]
  rintro ⟨index, times⟩
  obtain ⟨own, rfl⟩ := relabel.surjective index
  rw [mem_ruleCounts, alike, ← mem_ruleCounts, List.mem_map]
  constructor
  · rintro ⟨⟨other, count⟩, member, same⟩
    obtain ⟨indices, rfl⟩ := Prod.mk.inj same
    exact relabel.injective indices ▸ member
  · exact fun member => ⟨(own, times), member, rfl⟩

namespace Engine

variable {engine : Engine} {index : Nat} {tokens : List String}

theorem transpose_transpose (engine : Engine) (index : Nat) :
    (engine.transpose index).transpose index = engine := by
  cases engine
  simp only [transpose, RuleSet.transpose_transpose]

section

variable (independent : engine.rules.IndependentAt index)
include independent

theorem passes_transpose (tokens : List String) :
    (engine.transpose index).passes tokens = engine.passes tokens :=
  ((RuleSet.simulates_transpose independent).productive_eq
    ⟨rfl, engine.initial_counted tokens⟩ _).symm

theorem settles_transpose (tokens : List String) :
    (engine.transpose index).settles tokens = engine.settles tokens := by
  rw [settles, settles, passes_transpose independent]
  rfl

theorem final_transpose (tokens : List String) :
    (engine.transpose index).final tokens = engine.final tokens := by
  rw [final, final, passes_transpose independent]
  exact ((RuleSet.simulates_transpose independent).iterate_pass
    ⟨rfl, engine.initial_counted tokens⟩ _).1

theorem steps_reordered (tokens : List String) :
    Reordered (swapIndices index) (engine.steps tokens)
      ((engine.transpose index).steps tokens) := by
  rw [steps, steps, passes_transpose independent]
  exact RuleSet.unrolled_reordered independent (engine.initial_counted tokens) 0 _

theorem untraced_transpose (traced : Bool) :
    ((engine.transpose index).outcome tokens traced).untraced =
      (engine.outcome tokens traced).untraced := by
  have applications := (steps_reordered independent tokens).length_eq
  rw [untraced_outcome, untraced_outcome, outcome, outcome, settles_transpose independent, result,
    result, final_transpose independent, passes_transpose independent, applications]
  rfl

theorem larger_vector {counts : Counts}
    (member : counts ∈ ((engine.transpose index).traceOf tokens).vectors) (id : Nat) :
    ∃ larger ∈ (engine.traceOf tokens).vectors, counts.slot id ≤ larger.slot id := by
  have reordered := steps_reordered independent tokens
  rw [Trace.vectors, List.mem_cons, List.mem_cons] at member
  rcases member with rfl | rfl | inSteps
  · exact ⟨_, List.mem_cons_self, Int.le_refl _⟩
  · refine ⟨_, List.mem_cons_of_mem _ List.mem_cons_self, ?_⟩
    exact Int.le_of_eq (congrArg (Counts.slot · id) (final_transpose independent tokens))
  · obtain ⟨larger, inOthers, most⟩ := reordered.bounded counts inSteps id
    exact ⟨larger, List.mem_cons_of_mem _ (List.mem_cons_of_mem _ inOthers), most⟩

theorem fits_transpose {digits : Option Nat} (fits : (engine.traceOf tokens).Fits digits) :
    ((engine.transpose index).traceOf tokens).Fits digits := by
  intro counts member
  refine ((engine.transpose index).vectors_counted member).fits_of_slots fun id => ?_
  obtain ⟨larger, inTrace, most⟩ := larger_vector independent member id
  exact ⟨larger, engine.vectors_counted inTrace, most, fits larger inTrace⟩

theorem writable_transpose (tokens : List String) :
    (engine.transpose index).writable tokens = engine.writable tokens := by
  funext digits
  have numbers : ((engine.transpose index).outcome tokens true).numbers =
      (engine.outcome tokens true).numbers := by
    rw [outcome_numbers, outcome_numbers, settles_transpose independent,
      final_transpose independent]
    rfl
  -- What is exchanged twice is as it was, so each of the two traces fits if the other does.
  have fits : ((engine.transpose index).traceOf tokens).Fits digits ↔
      (engine.traceOf tokens).Fits digits := by
    refine ⟨fun fits => ?_, fits_transpose independent⟩
    have again := fits_transpose (RuleSet.IndependentAt.transpose independent) fits
    rwa [transpose_transpose] at again
  rw [writable, writable, Bool.eq_iff_iff, Option.isNone_iff_eq_none, Option.isNone_iff_eq_none,
    stoppedBy?_eq_none_iff, stoppedBy?_eq_none_iff, fits, Outcome.Fits, Outcome.Fits, numbers]
  rfl

end

/-- Two neighbouring rules are exchanged, of which neither changes a slot that the other takes from.
Runs with the rules in one order and in the other come to the same, their traces apart, and by their
traces each rule is applied as often in both. -/
theorem execute_transposed {first second : Rule} (tokens : List String)
    (atFirst : engine.rules.rules[index]? = some first)
    (atSecond : engine.rules.rules[index + 1]? = some second)
    (independent : first.Independent second) :
    ∃ trace others writable outcome other,
      engine.Attains tokens trace writable outcome ∧
      (engine.transpose index).Attains tokens others writable other ∧
      (∀ traced, (other traced).untraced = (outcome traced).untraced) ∧
      (trace.ruleCounts.map fun entry => (swapIndices index entry.1, entry.2)).Perm
        others.ruleCounts := by
  have apart := RuleSet.independentAt_of_getElem? atFirst atSecond independent
  have exchanged := (engine.transpose index).attains tokens
  rw [writable_transpose apart] at exchanged
  exact ⟨_, _, _, _, _, engine.attains tokens, exchanged, fun _ => untraced_transpose apart _,
    Trace.ruleCounts_perm (steps_reordered apart tokens).indices⟩

end Engine

def Rule.sowing : Rule :=
  ⟨[1, 0, 1, 0], [0, 0, 1, 1], none, rfl, by decide, by decide, rfl, by decide⟩

def Rule.watering : Rule :=
  ⟨[0, 1, 1, 0], [0, 0, 1, 1], none, rfl, by decide, by decide, rfl, by decide⟩

/-- An engine of two rules that both need the soil, which they leave, and both make grass. -/
def Engine.growing : Engine where
  rules := {
    vocabulary := ⟨["seed", "rain", "soil", "grass"], by decide, by decide +kernel⟩
    rules := [.sowing, .watering]
    fits := by decide }

theorem Engine.execute_transposed_growing :
    growing.rules.rules[0]? = some .sowing ∧ growing.rules.rules[1]? = some .watering ∧
    Rule.sowing.Independent .watering ∧
    ∃ trace others writable outcome other,
      growing.Attains ["rain", "seed", "soil", "seed"] trace writable outcome ∧
      (growing.transpose 0).Attains ["rain", "seed", "soil", "seed"] others writable other ∧
      (∀ traced, (other traced).untraced = (outcome traced).untraced) ∧
      (trace.ruleCounts.map fun entry => (swapIndices 0 entry.1, entry.2)).Perm
        others.ruleCounts := by
  have independent : Rule.sowing.Independent .watering := by decide
  exact ⟨rfl, rfl, independent,
    execute_transposed ["rain", "seed", "soil", "seed"] rfl rfl independent⟩

end MultisetSubstitution
