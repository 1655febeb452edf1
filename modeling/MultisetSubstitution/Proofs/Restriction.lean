import Mathlib.Data.Nat.Count
import MultisetSubstitution.Proofs.Transcript

/-! Leaving out rules. A rule that is never applied in a run leaves no mark on it, so an engine that
has only the rules that are applied, and any of the others, does the same. -/

set_option autoImplicit false

namespace MultisetSubstitution

def keptRules (kept : Finset Nat) (index : Nat) (rules : List Rule) : List Rule :=
  ((rules.zipIdx index).filter (·.2 ∈ kept)).map (·.1)

def RuleSet.restrict (set : RuleSet) (kept : Finset Nat) : RuleSet where
  vocabulary := set.vocabulary
  rules := keptRules kept 0 set.rules
  fits rule member := by
    obtain ⟨⟨found, index⟩, inKept, rfl⟩ := List.mem_map.mp member
    exact set.fits found (List.fst_mem_of_mem_zipIdx (List.mem_of_mem_filter inKept))

def Engine.restrict (engine : Engine) (kept : Finset Nat) : Engine :=
  { engine with rules := engine.rules.restrict kept }

/-- The index of a rule among the kept ones: how many of their indices are lower. -/
def keptBelow (kept : Finset Nat) (index : Nat) : Nat := Nat.count (· ∈ kept) index

def Step.renumber (kept : Finset Nat) (step : Step) : Step :=
  { step with ruleIndex := keptBelow kept step.ruleIndex.toNat }

def Trace.renumber (kept : Finset Nat) (trace : Trace) : Trace :=
  { trace with steps := trace.steps.map (Step.renumber kept) }

def Outcome.renumber (kept : Finset Nat) : Outcome → Outcome
  | .substituted result =>
    .substituted { result with trace := result.trace.map (Trace.renumber kept) }
  | .failure fault => .failure { fault with trace := fault.trace.map (Trace.renumber kept) }

def KeptOnly (kept : Finset Nat) (steps : List Step) : Prop :=
  ∀ step ∈ steps, ∃ index ∈ kept, step.ruleIndex = (index : Nat)

instance (kept : Finset Nat) (steps : List Step) : Decidable (KeptOnly kept steps) :=
  inferInstanceAs (Decidable (∀ step ∈ steps, ∃ index ∈ kept, step.ruleIndex = (index : Nat)))

section

variable {kept : Finset Nat} {index : Nat} {rule : Rule} {rest : List Rule}

@[simp] theorem keptBelow_zero (kept : Finset Nat) : keptBelow kept 0 = 0 := Nat.count_zero _

theorem keptBelow_succ_of_mem (member : index ∈ kept) :
    keptBelow kept (index + 1) = keptBelow kept index + 1 := by
  rw [keptBelow, Nat.count_succ, if_pos member]
  rfl

theorem keptBelow_succ_of_notMem (outside : index ∉ kept) :
    keptBelow kept (index + 1) = keptBelow kept index := by
  rw [keptBelow, Nat.count_succ, if_neg outside]
  rfl

theorem keptRules_cons_of_mem (member : index ∈ kept) :
    keptRules kept index (rule :: rest) = rule :: keptRules kept (index + 1) rest := by
  rw [keptRules, List.zipIdx_cons, List.filter_cons_of_pos (by simpa using member)]
  rfl

theorem keptRules_cons_of_notMem (outside : index ∉ kept) :
    keptRules kept index (rule :: rest) = keptRules kept (index + 1) rest := by
  rw [keptRules, List.zipIdx_cons, List.filter_cons_of_neg (by simpa using outside)]
  rfl

/-- A kept rule is found at its new index, which goes up by one for each kept rule before it. -/
theorem getElem?_keptRules (rules : List Rule) {offset distance : Nat}
    (member : index + offset ∈ kept)
    (between : keptBelow kept (index + offset) = keptBelow kept index + distance) :
    (keptRules kept index rules)[distance]? = rules[offset]? := by
  induction rules generalizing index offset distance with
  | nil => rfl
  | cons rule rest ih =>
    cases offset with
    | zero =>
      obtain rfl : distance = 0 := Nat.left_eq_add.mp between
      rw [Nat.add_zero] at member
      rw [keptRules_cons_of_mem member]
      rfl
    | succ offset =>
      have position : index + (offset + 1) = index + 1 + offset := by omega
      rw [position] at member between
      by_cases here : index ∈ kept
      · have above : keptBelow kept (index + 1) ≤ keptBelow kept (index + 1 + offset) :=
          Nat.count_monotone _ (Nat.le_add_right _ _)
        rw [keptBelow_succ_of_mem here, between] at above
        obtain ⟨further, rfl⟩ : ∃ further, distance = further + 1 := ⟨distance - 1, by omega⟩
        rw [keptRules_cons_of_mem here, List.getElem?_cons_succ, List.getElem?_cons_succ]
        refine ih member ?_
        rw [keptBelow_succ_of_mem here, between]
        omega
      · rw [keptRules_cons_of_notMem here, List.getElem?_cons_succ]
        refine ih member ?_
        rw [keptBelow_succ_of_notMem here, between]

/-- A sweep over the kept rules makes the steps of a sweep that applies no others. -/
theorem sweepSteps_keptRules {pass : Nat} {counts : Counts} {rules : List Rule}
    (only : KeptOnly kept (sweepSteps pass index counts rules)) :
    sweepSteps pass (keptBelow kept index) counts (keptRules kept index rules) =
      (sweepSteps pass index counts rules).map (Step.renumber kept) := by
  induction rules generalizing index counts with
  | nil => rfl
  | cons rule rest ih =>
    by_cases enabled : rule.enabled counts = true
    · rw [sweepSteps, if_pos enabled, KeptOnly, List.forall_mem_cons] at only
      obtain ⟨⟨other, member, same⟩, later⟩ := only
      obtain rfl : index = other := Int.ofNat_inj.mp same
      rw [keptRules_cons_of_mem member, sweepSteps, if_pos enabled, sweepSteps, if_pos enabled,
        ← keptBelow_succ_of_mem member, ih later]
      rfl
    · rw [sweepSteps, if_neg enabled] at only
      -- A rule that is not enabled makes no step in either sweep, if it is kept at all.
      rw [sweepSteps, if_neg enabled, ← ih only]
      by_cases member : index ∈ kept
      · rw [keptRules_cons_of_mem member, sweepSteps, if_neg enabled,
          keptBelow_succ_of_mem member]
      · rw [keptRules_cons_of_notMem member, keptBelow_succ_of_notMem member]

theorem lastCounts_renumber (counts : Counts) (steps : List Step) :
    lastCounts counts (steps.map (Step.renumber kept)) = lastCounts counts steps := by
  induction steps generalizing counts with
  | nil => rfl
  | cons step rest ih => exact ih step.after

end

namespace RuleSet

variable {set : RuleSet} {kept : Finset Nat} {counts : Counts}

theorem passSteps_restrict {pass : Nat} (only : KeptOnly kept (set.passSteps pass counts)) :
    (set.restrict kept).passSteps pass counts =
      (set.passSteps pass counts).map (Step.renumber kept) :=
  sweepSteps_keptRules only

theorem pass_restrict {pass : Nat} (only : KeptOnly kept (set.passSteps pass counts)) :
    (set.restrict kept).pass counts = set.pass counts := by
  have whole := (sweepSteps_chained pass 0 counts set.rules).final_eq
  have part := (sweepSteps_chained pass 0 counts (set.restrict kept).rules).final_eq
  have steps := passSteps_restrict only
  rw [passSteps, passSteps] at steps
  rw [steps, lastCounts_renumber, ← whole] at part
  exact part

theorem normal_restrict {pass : Nat} (only : KeptOnly kept (set.passSteps pass counts)) :
    (set.restrict kept).normal counts = set.normal counts := by
  have whole : set.passSteps pass counts = [] ↔ set.normal counts = true := passSteps_eq_nil
  have part : (set.restrict kept).passSteps pass counts = [] ↔
      (set.restrict kept).normal counts = true := passSteps_eq_nil
  rw [passSteps_restrict only, List.map_eq_nil_iff, whole] at part
  exact Bool.eq_iff_iff.mpr part.symm

theorem unrolled_restrict {done most : Nat} (only : KeptOnly kept (set.unrolled done counts most)) :
    (set.restrict kept).unrolled done counts most =
      (set.unrolled done counts most).map (Step.renumber kept) := by
  induction most generalizing done counts with
  | zero => rfl
  | succ most ih =>
    rw [unrolled, KeptOnly, List.forall_mem_append] at only
    obtain ⟨here, later⟩ := only
    rw [unrolled, unrolled, passSteps_restrict here, pass_restrict here, ih later, List.map_append]

theorem iterate_pass_restrict {done most : Nat}
    (only : KeptOnly kept (set.unrolled done counts most)) :
    (set.restrict kept).pass^[most] counts = set.pass^[most] counts := by
  rw [← lastCounts_unrolled _ done, ← lastCounts_unrolled _ done, unrolled_restrict only,
    lastCounts_renumber]

theorem productive_restrict {done most : Nat}
    (only : KeptOnly kept (set.unrolled done counts (set.productive counts most))) :
    (set.restrict kept).productive counts most = set.productive counts most := by
  induction most generalizing done counts with
  | zero => rfl
  | succ most ih =>
    by_cases settled : set.normal counts = true
    · have quiet : set.passSteps 1 counts = [] := passSteps_eq_nil.mpr settled
      have none : KeptOnly kept (set.passSteps 1 counts) := by simp [KeptOnly, quiet]
      rw [productive, productive, normal_restrict none, if_pos settled, if_pos settled]
    · rw [productive, if_neg settled, unrolled, KeptOnly, List.forall_mem_append] at only
      obtain ⟨here, later⟩ := only
      rw [productive, productive, normal_restrict here, if_neg settled, if_neg settled,
        pass_restrict here, ih later]

end RuleSet

namespace Engine

variable {engine : Engine} {kept : Finset Nat} {tokens : List String}

section

variable (only : KeptOnly kept (engine.steps tokens))
include only

theorem passes_restrict : (engine.restrict kept).passes tokens = engine.passes tokens :=
  RuleSet.productive_restrict only

theorem final_restrict : (engine.restrict kept).final tokens = engine.final tokens := by
  rw [final, final, passes_restrict only]
  exact RuleSet.iterate_pass_restrict only

theorem steps_restrict :
    (engine.restrict kept).steps tokens = (engine.steps tokens).map (Step.renumber kept) := by
  rw [steps, steps, passes_restrict only]
  exact RuleSet.unrolled_restrict only

theorem settles_restrict : (engine.restrict kept).settles tokens = engine.settles tokens := by
  rw [settles, settles, passes_restrict only]
  rfl

theorem traceOf_restrict :
    (engine.restrict kept).traceOf tokens = (engine.traceOf tokens).renumber kept := by
  rw [traceOf, final_restrict only, steps_restrict only]
  rfl

theorem outcome_restrict (traced : Bool) :
    (engine.restrict kept).outcome tokens traced =
      (engine.outcome tokens traced).renumber kept := by
  have trace : (if traced then some ((engine.restrict kept).traceOf tokens) else none) =
      (if traced then some (engine.traceOf tokens) else none).map (Trace.renumber kept) := by
    rw [traceOf_restrict only]
    cases traced <;> rfl
  rw [outcome, outcome, settles_restrict only]
  split
  · rw [result, final_restrict only, passes_restrict only, steps_restrict only, List.length_map,
      trace]
    rfl
  · rw [stop, trace]
    rfl

theorem effects_restrict : (engine.restrict kept).effects tokens = engine.effects tokens := by
  rw [effects, effects, endEffects, endEffects, settles_restrict only, final_restrict only,
    steps_restrict only, List.flatMap_map]
  rfl

end

/-- If only kept rules are applied in a run, the engine that has no other rules comes to the same
outcome, and does the same on the way, before any sink. Its trace has the same steps, in which each
rule has the index of that rule among the kept ones. -/
theorem execute_restricted {seen : Surroundings} {written : Output} {outcome : Outcome}
    {trace : Trace} (ran : engine.outcomeIn tokens true seen written = .ok outcome)
    (shown : outcome.trace? = some trace) (only : KeptOnly kept trace.steps) :
    (∀ index ∈ kept, (engine.restrict kept).rules.rules[keptBelow kept index]? =
      engine.rules.rules[index]?) ∧
    ∀ traced (around : Surroundings) output,
      ((engine.restrict kept).execute tokens traced).runWith around output =
        Prod.map (Except.map (Outcome.renumber kept)) id
          ((engine.execute tokens traced).runWith around output) := by
  obtain ⟨rfl, -⟩ := outcomeIn_eq_ok.mp ran
  obtain rfl : engine.traceOf tokens = trace := by
    rw [outcome_trace?, if_pos rfl] at shown
    exact Option.some.inj shown
  constructor
  · intro index member
    have position : 0 + index = index := Nat.zero_add index
    refine getElem?_keptRules engine.rules.rules (position.symm ▸ member) ?_
    rw [position, keptBelow_zero, Nat.zero_add]
  · intro traced around output
    rw [execute_eq_perform, execute_eq_perform, Reporting.runWith_perform_eq,
      Reporting.runWith_perform_eq, outcome_restrict only, effects_restrict only]
    cases Effect.firstObstacle? around (engine.effects tokens) <;> rfl

def thawing : Engine where
  rules := {
    vocabulary := ⟨["ice", "young", "old"], by decide, by decide +kernel⟩
    rules := [⟨[1, 0, 0], [0, 0, 0], none, rfl, by decide, by decide, rfl, by decide⟩,
      ⟨[0, 1, 0], [0, 0, 1], none, rfl, by decide, by decide, rfl, by decide⟩]
    fits := by decide }

theorem execute_restricted_thawing :
    ∃ outcome trace,
      thawing.outcomeIn ["young", "young"] true ⟨.discarding, none⟩ {} = .ok outcome ∧
      outcome.trace? = some trace ∧ KeptOnly {1} trace.steps ∧
      (thawing.restrict {1}).rules.size = 1 ∧
      ((∀ index ∈ ({1} : Finset Nat), (thawing.restrict {1}).rules.rules[keptBelow {1} index]? =
        thawing.rules.rules[index]?) ∧
      ∀ traced (around : Surroundings) output,
        ((thawing.restrict {1}).execute ["young", "young"] traced).runWith around output =
          Prod.map (Except.map (Outcome.renumber {1})) id
            ((thawing.execute ["young", "young"] traced).runWith around output)) := by
  have ran : thawing.outcomeIn ["young", "young"] true ⟨.discarding, none⟩ {} =
      .ok (thawing.outcome ["young", "young"] true) := rfl
  have shown : (thawing.outcome ["young", "young"] true).trace? =
      some (thawing.traceOf ["young", "young"]) := rfl
  have only : KeptOnly {1} (thawing.traceOf ["young", "young"]).steps := by decide
  exact ⟨_, _, ran, shown, only, rfl, execute_restricted ran shown only⟩

end Engine

end MultisetSubstitution
