import Mathlib.Algebra.BigOperators.Group.Finset.Piecewise
import Mathlib.Algebra.Order.BigOperators.Group.Finset
import Mathlib.Order.Interval.Finset.Nat
import Mathlib.Data.Int.Interval
import Mathlib.Tactic.Ring
import MultisetSubstitution.Proofs.Representation

/-! The balance of a run. What is left is what was there, with what each rule puts in less what it
takes out, as often as the rule was applied. So a weighting of the attributes that no rule changes
is kept by the run, and one that no rule raises is not raised by it. -/

set_option autoImplicit false

namespace MultisetSubstitution

def Counts.weight (weights : Nat → Int) (counts : Counts) : Int :=
  ∑ id ∈ Finset.range counts.length, weights id * counts.slot id

def Rule.gain (rule : Rule) (id : Nat) : Int := rule.outputs.slot id - rule.inputs.slot id

namespace Trace

def fired (trace : Trace) : List Int := trace.steps.map Step.ruleIndex

def timesFired (trace : Trace) (index : Int) : Nat := (trace.ruleCounts.lookup index).getD 0

theorem lookup_bump (key other : Int) (counts : List (Int × Nat)) :
    (bump key counts).lookup other =
      if other = key then some ((counts.lookup key).getD 0 + 1) else counts.lookup other := by
  induction counts with
  | nil => rw [bump, lookup_cons_eq_ite, List.lookup_nil, List.lookup_nil, Option.getD_none]
  | cons entry rest ih =>
    obtain ⟨first, count⟩ := entry
    rw [bump]
    split
    · rename_i here
      rw [lookup_cons_eq_ite, lookup_cons_eq_ite, lookup_cons_eq_ite, here, if_pos rfl,
        Option.getD_some]
      split <;> rfl
    · rename_i elsewhere
      rw [lookup_cons_eq_ite, lookup_cons_eq_ite, lookup_cons_eq_ite, ih,
        if_neg (Ne.symm elsewhere)]
      by_cases same : other = key
      · rw [same, if_neg (Ne.symm elsewhere), if_pos rfl, if_pos rfl]
      · rw [if_neg same, if_neg same]

theorem keys_bump (key : Int) (counts : List (Int × Nat)) :
    (bump key counts).map (·.1) = if key ∈ counts.map (·.1) then counts.map (·.1)
      else counts.map (·.1) ++ [key] := by
  induction counts with
  | nil => rfl
  | cons entry rest ih =>
    obtain ⟨first, count⟩ := entry
    by_cases here : first = key
    · simp [bump, here]
    · rw [bump, if_neg here, List.map_cons, List.map_cons, ih]
      by_cases later : key ∈ rest.map (·.1) <;> simp [later, Ne.symm here]

theorem sum_bump (key : Int) (counts : List (Int × Nat)) :
    ((bump key counts).map (·.2)).sum = (counts.map (·.2)).sum + 1 := by
  induction counts with
  | nil => rfl
  | cons entry rest ih =>
    obtain ⟨first, count⟩ := entry
    by_cases here : first = key
    · simp only [bump, if_pos here, List.map_cons, List.sum_cons]
      omega
    · simp only [bump, if_neg here, List.map_cons, List.sum_cons, ih]
      omega

def bumpAll (counts : List (Int × Nat)) (keys : List Int) : List (Int × Nat) :=
  keys.foldl (fun counts key => bump key counts) counts

theorem ruleCounts_eq (trace : Trace) : trace.ruleCounts = bumpAll [] trace.fired := by
  rw [bumpAll, fired, List.foldl_map]
  rfl

theorem lookup_bumpAll (counts : List (Int × Nat)) (keys : List Int) (key : Int) :
    (bumpAll counts keys).lookup key = if keys.count key = 0 then counts.lookup key
      else some ((counts.lookup key).getD 0 + keys.count key) := by
  induction keys generalizing counts with
  | nil => rfl
  | cons first rest ih =>
    have further : bumpAll counts (first :: rest) = bumpAll (bump first counts) rest := rfl
    rw [further, ih, lookup_bump, List.count_cons]
    by_cases same : key = first
    · by_cases last : rest.count first = 0
      · simp [same, last]
      · simp only [same, last, if_true, if_false, Option.getD_some, beq_self_eq_true,
          Nat.add_eq_zero_iff, Nat.one_ne_zero, and_false, Nat.add_assoc, Nat.add_comm 1]
    · simp [same, Ne.symm same]

theorem nodup_bumpAll {counts : List (Int × Nat)} (distinct : (counts.map (·.1)).Nodup)
    (keys : List Int) : ((bumpAll counts keys).map (·.1)).Nodup := by
  induction keys generalizing counts with
  | nil => exact distinct
  | cons first rest ih =>
    have further : bumpAll counts (first :: rest) = bumpAll (bump first counts) rest := rfl
    rw [further]
    apply ih
    rw [keys_bump]
    split
    · exact distinct
    · rename_i fresh
      refine List.nodup_append.mpr ⟨distinct, List.nodup_singleton first, ?_⟩
      rintro key member other isFirst rfl
      exact fresh (List.mem_singleton.mp isFirst ▸ member)

theorem sum_bumpAll (counts : List (Int × Nat)) (keys : List Int) :
    ((bumpAll counts keys).map (·.2)).sum = (counts.map (·.2)).sum + keys.length := by
  induction keys generalizing counts with
  | nil => rfl
  | cons first rest ih =>
    have further : bumpAll counts (first :: rest) = bumpAll (bump first counts) rest := rfl
    rw [further, ih, sum_bump, List.length_cons]
    omega

theorem lookup_ruleCounts (trace : Trace) (index : Int) :
    trace.ruleCounts.lookup index =
      if trace.fired.count index = 0 then none else some (trace.fired.count index) := by
  rw [ruleCounts_eq, lookup_bumpAll, List.lookup_nil, Option.getD_none, Nat.zero_add]

theorem timesFired_eq (trace : Trace) (index : Int) :
    trace.timesFired index = trace.fired.count index := by
  rw [timesFired, lookup_ruleCounts]
  split
  · rename_i never
    exact never.symm
  · rfl

theorem nodup_ruleCounts (trace : Trace) : (trace.ruleCounts.map (·.1)).Nodup := by
  have empty : (([] : List (Int × Nat)).map (·.1)).Nodup := List.nodup_nil
  rw [ruleCounts_eq]
  exact nodup_bumpAll empty trace.fired

theorem sum_ruleCounts (trace : Trace) :
    (trace.ruleCounts.map (·.2)).sum = trace.steps.length := by
  rw [ruleCounts_eq, sum_bumpAll, fired, List.length_map]
  exact Nat.zero_add _

theorem mem_ruleCounts {trace : Trace} {index : Int} {times : Nat} :
    (index, times) ∈ trace.ruleCounts ↔ trace.fired.count index = times ∧ 0 < times := by
  -- No other entry has the same index, so an entry is what is looked up.
  have found : (index, times) ∈ trace.ruleCounts ↔ trace.ruleCounts.lookup index = some times := by
    rw [List.lookup_eq_some_iff]
    constructor
    · intro member
      obtain ⟨before, after, same⟩ := List.append_of_mem member
      refine ⟨before, after, same, fun entry earlier => ?_⟩
      have distinct := trace.nodup_ruleCounts
      rw [same, List.map_append, List.map_cons, List.nodup_append] at distinct
      have other := distinct.2.2 entry.1 (List.mem_map_of_mem earlier) index List.mem_cons_self
      simpa using Ne.symm other
    · rintro ⟨before, after, same, -⟩
      rw [same]
      simp
  rw [found, lookup_ruleCounts]
  split
  · rename_i never
    simp only [reduceCtorEq, false_iff]
    omega
  · rename_i once
    rw [Option.some.injEq]
    exact ⟨fun same => ⟨same, by omega⟩, fun both => both.1⟩

end Trace

theorem Chained.total {counts final : Counts} {steps : List Step}
    (chained : Chained counts steps final) (measure : Counts → Int) (gain : Step → Int)
    (each : ∀ step ∈ steps, measure step.after = measure step.before + gain step) :
    measure final = measure counts + (steps.map gain).sum := by
  induction steps generalizing counts with
  | nil =>
    cases chained
    simp
  | cons step rest ih =>
    obtain ⟨rfl, others⟩ := chained
    obtain ⟨here, later⟩ := List.forall_mem_cons.mp each
    rw [ih others later, here, List.map_cons, List.sum_cons, Int.add_assoc]

/-- A sum over steps is a sum over the rules, each as often as it was applied. -/
theorem sum_steps_eq_sum_rules {rules : List Rule} {steps : List Step}
    (placed : ∀ step ∈ steps, ∃ index : Nat, step.ruleIndex = index ∧
      rules[index]? = some step.rule) (measure : Rule → Int) :
    (steps.map (measure ·.rule)).sum = ∑ index : Fin rules.length,
      ((steps.map Step.ruleIndex).count (index : Int) : Int) * measure rules[index] := by
  induction steps with
  | nil => simp
  | cons step rest ih =>
    obtain ⟨⟨place, atPlace, found⟩, later⟩ := List.forall_mem_cons.mp placed
    obtain ⟨inside, here⟩ := List.getElem?_eq_some_iff.mp found
    have first : measure step.rule = ∑ index : Fin rules.length,
        (if step.ruleIndex = (index : Int) then 1 else 0) * measure rules[index] := by
      rw [Finset.sum_eq_single (⟨place, inside⟩ : Fin rules.length)]
      · simp [atPlace, here]
      · intro other _ different
        have elsewhere : ¬ step.ruleIndex = ((other : Nat) : Int) := by
          intro same
          exact different (Fin.ext (by simp only; omega))
        simp [elsewhere]
      · simp
    rw [List.map_cons, List.sum_cons, ih later, first, ← Finset.sum_add_distrib]
    refine Finset.sum_congr rfl fun index _ => ?_
    rw [List.map_cons, List.count_cons]
    by_cases same : step.ruleIndex = ((index : Nat) : Int)
    · simp only [same, beq_self_eq_true, if_true]
      push_cast
      ring
    · simp [same]

namespace Rule

variable {vocabulary : Vocabulary} {rule : Rule} {counts : Counts}

theorem slot_fire (fits : rule.dimension = vocabulary.size)
    (length : counts.length = vocabulary.size) (id : Nat) :
    (rule.fire counts).slot id = counts.slot id + rule.gain id :=
  Counts.slot_exchange (fits.trans length.symm)
    (rule.length_outputs.trans (fits.trans length.symm)) id

theorem weight_fire (fits : rule.dimension = vocabulary.size)
    (length : counts.length = vocabulary.size) (weights : Nat → Int) :
    (rule.fire counts).weight weights =
      counts.weight weights + (rule.outputs.weight weights - rule.inputs.weight weights) := by
  have inputsLength : rule.inputs.length = vocabulary.size := fits
  rw [Counts.weight, Counts.weight, Counts.weight, Counts.weight, length_fire, length_outputs,
    fits, inputsLength, length, ← Finset.sum_sub_distrib, ← Finset.sum_add_distrib]
  refine Finset.sum_congr rfl fun id _ => ?_
  rw [slot_fire fits length, gain]
  ring

end Rule

namespace Counts

variable {counts : Counts}

theorem slot_increment {id : Nat} (inside : id < counts.length) (other : Nat) :
    (counts.increment id).slot other = counts.slot other + if other = id then 1 else 0 := by
  rw [slot, slot, increment, List.getElem?_modify]
  by_cases here : other = id
  · subst here
    rw [List.getElem?_eq_getElem inside]
    simp
  · simp [here, Ne.symm here]

theorem weight_increment {id : Nat} (inside : id < counts.length) (weights : Nat → Int) :
    (counts.increment id).weight weights = counts.weight weights + weights id := by
  simp only [weight, length_increment, slot_increment inside, Int.mul_add,
    Finset.sum_add_distrib, mul_ite, Int.mul_one, Int.mul_zero]
  rw [Finset.sum_ite_eq', if_pos (Finset.mem_range.mpr inside)]

end Counts

namespace Vocabulary

variable {vocabulary : Vocabulary} {counts : Counts}

/-- What the tokens weigh that are names when they are trimmed. -/
def load (vocabulary : Vocabulary) (weights : Nat → Int) (tokens : List String) : Int :=
  ((tokens.filterMap fun token => vocabulary.id? (Text.trim token)).map weights).sum

theorem Counted.weight_tally (counted : vocabulary.Counted counts) (weights : Nat → Int)
    (tokens : List String) :
    (vocabulary.tally counts tokens).weight weights =
      counts.weight weights + vocabulary.load weights tokens := by
  induction tokens generalizing counts with
  | nil => simp [Vocabulary.tally, load]
  | cons token rest ih =>
    cases found : vocabulary.id? (Text.trim token) with
    | none =>
      rw [tally_cons_of_unnamed found, ih counted]
      simp [load, found]
    | some id =>
      have inside : id < counts.length := counted.length ▸ id?_lt found
      rw [tally_cons_of_named found, ih (counted.increment id), Counts.weight_increment inside]
      simp [load, found, Int.add_assoc]

end Vocabulary

/-- No rule is applied twice in a pass, so none is applied more often than there are passes. -/
theorem Engine.Greedy.count_fired_le {engine : Engine} {trace : Trace} {passes : Nat}
    (greedy : engine.Greedy trace passes) (index : Int) : trace.fired.count index ≤ passes := by
  let own := trace.steps.filter (·.ruleIndex = index)
  have ofRule : ∀ step ∈ own, step ∈ trace.steps ∧ step.ruleIndex = index := by
    intro step member
    exact (List.mem_filter.mp member).imp_right of_decide_eq_true
  have distinct : (own.map Step.pass).Nodup := by
    refine List.pairwise_map.mpr ((greedy.ordered.sublist List.filter_sublist).imp_of_mem ?_)
    rintro first second inFirst inSecond (earlier | ⟨-, lower⟩) same
    · omega
    · rw [(ofRule first inFirst).2, (ofRule second inSecond).2] at lower
      exact absurd lower (Int.lt_irrefl index)
  have within : (own.map Step.pass).toFinset ⊆ Finset.Icc 1 (passes : Int) := by
    intro pass member
    obtain ⟨step, inOwn, rfl⟩ := List.mem_map.mp (List.mem_toFinset.mp member)
    exact Finset.mem_Icc.mpr ((greedy.numbered step.pass).mp ⟨step, (ofRule step inOwn).1, rfl⟩)
  calc trace.fired.count index
    _ = (own.map Step.pass).length := by
      rw [Trace.fired, List.count, List.countP_map, List.countP_eq_length_filter, List.length_map]
      rfl
    _ = (own.map Step.pass).toFinset.card := (List.toFinset_card_of_nodup distinct).symm
    _ ≤ (Finset.Icc 1 (passes : Int)).card := Finset.card_le_card within
    _ = passes := by simp

/-- What the counts of the applied rules say about the first and the last counts of a trace. -/
structure Engine.Balanced (engine : Engine) (trace : Trace) : Prop where
  length : trace.final.length = trace.initial.length
  slots : ∀ id, trace.final.slot id = trace.initial.slot id +
    ∑ index : Fin engine.rules.rules.length,
      (trace.timesFired (index : Nat) : Int) * engine.rules.rules[index].gain id
  indices : ∀ entry ∈ trace.ruleCounts, ∃ index < engine.rules.rules.length,
    entry.1 = (index : Nat)
  total : (trace.ruleCounts.map (·.2)).sum = trace.steps.length
  -- The pass of the last step is the largest one.
  bounded : ∀ entry ∈ trace.ruleCounts, ∃ last ∈ trace.steps,
    (∀ step ∈ trace.steps, step.pass ≤ last.pass) ∧ (entry.2 : Int) ≤ last.pass
  conserved : ∀ weights, (∀ rule ∈ engine.rules.rules,
    rule.outputs.weight weights = rule.inputs.weight weights) →
      trace.final.weight weights = trace.initial.weight weights
  notRaised : ∀ weights, (∀ rule ∈ engine.rules.rules,
    rule.outputs.weight weights ≤ rule.inputs.weight weights) →
      (∀ step ∈ trace.steps, step.after.weight weights ≤ step.before.weight weights) ∧
        trace.final.weight weights ≤ trace.initial.weight weights

namespace Engine

variable (engine : Engine) (tokens : List String)

theorem measure_final (measure : Counts → Int) (gain : Rule → Int)
    (each : ∀ rule ∈ engine.rules.rules, ∀ counts, engine.vocabulary.Counted counts →
      measure (rule.fire counts) = measure counts + gain rule) :
    measure (engine.final tokens) = measure (engine.initial tokens) +
      ∑ index : Fin engine.rules.rules.length,
        ((engine.traceOf tokens).timesFired (index : Nat) : Int) *
          gain engine.rules.rules[index] := by
  have stepwise : ∀ step ∈ engine.steps tokens,
      measure step.after = measure step.before + gain step.rule := by
    intro step member
    obtain ⟨inSet, fired⟩ := engine.steps_fire tokens member
    rw [fired.after]
    exact each step.rule inSet step.before (engine.steps_counted tokens member).1
  rw [(engine.steps_chained tokens).total measure (gain ·.rule) stepwise,
    sum_steps_eq_sum_rules (fun _ => engine.steps_rule tokens) gain]
  simp only [Trace.timesFired_eq]
  rfl

theorem weight_final (weights : Nat → Int) :
    (engine.final tokens).weight weights = (engine.initial tokens).weight weights +
      ∑ index : Fin engine.rules.rules.length,
        ((engine.traceOf tokens).timesFired (index : Nat) : Int) *
          (engine.rules.rules[index].outputs.weight weights -
            engine.rules.rules[index].inputs.weight weights) :=
  engine.measure_final tokens (Counts.weight weights)
    (fun rule => rule.outputs.weight weights - rule.inputs.weight weights)
    fun rule member _ counted =>
      Rule.weight_fire (engine.rules.fits rule member) counted.length weights

theorem traceOf_balanced : engine.Balanced (engine.traceOf tokens) where
  length := (engine.final_counted tokens).length.trans (engine.initial_counted tokens).length.symm
  slots id := engine.measure_final tokens (Counts.slot · id) (Rule.gain · id)
    fun rule member _ counted =>
      Rule.slot_fire (engine.rules.fits rule member) counted.length id
  indices := by
    rintro ⟨index, times⟩ member
    obtain ⟨rfl, positive⟩ := Trace.mem_ruleCounts.mp member
    obtain ⟨step, inSteps, rfl⟩ := List.mem_map.mp (List.count_pos_iff.mp positive)
    obtain ⟨place, atPlace, found⟩ := engine.steps_rule tokens inSteps
    exact ⟨place, (List.getElem?_eq_some_iff.mp found).1, atPlace⟩
  total := Trace.sum_ruleCounts _
  bounded := by
    rintro ⟨index, times⟩ member
    have greedy := engine.traceOf_greedy tokens
    obtain ⟨rfl, positive⟩ := Trace.mem_ruleCounts.mp member
    have most := greedy.count_fired_le index
    obtain ⟨last, inSteps, isLast⟩ := (greedy.numbered (engine.passes tokens)).mpr
      ⟨by omega, Int.le_refl _⟩
    refine ⟨last, inSteps, fun step other => ?_, ?_⟩
    · rw [isLast]
      exact ((greedy.numbered step.pass).mp ⟨step, other, rfl⟩).2
    · rw [isLast]
      exact Int.ofNat_le.mpr most
  conserved weights kept := by
    have balance := engine.weight_final tokens weights
    rw [Finset.sum_eq_zero, Int.add_zero] at balance
    · exact balance
    · intro index _
      have same := kept engine.rules.rules[index] (List.getElem_mem index.isLt)
      rw [same, Int.sub_self, Int.mul_zero]
  notRaised weights kept := by
    constructor
    · intro step member
      obtain ⟨inSet, fired⟩ := engine.steps_fire tokens member
      have length := (engine.steps_counted tokens member).1.length
      have lower := kept step.rule inSet
      rw [fired.after, Rule.weight_fire (engine.rules.fits _ inSet) length]
      omega
    · have nothing : ∑ index : Fin engine.rules.rules.length,
          ((engine.traceOf tokens).timesFired (index : Nat) : Int) *
            (engine.rules.rules[index].outputs.weight weights -
              engine.rules.rules[index].inputs.weight weights) ≤ 0 := by
        refine Finset.sum_nonpos fun index _ => ?_
        have lower := kept engine.rules.rules[index] (List.getElem_mem index.isLt)
        exact Int.mul_nonpos_of_nonneg_of_nonpos (Int.natCast_nonneg _)
          (Int.sub_nonpos_of_le lower)
      calc (engine.final tokens).weight weights
        _ ≤ (engine.initial tokens).weight weights + 0 := by
          rw [engine.weight_final]
          gcongr
        _ = (engine.initial tokens).weight weights := Int.add_zero _

/-- Whether a run settles or is stopped, the trace of its outcome is balanced. What is left is what
was there and what the rules change, each as often as the trace counts it. So every weighting is
kept that no rule changes, and none is raised that no rule raises. -/
theorem execute_balanced :
    ∃ trace writable outcome, engine.Attains tokens trace writable outcome ∧
      engine.Balanced trace :=
  ⟨_, _, _, engine.attains tokens, engine.traceOf_balanced tokens⟩

-- What gets old stays one, so a run on the young keeps their number.
example : ∀ rule ∈ aging.rules.rules,
    rule.outputs.weight (fun _ => 1) = rule.inputs.weight (fun _ => 1) := by
  decide

end Engine

end MultisetSubstitution
