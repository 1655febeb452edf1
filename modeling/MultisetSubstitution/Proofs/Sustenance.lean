import MultisetSubstitution.Proofs.Balance
import MultisetSubstitution.Proofs.Cycles
import MultisetSubstitution.Proofs.Observation

/-! Rules whose inputs are sustained. Where no rule takes out more than it puts in of what one rule
needs, that rule stays enabled once its inputs are there. So a run that comes to hold them never
settles, and every limit stops it. -/

set_option autoImplicit false

namespace MultisetSubstitution

theorem Chained.kept_at_end {counts final : Counts} {steps : List Step} {kept : Counts → Prop}
    (chained : Chained counts steps final)
    (keeps : ∀ step ∈ steps, kept step.before → kept step.after)
    (somewhere : kept counts ∨ ∃ step ∈ steps, kept step.before ∨ kept step.after) :
    kept final := by
  -- What holds later in the chain is found by going along it, and what holds now is carried on.
  induction steps generalizing counts with
  | nil =>
    obtain rfl : final = counts := chained
    simpa using somewhere
  | cons step rest ih =>
    obtain ⟨rfl, others⟩ := chained
    obtain ⟨here, later⟩ := List.forall_mem_cons.mp keeps
    refine ih others later ?_
    rcases somewhere with now | ⟨other, member, holds⟩
    · exact .inl (here now)
    · rcases List.mem_cons.mp member with rfl | inRest
      · exact .inl (holds.elim here id)
      · exact .inr ⟨other, inRest, holds⟩

namespace RuleSet

variable {set : RuleSet} {rule other : Rule} {counts : Counts}

/-- No rule of the set takes out more than it puts in of an attribute that the rule needs. -/
def Sustains (set : RuleSet) (rule : Rule) : Prop :=
  ∀ other ∈ set.rules, ∀ id < set.vocabulary.size,
    rule.inputs.slot id ≠ 0 → other.inputs.slot id ≤ other.outputs.slot id

instance (set : RuleSet) (rule : Rule) : Decidable (set.Sustains rule) :=
  inferInstanceAs (Decidable (∀ other ∈ set.rules, ∀ id < set.vocabulary.size, _ → _))

structure Nourishes (set : RuleSet) (rule : Rule) (counts : Counts) : Prop where
  counted : set.vocabulary.Counted counts
  holds : counts.Holds rule.inputs

theorem Sustains.fire (sustains : set.Sustains rule) (fits : rule.dimension = set.vocabulary.size)
    (member : other ∈ set.rules) (enabled : other.enabled counts = true)
    (nourishes : set.Nourishes rule counts) : set.Nourishes rule (other.fire counts) where
  counted := fire_counted member nourishes.counted enabled
  holds := by
    have length := nourishes.counted.length
    have fired := fire_counted member nourishes.counted enabled
    have held := (Counts.holds_iff_slot (fits.trans length.symm)).mp nourishes.holds
    rw [Counts.holds_iff_slot (fits.trans fired.length.symm)]
    intro id
    by_cases needed : rule.inputs.slot id = 0
    · rw [needed]
      exact Counts.slot_nonnegative fired.nonnegative id
    · have inside : id < rule.inputs.length := by
        by_contra outside
        exact needed (Counts.slot_of_le (Nat.le_of_not_lt outside))
      have kept := sustains other member id (Nat.lt_of_lt_of_eq inside fits) needed
      have before := held id
      rw [Rule.slot_fire (set.fits other member) length, Rule.gain]
      omega

theorem Sustains.turn (sustains : set.Sustains rule) (fits : rule.dimension = set.vocabulary.size)
    (member : other ∈ set.rules) (nourishes : set.Nourishes rule counts) :
    set.Nourishes rule (other.turn counts) := by
  rw [Rule.turn]
  split
  · rename_i enabled
    exact sustains.fire fits member enabled nourishes
  · exact nourishes

theorem Nourishes.not_normal (nourishes : set.Nourishes rule counts) (member : rule ∈ set.rules) :
    set.normal counts = false := by
  rw [Bool.eq_false_iff]
  exact fun settled =>
    not_holds_of_normal nourishes.counted.length settled member nourishes.holds

end RuleSet

namespace Engine

variable {engine : Engine} {tokens : List String} {rule : Rule}

/-- If a run comes to hold the inputs of a rule that is sustained, it holds them to its end. -/
theorem final_nourishes (inSet : rule ∈ engine.rules.rules)
    (sustains : engine.rules.Sustains rule) {counts : Counts}
    (member : counts ∈ (engine.traceOf tokens).vectors) (held : counts.Holds rule.inputs) :
    engine.rules.Nourishes rule (engine.final tokens) := by
  have nourishes : engine.rules.Nourishes rule counts := ⟨vectors_counted member, held⟩
  have keeps : ∀ step ∈ engine.steps tokens,
      engine.rules.Nourishes rule step.before → engine.rules.Nourishes rule step.after := by
    intro step inSteps before
    obtain ⟨ofSet, fired⟩ := engine.steps_fire tokens inSteps
    rw [fired.after]
    exact sustains.fire (engine.rules.fits rule inSet) ofSet fired.enabled before
  have chained := engine.steps_chained tokens
  rcases Trace.mem_vectors.mp member with rfl | rfl | ⟨step, inSteps, rfl | rfl⟩
  · exact chained.kept_at_end keeps (.inl nourishes)
  · exact nourishes
  · exact chained.kept_at_end keeps (.inr ⟨step, inSteps, .inl nourishes⟩)
  · exact chained.kept_at_end keeps (.inr ⟨step, inSteps, .inr nourishes⟩)

theorem unsettled_of_nourished (inSet : rule ∈ engine.rules.rules)
    (sustains : engine.rules.Sustains rule)
    (nourishes : engine.rules.Nourishes rule (engine.final tokens)) (index : Nat) :
    engine.rules.normal (engine.rules.pass^[index] (engine.initial tokens)) = false := by
  rcases Nat.lt_or_ge index (engine.passes tokens) with early | late
  · exact RuleSet.not_normal_of_lt_productive early
  · obtain ⟨more, rfl⟩ := Nat.exists_eq_add_of_le' late
    rw [Function.iterate_add_apply]
    have kept := RuleSet.iterate_pass_keeps (fun other member _ nourishes =>
      sustains.turn (engine.rules.fits rule inSet) member nourishes) nourishes more
    exact kept.not_normal inSet

/-- Once a run holds the inputs of a rule of which no rule takes out more than it puts in, it is
stopped by every limit. It returns this failure just if it can write the limit, and if it is verbose
all counts that it comes to. -/
theorem execute_sustained (engine : Engine) (tokens : List String) (index : Nat) (rule : Rule)
    (found : engine.rules.rules[index]? = some rule) (sustains : engine.rules.Sustains rule)
    (around : Surroundings) (output : Output) (outcome : Outcome) (trace : Trace)
    (returned : engine.outcomeIn tokens true around output = .ok outcome)
    (shown : outcome.trace? = some trace) (counts : Counts) (member : counts ∈ trace.vectors)
    (held : counts.Holds rule.inputs) (limit : Int) :
    ∃ longer writable stopped, (engine.withLimit limit).Attains tokens longer writable stopped ∧
      (∀ traced, ∃ fault, stopped traced = .failure fault) ∧
      ∀ digits, writable digits = true ↔
        (engine.verbose = true → longer.Fits digits) ∧ Text.fits digits limit = true := by
  obtain ⟨rfl, -⟩ := outcomeIn_eq_ok.mp returned
  obtain rfl : engine.traceOf tokens = trace := by
    simpa [outcome_trace?] using shown
  have inSet := List.mem_of_getElem? found
  have unsettled := unsettled_of_nourished inSet sustains
    (final_nourishes inSet sustains member held)
  have stopped : (engine.withLimit limit).settles tokens = false :=
    not_settles_of_not_normal unsettled
  refine ⟨_, _, _, (engine.withLimit limit).attains tokens, fun traced =>
    ⟨(engine.withLimit limit).stop tokens traced, ?_⟩, fun digits => ?_⟩
  · rw [Engine.outcome, stopped]
    rfl
  · rw [writable, Option.isNone_iff_eq_none, stoppedBy?_eq_none_iff, Outcome.Fits,
      outcome_numbers, stopped, if_neg Bool.false_ne_true, List.forall_mem_singleton]
    rfl

/-- An engine of two rules. Two flints are struck into two sparks, and these stay and give embers.
-/
def smouldering : Engine where
  rules := {
    vocabulary := ⟨["flint", "spark", "ember"], by decide, by decide +kernel⟩
    rules := [
      ⟨[0, 2, 0], [0, 2, 1], none, rfl, by decide, by decide, rfl, by decide⟩,
      ⟨[2, 0, 0], [0, 2, 0], none, rfl, by decide, by decide, rfl, by decide⟩]
    fits := by decide }
  maxIterations := 3

/-- The sparks are there only after the first step, and then they are never lost. -/
theorem execute_sustained_smouldering :
    ∃ rule, smouldering.rules.rules[0]? = some rule ∧ smouldering.rules.Sustains rule ∧
      ∃ fault trace, smouldering.outcomeIn ["flint", "flint"] true
          ⟨.collecting, some 4300⟩ {} = .ok (.failure fault) ∧ fault.trace = some trace ∧
        [0, 2, 0] ∈ trace.vectors ∧ Counts.Holds [0, 2, 0] rule.inputs ∧
        ∃ stopped, (smouldering.withLimit 1000000).outcomeIn ["flint", "flint"] false
          ⟨.collecting, some 4300⟩ {} = .ok (.failure stopped) := by
  have sustains : smouldering.rules.Sustains smouldering.rules.rules[0] := by decide
  have returned : smouldering.outcomeIn ["flint", "flint"] true ⟨.collecting, some 4300⟩ {} =
      .ok (.failure (smouldering.stop ["flint", "flint"] true)) := rfl
  have member : [0, 2, 0] ∈ (smouldering.traceOf ["flint", "flint"]).vectors := by decide
  have held : Counts.Holds [0, 2, 0] smouldering.rules.rules[0].inputs :=
    (Counts.dominates_iff_holds rfl).mp rfl
  obtain ⟨trace, writable, stopped, run, fails, written⟩ := smouldering.execute_sustained
    ["flint", "flint"] 0 _ rfl sustains _ _ _ _ returned rfl _ member held 1000000
  obtain ⟨fault, ended⟩ := fails false
  have came := run.returns false ⟨.collecting, some 4300⟩ Sink.accepting_collecting {}
  rw [if_pos ((written _).mpr ⟨nofun, by decide +kernel⟩), ended] at came
  exact ⟨_, rfl, sustains, _, _, returned, rfl, member, held, fault, came⟩

/-- A verbose engine of one rule. Three flames stay and give half as many embers as can be
written. -/
def kindling : Engine where
  rules := {
    vocabulary := ⟨["flame", "ember"], by decide, by decide +kernel⟩
    rules := [⟨[3, 0], [3, longest / 2], none, by decide +kernel, by decide, by decide +kernel, rfl,
      by decide +kernel⟩]
    fits := by decide +kernel }
  verbose := true
  maxIterations := 1

/-- The embers of two passes can be written, and under a limit of one the run is stopped after
these. Under a limit of two it makes one pass more, and does not return. -/
theorem kindling_unfinished :
    (∃ rule, kindling.rules.rules[0]? = some rule ∧ kindling.rules.Sustains rule ∧
      (kindling.initial ["flame", "flame", "flame"]).Holds rule.inputs) ∧
    (kindling.outcomeIn ["flame", "flame", "flame"] true
      ⟨.collecting, some Text.digitLimit⟩ {}).map
        (fun outcome => (outcome.settled, outcome.trace?.map Trace.initial)) =
          .ok (false, some (kindling.initial ["flame", "flame", "flame"])) ∧
    ((kindling.withLimit 2).outcomeIn ["flame", "flame", "flame"] true
      ⟨.collecting, some Text.digitLimit⟩ {}).map Outcome.settled = .error .longNumber ∧
    (((kindling.withLimit 2).withVerbose false).outcomeIn ["flame", "flame", "flame"] true
      ⟨.collecting, some Text.digitLimit⟩ {}).map Outcome.settled = .ok false := by
  refine ⟨⟨kindling.rules.rules[0], rfl, by decide +kernel, ?_⟩, by decide +kernel,
    by decide +kernel, by decide +kernel⟩
  exact (Counts.dominates_iff_holds rfl).mp rfl

end Engine

end MultisetSubstitution
