import MultisetSubstitution.Proofs.Balance
import MultisetSubstitution.Proofs.Bounds
import MultisetSubstitution.Proofs.Limit
import MultisetSubstitution.Proofs.Observation

/-! Runs that lose weight. Where each rule takes out more weight than it puts in, every application
makes the multiset lighter. So rules are applied no more often than the tokens weigh, and no run
exceeds a limit as high as that. -/

set_option autoImplicit false

namespace MultisetSubstitution

theorem Chained.length_add_le {counts final : Counts} {steps : List Step}
    (chained : Chained counts steps final) (measure : Counts → Int)
    (lower : ∀ step ∈ steps, measure step.after < measure step.before) :
    steps.length + measure final ≤ measure counts := by
  induction steps generalizing counts with
  | nil =>
    cases chained
    simp
  | cons step rest ih =>
    obtain ⟨rfl, others⟩ := chained
    obtain ⟨here, later⟩ := List.forall_mem_cons.mp lower
    have bound := ih others later
    rw [List.length_cons]
    omega

theorem Vocabulary.Counted.weight_nonnegative {vocabulary : Vocabulary} {counts : Counts}
    (counted : vocabulary.Counted counts) (weights : Nat → Nat) :
    0 ≤ counts.weight (weights ·) :=
  Finset.sum_nonneg fun id _ =>
    Int.mul_nonneg (Int.natCast_nonneg _) (Counts.slot_nonnegative counted.nonnegative id)

def RuleSet.Lightening (set : RuleSet) (weights : Nat → Nat) : Prop :=
  ∀ rule ∈ set.rules, rule.outputs.weight (weights ·) < rule.inputs.weight (weights ·)

instance (set : RuleSet) (weights : Nat → Nat) : Decidable (set.Lightening weights) :=
  inferInstanceAs (Decidable (∀ rule ∈ set.rules, _ < _))

namespace Engine

variable (engine : Engine) {weights : Nat → Nat}

theorem weight_initial (weights : Nat → Int) (tokens : List String) :
    (engine.initial tokens).weight weights = engine.vocabulary.load weights tokens := by
  have nothing : engine.vocabulary.zeros.weight weights = 0 := by
    refine Finset.sum_eq_zero fun id _ => ?_
    rw [Counts.slot, Vocabulary.zeros, Counts.zeros, List.getElem?_replicate]
    split <;> simp
  rw [initial, Vocabulary.Counted.zeros.weight_tally, nothing, Int.zero_add]

theorem length_steps_le_load (lightening : engine.rules.Lightening weights)
    (tokens : List String) :
    (engine.steps tokens).length ≤ engine.vocabulary.load (weights ·) tokens := by
  have lower : ∀ step ∈ engine.steps tokens,
      step.after.weight (weights ·) < step.before.weight (weights ·) := by
    intro step member
    obtain ⟨inSet, fired⟩ := engine.steps_fire tokens member
    have length := (engine.steps_counted tokens member).1.length
    have lighter := lightening step.rule inSet
    rw [fired.after, Rule.weight_fire (engine.rules.fits _ inSet) length]
    omega
  have fallen := (engine.steps_chained tokens).length_add_le _ lower
  have left := (engine.final_counted tokens).weight_nonnegative weights
  rw [weight_initial] at fallen
  omega

theorem passes_le_load (lightening : engine.rules.Lightening weights) (tokens : List String) :
    engine.passes tokens ≤ engine.vocabulary.load (weights ·) tokens :=
  Int.le_trans (Int.ofNat_le.mpr (engine.passes_le_length_steps tokens))
    (engine.length_steps_le_load lightening tokens)

/-- Where each rule takes out more weight than it puts in, a run under any limit applies rules no
more often than its tokens weigh, and makes no more passes. Under a limit as high as that the
outcome is a settled one, and the run returns it just if it can write what it has to: what is left
in the end, and if it is verbose all counts it comes to. -/
theorem execute_lightening (tokens : List String) (weights : Nat → Nat)
    (lightening : engine.rules.Lightening weights) (limit : Int) :
    ∃ trace writable outcome, (engine.withLimit limit).Attains tokens trace writable outcome ∧
      trace.steps.length ≤ engine.vocabulary.load (weights ·) tokens ∧
      (∀ step ∈ trace.steps, step.pass ≤ engine.vocabulary.load (weights ·) tokens) ∧
      (engine.vocabulary.load (weights ·) tokens ≤ limit →
        (∀ traced, ∃ result, outcome traced = .substituted result ∧
          result.passes ≤ engine.vocabulary.load (weights ·) tokens ∧
          result.applications ≤ engine.vocabulary.load (weights ·) tokens) ∧
        ∀ digits, writable digits = true ↔ (engine.verbose = true → trace.Fits digits) ∧
          ∀ number ∈ engine.vocabulary.numbers trace.final, Text.fits digits number = true) := by
  -- The rules are the same under another limit, so the bounds hold for that run too.
  have applications : ((engine.withLimit limit).steps tokens).length ≤
      engine.vocabulary.load (weights ·) tokens :=
    (engine.withLimit limit).length_steps_le_load lightening tokens
  have passes : ((engine.withLimit limit).passes tokens : Int) ≤
      engine.vocabulary.load (weights ·) tokens :=
    (engine.withLimit limit).passes_le_load lightening tokens
  refine ⟨_, _, _, (engine.withLimit limit).attains tokens, applications, ?_, ?_⟩
  · intro step member
    have bounds := RuleSet.unrolled_pass_bounds member
    omega
  · intro enough
    have settled : (engine.withLimit limit).settles tokens = true := by
      rw [settles_iff]
      change _ ≤ limit.toNat
      omega
    refine ⟨fun traced => ⟨(engine.withLimit limit).result tokens traced, ?_, passes,
      applications⟩, fun digits => ?_⟩
    · rw [outcome, if_pos settled]
    · rw [writable, Option.isNone_iff_eq_none, stoppedBy?_eq_none_iff, Outcome.Fits,
        outcome_numbers, if_pos settled]
      rfl

def youth (id : Nat) : Nat := if id = 0 then 1 else 0

theorem execute_lightening_aging :
    aging.rules.Lightening youth ∧
    aging.vocabulary.load (youth ·) ["young", " young", "lava"] = 2 ∧
    ∃ trace writable outcome,
      (aging.withLimit 2).Attains ["young", " young", "lava"] trace writable outcome ∧
      trace.steps.length ≤ 2 ∧ writable none = true ∧
      ∃ result, outcome true = .substituted result ∧ result.passes ≤ 2 := by
  have lightening : aging.rules.Lightening youth := by decide
  have load : aging.vocabulary.load (youth ·) ["young", " young", "lava"] = 2 := by
    decide +kernel
  obtain ⟨trace, writable, outcome, run, applications, -, settles⟩ :=
    aging.execute_lightening ["young", " young", "lava"] youth lightening 2
  rw [load] at applications settles
  obtain ⟨settled, written⟩ := settles (Int.le_refl 2)
  obtain ⟨result, ended, passes, -⟩ := settled true
  refine ⟨lightening, load, trace, writable, outcome, run, by omega, (written none).mpr ?_,
    result, ended, passes⟩
  exact ⟨fun _ => trace.fits_none, fun number _ => Text.fits_none number⟩

/-- An engine of two rules. Two sparks give as many embers as can be written, and with that many two
of water become steam. -/
def quenching : Engine where
  rules := {
    vocabulary := ⟨["spark", "ember", "water", "steam"], by decide, by decide +kernel⟩
    rules := [
      ⟨[2, 0, 0, 0], [0, longest, 0, 0], none, Eq.refl 4, by decide, by decide +kernel, rfl,
        by decide +kernel⟩,
      ⟨[0, longest, 2, 0], [0, 0, 0, 2], none, Eq.refl 4, by decide +kernel, by decide,
        by decide +kernel, by decide +kernel⟩]
    fits := by decide +kernel }

def reserve (id : Nat) : Nat := if id = 0 ∨ id = 2 then 1 else 0

/-- With an ember there already, there are too many to be written between the two rules. The tokens
weigh no more than four, so the limit is far above that, and a quiet run settles. A verbose run does
not return. -/
theorem quenching_unfinished :
    quenching.rules.Lightening reserve ∧
    quenching.vocabulary.load (reserve ·) ["spark", "spark", "ember", "water", "water"] = 4 ∧
    4 ≤ quenching.maxIterations ∧
    ((quenching.withVerbose false).outcomeIn ["spark", "spark", "ember", "water", "water"] true
      ⟨.collecting, some Text.digitLimit⟩ {}).map Outcome.items = .ok ["ember:1", "steam:2"] ∧
    ((quenching.withVerbose true).outcomeIn ["spark", "spark", "ember", "water", "water"] true
      ⟨.collecting, some Text.digitLimit⟩ {}).map Outcome.items = .error .longNumber :=
  ⟨by decide +kernel, by decide +kernel, by decide, by decide +kernel, by decide +kernel⟩

end Engine

end MultisetSubstitution
