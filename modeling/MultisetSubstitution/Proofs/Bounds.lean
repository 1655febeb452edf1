import MultisetSubstitution.Proofs.Representation

/-! Bounds on runs. The loop of a run ends whatever its rules do, since its passes are counted
against the limit. Each of them applies a rule, and none applies a rule twice, so the number of
applications lies between the number of passes and as many for each rule. -/

set_option autoImplicit false

namespace MultisetSubstitution

def Trace.inPass (trace : Trace) (pass : Int) : List Step := trace.steps.filter (·.pass = pass)

/-- The numbers of an outcome keep to a limit on passes and to a number of rules. A settled run is
within the limit and a stopped one makes one pass more; each pass has a step, and at most one for
each rule. -/
def Outcome.Bounded (trace : Trace) (limit : Int) (rules : Nat) : Outcome → Prop
  | .substituted result =>
    result.passes ≤ max limit 0 ∧ result.passes ≤ result.applications ∧
      result.applications ≤ result.passes * rules
  | .failure _ =>
    (∀ pass, trace.inPass pass ≠ [] ↔ 1 ≤ pass ∧ pass ≤ max limit 0 + 1) ∧
      ∀ pass, (trace.inPass pass).length ≤ rules ∧
        ((trace.inPass pass).map Step.ruleIndex).Nodup

theorem length_sweepSteps_le (pass index : Nat) (counts : Counts) (rules : List Rule) :
    (sweepSteps pass index counts rules).length ≤ rules.length := by
  induction rules generalizing index counts with
  | nil => exact Nat.le_refl 0
  | cons rule rest ih =>
    rw [sweepSteps, List.length_cons]
    split
    · exact Nat.succ_le_succ (ih (index + 1) (rule.fire counts))
    · exact Nat.le_succ_of_le (ih (index + 1) counts)

theorem nodup_ruleIndex_sweepSteps (pass index : Nat) (counts : Counts) (rules : List Rule) :
    ((sweepSteps pass index counts rules).map Step.ruleIndex).Nodup :=
  List.pairwise_map.mpr ((sweepSteps_ordered pass index counts rules).imp Int.ne_of_lt)

namespace RuleSet

theorem length_unrolled_le (set : RuleSet) (done : Nat) (counts : Counts) (most : Nat) :
    (set.unrolled done counts most).length ≤ most * set.rules.length := by
  induction most generalizing done counts with
  | zero => exact Nat.zero_le _
  | succ most ih =>
    have first := length_sweepSteps_le (done + 1) 0 counts set.rules
    have others := ih (done + 1) (set.pass counts)
    rw [unrolled, List.length_append, Nat.succ_mul, Nat.add_comm]
    exact Nat.add_le_add others first

theorem productive_le_length (set : RuleSet) (done : Nat) (counts : Counts) (most : Nat) :
    set.productive counts most ≤
      (set.unrolled done counts (set.productive counts most)).length := by
  induction most generalizing done counts with
  | zero => exact Nat.le_refl 0
  | succ most ih =>
    rw [productive]
    split
    · exact Nat.le_refl 0
    · rename_i unsettled
      have loud : set.passSteps (done + 1) counts ≠ [] := mt passSteps_eq_nil.mp unsettled
      have first := List.length_pos_iff.mpr loud
      have others := ih (done + 1) (set.pass counts)
      rw [unrolled, List.length_append]
      omega

end RuleSet

namespace Engine

def nextPass (engine : Engine) (traced : Bool) (around : Surroundings) (passes : Nat)
    (progress : Progress) (output : Output) : Except Obstacle (Progress × Bool) × Output :=
  (engine.sweep traced (passes + 1) 0 progress false engine.rules.rules).runWith around output

/-- The loop of a run, from a number of passes on. It ends with a pass that applies no rule, with
one by which there are more passes than the limit, or within a pass where something is in the way.
The number before the end counts the passes made in full that applied a rule. -/
inductive Loops (engine : Engine) (traced : Bool) (around : Surroundings) :
    Nat → Progress → Output → Nat → Except Obstacle Ending × Output → Prop where
  | settled {passes : Nat} {progress reached : Progress} {output after : Output} :
    engine.nextPass traced around passes progress output = (.ok (reached, false), after) →
    Loops engine traced around passes progress output 0 (.ok ⟨reached, passes, true⟩, after)
  | exceeded {passes : Nat} {progress reached : Progress} {output after : Output} :
    engine.nextPass traced around passes progress output = (.ok (reached, true), after) →
    engine.maxIterations < (passes + 1 : Nat) →
    Loops engine traced around passes progress output 1 (.ok ⟨reached, passes + 1, false⟩, after)
  | further {passes more : Nat} {progress reached : Progress} {output after : Output}
      {ending : Except Obstacle Ending × Output} :
    engine.nextPass traced around passes progress output = (.ok (reached, true), after) →
    (passes + 1 : Nat) ≤ engine.maxIterations →
    Loops engine traced around (passes + 1) reached after more ending →
    Loops engine traced around passes progress output (more + 1) ending
  | obstructed {passes : Nat} {progress : Progress} {output after : Output} {obstacle : Obstacle} :
    engine.nextPass traced around passes progress output = (.error obstacle, after) →
    Loops engine traced around passes progress output 0 (.error obstacle, after)

section

variable {engine : Engine} {traced : Bool} {around : Surroundings}

theorem Loops.unique {passes productive others : Nat} {progress : Progress} {output : Output}
    {ending other : Except Obstacle Ending × Output}
    (first : engine.Loops traced around passes progress output productive ending)
    (second : engine.Loops traced around passes progress output others other) :
    others = productive ∧ other = ending := by
  -- What a pass comes to, and then the limit, leave only one way to go on.
  induction first generalizing others with
  | settled made => cases second <;> simp_all
  | exceeded made beyond =>
    cases second with
    | settled again => simp [made] at again
    | exceeded again _ =>
      simp only [made, Prod.mk.injEq, Except.ok.injEq] at again
      obtain ⟨⟨rfl, -⟩, rfl⟩ := again
      exact ⟨rfl, rfl⟩
    | further again within _ => omega
    | obstructed again => simp [made] at again
  | further made within rest ih =>
    cases second with
    | settled again => simp [made] at again
    | exceeded again beyond => omega
    | further again _ later =>
      simp only [made, Prod.mk.injEq, Except.ok.injEq] at again
      obtain ⟨⟨rfl, -⟩, rfl⟩ := again
      obtain ⟨rfl, rfl⟩ := ih later
      exact ⟨rfl, rfl⟩
    | obstructed again => simp [made] at again
  | obstructed made => cases second <;> simp_all

/-- Settling is the loop. What is allowed is how far the passes are from the limit, and each further
pass brings them one nearer. -/
theorem settle_loops {allowed passes : Nat}
    (distance : allowed = (engine.maxIterations - passes).toNat) (progress : Progress)
    (output : Output) :
    ∃ productive ≤ allowed + 1, engine.Loops traced around passes progress output productive
      ((engine.settle traced allowed passes progress).runWith around output) := by
  induction allowed generalizing passes progress output with
  | zero =>
    rw [settle, Reporting.runWith_bind, ← nextPass]
    rcases made : engine.nextPass traced around passes progress output with
      ⟨obstacle | ⟨reached, _ | _⟩, after⟩
    · exact ⟨0, by omega, .obstructed made⟩
    · exact ⟨0, by omega, .settled made⟩
    · exact ⟨1, by omega, .exceeded made (by omega)⟩
  | succ allowed ih =>
    rw [settle, Reporting.runWith_bind, ← nextPass]
    rcases made : engine.nextPass traced around passes progress output with
      ⟨obstacle | ⟨reached, _ | _⟩, after⟩
    · exact ⟨0, by omega, .obstructed made⟩
    · exact ⟨0, by omega, .settled made⟩
    · have nearer : allowed = (engine.maxIterations - (passes + 1 : Nat)).toNat := by omega
      obtain ⟨more, bound, rest⟩ := ih nearer reached after
      exact ⟨more + 1, by omega, .further made (by omega) rest⟩

end

variable (engine : Engine) (tokens : List String)

theorem passes_le_length_steps : engine.passes tokens ≤ (engine.steps tokens).length :=
  engine.rules.productive_le_length 0 _ _

theorem length_steps_le : (engine.steps tokens).length ≤ engine.passes tokens * engine.rules.size :=
  engine.rules.length_unrolled_le 0 _ _

theorem inPass_ne_nil (pass : Int) :
    (engine.traceOf tokens).inPass pass ≠ [] ↔ 1 ≤ pass ∧ pass ≤ engine.passes tokens := by
  rw [← (engine.traceOf_greedy tokens).numbered pass, Trace.inPass, ne_eq, List.filter_eq_nil_iff]
  simp

theorem inPass_eq_sweepSteps (pass : Int) :
    ∃ number counts, (engine.traceOf tokens).inPass pass =
        sweepSteps number 0 counts engine.rules.rules ∨
      (engine.traceOf tokens).inPass pass = [] := by
  by_cases made : 1 ≤ pass ∧ pass ≤ engine.passes tokens
  · obtain ⟨index, rfl⟩ : ∃ index : Nat, pass = (0 + index + 1 : Nat) :=
      ⟨(pass - 1).toNat, by omega⟩
    exact ⟨_, _, .inl (RuleSet.filter_unrolled_pass (by omega))⟩
  · exact ⟨0, [], .inr (not_not.mp (mt (engine.inPass_ne_nil tokens pass).mp made))⟩

theorem outcome_bounded (traced : Bool) :
    (engine.outcome tokens traced).Bounded (engine.traceOf tokens) engine.maxIterations
      engine.rules.size := by
  rw [outcome]
  by_cases settled : engine.settles tokens = true
  · have within := settles_iff.mp settled
    have atLeast := engine.passes_le_length_steps tokens
    have atMost := engine.length_steps_le tokens
    rw [if_pos settled]
    refine ⟨?_, Int.ofNat_le.mpr atLeast, ?_⟩
    · change (engine.passes tokens : Int) ≤ _
      omega
    · change ((engine.steps tokens).length : Int) ≤ engine.passes tokens * engine.rules.size
      exact_mod_cast atMost
  · have most := engine.rules.productive_le (engine.initial tokens) (engine.maxIterations.toNat + 1)
    have all : engine.passes tokens ≤ engine.maxIterations.toNat + 1 := most
    have beyond : ¬ engine.passes tokens ≤ engine.maxIterations.toNat :=
      fun within => settled (settles_iff.mpr within)
    rw [if_neg settled]
    refine ⟨fun pass => ?_, fun pass => ?_⟩
    · rw [engine.inPass_ne_nil]
      omega
    · obtain ⟨number, counts, same | none⟩ := engine.inPass_eq_sweepSteps tokens pass
      · rw [same]
        exact ⟨length_sweepSteps_le .., nodup_ruleIndex_sweepSteps ..⟩
      · simp [none]

/-- Every run ends. Its loop, from whatever counts, has just one end, which is what settling comes
to, after no more productive passes than one above the limit. A settled run is within the limit, and
its applications are no fewer than its passes and no more than these times the number of rules. A
stopped run makes steps in one pass more than the limit allows, and in no pass of a rule twice. -/
theorem execute_bounded :
    (∀ traced around counts output, ∃ productive : Nat, productive ≤ max engine.maxIterations 0 + 1 ∧
      engine.Loops traced around 0 ⟨counts, 0, #[]⟩ output productive
        ((engine.settle traced engine.maxIterations.toNat 0 ⟨counts, 0, #[]⟩).runWith around
          output) ∧
      ∀ others ending, engine.Loops traced around 0 ⟨counts, 0, #[]⟩ output others ending →
        others = productive ∧ ending = (engine.settle traced engine.maxIterations.toNat 0
          ⟨counts, 0, #[]⟩).runWith around output) ∧
    ∃ trace writable outcome, engine.Attains tokens trace writable outcome ∧
      ∀ traced, (outcome traced).Bounded trace engine.maxIterations engine.rules.size := by
  refine ⟨fun traced around counts output => ?_,
    _, _, _, engine.attains tokens, engine.outcome_bounded tokens⟩
  have distance : engine.maxIterations.toNat = (engine.maxIterations - (0 : Nat)).toNat := by simp
  obtain ⟨productive, bound, loop⟩ := settle_loops distance ⟨counts, 0, #[]⟩ output
  exact ⟨productive, by omega, loop, fun _ _ other => loop.unique other⟩

/-- A limit below zero leaves one pass still, as a limit of zero does. -/
example : (({ aging with maxIterations := -3 } : Engine).traceOf ["young", "young"]).steps.map
    Step.pass = [1] := by decide

end Engine

end MultisetSubstitution
