import MultisetSubstitution.Proofs.Limit
import MultisetSubstitution.Proofs.Numbers

/-! Runs that start two passes from the same counts. A pass depends on nothing but the counts that
it starts from, so such a run goes round for ever, and it is stopped by every limit. -/

set_option autoImplicit false

namespace MultisetSubstitution

/-- The counts that a pass starts from, which are those before its first step. -/
def Trace.passStart? (trace : Trace) (pass : Int) : Option Counts :=
  (trace.steps.find? (·.pass = pass)).map Step.before

namespace RuleSet

variable {set : RuleSet} {counts : Counts}

theorem productive_of_not_normal {most : Nat}
    (unsettled : ∀ index, set.normal (set.pass^[index] counts) = false) :
    set.productive counts most = most := by
  rcases Nat.lt_or_eq_of_le (set.productive_le counts most) with spare | all
  · have settled := normal_of_productive_lt spare
    rw [unsettled] at settled
    exact nomatch settled
  · exact all

/-- Once passes have come back to counts, all that follow lead to counts that there were before. -/
theorem iterate_pass_revisits {first second : Nat} (before : first < second)
    (same : set.pass^[first] counts = set.pass^[second] counts) (index : Nat) :
    ∃ earlier < second, set.pass^[index] counts = set.pass^[earlier] counts := by
  -- One pass further is one pass further in the round, or at its beginning again.
  induction index with
  | zero => exact ⟨0, by omega, rfl⟩
  | succ index ih =>
    obtain ⟨earlier, within, found⟩ := ih
    rw [Function.iterate_succ_apply', found, ← Function.iterate_succ_apply' set.pass]
    by_cases last : earlier + 1 = second
    · subst last
      exact ⟨first, before, same.symm⟩
    · exact ⟨earlier + 1, by omega, rfl⟩

theorem before_of_head?_passSteps {pass : Nat} {step : Step}
    (first : (set.passSteps pass counts).head? = some step) : step.before = counts := by
  obtain ⟨rest, steps⟩ := List.head?_eq_some_iff.mp first
  have chained := sweepSteps_chained pass 0 counts set.rules
  rw [passSteps] at steps
  rw [steps] at chained
  exact chained.1

theorem find?_passSteps (set : RuleSet) (pass : Nat) (counts : Counts) :
    (set.passSteps pass counts).find? (·.pass = (pass : Int)) =
      (set.passSteps pass counts).head? := by
  cases steps : set.passSteps pass counts with
  | nil => rfl
  | cons step rest =>
    have number : step.pass = pass := sweepSteps_pass (steps ▸ List.mem_cons_self)
    rw [List.find?_cons_of_pos (by simpa using number), List.head?_cons]

theorem find?_unrolled_outside {done most pass : Nat} (outside : pass ≤ done ∨ done + most < pass) :
    (set.unrolled done counts most).find? (·.pass = (pass : Int)) = none := by
  rw [List.find?_eq_none]
  intro step member
  have bounds := unrolled_pass_bounds member
  simp only [decide_eq_true_eq]
  omega

theorem find?_unrolled {done most index : Nat} (early : index < most) :
    (set.unrolled done counts most).find? (·.pass = ((done + index + 1 : Nat) : Int)) =
      (set.passSteps (done + index + 1) (set.pass^[index] counts)).head? := by
  obtain ⟨later, rfl⟩ : ∃ later, most = index + (later + 1) := ⟨most - index - 1, by omega⟩
  rw [unrolled_add, unrolled, List.find?_append, List.find?_append,
    find?_unrolled_outside (.inr (by omega)), find?_unrolled_outside (.inl (Nat.le_refl _)),
    find?_passSteps, Option.none_or, Option.or_none]

end RuleSet

namespace Engine

variable {engine : Engine} {tokens : List String}

theorem passStart?_traceOf {pass : Int} {counts : Counts}
    (start : (engine.traceOf tokens).passStart? pass = some counts) :
    ∃ index < engine.passes tokens, pass = (index + 1 : Nat) ∧
      engine.rules.pass^[index] (engine.initial tokens) = counts := by
  obtain ⟨step, found, rfl⟩ := Option.map_eq_some_iff.mp start
  have number : step.pass = pass := by simpa using List.find?_some found
  obtain ⟨index, early, inPass⟩ := RuleSet.mem_unrolled.mp (List.mem_of_find?_eq_some found)
  have same : pass = (0 + index + 1 : Nat) := number.symm.trans (sweepSteps_pass inPass)
  have first := found
  rw [same] at first
  refine ⟨index, early, by omega, ?_⟩
  exact (RuleSet.before_of_head?_passSteps ((RuleSet.find?_unrolled early).symm.trans first)).symm

theorem not_settles_of_not_normal (unsettled : ∀ index,
      engine.rules.normal (engine.rules.pass^[index] (engine.initial tokens)) = false) :
    engine.settles tokens = false := by
  have passes : engine.passes tokens = engine.maxIterations.toNat + 1 :=
    RuleSet.productive_of_not_normal unsettled
  rw [Bool.eq_false_iff, ne_eq, settles_iff, passes]
  exact Nat.not_succ_le_self _

/-- A run that starts two passes from the same counts is stopped by every limit, and nothing is in
its way that is not in the way of a run that has come so far. -/
theorem stopped_withLimit_of_cycle {around : Surroundings} (accepting : around.sink.Accepting)
    (clear : ∀ effect ∈ engine.effects tokens, effect.Clear around) {first second : Nat}
    (before : first < second) (within : second < engine.passes tokens)
    (same : engine.rules.pass^[first] (engine.initial tokens) =
      engine.rules.pass^[second] (engine.initial tokens))
    (limit : Int) (traced : Bool) (output : Output) :
    (engine.withLimit limit).outcomeIn tokens traced around output =
      ((engine.withLimit limit).stop tokens traced).written around.digits := by
  have revisits : ∀ index, ∃ earlier < engine.passes tokens,
      engine.rules.pass^[index] (engine.initial tokens) =
        engine.rules.pass^[earlier] (engine.initial tokens) := by
    intro index
    obtain ⟨earlier, early, found⟩ := RuleSet.iterate_pass_revisits before same index
    exact ⟨earlier, Nat.lt_trans early within, found⟩
  have unsettled : ∀ index, engine.rules.normal
      (engine.rules.pass^[index] (engine.initial tokens)) = false := by
    intro index
    obtain ⟨earlier, early, found⟩ := revisits index
    rw [found]
    exact RuleSet.not_normal_of_lt_productive early
  have stopped : (engine.withLimit limit).settles tokens = false :=
    not_settles_of_not_normal unsettled
  exact outcomeIn_withLimit_of_stopped accepting stopped (fun index _ => revisits index) clear
    traced output

/-- A stopped run with two passes in its trace that start from the same counts is in a cycle. On the
same tokens it is stopped by every limit, and the failure is returned if the limit can be written.
-/
theorem cycle_never_settles (engine : Engine) (tokens : List String) (around : Surroundings)
    (accepting : around.sink.Accepting) (output : Output) (fault : Failure) (trace : Trace)
    (returned : engine.outcomeIn tokens true around output = .ok (.failure fault))
    (shown : fault.trace = some trace) (first second : Int) (different : first ≠ second)
    (counts : Counts) (start : trace.passStart? first = some counts)
    (again : trace.passStart? second = some counts) :
    ∀ limit traced other, ∃ stopped : Failure, stopped.maxIterations = limit ∧
      (engine.withLimit limit).outcomeIn tokens traced around other =
        stopped.written around.digits := by
  obtain ⟨ended, clear⟩ := outcomeIn_eq_ok.mp returned
  obtain ⟨-, rfl⟩ := failure_eq_outcome.mp ended
  obtain rfl := Option.some.inj shown
  obtain ⟨index, early, rfl, here⟩ := passStart?_traceOf start
  obtain ⟨place, soon, rfl, there⟩ := passStart?_traceOf again
  intro limit traced other
  rcases Nat.lt_or_gt_of_ne (show index ≠ place by omega) with before | after
  · exact ⟨_, rfl,
      stopped_withLimit_of_cycle accepting clear before soon (here.trans there.symm) limit
      traced other⟩
  · exact ⟨_, rfl,
      stopped_withLimit_of_cycle accepting clear after early (there.trans here.symm) limit
      traced other⟩

/-- An engine whose rules go round: what is sea gets cloud, cloud rain, rain river, and river sea
again. -/
def raining : Engine where
  rules := {
    vocabulary := ⟨["sea", "cloud", "rain", "river"], by decide, by decide +kernel⟩
    rules := [
      ⟨[0, 0, 0, 1], [1, 0, 0, 0], none, rfl, by decide, by decide, rfl, by decide⟩,
      ⟨[0, 0, 1, 0], [0, 0, 0, 1], none, rfl, by decide, by decide, rfl, by decide⟩,
      ⟨[0, 1, 0, 0], [0, 0, 1, 0], none, rfl, by decide, by decide, rfl, by decide⟩,
      ⟨[1, 0, 0, 0], [0, 1, 0, 0], none, rfl, by decide, by decide, rfl, by decide⟩]
    fits := by decide }
  maxIterations := 5

/-- On one sea the second and the fifth pass start from one cloud, so a million passes would not do
either. -/
theorem cycle_never_settles_raining :
    Sink.collecting.Accepting ∧
    ∃ fault trace, raining.outcomeIn ["sea"] true ⟨.collecting, some 4300⟩ {} =
        .ok (.failure fault) ∧ fault.trace = some trace ∧
      trace.passStart? 2 = some [0, 1, 0, 0] ∧ trace.passStart? 5 = some [0, 1, 0, 0] ∧
      ∃ stopped, (raining.withLimit 1000000).outcomeIn ["sea"] false ⟨.collecting, some 4300⟩ {} =
        .ok (.failure stopped) := by
  have accepting : Sink.collecting.Accepting := by decide
  have returned : raining.outcomeIn ["sea"] true ⟨.collecting, some 4300⟩ {} =
      .ok (.failure (raining.stop ["sea"] true)) := rfl
  have second : (raining.traceOf ["sea"]).passStart? 2 = some [0, 1, 0, 0] := by decide
  have fifth : (raining.traceOf ["sea"]).passStart? 5 = some [0, 1, 0, 0] := by decide
  have never := cycle_never_settles raining ["sea"] ⟨.collecting, some 4300⟩ accepting {} _ _
    returned rfl 2 5 (by decide) _ second fifth
  obtain ⟨stopped, limit, ended⟩ := never 1000000 false {}
  rw [Failure.written, limit, if_pos (by decide +kernel)] at ended
  exact ⟨accepting, _, _, returned, rfl, second, fifth, stopped, ended⟩

/-- Under a limit that is too long to be written the same run returns nothing. -/
theorem raining_unreturned :
    ∃ fault trace, raining.outcomeIn ["sea"] true ⟨.collecting, some Text.digitLimit⟩ {} =
        .ok (.failure fault) ∧ fault.trace = some trace ∧
      trace.passStart? 2 = some [0, 1, 0, 0] ∧ trace.passStart? 5 = some [0, 1, 0, 0] ∧
      ((raining.withLimit (-Text.overlong)).outcomeIn ["sea"] true
        ⟨.collecting, some Text.digitLimit⟩ {}).map Outcome.settled = .error .longNumber :=
  ⟨_, _, rfl, rfl, by decide, by decide, by decide +kernel⟩

end Engine

end MultisetSubstitution
