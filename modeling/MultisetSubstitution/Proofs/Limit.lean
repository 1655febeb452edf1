import MultisetSubstitution.Proofs.Runs

/-! The limit on passes as a threshold: a run that settles does so under every limit that leaves it
its passes, and with the same result. A lower limit cuts the run short, and nothing else. -/

set_option autoImplicit false

namespace MultisetSubstitution

def Failure.written (fault : Failure) (digits : Option Nat) : Except Obstacle Outcome :=
  if Text.fits digits fault.maxIterations then .ok (.failure fault) else .error .longNumber

namespace Engine

variable {engine : Engine} {tokens : List String} {limit : Int}

def withLimit (engine : Engine) (limit : Int) : Engine := { engine with maxIterations := limit }

theorem passes_withLimit (comparable : engine.settles tokens = true ∨
      limit.toNat ≤ engine.maxIterations.toNat) :
    (engine.withLimit limit).passes tokens = min (engine.passes tokens) (limit.toNat + 1) := by
  -- One pass more than the limit is made before a run is stopped.
  apply RuleSet.productive_eq_min
  rw [settles_iff] at comparable
  exact comparable.imp Nat.lt_succ_of_le Nat.succ_le_succ

theorem settles_withLimit (settled : engine.settles tokens = true) :
    (engine.withLimit limit).settles tokens = true ↔ engine.passes tokens ≤ limit.toNat := by
  rw [settles_iff, passes_withLimit (.inl settled)]
  change min (engine.passes tokens) (limit.toNat + 1) ≤ limit.toNat ↔ _
  omega

theorem passes_withLimit_eq (settled : engine.settles tokens = true)
    (enough : engine.passes tokens ≤ limit.toNat) :
    (engine.withLimit limit).passes tokens = engine.passes tokens := by
  rw [passes_withLimit (.inl settled)]
  omega

theorem result_withLimit (settled : engine.settles tokens = true)
    (enough : engine.passes tokens ≤ limit.toNat) (traced : Bool) :
    (engine.withLimit limit).result tokens traced = engine.result tokens traced := by
  have passes := passes_withLimit_eq settled enough
  simp only [result, traceOf, final, steps, passes]
  rfl

theorem effects_withLimit (settled : engine.settles tokens = true)
    (enough : engine.passes tokens ≤ limit.toNat) :
    (engine.withLimit limit).effects tokens = engine.effects tokens := by
  have passes := passes_withLimit_eq settled enough
  have both := (settles_withLimit settled).mpr enough
  simp only [effects, endEffects, final, steps, passes, both, settled, if_true]
  rfl

theorem steps_withLimit_isPrefix
    (fewer : (engine.withLimit limit).passes tokens ≤ engine.passes tokens) :
    (engine.withLimit limit).steps tokens <+: engine.steps tokens :=
  engine.rules.unrolled_isPrefix 0 (engine.initial tokens) fewer

theorem steps_withLimit_eq_filter (settled : engine.settles tokens = true)
    (short : limit.toNat < engine.passes tokens) :
    (engine.withLimit limit).steps tokens = (engine.steps tokens).filter
      fun step => 1 ≤ step.pass ∧ step.pass ≤ max limit 0 + 1 := by
  have passes : (engine.withLimit limit).passes tokens = limit.toNat + 1 := by
    rw [passes_withLimit (.inl settled)]
    omega
  have cut := engine.rules.unrolled_eq_filter 0 (engine.initial tokens)
    (Nat.succ_le_of_lt short)
  have bounds : ∀ step : Step, ((0 : Nat) : Int) < step.pass ∧
      step.pass ≤ ((0 : Nat) : Int) + (limit.toNat + 1 : Nat) ↔
        1 ≤ step.pass ∧ step.pass ≤ max limit 0 + 1 := by
    intro step
    omega
  simp only [bounds] at cut
  rw [steps, passes]
  exact cut

theorem flatMap_stepEffects_sweepSteps (engine : Engine) (pass other index : Nat)
    (counts : Counts) (rules : List Rule) :
    (sweepSteps pass index counts rules).flatMap engine.stepEffects =
      (sweepSteps other index counts rules).flatMap engine.stepEffects := by
  have fromZero : ∀ number : Nat, (sweepSteps 0 index counts rules).flatMap engine.stepEffects =
      (sweepSteps number index counts rules).flatMap engine.stepEffects := by
    intro number
    rw [← map_rebased_sweepSteps 0 number, Nat.zero_add, List.flatMap_map]
    rfl
  rw [← fromZero pass, fromZero other]

/-- What is done in the steps of a run is done in a pass from some of the counts that its passes
start from, and the number of the pass makes no difference. -/
theorem mem_flatMap_stepEffects {effect : Effect} :
    effect ∈ (engine.steps tokens).flatMap engine.stepEffects ↔
      ∃ index < engine.passes tokens,
        effect ∈ (engine.rules.passSteps 1
          (engine.rules.pass^[index] (engine.initial tokens))).flatMap engine.stepEffects := by
  have numbered : ∀ number counts, (engine.rules.passSteps number counts).flatMap
      engine.stepEffects = (engine.rules.passSteps 1 counts).flatMap engine.stepEffects :=
    fun number counts => engine.flatMap_stepEffects_sweepSteps number 1 0 counts _
  rw [List.mem_flatMap]
  constructor
  · rintro ⟨step, member, inStep⟩
    obtain ⟨index, early, inPass⟩ := RuleSet.mem_unrolled.mp member
    refine ⟨index, early, ?_⟩
    rw [← numbered (0 + index + 1)]
    exact List.mem_flatMap.mpr ⟨step, inPass, inStep⟩
  · rintro ⟨index, early, member⟩
    rw [← numbered (0 + index + 1)] at member
    obtain ⟨step, inPass, inStep⟩ := List.mem_flatMap.mp member
    exact ⟨step, RuleSet.mem_unrolled.mpr ⟨index, early, inPass⟩, inStep⟩

theorem outcomeIn_of_stopped {around : Surroundings} (accepting : around.sink.Accepting)
    (stopped : engine.settles tokens = false)
    (clear : ∀ effect ∈ engine.effects tokens,
      effect = .spell [engine.maxIterations] ∨ effect.Clear around)
    (traced : Bool) (output : Output) :
    engine.outcomeIn tokens traced around output =
      (engine.stop tokens traced).written around.digits := by
  have ended : .failure (engine.stop tokens traced) = engine.outcome tokens traced :=
    failure_eq_outcome.mpr ⟨stopped, rfl⟩
  change _ = if Text.fits around.digits engine.maxIterations = true then _ else _
  by_cases fits : Text.fits around.digits engine.maxIterations = true
  · rw [if_pos fits]
    refine outcomeIn_eq_ok.mpr ⟨ended, fun effect member => (clear effect member).elim ?_ id⟩
    rintro rfl
    exact Effect.clear_spell.mpr (List.all_eq_true.mpr (by simpa using fits))
  · rw [if_neg fits, outcomeIn, execute_eq_perform]
    obtain returned | ⟨long, -⟩ := Reporting.perform_returns_or_long accepting
      (engine.outcome tokens traced) (engine.effects tokens) output
    · have limit : .spell [engine.maxIterations] ∈ engine.effects tokens := by
        simp [effects, endEffects, stopped]
      have written := Effect.clear_spell.mp ((Reporting.perform_returns_iff.mp returned).2 _ limit)
      exact absurd (List.all_eq_true.mp written _ List.mem_cons_self) fits
    · exact long

theorem outcomeIn_withLimit_of_stopped {around : Surroundings}
    (accepting : around.sink.Accepting)
    (stopped : (engine.withLimit limit).settles tokens = false)
    (starts : ∀ index < (engine.withLimit limit).passes tokens,
      ∃ other < engine.passes tokens, engine.rules.pass^[index] (engine.initial tokens) =
        engine.rules.pass^[other] (engine.initial tokens))
    (clear : ∀ effect ∈ engine.effects tokens, effect.Clear around) (traced : Bool)
    (output : Output) :
    (engine.withLimit limit).outcomeIn tokens traced around output =
      ((engine.withLimit limit).stop tokens traced).written around.digits := by
  refine outcomeIn_of_stopped accepting stopped (fun effect member => ?_) traced output
  rw [effects, endEffects, stopped] at member
  -- Apart from its end all that the stopped run does is done by the other one too.
  rcases List.mem_append.mp member with before | ending
  · refine .inr (clear effect ?_)
    rw [effects]
    apply List.mem_append_left
    rcases List.mem_append.mp before with opening | stepping
    · exact List.mem_append_left _ opening
    · obtain ⟨index, early, inPass⟩ := mem_flatMap_stepEffects.mp stepping
      obtain ⟨other, within, same⟩ := starts index early
      refine List.mem_append_right _ (mem_flatMap_stepEffects.mpr ⟨other, within, ?_⟩)
      rw [← same]
      exact inPass
  · obtain rfl | warning := List.mem_cons.mp ending
    · exact .inl rfl
    · rw [List.mem_singleton.mp warning]
      exact .inr (Effect.clear_tell accepting _)

theorem substituted_withLimit_iff {traced : Bool} {around : Surroundings} {output : Output}
    (settled : engine.settles tokens = true)
    (clear : ∀ effect ∈ engine.effects tokens, effect.Clear around) :
    (∃ again, (engine.withLimit limit).outcomeIn tokens traced around output =
        .ok (.substituted again)) ↔ engine.passes tokens ≤ limit.toNat := by
  constructor
  · rintro ⟨again, repeated⟩
    have reached := (substituted_eq_outcome.mp (outcomeIn_eq_ok.mp repeated).1).1
    exact (settles_withLimit settled).mp reached
  · intro enough
    refine ⟨engine.result tokens traced, outcomeIn_eq_ok.mpr ⟨?_, ?_⟩⟩
    · rw [substituted_eq_outcome, result_withLimit settled enough]
      exact ⟨(settles_withLimit settled).mpr enough, rfl⟩
    · rw [effects_withLimit settled enough]
      exact clear

/-- A run that is cut short is stopped, and shows where it was stopped. -/
theorem stopped_withLimit {around : Surroundings} {output : Output}
    (accepting : around.sink.Accepting) (settled : engine.settles tokens = true)
    (short : limit.toNat < engine.passes tokens)
    (clear : ∀ effect ∈ engine.effects tokens, effect.Clear around) (traced : Bool) :
    ∃ fault : Failure, fault.maxIterations = limit ∧
      (engine.withLimit limit).outcomeIn tokens traced around output =
        fault.written around.digits ∧
      fault.trace.map (·.steps) = (engine.result tokens traced).trace.map fun trace =>
        trace.steps.filter fun step => 1 ≤ step.pass ∧ step.pass ≤ max limit 0 + 1 := by
  have stopped : (engine.withLimit limit).settles tokens = false := by
    rw [Bool.eq_false_iff, ne_eq, settles_withLimit settled]
    exact Nat.not_le_of_lt short
  have fewer : (engine.withLimit limit).passes tokens ≤ engine.passes tokens := by
    rw [passes_withLimit (.inl settled)]
    omega
  refine ⟨(engine.withLimit limit).stop tokens traced, rfl, ?_, ?_⟩
  · exact outcomeIn_withLimit_of_stopped accepting stopped
      (fun index early => ⟨index, Nat.lt_of_lt_of_le early fewer, rfl⟩) clear traced output
  · cases traced with
    | false => rfl
    | true => exact congrArg some (steps_withLimit_eq_filter settled short)

/-- A run that settles after some passes settles under another limit exactly if that is as high, or
if it makes no passes at all; and the result is then the same. Otherwise it is stopped, with its
steps up to one pass above the limit, and returns if the limit can be written. Of two stopped runs
the one under the lower limit shows the beginning of the other. -/
theorem limit_threshold (engine : Engine) (tokens : List String) (traced : Bool) (limit : Int)
    (around : Surroundings) (accepting : around.sink.Accepting) (output other : Output) :
    (∀ result, engine.outcomeIn tokens traced around output = .ok (.substituted result) →
      ((∃ again, (engine.withLimit limit).outcomeIn tokens traced around other =
          .ok (.substituted again)) ↔ result.passes = 0 ∨ result.passes ≤ limit) ∧
      (∀ again, (engine.withLimit limit).outcomeIn tokens traced around other =
          .ok (.substituted again) → again = result) ∧
      (¬ (result.passes = 0 ∨ result.passes ≤ limit) →
        ∃ fault : Failure, fault.maxIterations = limit ∧
          (engine.withLimit limit).outcomeIn tokens traced around other =
            fault.written around.digits ∧
          fault.trace.map (·.steps) = result.trace.map fun trace =>
            trace.steps.filter fun step => 1 ≤ step.pass ∧ step.pass ≤ max limit 0 + 1)) ∧
    (∀ fault, engine.outcomeIn tokens traced around output = .ok (.failure fault) →
      limit ≤ engine.maxIterations →
      ∀ shorter, (engine.withLimit limit).outcomeIn tokens traced around other =
          .ok (.failure shorter) →
        ∀ long short, fault.trace = some long → shorter.trace = some short →
          short.steps <+: long.steps) := by
  constructor
  · intro result returned
    obtain ⟨ended, clear⟩ := outcomeIn_eq_ok.mp returned
    obtain ⟨settled, rfl⟩ := substituted_eq_outcome.mp ended
    -- Passes are counted up from zero, so a limit below zero is as good as zero.
    have threshold : (engine.result tokens traced).passes = 0 ∨
        (engine.result tokens traced).passes ≤ limit ↔ engine.passes tokens ≤ limit.toNat := by
      change (engine.passes tokens : Int) = 0 ∨ (engine.passes tokens : Int) ≤ limit ↔ _
      omega
    rw [threshold]
    refine ⟨substituted_withLimit_iff settled clear, ?_, ?_⟩
    · intro again repeated
      obtain ⟨reached, rfl⟩ := substituted_eq_outcome.mp (outcomeIn_eq_ok.mp repeated).1
      exact result_withLimit settled ((settles_withLimit settled).mp reached) traced
    · intro notEnough
      exact stopped_withLimit accepting settled (Nat.lt_of_not_le notEnough) clear traced
  · intro fault returned lower shorter repeated long short longTrace shortTrace
    obtain ⟨-, rfl⟩ := failure_eq_outcome.mp (outcomeIn_eq_ok.mp returned).1
    obtain ⟨-, rfl⟩ := failure_eq_outcome.mp (outcomeIn_eq_ok.mp repeated).1
    cases traced with
    | false => exact nomatch longTrace
    | true =>
      obtain rfl := Option.some.inj longTrace
      obtain rfl := Option.some.inj shortTrace
      have fewer : (engine.withLimit limit).passes tokens ≤ engine.passes tokens := by
        rw [passes_withLimit (.inr (Int.toNat_le_toNat lower))]
        omega
      exact steps_withLimit_isPrefix fewer

/-- Two passes are within a limit of two and above a limit of one, where the second pass is the last
to show; under a limit of zero the first one is. -/
theorem limit_threshold_aging :
    Sink.collecting.Accepting ∧
    (∃ result, aging.outcomeIn ["young", "young"] true ⟨.collecting, some 4300⟩ {} =
        .ok (.substituted result) ∧ result.passes = 2 ∧
      (aging.withLimit 2).outcomeIn ["young", "young"] true ⟨.collecting, some 4300⟩ {} =
        .ok (.substituted result) ∧
      ∃ fault, (aging.withLimit 1).outcomeIn ["young", "young"] true ⟨.collecting, some 4300⟩ {} =
          .ok (.failure fault) ∧
        fault.trace.map (·.steps) = result.trace.map fun trace =>
          trace.steps.filter fun step => 1 ≤ step.pass ∧ step.pass ≤ max 1 0 + 1) ∧
    ∃ long short, (aging.withLimit 1).outcomeIn ["young", "young"] true
          ⟨.collecting, some 4300⟩ {} = .ok (.failure long) ∧
      ((aging.withLimit 1).withLimit 0).outcomeIn ["young", "young"] true
          ⟨.collecting, some 4300⟩ {} = .ok (.failure short) ∧
      ∃ longTrace shortTrace, long.trace = some longTrace ∧ short.trace = some shortTrace ∧
        shortTrace.steps <+: longTrace.steps := by
  have accepting : Sink.collecting.Accepting := by decide
  have settled : aging.outcomeIn ["young", "young"] true ⟨.collecting, some 4300⟩ {} =
      .ok (.substituted (aging.result ["young", "young"] true)) := rfl
  have stopped : (aging.withLimit 1).outcomeIn ["young", "young"] true
      ⟨.collecting, some 4300⟩ {} =
        .ok (.failure ((aging.withLimit 1).stop ["young", "young"] true)) := rfl
  have passes : (aging.result ["young", "young"] true).passes = 2 := rfl
  obtain ⟨within, same, -⟩ := (limit_threshold aging ["young", "young"] true 2
    ⟨.collecting, some 4300⟩ accepting {} {}).1 _ settled
  obtain ⟨again, repeated⟩ := within.mpr (.inr (Int.le_of_eq passes))
  obtain ⟨fault, limit, ended, cut⟩ := ((limit_threshold aging ["young", "young"] true 1
    ⟨.collecting, some 4300⟩ accepting {} {}).1 _ settled).2.2 (by rw [passes]; decide)
  rw [Failure.written, limit, if_pos (by decide +kernel)] at ended
  have shortened := (limit_threshold (aging.withLimit 1) ["young", "young"] true 0
    ⟨.collecting, some 4300⟩ accepting {} {}).2 _ stopped (by decide)
      (((aging.withLimit 1).withLimit 0).stop ["young", "young"] true) rfl _ _ rfl rfl
  exact ⟨accepting, ⟨_, settled, passes, same again repeated ▸ repeated, fault, ended,
    cut⟩,
    _, _, stopped, rfl, _, _, rfl, rfl, shortened⟩

end Engine

end MultisetSubstitution
