import MultisetSubstitution.Proofs.Derivation

/-! What runs report to sinks that take records. A verbose run logs just what its trace records, in
the same order, between the tokens it was given and the end it comes to. -/

set_option autoImplicit false

namespace MultisetSubstitution

def Step.records (vocabulary : Vocabulary) (step : Step) : List Record := [
  ⟨.log, "RULE  : " ++ step.rule.description vocabulary⟩,
  ⟨.log, "BEFORE: " ++ vocabulary.listingText step.before⟩,
  ⟨.log, "AFTER : " ++ vocabulary.listingText step.after⟩,
  ⟨.log, ""⟩]

def Outcome.lastRecord (vocabulary : Vocabulary) (final : Counts) : Outcome → Record
  | .substituted _ => ⟨.log, "OUT: " ++ vocabulary.listingText final⟩
  | .failure fault => ⟨.warn, fault.reason⟩

/-- A trace as a list of records, for a run on the given tokens that comes to the given outcome. -/
def Trace.transcript (trace : Trace) (tokens : List String) (outcome : Outcome) : List Record :=
  [⟨.log, "IN: " ++ ";".intercalate tokens⟩] ++
    tokens.filterMap trace.vocabulary.omission? ++
    [⟨.log, "FREQ: " ++ trace.vocabulary.listingText trace.initial⟩, ⟨.log, ""⟩] ++
    trace.steps.flatMap (Step.records trace.vocabulary) ++
    [outcome.lastRecord trace.vocabulary trace.final]

namespace Engine

variable {engine : Engine} {tokens : List String}

def told (engine : Engine) (digits : Option Nat) (tokens : List String) : List Record :=
  Effect.records (Effect.reached ⟨.discarding, digits⟩ (engine.effects tokens))

def stoppedBy? (engine : Engine) (digits : Option Nat) (tokens : List String) : Option Obstacle :=
  Effect.firstObstacle? ⟨.discarding, digits⟩ (engine.effects tokens)

theorem execute_accepting {sink : Sink} (accepting : sink.Accepting) (digits : Option Nat)
    (tokens : List String) (traced : Bool) (output : Output) :
    (engine.execute tokens traced).runWith ⟨sink, digits⟩ output =
      ((engine.stoppedBy? digits tokens).elim (.ok (engine.outcome tokens traced)) .error,
        sink.deliverAll (engine.told digits tokens) output) := by
  have same : Effect.obstacle? ⟨sink, digits⟩ = Effect.obstacle? ⟨.discarding, digits⟩ :=
    funext fun effect => Effect.obstacle?_of_accepting accepting effect
  rw [execute_eq_perform, Reporting.runWith_perform_eq, stoppedBy?, told, Effect.firstObstacle?,
    Effect.reached, same]
  rfl

theorem stoppedBy?_eq_none {digits : Option Nat} :
    engine.stoppedBy? digits tokens = none ↔
      ∀ numbers, .spell numbers ∈ engine.effects tokens →
        ∀ number ∈ numbers, Text.fits digits number = true :=
  Effect.firstObstacle?_of_accepting Sink.accepting_discarding

theorem stoppedBy?_of_ne_none {digits : Option Nat}
    (stopped : engine.stoppedBy? digits tokens ≠ none) :
    engine.stoppedBy? digits tokens = some .longNumber := by
  obtain ⟨obstacle, first⟩ := Option.ne_none_iff_exists'.mp stopped
  obtain ⟨effect, _, met⟩ := List.exists_of_findSome?_eq_some first
  rw [first, (Effect.long_of_accepting Sink.accepting_discarding met).1]

theorem told_of_free {digits : Option Nat} (free : engine.stoppedBy? digits tokens = none) :
    engine.told digits tokens = Effect.records (engine.effects tokens) := by
  rw [told, Effect.reached_of_clear (Effect.firstObstacle?_eq_none.mp free)]

def withVerbose (engine : Engine) (verbose : Bool) : Engine := { engine with verbose }

@[simp] theorem withVerbose_self (engine : Engine) : engine.withVerbose engine.verbose = engine :=
  rfl

@[simp] theorem verbose_withVerbose (engine : Engine) (verbose : Bool) :
    (engine.withVerbose verbose).verbose = verbose := rfl

@[simp] theorem withVerbose_withVerbose (engine : Engine) (first second : Bool) :
    (engine.withVerbose first).withVerbose second = engine.withVerbose second := rfl

theorem outcome_withVerbose (engine : Engine) (verbose : Bool) :
    (engine.withVerbose verbose).outcome = engine.outcome := rfl

theorem records_stepEffects (verbose : engine.verbose = true) (steps : List Step) :
    Effect.records (steps.flatMap engine.stepEffects) =
      steps.flatMap (Step.records engine.vocabulary) := by
  induction steps with
  | nil => rfl
  | cons step rest ih =>
    rw [List.flatMap_cons, List.flatMap_cons, Effect.records_append, ih, stepEffects, whenVerbose,
      if_pos verbose]
    rfl

theorem records_openingEffects (verbose : engine.verbose = true) (tokens : List String) :
    Effect.records (engine.openingEffects tokens) = [⟨.log, "IN: " ++ ";".intercalate tokens⟩] ++
      tokens.filterMap engine.vocabulary.omission? ++
      [⟨.log, "FREQ: " ++ engine.vocabulary.listingText (engine.initial tokens)⟩, ⟨.log, ""⟩] := by
  rw [openingEffects, Effect.records_append, Effect.records_append, countingEffects,
    Effect.records_map_tell, whenVerbose, if_pos verbose, whenVerbose, if_pos verbose]
  rfl

theorem records_endEffects (verbose : engine.verbose = true) (tokens : List String)
    (traced : Bool) :
    Effect.records (engine.endEffects tokens) =
      [(engine.outcome tokens traced).lastRecord engine.vocabulary (engine.final tokens)] := by
  rw [endEffects, outcome]
  split
  · rw [settlingEffects, whenVerbose, if_pos verbose]
    rfl
  · rfl

theorem records_of_verbose (verbose : engine.verbose = true) (tokens : List String)
    (traced : Bool) :
    Effect.records (engine.effects tokens) =
      (engine.traceOf tokens).transcript tokens (engine.outcome tokens traced) := by
  rw [effects, Effect.records_append, Effect.records_append, records_openingEffects verbose,
    records_stepEffects verbose, records_endEffects verbose tokens traced]
  rfl

theorem outcome_trace? (engine : Engine) (tokens : List String) (traced : Bool) :
    (engine.outcome tokens traced).trace? =
      if traced then some (engine.traceOf tokens) else none := by
  rw [outcome]
  split <;> rfl

theorem not_stopped_of_fits (engine : Engine) {digits : Option Nat}
    (fits : (engine.traceOf tokens).Fits digits)
    (ended : (engine.outcome tokens true).Fits digits) :
    engine.stoppedBy? digits tokens = none :=
  stoppedBy?_eq_none.mpr fun _ spelled => engine.spelled_fits tokens fits ended spelled

theorem outcome_fits_of_free {digits : Option Nat}
    (free : engine.stoppedBy? digits tokens = none) (traced : Bool) :
    (engine.outcome tokens traced).Fits digits := by
  refine stoppedBy?_eq_none.mp free _ ?_
  rw [outcome_numbers, effects, endEffects]
  split <;> simp [settlingEffects]

theorem vector_mem_effects (engine : Engine) (verbose : engine.verbose = true) {counts : Counts}
    (member : counts ∈ (engine.traceOf tokens).vectors) :
    .spell (engine.vocabulary.numbers counts) ∈ engine.effects tokens := by
  have initial : .spell (engine.vocabulary.numbers (engine.initial tokens)) ∈
      engine.effects tokens := by
    simp [effects, openingEffects, whenVerbose, verbose, showing]
  have sides : ∀ step ∈ engine.steps tokens,
      .spell (engine.vocabulary.numbers step.before) ∈ engine.effects tokens ∧
        .spell (engine.vocabulary.numbers step.after) ∈ engine.effects tokens := by
    intro step inSteps
    have within : ∀ effect ∈ engine.stepEffects step, effect ∈ engine.effects tokens := by
      intro effect inStep
      rw [effects, List.mem_append, List.mem_append]
      exact .inl (.inr (List.mem_flatMap.mpr ⟨step, inSteps, inStep⟩))
    constructor <;> apply within <;> simp [stepEffects, whenVerbose, verbose, showing]
  rcases Trace.mem_vectors.mp member with rfl | rfl | ⟨step, inSteps, rfl | rfl⟩
  · exact initial
  · -- The final counts are those after the last step, so they are shown even if a run is stopped.
    rw [(engine.traceOf_greedy tokens).chained.final_eq]
    obtain same | ⟨step, inSteps, same⟩ :=
      lastCounts_mem (engine.initial tokens) (engine.steps tokens)
    · exact same ▸ initial
    · exact same ▸ (sides step inSteps).2
  · exact (sides step inSteps).1
  · exact (sides step inSteps).2

theorem fits_of_verbose (engine : Engine) {digits : Option Nat} (verbose : engine.verbose = true)
    (free : engine.stoppedBy? digits tokens = none) : (engine.traceOf tokens).Fits digits :=
  fun _ member => stoppedBy?_eq_none.mp free _ (engine.vector_mem_effects verbose member)

/-- What a verbose run collects is at least the beginning of the transcript of its trace. -/
theorem told_isPrefix (verbose : engine.verbose = true) (digits : Option Nat) :
    engine.told digits tokens <+:
      (engine.traceOf tokens).transcript tokens (engine.outcome tokens true) := by
  rw [← records_of_verbose verbose tokens true]
  exact (List.takeWhile_prefix _).filterMap Effect.record?

def Transcribed (engine : Engine) (tokens : List String) (digits : Option Nat) : Prop :=
  ∃ outcome trace, outcome.trace? = some trace ∧ ∀ output,
    (engine.execute tokens true).runWith ⟨.collecting, digits⟩ output =
      (.ok outcome, output.collect (trace.transcript tokens outcome))

/-- The log of a verbose run and its trace are one record, where every count in the trace can be
written, and so can the limit on passes if the run is stopped by it. Else the run does not return,
but what it has collected is the beginning of the transcript in any case. -/
theorem transcribed_iff_fits (engine : Engine) (verbose : engine.verbose = true)
    (tokens : List String) (digits : Option Nat) :
    (engine.Transcribed tokens digits ↔
      (engine.traceOf tokens).Fits digits ∧ (engine.outcome tokens true).Fits digits) ∧
    ∀ output, ∃ told,
      told <+: (engine.traceOf tokens).transcript tokens (engine.outcome tokens true) ∧
      ((engine.execute tokens true).runWith ⟨.collecting, digits⟩ output).2 =
        output.collect told := by
  have ran := fun output => engine.execute_accepting Sink.accepting_collecting digits tokens true
    output
  simp only [Sink.deliverAll_collecting] at ran
  refine ⟨⟨?_, ?_⟩, fun output => ⟨_, engine.told_isPrefix verbose digits, ?_⟩⟩
  · rintro ⟨outcome, trace, -, returned⟩
    have free : engine.stoppedBy? digits tokens = none := by
      by_contra stopped
      have same := (ran {}).symm.trans (returned {})
      rw [stoppedBy?_of_ne_none stopped] at same
      simp at same
    exact ⟨engine.fits_of_verbose verbose free, outcome_fits_of_free free true⟩
  · rintro ⟨fits, ended⟩
    have free := engine.not_stopped_of_fits fits ended
    refine ⟨engine.outcome tokens true, engine.traceOf tokens, engine.outcome_trace? tokens true,
      fun output => ?_⟩
    rw [ran, free, told_of_free free, records_of_verbose verbose tokens true]
    rfl
  · rw [ran]

theorem transcribed_iff_fits_aging :
    (aging.withVerbose true).verbose = true ∧
    (aging.withVerbose true).Transcribed ["young", "lava", " young"] (some Text.digitLimit) ∧
    (((aging.withVerbose true).execute ["young", "lava", " young"] true).runWith
      ⟨.collecting, some Text.digitLimit⟩ {}).2.records.size = 13 := by
  have fits : ((aging.withVerbose true).traceOf ["young", "lava", " young"]).Fits
      (some Text.digitLimit) := by
    decide +kernel
  have ended : ((aging.withVerbose true).outcome ["young", "lava", " young"] true).Fits
      (some Text.digitLimit) := by
    decide +kernel
  have transcribed := (transcribed_iff_fits (aging.withVerbose true) rfl
    ["young", "lava", " young"] (some Text.digitLimit)).1.mpr ⟨fits, ended⟩
  exact ⟨rfl, transcribed, by decide +kernel⟩

def longest : Int := (Nat.pow 10 Text.digitLimit - 1 : Nat)

/-- An engine of two rules. For two sparks the first adds as many embers as can be written, and the
second takes that many away again in the same pass. -/
def surging : Engine where
  rules := {
    vocabulary := ⟨["spark", "ember"], by decide, by decide +kernel⟩
    rules := [
      ⟨[2, 0], [0, longest], none, Eq.refl 2, by decide, by decide +kernel, rfl, by decide +kernel⟩,
      ⟨[0, longest], [0, 0], none, Eq.refl 2, by decide +kernel, by decide, by decide +kernel,
        by decide +kernel⟩]
    fits := by decide +kernel }

/-- With an ember there already, there are too many to be written between the two rules. The trace
has both steps, but the run ends before the first is logged in full. -/
theorem surging_not_transcribed :
    ¬ (surging.withVerbose true).Transcribed ["spark", "spark", "ember"] (some Text.digitLimit) ∧
    ((surging.withVerbose true).traceOf ["spark", "spark", "ember"]).steps.length = 2 ∧
    (((surging.withVerbose true).execute ["spark", "spark", "ember"] true).runWith
      ⟨.collecting, some Text.digitLimit⟩ {}).2.records.size = 5 := by
  have stopped : ((surging.withVerbose true).outcomeIn ["spark", "spark", "ember"] true
      ⟨.collecting, some Text.digitLimit⟩ {}).map Outcome.items = .error .longNumber := by
    decide +kernel
  refine ⟨?_, by decide +kernel, by decide +kernel⟩
  rintro ⟨outcome, trace, -, returned⟩
  rw [outcomeIn, returned {}] at stopped
  simp [Except.map] at stopped

end Engine

end MultisetSubstitution
