import MultisetSubstitution.Proofs.Transcript

/-! Observing runs. A run does the same whether it is traced or not, and wherever its records go. To
be verbose is to write more counts, so it does the same too, up to a count that is too long to be
written. -/

set_option autoImplicit false

namespace MultisetSubstitution

def Outcome.untraced : Outcome → Outcome
  | .substituted result => .substituted { result with trace := none }
  | .failure fault => .failure { fault with trace := none }

namespace Engine

variable {engine : Engine} {tokens : List String}

theorem untraced_outcome (engine : Engine) (tokens : List String) (traced : Bool) :
    (engine.outcome tokens traced).untraced = engine.outcome tokens false := by
  rw [outcome, outcome]
  split <;> rfl

theorem effects_of_quiet (quiet : engine.verbose = false) (tokens : List String) (traced : Bool) :
    engine.effects tokens = engine.countingEffects tokens ++
      .spell (engine.outcome tokens traced).numbers :: if engine.settles tokens then []
        else [.tell ⟨.warn, limitReason tokens engine.maxIterations⟩] := by
  have silent : ∀ effects, engine.whenVerbose effects = [] := by
    intro effects
    rw [whenVerbose, quiet]
    rfl
  have steps : (engine.steps tokens).flatMap engine.stepEffects = [] :=
    List.flatMap_eq_nil_iff.mpr fun step _ => silent _
  rw [effects, openingEffects, silent, silent, steps, List.nil_append, List.append_nil,
    List.append_nil, endEffects, settlingEffects, silent, List.nil_append, outcome_numbers]
  split <;> rfl

theorem stoppedBy?_of_quiet {digits : Option Nat} (quiet : engine.verbose = false)
    (traced : Bool) :
    engine.stoppedBy? digits tokens = none ↔ (engine.outcome tokens traced).Fits digits := by
  refine ⟨fun free => outcome_fits_of_free free traced, fun fits => ?_⟩
  refine stoppedBy?_eq_none.mpr fun numbers member => ?_
  rw [effects_of_quiet quiet tokens traced] at member
  obtain rfl : numbers = (engine.outcome tokens traced).numbers := by
    split at member <;> simpa [countingEffects] using member
  exact fits

theorem stoppedBy?_eq_none_iff {digits : Option Nat} :
    engine.stoppedBy? digits tokens = none ↔
      (engine.verbose = true → (engine.traceOf tokens).Fits digits) ∧
        (engine.outcome tokens true).Fits digits := by
  constructor
  · exact fun free => ⟨fun verbose => engine.fits_of_verbose verbose free,
      outcome_fits_of_free free true⟩
  · rintro ⟨fits, ended⟩
    by_cases verbose : engine.verbose = true
    · exact engine.not_stopped_of_fits (fits verbose) ended
    · exact (stoppedBy?_of_quiet (Bool.eq_false_iff.mpr verbose) true).mpr ended

theorem warnings_of_free {digits : Option Nat} (free : engine.stoppedBy? digits tokens = none)
    (traced : Bool) :
    (engine.told digits tokens).filter (·.level = .warn) =
      tokens.filterMap engine.vocabulary.omission? ++ (engine.outcome tokens traced).warnings := by
  rw [told_of_free free]
  exact engine.warnings_effects_eq tokens traced

/-- Tokens are counted before the first number is written. That a run was stopped by the limit is
told at the very end, after the last number is written. -/
theorem effects_eq_append (engine : Engine) (tokens : List String) :
    ∃ opening inner, engine.effects tokens =
        opening ++ (inner ++ (engine.outcome tokens true).warnings.map Effect.tell) ∧
      Effect.warnings opening = tokens.filterMap engine.vocabulary.omission? ∧
      (∀ digits, ∀ effect ∈ opening, effect.Clear ⟨.discarding, digits⟩) ∧
      Effect.warnings inner = [] := by
  have silent : Effect.warnings (engine.whenVerbose (engine.showing "FREQ: "
      (engine.initial tokens) ++ [.tell ⟨.log, ""⟩]) ++
        (engine.steps tokens).flatMap engine.stepEffects) = [] := by
    rw [Effect.warnings_append, warnings_whenVerbose rfl, warnings_stepEffects, List.nil_append]
  refine ⟨engine.whenVerbose [.tell ⟨.log, "IN: " ++ ";".intercalate tokens⟩] ++
    engine.countingEffects tokens,
    (engine.whenVerbose (engine.showing "FREQ: " (engine.initial tokens) ++ [.tell ⟨.log, ""⟩]) ++
      (engine.steps tokens).flatMap engine.stepEffects) ++
      if engine.settles tokens then engine.settlingEffects (engine.final tokens)
      else [.spell [engine.maxIterations]], ?_, ?_, fun digits effect member => ?_, ?_⟩
  · rw [effects, openingEffects, endEffects, outcome]
    split <;> simp [Outcome.warnings, stop]
  · rw [Effect.warnings_append, warnings_whenVerbose rfl, warnings_countingEffects,
      List.nil_append]
  · rcases List.mem_append.mp member with first | counting
    · rw [List.mem_singleton.mp (mem_of_mem_whenVerbose first)]
      exact Effect.clear_tell Sink.accepting_discarding _
    · exact Effect.clear_tells Sink.accepting_discarding _ effect counting
  · rw [Effect.warnings_append, silent, List.nil_append]
    split
    · rw [settlingEffects, Effect.warnings_append, warnings_whenVerbose rfl]
      rfl
    · rfl

theorem warnings_of_stopped {digits : Option Nat}
    (stopped : engine.stoppedBy? digits tokens ≠ none) :
    (engine.told digits tokens).filter (·.level = .warn) =
      tokens.filterMap engine.vocabulary.omission? := by
  obtain ⟨opening, inner, parts, omissions, clear, silent⟩ := engine.effects_eq_append tokens
  have met : ¬ ∀ effect ∈ inner, effect.Clear ⟨.discarding, digits⟩ := by
    intro innerClear
    refine stopped (Effect.firstObstacle?_eq_none.mpr ?_)
    rw [parts, List.forall_mem_append, List.forall_mem_append]
    exact ⟨clear digits, innerClear, Effect.clear_tells Sink.accepting_discarding _⟩
  have quiet := Effect.warnings_reached_isPrefix ⟨.discarding, digits⟩ inner
  rw [silent, List.prefix_nil] at quiet
  change Effect.warnings (Effect.reached _ (engine.effects tokens)) = _
  rw [parts, Effect.reached_append_of_clear (clear digits), Effect.reached_append_of_not_clear met,
    Effect.warnings_append, omissions, quiet, List.append_nil]

theorem warnings_of_quiet (quiet : engine.verbose = false) (digits : Option Nat)
    (tokens : List String) :
    (engine.told digits tokens).filter (·.level = .warn) = engine.told digits tokens := by
  have records : Effect.records (engine.effects tokens) =
      Effect.warnings (engine.effects tokens) := by
    rw [engine.warnings_effects_eq tokens true, effects_of_quiet quiet tokens true,
      Effect.records_append, countingEffects, Effect.records_map_tell, outcome]
    split <;> rfl
  rw [List.filter_eq_self]
  intro record member
  have told := ((List.takeWhile_prefix _).filterMap Effect.record?).subset member
  change record ∈ Effect.records (engine.effects tokens) at told
  rw [records] at told
  exact (List.mem_filter.mp told).2

/-- To be verbose stops no run that can write all counts it comes to, and none that is stopped
anyway. -/
theorem stoppedBy?_withVerbose {digits : Option Nat}
    (writes : (engine.withVerbose false).stoppedBy? digits tokens = none →
      (engine.traceOf tokens).Fits digits) (verbose : Bool) :
    (engine.withVerbose verbose).stoppedBy? digits tokens =
      (engine.withVerbose false).stoppedBy? digits tokens := by
  by_cases free : (engine.withVerbose false).stoppedBy? digits tokens = none
  · rw [free]
    exact (engine.withVerbose verbose).not_stopped_of_fits (writes free)
      (outcome_fits_of_free free true)
  · -- The last text stops the quiet run, and it is written by the verbose run as well.
    have stopped : (engine.withVerbose verbose).stoppedBy? digits tokens ≠ none :=
      fun other => free ((stoppedBy?_of_quiet rfl true).mpr (outcome_fits_of_free other true))
    rw [stoppedBy?_of_ne_none free, stoppedBy?_of_ne_none stopped]

theorem warnings_told_withVerbose {digits : Option Nat}
    (writes : (engine.withVerbose false).stoppedBy? digits tokens = none →
      (engine.traceOf tokens).Fits digits) (verbose : Bool) :
    ((engine.withVerbose verbose).told digits tokens).filter (·.level = .warn) =
      (engine.withVerbose false).told digits tokens := by
  have same := stoppedBy?_withVerbose writes verbose
  rw [← warnings_of_quiet (engine.verbose_withVerbose false) digits tokens]
  by_cases free : (engine.withVerbose false).stoppedBy? digits tokens = none
  · exact (warnings_of_free (same.trans free) true).trans (warnings_of_free free true).symm
  · exact (warnings_of_stopped (same ▸ free)).trans (warnings_of_stopped free).symm

/-- What a run comes to, its trace apart, and what it reports, whether it is traced or not and
whatever sink takes its records. -/
def Yields (engine : Engine) (tokens : List String) (digits : Option Nat)
    (result : Except Obstacle Outcome) (reports : List Record) : Prop :=
  ∀ traced (sink : Sink), sink.Accepting → ∀ output, ∃ seen,
    (engine.execute tokens traced).runWith ⟨sink, digits⟩ output =
      (seen, sink.deliverAll reports output) ∧
    seen.map Outcome.untraced = result

def untracedResult (engine : Engine) (digits : Option Nat) (tokens : List String) :
    Except Obstacle Outcome :=
  (engine.stoppedBy? digits tokens).elim (.ok (engine.outcome tokens false)) .error

theorem yields (engine : Engine) (tokens : List String) (digits : Option Nat) :
    engine.Yields tokens digits (engine.untracedResult digits tokens)
      (engine.told digits tokens) := by
  intro traced sink accepting output
  refine ⟨_, execute_accepting accepting digits tokens traced output, ?_⟩
  rw [untracedResult, ← engine.untraced_outcome tokens traced]
  cases engine.stoppedBy? digits tokens <;> rfl

theorem Yields.result_eq {digits : Option Nat} {result : Except Obstacle Outcome}
    {reports : List Record} (run : engine.Yields tokens digits result reports) :
    result = engine.untracedResult digits tokens := by
  obtain ⟨seen, ran, rfl⟩ := run false .discarding Sink.accepting_discarding {}
  obtain ⟨other, again, same⟩ := engine.yields tokens digits false .discarding
    Sink.accepting_discarding {}
  rw [ran] at again
  rw [(Prod.mk.inj again).1, same]

theorem Yields.returned_iff {digits : Option Nat} {result : Except Obstacle Outcome}
    {reports : List Record} (run : engine.Yields tokens digits result reports) :
    (∃ outcome, result = .ok outcome) ↔ engine.stoppedBy? digits tokens = none := by
  rw [run.result_eq, untracedResult]
  cases engine.stoppedBy? digits tokens <;> simp

/-- A run is not disturbed by being observed. What comes of it is the same whether it is verbose or
not, traced or not, and for all sinks that take records. What it reports depends only on its being
verbose, and a quiet run reports just the warnings of a verbose one. -/
def Undisturbed (engine : Engine) (tokens : List String) (digits : Option Nat) : Prop :=
  ∃ (result : Except Obstacle Outcome) (reports : Bool → List Record),
    (∀ verbose, (reports verbose).filter (·.level = .warn) = reports false) ∧
    ∀ verbose, (engine.withVerbose verbose).Yields tokens digits result (reports verbose)

/-- How runs are disturbed by being observed. To be traced or to have another sink changes neither
what comes of a run nor its reports, and a quiet run reports only warnings. To be verbose changes
nothing but the reports exactly if the run does not return when it is quiet, or can write every
count that it comes to. -/
theorem undisturbed_iff (engine : Engine) (tokens : List String) (digits : Option Nat) :
    (∀ verbose, ∃ result reports,
      (engine.withVerbose verbose).Yields tokens digits result reports ∧
      (verbose = false → ∀ record ∈ reports, record.level = .warn)) ∧
    (engine.Undisturbed tokens digits ↔
      ∀ outcome reports, (engine.withVerbose false).Yields tokens digits (.ok outcome) reports →
        (engine.traceOf tokens).Fits digits) := by
  refine ⟨fun verbose => ⟨_, _, (engine.withVerbose verbose).yields tokens digits, ?_⟩, ?_, ?_⟩
  · rintro rfl record member
    rw [← warnings_of_quiet rfl] at member
    exact of_decide_eq_true (List.mem_filter.mp member).2
  · rintro ⟨result, reports, -, observed⟩ outcome others returned
    -- The quiet run returns, so the verbose run does, and it has written all the counts.
    have free := returned.returned_iff.mp ⟨outcome, rfl⟩
    have quiet := (observed false).returned_iff.mpr free
    exact (engine.withVerbose true).fits_of_verbose rfl ((observed true).returned_iff.mp quiet)
  · intro writes
    have fits : (engine.withVerbose false).stoppedBy? digits tokens = none →
        (engine.traceOf tokens).Fits digits := by
      intro free
      have quiet := (engine.withVerbose false).yields tokens digits
      rw [untracedResult, free] at quiet
      exact writes _ _ quiet
    refine ⟨(engine.withVerbose false).untracedResult digits tokens,
      fun verbose => (engine.withVerbose verbose).told digits tokens,
      warnings_told_withVerbose fits, fun verbose => ?_⟩
    have run := (engine.withVerbose verbose).yields tokens digits
    rw [untracedResult, stoppedBy?_withVerbose fits verbose] at run
    exact run

/-- With an ember there already, a quiet run never writes how many there are between the two rules.
A verbose run does, and is stopped by it. -/
theorem surging_disturbed :
    ¬ surging.Undisturbed ["spark", "spark", "ember"] (some Text.digitLimit) ∧
    ((surging.withVerbose false).outcomeIn ["spark", "spark", "ember"] true
      ⟨.collecting, some Text.digitLimit⟩ {}).map Outcome.items = .ok ["ember:1"] ∧
    ((surging.withVerbose true).outcomeIn ["spark", "spark", "ember"] true
      ⟨.collecting, some Text.digitLimit⟩ {}).map Outcome.items = .error .longNumber := by
  have quiet : ((surging.withVerbose false).outcomeIn ["spark", "spark", "ember"] true
      ⟨.collecting, some Text.digitLimit⟩ {}).map Outcome.items = .ok ["ember:1"] := by
    decide +kernel
  have verbose : ((surging.withVerbose true).outcomeIn ["spark", "spark", "ember"] true
      ⟨.collecting, some Text.digitLimit⟩ {}).map Outcome.items = .error .longNumber := by
    decide +kernel
  refine ⟨?_, quiet, verbose⟩
  rintro ⟨result, reports, -, observed⟩
  obtain ⟨seen, quietRan, rfl⟩ := observed false true .collecting Sink.accepting_collecting {}
  obtain ⟨other, verboseRan, same⟩ := observed true true .collecting Sink.accepting_collecting {}
  rw [outcomeIn, quietRan] at quiet
  rw [outcomeIn, verboseRan] at verbose
  -- One of the two has listed what is left, and the other has come to no outcome.
  cases seen with
  | error obstacle => simp [Except.map] at quiet
  | ok outcome =>
    cases other with
    | error obstacle => simp [Except.map] at same
    | ok outcome => simp [Except.map] at verbose

end Engine

end MultisetSubstitution
