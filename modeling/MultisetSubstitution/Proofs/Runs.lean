import MultisetSubstitution.Engine.Run
import MultisetSubstitution.Proofs.Effects
import MultisetSubstitution.Proofs.Passes
import MultisetSubstitution.Proofs.Recounting

/-! Runs as what they come to and what they do on the way: a run has the outcome that its productive
passes lead to, and its effects are those of counting, of each step, and of its end. -/

set_option autoImplicit false

namespace MultisetSubstitution

def Progress.extend (progress : Progress) (traced : Bool) (steps : List Step) : Progress where
  counts := lastCounts progress.counts steps
  applications := progress.applications + steps.length
  steps := if traced then progress.steps ++ steps else progress.steps

@[simp] theorem Progress.extend_nil (progress : Progress) (traced : Bool) :
    progress.extend traced [] = progress := by
  cases progress
  simp [extend, lastCounts]

theorem Progress.extend_append (progress : Progress) (traced : Bool) (first second : List Step) :
    (progress.extend traced first).extend traced second =
      progress.extend traced (first ++ second) := by
  have joined : progress.steps ++ first ++ second = progress.steps ++ (first ++ second) :=
    Array.ext' (by simp)
  cases traced <;> simp [extend, lastCounts_append, Nat.add_assoc, joined]

namespace Engine

def initial (engine : Engine) (tokens : List String) : Counts :=
  engine.vocabulary.tally engine.vocabulary.zeros tokens

def passes (engine : Engine) (tokens : List String) : Nat :=
  engine.rules.productive (engine.initial tokens) (engine.maxIterations.toNat + 1)

def steps (engine : Engine) (tokens : List String) : List Step :=
  engine.rules.unrolled 0 (engine.initial tokens) (engine.passes tokens)

def final (engine : Engine) (tokens : List String) : Counts :=
  engine.rules.pass^[engine.passes tokens] (engine.initial tokens)

def traceOf (engine : Engine) (tokens : List String) : Trace :=
  ⟨engine.vocabulary, engine.initial tokens, engine.final tokens, engine.steps tokens⟩

def settles (engine : Engine) (tokens : List String) : Bool :=
  engine.passes tokens ≤ engine.maxIterations.toNat

def result (engine : Engine) (tokens : List String) (traced : Bool) : Substituted where
  listing := engine.vocabulary.listing (engine.final tokens)
  counts := engine.vocabulary.entries (engine.final tokens)
  passes := engine.passes tokens
  applications := (engine.steps tokens).length
  trace := if traced then some (engine.traceOf tokens) else none

def stop (engine : Engine) (tokens : List String) (traced : Bool) : Failure where
  reason := limitReason tokens engine.maxIterations
  inputs := tokens
  maxIterations := engine.maxIterations
  trace := if traced then some (engine.traceOf tokens) else none

def outcome (engine : Engine) (tokens : List String) (traced : Bool) : Outcome :=
  if engine.settles tokens then .substituted (engine.result tokens traced)
  else .failure (engine.stop tokens traced)

def whenVerbose (engine : Engine) (effects : List Effect) : List Effect :=
  if engine.verbose then effects else []

def showing (engine : Engine) (mark : String) (counts : Counts) : List Effect :=
  [.spell (engine.vocabulary.numbers counts),
    .tell ⟨.log, mark ++ engine.vocabulary.listingText counts⟩]

def stepEffects (engine : Engine) (step : Step) : List Effect :=
  engine.whenVerbose (.spell (step.rule.numbers engine.vocabulary) ::
    .tell ⟨.log, "RULE  : " ++ step.rule.description engine.vocabulary⟩ ::
    (engine.showing "BEFORE: " step.before ++ engine.showing "AFTER : " step.after ++
      [.tell ⟨.log, ""⟩]))

def countingEffects (engine : Engine) (tokens : List String) : List Effect :=
  (tokens.filterMap engine.vocabulary.omission?).map .tell

def settlingEffects (engine : Engine) (final : Counts) : List Effect :=
  engine.whenVerbose (engine.showing "OUT: " final) ++ [.spell (engine.vocabulary.numbers final)]

def endEffects (engine : Engine) (tokens : List String) : List Effect :=
  if engine.settles tokens then engine.settlingEffects (engine.final tokens)
  else [.spell [engine.maxIterations], .tell ⟨.warn, limitReason tokens engine.maxIterations⟩]

def openingEffects (engine : Engine) (tokens : List String) : List Effect :=
  engine.whenVerbose [.tell ⟨.log, "IN: " ++ ";".intercalate tokens⟩] ++
    engine.countingEffects tokens ++
    engine.whenVerbose (engine.showing "FREQ: " (engine.initial tokens) ++ [.tell ⟨.log, ""⟩])

def effects (engine : Engine) (tokens : List String) : List Effect :=
  engine.openingEffects tokens ++ (engine.steps tokens).flatMap engine.stepEffects ++
    engine.endEffects tokens

theorem mem_of_mem_whenVerbose {engine : Engine} {effects : List Effect} {effect : Effect}
    (member : effect ∈ engine.whenVerbose effects) : effect ∈ effects := by
  rw [whenVerbose] at member
  split at member
  · exact member
  · exact nomatch member

@[simp] theorem spell_mem_showing {engine : Engine} {mark : String} {counts : Counts}
    {numbers : List Int} :
    .spell numbers ∈ engine.showing mark counts ↔ numbers = engine.vocabulary.numbers counts := by
  simp [showing]

theorem warnings_whenVerbose {engine : Engine} {effects : List Effect}
    (silent : Effect.warnings effects = []) :
    Effect.warnings (engine.whenVerbose effects) = [] := by
  rw [whenVerbose]
  split
  · exact silent
  · rfl

theorem warnings_stepEffects (engine : Engine) (steps : List Step) :
    Effect.warnings (steps.flatMap engine.stepEffects) = [] := by
  induction steps with
  | nil => rfl
  | cons step rest ih =>
    rw [List.flatMap_cons, Effect.warnings_append, ih, List.append_nil]
    exact warnings_whenVerbose rfl

theorem warnings_countingEffects (engine : Engine) (tokens : List String) :
    Effect.warnings (engine.countingEffects tokens) =
      tokens.filterMap engine.vocabulary.omission? := by
  rw [Effect.warnings, countingEffects, Effect.records_map_tell, List.filter_eq_self]
  intro record member
  obtain ⟨token, _, omitted⟩ := List.mem_filterMap.mp member
  rw [Vocabulary.omission?] at omitted
  split at omitted
  · cases omitted
  · cases omitted
    rfl

theorem warnings_effects (engine : Engine) (tokens : List String) :
    Effect.warnings (engine.effects tokens) = tokens.filterMap engine.vocabulary.omission? ++
      if engine.settles tokens then [] else [⟨.warn, limitReason tokens engine.maxIterations⟩] := by
  -- What is told only in a verbose run is no warning.
  have opening : Effect.warnings (engine.openingEffects tokens) =
      tokens.filterMap engine.vocabulary.omission? := by
    rw [openingEffects, Effect.warnings_append, Effect.warnings_append, warnings_countingEffects,
      warnings_whenVerbose rfl, warnings_whenVerbose rfl, List.nil_append, List.append_nil]
  have ending : Effect.warnings (engine.endEffects tokens) = if engine.settles tokens then []
      else [⟨.warn, limitReason tokens engine.maxIterations⟩] := by
    rw [endEffects]
    split
    · rw [settlingEffects, Effect.warnings_append, warnings_whenVerbose rfl]
      rfl
    · rfl
  rw [effects, Effect.warnings_append, Effect.warnings_append, opening, warnings_stepEffects,
    ending, List.append_nil]

inductive Spelled (engine : Engine) (tokens : List String) : List Int → Prop
  | counts {counts : Counts} (place : counts = engine.initial tokens ∨
      counts = engine.final tokens ∨
      ∃ step ∈ engine.steps tokens, counts = step.before ∨ counts = step.after) :
      Spelled engine tokens (engine.vocabulary.numbers counts)
  | rule {step : Step} (member : step ∈ engine.steps tokens) :
      Spelled engine tokens (step.rule.numbers engine.vocabulary)
  | limit (stopped : engine.settles tokens = false) :
      Spelled engine tokens [engine.maxIterations]

theorem spelled_of_mem_effects {engine : Engine} {tokens : List String} {numbers : List Int}
    (spelled : .spell numbers ∈ engine.effects tokens) : engine.Spelled tokens numbers := by
  -- Counts are shown at the beginning, around each step, and at the end.
  rw [effects, List.mem_append, List.mem_append] at spelled
  rcases spelled with (opening | stepping) | ending
  · rw [openingEffects, List.mem_append, List.mem_append] at opening
    rcases opening with (entry | counting) | listing
    · simpa using mem_of_mem_whenVerbose entry
    · simp [countingEffects] at counting
    · obtain rfl : numbers = engine.vocabulary.numbers (engine.initial tokens) := by
        simpa using mem_of_mem_whenVerbose listing
      exact .counts (.inl rfl)
  · obtain ⟨step, member, inStep⟩ := List.mem_flatMap.mp stepping
    have same : numbers = step.rule.numbers engine.vocabulary ∨
        numbers = engine.vocabulary.numbers step.before ∨
        numbers = engine.vocabulary.numbers step.after := by
      simpa using mem_of_mem_whenVerbose inStep
    rcases same with rfl | rfl | rfl
    · exact .rule member
    · exact .counts (.inr (.inr ⟨step, member, .inl rfl⟩))
    · exact .counts (.inr (.inr ⟨step, member, .inr rfl⟩))
  · rw [endEffects] at ending
    split at ending
    · rw [settlingEffects, List.mem_append] at ending
      obtain rfl : numbers = engine.vocabulary.numbers (engine.final tokens) := by
        rcases ending with verbose | always
        · simpa using mem_of_mem_whenVerbose verbose
        · simpa using always
      exact .counts (.inr (.inl rfl))
    · rename_i stopped
      obtain rfl : numbers = [engine.maxIterations] := by simpa using ending
      exact .limit (Bool.eq_false_iff.mpr stopped)

theorem initial_counted (engine : Engine) (tokens : List String) :
    engine.vocabulary.Counted (engine.initial tokens) :=
  Vocabulary.Counted.zeros.tally tokens

theorem final_counted (engine : Engine) (tokens : List String) :
    engine.vocabulary.Counted (engine.final tokens) :=
  RuleSet.iterate_pass_counted (engine.initial_counted tokens) (engine.passes tokens)

theorem show_bind {β : Type} {engine : Engine} {counts : Counts} {mark : String}
    {next : Unit → Reporting Obstacle β} {result : β} {more : List Effect}
    (goesOn : next () = Reporting.perform result more) :
    (do
      let text ← engine.writeCounts counts
      let told ← Reporting.log (mark ++ text)
      next told) = Reporting.perform result (engine.showing mark counts ++ more) :=
  Reporting.write_bind (Reporting.log_bind goesOn)

theorem countFrom_eq_perform (engine : Engine) (counts : Counts) (tokens : List String) :
    engine.countFrom counts tokens =
      Reporting.perform (engine.vocabulary.tally counts tokens)
        (engine.countingEffects tokens) := by
  induction tokens generalizing counts with
  | nil => rfl
  | cons token rest ih =>
    simp only [countFrom, countingEffects, Vocabulary.tally, List.foldl_cons, Vocabulary.omission?]
    cases found : engine.vocabulary.id? (Text.trim token) with
    | some id =>
      rw [List.filterMap_cons_none (by simp [Vocabulary.omission?, found])]
      exact ih (counts.increment id)
    | none =>
      rw [List.filterMap_cons_some (by simp only [Vocabulary.omission?, found]; rfl)]
      exact Reporting.warn_bind (ih counts)

theorem count_eq_perform (engine : Engine) (tokens : List String) :
    engine.count tokens =
      Reporting.perform (engine.initial tokens) (engine.countingEffects tokens) :=
  engine.countFrom_eq_perform engine.vocabulary.zeros tokens

theorem count_returns {around : Surroundings} (accepting : around.sink.Accepting)
    (engine : Engine) (tokens : List String) (output : Output) :
    (engine.count tokens).runWith around output =
      (.ok (engine.initial tokens),
        around.sink.deliverAll (tokens.filterMap engine.vocabulary.omission?) output) := by
  rw [count_eq_perform, countingEffects,
    Reporting.runWith_perform (Effect.clear_tells accepting _) output, Effect.records_map_tell]

theorem apply_eq_perform (engine : Engine) (traced : Bool) (pass index : Nat) (rule : Rule)
    (progress : Progress) (step : Step)
    (made : step = ⟨pass, index, rule, progress.counts, rule.fire progress.counts⟩) :
    engine.apply traced pass index rule progress =
      Reporting.perform (progress.extend traced [step]) (engine.stepEffects step) := by
  have extended : progress.extend traced [step] =
      ⟨rule.fire progress.counts, progress.applications + 1,
        if traced then progress.steps.push step else progress.steps⟩ := by
    cases traced <;> simp [Progress.extend, lastCounts, made]
  subst made
  rw [extended, apply, stepEffects, whenVerbose]
  cases engine.verbose with
  | false => rfl
  | true =>
    exact Reporting.write_bind (Reporting.log_bind (show_bind (show_bind (Reporting.log_bind rfl))))

theorem sweep_eq_perform (engine : Engine) (traced : Bool) (pass index : Nat)
    (progress : Progress) (fired : Bool) (rules : List Rule) :
    engine.sweep traced pass index progress fired rules =
      Reporting.perform
        (progress.extend traced (sweepSteps pass index progress.counts rules),
          fired || !(sweepSteps pass index progress.counts rules).isEmpty)
        ((sweepSteps pass index progress.counts rules).flatMap engine.stepEffects) := by
  induction rules generalizing index progress fired with
  | nil => simp [sweep, sweepSteps, Reporting.pure_eq_perform]
  | cons rule rest ih =>
    by_cases enabled : rule.enabled progress.counts
    · have applied := engine.apply_eq_perform traced pass index rule progress _ rfl
      rw [sweep, if_pos enabled, sweepSteps, if_pos enabled, applied, List.flatMap_cons]
      apply Reporting.perform_bind
      rw [ih, Progress.extend_append]
      simp [Progress.extend, lastCounts]
    · rw [sweep, if_neg enabled, sweepSteps, if_neg enabled, ih]

theorem settle_of_normal (engine : Engine) (traced : Bool) (allowed done : Nat)
    {progress : Progress} (settled : engine.rules.normal progress.counts = true) :
    engine.settle traced allowed done progress = pure ⟨progress, done, true⟩ := by
  have quiet : sweepSteps (done + 1) 0 progress.counts engine.rules.rules = [] :=
    RuleSet.passSteps_eq_nil.mpr settled
  unfold settle
  rw [sweep_eq_perform, quiet, Progress.extend_nil]
  rfl

theorem sweep_of_not_normal (engine : Engine) (traced : Bool) (done : Nat) {progress : Progress}
    (unsettled : ¬ engine.rules.normal progress.counts = true) :
    engine.sweep traced (done + 1) 0 progress false engine.rules.rules =
      Reporting.perform
        (progress.extend traced (engine.rules.passSteps (done + 1) progress.counts), true)
        ((engine.rules.passSteps (done + 1) progress.counts).flatMap engine.stepEffects) := by
  have loud : (engine.rules.passSteps (done + 1) progress.counts).isEmpty = false := by
    rw [List.isEmpty_eq_false_iff]
    exact fun quiet => unsettled (RuleSet.passSteps_eq_nil.mp quiet)
  rw [RuleSet.passSteps] at loud ⊢
  rw [sweep_eq_perform, loud]
  rfl

/-- Settling makes the productive passes, of which there is at most one more than allowed. -/
theorem settle_eq_perform (engine : Engine) (traced : Bool) (allowed done : Nat)
    (progress : Progress) :
    engine.settle traced allowed done progress =
      let productive := engine.rules.productive progress.counts (allowed + 1)
      let steps := engine.rules.unrolled done progress.counts productive
      Reporting.perform
        ⟨progress.extend traced steps, done + productive, decide (productive ≤ allowed)⟩
        (steps.flatMap engine.stepEffects) := by
  induction allowed generalizing done progress with
  | zero =>
    by_cases settled : engine.rules.normal progress.counts = true
    · rw [settle_of_normal engine traced 0 done settled]
      simp [RuleSet.productive, RuleSet.unrolled, settled, Reporting.pure_eq_perform]
    · rw [settle, sweep_of_not_normal engine traced done settled]
      have stopped : engine.rules.productive progress.counts 1 = 1 := by
        simp [RuleSet.productive, settled]
      simp only [stopped, RuleSet.unrolled, List.append_nil]
      exact Reporting.perform_bind_pure rfl
  | succ allowed ih =>
    by_cases settled : engine.rules.normal progress.counts = true
    · rw [settle_of_normal engine traced (allowed + 1) done settled]
      simp [RuleSet.productive, RuleSet.unrolled, settled, Reporting.pure_eq_perform]
    · rw [settle, sweep_of_not_normal engine traced done settled]
      have counts : (progress.extend traced
          (engine.rules.passSteps (done + 1) progress.counts)).counts =
            engine.rules.pass progress.counts :=
        (sweepSteps_chained (done + 1) 0 progress.counts engine.rules.rules).final_eq.symm
      have further : engine.rules.productive progress.counts (allowed + 2) =
          engine.rules.productive (engine.rules.pass progress.counts) (allowed + 1) + 1 := by
        rw [RuleSet.productive, if_neg settled]
      simp only [further, RuleSet.unrolled, List.flatMap_append]
      apply Reporting.perform_bind
      have others := ih (done + 1) (progress.extend traced
        (engine.rules.passSteps (done + 1) progress.counts))
      simp only [counts, Progress.extend_append] at others
      simp only [if_true, others, Nat.add_le_add_iff_right]
      congr 2
      omega

theorem settle_initial (engine : Engine) (tokens : List String) (traced : Bool) :
    engine.settle traced engine.maxIterations.toNat 0 ⟨engine.initial tokens, 0, #[]⟩ =
      Reporting.perform
        ⟨⟨engine.final tokens, (engine.steps tokens).length,
          if traced then (engine.steps tokens).toArray else #[]⟩,
          engine.passes tokens, engine.settles tokens⟩
        ((engine.steps tokens).flatMap engine.stepEffects) := by
  have reached : Progress.extend ⟨engine.initial tokens, 0, #[]⟩ traced (engine.steps tokens) =
      ⟨engine.final tokens, (engine.steps tokens).length,
        if traced then (engine.steps tokens).toArray else #[]⟩ := by
    simp [Progress.extend, steps, final, RuleSet.lastCounts_unrolled]
  rw [settle_eq_perform, ← reached]
  simp only [Nat.zero_add]
  rfl

/-- A run comes to its outcome through its effects. -/
theorem execute_eq_perform (engine : Engine) (tokens : List String) (traced : Bool) :
    engine.execute tokens traced =
      Reporting.perform (engine.outcome tokens traced) (engine.effects tokens) := by
  have traces : (if traced then some (⟨engine.vocabulary, engine.initial tokens,
      engine.final tokens, (if traced then (engine.steps tokens).toArray else #[]).toList⟩ : Trace)
      else none) = if traced then some (engine.traceOf tokens) else none := by
    cases traced <;> rfl
  rw [execute, count_eq_perform]
  simp only [effects, openingEffects, endEffects, settlingEffects, whenVerbose, outcome, result,
    stop, ← traces]
  -- The four cases are the two endings, each told of or not.
  cases engine.verbose <;> cases ended : engine.settles tokens
  all_goals simp only [if_true, if_false, Bool.false_eq_true, List.nil_append, List.append_nil,
    List.cons_append, List.append_assoc]
  case false.false =>
    refine Reporting.perform_bind ?_
    rw [settle_initial, ended]
    exact Reporting.perform_bind (Reporting.write_bind (Reporting.warn_bind rfl))
  case false.true =>
    refine Reporting.perform_bind ?_
    rw [settle_initial, ended]
    exact Reporting.perform_bind (Reporting.write_bind rfl)
  case true.false =>
    refine Reporting.log_bind (Reporting.perform_bind (show_bind (Reporting.log_bind ?_)))
    rw [settle_initial, ended]
    exact Reporting.perform_bind (Reporting.write_bind (Reporting.warn_bind rfl))
  case true.true =>
    refine Reporting.log_bind (Reporting.perform_bind (show_bind (Reporting.log_bind ?_)))
    rw [settle_initial, ended]
    exact Reporting.perform_bind (show_bind (Reporting.write_bind rfl))

def outcomeIn (engine : Engine) (tokens : List String) (traced : Bool) (around : Surroundings)
    (output : Output) : Except Obstacle Outcome :=
  ((engine.execute tokens traced).runWith around output).1

theorem outcomeIn_eq_ok {engine : Engine} {tokens : List String} {traced : Bool}
    {around : Surroundings} {output : Output} {outcome : Outcome} :
    engine.outcomeIn tokens traced around output = .ok outcome ↔
      outcome = engine.outcome tokens traced ∧
        ∀ effect ∈ engine.effects tokens, effect.Clear around := by
  rw [outcomeIn, execute_eq_perform]
  exact Reporting.perform_returns_iff

theorem execute_returns {engine : Engine} {tokens : List String} {around : Surroundings}
    (clear : ∀ effect ∈ engine.effects tokens, effect.Clear around) (traced : Bool)
    (output : Output) :
    (engine.execute tokens traced).runWith around output =
      (.ok (engine.outcome tokens traced),
        around.sink.deliverAll (Effect.records (engine.effects tokens)) output) := by
  rw [execute_eq_perform, Reporting.runWith_perform clear]

theorem settles_iff {engine : Engine} {tokens : List String} :
    engine.settles tokens = true ↔ engine.passes tokens ≤ engine.maxIterations.toNat :=
  decide_eq_true_iff

theorem settled_outcome (engine : Engine) (tokens : List String) (traced : Bool) :
    (engine.outcome tokens traced).settled = engine.settles tokens := by
  rw [outcome]
  split <;> simp [Outcome.settled, *]

theorem final_normal {engine : Engine} {tokens : List String}
    (settled : engine.settles tokens = true) :
    engine.rules.normal (engine.final tokens) = true :=
  RuleSet.normal_of_productive_lt (Nat.lt_succ_of_le (settles_iff.mp settled))

theorem substituted_eq_outcome {engine : Engine} {tokens : List String} {traced : Bool}
    {result : Substituted} :
    .substituted result = engine.outcome tokens traced ↔
      engine.settles tokens = true ∧ result = engine.result tokens traced := by
  rw [outcome]
  split <;> simp [*]

theorem failure_eq_outcome {engine : Engine} {tokens : List String} {traced : Bool}
    {fault : Failure} :
    .failure fault = engine.outcome tokens traced ↔
      engine.settles tokens = false ∧ fault = engine.stop tokens traced := by
  rw [outcome]
  split <;> simp [*]

/-- An engine of one rule, by which what is young gets old. -/
def aging : Engine where
  rules := {
    vocabulary := ⟨["young", "old"], by decide, by decide +kernel⟩
    rules := [⟨[1, 0], [0, 1], none, rfl, by decide, by decide, rfl, by decide⟩]
    fits := by decide }

end Engine

end MultisetSubstitution
