import MultisetSubstitution.Proofs.Limit

/-! Settled runs end in a normal form: its tokens, if they can all be made, count it again, no rule
matches them, and a run on them changes nothing. -/

set_option autoImplicit false

namespace MultisetSubstitution

namespace Engine

variable {engine : Engine} {tokens : List String}

theorem result_tokens (engine : Engine) (tokens : List String) (traced : Bool) :
    (engine.result tokens traced).tokens = engine.vocabulary.attributes (engine.final tokens) :=
  engine.vocabulary.repeated_entries (engine.final tokens)

theorem initial_result_tokens (engine : Engine) (tokens : List String) (traced : Bool) :
    engine.initial (engine.result tokens traced).tokens = engine.final tokens := by
  rw [result_tokens]
  exact Vocabulary.tally_attributes (engine.final_counted tokens)

theorem omissions_result_tokens (engine : Engine) (tokens : List String) (traced : Bool) :
    (engine.result tokens traced).tokens.filterMap engine.vocabulary.omission? = [] := by
  rw [result_tokens]
  exact engine.vocabulary.omission?_attributes (engine.final tokens)

theorem enabledIndices_of_normal {counts : Counts} (settled : engine.rules.normal counts = true) :
    engine.enabledIndices counts = [] := by
  rw [enabledIndices, List.filterMap_eq_nil_iff]
  rintro ⟨rule, index⟩ member
  have disabled := RuleSet.normal_iff.mp settled rule (List.fst_mem_of_mem_zipIdx member)
  simp [disabled]

theorem passes_of_normal (settled : engine.rules.normal (engine.initial tokens) = true) :
    engine.passes tokens = 0 := by
  rw [passes, RuleSet.productive, if_pos settled]

theorem steps_of_normal (settled : engine.rules.normal (engine.initial tokens) = true) :
    engine.steps tokens = [] := by
  rw [steps, passes_of_normal settled]
  rfl

theorem final_of_normal (settled : engine.rules.normal (engine.initial tokens) = true) :
    engine.final tokens = engine.initial tokens := by
  rw [final, passes_of_normal settled]
  rfl

theorem settles_of_normal (settled : engine.rules.normal (engine.initial tokens) = true) :
    engine.settles tokens = true := by
  rw [settles_iff, passes_of_normal settled]
  exact Nat.zero_le _

theorem effects_clear_of_normal {around : Surroundings} (accepting : around.sink.Accepting)
    (settled : engine.rules.normal (engine.initial tokens) = true)
    (fits : (engine.vocabulary.numbers (engine.initial tokens)).all
      (Text.fits around.digits) = true) :
    ∀ effect ∈ engine.effects tokens, effect.Clear around := by
  intro effect member
  cases effect with
  | tell record => exact Effect.clear_tell accepting record
  | spell numbers =>
    cases spelled_of_mem_effects member with
    | counts place =>
      -- Without a step the first counts are also the last.
      rw [steps_of_normal settled, final_of_normal settled] at place
      obtain rfl : _ = engine.initial tokens := by simpa using place
      exact Effect.clear_spell.mpr fits
    | rule inSteps =>
      rw [steps_of_normal settled] at inSteps
      exact nomatch inSteps
    | limit stopped => exact absurd (settles_of_normal settled) (Bool.eq_false_iff.mp stopped)

theorem execute_of_normal {around : Surroundings} (accepting : around.sink.Accepting)
    (settled : engine.rules.normal (engine.initial tokens) = true)
    (fits : (engine.vocabulary.numbers (engine.initial tokens)).all
      (Text.fits around.digits) = true) (traced : Bool) (output : Output) :
    (engine.execute tokens traced).runWith around output =
      (.ok (.substituted (engine.result tokens traced)),
        around.sink.deliverAll (Effect.records (engine.effects tokens)) output) := by
  rw [execute_returns (effects_clear_of_normal accepting settled fits), outcome,
    if_pos (settles_of_normal settled)]

theorem result_of_normal (settled : engine.rules.normal (engine.initial tokens) = true)
    (traced : Bool) :
    (engine.result tokens traced).listing = engine.vocabulary.listing (engine.initial tokens) ∧
      (engine.result tokens traced).counts = engine.vocabulary.entries (engine.initial tokens) ∧
      (engine.result tokens traced).passes = 0 ∧
      (engine.result tokens traced).applications = 0 := by
  rw [result, final_of_normal settled, passes_of_normal settled, steps_of_normal settled]
  exact ⟨rfl, rfl, rfl, rfl⟩

theorem records_log_of_silent {effects : List Effect} (silent : Effect.warnings effects = []) :
    ∀ record ∈ Effect.records effects, record.level = .log := by
  intro record member
  have notWarn := List.filter_eq_nil_iff.mp silent record member
  cases level : record.level with
  | log => rfl
  | warn => simp [level] at notWarn

theorem settled_numbers_fit {around : Surroundings} (settled : engine.settles tokens = true)
    (clear : ∀ effect ∈ engine.effects tokens, effect.Clear around) :
    (engine.vocabulary.numbers (engine.final tokens)).all (Text.fits around.digits) = true := by
  apply Effect.clear_spell.mp
  apply clear
  rw [effects, endEffects, if_pos settled, settlingEffects]
  simp

/-- What is left where a run has settled: its tokens count it again without a warning, no rule
matches them, and a run on them under any limit settles at once on the same listing, again without a
warning. -/
structure Rests (engine : Engine) (around : Surroundings) (result : Substituted) (final : Counts)
    (tokens : List String) : Prop where
  recounted : ∀ output, (engine.count tokens).runWith around output = (.ok final, output)
  unmatched : ∀ output, (engine.matching tokens).runWith around output = (.ok [], output)
  unchanged : ∀ limit traced output, ∃ again records,
    ((engine.withLimit limit).execute tokens traced).runWith around output =
      (.ok (.substituted again), around.sink.deliverAll records output) ∧
    again.listing = result.listing ∧ again.counts = result.counts ∧
    again.passes = 0 ∧ again.applications = 0 ∧ ∀ record ∈ records, record.level = .log

theorem result_rests {around : Surroundings} (accepting : around.sink.Accepting)
    (settled : engine.settles tokens = true)
    (clear : ∀ effect ∈ engine.effects tokens, effect.Clear around) (traced : Bool) :
    engine.Rests around (engine.result tokens traced) (engine.final tokens)
      (engine.result tokens traced).tokens := by
  have normal := final_normal settled
  have recount : ∀ output, (engine.count (engine.result tokens traced).tokens).runWith around
      output = (.ok (engine.final tokens), output) := by
    intro output
    rw [count_returns accepting, initial_result_tokens, omissions_result_tokens]
    rfl
  refine ⟨recount, fun output => ?_, fun limit retraced output => ?_⟩
  · rw [matching, Reporting.runWith_bind, recount]
    simp [enabledIndices_of_normal normal]
  · -- What is counted again are the final counts, and to these no rule applies.
    have start : (engine.withLimit limit).initial (engine.result tokens traced).tokens =
        engine.final tokens := initial_result_tokens engine tokens traced
    have normalAgain : (engine.withLimit limit).rules.normal
        ((engine.withLimit limit).initial (engine.result tokens traced).tokens) = true :=
      start ▸ normal
    have fits : ((engine.withLimit limit).vocabulary.numbers
        ((engine.withLimit limit).initial (engine.result tokens traced).tokens)).all
          (Text.fits around.digits) = true := start ▸ settled_numbers_fit settled clear
    have silent : Effect.warnings
        ((engine.withLimit limit).effects (engine.result tokens traced).tokens) = [] := by
      rw [warnings_effects, if_pos (settles_of_normal normalAgain), List.append_nil]
      exact omissions_result_tokens engine tokens traced
    obtain ⟨listing, counts, passes, applications⟩ := result_of_normal normalAgain retraced
    rw [start] at listing counts
    exact ⟨_, _, execute_of_normal accepting normalAgain fits retraced output, listing, counts,
      passes, applications, records_log_of_silent silent⟩

/-- A settled run ends in a normal form, which holds the inputs of no rule. The tokens of its result
can be made if each count is in the range of numbers of copies and memory has room for all copies,
and it rests on them. -/
theorem execute_normal_form (engine : Engine) (tokens : List String) (traced : Bool)
    (around : Surroundings) (accepting : around.sink.Accepting) (output after : Output)
    (result : Substituted)
    (ran : (engine.execute tokens traced).runWith around output =
      (.ok (.substituted result), after)) :
    ∃ trace, (engine.execute tokens true).runWith around output =
        (.ok (.substituted { result with trace := some trace }), after) ∧
      engine.vocabulary.Counted trace.final ∧
      (∀ rule ∈ engine.rules.rules, ¬ trace.final.Holds rule.inputs) ∧
      (∀ memory, (∃ again, result.checkedTokens memory = .ok again) ↔
        Repetition.Possible memory (result.counts.map (·.2))) ∧
      ∀ memory again, result.checkedTokens memory = .ok again →
        engine.Rests around result trace.final again := by
  obtain ⟨ended, clear⟩ := outcomeIn_eq_ok.mp (congrArg Prod.fst ran)
  obtain ⟨settled, rfl⟩ := substituted_eq_outcome.mp ended
  have returned := execute_returns clear
  have same : after = around.sink.deliverAll (Effect.records (engine.effects tokens)) output :=
    (congrArg Prod.snd ran).symm.trans (congrArg Prod.snd (returned traced output))
  refine ⟨engine.traceOf tokens, ?_, engine.final_counted tokens,
    fun _ => RuleSet.not_holds_of_normal (engine.final_counted tokens).length
      (final_normal settled), fun memory => ?_, fun memory again made => ?_⟩
  · rw [returned true output, same, outcome, if_pos settled]
    rfl
  · simp only [Substituted.checkedTokens, Vocabulary.checkedRepeated_eq_ok]
    constructor
    · rintro ⟨_, _, possible⟩
      exact possible
    · exact fun possible => ⟨_, rfl, possible⟩
  · obtain ⟨rfl, -⟩ := Vocabulary.checkedRepeated_eq_ok.mp made
    exact result_rests accepting settled clear traced

theorem execute_normal_form_aging :
    Sink.collecting.Accepting ∧ ∃ result after again,
      (aging.execute ["young", " young", "lava"] false).runWith ⟨.collecting, some 4300⟩ {} =
        (.ok (.substituted result), after) ∧
      result.listing = ["old:2"] ∧
      result.checkedTokens (fun made => made.all (· ≤ 2)) = .ok again ∧ again = ["old", "old"] ∧
      ∀ other, (aging.matching again).runWith ⟨.collecting, some 4300⟩ other = (.ok [], other) := by
  refine ⟨by decide, _, _, _, rfl, by decide +kernel, rfl, rfl, ?_⟩
  obtain ⟨_, _, _, _, _, rests⟩ := execute_normal_form aging ["young", " young", "lava"] false
    ⟨.collecting, some 4300⟩ (by decide) {} _ _ rfl
  exact (rests (fun made => made.all (· ≤ 2)) ["old", "old"] rfl).unmatched

/-- A run on four seeds settles, but whatever the memory, the tokens of its result cannot be made.
-/
theorem sprouting_without_tokens :
    ∃ result after, (execute ⟨.sprouting, false, 1⟩ ["seed", "seed", "seed", "seed"] false).runWith
        ⟨.collecting, some 4300⟩ {} = (.ok (.substituted result), after) ∧
      result.counts = [("grain", 0x8000000000000000)] ∧
      ∀ memory, result.checkedTokens memory = .error .noIndex :=
  ⟨_, _, rfl, rfl, fun _ => rfl⟩

end Engine

end MultisetSubstitution
