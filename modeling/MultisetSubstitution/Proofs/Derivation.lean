import MultisetSubstitution.Proofs.Numbers
import MultisetSubstitution.Proofs.Runs

/-! Runs as greedy ordered derivations: each step fires an enabled rule on what the step before it
has left, steps come in order of passes and of rules within a pass, and a rule is left out only
where it is not enabled when its turn comes. -/

set_option autoImplicit false

namespace MultisetSubstitution

/-- A step is made before the rule at an index has its turn in a pass. -/
def Step.Precedes (step : Step) (pass index : Int) : Prop :=
  step.pass < pass ∨ step.pass = pass ∧ step.ruleIndex < index

instance (step : Step) (pass index : Int) : Decidable (step.Precedes pass index) :=
  inferInstanceAs (Decidable (_ ∨ _))

def Trace.countsAt (trace : Trace) (pass index : Int) : Counts :=
  lastCounts trace.initial (trace.steps.filter fun step => step.Precedes pass index)

def Trace.vectors (trace : Trace) : List Counts :=
  trace.initial :: trace.final :: trace.steps.flatMap fun step => [step.before, step.after]

theorem Trace.mem_vectors {trace : Trace} {counts : Counts} :
    counts ∈ trace.vectors ↔ counts = trace.initial ∨ counts = trace.final ∨
      ∃ step ∈ trace.steps, counts = step.before ∨ counts = step.after := by
  simp [vectors]

def Trace.Fits (digits : Option Nat) (trace : Trace) : Prop :=
  ∀ counts ∈ trace.vectors, ∀ number ∈ trace.vocabulary.numbers counts,
    Text.fits digits number = true

instance (digits : Option Nat) (trace : Trace) : Decidable (trace.Fits digits) :=
  inferInstanceAs (Decidable (∀ counts ∈ trace.vectors,
    ∀ number ∈ trace.vocabulary.numbers counts, Text.fits digits number = true))

def Outcome.numbers : Outcome → List Int
  | .substituted result => result.counts.map (·.2)
  | .failure fault => [fault.maxIterations]

def Outcome.Fits (digits : Option Nat) (outcome : Outcome) : Prop :=
  ∀ number ∈ outcome.numbers, Text.fits digits number = true

instance (digits : Option Nat) (outcome : Outcome) : Decidable (outcome.Fits digits) :=
  inferInstanceAs (Decidable (∀ number ∈ outcome.numbers, Text.fits digits number = true))

theorem Outcome.fits_none (outcome : Outcome) : outcome.Fits none :=
  fun number _ => Text.fits_none number

def Outcome.warnings : Outcome → List Record
  | .substituted _ => []
  | .failure fault => [⟨.warn, fault.reason⟩]

/-- A step fires the rule of the engine at its index, whose inputs are there. -/
structure Step.Legal (engine : Engine) (step : Step) : Prop where
  rule : ∃ index : Nat, step.ruleIndex = index ∧ engine.rules.rules[index]? = some step.rule
  held : step.before.Holds step.rule.inputs
  after : step.after = step.before.rewritten step.rule.inputs step.rule.outputs

/-- What the trace of a run over a number of passes shows: a legal step wherever one can be made. -/
structure Engine.Greedy (engine : Engine) (trace : Trace) (passes : Nat) : Prop where
  vocabulary : trace.vocabulary = engine.vocabulary
  initial : engine.vocabulary.Counted trace.initial
  chained : Chained trace.initial trace.steps trace.final
  legal : ∀ step ∈ trace.steps, step.Legal engine
  ordered : trace.steps.Pairwise fun first second => first.Precedes second.pass second.ruleIndex
  numbered : ∀ pass : Int, (∃ step ∈ trace.steps, step.pass = pass) ↔ 1 ≤ pass ∧ pass ≤ passes
  -- A rule is left out in a pass only if its inputs are not there at its turn.
  exhaustive : ∀ (pass : Int) (index : Nat) (rule : Rule), 1 ≤ pass → pass ≤ passes →
    engine.rules.rules[index]? = some rule →
    (∀ step ∈ trace.steps, ¬ (step.pass = pass ∧ step.ruleIndex = index)) →
    (trace.countsAt pass index).length = rule.inputs.length ∧
      ¬ (trace.countsAt pass index).Holds rule.inputs

/-- How an outcome goes with a trace over a number of passes: a run settles within the limit on
counts that no rule applies to, or it is stopped one pass above the limit. -/
def Engine.Closes (engine : Engine) (trace : Trace) (passes : Nat) : Outcome → Prop
  | .substituted result =>
    result.passes = passes ∧ result.applications = trace.steps.length ∧
      passes ≤ max engine.maxIterations 0 ∧
      ∀ rule ∈ engine.rules.rules, ¬ trace.final.Holds rule.inputs
  | .failure _ => passes = max engine.maxIterations 0 + 1

namespace RuleSet

variable {set : RuleSet} {done : Nat} {counts : Counts} {most : Nat}

theorem unrolled_ordered (set : RuleSet) (done : Nat) (counts : Counts) (most : Nat) :
    (set.unrolled done counts most).Pairwise
      fun first second => first.Precedes second.pass second.ruleIndex := by
  induction most generalizing done counts with
  | zero => exact .nil
  | succ most ih =>
    rw [unrolled, List.pairwise_append]
    refine ⟨?_, ih (done + 1) (set.pass counts), ?_⟩
    · refine (sweepSteps_ordered (done + 1) 0 counts set.rules).imp_of_mem ?_
      intro first second firstMember secondMember before
      exact .inr ⟨(sweepSteps_pass firstMember).trans (sweepSteps_pass secondMember).symm, before⟩
    · intro first firstMember second secondMember
      have number := sweepSteps_pass firstMember
      have bounds := unrolled_pass_bounds secondMember
      exact .inl (by omega)

theorem exists_mem_unrolled {index : Nat} (early : index < most)
    (unsettled : set.normal (set.pass^[index] counts) = false) :
    ∃ step ∈ set.unrolled done counts most, step.pass = (done + index + 1 : Nat) := by
  have loud : set.passSteps (done + index + 1) (set.pass^[index] counts) ≠ [] := by
    intro quiet
    rw [passSteps_eq_nil, unsettled] at quiet
    exact nomatch quiet
  obtain ⟨step, member⟩ := List.exists_mem_of_ne_nil _ loud
  exact ⟨step, mem_unrolled.mpr ⟨index, early, member⟩, sweepSteps_pass member⟩

/-- The steps before a turn are those of the earlier passes and those of the earlier rules in the
same pass. -/
theorem filter_precedes_unrolled {index : Nat} (early : index < most) (ruleIndex : Int) :
    (set.unrolled done counts most).filter
        (fun step => step.Precedes (done + index + 1 : Nat) ruleIndex) =
      set.unrolled done counts index ++
        (set.passSteps (done + index + 1) (set.pass^[index] counts)).filter
          (fun step => step.ruleIndex < ruleIndex) := by
  obtain ⟨later, rfl⟩ : ∃ later, most = index + (later + 1) := ⟨most - index - 1, by omega⟩
  rw [unrolled_add, unrolled, List.filter_append, List.filter_append]
  -- The passes are the earlier ones, that of the turn, and the later ones.
  have all : (set.unrolled done counts index).filter
      (fun step => step.Precedes (done + index + 1 : Nat) ruleIndex) =
        set.unrolled done counts index := by
    rw [List.filter_eq_self]
    intro step member
    have bounds := unrolled_pass_bounds member
    exact decide_eq_true (.inl (by omega))
  have same : (set.passSteps (done + index + 1) (set.pass^[index] counts)).filter
      (fun step => step.Precedes (done + index + 1 : Nat) ruleIndex) =
        (set.passSteps (done + index + 1) (set.pass^[index] counts)).filter
          (fun step => step.ruleIndex < ruleIndex) := by
    apply List.filter_congr
    intro step member
    simp [Step.Precedes, sweepSteps_pass member]
  have none : (set.unrolled (done + index + 1) (set.pass (set.pass^[index] counts)) later).filter
      (fun step => step.Precedes (done + index + 1 : Nat) ruleIndex) = [] := by
    rw [List.filter_eq_nil_iff]
    intro step member
    have bounds := unrolled_pass_bounds member
    have notBefore : ¬ step.Precedes (done + index + 1 : Nat) ruleIndex := by
      rintro (earlier | ⟨here, _⟩) <;> omega
    rwa [decide_eq_true_eq]
  rw [all, same, none, List.append_nil]

theorem unrolled_skipped {index ruleIndex : Nat} {rule : Rule} (early : index < most)
    (found : set.rules[ruleIndex]? = some rule)
    (skipped : ∀ step ∈ set.unrolled done counts most,
      ¬ (step.pass = (done + index + 1 : Nat) ∧ step.ruleIndex = ruleIndex)) :
    rule.enabled (lastCounts counts ((set.unrolled done counts most).filter
      (fun step => step.Precedes (done + index + 1 : Nat) ruleIndex))) = false := by
  have silent : ∀ step ∈ sweepSteps (done + index + 1) 0 (set.pass^[index] counts) set.rules,
      step.ruleIndex ≠ (0 : Nat) + ruleIndex := by
    intro step member position
    refine skipped step (mem_unrolled.mpr ⟨index, early, member⟩) ⟨sweepSteps_pass member, ?_⟩
    omega
  have disabled := sweepSteps_skipped found silent
  rw [filter_precedes_unrolled early, lastCounts_append, lastCounts_unrolled]
  simpa [passSteps] using disabled

end RuleSet

theorem lastCounts_counted {vocabulary : Vocabulary} {counts : Counts} {steps : List Step}
    (counted : vocabulary.Counted counts) (others : ∀ step ∈ steps, vocabulary.Counted step.after) :
    vocabulary.Counted (lastCounts counts steps) := by
  induction steps generalizing counts with
  | nil => exact counted
  | cons step rest ih =>
    exact ih (others step List.mem_cons_self) fun other member =>
      others other (List.mem_cons_of_mem step member)

theorem Chained.counted {set : RuleSet} {counts final : Counts} {steps : List Step}
    (chained : Chained counts steps final) (counted : set.vocabulary.Counted counts)
    (fires : ∀ step ∈ steps, step.rule ∈ set.rules ∧ step.Fires) :
    ∀ step ∈ steps, set.vocabulary.Counted step.before ∧ set.vocabulary.Counted step.after := by
  -- What a step leaves is what the next one is made on, so the invariant goes along the chain.
  induction steps generalizing counts with
  | nil => simp
  | cons step rest ih =>
    obtain ⟨before, others⟩ := chained
    obtain ⟨inSet, fired⟩ := fires step List.mem_cons_self
    rw [← before] at counted
    have after : set.vocabulary.Counted step.after :=
      fired.after ▸ RuleSet.fire_counted inSet counted fired.enabled
    have later := ih others after fun other member => fires other (List.mem_cons_of_mem step member)
    intro other member
    rcases List.mem_cons.mp member with rfl | inRest
    · exact ⟨counted, after⟩
    · exact later other inRest

namespace Engine

variable (engine : Engine) (tokens : List String)

theorem steps_chained :
    Chained (engine.initial tokens) (engine.steps tokens) (engine.final tokens) :=
  engine.rules.unrolled_chained 0 (engine.initial tokens) (engine.passes tokens)

theorem steps_rule {step : Step} (member : step ∈ engine.steps tokens) :
    ∃ index : Nat, step.ruleIndex = index ∧ engine.rules.rules[index]? = some step.rule := by
  obtain ⟨_, _, inPass⟩ := RuleSet.mem_unrolled.mp member
  obtain ⟨offset, position, found⟩ := sweepSteps_rule inPass
  exact ⟨offset, by omega, found⟩

theorem steps_fire {step : Step} (member : step ∈ engine.steps tokens) :
    step.rule ∈ engine.rules.rules ∧ step.Fires := by
  obtain ⟨_, _, inPass⟩ := RuleSet.mem_unrolled.mp member
  obtain ⟨_, _, found⟩ := engine.steps_rule tokens member
  exact ⟨List.mem_of_getElem? found, sweepSteps_fires inPass⟩

theorem steps_counted {step : Step} (member : step ∈ engine.steps tokens) :
    engine.vocabulary.Counted step.before ∧ engine.vocabulary.Counted step.after :=
  (engine.steps_chained tokens).counted (engine.initial_counted tokens)
    (fun _ => engine.steps_fire tokens) step member

theorem steps_legal {step : Step} (member : step ∈ engine.steps tokens) : step.Legal engine := by
  obtain ⟨inSet, fired⟩ := engine.steps_fire tokens member
  have length := (engine.steps_counted tokens member).1.length
  exact ⟨engine.steps_rule tokens member,
    (RuleSet.enabled_iff_holds inSet length).mp fired.enabled,
    fired.after.trans (RuleSet.fire_eq_rewritten inSet length)⟩

theorem traceOf_greedy : engine.Greedy (engine.traceOf tokens) (engine.passes tokens) where
  vocabulary := rfl
  initial := engine.initial_counted tokens
  chained := engine.steps_chained tokens
  legal _ member := engine.steps_legal tokens member
  ordered := RuleSet.unrolled_ordered _ 0 _ _
  numbered pass := by
    constructor
    · rintro ⟨step, member, rfl⟩
      have bounds := RuleSet.unrolled_pass_bounds member
      omega
    · rintro ⟨positive, atMost⟩
      obtain ⟨index, rfl⟩ : ∃ index : Nat, pass = (0 + index + 1 : Nat) :=
        ⟨(pass - 1).toNat, by omega⟩
      have early : index < engine.passes tokens := by omega
      exact RuleSet.exists_mem_unrolled early (RuleSet.not_normal_of_lt_productive early)
  exhaustive pass ruleIndex rule positive atMost found skipped := by
    obtain ⟨index, rfl⟩ : ∃ index : Nat, pass = (0 + index + 1 : Nat) :=
      ⟨(pass - 1).toNat, by omega⟩
    have early : index < engine.passes tokens := by omega
    have inSet := List.mem_of_getElem? found
    have disabled := RuleSet.unrolled_skipped early found skipped
    have length : ((engine.traceOf tokens).countsAt (0 + index + 1 : Nat) ruleIndex).length =
        engine.vocabulary.size :=
      (lastCounts_counted (engine.initial_counted tokens) fun step member =>
        (engine.steps_counted tokens (List.mem_of_mem_filter member)).2).length
    refine ⟨length.trans (RuleSet.inputs_length inSet).symm, fun held => ?_⟩
    have enabled := (RuleSet.enabled_iff_holds inSet length).mpr held
    exact absurd (enabled.symm.trans disabled) (by decide)

theorem outcome_closes :
    engine.Closes (engine.traceOf tokens) (engine.passes tokens) (engine.outcome tokens true) := by
  rw [outcome]
  have most := engine.rules.productive_le (engine.initial tokens) (engine.maxIterations.toNat + 1)
  have counted : engine.passes tokens ≤ engine.maxIterations.toNat + 1 := most
  by_cases settled : engine.settles tokens = true
  · have within := settles_iff.mp settled
    rw [if_pos settled]
    exact ⟨rfl, rfl, by omega, fun _ => RuleSet.not_holds_of_normal
      (engine.final_counted tokens).length (final_normal settled)⟩
  · have beyond : ¬ engine.passes tokens ≤ engine.maxIterations.toNat :=
      fun within => settled (settles_iff.mpr within)
    rw [if_neg settled]
    change (engine.passes tokens : Int) = _
    omega

theorem sides_fit {digits : Option Nat} (fits : (engine.traceOf tokens).Fits digits) {step : Step}
    (member : step ∈ engine.steps tokens) :
    (∀ number ∈ engine.vocabulary.numbers step.rule.inputs, Text.fits digits number = true) ∧
      ∀ number ∈ engine.vocabulary.numbers step.rule.outputs, Text.fits digits number = true := by
  obtain ⟨inSet, fired⟩ := engine.steps_fire tokens member
  obtain ⟨before, after⟩ := engine.steps_counted tokens member
  have inputs := Rule.counted_inputs (engine.rules.fits step.rule inSet)
  have outputs := Rule.counted_outputs (engine.rules.fits step.rule inSet)
  have inputsFit := inputs.length.trans before.length.symm
  have outputsFit := outputs.length.trans before.length.symm
  have held := (Counts.holds_iff_slot inputsFit).mp
    ((RuleSet.enabled_iff_holds inSet before.length).mp fired.enabled)
  have shown : ∀ counts, counts = step.before ∨ counts = step.after →
      ∀ number ∈ engine.vocabulary.numbers counts, Text.fits digits number = true :=
    fun counts place => fits counts (Trace.mem_vectors.mpr (.inr (.inr ⟨step, member, place⟩)))
  constructor
  · exact inputs.fits_of_slots fun id => ⟨step.before, before, held id, shown _ (.inl rfl)⟩
  · refine outputs.fits_of_slots fun id => ⟨step.after, after, ?_, shown _ (.inr rfl)⟩
    have least := held id
    rw [fired.after, Rule.fire, Counts.slot_exchange inputsFit outputsFit]
    omega

theorem outcome_numbers (traced : Bool) :
    (engine.outcome tokens traced).numbers =
      if engine.settles tokens then engine.vocabulary.numbers (engine.final tokens)
      else [engine.maxIterations] := by
  rw [outcome]
  split <;> rfl

theorem warnings_effects_eq (traced : Bool) :
    Effect.warnings (engine.effects tokens) =
      tokens.filterMap engine.vocabulary.omission? ++ (engine.outcome tokens traced).warnings := by
  rw [warnings_effects, outcome]
  split <;> rfl

theorem outcome_fits {digits : Option Nat} (fits : (engine.traceOf tokens).Fits digits)
    (limited : engine.settles tokens = false → Text.fits digits engine.maxIterations = true)
    (traced : Bool) : (engine.outcome tokens traced).Fits digits := by
  rw [Outcome.Fits, outcome_numbers]
  split
  · exact fits _ (Trace.mem_vectors.mpr (.inr (.inl rfl)))
  · rename_i stopped
    simpa using limited (Bool.eq_false_iff.mpr stopped)

/-- A run spells nothing that is too long, if no count that it comes to is and no number in its last
text. -/
theorem spelled_fits {digits : Option Nat} (fits : (engine.traceOf tokens).Fits digits)
    (ended : (engine.outcome tokens true).Fits digits) {numbers : List Int}
    (spelled : .spell numbers ∈ engine.effects tokens) :
    ∀ number ∈ numbers, Text.fits digits number = true := by
  cases spelled_of_mem_effects spelled with
  | counts place => exact fits _ (Trace.mem_vectors.mpr place)
  | rule member =>
    intro number inRule
    obtain ⟨inputs, outputs⟩ := engine.sides_fit tokens fits member
    exact (List.mem_append.mp inRule).elim (inputs number) (outputs number)
  | limit stopped =>
    rwa [Outcome.Fits, outcome_numbers, if_neg (Bool.eq_false_iff.mp stopped)] at ended

/-- Under every sink that takes records, and whatever the limit on passes, a run is a greedy
derivation from the counted tokens, and the trace of its outcome shows it. The only thing that can
keep a run from its outcome is that a number in it, or the limit that it is stopped by, has more
digits than may be written. -/
theorem execute_greedy (around : Surroundings) (accepting : around.sink.Accepting)
    (output : Output) :
    ∃ trace passes, engine.Greedy trace passes ∧
      ((engine.count tokens).runWith around output).1 = .ok trace.initial ∧
      ((∃ outcome, engine.outcomeIn tokens true around output = .ok outcome ∧
          outcome.trace? = some trace ∧ engine.Closes trace passes outcome) ∨
        engine.outcomeIn tokens true around output = .error .longNumber ∧
          ((∃ counts ∈ trace.vectors, ∃ number ∈ counts,
              Text.fits around.digits number = false) ∨
            max engine.maxIterations 0 < passes ∧
              Text.fits around.digits engine.maxIterations = false)) := by
  rw [outcomeIn, execute_eq_perform, count_returns accepting]
  have shown : (engine.outcome tokens true).trace? = some (engine.traceOf tokens) := by
    rw [outcome]
    split <;> rfl
  -- The trace and its passes do not depend on the surroundings; only whether they are shown does.
  refine ⟨engine.traceOf tokens, engine.passes tokens, engine.traceOf_greedy tokens, rfl, ?_⟩
  obtain returned | ⟨stopped, numbers, spelled, number, member, long⟩ :=
    Reporting.perform_returns_or_long accepting (engine.outcome tokens true)
      (engine.effects tokens) output
  · exact .inl ⟨engine.outcome tokens true, returned, shown, engine.outcome_closes tokens⟩
  · refine .inr ⟨stopped, ?_⟩
    by_contra! short
    have fits : (engine.traceOf tokens).Fits around.digits := by
      intro counts inTrace number inCounts
      obtain ⟨entry, kept, rfl⟩ := List.mem_map.mp inCounts
      exact eq_true_of_ne_false
        (short.1 counts inTrace _ (List.of_mem_zip (List.mem_of_mem_filter kept)).2)
    have limited : engine.settles tokens = false →
        Text.fits around.digits engine.maxIterations = true := by
      intro unsettled
      have beyond : ¬ engine.passes tokens ≤ engine.maxIterations.toNat := by
        rw [← settles_iff, unsettled]
        exact Bool.false_ne_true
      exact eq_true_of_ne_false (short.2 (by omega))
    have written := engine.spelled_fits tokens fits (engine.outcome_fits tokens fits limited true)
      spelled number member
    rw [long] at written
    exact Bool.false_ne_true written

theorem execute_greedy_aging :
    Sink.collecting.Accepting ∧ ∃ outcome trace passes,
      aging.outcomeIn ["young", " young", "lava"] true ⟨.collecting, some 4300⟩ {} =
        .ok outcome ∧ outcome.items = ["old:2"] ∧ outcome.trace? = some trace ∧
      trace.steps.length = 2 ∧ aging.Greedy trace passes ∧ aging.Closes trace passes outcome := by
  have known : ((aging.outcomeIn ["young", " young", "lava"] true
      ⟨.collecting, some 4300⟩ {}).map fun outcome =>
        (outcome.items, outcome.trace?.map (·.steps.length))) = .ok (["old:2"], some 2) := by
    decide +kernel
  refine ⟨by decide, ?_⟩
  obtain ⟨trace, passes, greedy, _, ⟨outcome, returned, shown, closes⟩ | ⟨stopped, _⟩⟩ :=
    aging.execute_greedy ["young", " young", "lava"] ⟨.collecting, some 4300⟩ (by decide) {}
  · rw [returned] at known
    have parts := Prod.mk.inj (Except.ok.inj known)
    rw [shown] at parts
    exact ⟨outcome, trace, passes, returned, parts.1, shown, Option.some.inj parts.2, greedy,
      closes⟩
  · rw [stopped] at known
    exact nomatch known

end Engine

end MultisetSubstitution
