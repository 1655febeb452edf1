import MultisetSubstitution.Proofs.NormalForm
import MultisetSubstitution.Proofs.Recognition

/-! The rules that match tokens, and the runs on these. A run begins with the first rule that
matches, and ends where it began if there is none. Further tokens take no match away. -/

set_option autoImplicit false

namespace MultisetSubstitution

theorem head?_sweepSteps (pass index : Nat) (counts : Counts) (rules : List Rule) :
    (sweepSteps pass index counts rules).head?.map Step.ruleIndex =
      (((rules.zipIdx index).filter (·.1.enabled counts)).map (·.2)).head?.map Int.ofNat := by
  -- Until a rule is enabled the counts stay as they are.
  induction rules generalizing index with
  | nil => rfl
  | cons rule rest ih =>
    rw [sweepSteps, List.zipIdx_cons]
    by_cases enabled : rule.enabled counts = true
    · rw [if_pos enabled, List.filter_cons_of_pos (by simpa using enabled)]
      rfl
    · rw [if_neg enabled, List.filter_cons_of_neg (by simpa using enabled)]
      exact ih (index + 1)

namespace Counts

variable {counts other required : Counts}

theorem Holds.plus (held : counts.Holds required) (sameLength : counts.length = other.length)
    (nonnegative : ∀ count ∈ other, 0 ≤ count) : (counts.plus other).Holds required := by
  have fits : required.length = counts.length := List.Forall₂.length_eq held
  have slots := (holds_iff_slot fits).mp held
  rw [holds_iff_slot (fits.trans (length_plus sameLength).symm)]
  intro id
  have here := slots id
  have more := slot_nonnegative nonnegative id
  rw [slot_plus sameLength]
  omega

end Counts

theorem Vocabulary.le_length_of_mem_numbers {vocabulary : Vocabulary} {tokens : List String}
    {number : Int} (member : number ∈ vocabulary.numbers (vocabulary.occurrences tokens)) :
    0 ≤ number ∧ number ≤ tokens.length := by
  obtain ⟨entry, kept, rfl⟩ := List.mem_map.mp member
  have counted := (List.of_mem_zip (List.mem_of_mem_filter kept)).2
  obtain ⟨name, -, same⟩ := List.mem_map.mp counted
  have most : tokens.count name ≤ tokens.length := List.count_le_length
  omega

namespace Engine

variable {engine : Engine} {tokens : List String} {counts other : Counts}

theorem enabledIndices_eq_map (engine : Engine) (counts : Counts) :
    engine.enabledIndices counts =
      (engine.rules.rules.zipIdx.filter (·.1.enabled counts)).map (·.2) := by
  rw [enabledIndices, ← List.filterMap_eq_map', List.filterMap_filter]

theorem mem_enabledIndices {index : Nat} : index ∈ engine.enabledIndices counts ↔
    ∃ rule, engine.rules.rules[index]? = some rule ∧ rule.enabled counts = true := by
  rw [enabledIndices_eq_map, List.mem_map]
  constructor
  · rintro ⟨⟨rule, place⟩, kept, rfl⟩
    obtain ⟨member, enabled⟩ := List.mem_filter.mp kept
    exact ⟨rule, List.mem_zipIdx_iff_getElem?.mp member, enabled⟩
  · rintro ⟨rule, here, enabled⟩
    have numbered := List.mem_zipIdx_iff_getElem? (x := (rule, index)) |>.mpr here
    exact ⟨(rule, index), List.mem_filter.mpr ⟨numbered, enabled⟩, rfl⟩

theorem enabledIndices_eq_nil :
    engine.enabledIndices counts = [] ↔ engine.rules.normal counts = true := by
  refine ⟨fun none => RuleSet.normal_iff.mpr fun rule member => ?_, enabledIndices_of_normal⟩
  obtain ⟨index, here⟩ := List.mem_iff_getElem?.mp member
  rw [Bool.eq_false_iff]
  intro enabled
  have listed := mem_enabledIndices.mpr ⟨rule, here, enabled⟩
  exact List.not_mem_nil (none ▸ listed)

theorem head?_passSteps (engine : Engine) (pass : Nat) (counts : Counts) :
    (engine.rules.passSteps pass counts).head?.map Step.ruleIndex =
      (engine.enabledIndices counts).head?.map Int.ofNat := by
  rw [enabledIndices_eq_map]
  exact head?_sweepSteps pass 0 counts engine.rules.rules

theorem passSteps_isPrefix_steps
    (unsettled : ¬ engine.rules.normal (engine.initial tokens) = true) :
    engine.rules.passSteps 1 (engine.initial tokens) <+: engine.steps tokens := by
  rw [steps, passes, RuleSet.productive, if_neg unsettled, RuleSet.unrolled]
  exact List.prefix_append _ _

theorem head?_steps (engine : Engine) (tokens : List String) :
    (engine.steps tokens).head?.map Step.ruleIndex =
      (engine.enabledIndices (engine.initial tokens)).head?.map Int.ofNat := by
  by_cases settled : engine.rules.normal (engine.initial tokens) = true
  · rw [steps_of_normal settled, enabledIndices_eq_nil.mpr settled]
    rfl
  · obtain ⟨later, all⟩ := passSteps_isPrefix_steps settled
    have first : engine.rules.passSteps 1 (engine.initial tokens) ≠ [] :=
      mt RuleSet.passSteps_eq_nil.mp settled
    rw [← head?_passSteps engine 1, ← all, List.head?_append_of_ne_nil _ first]

theorem enabledIndices_sublist (counted : engine.vocabulary.Counted counts)
    (more : engine.vocabulary.Counted other) :
    (engine.enabledIndices counts).Sublist (engine.enabledIndices (counts.plus other)) := by
  have sameLength := counted.length.trans more.length.symm
  have plusLength := (Counts.length_plus sameLength).trans counted.length
  have kept : ∀ rule ∈ engine.rules.rules, rule.enabled counts = true →
      rule.enabled (counts.plus other) = true := by
    intro rule member enabled
    have held := (RuleSet.enabled_iff_holds member counted.length).mp enabled
    exact (RuleSet.enabled_iff_holds member plusLength).mpr
      (held.plus sameLength more.nonnegative)
  -- What is enabled before is picked out of what is enabled after.
  have again : engine.rules.rules.zipIdx.filter (·.1.enabled counts) =
      (engine.rules.rules.zipIdx.filter (·.1.enabled (counts.plus other))).filter
        (·.1.enabled counts) := by
    rw [List.filter_filter]
    apply List.filter_congr
    rintro ⟨rule, index⟩ member
    have here := kept rule (List.fst_mem_of_mem_zipIdx member)
    by_cases enabled : rule.enabled counts = true <;> simp [enabled, here]
  rw [enabledIndices_eq_map, enabledIndices_eq_map, again]
  exact List.filter_sublist.map _

theorem matching_gives (engine : Engine) (tokens : List String) :
    (engine.matching tokens).Gives (engine.enabledIndices (engine.initial tokens))
      ((engine.vocabulary.unrecognized tokens).map .omission) := by
  intro around accepting output
  rw [matching, Reporting.runWith_bind, engine.count_gives tokens around accepting output,
    initial_eq_occurrences]
  rfl

theorem writable_of_normal (settled : engine.rules.normal (engine.initial tokens) = true)
    {digits : Option Nat} (fits : Text.fits digits tokens.length = true) :
    engine.writable tokens digits = true := by
  have within : (engine.traceOf tokens).Fits digits := fun counts member number numbered => by
    have same : counts = engine.initial tokens := by
      simpa [traceOf, final_of_normal settled, steps_of_normal settled] using
        Trace.mem_vectors.mp member
    rw [same, initial_eq_occurrences] at numbered
    obtain ⟨nonnegative, most⟩ := Vocabulary.le_length_of_mem_numbers numbered
    rw [List.length_map] at most
    exact Text.fits_of_le nonnegative most fits
  refine (engine.attains tokens).fits digits within (engine.outcome_fits tokens within ?_ true)
  intro stopped
  exact absurd (settles_of_normal settled) (Bool.eq_false_iff.mp stopped)

/-- The rules that match tokens are those whose inputs are among them, and they tell how a run on
these begins. Its first step is made with the first of them. If there is none it applies no rule: it
settles at once on what it began with, and returns this if the number of its tokens can be written.
What matches tokens also matches them with others after them. -/
theorem matching_predicts (engine : Engine) (tokens : List String) :
    ∃ indices trace writable outcome,
      (engine.matching tokens).Gives indices
        ((engine.vocabulary.unrecognized tokens).map .omission) ∧
      engine.Attains tokens trace writable outcome ∧
      (∀ index, index ∈ indices ↔
        ∃ rule, engine.rules.rules[index]? = some rule ∧ trace.initial.Holds rule.inputs) ∧
      (∀ traced result, outcome traced = .substituted result →
        result.applications = trace.steps.length) ∧
      (indices = [] ↔ trace.steps = []) ∧
      (indices = [] → trace.final = trace.initial ∧
        (∀ traced, ∃ result, outcome traced = .substituted result ∧ result.passes = 0) ∧
        ∀ digits, Text.fits digits tokens.length = true → writable digits = true) ∧
      trace.steps.head?.map Step.ruleIndex = indices.head?.map Int.ofNat ∧
      ∀ more, ∃ others, (engine.matching (tokens ++ more)).Gives others
          ((engine.vocabulary.unrecognized (tokens ++ more)).map .omission) ∧
        indices.Sublist others := by
  have first := engine.head?_steps tokens
  refine ⟨engine.enabledIndices (engine.initial tokens), engine.traceOf tokens,
    engine.writable tokens, engine.outcome tokens, engine.matching_gives tokens,
    engine.attains tokens, ?_, ?_, ?_, ?_, first, ?_⟩
  · intro index
    have length := (engine.initial_counted tokens).length
    rw [mem_enabledIndices]
    exact exists_congr fun rule => and_congr_right fun here =>
      RuleSet.enabled_iff_holds (List.mem_of_getElem? here) length
  · intro traced result ended
    obtain ⟨-, rfl⟩ := substituted_eq_outcome.mp ended.symm
    rfl
  · have begins : (engine.steps tokens).head? = none ↔
        (engine.enabledIndices (engine.initial tokens)).head? = none := by
      rw [← Option.map_eq_none_iff, first, Option.map_eq_none_iff]
    rw [List.head?_eq_none_iff, List.head?_eq_none_iff] at begins
    exact begins.symm
  · intro none
    have settled := enabledIndices_eq_nil.mp none
    refine ⟨final_of_normal settled, fun traced => ⟨engine.result tokens traced, ?_, ?_⟩,
      fun digits => writable_of_normal settled⟩
    · rw [outcome, if_pos (settles_of_normal settled)]
    · exact congrArg Int.ofNat (passes_of_normal settled)
  · intro more
    refine ⟨_, engine.matching_gives (tokens ++ more), ?_⟩
    rw [initial_append]
    exact enabledIndices_sublist (engine.initial_counted tokens) (engine.initial_counted more)

end Engine

end MultisetSubstitution
