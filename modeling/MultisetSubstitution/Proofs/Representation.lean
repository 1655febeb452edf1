import MultisetSubstitution.Proofs.Amounts
import MultisetSubstitution.Proofs.Transcript

/-! The counts that a run goes through. They have one slot an attribute and nothing below zero, so
no slot is passed over when a rule is tried or fired, and none is without a name when counts are
listed. What is left to keep a run from its outcome is a sink that takes no records, or a limit on
digits. -/

set_option autoImplicit false

namespace MultisetSubstitution

theorem Trace.fits_none (trace : Trace) : trace.Fits none :=
  fun _ _ number _ => Text.fits_none number

structure Substituted.Lists (result : Substituted) (vocabulary : Vocabulary) (final : Counts)
    (ids : List Nat) : Prop where
  increasing : ids.Pairwise (· < ·)
  present : ∀ id, id ∈ ids ↔ final.slot id ≠ 0
  counts : List.Forall₂ (fun id entry => vocabulary.names[id]? = some entry.1 ∧
    final[id]? = some entry.2) ids result.counts
  distinct : (result.counts.map (·.1)).Nodup
  listing : result.listing = result.counts.map Vocabulary.entryText

namespace Vocabulary

variable {vocabulary : Vocabulary} {counts : Counts}

def numberedEntries (vocabulary : Vocabulary) (counts : Counts) : List ((String × Int) × Nat) :=
  (vocabulary.names.zip counts).zipIdx.filter (0 < ·.1.2)

theorem map_numberedEntries (vocabulary : Vocabulary) (counts : Counts) :
    (vocabulary.numberedEntries counts).map (·.1) = vocabulary.entries counts := by
  have unnumbered := congrArg (List.filter (0 < ·.2))
    (List.zipIdx_map_fst 0 (vocabulary.names.zip counts))
  rw [List.filter_map] at unnumbered
  exact unnumbered

theorem mem_numberedEntries {entry : String × Int} {id : Nat} :
    (entry, id) ∈ vocabulary.numberedEntries counts ↔
      (vocabulary.names[id]? = some entry.1 ∧ counts[id]? = some entry.2) ∧ 0 < entry.2 := by
  rw [numberedEntries, List.mem_filter, List.mem_zipIdx_iff_getElem?, List.getElem?_zip_eq_some,
    decide_eq_true_eq]

def listedIds (vocabulary : Vocabulary) (counts : Counts) : List Nat :=
  (vocabulary.numberedEntries counts).map (·.2)

theorem listedIds_increasing (vocabulary : Vocabulary) (counts : Counts) :
    (vocabulary.listedIds counts).Pairwise (· < ·) := by
  have all : ((vocabulary.names.zip counts).zipIdx.map (·.2)).Pairwise (· < ·) := by
    rw [List.zipIdx_map_snd]
    exact List.pairwise_lt_range'
  exact all.sublist (List.filter_sublist.map _)

/-- What is counted at all is listed, since no count is below zero and each has a name. -/
theorem Counted.mem_listedIds (counted : vocabulary.Counted counts) {id : Nat} :
    id ∈ vocabulary.listedIds counts ↔ counts.slot id ≠ 0 := by
  rw [listedIds, List.mem_map]
  constructor
  · rintro ⟨⟨entry, _⟩, member, rfl⟩
    obtain ⟨⟨-, here⟩, positive⟩ := mem_numberedEntries.mp member
    rw [Counts.slot, here, Option.getD_some]
    exact Int.ne_of_gt positive
  · intro present
    have inside : id < counts.length := by
      by_contra outside
      exact present (Counts.slot_of_le (Nat.le_of_not_lt outside))
    have named : id < vocabulary.names.length := Nat.lt_of_lt_of_eq inside counted.length
    have positive : 0 < counts[id] := by
      have nonnegative := counted.nonnegative _ (List.getElem_mem inside)
      rw [Counts.slot_of_lt inside] at present
      omega
    exact ⟨((vocabulary.names[id], counts[id]), id), mem_numberedEntries.mpr
      ⟨⟨List.getElem?_eq_getElem named, List.getElem?_eq_getElem inside⟩, positive⟩, rfl⟩

end Vocabulary

/-- The counts of a multiset, as an engine takes them: every slot has a name, is compared when a
rule is tried and is changed when it is fired. -/
structure Engine.Represents (engine : Engine) (counts : Counts) : Prop where
  counted : engine.vocabulary.Counted counts
  named : engine.vocabulary.checkedListing counts none = .ok (engine.vocabulary.listing counts)
  tried : ∀ rule ∈ engine.rules.rules, rule.inputs.length = counts.length ∧
    (rule.enabled counts = true ↔ counts.Holds rule.inputs)
  fired : ∀ rule ∈ engine.rules.rules, rule.outputs.length = counts.length ∧
    rule.fire counts = counts.rewritten rule.inputs rule.outputs

/-- What a run comes to before every sink that takes records. Under a limit on digits that lets the
run write its numbers this is an outcome, which shows the trace if that is asked for. A limit that
all numbers in the trace and in the outcome keep to is such a one. -/
structure Engine.Attains (engine : Engine) (tokens : List String) (trace : Trace)
    (writable : Option Nat → Bool) (outcome : Bool → Outcome) : Prop where
  fits : ∀ digits, trace.Fits digits → (outcome true).Fits digits → writable digits = true
  shown : ∀ traced, (outcome traced).trace? = if traced then some trace else none
  returns : ∀ traced (around : Surroundings), around.sink.Accepting → ∀ output,
    engine.outcomeIn tokens traced around output =
      if writable around.digits then .ok (outcome traced) else .error .longNumber

namespace Engine

variable {engine : Engine} {tokens : List String}

def writable (engine : Engine) (tokens : List String) (digits : Option Nat) : Bool :=
  (engine.stoppedBy? digits tokens).isNone

theorem attains (engine : Engine) (tokens : List String) :
    engine.Attains tokens (engine.traceOf tokens) (engine.writable tokens)
      (engine.outcome tokens) where
  fits digits fits ended := Option.isNone_iff_eq_none.mpr (engine.not_stopped_of_fits fits ended)
  shown := engine.outcome_trace? tokens
  returns traced around accepting output := by
    have ran := congrArg Prod.fst (engine.execute_accepting accepting around.digits tokens traced
      output)
    rw [outcomeIn]
    refine ran.trans ?_
    by_cases free : engine.stoppedBy? around.digits tokens = none
    · simp [writable, free]
    · simp [writable, stoppedBy?_of_ne_none free]

theorem Attains.eq_of_returned {trace : Trace} {writable : Option Nat → Bool}
    {outcome : Bool → Outcome} {traced : Bool} {around : Surroundings} {output : Output}
    {ended : Outcome} (run : engine.Attains tokens trace writable outcome)
    (accepting : around.sink.Accepting)
    (returned : engine.outcomeIn tokens traced around output = .ok ended) :
    writable around.digits = true ∧ outcome traced = ended := by
  rw [run.returns traced around accepting output] at returned
  split at returned
  · rename_i free
    exact ⟨free, Except.ok.inj returned⟩
  · exact nomatch returned

theorem represents_of_counted {counts : Counts} (counted : engine.vocabulary.Counted counts) :
    engine.Represents counts where
  counted := counted
  named := Vocabulary.checkedListing_eq_ok (Nat.le_of_eq counted.length)
  tried _ member :=
    ⟨(RuleSet.inputs_length member).trans counted.length.symm,
      RuleSet.enabled_iff_holds member counted.length⟩
  fired _ member :=
    ⟨(RuleSet.outputs_length member).trans counted.length.symm,
      RuleSet.fire_eq_rewritten member counted.length⟩

theorem vectors_counted {counts : Counts} (member : counts ∈ (engine.traceOf tokens).vectors) :
    engine.vocabulary.Counted counts := by
  rcases Trace.mem_vectors.mp member with rfl | rfl | ⟨step, inSteps, rfl | rfl⟩
  · exact engine.initial_counted tokens
  · exact engine.final_counted tokens
  · exact (engine.steps_counted tokens inSteps).1
  · exact (engine.steps_counted tokens inSteps).2

theorem result_lists (engine : Engine) (tokens : List String) (traced : Bool) :
    (engine.result tokens traced).Lists engine.vocabulary (engine.final tokens)
      (engine.vocabulary.listedIds (engine.final tokens)) where
  increasing := engine.vocabulary.listedIds_increasing _
  present _ := (engine.final_counted tokens).mem_listedIds
  counts := by
    have entries : (engine.result tokens traced).counts =
        (engine.vocabulary.numberedEntries (engine.final tokens)).map (·.1) :=
      (engine.vocabulary.map_numberedEntries _).symm
    rw [entries, Vocabulary.listedIds, List.forall₂_map_left_iff, List.forall₂_map_right_iff,
      List.forall₂_same]
    exact fun _ member => (Vocabulary.mem_numberedEntries.mp member).1
  distinct := (Vocabulary.entries_sublist (engine.final_counted tokens).length).nodup
    engine.vocabulary.distinct
  listing := rfl

theorem checkedDescription_eq_ok {rule : Rule} (member : rule ∈ engine.rules.rules) :
    rule.checkedDescription engine.vocabulary none = .ok (rule.description engine.vocabulary) := by
  have inputs := Vocabulary.checkedListing_eq_ok (Nat.le_of_eq (RuleSet.inputs_length member))
  have outputs := Vocabulary.checkedListing_eq_ok (Nat.le_of_eq (RuleSet.outputs_length member))
  rw [Rule.checkedDescription, vocabulary, Vocabulary.checkedText, Vocabulary.checkedText, inputs,
    outputs]
  rfl

theorem ofTables_tables {vocabulary own : Vocabulary} {rules : List Rule} {set : RuleSet}
    {verbose : Bool} {limit : Int} (accepted : RuleSet.ofRules own rules = .ok set)
    (made : ofTables vocabulary set verbose limit = .ok engine) :
    engine.vocabulary = vocabulary ∧ engine.rules.rules = rules := by
  have sameRules : set.rules = rules := by
    rw [RuleSet.ofRules] at accepted
    split at accepted
    · exact nomatch accepted
    · cases accepted
      rfl
  rw [ofTables] at made
  split at made
  · exact nomatch made
  · rename_i same
    split at made
    · exact nomatch made
    · cases made
      exact ⟨not_not.mp same, sameRules⟩

/-- All counts that a run goes through are those of multisets over its vocabulary. No slot is passed
over when they are compared with rules or changed by them, and no name is missing when they or the
rules are written. Under a sink that takes records, and if numbers of any length can be written, the
run comes to its outcome, and what it lists is just what is left in the end. -/
theorem execute_represents (engine : Engine) (tokens : List String) :
    (∀ (vocabulary own : Vocabulary) (rules : List Rule) (set : RuleSet) (verbose : Bool)
      (limit : Int), RuleSet.ofRules own rules = .ok set →
      ofTables vocabulary set verbose limit = .ok engine →
      engine.vocabulary = vocabulary ∧ engine.rules.rules = rules) ∧
    (∀ rule ∈ engine.rules.rules, rule.checkedDescription engine.vocabulary none =
      .ok (rule.description engine.vocabulary)) ∧
    ∃ (trace : Trace) (outcome : Bool → Outcome),
      (∀ counts ∈ trace.vectors, engine.Represents counts) ∧
      (∀ traced (sink : Sink), sink.Accepting → ∀ output,
        engine.outcomeIn tokens traced ⟨sink, none⟩ output = .ok (outcome traced)) ∧
      (∀ traced, (outcome traced).trace? = if traced then some trace else none) ∧
      ∀ traced result, outcome traced = .substituted result →
        ∃ ids, result.Lists engine.vocabulary trace.final ids := by
  have run := engine.attains tokens
  refine ⟨fun _ _ _ _ _ _ => ofTables_tables, fun _ => checkedDescription_eq_ok,
    engine.traceOf tokens, engine.outcome tokens, ?_, ?_, run.shown, ?_⟩
  · exact fun counts member => represents_of_counted (vectors_counted member)
  · intro traced sink accepting output
    have free := run.fits none (Trace.fits_none _) (Outcome.fits_none _)
    rw [run.returns traced ⟨sink, none⟩ accepting output, if_pos free]
  · intro traced result ended
    obtain ⟨-, rfl⟩ := substituted_eq_outcome.mp ended.symm
    exact ⟨_, engine.result_lists tokens traced⟩

end Engine

end MultisetSubstitution
