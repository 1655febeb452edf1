import MultisetSubstitution.Proofs.Amounts
import MultisetSubstitution.Proofs.Observation

/-! Runs over two vocabularies. Counts correspond if they are of the same multiset of names,
wherever each vocabulary has its slot for a name, and whatever other slots there are. Rules with the
same sides lead from corresponding counts to corresponding counts, so their runs correspond step by
step. -/

set_option autoImplicit false

namespace MultisetSubstitution

def Vocabulary.AgreeOn (first second : Vocabulary) (tokens : List String) : Prop :=
  ∀ token ∈ tokens, token ∈ first.names ↔ token ∈ second.names

/-- Counts over two vocabularies that are of the same multiset of names. -/
structure Vocabulary.SameMultiset (first second : Vocabulary) (counts other : Counts) : Prop where
  counted : first.Counted counts
  otherCounted : second.Counted other
  amount : ∀ name, first.amount counts name = second.amount other name

namespace Vocabulary.SameMultiset

variable {first second : Vocabulary} {counts other more otherMore : Counts}

theorem zeros (first second : Vocabulary) : first.SameMultiset second first.zeros second.zeros where
  counted := .zeros
  otherCounted := .zeros
  amount name := (first.zeros_amount name).trans (second.zeros_amount name).symm

theorem tally (same : first.SameMultiset second counts other) {tokens : List String}
    (agree : first.AgreeOn second (tokens.map Text.trim)) :
    first.SameMultiset second (first.tally counts tokens) (second.tally other tokens) where
  counted := same.counted.tally tokens
  otherCounted := same.otherCounted.tally tokens
  amount name := by
    rw [same.counted.amount_tally, same.otherCounted.amount_tally, same.amount]
    -- A name that does not occur adds nothing, whether it is in a vocabulary or not.
    by_cases occurs : name ∈ tokens.map Text.trim
    · simp only [agree name occurs]
    · simp [List.count_eq_zero.mpr occurs]

theorem isZero_eq (same : first.SameMultiset second counts other) :
    counts.isZero = other.isZero := by
  rw [Bool.eq_iff_iff, isZero_iff_amount same.counted.length,
    isZero_iff_amount same.otherCounted.length]
  simp only [same.amount]

theorem holds_iff (same : first.SameMultiset second counts other)
    (sameMore : first.SameMultiset second more otherMore) :
    counts.Holds more ↔ other.Holds otherMore := by
  rw [holds_iff_amount same.counted.length sameMore.counted.length,
    holds_iff_amount same.otherCounted.length sameMore.otherCounted.length]
  simp only [same.amount, sameMore.amount]

theorem eq_iff (same : first.SameMultiset second counts other)
    (sameMore : first.SameMultiset second more otherMore) :
    counts = more ↔ other = otherMore := by
  rw [eq_iff_amount same.counted.length sameMore.counted.length,
    eq_iff_amount same.otherCounted.length sameMore.otherCounted.length]
  simp only [same.amount, sameMore.amount]

theorem entries_perm (same : first.SameMultiset second counts other) :
    (first.entries counts).Perm (second.entries other) := by
  rw [List.perm_ext_iff_of_nodup (nodup_entries same.counted.length)
    (nodup_entries same.otherCounted.length)]
  rintro ⟨name, count⟩
  rw [mem_entries, mem_entries, same.amount]

end Vocabulary.SameMultiset

/-- Rules over two vocabularies with the same sides, read on the same line. -/
structure Rule.Alike (first second : Vocabulary) (rule other : Rule) : Prop where
  inputs : first.SameMultiset second rule.inputs other.inputs
  outputs : first.SameMultiset second rule.outputs other.outputs
  line : rule.line = other.line

/-- Rule sets of alike rules in the same order. -/
def RuleSet.Alike (set others : RuleSet) : Prop :=
  List.Forall₂ (Rule.Alike set.vocabulary others.vocabulary) set.rules others.rules

def Step.place (step : Step) : Int × Int := (step.pass, step.ruleIndex)

section

variable {first second : Vocabulary} {rule other : Rule} {rules others : List Rule}
  {counts otherCounts : Counts}

theorem Rule.Alike.enabled_eq (alike : Rule.Alike first second rule other)
    (same : first.SameMultiset second counts otherCounts) :
    rule.enabled counts = other.enabled otherCounts := by
  rw [Bool.eq_iff_iff, enabled_iff_holds alike.inputs.counted.length same.counted.length,
    enabled_iff_holds alike.inputs.otherCounted.length same.otherCounted.length]
  exact same.holds_iff alike.inputs

theorem Rule.Alike.fire (alike : Rule.Alike first second rule other)
    (same : first.SameMultiset second counts otherCounts) (enabled : rule.enabled counts = true) :
    first.SameMultiset second (rule.fire counts) (other.fire otherCounts) where
  counted := fire_counted alike.inputs.counted.length same.counted enabled
  otherCounted := fire_counted alike.inputs.otherCounted.length same.otherCounted
    (alike.enabled_eq same ▸ enabled)
  amount name := by
    rw [Rule.fire, Rule.fire,
      Vocabulary.amount_exchange same.counted.length alike.inputs.counted.length
        alike.outputs.counted.length,
      Vocabulary.amount_exchange same.otherCounted.length alike.inputs.otherCounted.length
        alike.outputs.otherCounted.length,
      same.amount, alike.inputs.amount, alike.outputs.amount]

theorem Rule.Alike.turn (alike : Rule.Alike first second rule other)
    (same : first.SameMultiset second counts otherCounts) :
    first.SameMultiset second (rule.turn counts) (other.turn otherCounts) := by
  rw [Rule.turn, Rule.turn, ← alike.enabled_eq same]
  split
  · rename_i enabled
    exact alike.fire same enabled
  · exact same

theorem sweepSteps_places (alike : List.Forall₂ (Rule.Alike first second) rules others)
    (same : first.SameMultiset second counts otherCounts) (pass index : Nat) :
    (sweepSteps pass index counts rules).map Step.place =
      (sweepSteps pass index otherCounts others).map Step.place := by
  induction alike generalizing index counts otherCounts with
  | nil => rfl
  | cons here alike ih =>
    rw [sweepSteps, sweepSteps, ← here.enabled_eq same]
    split
    · rename_i enabled
      rw [List.map_cons, List.map_cons, ih (here.fire same enabled)]
      rfl
    · exact ih same (index + 1)

theorem foldl_turn_same (alike : List.Forall₂ (Rule.Alike first second) rules others)
    (same : first.SameMultiset second counts otherCounts) :
    first.SameMultiset second (rules.foldl (fun counts rule => rule.turn counts) counts)
      (others.foldl (fun counts rule => rule.turn counts) otherCounts) := by
  induction alike generalizing counts otherCounts with
  | nil => exact same
  | cons here alike ih => exact ih (here.turn same)

end

namespace RuleSet.Alike

variable {set others : RuleSet} {counts other : Counts}

theorem pass (alike : set.Alike others)
    (same : set.vocabulary.SameMultiset others.vocabulary counts other) :
    set.vocabulary.SameMultiset others.vocabulary (set.pass counts) (others.pass other) :=
  foldl_turn_same alike same

theorem passSteps_places (alike : set.Alike others)
    (same : set.vocabulary.SameMultiset others.vocabulary counts other) (number : Nat) :
    (set.passSteps number counts).map Step.place =
      (others.passSteps number other).map Step.place :=
  sweepSteps_places alike same number 0

theorem normal_eq (alike : set.Alike others)
    (same : set.vocabulary.SameMultiset others.vocabulary counts other) :
    set.normal counts = others.normal other := by
  -- Counts are normal if a pass makes no steps, and this is seen at their places.
  have normal_iff : ∀ (set : RuleSet) (counts : Counts),
      set.normal counts = true ↔ (set.passSteps 0 counts).map Step.place = [] := by
    intro set counts
    rw [List.map_eq_nil_iff, passSteps_eq_nil]
  rw [Bool.eq_iff_iff, normal_iff, normal_iff, alike.passSteps_places same]

theorem map_line (alike : set.Alike others) :
    set.rules.map Rule.line = others.rules.map Rule.line := by
  have lines : ∀ {rules more : List Rule},
      List.Forall₂ (Rule.Alike set.vocabulary others.vocabulary) rules more →
        rules.map Rule.line = more.map Rule.line := by
    intro rules more alike
    induction alike with
    | nil => rfl
    | cons here alike ih => rw [List.map_cons, List.map_cons, here.line, ih]
  exact lines alike

theorem simulates (alike : set.Alike others) :
    set.Simulates others (set.vocabulary.SameMultiset others.vocabulary) :=
  ⟨alike.normal_eq, alike.pass⟩

theorem unrolled_places (alike : set.Alike others)
    (same : set.vocabulary.SameMultiset others.vocabulary counts other) (done most : Nat) :
    (set.unrolled done counts most).map Step.place =
      (others.unrolled done other most).map Step.place := by
  induction most generalizing done counts other with
  | zero => rfl
  | succ most ih =>
    rw [unrolled, unrolled, List.map_append, List.map_append, alike.passSteps_places same,
      ih (alike.pass same)]

end RuleSet.Alike

structure Substituted.Listed (vocabulary : Vocabulary) (result : Substituted) : Prop where
  listing : result.listing = result.counts.map Vocabulary.entryText
  ordered : (result.counts.map (·.1)).Sublist vocabulary.names

inductive Outcome.Corresponds (first second : Vocabulary) : Outcome → Outcome → Prop
  | substituted {result other : Substituted} (counts : result.counts.Perm other.counts)
      (listed : result.Listed first) (otherListed : other.Listed second)
      (passes : result.passes = other.passes)
      (applications : result.applications = other.applications) :
      Corresponds first second (.substituted result) (.substituted other)
  | failure {fault other : Failure} (reason : fault.reason = other.reason)
      (inputs : fault.inputs = other.inputs)
      (maxIterations : fault.maxIterations = other.maxIterations) :
      Corresponds first second (.failure fault) (.failure other)

def Trace.places (trace : Trace) : List (Int × Int) := trace.steps.map Step.place

namespace Engine

/-- What a run comes to, and the warnings that the tokens give. The outcome is returned, and told of
if it is a failure, where each number in it can be written. -/
def ComesTo (engine : Engine) (tokens : List String) (traced : Bool) (outcome : Outcome)
    (warnings : List Record) : Prop :=
  ∀ around : Surroundings, around.sink.Accepting → ∀ output,
    (engine.execute tokens traced).runWith around output =
      if outcome.Fits around.digits then
        (.ok outcome, around.sink.deliverAll (warnings ++ outcome.warnings) output)
      else (.error .longNumber, around.sink.deliverAll warnings output)

theorem comesTo_of_quiet {engine : Engine} (quiet : engine.verbose = false) (tokens : List String)
    (traced : Bool) :
    engine.ComesTo tokens traced (engine.outcome tokens traced)
      (tokens.filterMap engine.vocabulary.omission?) := by
  intro around accepting output
  have ran := engine.execute_accepting accepting around.digits tokens traced output
  rw [← warnings_of_quiet quiet] at ran
  by_cases fits : (engine.outcome tokens traced).Fits around.digits
  · have free := (stoppedBy?_of_quiet quiet traced).mpr fits
    rw [free, warnings_of_free free traced] at ran
    rw [if_pos fits]
    exact ran
  · have stopped := (stoppedBy?_of_quiet quiet traced).not.mpr fits
    rw [stoppedBy?_of_ne_none stopped, warnings_of_stopped stopped] at ran
    rw [if_neg fits]
    exact ran

theorem listed_result (engine : Engine) (tokens : List String) (traced : Bool) :
    (engine.result tokens traced).Listed engine.vocabulary where
  listing := rfl
  ordered := Vocabulary.entries_sublist (engine.final_counted tokens).length

/-- Engines of alike rules with the same limit, and tokens that are names for both or for none. -/
structure Alike (engine other : Engine) (tokens : List String) : Prop where
  rules : engine.rules.Alike other.rules
  limit : engine.maxIterations = other.maxIterations
  agree : engine.vocabulary.AgreeOn other.vocabulary (tokens.map Text.trim)

namespace Alike

variable {engine other : Engine} {tokens : List String}

theorem initial (alike : engine.Alike other tokens) :
    engine.vocabulary.SameMultiset other.vocabulary (engine.initial tokens)
      (other.initial tokens) :=
  (Vocabulary.SameMultiset.zeros _ _).tally alike.agree

theorem passes_eq (alike : engine.Alike other tokens) :
    engine.passes tokens = other.passes tokens := by
  rw [passes, passes, alike.limit]
  exact alike.rules.simulates.productive_eq alike.initial _

theorem settles_eq (alike : engine.Alike other tokens) :
    engine.settles tokens = other.settles tokens := by
  rw [settles, settles, alike.passes_eq, alike.limit]

theorem final (alike : engine.Alike other tokens) :
    engine.vocabulary.SameMultiset other.vocabulary (engine.final tokens)
      (other.final tokens) := by
  rw [Engine.final, Engine.final, alike.passes_eq]
  exact alike.rules.simulates.iterate_pass alike.initial _

theorem places_eq (alike : engine.Alike other tokens) :
    (engine.traceOf tokens).places = (other.traceOf tokens).places := by
  have places := alike.rules.unrolled_places alike.initial 0 (engine.passes tokens)
  rw [Trace.places, Trace.places, traceOf, traceOf, steps, steps, ← alike.passes_eq]
  exact places

theorem applications_eq (alike : engine.Alike other tokens) :
    (engine.steps tokens).length = (other.steps tokens).length := by
  have lengths := congrArg List.length alike.places_eq
  rwa [Trace.places, Trace.places, List.length_map, List.length_map] at lengths

theorem omissions_eq (alike : engine.Alike other tokens) :
    tokens.filterMap engine.vocabulary.omission? = tokens.filterMap other.vocabulary.omission? := by
  apply List.filterMap_congr
  intro token member
  have agree := alike.agree _ (List.mem_map_of_mem member)
  simp only [Vocabulary.omission?_eq_ite, agree]

theorem outcome_corresponds (alike : engine.Alike other tokens) (traced : Bool) :
    (engine.outcome tokens traced).Corresponds engine.vocabulary other.vocabulary
      (other.outcome tokens traced) := by
  rw [outcome, outcome, ← alike.settles_eq]
  split
  · exact .substituted alike.final.entries_perm (engine.listed_result tokens traced)
      (other.listed_result tokens traced) (congrArg Nat.cast alike.passes_eq)
      (congrArg Nat.cast alike.applications_eq)
  · exact .failure (by rw [stop, stop, alike.limit]) rfl alike.limit

end Alike

end Engine

end MultisetSubstitution
