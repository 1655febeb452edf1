import MultisetSubstitution.Proofs.Grammar
import MultisetSubstitution.Proofs.Observation
import MultisetSubstitution.Proofs.Representation

/-! What a run sees of its tokens. Those that are no names are reported and left out, and of the
others only the multiset matters. Further tokens add to the counts slot by slot, and runs on tokens
among which every name is as often come to the same. -/

set_option autoImplicit false

namespace MultisetSubstitution

namespace Counts

def plus (counts other : Counts) : Counts := List.zipWith (· + ·) counts other

variable {counts other : Counts}

theorem length_plus (sameLength : counts.length = other.length) :
    (counts.plus other).length = counts.length := by
  rw [plus, List.length_zipWith, ← sameLength, Nat.min_self]

theorem slot_plus (sameLength : counts.length = other.length) (id : Nat) :
    (counts.plus other).slot id = counts.slot id + other.slot id := by
  have length := length_plus sameLength
  by_cases inside : id < counts.length
  · rw [slot_of_lt (length ▸ inside), slot_of_lt inside, slot_of_lt (sameLength ▸ inside)]
    exact List.getElem_zipWith
  · rw [slot_of_le (by omega), slot_of_le (by omega), slot_of_le (by omega)]
    rfl

end Counts

def Record.omission (token : String) : Record :=
  ⟨.warn, "Omitting unrecognized attribute `" ++ token ++ "`."⟩

inductive Outcome.AlikeButInputs : Outcome → Outcome → Prop
  | substituted (result : Substituted) :
      AlikeButInputs (.substituted result) (.substituted result)
  | failure {fault other : Failure} (maxIterations : fault.maxIterations = other.maxIterations)
      (trace : fault.trace = other.trace) : AlikeButInputs (.failure fault) (.failure other)

namespace Vocabulary

def unrecognized (vocabulary : Vocabulary) (tokens : List String) : List String :=
  (tokens.map Text.trim).filter (· ∉ vocabulary.names)

theorem occurrences_append (vocabulary : Vocabulary) (tokens others : List String) :
    vocabulary.occurrences (tokens ++ others) =
      (vocabulary.occurrences tokens).plus (vocabulary.occurrences others) := by
  simp [occurrences, Counts.plus, List.zipWith_map, List.zipWith_self]

theorem unrecognized_append (vocabulary : Vocabulary) (tokens others : List String) :
    vocabulary.unrecognized (tokens ++ others) =
      vocabulary.unrecognized tokens ++ vocabulary.unrecognized others := by
  rw [unrecognized, List.map_append, List.filter_append, unrecognized, unrecognized]

theorem filterMap_omission? (vocabulary : Vocabulary) (tokens : List String) :
    tokens.filterMap vocabulary.omission? = (vocabulary.unrecognized tokens).map .omission := by
  induction tokens with
  | nil => rfl
  | cons token rest ih =>
    rw [unrecognized, List.map_cons]
    by_cases named : Text.trim token ∈ vocabulary.names
    · rw [List.filterMap_cons_none (by rw [omission?_eq_ite, if_pos named]), ih,
        List.filter_cons_of_neg (by simpa using named), unrecognized]
    · rw [List.filterMap_cons_some (by rw [omission?_eq_ite, if_neg named]), ih,
        List.filter_cons_of_pos (by simpa using named), List.map_cons, unrecognized,
        Record.omission]

end Vocabulary

namespace Engine

variable {engine : Engine} {tokens others : List String}

theorem initial_eq_occurrences (engine : Engine) (tokens : List String) :
    engine.initial tokens = engine.vocabulary.occurrences (tokens.map Text.trim) :=
  engine.vocabulary.tally_zeros_eq tokens

theorem initial_append (engine : Engine) (tokens others : List String) :
    engine.initial (tokens ++ others) = (engine.initial tokens).plus (engine.initial others) := by
  rw [initial_eq_occurrences, List.map_append, Vocabulary.occurrences_append,
    ← initial_eq_occurrences, ← initial_eq_occurrences]

theorem count_gives (engine : Engine) (tokens : List String) :
    (engine.count tokens).Gives (engine.vocabulary.occurrences (tokens.map Text.trim))
      ((engine.vocabulary.unrecognized tokens).map .omission) := by
  intro around accepting output
  rw [← initial_eq_occurrences, ← Vocabulary.filterMap_omission?]
  exact count_returns accepting engine tokens output

theorem initial_eq_of_counts (sameNames : ∀ name ∈ engine.vocabulary.names,
      (tokens.map Text.trim).count name = (others.map Text.trim).count name) :
    engine.initial tokens = engine.initial others := by
  rw [initial_eq_occurrences, initial_eq_occurrences]
  exact List.map_congr_left fun name member => congrArg Int.ofNat (sameNames name member)

section

variable (same : engine.initial tokens = engine.initial others)
include same

theorem passes_eq_of_initial : engine.passes tokens = engine.passes others := by
  rw [passes, passes, same]

theorem settles_eq_of_initial : engine.settles tokens = engine.settles others := by
  rw [settles, settles, passes_eq_of_initial same]

theorem traceOf_eq_of_initial : engine.traceOf tokens = engine.traceOf others := by
  rw [traceOf, traceOf, final, final, steps, steps, passes_eq_of_initial same, same]

theorem writable_eq_of_initial : engine.writable tokens = engine.writable others := by
  have final : engine.final tokens = engine.final others :=
    congrArg Trace.final (traceOf_eq_of_initial same)
  funext digits
  rw [writable, writable, Bool.eq_iff_iff, Option.isNone_iff_eq_none, Option.isNone_iff_eq_none,
    stoppedBy?_eq_none_iff, stoppedBy?_eq_none_iff, traceOf_eq_of_initial same, Outcome.Fits,
    Outcome.Fits, outcome_numbers, outcome_numbers, settles_eq_of_initial same, final]

theorem outcome_alike_of_initial (traced : Bool) :
    (engine.outcome tokens traced).AlikeButInputs (engine.outcome others traced) := by
  have trace := traceOf_eq_of_initial same
  rw [outcome, outcome, settles_eq_of_initial same]
  split
  · have results : engine.result tokens traced = engine.result others traced := by
      rw [result, result, trace, passes_eq_of_initial same,
        show engine.final tokens = engine.final others from congrArg Trace.final trace,
        show engine.steps tokens = engine.steps others from congrArg Trace.steps trace]
    rw [results]
    exact .substituted _
  · refine .failure rfl ?_
    rw [stop, stop, trace]

end

/-- The counts of tokens are how often each name is among them, trimmed, and each token that is no
name is reported once. Of tokens followed by others both counts are added, slot by slot. If
every name of the vocabulary is as often among some tokens as among others, then runs on both are
written under the same limits on digits, and come to the same outcomes with the same trace. -/
theorem execute_by_multiset (engine : Engine) (tokens others : List String) :
    ((engine.count tokens).Gives (engine.vocabulary.occurrences (tokens.map Text.trim))
        ((engine.vocabulary.unrecognized tokens).map .omission) ∧
      (engine.count others).Gives (engine.vocabulary.occurrences (others.map Text.trim))
        ((engine.vocabulary.unrecognized others).map .omission) ∧
      (engine.count (tokens ++ others)).Gives
        ((engine.vocabulary.occurrences (tokens.map Text.trim)).plus
          (engine.vocabulary.occurrences (others.map Text.trim)))
        ((engine.vocabulary.unrecognized tokens).map .omission ++
          (engine.vocabulary.unrecognized others).map .omission)) ∧
    ((∀ name ∈ engine.vocabulary.names,
        (tokens.map Text.trim).count name = (others.map Text.trim).count name) →
      ∃ trace writable outcome other,
        engine.Attains tokens trace writable outcome ∧
        engine.Attains others trace writable other ∧
        ∀ traced, (outcome traced).AlikeButInputs (other traced)) := by
  constructor
  · have all := engine.count_gives (tokens ++ others)
    rw [List.map_append, Vocabulary.occurrences_append, Vocabulary.unrecognized_append,
      List.map_append] at all
    exact ⟨engine.count_gives tokens, engine.count_gives others, all⟩
  · intro sameNames
    have same := initial_eq_of_counts sameNames
    have attained := engine.attains others
    rw [← traceOf_eq_of_initial same, ← writable_eq_of_initial same] at attained
    exact ⟨_, _, _, _, engine.attains tokens, attained, outcome_alike_of_initial same⟩

/-- Blanks, the order of tokens and those that are no names make no difference. -/
theorem execute_by_multiset_aging :
    (∀ name ∈ aging.vocabulary.names,
      (["young", " young", "lava"].map Text.trim).count name =
        (["mud", "young\t", "young"].map Text.trim).count name) ∧
    ∃ result,
      aging.outcomeIn ["young", " young", "lava"] true ⟨.collecting, some 4300⟩ {} =
        .ok (.substituted result) ∧
      aging.outcomeIn ["mud", "young\t", "young"] true ⟨.collecting, some 4300⟩ {} =
        .ok (.substituted result) ∧
      result.listing = ["old:2"] := by
  have sameNames : ∀ name ∈ aging.vocabulary.names,
      (["young", " young", "lava"].map Text.trim).count name =
        (["mud", "young\t", "young"].map Text.trim).count name := by
    decide +kernel
  have returned : aging.outcomeIn ["young", " young", "lava"] true ⟨.collecting, some 4300⟩ {} =
      .ok (.substituted (aging.result ["young", " young", "lava"] true)) := rfl
  obtain ⟨trace, writable, outcome, other, run, otherRun, alike⟩ :=
    (execute_by_multiset aging ["young", " young", "lava"] ["mud", "young\t", "young"]).2 sameNames
  obtain ⟨free, ended⟩ := run.eq_of_returned Sink.accepting_collecting returned
  have otherReturned := otherRun.returns true ⟨.collecting, some 4300⟩ Sink.accepting_collecting {}
  have both := alike true
  rw [if_pos free] at otherReturned
  rw [ended] at both
  generalize other true = another at both otherReturned
  cases both with
  | substituted => exact ⟨sameNames, _, returned, otherReturned, rfl⟩

end Engine

end MultisetSubstitution
