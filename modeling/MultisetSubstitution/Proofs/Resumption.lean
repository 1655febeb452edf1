import MultisetSubstitution.Proofs.Observation
import MultisetSubstitution.Proofs.Representation

/-! Runs that are resumed. From one pass to the next nothing is kept but the counts, and these are
counted again from their attributes. So a run on what a settled run has come to after some passes
makes the passes that are left, and comes to the same end. -/

set_option autoImplicit false

namespace MultisetSubstitution

namespace Trace

def countsAfter (trace : Trace) (pass : Int) : Counts :=
  lastCounts trace.initial (trace.steps.filter (·.pass ≤ pass))

/-- What is left of a trace after a pass, as the trace of a run of its own. -/
def remainder (trace : Trace) (pass : Int) : Trace where
  vocabulary := trace.vocabulary
  initial := trace.countsAfter pass
  final := trace.final
  steps := (trace.steps.filter (pass < ·.pass)).map (Step.rebased pass)

variable {trace : Trace} {pass : Int}

theorem countsAfter_mem_vectors : trace.countsAfter pass ∈ trace.vectors := by
  rw [mem_vectors]
  obtain same | ⟨step, member, same⟩ :=
    lastCounts_mem trace.initial (trace.steps.filter (·.pass ≤ pass))
  · exact .inl same
  · exact .inr (.inr ⟨step, List.mem_of_mem_filter member, .inr same⟩)

theorem vectors_remainder_subset : (trace.remainder pass).vectors ⊆ trace.vectors := by
  intro counts member
  rcases mem_vectors.mp member with rfl | rfl | ⟨step, inRest, place⟩
  · exact countsAfter_mem_vectors
  · exact mem_vectors.mpr (.inr (.inl rfl))
  · obtain ⟨original, inSteps, rfl⟩ := List.mem_map.mp inRest
    exact mem_vectors.mpr (.inr (.inr ⟨original, List.mem_of_mem_filter inSteps, place⟩))

theorem length_steps_eq (trace : Trace) (pass : Int) :
    trace.steps.length =
      (trace.steps.filter (·.pass ≤ pass)).length + (trace.remainder pass).steps.length := by
  have others : trace.steps.filter (fun step => !decide (step.pass ≤ pass)) =
      trace.steps.filter (pass < ·.pass) := by
    simp only [← decide_not, Int.not_le]
  rw [remainder, List.length_map, ← others]
  exact List.length_eq_length_filter_add _

theorem Fits.remainder {digits : Option Nat} (fits : trace.Fits digits) (pass : Int) :
    (trace.remainder pass).Fits digits :=
  fun counts member => fits counts (vectors_remainder_subset member)

end Trace

namespace RuleSet

variable {set : RuleSet} {counts : Counts} {done most : Nat}

theorem map_rebased_unrolled (set : RuleSet) (done more : Nat) (counts : Counts) (most : Nat) :
    (set.unrolled (done + more) counts most).map (Step.rebased more) =
      set.unrolled done counts most := by
  induction most generalizing done counts with
  | zero => rfl
  | succ most ih =>
    rw [unrolled, unrolled, List.map_append, Nat.add_right_comm, ih, passSteps, passSteps,
      map_rebased_sweepSteps]

theorem productive_iterate_pass {index : Nat} (within : index ≤ set.productive counts most) :
    set.productive (set.pass^[index] counts) (most - index) =
      set.productive counts most - index := by
  induction index generalizing counts most with
  | zero => rfl
  | succ index ih =>
    cases most with
    | zero => exact absurd within (Nat.not_succ_le_zero index)
    | succ most =>
      rw [productive] at within ⊢
      split at within
      · exact absurd within (Nat.not_succ_le_zero index)
      · rename_i unsettled
        rw [if_neg unsettled, Function.iterate_succ_apply, Nat.add_sub_add_right,
          Nat.add_sub_add_right]
        exact ih (Nat.le_of_succ_le_succ within)

end RuleSet

namespace Engine

variable {engine : Engine} {tokens : List String} {pass : Nat}

def tokensAfter (engine : Engine) (tokens : List String) (pass : Nat) : List String :=
  engine.vocabulary.attributes (engine.rules.pass^[pass] (engine.initial tokens))

theorem initial_tokensAfter (engine : Engine) (tokens : List String) (pass : Nat) :
    engine.initial (engine.tokensAfter tokens pass) =
      engine.rules.pass^[pass] (engine.initial tokens) :=
  Vocabulary.tally_attributes (RuleSet.iterate_pass_counted (engine.initial_counted tokens) pass)

theorem countsAfter_traceOf (within : pass ≤ engine.passes tokens) :
    (engine.traceOf tokens).countsAfter pass =
      engine.rules.pass^[pass] (engine.initial tokens) := by
  obtain ⟨more, all⟩ := Nat.exists_eq_add_of_le within
  have first := engine.rules.filter_unrolled_upto 0 (engine.initial tokens) pass more
  rw [Nat.zero_add, ← all] at first
  rw [Trace.countsAfter, traceOf, steps, first, RuleSet.lastCounts_unrolled]

theorem passes_tokensAfter (settled : engine.settles tokens = true)
    (within : pass ≤ engine.passes tokens) :
    engine.passes (engine.tokensAfter tokens pass) = engine.passes tokens - pass := by
  have atMost := settles_iff.mp settled
  have fewer := RuleSet.productive_iterate_pass within
  -- The limit was enough for all passes, so it cuts none of those that are left.
  rw [passes, initial_tokensAfter, RuleSet.productive_eq_min (.inl ?_), fewer, ← passes]
  · omega
  · rw [fewer, ← passes]
    omega

theorem settles_tokensAfter (settled : engine.settles tokens = true)
    (within : pass ≤ engine.passes tokens) :
    engine.settles (engine.tokensAfter tokens pass) = true := by
  rw [settles_iff, passes_tokensAfter settled within]
  exact Nat.le_trans (Nat.sub_le _ _) (settles_iff.mp settled)

theorem traceOf_tokensAfter (settled : engine.settles tokens = true)
    (within : pass ≤ engine.passes tokens) :
    engine.traceOf (engine.tokensAfter tokens pass) = (engine.traceOf tokens).remainder pass := by
  obtain ⟨more, all⟩ := Nat.exists_eq_add_of_le within
  have left : engine.passes tokens - pass = more := by omega
  have final : engine.final (engine.tokensAfter tokens pass) = engine.final tokens := by
    rw [Engine.final, Engine.final, passes_tokensAfter settled within, initial_tokensAfter, left,
      ← Function.iterate_add_apply, all, Nat.add_comm]
  have steps : engine.steps (engine.tokensAfter tokens pass) =
      ((engine.steps tokens).filter ((pass : Int) < ·.pass)).map (Step.rebased pass) := by
    have later := engine.rules.filter_unrolled_after 0 (engine.initial tokens) pass more
    rw [Nat.zero_add] at later
    rw [Engine.steps, Engine.steps, passes_tokensAfter settled within, initial_tokensAfter, left,
      all, later, ← engine.rules.map_rebased_unrolled 0 pass, Nat.zero_add]
  rw [traceOf, Trace.remainder, countsAfter_traceOf within, initial_tokensAfter, final, steps]
  rfl

theorem stoppedBy?_tokensAfter {digits : Option Nat} (settled : engine.settles tokens = true)
    (within : pass ≤ engine.passes tokens) (free : engine.stoppedBy? digits tokens = none) :
    engine.stoppedBy? digits (engine.tokensAfter tokens pass) = none := by
  have same := traceOf_tokensAfter settled within
  have final : engine.final (engine.tokensAfter tokens pass) = engine.final tokens :=
    congrArg Trace.final same
  have settledAfter := settles_tokensAfter settled within
  obtain ⟨fits, listed⟩ := stoppedBy?_eq_none_iff.mp free
  rw [Outcome.Fits, outcome_numbers, if_pos settled] at listed
  rw [stoppedBy?_eq_none_iff, same, Outcome.Fits, outcome_numbers, if_pos settledAfter, final]
  exact ⟨fun verbose => (fits verbose).remainder pass, listed⟩

theorem outcomeIn_eq_ok_iff {around : Surroundings} (accepting : around.sink.Accepting)
    {traced : Bool} {output : Output} {outcome : Outcome} :
    engine.outcomeIn tokens traced around output = .ok outcome ↔
      outcome = engine.outcome tokens traced ∧ engine.stoppedBy? around.digits tokens = none := by
  rw [(engine.attains tokens).returns traced around accepting output, writable,
    ← Option.isNone_iff_eq_none]
  cases (engine.stoppedBy? around.digits tokens).isNone <;> simp [eq_comm]

/-- A run that settles can be resumed after each of its passes. On the attributes of what it has
come to by then the same engine settles on the same listing and counts. It makes the passes and the
applications that are left, and its trace is what is left of the trace. -/
theorem execute_resumes (engine : Engine) (tokens : List String) (traced : Bool)
    (around : Surroundings) (accepting : around.sink.Accepting) (output : Output)
    (result : Substituted)
    (returned : engine.outcomeIn tokens traced around output = .ok (.substituted result)) :
    ∃ trace, engine.outcomeIn tokens true around output =
        .ok (.substituted { result with trace := some trace }) ∧
      ∀ pass : Nat, pass ≤ result.passes → ∀ retraced other, ∃ again,
        engine.outcomeIn (engine.vocabulary.attributes (trace.countsAfter pass)) retraced around
          other = .ok (.substituted again) ∧
        again.listing = result.listing ∧ again.counts = result.counts ∧
        again.passes = result.passes - pass ∧
        again.applications =
          result.applications - (trace.steps.filter (·.pass ≤ (pass : Int))).length ∧
        again.trace = if retraced then some (trace.remainder pass) else none := by
  obtain ⟨ended, free⟩ := (outcomeIn_eq_ok_iff accepting).mp returned
  obtain ⟨settled, rfl⟩ := substituted_eq_outcome.mp ended
  refine ⟨engine.traceOf tokens, (outcomeIn_eq_ok_iff accepting).mpr ⟨?_, free⟩, ?_⟩
  · rw [outcome, if_pos settled]
    rfl
  · intro pass atMost retraced other
    have within : pass ≤ engine.passes tokens := Int.ofNat_le.mp atMost
    have passes := passes_tokensAfter settled within
    have trace := traceOf_tokensAfter settled within
    have final : engine.final (engine.tokensAfter tokens pass) = engine.final tokens :=
      congrArg Trace.final trace
    rw [countsAfter_traceOf within, ← tokensAfter]
    refine ⟨engine.result (engine.tokensAfter tokens pass) retraced,
      (outcomeIn_eq_ok_iff accepting).mpr ⟨?_, stoppedBy?_tokensAfter settled within free⟩, ?_, ?_,
      ?_, ?_, ?_⟩
    · rw [outcome, if_pos (settles_tokensAfter settled within)]
    · simp only [Engine.result, final]
    · simp only [Engine.result, final]
    · simp only [Engine.result, passes]
      omega
    · have all := (engine.traceOf tokens).length_steps_eq pass
      rw [← trace] at all
      change ((engine.steps (engine.tokensAfter tokens pass)).length : Int) =
        (engine.steps tokens).length - _
      change (engine.steps tokens).length = _ +
        (engine.steps (engine.tokensAfter tokens pass)).length at all
      omega
    · simp only [Engine.result, trace]

/-- One of three young gets old in each pass, so after the first one a run on what there is then
makes the other two. -/
theorem execute_resumes_aging :
    Sink.collecting.Accepting ∧ ∃ result,
      aging.outcomeIn ["young", " young", "lava", "young"] false ⟨.collecting, some 4300⟩ {} =
        .ok (.substituted result) ∧ result.passes = 3 ∧
      ∃ (trace : Trace) (again : Substituted),
        aging.vocabulary.attributes (trace.countsAfter 1) = ["young", "young", "old"] ∧
        aging.outcomeIn ["young", "young", "old"] true ⟨.collecting, some 4300⟩ {} =
          .ok (.substituted again) ∧
        again.listing = result.listing ∧ again.passes = 2 ∧
        again.trace = some (trace.remainder 1) := by
  have accepting : Sink.collecting.Accepting := by decide
  have returned : aging.outcomeIn ["young", " young", "lava", "young"] false
      ⟨.collecting, some 4300⟩ {} =
        .ok (.substituted (aging.result ["young", " young", "lava", "young"] false)) := rfl
  obtain ⟨trace, shown, resumes⟩ := execute_resumes aging _ false ⟨.collecting, some 4300⟩
    accepting {} _ returned
  obtain ⟨again, resumed, listing, -, passes, -, rest⟩ := resumes 1 (by decide) true {}
  have known : trace = aging.traceOf ["young", " young", "lava", "young"] := by
    obtain ⟨ended, -⟩ := (outcomeIn_eq_ok_iff accepting).mp shown
    obtain ⟨-, same⟩ := substituted_eq_outcome.mp ended
    exact Option.some.inj (congrArg Substituted.trace same)
  have left : aging.vocabulary.attributes (trace.countsAfter 1) = ["young", "young", "old"] := by
    rw [known]
    decide +kernel
  rw [Int.natCast_one, left] at resumed
  exact ⟨accepting, _, returned, rfl, trace, again, left, resumed, listing, passes, rest⟩

end Engine

end MultisetSubstitution
