import MultisetSubstitution.Proofs.Representation

/-! The text of a trace. All its counts are those of multisets and have names, and what a rule takes
and gives is there before and after it is applied. So a trace can be written if the counts can. -/

set_option autoImplicit false

namespace MultisetSubstitution

/-- A text is written, or a number is too long for it, which is not so if all fit. -/
def Written {α : Type} (fits : Prop) (text : Except Vocabulary.ListingFault α) : Prop :=
  (∃ value, text = .ok value) ∨ text = .error .longNumber ∧ ¬ fits

namespace Written

variable {α β : Type} {fits : Prop} {text : Except Vocabulary.ListingFault α}

theorem ok (value : α) : Written fits (.ok value) := .inl ⟨value, rfl⟩

theorem bind (written : Written fits text) {next : α → Except Vocabulary.ListingFault β}
    (goesOn : ∀ value, Written fits (next value)) : Written fits (text >>= next) := by
  rcases written with ⟨value, rfl⟩ | ⟨rfl, long⟩
  · exact goesOn value
  · exact .inr ⟨rfl, long⟩

end Written

section

variable {vocabulary : Vocabulary} {digits : Option Nat} {fits : Prop}

theorem Vocabulary.Counted.written {counts : Counts} (counted : vocabulary.Counted counts)
    (fit : fits → ∀ number ∈ vocabulary.numbers counts, Text.fits digits number = true) :
    Written fits (vocabulary.checkedText counts digits) := by
  have named : vocabulary.firstUnnamed? counts = none :=
    Vocabulary.firstUnnamed?_eq_none (Nat.le_of_eq counted.length)
  rw [Vocabulary.checkedText, Vocabulary.checkedListing, named, Vocabulary.listing?]
  by_cases short : (vocabulary.numbers counts).all (Text.fits digits) = true
  · rw [if_pos short]
    exact .inl ⟨_, rfl⟩
  · rw [if_neg short]
    exact .inr ⟨rfl, fun holds => short (List.all_eq_true.mpr (fit holds))⟩

theorem Step.text_written {step : Step}
    (inputs : Written fits (vocabulary.checkedText step.rule.inputs digits))
    (outputs : Written fits (vocabulary.checkedText step.rule.outputs digits))
    (before : Written fits (vocabulary.checkedText step.before digits))
    (after : Written fits (vocabulary.checkedText step.after digits)) :
    Written fits (step.text vocabulary digits) := by
  have sides : Written fits (step.rule.checkedDescription vocabulary digits) :=
    inputs.bind fun _ => outputs.bind fun _ => .ok _
  exact sides.bind fun _ => before.bind fun _ => after.bind fun _ => .ok _

theorem Trace.stepLines_written {steps : List Step}
    (each : ∀ step ∈ steps, Written fits (step.text vocabulary digits)) (number : Nat) :
    Written fits (stepLines vocabulary digits number steps) := by
  induction steps generalizing number with
  | nil => exact .ok []
  | cons step rest ih =>
    obtain ⟨here, later⟩ := List.forall_mem_cons.mp each
    exact here.bind fun first => (ih later (number + 1)).bind fun others => .ok _

end

namespace Engine

variable {engine : Engine} {tokens : List String} {digits : Option Nat}

theorem trace_written (engine : Engine) (tokens : List String) (digits : Option Nat) :
    Written ((engine.traceOf tokens).Fits digits)
      ((engine.traceOf tokens).text digits .verbose) := by
  have vector : ∀ counts ∈ (engine.traceOf tokens).vectors,
      Written ((engine.traceOf tokens).Fits digits)
        (engine.vocabulary.checkedText counts digits) :=
    fun counts member => (vectors_counted member).written fun fits => fits counts member
  have lines : ∀ step ∈ engine.steps tokens, Written ((engine.traceOf tokens).Fits digits)
      (step.text engine.vocabulary digits) := by
    intro step member
    obtain ⟨inSet, -⟩ := engine.steps_fire tokens member
    have inputs := Rule.counted_inputs (engine.rules.fits step.rule inSet)
    have outputs := Rule.counted_outputs (engine.rules.fits step.rule inSet)
    have around : ∀ counts, counts = step.before ∨ counts = step.after →
        counts ∈ (engine.traceOf tokens).vectors :=
      fun counts place => Trace.mem_vectors.mpr (.inr (.inr ⟨step, member, place⟩))
    exact Step.text_written (inputs.written fun fits => (engine.sides_fit tokens fits member).1)
      (outputs.written fun fits => (engine.sides_fit tokens fits member).2)
      (vector _ (around _ (.inl rfl))) (vector _ (around _ (.inr rfl)))
  have initial := vector _ (Trace.mem_vectors.mpr (.inl rfl))
  have final := vector _ (Trace.mem_vectors.mpr (.inr (.inl rfl)))
  exact initial.bind fun _ => (Trace.stepLines_written lines 1).bind fun _ =>
    final.bind fun _ => .ok _

end Engine

end MultisetSubstitution
