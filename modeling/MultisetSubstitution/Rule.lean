import MultisetSubstitution.Vocabulary.Listing

/-! Production rules: each takes some attributes out of a multiset and puts others in. -/

set_option autoImplicit false

namespace MultisetSubstitution

/-- The line is where the rule was read; hand-made rules may have any number or none. -/
structure Rule where
  inputs : Counts
  outputs : Counts
  line : Option Int
  sameLength : inputs.length = outputs.length
  inputsNonnegative : ∀ count ∈ inputs, 0 ≤ count
  outputsNonnegative : ∀ count ∈ outputs, 0 ≤ count
  consumes : inputs.isZero = false
  changes : inputs ≠ outputs

namespace Rule

inductive Fault where
  | lengths (inputs outputs : Nat)
  | negativeCount
  | consumesNothing
  | changesNothing
  deriving DecidableEq, Repr

def Fault.message : Fault → String
  | .lengths inputs outputs =>
    "Input and output vectors differ in length (" ++ toString inputs ++ " != " ++
      toString outputs ++ ")"
  | .negativeCount => "Frequency vectors cannot hold negative counts"
  | .consumesNothing => "Rule consumes nothing"
  | .changesNothing => "Rule maps a multiset onto itself"

/-- The checks are made in the order of the faults, and the first that fails is the answer. -/
def ofSides (inputs outputs : Counts) (line : Option Int) : Except Fault Rule :=
  if lengths : inputs.length = outputs.length then
    if signs : inputs.hasNegative = false ∧ outputs.hasNegative = false then
      if consumes : inputs.isZero = false then
        if changes : inputs ≠ outputs then
          .ok { inputs, outputs, line, consumes, changes, sameLength := lengths
                inputsNonnegative := Counts.hasNegative_eq_false.mp signs.1
                outputsNonnegative := Counts.hasNegative_eq_false.mp signs.2 }
        else .error .changesNothing
      else .error .consumesNothing
    else .error .negativeCount
  else .error (.lengths inputs.length outputs.length)

def dimension (rule : Rule) : Nat := rule.inputs.length

def sameSides (first second : Rule) : Bool :=
  first.inputs == second.inputs && first.outputs == second.outputs

def enabled (rule : Rule) (counts : Counts) : Bool := counts.dominates rule.inputs

def fire (rule : Rule) (counts : Counts) : Counts := counts.exchange rule.inputs rule.outputs

def numbers (vocabulary : Vocabulary) (rule : Rule) : List Int :=
  vocabulary.numbers rule.inputs ++ vocabulary.numbers rule.outputs

def description (vocabulary : Vocabulary) (rule : Rule) : String :=
  vocabulary.listingText rule.inputs ++ " -> " ++ vocabulary.listingText rule.outputs

def checkedDescription (vocabulary : Vocabulary) (rule : Rule) (digits : Option Nat) :
    Except Vocabulary.ListingFault String := do
  let inputs ← vocabulary.checkedText rule.inputs digits
  let outputs ← vocabulary.checkedText rule.outputs digits
  return inputs ++ " -> " ++ outputs

def sideSource (vocabulary : Vocabulary) (counts : Counts) : String :=
  ", ".intercalate (Vocabulary.repeated (vocabulary.names.zip counts))

def source (vocabulary : Vocabulary) (rule : Rule) : String :=
  let line := sideSource vocabulary rule.inputs ++ " " ++ Text.arrow ++ " " ++
    sideSource vocabulary rule.outputs
  .ofList (Text.trimEnd line.toList)

def sideCopies (vocabulary : Vocabulary) (counts : Counts) : List Int :=
  (vocabulary.names.zip counts).map (·.2)

inductive SourceFault where
  | unnamed (fault : Vocabulary.OutOfRange)
  | repetition (fault : Repetition.Fault)
  deriving DecidableEq, Repr

/-- The line for a rule that may be longer than the vocabulary, where even an empty slot needs a
name. -/
def checkedSource (vocabulary : Vocabulary) (rule : Rule) (memory : Memory) :
    Except SourceFault String :=
  let inputs := sideCopies vocabulary rule.inputs
  match Repetition.fault? memory inputs with
  | some fault => .error (.repetition fault)
  | none =>
    if vocabulary.size < rule.dimension then .error (.unnamed ⟨vocabulary.size⟩)
    else match Repetition.faultAfter? memory inputs (sideCopies vocabulary rule.outputs) with
      | some fault => .error (.repetition fault)
      | none => .ok (rule.source vocabulary)

def sidesText (rule : Rule) : String :=
  "Rule(" ++ Text.integerList rule.inputs ++ " -> " ++ Text.integerList rule.outputs ++ ")"

theorem length_outputs (rule : Rule) : rule.outputs.length = rule.dimension :=
  rule.sameLength.symm

@[simp] theorem length_fire (rule : Rule) (counts : Counts) :
    (rule.fire counts).length = counts.length := by simp [fire]

end Rule

end MultisetSubstitution
