import MultisetSubstitution.Trace

/-! Outcomes of a run: what is left when nothing changes any more, or the failure to get there. -/

set_option autoImplicit false

namespace MultisetSubstitution

/-- A settled run. The numbers are integers because results may also be made by hand. -/
structure Substituted where
  listing : List String
  counts : List (String × Int)
  passes : Int
  applications : Int
  trace : Option Trace

structure Failure where
  reason : String
  inputs : List String
  maxIterations : Int
  trace : Option Trace

inductive Outcome where
  | substituted (result : Substituted)
  | failure (fault : Failure)

def Substituted.tokens (result : Substituted) : List String := Vocabulary.repeated result.counts

def Substituted.checkedTokens (result : Substituted) (memory : Memory) :
    Except Repetition.Fault (List String) :=
  Vocabulary.checkedRepeated result.counts memory

def limitReason (inputs : List String) (maxIterations : Int) : String :=
  "(FATAL) Recipe exceeded maximum iteration count (" ++ toString maxIterations ++
    "). Inputs [ " ++ ", ".intercalate inputs ++ " ]."

namespace Outcome

def failureText : String := "Failed to substitute."

def settled : Outcome → Bool
  | .substituted _ => true
  | .failure _ => false

def trace? : Outcome → Option Trace
  | .substituted result => result.trace
  | .failure fault => fault.trace

def items : Outcome → List String
  | .substituted result => result.listing
  | .failure _ => []

def text : Outcome → String
  | .substituted result => "\n".intercalate result.listing
  | .failure _ => failureText

def result : Outcome → Except Failure Substituted
  | .substituted result => .ok result
  | .failure fault => .error fault

def same : Outcome → Outcome → Bool
  | .substituted first, .substituted second => first.listing == second.listing
  | .failure first, .failure second =>
    first.reason == second.reason && first.inputs == second.inputs
  | _, _ => false

def summary : Outcome → String
  | .substituted result => "Substituted(" ++ Text.quotedList result.listing ++ ")"
  | .failure fault => "Failure(" ++ Text.quoted fault.reason ++ ")"

end Outcome

end MultisetSubstitution
