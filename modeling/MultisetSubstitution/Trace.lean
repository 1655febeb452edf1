import MultisetSubstitution.RuleSet

/-! Traces: every application of a rule in one run, with the counts around it. -/

set_option autoImplicit false

namespace MultisetSubstitution

/-- One application. Passes are numbered from one and rules from zero; hand-made steps may have any
numbers. -/
structure Step where
  pass : Int
  ruleIndex : Int
  rule : Rule
  before : Counts
  after : Counts

structure Trace where
  vocabulary : Vocabulary
  initial : Counts
  final : Counts
  steps : List Step

inductive TraceStyle where
  | verbose
  | compact
  | rules
  deriving DecidableEq, Repr

structure UnknownStyle where
  name : String
  deriving DecidableEq, Repr

def UnknownStyle.message (fault : UnknownStyle) : String :=
  "Unknown trace style: " ++ fault.name ++ ". Valid options: verbose, compact, rules"

def TraceStyle.ofName (name : String) : Except UnknownStyle TraceStyle :=
  if name = "compact" then .ok .compact
  else if name = "rules" then .ok .rules
  else if name = "verbose" then .ok .verbose
  else .error ⟨name⟩

def braced (text : String) : String := "\x7b" ++ text ++ "\x7d"

namespace Step

def label (step : Step) : String := "rule[" ++ toString step.ruleIndex ++ "]"

def summary (step : Step) : String :=
  "RewriteStep(pass=" ++ toString step.pass ++ ", rule=" ++ toString step.ruleIndex ++ ")"

def text (vocabulary : Vocabulary) (step : Step) (digits : Option Nat) :
    Except Vocabulary.ListingFault String := do
  let rule ← step.rule.checkedDescription vocabulary digits
  let before ← vocabulary.checkedText step.before digits
  let after ← vocabulary.checkedText step.after digits
  return step.label ++ " " ++ rule ++ ": " ++ braced before ++ " -> " ++ braced after

end Step

namespace Trace

def nonempty (trace : Trace) : Bool := !trace.steps.isEmpty

def chain (trace : Trace) : String :=
  match trace.steps with
  | [] => "(no rules applied)"
  | steps => " -> ".intercalate (steps.map Step.label)

def stepLines (vocabulary : Vocabulary) (digits : Option Nat) (number : Nat) :
    List Step → Except Vocabulary.ListingFault (List String)
  | [] => .ok []
  | step :: rest => do
    let first ← step.text vocabulary digits
    let others ← stepLines vocabulary digits (number + 1) rest
    return ("  " ++ toString number ++ ". " ++ first) :: others

def text (trace : Trace) (digits : Option Nat) :
    TraceStyle → Except Vocabulary.ListingFault String
  | .compact => do
    let initial ← trace.vocabulary.checkedText trace.initial digits
    let final ← trace.vocabulary.checkedText trace.final digits
    return braced initial ++ " --[" ++ ", ".intercalate (trace.steps.map Step.label) ++ "]--> " ++
      braced final
  | .rules => .ok trace.chain
  | .verbose => do
    let initial ← trace.vocabulary.checkedText trace.initial digits
    let steps ← stepLines trace.vocabulary digits 1 trace.steps
    let final ← trace.vocabulary.checkedText trace.final digits
    return "\n".intercalate (("Initial: " ++ initial) :: steps ++ ["Final: " ++ final])

def bump (key : Int) : List (Int × Nat) → List (Int × Nat)
  | [] => [(key, 1)]
  | (other, count) :: rest =>
    if other = key then (other, count + 1) :: rest else (other, count) :: bump key rest

def ruleCounts (trace : Trace) : List (Int × Nat) :=
  trace.steps.foldl (fun counts step => bump step.ruleIndex counts) []

end Trace

end MultisetSubstitution
