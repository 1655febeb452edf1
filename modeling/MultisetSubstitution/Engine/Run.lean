import MultisetSubstitution.Engine
import MultisetSubstitution.Outcome

/-! Runs: an engine applies its rules to a multiset, pass after pass, until none applies any
more. -/

set_option autoImplicit false

namespace MultisetSubstitution

structure Progress where
  counts : Counts
  applications : Nat
  steps : Array Step

structure Ending where
  progress : Progress
  passes : Nat
  settled : Bool

namespace Engine

def apply (engine : Engine) (traced : Bool) (pass index : Nat) (rule : Rule)
    (progress : Progress) : Reporting Obstacle Progress := do
  if engine.verbose then
    Reporting.log ("RULE  : " ++ (← engine.writeRule rule))
    Reporting.log ("BEFORE: " ++ (← engine.writeCounts progress.counts))
  let after := rule.fire progress.counts
  let steps :=
    if traced then progress.steps.push ⟨pass, index, rule, progress.counts, after⟩
    else progress.steps
  if engine.verbose then
    Reporting.log ("AFTER : " ++ (← engine.writeCounts after))
    Reporting.log ""
  return { counts := after, applications := progress.applications + 1, steps }

/-- Try rules in order, each on what those before it have left. The flag says whether any rule of
the pass was applied. -/
def sweep (engine : Engine) (traced : Bool) (pass : Nat) (index : Nat) (progress : Progress)
    (fired : Bool) : List Rule → Reporting Obstacle (Progress × Bool)
  | [] => pure (progress, fired)
  | rule :: rest =>
    if rule.enabled progress.counts then do
      let progress ← engine.apply traced pass index rule progress
      engine.sweep traced pass (index + 1) progress true rest
    else engine.sweep traced pass (index + 1) progress fired rest

/-- Make passes until one applies no rule, or until there is one more than allowed that does. -/
def settle (engine : Engine) (traced : Bool) (allowed passes : Nat) (progress : Progress) :
    Reporting Obstacle Ending := do
  let (progress, fired) ← engine.sweep traced (passes + 1) 0 progress false engine.rules.rules
  if fired then
    match allowed with
    | 0 => return { progress, passes := passes + 1, settled := false }
    | allowed + 1 => engine.settle traced allowed (passes + 1) progress
  else return { progress, passes, settled := true }

def execute (engine : Engine) (tokens : List String) (traced : Bool) :
    Reporting Obstacle Outcome := do
  if engine.verbose then
    Reporting.log ("IN: " ++ ";".intercalate tokens)
  let initial ← engine.count tokens
  if engine.verbose then
    Reporting.log ("FREQ: " ++ (← engine.writeCounts initial))
    Reporting.log ""
  let ending ← engine.settle traced engine.maxIterations.toNat 0 ⟨initial, 0, #[]⟩
  let final := ending.progress.counts
  let trace :=
    if traced then some ⟨engine.vocabulary, initial, final, ending.progress.steps.toList⟩
    else none
  if ending.settled then
    if engine.verbose then
      Reporting.log ("OUT: " ++ (← engine.writeCounts final))
    let listing ←
      Reporting.write (engine.vocabulary.numbers final) (engine.vocabulary.listing final)
    return .substituted {
      listing
      counts := engine.vocabulary.entries final
      passes := ending.passes
      applications := ending.progress.applications
      trace }
  else
    let reason ←
      Reporting.write [engine.maxIterations] (limitReason tokens engine.maxIterations)
    Reporting.warn reason
    return .failure { reason, inputs := tokens, maxIterations := engine.maxIterations, trace }

end Engine

end MultisetSubstitution
