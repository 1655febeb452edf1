import MultisetSubstitution.Text.Lines
import MultisetSubstitution.Text.Lower

/-! Commands of the console. -/

set_option autoImplicit false

namespace MultisetSubstitution

inductive Switch where
  | on
  | off
  | toggle
  deriving DecidableEq, Repr

def Switch.ofText (text : String) : Switch :=
  if text ∈ ["on", "true", "1"] then .on
  else if text ∈ ["off", "false", "0"] then .off
  else .toggle

def Switch.set (current : Bool) : Switch → Bool
  | .on => true
  | .off => false
  | .toggle => !current

inductive Command where
  | help
  | quit
  | vocabulary
  | rules
  | verbose (switch : Switch)
  | trace (switch : Switch)
  | unknown (word : String)
  | missing
  deriving DecidableEq, Repr

/-- A command has a mark, which may be any character, a word and perhaps an argument; the case of
letters does not matter. -/
def Command.ofText (text : String) : Command :=
  match Text.firstWord? text.toList.tail with
  | none => .missing
  | some (word, rest) =>
    let word := Text.lower (.ofList word)
    let argument := Text.lower (Text.trim (.ofList rest))
    if word = "help" then .help
    else if word ∈ ["quit", "exit", "q"] then .quit
    else if word = "vocab" then .vocabulary
    else if word = "rules" then .rules
    else if word = "verbose" then .verbose (Switch.ofText argument)
    else if word = "trace" then .trace (Switch.ofText argument)
    else .unknown word

end MultisetSubstitution
