import MultisetSubstitution.CommandLine.Flag
import MultisetSubstitution.Text.Numeral

/-! Arguments of the command line and the roles they have: flags, values, or neither. -/

set_option autoImplicit false

namespace MultisetSubstitution.CommandLine

/-- A flag as it stands in an argument: in its short form or not, and with what is written after
it in the same argument, less the equals sign that may come first. -/
structure Mention where
  flag : Flag
  short : Bool
  attached : Option String
  deriving DecidableEq, Repr

inductive Role where
  | value
  | doubleDash
  | mention (mention : Mention)
  | unknown
  deriving DecidableEq, Repr

structure Argument where
  text : String
  role : Role
  deriving DecidableEq, Repr

def isShort (spelling : String) : Bool := spelling.length == 2

def splitEquals? (cs : List Char) : Option (String × String) :=
  match cs.dropWhile (· != '=') with
  | [] => none
  | _ :: value => some (.ofList (cs.takeWhile (· != '=')), .ofList value)

/-- Spellings that an argument may abbreviate, or for a short form, contain. -/
def candidates (text : String) : List (String × Mention) :=
  if Text.beginsWith text "--" then
    let (start, attached) := match splitEquals? text.toList with
      | some (start, value) => (start, some value)
      | none => (text, none)
    (Flag.spellings.filter fun spelling => Text.beginsWith spelling.1 start).map
      fun (spelling, flag) => (spelling, ⟨flag, isShort spelling, attached⟩)
  else
    let start : String := .ofList (text.toList.take 2)
    Flag.spellings.filterMap fun (spelling, flag) =>
      if spelling = start then
        some (spelling, ⟨flag, true, some (.ofList (text.toList.drop 2))⟩)
      else if Text.beginsWith spelling text then
        some (spelling, ⟨flag, isShort spelling, none⟩)
      else none

def exactMention? (text : String) : Option Mention :=
  match Flag.spellings.lookup text with
  | some flag => some ⟨flag, isShort text, none⟩
  | none => do
    let (spelling, value) ← splitEquals? text.toList
    let flag ← Flag.spellings.lookup spelling
    return ⟨flag, isShort spelling, some value⟩

def roleOf (text : String) : Except UsageFault Role :=
  if !Text.beginsWith text "-" then .ok .value
  else match exactMention? text with
    | some mention => .ok (.mention mention)
    | none =>
      if text.length = 1 then .ok .value
      else match candidates text with
        | [] =>
          if Text.looksNegative text || text.toList.contains ' ' then .ok .value
          else .ok .unknown
        | [(_, mention)] => .ok (.mention mention)
        | several => .error (.ambiguous text (several.map (·.1)))

/-- Find the roles of all arguments before any of them takes effect. -/
def classify : List String → Except UsageFault (List Argument)
  | [] => .ok []
  | text :: rest =>
    if text = "--" then
      .ok (⟨text, .doubleDash⟩ :: rest.map (⟨·, .value⟩))
    else do
      let role ← roleOf text
      let others ← classify rest
      return ⟨text, role⟩ :: others

end MultisetSubstitution.CommandLine
