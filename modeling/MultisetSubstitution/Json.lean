import MultisetSubstitution.Text.Code
import MultisetSubstitution.Text.Quoted

/-! JSON values and their text, in ASCII alone. -/

set_option autoImplicit false

namespace MultisetSubstitution

inductive Json where
  | integer (value : Int)
  | text (value : Text.Codes)
  | array (items : List Json)
  | object (fields : List (Text.Codes × Json))

namespace Json

/-- All on one line, or every item on a line of its own, indented by its depth. -/
inductive Layout where
  | oneLine
  | indented (width : Nat)
  deriving DecidableEq, Repr

def unitEscape (unit : Nat) : List Char := '\\' :: 'u' :: Text.hexadecimal 4 unit

/-- A code as it stands in a string; one above U+FFFF is written as two units. -/
def escapeCode (code : Text.Code) : List Char :=
  let n := code.val
  if n = '"'.toNat then ['\\', '"']
  else if n = '\\'.toNat then ['\\', '\\']
  else if n = '\n'.toNat then ['\\', 'n']
  else if n = '\r'.toNat then ['\\', 'r']
  else if n = '\t'.toNat then ['\\', 't']
  else if n = '\x08'.toNat then ['\\', 'b']
  else if n = '\x0c'.toNat then ['\\', 'f']
  else if 0x20 ≤ n && n < 0x7F then [.ofNat n]
  else if n < 0x10000 then unitEscape n
  else unitEscape (0xD800 + (n - 0x10000) / 0x400) ++ unitEscape (0xDC00 + (n - 0x10000) % 0x400)

def stringText (text : Text.Codes) : String :=
  .ofList ('"' :: text.flatMap escapeCode ++ ['"'])

def Layout.lineStart (layout : Layout) (depth : Nat) : String :=
  match layout with
  | .oneLine => ""
  | .indented width => .ofList ('\n' :: List.replicate (width * depth) ' ')

def Layout.separator (layout : Layout) (depth : Nat) : String :=
  match layout with
  | .oneLine => ", "
  | .indented _ => "," ++ layout.lineStart depth

def Layout.enclose (layout : Layout) (depth : Nat) (first last : String) : List String → String
  | [] => first ++ last
  | items =>
    first ++ layout.lineStart (depth + 1) ++ (layout.separator (depth + 1)).intercalate items ++
      layout.lineStart depth ++ last

mutual

def write (layout : Layout) (depth : Nat) : Json → String
  | .integer value => toString value
  | .text value => stringText value
  | .array items => layout.enclose depth "[" "]" (writeItems layout (depth + 1) items)
  | .object fields => layout.enclose depth "\x7b" "\x7d" (writeFields layout (depth + 1) fields)

def writeItems (layout : Layout) (depth : Nat) : List Json → List String
  | [] => []
  | item :: rest => item.write layout depth :: writeItems layout depth rest

def writeFields (layout : Layout) (depth : Nat) : List (Text.Codes × Json) → List String
  | [] => []
  | (key, value) :: rest =>
    (stringText key ++ ": " ++ value.write layout depth) :: writeFields layout depth rest

end

def closedBy (depth : Nat) : List Nat → List Nat
  | [] => []
  | depths => depths ++ [depth]

mutual

/-- The depths of all lines but the first in the text of a value that stands at the given depth. -/
def lineDepths (depth : Nat) : Json → List Nat
  | .integer _ => []
  | .text _ => []
  | .array items => closedBy depth (itemDepths (depth + 1) items)
  | .object fields => closedBy depth (fieldDepths (depth + 1) fields)

def itemDepths (depth : Nat) : List Json → List Nat
  | [] => []
  | item :: rest => depth :: (item.lineDepths depth ++ itemDepths depth rest)

def fieldDepths (depth : Nat) : List (Text.Codes × Json) → List Nat
  | [] => []
  | (_, value) :: rest => depth :: (value.lineDepths depth ++ fieldDepths depth rest)

end

end Json

end MultisetSubstitution
