import MultisetSubstitution.Text.Printable

/-! Quoted texts, as diagnostics show names, paths and arguments. -/

set_option autoImplicit false

namespace MultisetSubstitution.Text

def hexadecimal (width n : Nat) : List Char :=
  let digits := Nat.toDigits 16 n
  List.replicate (width - digits.length) '0' ++ digits

/-- Double quotes serve only where the text holds a single quote and no double quote. -/
def quoteMark (cs : List Char) : Char :=
  if cs.contains '\'' && !cs.contains '"' then '"' else '\''

def quotedChar (mark c : Char) : List Char :=
  if c = mark || c = '\\' then ['\\', c]
  else if c = '\n' then ['\\', 'n']
  else if c = '\r' then ['\\', 'r']
  else if c = '\t' then ['\\', 't']
  else if isPrintable c then [c]
  else if c.toNat < 0x100 then '\\' :: 'x' :: hexadecimal 2 c.toNat
  else if c.toNat < 0x10000 then '\\' :: 'u' :: hexadecimal 4 c.toNat
  else '\\' :: 'U' :: hexadecimal 8 c.toNat

def quoted (text : String) : String :=
  let cs := text.toList
  let mark := quoteMark cs
  .ofList (mark :: cs.flatMap (quotedChar mark) ++ [mark])

def quotedList (texts : List String) : String :=
  "[" ++ ", ".intercalate (texts.map quoted) ++ "]"

def integerList (numbers : List Int) : String :=
  "[" ++ ", ".intercalate (numbers.map toString) ++ "]"

example : quoted "it's" = "\"it's\"" ∧ quoted "a\nb" = "'a\\nb'" := by decide +kernel

example : quoted "\u0085\ufeff" = "'\\x85\\ufeff'" := by decide +kernel

end MultisetSubstitution.Text
