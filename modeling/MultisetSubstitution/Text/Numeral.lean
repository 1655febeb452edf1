import MultisetSubstitution.Text.Blank

/-! Whole numbers written in decimal digits of any script. -/

set_option autoImplicit false

namespace MultisetSubstitution.Text

/-- The zero of each script with decimal digits in Unicode 14.0; the other nine digits follow it. -/
def digitZeros : List Nat := [
  0x30, 0x660, 0x6F0, 0x7C0, 0x966, 0x9E6, 0xA66, 0xAE6, 0xB66, 0xBE6, 0xC66, 0xCE6, 0xD66,
  0xDE6, 0xE50, 0xED0, 0xF20, 0x1040, 0x1090, 0x17E0, 0x1810, 0x1946, 0x19D0, 0x1A80, 0x1A90,
  0x1B50, 0x1BB0, 0x1C40, 0x1C50, 0xA620, 0xA8D0, 0xA900, 0xA9D0, 0xA9F0, 0xAA50, 0xABF0, 0xFF10,
  0x104A0, 0x10D30, 0x11066, 0x110F0, 0x11136, 0x111D0, 0x112F0, 0x11450, 0x114D0, 0x11650,
  0x116C0, 0x11730, 0x118E0, 0x11950, 0x11C50, 0x11D50, 0x11DA0, 0x16A60, 0x16AC0, 0x16B50,
  0x1D7CE, 0x1D7D8, 0x1D7E2, 0x1D7EC, 0x1D7F6, 0x1E140, 0x1E2F0, 0x1E950, 0x1FBF0]

def digitValue? (c : Char) : Option Nat :=
  (digitZeros.find? fun least => least ≤ c.toNat && c.toNat < least + 10).map (c.toNat - ·)

def isDigit (c : Char) : Bool := (digitValue? c).isSome

/-- Blanks that may stand around a number: all but the separators U+001C to U+001F. -/
def isNumeralBlank (c : Char) : Bool := isBlank c && !(0x1C ≤ c.toNat && c.toNat ≤ 0x1F)

/-- Digits with at most one underscore between two of them; none for anything else. The flag says
whether the last character was a digit. -/
def readDigits (value count : Nat) (afterDigit : Bool) : List Char → Option (Nat × Nat)
  | [] => if afterDigit then some (value, count) else none
  | '_' :: rest => if afterDigit then readDigits value count false rest else none
  | c :: rest =>
    match digitValue? c with
    | some digit => readDigits (10 * value + digit) (count + 1) true rest
    | none => none

/-- The most digits of a number that is read, or where nothing else is said, written. -/
def digitLimit : Nat := 4300

def readInteger? (text : String) : Option Int :=
  let cs := text.toList.dropWhile isNumeralBlank
  let cs := (cs.reverse.dropWhile isNumeralBlank).reverse
  let (negative, digits) := match cs with
    | '-' :: rest => (true, rest)
    | '+' :: rest => (false, rest)
    | _ => (false, cs)
  match readDigits 0 0 false digits with
  | some (value, count) =>
    if count ≤ digitLimit then some (if negative then -value else value) else none
  | none => none

def digitCount (n : Int) : Nat := (Nat.toDigits 10 n.natAbs).length

def fits (limit : Option Nat) (n : Int) : Bool := limit.all fun most => digitCount n ≤ most

@[simp] theorem fits_none (n : Int) : fits none n = true := rfl

/-- A minus sign with digits after it, and perhaps a fraction: the look of a negative number. A line
feed at the very end does not count. -/
def looksNegative (text : String) : Bool :=
  let cs := text.toList
  let cs := match cs.reverse with
    | '\n' :: rest => rest.reverse
    | _ => cs
  match cs with
  | '-' :: rest =>
    match rest.dropWhile isDigit with
    | [] => !rest.isEmpty
    | '.' :: fraction => !fraction.isEmpty && fraction.all isDigit
    | _ => false
  | _ => false

example : readInteger? " +1_000\t" = some 1000 ∧ readInteger? "1__0" = none := by decide +kernel

example : looksNegative "-5" ∧ looksNegative "-.5" ∧ looksNegative "-5x" = false := by
  decide +kernel

end MultisetSubstitution.Text
