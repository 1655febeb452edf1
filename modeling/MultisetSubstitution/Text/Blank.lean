/-! Blank characters, trimming, and the first word of a text. -/

set_option autoImplicit false

namespace MultisetSubstitution.Text

/-- White space as Unicode has it, together with the separators U+001C to U+001F. -/
def isBlankCode (n : Nat) : Bool :=
  (0x9 ≤ n && n ≤ 0xD) || (0x1C ≤ n && n ≤ 0x20) || n == 0x85 || n == 0xA0 || n == 0x1680 ||
    (0x2000 ≤ n && n ≤ 0x200A) || n == 0x2028 || n == 0x2029 || n == 0x202F || n == 0x205F ||
    n == 0x3000

def isBlank (c : Char) : Bool := isBlankCode c.toNat

def hasBlank (text : String) : Bool := text.toList.any isBlank

def trimStart (cs : List Char) : List Char := cs.dropWhile isBlank

def trimEnd (cs : List Char) : List Char := (cs.reverse.dropWhile isBlank).reverse

def trimChars (cs : List Char) : List Char := trimEnd (trimStart cs)

def trim (text : String) : String := .ofList (trimChars text.toList)

def beginsWith (text start : String) : Bool := start.toList.isPrefixOf text.toList

def firstWord? (cs : List Char) : Option (List Char × List Char) :=
  match trimStart cs with
  | [] => none
  | c :: rest =>
    let word := (c :: rest).takeWhile (!isBlank ·)
    some (word, trimStart ((c :: rest).dropWhile (!isBlank ·)))

example : trim " \u2028a b\x1f" = "a b" := by decide +kernel

example : firstWord? " on  off ".toList = some ("on".toList, "off ".toList) := by decide +kernel

end MultisetSubstitution.Text
