import MultisetSubstitution.Text.LetterCase

/-! Texts in lower case. Two letters need more than the mapping of single letters: a capital sigma
that ends a word, and a capital I with a dot, which keeps its dot as a mark of its own. -/

set_option autoImplicit false

namespace MultisetSubstitution.Text

def startsCased (cs : List Char) : Bool :=
  match cs.dropWhile isCaseIgnorable with
  | [] => false
  | c :: _ => isCased c

/-- Lower-case letters of a text, given the characters already passed, latest first. -/
def lowerChars (passed : List Char) : List Char → List Char
  | [] => []
  | c :: rest =>
    let small :=
      if c = 'Σ' then [if startsCased passed && !startsCased rest then 'ς' else 'σ']
      else if c = 'İ' then ['i', '\u0307']
      else [lowerLetter c]
    small ++ lowerChars (c :: passed) rest

def lower (text : String) : String := .ofList (lowerChars [] text.toList)

example : lower "QUIT" = "quit" ∧ lower "ΟΔΟΣ" = "οδος" ∧ lower "Σ" = "σ" := by decide +kernel

end MultisetSubstitution.Text
