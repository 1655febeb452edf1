import MultisetSubstitution.Diagnostics
import MultisetSubstitution.Vocabulary

/-! Reading a vocabulary from lines of text. What cannot be registered is reported and left out. -/

set_option autoImplicit false

namespace MultisetSubstitution.Vocabulary

def pushLines (vocabulary : Vocabulary) : List String → Reporting Obstacle Vocabulary
  | [] => pure vocabulary
  | line :: rest =>
    if Text.isSkipped line then vocabulary.pushLines rest
    else
      let name := Text.trim line
      if valid : isName name = true then
        if present : name ∈ vocabulary.names then do
          Reporting.warn ("Duplicate entry `" ++ name ++ "`.")
          vocabulary.pushLines rest
        else pushLines (vocabulary.push name valid present) rest
      else do
        Reporting.warn ("Invalid whitespace `" ++ name ++ "`.")
        vocabulary.pushLines rest

def ofLines (lines : List String) : Reporting Obstacle Vocabulary := empty.pushLines lines

def ofText (text : String) : Reporting Obstacle Vocabulary := ofLines (Text.lines text)

end MultisetSubstitution.Vocabulary
