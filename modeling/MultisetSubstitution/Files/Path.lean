import MultisetSubstitution.Text.Lines

/-! Paths of files. -/

set_option autoImplicit false

namespace MultisetSubstitution

/-- A path by its parts. An absolute path keeps its one or two leading slashes. -/
structure Path where
  slashes : Nat
  parts : List String
  deriving DecidableEq, Repr

namespace Path

/-- Empty parts and single dots are left out of a path. -/
def ofText (text : String) : Path :=
  let leading := (text.toList.takeWhile (· == '/')).length
  let parts := (text.toList.splitOn '/').map String.ofList
  { slashes := if leading = 2 then 2 else min leading 1
    parts := parts.filter fun part => part != "" && part != "." }

def text (path : Path) : String :=
  if path.slashes = 0 && path.parts.isEmpty then "."
  else .ofList (List.replicate path.slashes '/') ++ "/".intercalate path.parts

end Path

end MultisetSubstitution
