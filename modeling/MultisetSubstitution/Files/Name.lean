import MultisetSubstitution.Text.Lines

/-! Names of files as they are written, with all their slashes and dots. -/

set_option autoImplicit false

namespace MultisetSubstitution.Files.Name

def parts (name : String) : List String := (name.toList.splitOn '/').map .ofList

def bareParts (name : String) : List String :=
  ((parts name).reverse.dropWhile (· == "")).reverse

/-- The names of the directories before the last slashes, the innermost first. The slashes that
follow a directory are not in its name. -/
def directories (name : String) : List String :=
  let parts := parts name
  let beginnings := (List.range parts.length).map fun length => parts.take length
  let named := beginnings.filter fun beginning => beginning.getLast?.any (· != "")
  named.reverse.map ("/".intercalate ·)

end MultisetSubstitution.Files.Name
