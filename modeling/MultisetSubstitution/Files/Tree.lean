import MultisetSubstitution.Files
import MultisetSubstitution.Files.Name
import MultisetSubstitution.Files.Path

/-! Trees of files and directories: the file that a name leads to, and putting one there. -/

set_option autoImplicit false

namespace MultisetSubstitution.Files

inductive Node where
  | file (bytes : ByteArray)
  | directory

/-- A place by the parts of the way to it from the working directory. A way that leads out of it
begins with dots, and one from the root with a slash. -/
abbrev Place := List String

def Place.root : Place := ["/"]

/-- The directories that are there without being made: the working directory, those above it, and
the root. -/
def Place.isGiven (place : Place) : Bool := place == root || place.all (· == "..")

def Place.up (place : Place) : Place :=
  if place = root then root
  else if place.isGiven then place ++ [".."]
  else place.dropLast

/-- Files and directories by their places. Outside the working directory, what is not put there is
not known to be there. -/
structure Tree where
  nodes : List (Place × Node) := []

def Tree.node? (tree : Tree) (place : Place) : Option Node :=
  if place.isGiven then some .directory else tree.nodes.lookup place

def Tree.set (tree : Tree) (place : Place) (node : Node) : Tree :=
  ⟨(place, node) :: tree.nodes.filter (·.1 != place)⟩

def partLimit : Nat := 255

def nameLimit : Nat := 4095

inductive WalkFault where
  | missing
  | notDirectory
  | partTooLong
  deriving DecidableEq, Repr

def WalkFault.at (name : String) : WalkFault → Fault
  | .missing => .missing name
  | .notDirectory => .notDirectory name
  | .partTooLong => .nameTooLong name

/-- Go on by one part. An empty part and a dot stay, in a directory. -/
def Tree.enter (tree : Tree) (place : Place) (part : String) : Except WalkFault Place :=
  match tree.node? place with
  | none => .error .missing
  | some (.file _) => .error .notDirectory
  | some .directory =>
    if part = "" ∨ part = "." then .ok place
    else if part = ".." then .ok place.up
    else if partLimit < part.utf8ByteSize then .error .partTooLong
    else if (tree.node? (place ++ [part])).isSome then .ok (place ++ [part])
    else .error .missing

def Tree.follow (tree : Tree) (name : String) (parts : List String) : Except Fault Place :=
  if name.toList.contains '\x00' then .error .nulInPath
  else if name.isEmpty then .error (.missing name)
  else if nameLimit < name.utf8ByteSize then .error (.nameTooLong name)
  else
    let start := if name.toList.head? = some '/' then Place.root else []
    (parts.foldlM tree.enter start).mapError (WalkFault.at name)

def Tree.find (tree : Tree) (name : String) : Except Fault Place :=
  tree.follow name (Name.parts name)

def Tree.bytes (tree : Tree) (path : Path) : Except Fault ByteArray := do
  match tree.node? (← tree.find path.text) with
  | some (.file bytes) => return bytes
  | some .directory => throw (.isDirectory path.text)
  | none => throw (.missing path.text)

/-- An edit of a tree. What is done before a fault stays done. -/
abbrev Edit := ExceptT Fault (StateM Tree) Unit

def create (name : String) (node : Node) : Edit := do
  let parts := Name.bareParts name
  match (← get).follow name parts.dropLast, parts.getLast? with
  | .ok parent, some last => modify (·.set (parent ++ [last]) node)
  | _, _ => throw (.missing name)

def createDirectory (name : String) : Edit := do
  match (← get).follow name (Name.bareParts name) with
  | .ok place =>
    if let some (.file _) := (← get).node? place then throw (.alreadyThere name)
  | .error (.missing _) => create name .directory
  | .error fault => throw fault

/-- Make the first of some directories, each of which lies in the next. If the next leads nowhere,
for whatever reason, it is made first: a fault says the outermost name that cannot be made. A file
can come to light there, once the directories are made that a name goes down into and up again. It
is a fault of the name below. A dot below a directory that was just made is that directory. -/
def makeDirectories : List String → Edit
  | [] => pure ()
  | [name] => createDirectory name
  | name :: parent :: above => do
    if let .error _ := (← get).find parent then
      try makeDirectories (parent :: above)
      catch
        | .alreadyThere _ => pure ()
        | fault => throw fault
      if (Name.parts name).getLast? = some "." then return
    createDirectory name

def put (name : String) (node : Node) : Edit := do
  makeDirectories (Name.directories name)
  match node with
  | .directory => createDirectory name
  | .file bytes =>
    match (← get).find name with
    | .ok place =>
      match (← get).node? place with
      | some .directory => throw (.isDirectory name)
      | _ => modify (·.set place (.file bytes))
    | .error (.missing _) => create name (.file bytes)
    | .error fault => throw fault

end MultisetSubstitution.Files
