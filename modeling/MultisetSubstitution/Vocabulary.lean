import MultisetSubstitution.Counts
import MultisetSubstitution.Text.Lines
import MultisetSubstitution.Text.Quoted

/-! Vocabularies: the attribute names in order, each name's position being its id. -/

set_option autoImplicit false

namespace MultisetSubstitution

def isName (text : String) : Bool := text != "" && !Text.hasBlank text

/-- Names in order, whatever kind of texts they are. The position of a name is its id. -/
structure Names (Name : Type) (isName : Name → Bool) where
  names : List Name
  distinct : names.Nodup
  valid : ∀ name ∈ names, isName name = true

namespace Names

variable {Name : Type} {isName : Name → Bool}

theorem eq_of_names {first second : Names Name isName} (same : first.names = second.names) :
    first = second := by
  cases first
  cases second
  simp_all

instance [DecidableEq Name] : DecidableEq (Names Name isName) := fun first second =>
  if same : first.names = second.names then .isTrue (eq_of_names same)
  else .isFalse fun equal => same (congrArg names equal)

def empty : Names Name isName := ⟨[], List.nodup_nil, by simp⟩

def push (table : Names Name isName) (name : Name) (valid : isName name = true)
    (fresh : name ∉ table.names) : Names Name isName where
  names := table.names ++ [name]
  distinct := by
    rw [List.nodup_append]
    exact ⟨table.distinct, by simp, by
      intro old member new isNew
      rw [List.mem_singleton.mp isNew]
      exact fun equal => fresh (equal ▸ member)⟩
  valid := by
    intro other member
    rcases List.mem_append.mp member with old | new
    · exact table.valid other old
    · rw [List.mem_singleton.mp new]; exact valid

inductive Fault (Name : Type) where
  | invalid (name : Name)
  | duplicate (name : Name)
  deriving DecidableEq, Repr

def Fault.message : Fault String → String
  | .invalid name => "Invalid attribute name: " ++ Text.quoted name
  | .duplicate name => "Duplicate attribute name: " ++ Text.quoted name

/-- Register names one after the other; the first that is not a fresh name is the fault. -/
def pushAll [DecidableEq Name] (table : Names Name isName) :
    List Name → Except (Fault Name) (Names Name isName)
  | [] => .ok table
  | name :: rest =>
    if valid : isName name = true then
      if present : name ∈ table.names then .error (.duplicate name)
      else (table.push name valid present).pushAll rest
    else .error (.invalid name)

def ofList [DecidableEq Name] (names : List Name) : Except (Fault Name) (Names Name isName) :=
  empty.pushAll names

end Names

abbrev Vocabulary := Names String isName

namespace Vocabulary

def empty : Vocabulary := Names.empty

def size (vocabulary : Vocabulary) : Nat := vocabulary.names.length

def ofNames (names : List String) : Except (Names.Fault String) Vocabulary := Names.ofList names

def id? (vocabulary : Vocabulary) (name : String) : Option Nat := vocabulary.names.idxOf? name

structure OutOfRange where
  id : Int
  deriving DecidableEq, Repr

def OutOfRange.message (fault : OutOfRange) : String :=
  "Attribute id out of range: " ++ toString fault.id

def name (vocabulary : Vocabulary) (id : Int) : Except OutOfRange String :=
  if id < 0 then .error ⟨id⟩
  else match vocabulary.names[id.toNat]? with
    | some name => .ok name
    | none => .error ⟨id⟩

def zeros (vocabulary : Vocabulary) : Counts := Counts.zeros vocabulary.size

def contains (vocabulary : Vocabulary) (name : String) : Bool := vocabulary.names.contains name

def description (vocabulary : Vocabulary) : String :=
  "VocabularyTable(" ++ toString vocabulary.size ++ " attributes)"

theorem id?_lt {vocabulary : Vocabulary} {name : String} {id : Nat}
    (found : vocabulary.id? name = some id) : id < vocabulary.size := by
  simp only [id?, List.idxOf?] at found
  exact (List.findIdx?_eq_some_iff_getElem.mp found).1

end Vocabulary

end MultisetSubstitution
