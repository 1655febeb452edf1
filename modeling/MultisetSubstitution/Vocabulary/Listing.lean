import MultisetSubstitution.Repetition
import MultisetSubstitution.Text.Numeral
import MultisetSubstitution.Vocabulary

/-! Listings: the attributes that are present in a multiset, with their counts. -/

set_option autoImplicit false

namespace MultisetSubstitution.Vocabulary

def entries (vocabulary : Vocabulary) (counts : Counts) : List (String × Int) :=
  (vocabulary.names.zip counts).filter (0 < ·.2)

def numbers (vocabulary : Vocabulary) (counts : Counts) : List Int :=
  (vocabulary.entries counts).map (·.2)

def entryText (entry : String × Int) : String := entry.1 ++ ":" ++ toString entry.2

def listing (vocabulary : Vocabulary) (counts : Counts) : List String :=
  (vocabulary.entries counts).map entryText

def listingText (vocabulary : Vocabulary) (counts : Counts) : String :=
  ", ".intercalate (vocabulary.listing counts)

def firstUnnamed? (vocabulary : Vocabulary) (counts : Counts) : Option Nat :=
  ((counts.drop vocabulary.size).findIdx? (0 < ·)).map (vocabulary.size + ·)

def listing? (vocabulary : Vocabulary) (counts : Counts) (digits : Option Nat) :
    Option (List String) :=
  if (vocabulary.numbers counts).all (Text.fits digits) then some (vocabulary.listing counts)
  else none

inductive ListingFault where
  | unnamed (fault : OutOfRange)
  | longNumber
  deriving DecidableEq, Repr

def ListingFault.message : ListingFault → String
  | .unnamed fault => fault.message
  | .longNumber => "a number is too long to be written"

def checkedListing (vocabulary : Vocabulary) (counts : Counts) (digits : Option Nat) :
    Except ListingFault (List String) :=
  match vocabulary.listing? counts digits, vocabulary.firstUnnamed? counts with
  | none, _ => .error .longNumber
  | some _, some id => .error (.unnamed ⟨id⟩)
  | some listing, none => .ok listing

def checkedText (vocabulary : Vocabulary) (counts : Counts) (digits : Option Nat) :
    Except ListingFault String :=
  (vocabulary.checkedListing counts digits).map (", ".intercalate ·)

def repeated (entries : List (String × Int)) : List String :=
  entries.flatMap fun entry => List.replicate entry.2.toNat entry.1

def checkedRepeated (entries : List (String × Int)) (memory : Memory) :
    Except Repetition.Fault (List String) :=
  match Repetition.fault? memory (entries.map (·.2)) with
  | some fault => .error fault
  | none => .ok (repeated entries)

theorem firstUnnamed?_eq_none {vocabulary : Vocabulary} {counts : Counts}
    (fits : counts.length ≤ vocabulary.size) : vocabulary.firstUnnamed? counts = none := by
  simp [firstUnnamed?, List.drop_eq_nil_of_le fits]

@[simp] theorem listing?_none {vocabulary : Vocabulary} {counts : Counts} :
    vocabulary.listing? counts none = some (vocabulary.listing counts) := by
  simp [listing?]

theorem checkedListing_eq_ok {vocabulary : Vocabulary} {counts : Counts}
    (fits : counts.length ≤ vocabulary.size) :
    vocabulary.checkedListing counts none = .ok (vocabulary.listing counts) := by
  simp [checkedListing, firstUnnamed?_eq_none fits]

end MultisetSubstitution.Vocabulary
