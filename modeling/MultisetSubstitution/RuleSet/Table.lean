import MultisetSubstitution.Json
import MultisetSubstitution.RuleSet

/-! Rule sets as tables of names and counts, and these as JSON. -/

set_option autoImplicit false

namespace MultisetSubstitution

/-- A rule by the names it counts; attributes counted zero are left out. -/
structure RuleRow (Name : Type) where
  inputs : List (Name × Int)
  outputs : List (Name × Int)
  line : Option Int
  deriving DecidableEq, Repr

structure RuleTable (Name : Type) where
  attributes : List Name
  rows : List (RuleRow Name)
  deriving DecidableEq, Repr

def nonzero {Name : Type} (names : List Name) (counts : Counts) : List (Name × Int) :=
  (names.zip counts).filter (·.2 != 0)

def Rule.row {Name : Type} (names : List Name) (rule : Rule) : RuleRow Name where
  inputs := nonzero names rule.inputs
  outputs := nonzero names rule.outputs
  line := rule.line

def RuleTable.of {Name : Type} (names : List Name) (rules : List Rule) : RuleTable Name where
  attributes := names
  rows := rules.map (Rule.row names)

def RuleSet.table (set : RuleSet) : RuleTable String := .of set.vocabulary.names set.rules

def Json.ofCounts (entries : List (Text.Codes × Int)) : Json :=
  .object (entries.map fun entry => (entry.1, .integer entry.2))

def RuleRow.toJson (row : RuleRow Text.Codes) : Json :=
  .object ([(Text.codes "inputs", .ofCounts row.inputs),
      (Text.codes "outputs", .ofCounts row.outputs)] ++
    match row.line with
    | some line => [(Text.codes "line", .integer line)]
    | none => [])

def RuleTable.toJson (table : RuleTable Text.Codes) : Json :=
  .object [(Text.codes "attributes", .array (table.attributes.map .text)),
    (Text.codes "rules", .array (table.rows.map RuleRow.toJson))]

def Json.Layout.ofIndent : Option Int → Layout
  | none => .oneLine
  | some width => .indented width.toNat

/-- How many blanks are made to write a value under an indent: the indent itself, and then those
before each line. -/
def Json.indents (json : Json) : Option Int → List Int
  | none => []
  | some width => width :: (json.lineDepths 0).map fun depth => (width.toNat * depth : Nat)

def RuleRow.numbers {Name : Type} (row : RuleRow Name) : List Int :=
  row.inputs.map (·.2) ++ row.outputs.map (·.2) ++ row.line.toList

inductive JsonFault where
  | repetition (fault : Repetition.Fault)
  | longNumber
  deriving DecidableEq, Repr

namespace RuleTable

def json (table : RuleTable Text.Codes) (indent : Option Int) : String :=
  table.toJson.write (.ofIndent indent) 0

def checkedJson (table : RuleTable Text.Codes) (indent : Option Int) (memory : Memory)
    (digits : Option Nat) : Except JsonFault String :=
  match Repetition.fault? memory (table.toJson.indents indent) with
  | some fault => .error (.repetition fault)
  | none =>
    if table.rows.all fun row => row.numbers.all (Text.fits digits) then .ok (table.json indent)
    else .error .longNumber

end RuleTable

def isCodeName (text : Text.Codes) : Bool := text != [] && !text.any (Text.isBlankCode ·.val)

/-- A rule set over names that are any texts, strings or not. -/
structure CodeRuleSet where
  vocabulary : Names Text.Codes isCodeName
  rules : List Rule
  fits : ∀ rule ∈ rules, rule.dimension = vocabulary.names.length

def CodeRuleSet.table (set : CodeRuleSet) : RuleTable Text.Codes :=
  .of set.vocabulary.names set.rules

theorem isCodeName_codes (text : String) : isCodeName (Text.codes text) = isName text := by
  have nonempty : (Text.codes text != []) = (text != "") := by
    rw [Bool.eq_iff_iff, bne_iff_ne, bne_iff_ne, Text.codes, ne_eq, List.map_eq_nil_iff,
      String.toList_eq_nil_iff]
  have blank : (Text.codes text).any (Text.isBlankCode ·.val) = Text.hasBlank text := by
    rw [Text.codes, List.any_map]
    rfl
  rw [isCodeName, isName, nonempty, blank]

def RuleSet.coded (set : RuleSet) : CodeRuleSet where
  vocabulary := {
    names := set.vocabulary.names.map Text.codes
    distinct := List.pairwise_map.mpr <| set.vocabulary.distinct.imp fun different same =>
      different (Text.codes_injective same)
    valid := by
      intro name member
      obtain ⟨text, named, rfl⟩ := List.mem_map.mp member
      rw [isCodeName_codes]
      exact set.vocabulary.valid text named }
  rules := set.rules
  fits rule member := by
    rw [List.length_map]
    exact set.fits rule member

def RuleSet.checkedJson (set : RuleSet) (indent : Option Int) (memory : Memory)
    (digits : Option Nat) : Except JsonFault String :=
  set.coded.table.checkedJson indent memory digits

end MultisetSubstitution
