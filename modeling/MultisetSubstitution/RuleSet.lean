import MultisetSubstitution.Rule.Reading

/-! Rule sets: rules over one vocabulary, in order of priority. -/

set_option autoImplicit false

namespace MultisetSubstitution

structure RuleSet where
  vocabulary : Vocabulary
  rules : List Rule
  fits : ∀ rule ∈ rules, rule.dimension = vocabulary.size

namespace RuleSet

structure Misfit where
  dimension : Nat
  size : Nat
  deriving DecidableEq, Repr

def Misfit.message (fault : Misfit) : String :=
  "Rule dimension " ++ toString fault.dimension ++ " does not match vocabulary size " ++
    toString fault.size

def empty (vocabulary : Vocabulary) : RuleSet := ⟨vocabulary, [], by simp⟩

def push (set : RuleSet) (rule : Rule) (fits : rule.dimension = set.vocabulary.size) :
    RuleSet where
  vocabulary := set.vocabulary
  rules := set.rules ++ [rule]
  fits := by
    intro other member
    rcases List.mem_append.mp member with old | new
    · exact set.fits other old
    · rw [List.mem_singleton.mp new]; exact fits

def ofRules (vocabulary : Vocabulary) (rules : List Rule) : Except Misfit RuleSet :=
  match misfit : rules.find? (·.dimension != vocabulary.size) with
  | some rule => .error ⟨rule.dimension, vocabulary.size⟩
  | none => .ok ⟨vocabulary, rules, by simpa using misfit⟩

def pushLines (set : RuleSet) (number : Int) : List String → Reporting Obstacle RuleSet
  | [] => pure set
  | text :: rest =>
    match found : Rule.read set.vocabulary text (some number) with
    | .ok none => set.pushLines (number + 1) rest
    | .ok (some rule) => (set.push rule (Rule.read_dimension found)).pushLines (number + 1) rest
    | .error rejection => do
      -- No list has so many lines that their numbers are too long to be written.
      Reporting.warn (rejection.message (some number))
      set.pushLines (number + 1) rest

def ofLines (vocabulary : Vocabulary) (lines : List String) : Reporting Obstacle RuleSet :=
  (empty vocabulary).pushLines 1 lines

def ofText (vocabulary : Vocabulary) (text : String) : Reporting Obstacle RuleSet :=
  ofLines vocabulary (Text.lines text)

def size (set : RuleSet) : Nat := set.rules.length

def descriptions (set : RuleSet) : List String :=
  set.rules.map (Rule.description set.vocabulary)

def numbers (set : RuleSet) : List Int := set.rules.flatMap (Rule.numbers set.vocabulary)

def checkedDescriptions (set : RuleSet) (digits : Option Nat) :
    Except Vocabulary.ListingFault (List String) :=
  set.rules.mapM fun rule => rule.checkedDescription set.vocabulary digits

def source (set : RuleSet) (heading : Option String) : String :=
  let head := match heading with
    | none | some "" => []
    | some heading => ["# " ++ heading, ""]
  "\n".intercalate (head ++ set.rules.map (Rule.source set.vocabulary))

def copies (set : RuleSet) : List Int :=
  set.rules.flatMap fun rule =>
    Rule.sideCopies set.vocabulary rule.inputs ++ Rule.sideCopies set.vocabulary rule.outputs

def checkedSource (set : RuleSet) (heading : Option String) (memory : Memory) :
    Except Repetition.Fault String :=
  match Repetition.fault? memory set.copies with
  | some fault => .error fault
  | none => .ok (set.source heading)

def sameRules (first second : RuleSet) : Bool :=
  first.rules.length == second.rules.length &&
    (first.rules.zip second.rules).all fun pair => pair.1.sameSides pair.2

def summary (set : RuleSet) : String := "RuleSet(" ++ toString set.size ++ " rules)"

end RuleSet

end MultisetSubstitution
