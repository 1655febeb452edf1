import MultisetSubstitution.RuleSet

/-! Engines: a rule set with the settings of its runs, and the counting of tokens. -/

set_option autoImplicit false

namespace MultisetSubstitution

inductive Tokens where
  | joined (text : String)
  | separate (tokens : List String)
  deriving DecidableEq, Repr

def Tokens.toList : Tokens → List String
  | .joined text => Text.commaPieces text
  | .separate tokens => tokens

def defaultMaxIterations : Int := 10000

structure Engine where
  rules : RuleSet
  verbose : Bool := false
  maxIterations : Int := defaultMaxIterations

namespace Engine

inductive Fault where
  | otherVocabulary
  | limit (maxIterations : Int)
  deriving DecidableEq, Repr

def Fault.message : Fault → String
  | .otherVocabulary => "Rule set was built against a different vocabulary"
  | .limit maxIterations => "max_iterations must be positive, got " ++ toString maxIterations

def ofTables (vocabulary : Vocabulary) (rules : RuleSet) (verbose : Bool) (maxIterations : Int) :
    Except Fault Engine :=
  if rules.vocabulary ≠ vocabulary then .error .otherVocabulary
  else if maxIterations < 1 then .error (.limit maxIterations)
  else .ok { rules, verbose, maxIterations }

def vocabulary (engine : Engine) : Vocabulary := engine.rules.vocabulary

def summary (engine : Engine) : String :=
  "RewriteEngine(" ++ toString engine.vocabulary.size ++ " attributes, " ++
    toString engine.rules.size ++ " rules)"

def writeCounts (engine : Engine) (counts : Counts) : Reporting Obstacle String :=
  Reporting.write (engine.vocabulary.numbers counts) (engine.vocabulary.listingText counts)

def writeRule (engine : Engine) (rule : Rule) : Reporting Obstacle String :=
  Reporting.write (rule.numbers engine.vocabulary) (rule.description engine.vocabulary)

def countFrom (engine : Engine) (counts : Counts) : List String → Reporting Obstacle Counts
  | [] => pure counts
  | token :: rest =>
    let name := Text.trim token
    match engine.vocabulary.id? name with
    | some id => engine.countFrom (counts.increment id) rest
    | none => do
      Reporting.warn ("Omitting unrecognized attribute `" ++ name ++ "`.")
      engine.countFrom counts rest

def count (engine : Engine) (tokens : List String) : Reporting Obstacle Counts :=
  engine.countFrom engine.vocabulary.zeros tokens

def enabledIndices (engine : Engine) (counts : Counts) : List Nat :=
  engine.rules.rules.zipIdx.filterMap fun (rule, index) =>
    if rule.enabled counts then some index else none

def matching (engine : Engine) (tokens : List String) : Reporting Obstacle (List Nat) := do
  let counts ← engine.count tokens
  return engine.enabledIndices counts

def tableHead (engine : Engine) : List String :=
  let names := engine.vocabulary.names
  ["TOTAL_ATTR: " ++ toString engine.vocabulary.size,
    "STR_TO_ID: " ++
      " | ".intercalate (names.zipIdx.map fun (name, id) => name ++ ":" ++ toString id),
    "ID_TO_STR: " ++ " | ".intercalate names,
    "RULE_COUNT: " ++ toString engine.rules.size,
    "RULE_PRINTOUT_FULL"]

/-- All rules are written before the first of them is logged. -/
def logTables (engine : Engine) : Reporting Obstacle Unit := do
  engine.tableHead.forM Reporting.log
  let descriptions ← Reporting.write engine.rules.numbers engine.rules.descriptions
  (descriptions.map ("  " ++ ·)).forM Reporting.log

end Engine

end MultisetSubstitution
