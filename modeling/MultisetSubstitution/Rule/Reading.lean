import MultisetSubstitution.Diagnostics
import MultisetSubstitution.Rule

/-! Reading a rule from a line of text: two comma-separated sides with an arrow between them. -/

set_option autoImplicit false

namespace MultisetSubstitution

/-- Count the names among the pieces, blank pieces apart; the failure is the first piece that is no
name. -/
def Vocabulary.countPieces (vocabulary : Vocabulary) :
    List String → Counts → Except String Counts
  | [], counts => .ok counts
  | piece :: rest, counts =>
    let token := Text.trim piece
    if token = "" then vocabulary.countPieces rest counts
    else match vocabulary.id? token with
      | some id => vocabulary.countPieces rest (counts.increment id)
      | none => .error token

def Vocabulary.readSide (vocabulary : Vocabulary) (text : String) : Except String Counts :=
  vocabulary.countPieces (Text.commaPieces text) vocabulary.zeros

theorem Vocabulary.countPieces_length {vocabulary : Vocabulary} {pieces : List String}
    {counts after : Counts} (read : vocabulary.countPieces pieces counts = .ok after) :
    after.length = counts.length := by
  induction pieces generalizing counts with
  | nil => simp_all [countPieces]
  | cons piece rest ih =>
    simp only [countPieces] at read
    split at read
    · exact ih read
    · split at read
      · rw [ih read, Counts.length_increment]
      · exact nomatch read

theorem Vocabulary.countPieces_nonnegative {vocabulary : Vocabulary} {pieces : List String}
    {counts after : Counts} (read : vocabulary.countPieces pieces counts = .ok after)
    (nonnegative : ∀ count ∈ counts, 0 ≤ count) : ∀ count ∈ after, 0 ≤ count := by
  induction pieces generalizing counts with
  | nil => simp_all [countPieces]
  | cons piece rest ih =>
    simp only [countPieces] at read
    split at read
    · exact ih read nonnegative
    · split at read
      · exact ih read (Counts.increment_nonnegative _ nonnegative)
      · exact nomatch read

theorem Vocabulary.readSide_length {vocabulary : Vocabulary} {text : String} {counts : Counts}
    (read : vocabulary.readSide text = .ok counts) : counts.length = vocabulary.size := by
  rw [countPieces_length read, zeros, Counts.length_zeros]

theorem Vocabulary.readSide_nonnegative {vocabulary : Vocabulary} {text : String}
    {counts : Counts} (read : vocabulary.readSide text = .ok counts) :
    ∀ count ∈ counts, 0 ≤ count :=
  countPieces_nonnegative read Counts.zeros_nonnegative

namespace Rule

inductive Rejection where
  | arrows
  | unknown (token : String)
  | noInput
  | unchanged
  deriving DecidableEq, Repr

def atLine : Option Int → String
  | some line => " on line " ++ toString line
  | none => ""

def Rejection.message (line : Option Int) : Rejection → String
  | .arrows => "Failed to split input from output" ++ atLine line ++ "."
  | .unknown token => "Unrecognized attribute `" ++ token ++ "`" ++ atLine line ++ "."
  | .noInput => "Rejected no-input recipe" ++ atLine line ++ "."
  | .unchanged => "Rejected self->self rule" ++ atLine line ++ "."

def readSides (vocabulary : Vocabulary) (left right : String) (line : Option Int) :
    Except Rejection Rule :=
  match leftRead : vocabulary.readSide left with
  | .error token => .error (.unknown token)
  | .ok inputs =>
    if consumes : inputs.isZero = false then
      match rightRead : vocabulary.readSide right with
      | .error token => .error (.unknown token)
      | .ok outputs =>
        if changes : inputs ≠ outputs then
          .ok { inputs, outputs, line, consumes, changes
                sameLength := by
                  rw [Vocabulary.readSide_length leftRead, Vocabulary.readSide_length rightRead]
                inputsNonnegative := Vocabulary.readSide_nonnegative leftRead
                outputsNonnegative := Vocabulary.readSide_nonnegative rightRead }
        else .error .unchanged
    else .error .noInput

def read (vocabulary : Vocabulary) (text : String) (line : Option Int) :
    Except Rejection (Option Rule) :=
  if Text.isSkipped text then .ok none
  else match Text.arrowPieces text with
    | [left, right] => (readSides vocabulary left right line).map some
    | _ => .error .arrows

theorem readSides_dimension {vocabulary : Vocabulary} {left right : String} {line : Option Int}
    {rule : Rule} (found : readSides vocabulary left right line = .ok rule) :
    rule.dimension = vocabulary.size := by
  unfold readSides at found
  split at found
  · exact nomatch found
  · rename_i inputs leftRead
    split at found
    · split at found
      · exact nomatch found
      · split at found
        · cases found
          exact Vocabulary.readSide_length leftRead
        · exact nomatch found
    · exact nomatch found

theorem read_dimension {vocabulary : Vocabulary} {text : String} {line : Option Int} {rule : Rule}
    (found : read vocabulary text line = .ok (some rule)) : rule.dimension = vocabulary.size := by
  unfold read at found
  split at found
  · exact nomatch found
  · split at found
    · rename_i left right pieces
      cases sides : readSides vocabulary left right line with
      | error rejection => simp [sides, Except.map] at found
      | ok other =>
        simp only [sides, Except.map, Except.ok.injEq, Option.some.injEq] at found
        exact found ▸ readSides_dimension sides
    · exact nomatch found

def Rejection.report (line : Option Int) (rejection : Rejection) : Reporting Obstacle Unit := do
  Reporting.warn (← Reporting.write line.toList (rejection.message line))

def parse (vocabulary : Vocabulary) (text : String) (line : Option Int) :
    Reporting Obstacle (Option Rule) :=
  match read vocabulary text line with
  | .ok found => pure found
  | .error rejection => do
    rejection.report line
    return none

def parseSide (vocabulary : Vocabulary) (text : String) (line : Option Int) :
    Reporting Obstacle (Option Counts) :=
  match vocabulary.readSide text with
  | .ok counts => pure (some counts)
  | .error token => do
    (Rejection.unknown token).report line
    return none

end Rule

end MultisetSubstitution
