import MultisetSubstitution.Text.Blank

/-! Lines of a text, the pieces of a line, and the lines that hold nothing to read. -/

set_option autoImplicit false

namespace MultisetSubstitution.Text

def isLineBreak (c : Char) : Bool :=
  let n := c.toNat
  (0xA ≤ n && n ≤ 0xD) || (0x1C ≤ n && n ≤ 0x1E) || n == 0x85 || n == 0x2028 || n == 0x2029

theorem isBlank_of_isLineBreak {c : Char} (ends : isLineBreak c = true) : isBlank c = true := by
  simp only [isLineBreak, isBlank, isBlankCode, Bool.or_eq_true, Bool.and_eq_true,
    decide_eq_true_eq, beq_iff_eq] at ends ⊢
  omega

def extendFirst (c : Char) : List (List Char) → List (List Char)
  | [] => [[c]]
  | first :: rest => (c :: first) :: rest

/-- A carriage return with a line feed after it ends one line. A break at the very end starts no
further line. -/
def lineChars : List Char → List (List Char)
  | [] => []
  | '\r' :: '\n' :: rest => [] :: lineChars rest
  | c :: rest => if isLineBreak c then [] :: lineChars rest else extendFirst c (lineChars rest)

def lines (text : String) : List String := (lineChars text.toList).map .ofList

def unifyLineEnds : List Char → List Char
  | [] => []
  | '\r' :: '\n' :: rest => '\n' :: unifyLineEnds rest
  | c :: rest => (if c = '\r' then '\n' else c) :: unifyLineEnds rest

/-- The lines of an input stream: only a line feed ends one, and it stays with its line. -/
def streamLineChars : List Char → List (List Char)
  | [] => []
  | c :: rest =>
    if c = '\n' then [c] :: streamLineChars rest else extendFirst c (streamLineChars rest)

def streamLines (text : String) : List String := (streamLineChars text.toList).map .ofList

def dropLineFeeds (line : String) : String :=
  .ofList (line.toList.reverse.dropWhile (· == '\n')).reverse

def isSkipped (line : String) : Bool :=
  match trimStart line.toList with
  | [] => true
  | c :: _ => c == '#'

def commaPieces (text : String) : List String := (text.toList.splitOn ',').map .ofList

def arrow : String := "->"

def arrowPieceChars : List Char → List (List Char)
  | [] => [[]]
  | '-' :: '>' :: rest => [] :: arrowPieceChars rest
  | c :: rest => extendFirst c (arrowPieceChars rest)

def arrowPieces (text : String) : List String := (arrowPieceChars text.toList).map .ofList

example : lines "a\r\nb\n\nc\u2028" = ["a", "b", "", "c"] := by decide +kernel

example : streamLines "a\r\n\nb" = ["a\r\n", "\n", "b"] := by decide +kernel

example : commaPieces "a,,b" = ["a", "", "b"] := by decide +kernel

example : arrowPieces "a->->b" = ["a", "", "b"] := by decide +kernel

end MultisetSubstitution.Text
