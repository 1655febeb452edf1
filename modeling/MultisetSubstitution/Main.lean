import MultisetSubstitution.Program

/-! The executable: arguments, files and standard streams. -/

set_option autoImplicit false

namespace MultisetSubstitution

def faultOfError (path : String) : IO.Error → Files.Fault
  | .inappropriateType _ code _ | .resourceExhausted _ code _ | .invalidArgument _ code _ =>
    if code = 20 then .notDirectory path
    else if code = 21 then .isDirectory path
    else if code = 36 then .nameTooLong path
    else .missing path
  | _ => .missing path

def readBytes (path : Path) : IO (Except Files.Fault ByteArray) := do
  if path.text.toList.contains '\x00' then
    return .error .nulInPath
  try
    return .ok (← IO.FS.readBinFile path.text)
  catch error =>
    return .error (faultOfError path.text error)

/-- Read the files that a request names before the run that may use them. -/
def readerFor (request : CommandLine.Request) : IO FileReader := do
  let paths := (request.attributes.toList ++ request.rules.toList).map Path.ofText
  let contents ← paths.mapM fun path => do return (path, ← readBytes path)
  return fun path => (contents.lookup path).getD (.error (.missing path.text))

def perform {α : Type} (action : Reporting Escape α) : IO (Except Escape α) := do
  let (result, output) := action.runWith { sink := .console defaultMark } {}
  let out ← IO.getStdout
  let err ← IO.getStderr
  out.putStr output.out
  out.flush
  err.putStr output.err
  err.flush
  return result

def exitCode (result : Except Escape Nat) : IO UInt32 :=
  match result with
  | .ok status => return status.toUInt32
  | .error escape => do
    (← IO.getStderr).putStrLn escape.message
    return 1

/-- Feed lines from standard input until the program has finished. -/
partial def feedLines (phase : Phase) : IO UInt32 := do
  match phase with
  | .finished status => exitCode (.ok status)
  | phase =>
    let line ← (← IO.getStdin).getLine
    let event := if line.isEmpty then .endOfInput else .line line
    match ← perform (Program.feed phase event) with
    | .ok phase => feedLines phase
    | .error escape => exitCode (.error escape)

end MultisetSubstitution

open MultisetSubstitution

def main (arguments : List String) : IO UInt32 := do
  match CommandLine.parse arguments with
  | .error reason =>
    let result ← perform (Program.leave reason)
    exitCode (result.map (·.status))
  | .ok request =>
    let reader ← readerFor request
    let terminal ← (← IO.getStdin).isTty
    match ← perform (Program.start reader terminal request) with
    | .ok phase => feedLines phase
    | .error escape => exitCode (.error escape)
