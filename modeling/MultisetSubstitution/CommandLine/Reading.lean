import MultisetSubstitution.CommandLine.Argument
import MultisetSubstitution.Engine

/-! Reading the arguments in order to a request for a run. -/

set_option autoImplicit false

namespace MultisetSubstitution.CommandLine

/-- How a mention goes on after its flags with their values: it is complete, or its last flag takes
its value from the next argument. -/
inductive Remainder where
  | complete
  | wantsValue (flag : Flag)
  deriving DecidableEq, Repr

def expand (flag : Flag) (short : Bool) (attached : List Char) :
    Except UsageFault (List (Flag × String) × Remainder) :=
  if flag.takesValue then .ok ([(flag, .ofList attached)], .complete)
  else
    match attached with
    | [] => .error (.ignoredValue flag "")
    | c :: rest =>
      if !short then .error (.ignoredValue flag (.ofList (c :: rest)))
      else match Flag.spellings.lookup (.ofList ['-', c]) with
        | none => .error (.ignoredValue flag (.ofList (c :: rest)))
        | some next =>
          match rest with
          | [] =>
            if next.takesValue then .ok ([(flag, "")], .wantsValue next)
            else .ok ([(flag, ""), (next, "")], .complete)
          | c :: more => do
            let (flags, remainder) ← expand next true (c :: more)
            return ((flag, "") :: flags, remainder)

def Mention.expand (mention : Mention) : Except UsageFault (List (Flag × String) × Remainder) :=
  match mention.attached with
  | some attached => CommandLine.expand mention.flag mention.short attached.toList
  | none =>
    if mention.flag.takesValue then .ok ([], .wantsValue mention.flag)
    else .ok ([(mention.flag, "")], .complete)

/-- A double dash in the place of a value stands for none. -/
def valueOf? (text : String) : Option String := if text = "--" then none else some text

/-- What has been read so far. A place that is filled by a double dash has no path, no tokens or no
limit. -/
structure Reading where
  files : List (Option String) := []
  input : Option Tokens := none
  verbose : Bool := false
  trace : Bool := false
  maxIterations : Option Int := some defaultMaxIterations
  interactive : Bool := false
  extras : List String := []

def Reading.set (reading : Reading) (flag : Flag) (value : String) : Except Leave Reading :=
  match flag with
  | .help => .error .help
  | .version => .error .version
  | .input =>
    let tokens := match valueOf? value with
      | some text => .joined text
      | none => .separate []
    .ok { reading with input := some tokens }
  | .verbose => .ok { reading with verbose := true }
  | .trace => .ok { reading with trace := true }
  | .interactive => .ok { reading with interactive := true }
  | .maxIterations =>
    match valueOf? value with
    | none => .ok { reading with maxIterations := none }
    | some text =>
      match Text.readInteger? text with
      | some maxIterations => .ok { reading with maxIterations := some maxIterations }
      | none => .error (.usage (.noNumber flag text))

def Reading.setAll (reading : Reading) (flags : List (Flag × String)) : Except Leave Reading :=
  flags.foldlM (fun reading (flag, value) => reading.set flag value) reading

def Reading.addExtra (reading : Reading) (text : String) : Reading :=
  { reading with extras := reading.extras ++ [text] }

def fileNames : List String := ["attributes", "rules"]

def Reading.wantsFile (reading : Reading) : Bool := reading.files.length < fileNames.length

def Reading.addFile (reading : Reading) (file : Option String) : Reading :=
  { reading with files := reading.files ++ [file] }

/-- Take the arguments in order. A double dash goes with the file next to it, the one before it
first. -/
def Reading.take (reading : Reading) : List Argument → Except Leave Reading
  | [] => .ok reading
  | ⟨text, .value⟩ :: rest =>
    if reading.wantsFile then
      let reading := reading.addFile (valueOf? text)
      match rest with
      | ⟨_, .doubleDash⟩ :: rest => reading.take rest
      | rest => reading.take rest
    else (reading.addExtra text).take rest
  | ⟨dashes, .doubleDash⟩ :: ⟨text, .value⟩ :: rest =>
    if reading.wantsFile then (reading.addFile (some text)).take rest
    else ((reading.addExtra dashes).addExtra text).take rest
  | ⟨text, .doubleDash⟩ :: rest => (reading.addExtra text).take rest
  | ⟨text, .unknown⟩ :: rest => (reading.addExtra text).take rest
  | ⟨_, .mention mention⟩ :: rest =>
    match mention.expand with
    | .error fault => .error (.usage fault)
    | .ok (flags, .complete) => do (← reading.setAll flags).take rest
    | .ok (flags, .wantsValue flag) =>
      match rest with
      | ⟨value, .value⟩ :: rest => do (← reading.setAll (flags ++ [(flag, value)])).take rest
      | _ => .error (.usage (.missingValue flag))

structure Request where
  attributes : Option String
  rules : Option String
  input : Option Tokens
  verbose : Bool
  trace : Bool
  maxIterations : Option Int
  interactive : Bool
  deriving DecidableEq, Repr

def Reading.request (reading : Reading) : Except UsageFault Request :=
  match reading.files with
  | attributes :: rules :: _ =>
    if !reading.extras.isEmpty then .error (.unrecognized reading.extras)
    else match reading.maxIterations.filter (· < 1) with
      | some maxIterations => .error (.limit maxIterations)
      | none => .ok { reading with attributes, rules }
  | files => .error (.missingFiles (fileNames.drop files.length))

end MultisetSubstitution.CommandLine
