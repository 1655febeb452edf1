import MultisetSubstitution.Text.Quoted

/-! Flags of the command line, and what can be wrong with its arguments. -/

set_option autoImplicit false

namespace MultisetSubstitution

inductive Flag where
  | help
  | input
  | verbose
  | trace
  | maxIterations
  | interactive
  | version
  deriving DecidableEq, Repr

namespace Flag

def spellings : List (String × Flag) := [
  ("-h", .help), ("--help", .help), ("-i", .input), ("--input", .input), ("-v", .verbose),
  ("--verbose", .verbose), ("-t", .trace), ("--trace", .trace),
  ("--max-iterations", .maxIterations), ("--interactive", .interactive), ("--version", .version)]

def takesValue : Flag → Bool
  | .input | .maxIterations => true
  | _ => false

def title (flag : Flag) : String :=
  "/".intercalate ((spellings.filter (·.2 == flag)).map (·.1))

end Flag

namespace CommandLine

inductive UsageFault where
  | ambiguous (argument : String) (spellings : List String)
  | missingValue (flag : Flag)
  | ignoredValue (flag : Flag) (value : String)
  | noNumber (flag : Flag) (value : String)
  | missingFiles (names : List String)
  | unrecognized (arguments : List String)
  | limit (maxIterations : Int)
  deriving DecidableEq, Repr

def UsageFault.message : UsageFault → String
  | .ambiguous argument spellings =>
    "ambiguous option: " ++ argument ++ " could match " ++ ", ".intercalate spellings
  | .missingValue flag => "argument " ++ flag.title ++ ": expected one argument"
  | .ignoredValue flag value =>
    "argument " ++ flag.title ++ ": ignored explicit argument " ++ Text.quoted value
  | .noNumber flag value =>
    "argument " ++ flag.title ++ ": invalid int value: " ++ Text.quoted value
  | .missingFiles names => "the following arguments are required: " ++ ", ".intercalate names
  | .unrecognized arguments => "unrecognized arguments: " ++ " ".intercalate arguments
  | .limit maxIterations =>
    "--max-iterations must be positive, got " ++ toString maxIterations

inductive Leave where
  | help
  | version
  | usage (fault : UsageFault)
  deriving DecidableEq, Repr

end CommandLine

end MultisetSubstitution
