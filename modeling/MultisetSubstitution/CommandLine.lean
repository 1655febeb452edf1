import MultisetSubstitution.CommandLine.Reading

/-! The command line: its arguments, and the texts that tell about them. -/

set_option autoImplicit false

namespace MultisetSubstitution.CommandLine

def parse (arguments : List String) : Except Leave Request := do
  let arguments ← (classify arguments).mapError .usage
  let reading ← Reading.take {} arguments
  reading.request.mapError .usage

def version : String := "0.1.0"

def programName : String := "transmute"

def usageText : String :=
  "usage: transmute [-h] [-i INPUT] [-v] [-t] [--max-iterations MAX_ITERATIONS]\n" ++
  "                 [--interactive] [--version]\n" ++
  "                 attributes rules\n"

def helpText : String :=
  usageText ++
  "\n" ++
  "TRANSMUTE - deterministic multiset rewriting\n" ++
  "\n" ++
  "positional arguments:\n" ++
  "  attributes            Vocabulary file, one attribute per line\n" ++
  "  rules                 Rule file, 'a, b -> c' per line\n" ++
  "\n" ++
  "options:\n" ++
  "  -h, --help            show this help message and exit\n" ++
  "  -i INPUT, --input INPUT\n" ++
  "                        Comma-separated input tokens (default: read from\n" ++
  "                        stdin)\n" ++
  "  -v, --verbose         Dump loaded tables and log every rule application\n" ++
  "  -t, --trace           Print a trace of rule applications after each result\n" ++
  "  --max-iterations MAX_ITERATIONS\n" ++
  "                        Productive passes allowed before giving up (default:\n" ++
  "                        10000)\n" ++
  "  --interactive         Start the REPL after loading\n" ++
  "  --version             show program's version number and exit\n" ++
  "\n" ++
  "Examples:\n" ++
  "  transmute a.attributes a.rules -i 'water,fire'   One-shot\n" ++
  "  transmute a.attributes a.rules -v               Verbose, read stdin\n" ++
  "  transmute a.attributes a.rules --interactive    REPL\n"

end MultisetSubstitution.CommandLine
