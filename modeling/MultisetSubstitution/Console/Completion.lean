import MultisetSubstitution.Console

/-! Completion of what is typed at the console. -/

set_option autoImplicit false

namespace MultisetSubstitution.Console

def commandWords : List String :=
  [":help", ":quit", ":exit", ":q", ":vocab", ":rules", ":verbose", ":trace"]

/-- The ways to complete a text that stands in a line: the switches after a command that takes one,
else commands where a command is begun, else attribute names for what follows the last comma. -/
def completions (console : Console) (text line : String) : List String :=
  let line : String := .ofList (Text.trimStart line.toList)
  if Text.beginsWith line ":verbose " || Text.beginsWith line ":trace " then
    ["on", "off"].filter (Text.beginsWith · text)
  else if Text.beginsWith text ":" ||
      (Text.beginsWith line ":" && !line.toList.contains ' ') then
    commandWords.filter (Text.beginsWith · text)
  else
    let start := Text.trim ((Text.commaPieces text).getLastD "")
    console.engine.vocabulary.names.filter (Text.beginsWith · start)

end MultisetSubstitution.Console
