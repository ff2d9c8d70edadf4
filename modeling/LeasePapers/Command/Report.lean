import LeasePapers.Json.Printer
import LeasePapers.Template.Basic

/-! What the check of a template prints.
-/

namespace LeasePapers.Command

/-- The lines of a report, one for each problem. -/
def plainReport (path : Text) (template : Template) : Text :=
  if template.isValid then path ++ ": ok\n".toList
  else path ++ [':', '\n']
    ++ template.messages.flatMap (fun message => "  - ".toList ++ message ++ ['\n'])

/-- A report as a JSON object. -/
def jsonReport (template : Template) : Text :=
  let valid : Text := if template.isValid then "true" else "false"
  let errors := Json.laidOut '[' ']' 1 (template.messages.map Json.quote)
  Json.laidOut '\x7b' '\x7d' 0
    [Json.memberText "is_valid" valid, Json.memberText "errors" errors] ++ ['\n']

end LeasePapers.Command
