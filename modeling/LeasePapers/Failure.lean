import LeasePapers.Number.Digits

/-! What can go wrong outside the rendering itself, which never fails: unreadable files, malformed
forms and settings, and templates that do not pass the check.
-/

namespace LeasePapers

/-- Why a file cannot be read or written. -/
inductive FileFault where
  | missing
  | notADirectory
  | isADirectory
  | other (message : Text)
  deriving DecidableEq, Repr

/-- The words for a fault. -/
def FileFault.message : FileFault → Text
  | .missing => "No such file or directory (os error 2)"
  | .notADirectory => "Not a directory (os error 20)"
  | .isADirectory => "Is a directory (os error 21)"
  | .other message => message

/-- The words of the libraries that read JSON and YAML for what is wrong with a text. -/
class Wording where
  json : Text → Text
  yaml : Text → Text

/-- Plain words, where no library has its own. -/
instance : Wording where
  json _ := "no object of texts and lists"
  yaml _ := "no mapping of settings"

/-- A failure, by its cause. Malformed forms and settings come with the text that is refused. -/
inductive Failure where
  | malformedFields (text : Text)
  | malformedFieldsIn (path text : Text)
  | malformedSettings (text : Text)
  | blankKeyword
  | unfitTag (tag : Text)
  | bracesInSymbol (symbol : Text)
  | unreadableSettings (path : Text) (fault : FileFault)
  | unreadableTemplate (path : Text) (fault : FileFault)
  | unreadableFields (path : Text) (fault : FileFault)
  | unwritableDocument (path : Text) (fault : FileFault)
  | problemsInTemplate (count : Nat)
  deriving DecidableEq, Repr

namespace Failure

/-- A path between single quotes and a fault, after what was attempted. -/
def withPath (attempt path : Text) (fault : FileFault) : Text :=
  attempt ++ " '" ++ path ++ "': " ++ fault.message

/-- The words for a failure, up to those of the libraries. -/
def message : Failure → Text
  | .malformedFields _ | .malformedFieldsIn _ _ => "failed to parse fields JSON"
  | .malformedSettings _ => "failed to parse config YAML"
  | .blankKeyword =>
      "config validation failed: date_field_keywords entries must be non-empty"
  | .unfitTag tag =>
      "config validation failed: emphasis_tag must be a bare tag name like 'strong' (found '"
        ++ tag ++ "')"
  | .bracesInSymbol symbol =>
      "config validation failed: currency_symbol must not contain braces (found '"
        ++ symbol ++ "')"
  | .unreadableSettings path fault => withPath "failed to read config file" path fault
  | .unreadableTemplate path fault => withPath "failed to read template" path fault
  | .unreadableFields path fault => withPath "failed to read fields file" path fault
  | .unwritableDocument path fault => withPath "failed to write document to" path fault
  | .problemsInTemplate count =>
      "Validation failed: " ++ Number.digits count ++ " problem(s) found in template"

/-- The words of the libraries for a failure, and the file that they are about. -/
def detail [Wording] : Failure → Text
  | .malformedFields text => ": " ++ Wording.json text
  | .malformedFieldsIn path text => ": " ++ Wording.json text ++ " (in '" ++ path ++ "')"
  | .malformedSettings text => ": " ++ Wording.yaml text
  | _ => []

/-- All words for a failure, as it is reported. -/
def report [Wording] (failure : Failure) : Text :=
  failure.message ++ failure.detail

/-- Whether a failure is a finding about the template and no fault of the inputs. -/
def isFinding : Failure → Bool
  | .problemsInTemplate _ => true
  | _ => false

/-- The exit code of a run that succeeds. -/
def successCode : Nat := 0

/-- The exit code of a run with faulty inputs. -/
def faultCode : Nat := 1

/-- The exit code of a run that finds problems in a template. -/
def findingCode : Nat := 2

/-- The exit code that a failure leads to. -/
def exitCode (failure : Failure) : Nat :=
  if failure.isFinding then findingCode else faultCode

end Failure

end LeasePapers
