import LeasePapers.Command.Arguments
import LeasePapers.Command.Report
import LeasePapers.Document
import LeasePapers.Field.Json
import LeasePapers.Settings.Yaml
import LeasePapers.Template.Survey

/-! The commands themselves, as functions of the files that they read. What can fail is tried in one
order: the settings, the template, the fields, and the writing of the document at last.
-/

namespace LeasePapers.Command

/-- The contents of a file, by its path. -/
abbrev Reading := Text → Except FileFault Text

/-- What a run leaves behind: what it prints, what it wants saved and where, and why it failed. -/
structure Outcome where
  printed : Text
  saved : Option (Text × Text)
  failure : Option Failure

namespace Outcome

/-- A run that prints something. -/
def prints (text : Text) : Outcome := ⟨text, none, none⟩

/-- A run that fails before it has printed anything. -/
def fails (failure : Failure) : Outcome := ⟨[], none, some failure⟩

/-- The outcome of a value, or of the failure to get it. -/
def ofResult {α : Type} (result : Except Failure α) (outcome : α → Outcome) : Outcome :=
  match result with
  | .ok value => outcome value
  | .error failure => fails failure

/-- The exit code of a run. -/
def exitCode (outcome : Outcome) : Nat :=
  match outcome.failure with
  | some failure => failure.exitCode
  | none => Failure.successCode

end Outcome

/-- The settings of a run: from a file if one is named. -/
def readSettings (files : Reading) : Option Text → Except Failure Settings
  | none => .ok .default
  | some path =>
      match files path with
      | .ok text => Settings.ofYaml text
      | .error fault => .error (.unreadableSettings path fault)

/-- The template in a file. -/
def readTemplate (files : Reading) (path : Text) : Except Failure Template :=
  match files path with
  | .ok text => .ok (Template.ofText text)
  | .error fault => .error (.unreadableTemplate path fault)

/-- The fields in a file. -/
def readFields (files : Reading) (path : Text) : Except Failure Dictionary :=
  match files path with
  | .ok text => (Dictionary.ofJson text).mapError (fun _ => .malformedFieldsIn path text)
  | .error fault => .error (.unreadableFields path fault)

/-- The settings with redaction switched on, if the command line asks for it. -/
def redacting (redacts : Bool) (settings : Settings) : Settings :=
  { settings with redacts := settings.redacts || redacts }

/-- A dictionary as it is printed. -/
def dictionaryLines (fields : Dictionary) : Text :=
  fields.toJson ++ ['\n']

variable [Redaction.Patterns]

/-- Runs a command at a moment, with settings that have been read. -/
def runWith (files : Reading) (moment : Calendar.Moment) (settings : Settings)
    : Command → Outcome
  | .render template fields redacts output =>
      .ofResult (readTemplate files template) (fun template =>
        .ofResult (readFields files fields) (fun fields =>
          let document := Document.generate template (redacting redacts settings) moment fields
          match output with
          | some path => ⟨[], some (path, document), none⟩
          | none => .prints (document ++ ['\n'])))
  | .resolve fields redacts =>
      .ofResult (readFields files fields) (fun fields =>
        .prints (dictionaryLines (Document.prepare (redacting redacts settings) moment fields)))
  | .anonymize fields =>
      .ofResult (readFields files fields) (fun fields =>
        .prints (dictionaryLines (Redaction.redact fields)))
  | .lint path json =>
      .ofResult (readTemplate files path) (fun template =>
        let report := if json then jsonReport template else plainReport path template
        let count := template.issues.length
        ⟨report, none, if template.isValid then none else some (.problemsInTemplate count)⟩)
  | .vars path sample =>
      .ofResult (readTemplate files path) (fun template =>
        if sample then .prints (dictionaryLines (template.samples moment.date))
        else .prints (template.fieldNames.flatMap (· ++ ['\n'])))

/-- Runs what a command line asks for. -/
def run (files : Reading) (moment : Calendar.Moment) (invocation : Invocation) : Outcome :=
  .ofResult (readSettings files invocation.settings) (fun settings =>
    runWith files moment settings invocation.command)

end LeasePapers.Command
