import LeasePapers.Command.Folder

/-! The program as a whole: from the words of a command line to what is printed and the exit code.
-/

namespace LeasePapers.Command

/-- The name of the program. -/
def programName : Text := "minuta"

/-- The version of the program. -/
def programVersion : Text := "0.1.0"

/-- The line that names the version, of the program or of one of its commands. -/
def versionLine (verb : Option Verb) : Text :=
  let name :=
    match verb with
    | some verb => programName ++ ['-'] ++ verb.word
    | none => programName
  name ++ [' '] ++ programVersion ++ ['\n']

/-- The exit code for a command line that is refused. -/
def refusedCode : Nat := 2

/-- What is printed, and the exit code, where a command line asks for no command. -/
def Ending.answer : Ending → Text × Nat
  | .refused => ([], refusedCode)
  | .help => ([], Failure.successCode)
  | .version verb => (versionLine verb, Failure.successCode)

/-- What a call of the program shows: what it prints, its exit code, and the failure that it
reports. -/
structure Answer where
  printed : Text
  exitCode : Nat
  failure : Option Failure
  deriving DecidableEq, Repr

/-- Calls the program with words at a moment, wherever files are kept. -/
def callIn [Redaction.Patterns] {State : Type} (storage : Storage State) (state : State)
    (moment : Calendar.Moment) (words : List Text)
    : Answer × State :=
  match ofWords words with
  | .error ending => (⟨ending.answer.1, ending.answer.2, none⟩, state)
  | .ok invocation =>
      let (outcome, left) := storage.run state moment invocation
      (⟨outcome.printed, outcome.exitCode, outcome.failure⟩, left)

/-- What a call of the program in a folder leaves: its answer, and the folder. -/
structure Result extends Answer where
  folder : Folder

/-- Calls the program with words in a folder at a moment. -/
def call [Redaction.Patterns] (folder : Folder) (moment : Calendar.Moment) (words : List Text)
    : Result :=
  let (answer, left) := callIn Folder.storage folder moment words
  { answer with folder := left }

end LeasePapers.Command
