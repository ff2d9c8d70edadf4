import LeasePapers.Text.Basic

/-! What a command line can ask for.
-/

namespace LeasePapers

/-- The five commands. -/
inductive Verb where
  | render
  | resolve
  | anonymize
  | lint
  | vars
  deriving DecidableEq, Repr

namespace Verb

/-- The word that calls a command. -/
def word : Verb → Text
  | .render => "render"
  | .resolve => "resolve"
  | .anonymize => "anonymize"
  | .lint => "lint"
  | .vars => "vars"

/-- Every command. -/
def all : List Verb := [render, resolve, anonymize, lint, vars]

/-- The command that a word calls. -/
def ofWord? (word : Text) : Option Verb :=
  all.find? (fun verb => verb.word = word)

end Verb

/-- A command with its arguments: files by their paths, and what is switched on. -/
inductive Command where
  | render (template fields : Text) (redacts : Bool) (output : Option Text)
  | resolve (fields : Text) (redacts : Bool)
  | anonymize (fields : Text)
  | lint (template : Text) (json : Bool)
  | vars (template : Text) (sample : Bool)
  deriving DecidableEq, Repr

/-- The files that a command reads. -/
def Command.inputs : Command → List Text
  | .render template fields _ _ => [template, fields]
  | .resolve fields _ => [fields]
  | .anonymize fields => [fields]
  | .lint template _ => [template]
  | .vars template _ => [template]

/-- A command, and the file with the settings if one is given. -/
structure Invocation where
  settings : Option Text
  command : Command
  deriving DecidableEq, Repr

/-- The files that a command line reads. -/
def Invocation.inputs (invocation : Invocation) : List Text :=
  invocation.settings.toList ++ invocation.command.inputs

end LeasePapers
