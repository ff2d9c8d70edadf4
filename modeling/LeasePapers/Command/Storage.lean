import LeasePapers.Command.Run

/-! Runs where files are kept. What a storage does with a path is its own affair: a file may be
unreadable for any reason, and an attempt to write that fails may still leave something behind.
-/

namespace LeasePapers.Command

/-- A way of keeping files: how they are read in a state of it, and what an attempt to write one
comes to, with the state that the attempt leaves. -/
structure Storage (State : Type) where
  read : State → Reading
  write : State → Text → Text → Except FileFault Unit × State

namespace Storage

variable {State : Type}

/-- Saves what a run wants saved. -/
def save (storage : Storage State) (state : State) (outcome : Outcome) : Outcome × State :=
  match outcome.saved with
  | none => (outcome, state)
  | some (path, text) =>
      match storage.write state path text with
      | (.ok (), state) => (outcome, state)
      | (.error fault, state) => (.fails (.unwritableDocument path fault), state)

/-- Runs what a command line asks for, and saves its document. -/
def run [Redaction.Patterns] (storage : Storage State) (state : State) (moment : Calendar.Moment)
    (invocation : Invocation)
    : Outcome × State :=
  storage.save state (Command.run (storage.read state) moment invocation)

end Storage

end LeasePapers.Command
