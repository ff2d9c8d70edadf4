import LeasePapers.Command.Program
import Std.Time.Zoned

/-! The program on a real system: it reads the files that the command line names, runs the command
on what it has read, and prints and saves what comes out.
-/

namespace LeasePapers

/-- The fault behind an error of the system. -/
def FileFault.ofError : IO.Error → FileFault
  | .noFileOrDirectory _ _ _ => .missing
  | .inappropriateType _ code _ =>
      if code = 20 then .notADirectory else .isADirectory
  | error => .other (toString error).toList

/-- Reads a file from the disk. -/
def readFile (path : Text) : IO (Except FileFault Text) := do
  match ← (IO.FS.readFile (String.ofList path)).toBaseIO with
  | .ok text => return .ok text.toList
  | .error error => return .error (.ofError error)

/-- Reads the files that a command line names. -/
def readInputs (invocation : Invocation) : IO Command.Reading := do
  let read ← invocation.inputs.mapM (fun path => do return (path, ← readFile path))
  return fun path => ((read.find? (fun file => file.1 = path)).map (·.2)).getD (.error .missing)

/-- Saves what a run wants saved on the disk. -/
def saveOutcome (outcome : Command.Outcome) : IO Command.Outcome := do
  match outcome.saved with
  | none => return outcome
  | some (path, text) =>
      match ← (IO.FS.writeFile (String.ofList path) (String.ofList text)).toBaseIO with
      | .ok () => return outcome
      | .error error => return .fails (.unwritableDocument path (.ofError error))

/-- The present moment by the local clock. -/
def presentMoment : IO Calendar.Moment := do
  let now ← Std.Time.PlainDateTime.now
  let year := now.year.toInt
  let month := now.month.val.toNat
  let day := now.day.val.toNat
  match Calendar.Date.ofParts? year month day with
  | some date => return ⟨date, now.hour.val.toNat⟩
  | none => throw (.userError "the clock shows no date of the calendar")

end LeasePapers

open LeasePapers

/-- Runs the command that the arguments ask for. -/
def main (args : List String) : IO UInt32 := do
  match Command.ofWords (args.map String.toList) with
  | .error ending =>
      IO.print (String.ofList ending.answer.1)
      return ending.answer.2.toUInt32
  | .ok invocation =>
      let files ← readInputs invocation
      let outcome ← saveOutcome (Command.run files (← presentMoment) invocation)
      IO.print (String.ofList outcome.printed)
      if let some failure := outcome.failure then
        IO.eprintln ("Error: " ++ String.ofList failure.report)
      return outcome.exitCode.toUInt32
