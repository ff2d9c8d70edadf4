import LeasePapers.Command.Invocation

/-! The options and switches of a command line, and where they may stand: before a command those
that belong to all of them, and after it also its own.
-/

namespace LeasePapers.Command

/-- An option that takes a path. -/
inductive PathOption where
  | settings
  | fields
  | output
  deriving DecidableEq, Repr

/-- A switch, which takes no value. -/
inductive Switch where
  | verbose
  | redacts
  | json
  | sample
  | help
  | version
  deriving DecidableEq, Repr

/-- What an option's name may stand for. -/
inductive Named where
  | path (option : PathOption)
  | switch (switch : Switch)
  deriving DecidableEq, Repr

/-- The long names before any command. -/
def sharedLongNames : List (String × Named) :=
  [("config", .path .settings), ("verbose", .switch .verbose), ("help", .switch .help),
   ("version", .switch .version)]

/-- The short names before any command. -/
def sharedShortNames : List (Char × Named) :=
  [('v', .switch .verbose), ('h', .switch .help), ('V', .switch .version)]

/-- The long names that a command adds. -/
def longNames : Verb → List (String × Named)
  | .render =>
      [("fields", .path .fields), ("output", .path .output), ("anonymize", .switch .redacts)]
  | .resolve => [("fields", .path .fields), ("anonymize", .switch .redacts)]
  | .anonymize => [("fields", .path .fields)]
  | .lint => [("json", .switch .json)]
  | .vars => [("sample", .switch .sample)]

/-- The short names that a command adds. -/
def shortNames : Verb → List (Char × Named)
  | .render => [('f', .path .fields), ('o', .path .output)]
  | .resolve | .anonymize => [('f', .path .fields)]
  | .lint | .vars => []

/-- What a long name stands for, before a command or after one. -/
def long? (verb : Option Verb) (name : Text) : Option Named :=
  let names := sharedLongNames ++ (verb.map longNames).getD []
  (names.find? (fun entry => entry.1.toList = name)).map (·.2)

/-- What a short name stands for, before a command or after one. -/
def short? (verb : Option Verb) (name : Char) : Option Named :=
  let names := sharedShortNames ++ (verb.map shortNames).getD []
  (names.find? (fun entry => entry.1 = name)).map (·.2)

/-- Whether a command takes a template. -/
def takesTemplate : Verb → Bool
  | .render | .lint | .vars => true
  | .resolve | .anonymize => false

end LeasePapers.Command
