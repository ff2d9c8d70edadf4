import LeasePapers.Command.Option

/-! The reading of a command line, word by word. The first thing that is wrong, or that asks for
help or for the version, ends it. An option waits for its value, and is only taken in when something
else follows it; options before the command are taken in after those behind it.
-/

namespace LeasePapers.Command

/-- Why a command line asks for no command: it is refused, or it asks for help or for the version,
of a command or of the whole program. -/
inductive Ending where
  | refused
  | help
  | version (verb : Option Verb)
  deriving DecidableEq, Repr

/-- What a word is for. -/
inductive Place where
  | option (option : PathOption)
  | template
  deriving DecidableEq, Repr

/-- What has been read before a command or after one: the paths by their places, the switches, and
what waits to be taken in, with its value if that has been read. -/
structure Level where
  verb : Option Verb
  paths : List (Place × Text)
  switches : List Switch
  pending : Option (Place × Option Text)

namespace Level

/-- Nothing has been read. -/
def start (verb : Option Verb) : Level := ⟨verb, [], [], none⟩

/-- The path in a place. -/
def path? (level : Level) (place : Place) : Option Text :=
  (level.paths.find? (fun entry => entry.1 = place)).map (·.2)

/-- Takes a path in. An empty path is refused, and so is a second one in its place. -/
def take (level : Level) (place : Place) (path : Text) : Except Ending Level :=
  if path = [] ∨ (level.path? place).isSome then .error .refused
  else .ok { level with paths := level.paths ++ [(place, path)] }

/-- Takes in what is pending. -/
def settle (level : Level) : Except Ending Level :=
  match level.pending with
  | none => .ok level
  | some (_, none) => .error .refused
  | some (place, some path) => { level with pending := none }.take place path

/-- Whether an option waits for its value. -/
def isWaiting (level : Level) : Bool :=
  match level.pending with
  | some (_, none) => true
  | _ => false

/-- Takes a switch in. Only the one for more messages may be repeated. -/
def turnOn (level : Level) (switch : Switch) : Except Ending Level := do
  let level ← level.settle
  match switch with
  | .help => .error .help
  | .version => .error (.version level.verb)
  | .verbose => .ok level
  | switch =>
      if level.switches.contains switch then .error .refused
      else .ok { level with switches := level.switches ++ [switch] }

/-- Takes an option in, with its value if that is attached to it. -/
def openOption (level : Level) (option : PathOption) (value : Option Text)
    : Except Ending Level := do
  let level ← level.settle
  match value with
  | some path => level.take (.option option) path
  | none => .ok { level with pending := some (.option option, none) }

/-- Takes in a word that stands by itself: the template, if the command takes one. -/
def addWord (level : Level) (word : Text) : Except Ending Level := do
  let level ← level.settle
  if level.verb.any takesTemplate && (level.path? .template).isNone then
    .ok { level with pending := some (.template, some word) }
  else .error .refused

/-- Takes in a word that is the value of an option if one waits for it. -/
def addValueOrWord (level : Level) (word : Text) : Except Ending Level :=
  match level.pending with
  | some (place, none) => .ok { level with pending := some (place, some word) }
  | _ => level.addWord word

/-- Takes in a long option, given by what follows its two hyphens. -/
def addLong (level : Level) (text : Text) : Except Ending Level :=
  let (name, value) :=
    match Text.cutOnce '=' text with
    | some (name, value) => (name, some value)
    | none => (text, none)
  match long? level.verb name, value with
  | some (.path option), value => level.openOption option value
  | some (.switch switch), none => level.turnOn switch
  | some (.switch _), some _ => .error .refused
  | none, _ => .error .refused

/-- The value attached to a short option, if there is one; a leading equals sign does not belong to
it. -/
def attached? : Text → Option Text
  | [] => none
  | '=' :: value => some value
  | value => some value

/-- Takes in short options that share a hyphen. The first of them that takes a value takes what
follows it. -/
def addShort (level : Level) : Text → Except Ending Level
  | [] => .ok level
  | name :: rest =>
      match short? level.verb name with
      | some (.switch switch) => (level.turnOn switch).bind (fun level => level.addShort rest)
      | some (.path option) => level.openOption option (attached? rest)
      | none => .error .refused

end Level

/-- The word that asks for help about a command. -/
def helpWord : Text := "help"

/-- What follows a call for help: at most one command. -/
def helpFor : List Text → Ending
  | [] => .help
  | [word] => if (Verb.ofWord? word).isSome ∨ word = helpWord then .help else .refused
  | _ => .refused

/-- Reads the words of a level up to a command, which is handed back with the words after it. Behind
two hyphens all words stand by themselves. -/
def readLevel (trailing : Bool) (level : Level)
    : List Text → Except Ending (Level × Option (Verb × List Text))
  | [] => .ok (level, none)
  | word :: rest =>
      let mayCall := level.verb.isNone && !level.isWaiting
      if trailing then (level.addWord word).bind (fun level => readLevel true level rest)
      else if mayCall && word == helpWord then .error (helpFor rest)
      else
        match (if mayCall then Verb.ofWord? word else none), word with
        | some verb, _ => .ok (level, some (verb, rest))
        | none, ['-', '-'] => readLevel true level rest
        | none, '-' :: '-' :: text =>
            (level.addLong text).bind (fun level => readLevel false level rest)
        | none, '-' :: c :: text =>
            (level.addShort (c :: text)).bind (fun level => readLevel false level rest)
        | none, word => (level.addValueOrWord word).bind (fun level => readLevel false level rest)

/-- A path that a command cannot do without. -/
def Level.required (level : Level) (place : Place) : Except Ending Text :=
  match level.path? place with
  | some path => .ok path
  | none => .error .refused

/-- The command of a verb and what has been read after it. -/
def commandOf (verb : Verb) (level : Level) : Except Ending Command := do
  let redacts := level.switches.contains .redacts
  match verb with
  | .render =>
      let template ← level.required .template
      let fields ← level.required (.option .fields)
      .ok (.render template fields redacts (level.path? (.option .output)))
  | .resolve => .ok (.resolve (← level.required (.option .fields)) redacts)
  | .anonymize => .ok (.anonymize (← level.required (.option .fields)))
  | .lint => .ok (.lint (← level.required .template) (level.switches.contains .json))
  | .vars => .ok (.vars (← level.required .template) (level.switches.contains .sample))

/-- What a command line asks for. Settings that are named after the command win over those named
before it. -/
def ofWords (words : List Text) : Except Ending Invocation := do
  let (outer, called) ← readLevel false (Level.start none) words
  match called with
  | none => .error .refused
  | some (verb, rest) =>
      let (inner, _) ← readLevel false (Level.start (some verb)) rest
      let inner ← inner.settle
      let command ← commandOf verb inner
      let outer ← outer.settle
      let place := Place.option .settings
      .ok ⟨(inner.path? place).or (outer.path? place), command⟩

end LeasePapers.Command
