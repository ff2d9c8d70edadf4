import LeasePapers.Json.Token

/-! The value that a JSON text spells. Tokens are taken in one after the other, with the arrays and
objects that are still open kept on a stack; a text may nest them 127 deep.
-/

namespace LeasePapers.Json

/-- An array or object that is still open, with what it holds so far. -/
inductive Frame where
  | array (items : List Value)
  | object (members : List (Text × Value))
  | member (members : List (Text × Value)) (name : Text)

/-- What may come next: a value, a value or the end of an empty array, a name, a name or the end of
an empty object, the colon after a name, or what follows a value. -/
inductive Awaited where
  | value
  | firstValue
  | name
  | firstName
  | colon
  | next

/-- The open arrays and objects, innermost first, what may come next, and the finished value. -/
structure Progress where
  frames : List Frame
  awaited : Awaited
  result : Option Value

/-- How many arrays and objects may be open at once. -/
def deepestNesting : Nat := 127

namespace Progress

/-- Nothing has been read. -/
def start : Progress := ⟨[], .value, none⟩

/-- Puts a finished value where it belongs. -/
def deliver (value : Value) : List Frame → Option Progress
  | [] => some ⟨[], .next, some value⟩
  | .array items :: frames => some ⟨.array (items ++ [value]) :: frames, .next, none⟩
  | .member members name :: frames =>
      some ⟨.object (members ++ [(name, value)]) :: frames, .next, none⟩
  | .object _ :: _ => none

/-- Opens an array or object. -/
def openFrame (frame : Frame) (awaited : Awaited) (frames : List Frame) : Option Progress :=
  if frames.length < deepestNesting then some ⟨frame :: frames, awaited, none⟩ else none

/-- A token where a value may stand. -/
def takeValue (frames : List Frame) : Token → Option Progress
  | .openArray => openFrame (.array []) .firstValue frames
  | .openObject => openFrame (.object []) .firstName frames
  | .string text => deliver (.string text) frames
  | .number value => deliver (.number value) frames
  | .null => deliver .null frames
  | .boolean value => deliver (.boolean value) frames
  | _ => none

/-- A token where a name may stand. -/
def takeName : List Frame → Token → Option Progress
  | .object members :: frames, .string name => some ⟨.member members name :: frames, .colon, none⟩
  | _, _ => none

/-- The end of the innermost array or object, if the token is that. -/
def close : List Frame → Token → Option Progress
  | .array items :: frames, .closeArray => deliver (.array items) frames
  | .object members :: frames, .closeObject => deliver (.object members) frames
  | _, _ => none

/-- A token after a value. -/
def takeNext : List Frame → Token → Option Progress
  | .array items :: frames, .comma => some ⟨.array items :: frames, .value, none⟩
  | .object members :: frames, .comma => some ⟨.object members :: frames, .name, none⟩
  | frames, token => close frames token

/-- Takes one token in. -/
def take (progress : Progress) (token : Token) : Option Progress :=
  match progress.awaited with
  | .value => takeValue progress.frames token
  | .firstValue =>
      match token with
      | .closeArray => close progress.frames token
      | _ => takeValue progress.frames token
  | .name => takeName progress.frames token
  | .firstName =>
      match token with
      | .closeObject => close progress.frames token
      | _ => takeName progress.frames token
  | .colon =>
      match token with
      | .colon => some { progress with awaited := .value }
      | _ => none
  | .next => takeNext progress.frames token

end Progress

/-- The value of a whole text. -/
def ofText? (text : Text) : Option Value := do
  let finished ← (← tokens? text).foldlM Progress.take .start
  finished.result

end LeasePapers.Json
