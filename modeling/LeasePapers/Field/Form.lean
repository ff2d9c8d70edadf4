import LeasePapers.Field.Dictionary
import LeasePapers.Field.Key

/-! Forms as they are filled in: values under keys, one entry after the other in the order of the
keys. A search compares keys and stops where a greater one stands, so entries out of order would
never be found. All further work is done on the dictionary of a form, which has the names for keys.
-/

namespace LeasePapers.Field

/-- A form: its entries in the order of their keys. -/
structure Form where
  entries : List (Key × Value)

/-- What is done to a form or asked of it. Keys may be made in either way. -/
inductive Step where
  | insert (key : Key) (value : Value)
  | remove (key : Key)
  | extend (entries : List (Key × Value))
  | get (key : Key)
  | contains (key : Key)
  | text (key : Key)
  | filled (key : Key)
  | isBlank (key : Key)
  | isEmpty

/-- What a step answers: a value or a text, if there is one, or whether something holds. -/
inductive Answer where
  | value (found : Option Value)
  | text (found : Option Text)
  | truth (holds : Bool)
  | done
  deriving DecidableEq, Repr

namespace Form

/-- The form without entries. -/
def empty : Form := ⟨[]⟩

/-- The value at a name. -/
def findIn (name : Text) : List (Key × Value) → Option Value
  | [] => none
  | (key, value) :: rest =>
      match Text.order name key.name with
      | .lt => none
      | .eq => some value
      | .gt => findIn name rest

/-- Sets the value at a key: what it takes the place of, and the entries after it. A key that is
there already stays. -/
def insertIn (key : Key) (value : Value) : List (Key × Value) → Option Value × List (Key × Value)
  | [] => (none, [(key, value)])
  | (other, old) :: rest =>
      match Key.order key other with
      | .lt => (none, (key, value) :: (other, old) :: rest)
      | .eq => (some old, (other, value) :: rest)
      | .gt =>
          let (replaced, entries) := insertIn key value rest
          (replaced, (other, old) :: entries)

/-- Takes the entry at a name out: its value, and the entries after it. -/
def removeIn (name : Text) : List (Key × Value) → Option Value × List (Key × Value)
  | [] => (none, [])
  | (key, value) :: rest =>
      match Text.order name key.name with
      | .lt => (none, (key, value) :: rest)
      | .eq => (some value, rest)
      | .gt =>
          let (removed, entries) := removeIn name rest
          (removed, (key, value) :: entries)

/-- The value at a key. -/
def get? (form : Form) (key : Key) : Option Value :=
  findIn key.name form.entries

/-- Whether there is a value at a key. -/
def contains (form : Form) (key : Key) : Bool :=
  (form.get? key).isSome

/-- The text at a key, if it holds one. -/
def text? (form : Form) (key : Key) : Option Text :=
  (form.get? key).bind Value.text?

/-- The trimmed text at a key, if anything is left of it. -/
def filled? (form : Form) (key : Key) : Option Text :=
  match (form.text? key).map Text.trim with
  | some [] => none
  | other => other

/-- Whether nothing is held at a key, or a blank value. -/
def isBlank (form : Form) (key : Key) : Bool :=
  match form.get? key with
  | some value => value.isBlank
  | none => true

/-- The number of entries. -/
def size (form : Form) : Nat := form.entries.length

/-- The names of the fields in the order of the entries. -/
def names (form : Form) : List Text := form.entries.map (·.1.name)

/-- Sets the value at a key; also the value that was there. -/
def insert (form : Form) (key : Key) (value : Value) : Option Value × Form :=
  let (replaced, entries) := insertIn key value form.entries
  (replaced, ⟨entries⟩)

/-- Takes a key out; also the value that was there. -/
def remove (form : Form) (key : Key) : Option Value × Form :=
  let (removed, entries) := removeIn key.name form.entries
  (removed, ⟨entries⟩)

/-- Sets the values of a list of entries, one after the other. -/
def extend (form : Form) (entries : List (Key × Value)) : Form :=
  entries.foldl (fun form entry => (form.insert entry.1 entry.2).2) form

/-- Takes a step: its answer, and the form after it. -/
def take (form : Form) : Step → Answer × Form
  | .insert key value =>
      let (replaced, form) := form.insert key value
      (.value replaced, form)
  | .remove key =>
      let (removed, form) := form.remove key
      (.value removed, form)
  | .extend entries => (.done, form.extend entries)
  | .get key => (.value (form.get? key), form)
  | .contains key => (.truth (form.contains key), form)
  | .text key => (.text (form.text? key), form)
  | .filled key => (.text (form.filled? key), form)
  | .isBlank key => (.truth (form.isBlank key), form)
  | .isEmpty => (.truth form.entries.isEmpty, form)

/-- The form of a dictionary: each name as the key that is made from it. -/
def ofDictionary (fields : Dictionary) : Form :=
  ⟨fields.entries.map (fun (name, value) => (Key.ofName name, value))⟩

/-- The dictionary of a form. -/
def dictionary (form : Form) : Dictionary :=
  TextMap.ofList (form.entries.map (fun (key, value) => (key.name, value)))

end Form

end LeasePapers.Field
