import LeasePapers.Field.Json
import LeasePapers.Proofs.Json.Objects
import LeasePapers.Proofs.Text.Map

/-! The JSON form of a dictionary. A text is written as a string and a list as an array of strings,
so the two are never confused, and what is written is read back as the dictionary that it came from.
-/

namespace LeasePapers

namespace Field.Value

/-- What a value is written as. -/
def json : Value → Json.Value
  | .text content => .string content
  | .list items => .array (items.map .string)

/-- The tokens that a value is written in. -/
def tokens : Value → List Json.Token
  | .text content => [.string content]
  | .list items => Json.stringTokens items

/-- The layout of a value spells its tokens. -/
theorem spells_laidOut (value : Value) : Json.Spells value.laidOut value.tokens := by
  cases value with
  | text content => exact Json.spells_quote content
  | list items =>
      exact Json.spells_laidOut Json.spells_openArray Json.spells_closeArray 1 items
        (fun item _ => Json.spells_quote item)

/-- The tokens of a value make its JSON, one level deep. -/
theorem makes_json (value : Value) : Json.Makes value.tokens value.json 1 := by
  cases value with
  | text content => exact (Json.makes_string content).mono (Nat.zero_le 1)
  | list items => exact Json.makes_strings items

/-- A list of strings is the list of their texts, by induction on the items. -/
theorem mapM_scalarText? (items : List Text)
    : (items.map Json.Value.string).mapM scalarText? = some items := by
  induction items with
  | nil => rfl
  | cons item items ih =>
      rw [List.map_cons, List.mapM_cons, ih]
      rfl

/-- A value is read back from what it is written as. -/
theorem ofJson?_json (value : Value) : ofJson? value.json = some (some value) := by
  cases value with
  | text content => rfl
  | list items => rw [json, ofJson?, mapM_scalarText?, Option.map_some]

end Field.Value

namespace Dictionary

/-- The text of a dictionary spells an object with a member for each field. -/
theorem ofText?_toJson (fields : Dictionary)
    : Json.ofText? (toJson fields)
      = some (.object (fields.entries.map (fun entry => (entry.1, entry.2.json)))) :=
  (Json.makes_object fields.entries (fun entry _ => entry.2.makes_json)).ofText?
    (Json.spells_laidOut Json.spells_openObject Json.spells_closeObject 0 fields.entries
      (fun entry _ => Json.spells_memberText entry.2.spells_laidOut))
    (by decide)

/-- Members are taken in as fields, by induction on them. -/
theorem foldlM_addMember (fields : Dictionary) (entries : List (Text × Field.Value))
    : (entries.map (fun entry => (entry.1, entry.2.json))).foldlM addMember fields
      = some (fields.insertAll entries) := by
  induction entries generalizing fields with
  | nil => rfl
  | cons entry entries ih =>
      have hmember : addMember fields (entry.1, entry.2.json)
          = some (fields.insert entry.1 entry.2) := by
        rw [addMember, Field.Value.ofJson?_json]
        rfl
      rw [List.map_cons, List.foldlM_cons, hmember]
      exact ih (fields.insert entry.1 entry.2)

/-- The JSON form of a dictionary loses nothing: whatever its names and values are, it is read back.
-/
theorem ofJson_toJson (fields : Dictionary) : ofJson (toJson fields) = .ok fields := by
  have hmembers := foldlM_addMember TextMap.empty fields.entries
  have hentries : TextMap.empty.insertAll fields.entries = fields := TextMap.ofList_entries fields
  rw [hentries] at hmembers
  rw [ofJson, ofText?_toJson]
  simp only [hmembers]

end Dictionary

end LeasePapers
