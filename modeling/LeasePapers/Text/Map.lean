import LeasePapers.Text.Order

/-! Maps with texts for keys, held as a list of entries in strictly ascending order of keys, so
that a map has one entry for each key.
-/

namespace LeasePapers

namespace TextMap

/-- The keys of the entries ascend strictly. -/
def Ascending {α : Type} (entries : List (Text × α)) : Prop :=
  entries.Pairwise (fun a b => Text.precedes a.1 b.1 = true)

/-- The entries with the value at `key` set. -/
def insertEntry {α : Type} (key : Text) (value : α) : List (Text × α) → List (Text × α)
  | [] => [(key, value)]
  | entry :: rest =>
      if Text.precedes key entry.1 then (key, value) :: entry :: rest
      else if key = entry.1 then (key, value) :: rest
      else entry :: insertEntry key value rest

/-- An entry of a map that was written to is the new entry or an old one, by induction on the
entries. -/
theorem mem_insertEntry {α : Type} {key : Text} {value : α} {entries : List (Text × α)}
    {entry : Text × α} (h : entry ∈ insertEntry key value entries)
    : entry = (key, value) ∨ entry ∈ entries := by
  induction entries with
  | nil => simpa [insertEntry] using h
  | cons first rest ih =>
      simp only [insertEntry] at h
      split at h
      · simpa using h
      · split at h
        · rcases List.mem_cons.mp h with h | h
          · exact Or.inl h
          · exact Or.inr (List.mem_cons_of_mem _ h)
        · rcases List.mem_cons.mp h with h | h
          · exact Or.inr (by simp [h])
          · rcases ih h with h | h
            · exact Or.inl h
            · exact Or.inr (List.mem_cons_of_mem _ h)

/-- Writing an entry keeps the keys in ascending order, by induction on the entries. -/
theorem ascending_insertEntry {α : Type} (key : Text) (value : α) {entries : List (Text × α)}
    (h : Ascending entries)
    : Ascending (insertEntry key value entries) := by
  induction entries with
  | nil => simp [insertEntry, Ascending]
  | cons first rest ih =>
      obtain ⟨hfirst, hrest⟩ := List.pairwise_cons.mp h
      simp only [insertEntry]
      split
      · rename_i hlt
        refine List.pairwise_cons.mpr ⟨fun entry hentry => ?_, h⟩
        rcases List.mem_cons.mp hentry with rfl | hmem
        · exact hlt
        · exact Text.precedes_trans hlt (hfirst entry hmem)
      · split
        · rename_i heq
          exact List.pairwise_cons.mpr ⟨fun entry hmem => heq ▸ hfirst entry hmem, hrest⟩
        · rename_i hnot hne
          refine List.pairwise_cons.mpr ⟨fun entry hmem => ?_, ih hrest⟩
          rcases mem_insertEntry hmem with rfl | hmem
          · exact Text.precedes_of_not_precedes (by simpa using hnot) hne
          · exact hfirst entry hmem

end TextMap

/-- A map from texts. -/
structure TextMap (α : Type) where
  entries : List (Text × α)
  ascending : TextMap.Ascending entries

namespace TextMap

variable {α β : Type}

/-- The map without entries. -/
def empty : TextMap α := ⟨[], List.Pairwise.nil⟩

/-- The value at a key. -/
def get? (map : TextMap α) (key : Text) : Option α :=
  (map.entries.find? (fun entry => entry.1 = key)).map (·.2)

/-- Whether there is a value at a key. -/
def contains (map : TextMap α) (key : Text) : Bool :=
  (map.get? key).isSome

/-- The number of entries. -/
def size (map : TextMap α) : Nat := map.entries.length

/-- The keys in ascending order. -/
def keys (map : TextMap α) : List Text := map.entries.map (·.1)

/-- Sets the value at a key. -/
def insert (map : TextMap α) (key : Text) (value : α) : TextMap α :=
  ⟨insertEntry key value map.entries, ascending_insertEntry key value map.ascending⟩

/-- Takes a key out. -/
def erase (map : TextMap α) (key : Text) : TextMap α :=
  ⟨map.entries.filter (fun entry => entry.1 ≠ key), map.ascending.filter _⟩

/-- Sets the values of a list of entries, one after the other. -/
def insertAll (map : TextMap α) (entries : List (Text × α)) : TextMap α :=
  entries.foldl (fun map entry => map.insert entry.1 entry.2) map

/-- The map of a list of entries; of two entries with one key the later counts. -/
def ofList (entries : List (Text × α)) : TextMap α :=
  empty.insertAll entries

/-- Replaces every value, with its key at hand. -/
def mapValues (f : Text → α → β) (map : TextMap α) : TextMap β :=
  ⟨map.entries.map (fun entry => (entry.1, f entry.1 entry.2)), by
    have h := map.ascending
    simp only [Ascending, List.pairwise_map] at h ⊢
    exact h⟩

end TextMap

end LeasePapers
