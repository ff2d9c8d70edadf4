import Mathlib.Data.List.Nodup
import LeasePapers.Text.Map

/-! What is found in a map after it has been changed. A map is determined by what is found at each
key.
-/

namespace LeasePapers.TextMap

variable {α β : Type}

/-- An entry is found at its key, by induction on the entries before the place where it goes. -/
theorem find?_insertEntry (key other : Text) (value : α) (entries : List (Text × α))
    : (insertEntry key value entries).find? (fun entry => entry.1 = other)
      = if other = key then some (key, value)
        else entries.find? (fun entry => entry.1 = other) := by
  induction entries with
  | nil => by_cases h : other = key <;> simp [insertEntry, h, Ne.symm]
  | cons first rest ih =>
      by_cases h : other = key
      · subst h
        rw [if_pos rfl] at ih ⊢
        rw [insertEntry]
        split
        · simp
        · split
          · simp
          · rename_i hne
            have hfirst : ¬first.1 = other := fun he => hne he.symm
            simp [hfirst, ih]
      · rw [if_neg h] at ih ⊢
        have hkey : ¬key = other := fun he => h he.symm
        rw [insertEntry]
        split
        · simp [List.find?_cons, hkey]
        · split
          · rename_i hfirst
            simp [hkey, ← hfirst]
          · simp only [List.find?_cons, ih]

/-- Writing to a key changes what it holds, and nothing else. -/
theorem get?_insert (map : TextMap α) (key other : Text) (value : α)
    : (map.insert key value).get? other
      = if other = key then some value else map.get? other := by
  rw [get?, insert, find?_insertEntry]
  split
  · rfl
  · rfl

/-- Erasing a key leaves nothing there, and the others as they are. -/
theorem get?_erase (map : TextMap α) (key other : Text)
    : (map.erase key).get? other = if other = key then none else map.get? other := by
  rw [get?, erase, List.find?_filter]
  by_cases h : other = key
  · rw [if_pos h, Option.map_eq_none_iff, List.find?_eq_none]
    intro entry _ hboth
    simp only [decide_eq_true_eq] at hboth
    exact hboth.1 (hboth.2.trans h)
  · have hsame : ∀ entry : Text × α,
        decide (decide (entry.1 ≠ key) = true ∧ decide (entry.1 = other) = true)
          = decide (entry.1 = other) := by
      intro entry
      by_cases he : entry.1 = other <;> simp [he, h]
    rw [if_neg h, get?]
    simp only [hsame]

/-- Values are mapped in their places. -/
theorem get?_mapValues (f : Text → α → β) (map : TextMap α) (key : Text)
    : (map.mapValues f).get? key = (map.get? key).map (f key) := by
  simp only [get?, mapValues, List.find?_map, Option.map_map, Function.comp_def]
  cases hentry : map.entries.find? (fun entry => entry.1 = key) with
  | none => rfl
  | some entry =>
      have hkey : entry.1 = key := by simpa using List.find?_some hentry
      simp [hkey]

/-- No key is there twice. -/
theorem nodup_keys (map : TextMap α) : map.keys.Nodup :=
  List.pairwise_map.mpr (map.ascending.imp Text.ne_of_precedes)

/-- A map has the entries that are found in it. -/
theorem mem_entries_iff (map : TextMap α) (key : Text) (value : α)
    : (key, value) ∈ map.entries ↔ map.get? key = some value := by
  have hunique := map.nodup_keys
  rw [get?]
  cases hfind : map.entries.find? (fun entry => entry.1 = key) with
  | none =>
      have hnone := List.find?_eq_none.mp hfind
      exact ⟨fun hmem => absurd (decide_eq_true rfl) (hnone _ hmem), by simp⟩
  | some entry =>
      have hkey : entry.1 = key := by simpa using List.find?_some hfind
      have hentry := List.mem_of_find?_eq_some hfind
      subst hkey
      constructor
      · intro hmem
        rw [List.inj_on_of_nodup_map hunique hentry hmem rfl]
        rfl
      · intro hvalue
        obtain rfl : entry.2 = value := by simpa using hvalue
        exact hentry

/-- A map has the keys under which something is found. -/
theorem mem_keys_iff (map : TextMap α) (key : Text) : key ∈ map.keys ↔ (map.get? key).isSome := by
  rw [Option.isSome_iff_exists]
  simp only [← mem_entries_iff, keys, List.mem_map, Prod.exists, exists_and_right, exists_eq_right]

/-- The keys of a map that entries are set in, by induction on the entries. -/
theorem mem_keys_insertAll (map : TextMap α) (entries : List (Text × α)) (key : Text)
    : key ∈ (map.insertAll entries).keys ↔ key ∈ map.keys ∨ key ∈ entries.map (·.1) := by
  induction entries generalizing map with
  | nil => simp [insertAll]
  | cons entry rest ih =>
      have hentry : key ∈ (map.insert entry.1 entry.2).keys ↔ key = entry.1 ∨ key ∈ map.keys := by
        rw [mem_keys_iff, mem_keys_iff, get?_insert]
        by_cases hkey : key = entry.1 <;> simp [hkey]
      rw [insertAll, List.foldl_cons, ← insertAll, ih, hentry, List.map_cons, List.mem_cons,
        or_comm (a := key = entry.1), or_assoc]

/-- The keys of a map are those of the list that it was made of. -/
theorem mem_keys_ofList (entries : List (Text × α)) (key : Text)
    : key ∈ (ofList entries).keys ↔ key ∈ entries.map (·.1) := by
  rw [ofList, mem_keys_insertAll]
  exact or_iff_right List.not_mem_nil

/-- Maps with the same entries are the same. -/
theorem eq_of_entries {first second : TextMap α} (h : first.entries = second.entries)
    : first = second := by
  obtain ⟨entries, hascending⟩ := first
  obtain ⟨others, hothers⟩ := second
  obtain rfl : entries = others := h
  rfl

/-- Maps in which the same is found at every key are equal: they have the same entries, and the
order of the keys says where each entry stands.
-/
theorem eq_of_get? {first second : TextMap α} (h : ∀ key, first.get? key = second.get? key)
    : first = second := by
  have hmem : ∀ entry, entry ∈ first.entries ↔ entry ∈ second.entries := by
    rintro ⟨key, value⟩
    rw [mem_entries_iff, mem_entries_iff, h]
  have hnodup : ∀ map : TextMap α, map.entries.Nodup := fun map => map.nodup_keys.of_map
  have hperm := (List.perm_ext_iff_of_nodup (hnodup first) (hnodup second)).mpr hmem
  have hentries : first.entries = second.entries := by
    refine hperm.eq_of_pairwise ?_ first.ascending second.ascending
    intro a b _ _ hlt hgt
    exact absurd hgt (Text.not_precedes_of_precedes hlt)
  exact eq_of_entries hentries

/-- An entry behind all others goes to the end, by induction on the others. -/
theorem insertEntry_concat {key : Text} {entries : List (Text × α)}
    (h : ∀ entry ∈ entries, Text.precedes entry.1 key = true) (value : α)
    : insertEntry key value entries = entries ++ [(key, value)] := by
  induction entries with
  | nil => rfl
  | cons first rest ih =>
      rw [List.forall_mem_cons] at h
      rw [insertEntry, if_neg (Text.not_precedes_of_precedes h.1),
        if_neg (Text.ne_of_precedes h.1).symm, ih h.2, List.cons_append]

/-- Entries that ascend behind those of a map are added as they are, by induction on them. -/
theorem entries_insertAll {map : TextMap α} {entries : List (Text × α)}
    (h : Ascending (map.entries ++ entries))
    : (map.insertAll entries).entries = map.entries ++ entries := by
  induction entries generalizing map with
  | nil => exact (List.append_nil _).symm
  | cons entry rest ih =>
      have hlast : ∀ other ∈ map.entries, Text.precedes other.1 entry.1 = true :=
        fun other hmem => (List.pairwise_append.mp h).2.2 other hmem entry List.mem_cons_self
      have hinsert : (map.insert entry.1 entry.2).entries = map.entries ++ [entry] :=
        insertEntry_concat hlast entry.2
      have hrest := @ih (map.insert entry.1 entry.2) (by rw [hinsert]; simpa using h)
      rw [hinsert, List.append_assoc] at hrest
      exact hrest

/-- A map is the map of its entries. -/
theorem ofList_entries (map : TextMap α) : ofList map.entries = map := by
  have hentries : (ofList map.entries).entries = map.entries := entries_insertAll map.ascending
  exact eq_of_entries hentries

/-- Maps that hold something under the same keys have the same keys. -/
theorem keys_eq_of_isSome {first : TextMap α} {second : TextMap β}
    (h : ∀ key, (first.get? key).isSome = (second.get? key).isSome)
    : first.keys = second.keys := by
  have hunits : first.mapValues (fun _ _ => ()) = second.mapValues (fun _ _ => ()) := by
    refine eq_of_get? (fun key => ?_)
    have hkey := h key
    rw [get?_mapValues, get?_mapValues]
    cases hfirst : first.get? key <;> cases hsecond : second.get? key <;> simp_all
  have hkeys := congrArg keys hunits
  simpa [keys, mapValues, Function.comp_def] using hkeys

end LeasePapers.TextMap
