import Mathlib.Data.Finmap
import LeasePapers.Field.Form
import LeasePapers.Proofs.Field.Dictionary
import LeasePapers.Proofs.Text.Bytes
import LeasePapers.Proofs.Text.Map

/-! Forms as maps from plain names. Since keys are compared by their names alone, the entries of a
form are those of a map from texts at every point, and whatever is done to a form answers as a
finite map from names does, in whichever way the keys are made.
-/

namespace LeasePapers

namespace Field

/-- Both ways of making a key from a name make a key of that name. -/
theorem Key.name_ofName (name : Text) : (ofName name).name = name := by
  rw [ofName]
  cases h : ofName? name with
  | none => rfl
  | some field =>
      have hname : field.name = name := name_of_ofName? h
      exact hname

/-- The key that is made from the name of a known field is the key of that field. -/
theorem Key.ofName_name (field : Field) : ofName field.name = .known field := by
  rw [ofName, ofName?_name]

/-- The key that is made from a name is the same as the key that holds the name itself. -/
theorem Key.ofName_beq_custom (name : Text) : (ofName name == custom name) = true := by
  have hnames : ((ofName name).name == name) = true := beq_iff_eq.mpr (name_ofName name)
  exact hnames

namespace Form

-----------------------------------------------------------------------------------------
-- Entries under plain names
-----------------------------------------------------------------------------------------

/-- Entries with the names of their keys for keys. -/
def plain (entries : List (Key × Value)) : List (Text × Value) :=
  entries.map (fun entry => (entry.1.name, entry.2))

/-- The plain entries of a form, one by one. -/
theorem plain_cons (key : Key) (value : Value) (rest : List (Key × Value))
    : plain ((key, value) :: rest) = (key.name, value) :: plain rest :=
  rfl

/-- Entries that follow a greater name do not have the name, for the names ascend. -/
theorem forall_ne_of_precedes {name : Text} {first : Text × Value} {rest : List (Text × Value)}
    (hascending : TextMap.Ascending (first :: rest)) (h : Text.precedes name first.1 = true)
    : ∀ entry ∈ first :: rest, entry.1 ≠ name := by
  have hlater : ∀ entry ∈ first :: rest, Text.precedes name entry.1 = true :=
    List.forall_mem_cons.mpr ⟨h, fun entry hmem =>
      Text.precedes_trans h ((List.pairwise_cons.mp hascending).1 entry hmem)⟩
  exact fun entry hmem => (Text.ne_of_precedes (hlater entry hmem)).symm

/-- An ordered search finds what a search among all entries finds, by induction on the entries. -/
theorem findIn_eq {name : Text} {entries : List (Key × Value)}
    (h : TextMap.Ascending (plain entries))
    : findIn name entries
      = ((plain entries).find? (fun entry => entry.1 = name)).map (·.2) := by
  induction entries with
  | nil => rfl
  | cons entry rest ih =>
      obtain ⟨key, value⟩ := entry
      rw [plain_cons] at h ⊢
      rw [findIn]
      rcases Text.order_cases name key.name with ⟨horder, hlt⟩ | ⟨horder, heq⟩ | ⟨horder, hgt⟩
      · have hnone : ((key.name, value) :: plain rest).find? (fun entry => entry.1 = name) = none :=
          List.find?_eq_none.mpr (fun entry hmem => by
            simpa using forall_ne_of_precedes h hlt entry hmem)
        rw [horder, hnone]
        rfl
      · rw [horder, List.find?_cons_of_pos (by simpa using heq.symm)]
        rfl
      · rw [horder, List.find?_cons_of_neg (by simpa using Text.ne_of_precedes hgt)]
        exact ih (List.pairwise_cons.mp h).2

/-- What an insertion replaces is what a search finds, by induction on the entries. -/
theorem insertIn_fst (key : Key) (value : Value) (entries : List (Key × Value))
    : (insertIn key value entries).1 = findIn key.name entries := by
  induction entries with
  | nil => rfl
  | cons entry rest ih =>
      obtain ⟨other, old⟩ := entry
      rw [insertIn, findIn, Key.order]
      split
      · rfl
      · rfl
      · exact ih

/-- Entries are set by their names, by induction on the entries. -/
theorem plain_insertIn (key : Key) (value : Value) (entries : List (Key × Value))
    : plain (insertIn key value entries).2
      = TextMap.insertEntry key.name value (plain entries) := by
  induction entries with
  | nil => rfl
  | cons entry rest ih =>
      obtain ⟨other, old⟩ := entry
      rw [insertIn, Key.order, plain_cons, TextMap.insertEntry]
      rcases Text.order_cases key.name other.name with
        ⟨horder, hlt⟩ | ⟨horder, heq⟩ | ⟨horder, hgt⟩
      · rw [horder, if_pos hlt]
        rfl
      · rw [horder, if_neg (fun hlt => Text.ne_of_precedes hlt heq), if_pos heq, heq]
        rfl
      · rw [horder, if_neg (Text.not_precedes_of_precedes hgt),
          if_neg (Text.ne_of_precedes hgt).symm, ← ih]
        rfl

/-- What is taken out is what a search finds, by induction on the entries. -/
theorem removeIn_fst (name : Text) (entries : List (Key × Value))
    : (removeIn name entries).1 = findIn name entries := by
  induction entries with
  | nil => rfl
  | cons entry rest ih =>
      obtain ⟨key, value⟩ := entry
      rw [removeIn, findIn]
      split
      · rfl
      · rfl
      · exact ih

/-- All entries with the name are taken out, by induction on the entries. -/
theorem plain_removeIn {name : Text} {entries : List (Key × Value)}
    (h : TextMap.Ascending (plain entries))
    : plain (removeIn name entries).2
      = (plain entries).filter (fun entry => entry.1 ≠ name) := by
  induction entries with
  | nil => rfl
  | cons entry rest ih =>
      obtain ⟨key, value⟩ := entry
      rw [plain_cons] at h ⊢
      rw [removeIn]
      have hbehind := (List.pairwise_cons.mp h).1
      rcases Text.order_cases name key.name with ⟨horder, hlt⟩ | ⟨horder, heq⟩ | ⟨horder, hgt⟩
      · have hall : ((key.name, value) :: plain rest).filter (fun entry => entry.1 ≠ name)
            = (key.name, value) :: plain rest :=
          List.filter_eq_self.mpr (fun entry hmem => by
            simpa using forall_ne_of_precedes h hlt entry hmem)
        rw [horder, hall]
        rfl
      · have hall : (plain rest).filter (fun entry => entry.1 ≠ name) = plain rest :=
          List.filter_eq_self.mpr (fun entry hmem => by
            simpa [heq] using (Text.ne_of_precedes (hbehind entry hmem)).symm)
        rw [horder, List.filter_cons_of_neg (by simpa using heq.symm), hall]
      · rw [horder, List.filter_cons_of_pos (by simpa using Text.ne_of_precedes hgt),
          ← ih (List.pairwise_cons.mp h).2]
        rfl

-----------------------------------------------------------------------------------------
-- The dictionary of a form
-----------------------------------------------------------------------------------------

/-- A form has the entries of a dictionary, in its order. -/
def StandsFor (form : Form) (fields : Dictionary) : Prop :=
  plain form.entries = fields.entries

variable {form : Form} {fields : Dictionary}

/-- The entries of a form that stands for a dictionary are in order. -/
theorem StandsFor.ascending (h : form.StandsFor fields)
    : TextMap.Ascending (plain form.entries) := by
  rw [h]
  exact fields.ascending

/-- A form and the dictionary that it stands for hold the same. -/
theorem StandsFor.get? (h : form.StandsFor fields) (key : Key)
    : form.get? key = fields.get? key.name := by
  rw [Form.get?, findIn_eq h.ascending, h]
  rfl

/-- Writing to both, the form still stands for the dictionary. -/
theorem StandsFor.insert (h : form.StandsFor fields) (key : Key) (value : Value)
    : (form.insert key value).1 = fields.get? key.name
      ∧ (form.insert key value).2.StandsFor (fields.insert key.name value) := by
  refine ⟨(insertIn_fst key value form.entries).trans (h.get? key), ?_⟩
  have hentries := plain_insertIn key value form.entries
  rw [h] at hentries
  exact hentries

/-- Removing from both, the form still stands for the dictionary. -/
theorem StandsFor.remove (h : form.StandsFor fields) (key : Key)
    : (form.remove key).1 = fields.get? key.name
      ∧ (form.remove key).2.StandsFor (fields.erase key.name) := by
  refine ⟨(removeIn_fst key.name form.entries).trans (h.get? key), ?_⟩
  have hentries := @plain_removeIn key.name _ h.ascending
  rw [h] at hentries
  exact hentries

/-- The dictionary that a form stands for is its dictionary. -/
theorem StandsFor.dictionary (h : form.StandsFor fields) : form.dictionary = fields := by
  have hplain : form.dictionary = TextMap.ofList (plain form.entries) := rfl
  rw [hplain, h]
  exact TextMap.ofList_entries fields

end Form

-----------------------------------------------------------------------------------------
-- Maps from plain names
-----------------------------------------------------------------------------------------

/-- A finite map from plain names to values. -/
abbrev PlainMap := Finmap (fun _ : Text => Value)

/-- What a step does to a map from plain names: its answer, and the map after it. -/
def PlainMap.take (map : PlainMap) : Step → Answer × PlainMap
  | .insert key value => (.value (map.lookup key.name), Finmap.insert key.name value map)
  | .remove key => (.value (map.lookup key.name), map.erase key.name)
  | .extend entries =>
      (.done, entries.foldl (fun map entry => Finmap.insert entry.1.name entry.2 map) map)
  | .get key => (.value (map.lookup key.name), map)
  | .contains key => (.truth (decide (key.name ∈ map)), map)
  | .text key => (.text ((map.lookup key.name).bind Value.text?), map)
  | .filled key =>
      (.text ((((map.lookup key.name).bind Value.text?).map Text.trim).filter (· ≠ [])), map)
  | .isBlank key => (.truth ((map.lookup key.name).all Value.isBlank), map)
  | .isEmpty => (.truth (decide (map.keys = ∅)), map)

/-- Takes steps one after the other: what each answers with the number of names after it, and the
map after all of them.
-/
def PlainMap.run (map : PlainMap) : List Step → List (Answer × Nat) × PlainMap
  | [] => ([], map)
  | step :: rest =>
      let (answer, next) := map.take step
      let (answers, last) := next.run rest
      ((answer, next.keys.card) :: answers, last)

namespace Form

/-- Takes steps one after the other: what each answers with the size after it, and the form after
all of them.
-/
def run (form : Form) : List Step → List (Answer × Nat) × Form
  | [] => ([], form)
  | step :: rest =>
      let (answer, next) := form.take step
      let (answers, last) := next.run rest
      ((answer, next.size) :: answers, last)

/-- A form and a map from plain names hold the same. -/
def Matches (form : Form) (map : PlainMap) : Prop :=
  ∃ fields : Dictionary, form.StandsFor fields ∧ ∀ name, fields.get? name = map.lookup name

variable {form : Form} {map : PlainMap}

/-- The empty form matches the empty map. -/
theorem matches_empty : empty.Matches ∅ :=
  ⟨TextMap.empty, rfl, fun _ => rfl⟩

/-- A form and the map that it matches hold the same. -/
theorem Matches.get? (h : form.Matches map) (key : Key)
    : form.get? key = map.lookup key.name := by
  obtain ⟨fields, hform, hmap⟩ := h
  rw [hform.get?, hmap]

/-- Writing to both, the form still matches the map, and gives back the same. -/
theorem Matches.insert (h : form.Matches map) (key : Key) (value : Value)
    : (form.insert key value).1 = map.lookup key.name
      ∧ (form.insert key value).2.Matches (Finmap.insert key.name value map) := by
  obtain ⟨fields, hform, hmap⟩ := h
  obtain ⟨hreplaced, hinsert⟩ := hform.insert key value
  refine ⟨hreplaced.trans (hmap _), _, hinsert, fun name => ?_⟩
  rw [TextMap.get?_insert]
  split
  · rename_i hname
    rw [hname, Finmap.lookup_insert]
  · rename_i hname
    rw [Finmap.lookup_insert_of_ne map hname, hmap]

/-- Removing from both, the form still matches the map, and gives back the same. -/
theorem Matches.remove (h : form.Matches map) (key : Key)
    : (form.remove key).1 = map.lookup key.name
      ∧ (form.remove key).2.Matches (map.erase key.name) := by
  obtain ⟨fields, hform, hmap⟩ := h
  obtain ⟨hremoved, hremove⟩ := hform.remove key
  refine ⟨hremoved.trans (hmap _), _, hremove, fun name => ?_⟩
  rw [TextMap.get?_erase]
  split
  · rename_i hname
    rw [hname, Finmap.lookup_erase]
  · rename_i hname
    rw [Finmap.lookup_erase_ne hname, hmap]

/-- Writing several entries to both, the form still matches the map, by induction on the entries. -/
theorem Matches.extend (h : form.Matches map) (entries : List (Key × Value))
    : (form.extend entries).Matches
        (entries.foldl (fun map entry => Finmap.insert entry.1.name entry.2 map) map) := by
  induction entries generalizing form map with
  | nil => exact h
  | cons entry rest ih => exact ih (h.insert entry.1 entry.2).2

/-- The names of a form are those of the map. -/
theorem Matches.names (h : form.Matches map)
    : form.names.Nodup ∧ form.names.toFinset = map.keys := by
  obtain ⟨fields, hform, hmap⟩ := h
  have hnames : form.names = fields.keys := by
    have hkeys := congrArg (List.map (·.1)) hform
    rwa [plain, List.map_map] at hkeys
  rw [hnames]
  refine ⟨fields.nodup_keys, Finset.ext (fun name => ?_)⟩
  rw [List.mem_toFinset, TextMap.mem_keys_iff, hmap, Finmap.lookup_isSome, Finmap.mem_keys]

/-- A form has as many entries as the map that it matches has keys. -/
theorem Matches.size (h : form.Matches map) : form.size = map.keys.card := by
  obtain ⟨hnodup, hnames⟩ := h.names
  rw [← hnames, List.toFinset_card_of_nodup hnodup, Form.names, List.length_map, Form.size]

/-- A form is empty if and only if the map that it matches has no keys. -/
theorem Matches.isEmpty (h : form.Matches map)
    : form.entries.isEmpty = decide (map.keys = ∅) := by
  have hsize := h.size
  rw [Form.size] at hsize
  rw [Bool.eq_iff_iff, List.isEmpty_iff, decide_eq_true_iff, ← Finset.card_eq_zero, ← hsize,
    List.length_eq_zero_iff]

/-- Every step answers the same to a form and to a map that hold the same, and they still hold the
same after it.
-/
theorem Matches.take (h : form.Matches map) (step : Step)
    : (form.take step).1 = (map.take step).1
      ∧ (form.take step).2.Matches (map.take step).2 := by
  cases step with
  | insert key value =>
      obtain ⟨hreplaced, hinsert⟩ := h.insert key value
      exact ⟨congrArg Answer.value hreplaced, hinsert⟩
  | remove key =>
      obtain ⟨hremoved, hremove⟩ := h.remove key
      exact ⟨congrArg Answer.value hremoved, hremove⟩
  | extend entries => exact ⟨rfl, h.extend entries⟩
  | get key => exact ⟨congrArg Answer.value (h.get? key), h⟩
  | contains key =>
      refine ⟨congrArg Answer.truth ?_, h⟩
      rw [Form.contains, h.get? key, Bool.eq_iff_iff, decide_eq_true_iff, Finmap.lookup_isSome]
  | text key =>
      refine ⟨congrArg Answer.text ?_, h⟩
      rw [Form.text?, h.get? key]
  | filled key =>
      refine ⟨congrArg Answer.text ?_, h⟩
      rw [Form.filled?, Form.text?, h.get? key]
      cases ((map.lookup key.name).bind Value.text?).map Text.trim with
      | none => rfl
      | some text => cases text <;> rfl
  | isBlank key =>
      refine ⟨congrArg Answer.truth ?_, h⟩
      rw [Form.isBlank, h.get? key]
      cases map.lookup key.name <;> rfl
  | isEmpty => exact ⟨congrArg Answer.truth h.isEmpty, h⟩

/-- Every run answers the same, by induction on the steps. -/
theorem Matches.run (h : form.Matches map) (steps : List Step)
    : (form.run steps).1 = (map.run steps).1 ∧ (form.run steps).2.Matches (map.run steps).2 := by
  induction steps generalizing form map with
  | nil => exact ⟨rfl, h⟩
  | cons step rest ih =>
      obtain ⟨hanswer, hnext⟩ := h.take step
      obtain ⟨hanswers, hlast⟩ := ih hnext
      refine ⟨?_, hlast⟩
      simp only [Form.run, PlainMap.run, hanswer, hanswers, hnext.size]

/-- The names ascend by their bytes. -/
theorem Matches.bytes_ascending (h : form.Matches map)
    : form.names.Pairwise (fun first second => Text.bytes first < Text.bytes second) := by
  obtain ⟨fields, hform, -⟩ := h
  have hascending := hform.ascending
  rw [TextMap.Ascending, plain, List.pairwise_map] at hascending
  exact List.pairwise_map.mpr (hascending.imp Text.bytes_lt_of_precedes)

/-- The dictionary of a form has the values of the map. -/
theorem Matches.dictionary (h : form.Matches map) (name : Text)
    : form.dictionary.get? name = map.lookup name := by
  obtain ⟨fields, hform, hmap⟩ := h
  rw [hform.dictionary, hmap]

/-- The entries of a form are those of the map. -/
theorem Matches.mem_entries_iff (h : form.Matches map) (name : Text) (value : Value)
    : (∃ key, key.name = name ∧ (key, value) ∈ form.entries) ↔ map.lookup name = some value := by
  obtain ⟨fields, hform, hmap⟩ := h
  rw [← hmap, ← TextMap.mem_entries_iff, ← hform, plain, List.mem_map]
  simp only [Prod.exists, Prod.mk.injEq]
  constructor
  · rintro ⟨key, hname, hmem⟩
    exact ⟨key, value, hmem, hname, rfl⟩
  · rintro ⟨key, _, hmem, hname, rfl⟩
    exact ⟨key, hname, hmem⟩

/-- A form is a map from plain names. A key made from a name stands for that name, in whichever of
the two ways it is made, and a known field comes back from its name. Whatever steps are taken from
the empty form on, each step answers as it does on a finite map from names, with as many names after
it; and then the form and its dictionary hold the entries of the map, under pairwise different names
that ascend by their bytes.
-/
theorem run_eq_plainMap (steps : List Step)
    : (∀ name, (Key.ofName name).name = name ∧ (Key.ofName name == Key.custom name) = true)
      ∧ (∀ field, Key.ofName field.name = .known field)
      ∧ (empty.run steps).1 = (PlainMap.run ∅ steps).1
      ∧ (∀ key : Key, (empty.run steps).2.get? key = (PlainMap.run ∅ steps).2.lookup key.name)
      ∧ (∀ name value,
          (∃ key : Key, key.name = name ∧ (key, value) ∈ (empty.run steps).2.entries)
            ↔ (PlainMap.run ∅ steps).2.lookup name = some value)
      ∧ (∀ name,
          (empty.run steps).2.dictionary.get? name = (PlainMap.run ∅ steps).2.lookup name)
      ∧ (empty.run steps).2.names.Nodup
      ∧ (empty.run steps).2.names.Pairwise
          (fun first second => Text.bytes first < Text.bytes second) := by
  obtain ⟨hanswers, hmatches⟩ := matches_empty.run steps
  exact ⟨fun name => ⟨Key.name_ofName name, Key.ofName_beq_custom name⟩, Key.ofName_name, hanswers,
    hmatches.get?, hmatches.mem_entries_iff, hmatches.dictionary, hmatches.names.1,
    hmatches.bytes_ascending⟩

end Form

end Field

end LeasePapers
