import LeasePapers.Proofs.Text.Blank
import LeasePapers.Proofs.Text.Map
import LeasePapers.Resolution.Update

/-! Dictionaries field by field: when two of them agree on some fields, and what an update leaves at
every name. An update makes its change to the old value of each known field and leaves every other
value alone.
-/

namespace LeasePapers

namespace Field

/-- All fields are listed. -/
theorem mem_all (field : Field) : field ∈ all := by
  cases field <;> decide

/-- A text as a number: the kernel compares numbers much faster than lists of characters. -/
def code (text : Text) : Nat :=
  text.foldl (fun value c => value * 0x200000 + c.toNat) 0

/-- The characters of a name, one by one: the kernel takes long to take a literal apart. -/
def spelled (field : Field) : { chars : Text // field.name = chars } := by
  cases field <;> exact ⟨_, String.toList_ofList⟩

/-- The codes of the names of the fields are different. -/
theorem nodup_codes : (all.map (fun field => code (spelled field).1)).Nodup := by
  decide

/-- No field is listed twice. -/
theorem nodup_all : all.Nodup :=
  nodup_codes.of_map _

/-- Fields with the same name are the same. -/
theorem name_inj {first second : Field} (h : first.name = second.name) : first = second := by
  have hcode : code (spelled first).1 = code (spelled second).1 := by
    rw [← (spelled first).2, ← (spelled second).2, h]
  exact List.inj_on_of_nodup_map nodup_codes (mem_all first) (mem_all second) hcode

/-- A field is found by its name. -/
theorem ofName?_name (field : Field) : ofName? field.name = some field := by
  have hsome : (ofName? field.name).isSome := by
    rw [ofName?, List.find?_isSome]
    exact ⟨field, mem_all field, decide_eq_true rfl⟩
  obtain ⟨found, hfound⟩ := Option.isSome_iff_exists.mp hsome
  have hname : found.name = field.name := by simpa using List.find?_some hfound
  rw [hfound, name_inj hname]

/-- A field that is found by a name has that name. -/
theorem name_of_ofName? {name : Text} {field : Field} (h : ofName? name = some field)
    : field.name = name := by
  simpa using List.find?_some h

/-- A name by which no field is found belongs to none. -/
theorem name_ne_of_ofName? {name : Text} (h : ofName? name = none) (field : Field)
    : field.name ≠ name := by
  rintro rfl
  rw [ofName?_name] at h
  cases h

end Field

/-- What a change makes of the value of a field. -/
def Change.on : Change → Option Field.Value → Option Field.Value
  | .keep, old => old
  | .write value, _ => some value
  | .clear, _ => none

/-- A change of one field leaves the others as they are. -/
theorem Change.get?_apply (change : Change) (fields : Dictionary) (name other : Text)
    : (change.apply fields name).get? other
      = if other = name then change.on (fields.get? other) else fields.get? other := by
  cases change with
  | keep => simp [Change.apply, Change.on]
  | write value => simp only [Change.apply, Change.on, TextMap.get?_insert]
  | clear => simp only [Change.apply, Change.on, TextMap.get?_erase]

namespace Dictionary

-----------------------------------------------------------------------------------------
-- Agreement on some fields
-----------------------------------------------------------------------------------------

/-- Two dictionaries hold the same at each of some fields. -/
def AgreeOn (read : List Field) (first second : Dictionary) : Prop :=
  ∀ field ∈ read, first.get? field.name = second.get? field.name

section

variable {read : List Field} {first second : Dictionary}

/-- Forms that agree on some fields agree on fewer. -/
theorem AgreeOn.mono {more : List Field} (h : AgreeOn more first second)
    (hread : ∀ field ∈ read, field ∈ more)
    : AgreeOn read first second :=
  fun field hmem => h field (hread field hmem)

/-- Two dictionaries hold the same at every name, known or not, but those of some fields. -/
def AgreeOff (left : List Field) (first second : Dictionary) : Prop :=
  ∀ name, (∀ field ∈ left, field.name ≠ name) → first.get? name = second.get? name

/-- Forms that agree but for some fields agree but for more. -/
theorem AgreeOff.mono {left more : List Field} (h : AgreeOff left first second)
    (hleft : ∀ field ∈ left, field ∈ more)
    : AgreeOff more first second :=
  fun name hname => h name (fun field hmem => hname field (hleft field hmem))

/-- Forms agree on fields that are not among those where they differ. -/
theorem AgreeOff.agreeOn {left : List Field} (h : AgreeOff left first second)
    (hread : ∀ field ∈ read, field ∉ left)
    : AgreeOn read first second := by
  intro field hmem
  refine h field.name (fun other hother hname => ?_)
  exact hread field hmem (Field.name_inj hname ▸ hother)

/-- Forms that agree have the same text. -/
theorem AgreeOn.text? (h : AgreeOn read first second) {field : Field} (hmem : field ∈ read)
    : text? first field.name = text? second field.name := by
  rw [Dictionary.text?, Dictionary.text?, h field hmem]

/-- Forms that agree are filled alike. -/
theorem AgreeOn.filled? (h : AgreeOn read first second) {field : Field} (hmem : field ∈ read)
    : filled? first field.name = filled? second field.name := by
  rw [Dictionary.filled?, Dictionary.filled?, h.text? hmem]

/-- Forms that agree have the same list. -/
theorem AgreeOn.list (h : AgreeOn read first second) {field : Field} (hmem : field ∈ read)
    : list first field.name = list second field.name := by
  rw [Dictionary.list, Dictionary.list, h field hmem]

end

/-- A text fills a field with what is left of it without blanks, if anything is. -/
theorem filled?_of_text {fields : Dictionary} {name text : Text}
    (h : fields.get? name = some (.text text))
    : filled? fields name = if Text.trim text = [] then none else some (Text.trim text) := by
  rw [filled?, text?, h]
  simp only [Option.bind_some, Field.Value.text?, Option.map_some]
  cases htrim : Text.trim text <;> simp

/-- What fills a field has no blanks around it, and is something. -/
theorem trim_of_filled? {fields : Dictionary} {name text : Text}
    (h : filled? fields name = some text)
    : Text.trim text = text ∧ text ≠ [] := by
  unfold filled? at h
  split at h
  · cases h
  · rename_i other hother
    rw [h] at hother
    obtain ⟨content, -, rfl⟩ := Option.map_eq_some_iff.mp h
    exact ⟨Text.trim_trim content, fun hnil => hother (congrArg some hnil)⟩

-----------------------------------------------------------------------------------------
-- Updates
-----------------------------------------------------------------------------------------

/-- Changes of other fields leave a value alone, by induction on the fields. -/
theorem get?_foldl_of_ne {change : Field → Change} {changed : List Field} {name : Text}
    (h : ∀ field ∈ changed, field.name ≠ name) (fields : Dictionary)
    : (changed.foldl (fun fields field => (change field).apply fields field) fields).get? name
      = fields.get? name := by
  induction changed generalizing fields with
  | nil => rfl
  | cons field rest ih =>
      rw [List.forall_mem_cons] at h
      rw [List.foldl_cons, ih h.2, Change.get?_apply, if_neg (Ne.symm h.1)]

/-- Of several changes only the one of the field itself counts, by induction on the fields. -/
theorem get?_foldl_of_mem {change : Field → Change} {changed : List Field} {field : Field}
    (hnodup : changed.Nodup) (h : field ∈ changed) (fields : Dictionary)
    : (changed.foldl (fun fields field => (change field).apply fields field) fields).get? field.name
      = (change field).on (fields.get? field.name) := by
  induction changed generalizing fields with
  | nil => cases h
  | cons first rest ih =>
      obtain ⟨hfirst, hrest⟩ := List.nodup_cons.mp hnodup
      rw [List.foldl_cons]
      by_cases he : field = first
      · subst he
        have hne : ∀ other ∈ rest, other.name ≠ field.name := by
          intro other hmem hname
          exact hfirst (Field.name_inj hname ▸ hmem)
        rw [get?_foldl_of_ne hne, Change.get?_apply, if_pos rfl]
      · have hname : field.name ≠ first.name := fun hname => he (Field.name_inj hname)
        rw [ih hrest (List.mem_of_ne_of_mem he h), Change.get?_apply, if_neg hname]

/-- An update changes each known field by itself. -/
theorem get?_update (fields : Dictionary) (change : Field → Change) (field : Field)
    : (update fields change).get? field.name = (change field).on (fields.get? field.name) :=
  get?_foldl_of_mem Field.nodup_all (Field.mem_all field) fields

/-- Names of no field keep their values when fields are changed. -/
theorem get?_update_unknown (fields : Dictionary) (change : Field → Change) {name : Text}
    (h : Field.ofName? name = none)
    : (update fields change).get? name = fields.get? name :=
  get?_foldl_of_ne (fun field _ => Field.name_ne_of_ofName? h field) fields

end Dictionary

end LeasePapers
