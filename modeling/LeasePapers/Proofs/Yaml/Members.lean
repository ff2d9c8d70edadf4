import LeasePapers.Proofs.Yaml.Block
import Mathlib.Data.List.Basic

/-! The members that are written with a scalar or with a sequence of scalars for their value, read
back. An empty sequence is written in brackets on the line of its key, so it is not taken for a
value that is left out.
-/

namespace LeasePapers.Yaml

section

variable {key : Text} (hkey : IsKey key)

include hkey

/-- A key is printable. -/
theorem IsKey.printable : Printable key :=
  fun c hc => isPrintable_of_isKeyChar (hkey.chars c hc)

/-- A member is printable if what stands behind its key is. -/
theorem IsKey.printable_text {tail : Text} (htail : Printable tail) (tree : Tree) (node : Node)
    : Printable (Entry.text ⟨key, tail, tree, node⟩) := by
  rw [Entry.text, printable_append, printable_cons]
  exact ⟨hkey.printable, rfl, htail⟩

end

/-- A line with a blank in front is printable if its text is. -/
theorem printable_line {text : Text} (h : Printable text) : Printable (' ' :: (text ++ ['\n'])) := by
  rw [printable_cons, printable_append, printable_singleton]
  exact ⟨rfl, h, rfl⟩

-----------------------------------------------------------------------------------------
-- Scalars
-----------------------------------------------------------------------------------------

/-- A member with a scalar for its value. -/
def scalarEntry (key value : Text) : Entry :=
  ⟨key, ' ' :: (scalarText value ++ ['\n']), asTree value, asScalar value⟩

section

variable {key value : Text} (h : '\n' ∉ value)

include h

/-- A member with a scalar is written as the printer has it. -/
theorem scalarEntry_text (key : Text) : (scalarEntry key value).text = scalarMember key value := by
  rw [scalarMember, asLine_scalarText h, Entry.text, scalarEntry, List.append_assoc]
  rfl

/-- A member with a scalar is read as it is written. -/
theorem scalarEntry_sound (hkey : IsKey key) : (scalarEntry key value).Sound :=
  ⟨hkey, spellsValue_line (spellsTree_scalarText h), standsFor_scalar value (formOf value)⟩

/-- A member with a scalar is printable. -/
theorem printable_scalarEntry (hkey : IsKey key) : Printable (scalarEntry key value).text :=
  hkey.printable_text (printable_line (printable_scalarText h)) _ _

end

-----------------------------------------------------------------------------------------
-- Sequences of scalars
-----------------------------------------------------------------------------------------

/-- A member with a sequence of scalars for its value. -/
def listEntry (key : Text) (items : List Text) : Entry :=
  ⟨key,
    match items with
    | [] => [' ', '[', ']', '\n']
    | items => '\n' :: items.flatMap (fun item => itemText (scalarText item)),
    .sequence (items.map asTree),
    .sequence (items.map asScalar)⟩

section

variable {key : Text} {items : List Text} (h : ∀ item ∈ items, '\n' ∉ item)

include h

/-- An item of texts is written as the printer has it. -/
theorem asLine_item {item : Text} (hitem : item ∈ items)
    : asLine (['-', ' '] ++ scalarText item) = itemText (scalarText item) :=
  asLine_scalarText (h item hitem) ['-', ' ']

/-- A member with a sequence is written as the printer has it. -/
theorem listEntry_text (key : Text) : (listEntry key items).text = listMember key items := by
  cases items with
  | nil => rfl
  | cons item items =>
      have hlist : listMember key (item :: items)
          = key ++ [':', '\n']
            ++ (item :: items).flatMap (fun item => asLine (['-', ' '] ++ scalarText item)) := rfl
      rw [hlist, List.flatMap_congr (fun item hitem => asLine_item h hitem), List.append_assoc]
      rfl

/-- A member with a sequence is read as it is written. -/
theorem listEntry_sound (hkey : IsKey key) : (listEntry key items).Sound := by
  have hstands : ∀ pair ∈ items.map (fun item => (asTree item, asScalar item)),
      pair.1.StandsFor pair.2 :=
    List.forall_mem_map.mpr (fun item _ => standsFor_scalar item (formOf item))
  have hlist := standsFor_sequence hstands
  rw [List.map_map, List.map_map] at hlist
  cases items with
  | nil => exact ⟨hkey, spellsValue_line spellsTree_brackets, hlist⟩
  | cons item items =>
      have hitems : ∀ pair ∈ (item :: items).map (fun item => (scalarText item, asTree item)),
          SpellsTree pair.1 pair.2 :=
        List.forall_mem_map.mpr (fun item hitem => spellsTree_scalarText (h item hitem))
      have hvalue := spellsValue_items (by simp) hitems
      rw [List.flatMap_map, List.map_map] at hvalue
      exact ⟨hkey, hvalue, hlist⟩

/-- A member with a sequence is printable. -/
theorem printable_listEntry (hkey : IsKey key) : Printable (listEntry key items).text := by
  refine hkey.printable_text ?_ _ _
  cases items with
  | nil => simp [Printable, isPrintable]
  | cons item items =>
      refine printable_cons.mpr ⟨rfl, fun c hc => ?_⟩
      obtain ⟨item, hitem, hc⟩ := List.mem_flatMap.mp hc
      exact printable_cons.mpr ⟨rfl, printable_line (printable_scalarText (h item hitem))⟩ c hc

end

end LeasePapers.Yaml
