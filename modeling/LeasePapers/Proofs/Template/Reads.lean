import LeasePapers.Proofs.Template.Append
import LeasePapers.Proofs.Template.Walk

/-! What a document depends on. A node looks up the names it gives: those of variables, conditions,
arguments of helpers and lists. The current element of a repetition and its number come from the
repetition, whatever a dictionary holds under their names.
-/

namespace LeasePapers.Template

/-- The names that a node by itself looks up in the dictionary. -/
def Node.lookups : Node → List Text
  | .text _ => []
  | .variable name | .helper _ name => [name].filter namesField
  | .block (.each list) _ _ => [list]
  | .block (.equal field _) _ _ | .block (.present field) _ _ | .block (.absent field) _ _ =>
      [field].filter namesField

/-- Two dictionaries hold the same at the names that nodes look up. -/
def SameLookups (nodes : List Node) (first second : Dictionary) : Prop :=
  ∀ node ∈ visitedIn nodes, ∀ name ∈ node.lookups, first.get? name = second.get? name

section

variable {first second : Dictionary} {settings : Settings} {scope : Option Scope} {name : Text}

/-- A name that is no field stands for the same whatever the dictionary. -/
theorem lookup?_congr
    (h : ∀ field ∈ [name].filter namesField, first.get? field = second.get? field)
    : Context.lookup? ⟨first, settings, scope⟩ name
      = Context.lookup? ⟨second, settings, scope⟩ name := by
  simp only [Context.lookup?]
  split
  · rfl
  · rename_i helement
    split
    · rfl
    · rename_i hindex
      have hfield : namesField name = true := by
        simp [namesField, helement, hindex]
      rw [h name (by simp [hfield])]

/-- A value is looked up in the field of its name alone. -/
theorem value?_congr
    (h : ∀ field ∈ [name].filter namesField, first.get? field = second.get? field)
    : Context.value? ⟨first, settings, scope⟩ name
      = Context.value? ⟨second, settings, scope⟩ name := by
  rw [Context.value?, Context.value?, lookup?_congr h]

/-- Whether something is present is looked up in the field of its name alone. -/
theorem isPresent_congr
    (h : ∀ field ∈ [name].filter namesField, first.get? field = second.get? field)
    : Context.isPresent ⟨first, settings, scope⟩ name
      = Context.isPresent ⟨second, settings, scope⟩ name := by
  rw [Context.isPresent, Context.isPresent, value?_congr h]

/-- A leaf shows the same in forms that agree on what it looks up. -/
theorem renderNode_leaf_congr {node : Node} (hleaf : node.IsLeaf)
    (h : ∀ name ∈ node.lookups, first.get? name = second.get? name)
    : renderNode ⟨first, settings, scope⟩ node = renderNode ⟨second, settings, scope⟩ node := by
  cases node with
  | text content => simp only [renderNode]
  | «variable» name =>
      simp only [renderNode, Context.variableText]
      rw [value?_congr h]
  | helper helper field =>
      simp only [renderNode, Context.helperText]
      rw [value?_congr h]
      rfl
  | block header body otherwise => exact absurd rfl (hleaf header body otherwise)

/-- The runs of a repetition over the same list, each of which writes the same. -/
theorem renderNode_each_congr {list : Text} {body otherwise : List Node}
    (h : first.get? list = second.get? list)
    (hbody : ∀ scope, renderNodes ⟨first, settings, scope⟩ body
      = renderNodes ⟨second, settings, scope⟩ body)
    : renderNode ⟨first, settings, scope⟩ (.block (.each list) body otherwise)
      = renderNode ⟨second, settings, scope⟩ (.block (.each list) body otherwise) := by
  simp only [renderNode, Context.runs, Context.elements, Dictionary.list, h, List.flatMap_map,
    hbody]

/-- Nodes write the same from dictionaries that are the same at what they look up, by induction
along the tree in every repetition. -/
theorem renderNodes_congr (nodes : List Node) (h : SameLookups nodes first second)
    (scope : Option Scope)
    : renderNodes ⟨first, settings, scope⟩ nodes = renderNodes ⟨second, settings, scope⟩ nodes := by
  induction nodes using nodes_induction generalizing scope with
  | nil => simp only [renderNodes]
  | leaf node rest hleaf ih =>
      obtain ⟨hnode, hrest⟩ := (forall_visitedIn_leaf hleaf).mp h
      rw [renderNodes, renderNodes, renderNode_leaf_congr hleaf hnode, ih hrest]
  | block header body otherwise rest inside apart ih =>
      obtain ⟨hnode, hbody, hotherwise, hrest⟩ := forall_visitedIn_block.mp h
      have hblock : renderNode ⟨first, settings, scope⟩ (.block header body otherwise)
          = renderNode ⟨second, settings, scope⟩ (.block header body otherwise) := by
        cases header with
        | each list =>
            exact renderNode_each_congr (hnode list (by simp [Node.lookups])) (inside hbody)
        | equal field literal =>
            simp only [renderNode]
            rw [lookup?_congr hnode, inside hbody, apart hotherwise]
        | present field =>
            simp only [renderNode]
            rw [isPresent_congr hnode, inside hbody, apart hotherwise]
        | absent field =>
            simp only [renderNode]
            rw [isPresent_congr hnode, inside hbody]
      rw [renderNodes, renderNodes, hblock, ih hrest]

end

/-- The argument of a node that calls a helper. -/
def Node.argument? : Node → Option Text
  | .helper _ field => some field
  | .text _ | .variable _ | .block _ _ _ => none

/-- The list that a node repeats over. -/
def Node.list? : Node → Option Text
  | .block (.each list) _ _ => some list
  | .block (.equal _ _) _ _ | .block (.present _) _ _ | .block (.absent _) _ _ => none
  | .text _ | .variable _ | .helper _ _ => none

/-- Two dictionaries hold the same value, or none, at every name that a template mentions, gives to
a helper, or repeats over. -/
structure SameNamed (template : Template) (first second : Dictionary) : Prop where
  mentioned : ∀ name ∈ template.fieldNames, first.get? name = second.get? name
  helped : ∀ name ∈ (visitedIn template.nodes).filterMap Node.argument?,
    first.get? name = second.get? name
  repeated : ∀ name ∈ (visitedIn template.nodes).filterMap Node.list?,
    first.get? name = second.get? name

/-- Every name that is looked up anywhere in the tree is among those. -/
theorem SameNamed.sameLookups {template : Template} {first second : Dictionary}
    (h : SameNamed template first second)
    : SameLookups template.nodes first second := by
  intro node hnode name hname
  have hmentioned : name ∈ node.mentions → namesField name = true →
      first.get? name = second.get? name := by
    intro hmem hfield
    exact h.mentioned name (mem_fieldNames.mpr ⟨mentions_of_visited _ node hnode name hmem, hfield⟩)
  cases node with
  | text content => cases hname
  | «variable» other =>
      obtain ⟨hmem, hfield⟩ := List.mem_filter.mp hname
      exact hmentioned hmem hfield
  | helper helper field =>
      obtain ⟨hmem, -⟩ := List.mem_filter.mp hname
      rw [List.mem_singleton.mp hmem]
      exact h.helped field (List.mem_filterMap.mpr ⟨_, hnode, rfl⟩)
  | block header body otherwise =>
      cases header with
      | each list =>
          rw [List.mem_singleton.mp hname]
          exact h.repeated list (List.mem_filterMap.mpr ⟨_, hnode, rfl⟩)
      | equal | present | absent =>
          obtain ⟨hmem, hfield⟩ := List.mem_filter.mp hname
          refine hmentioned ?_ hfield
          simp only [Node.mentions, List.mem_append]
          exact Or.inl (Or.inl hmem)

/-- A document depends only on the fields that its template names, be the template well-formed or
not: whatever else two dictionaries hold, be it under the names of the current element of a
repetition and of its number, the documents are the same.
-/
theorem render_eq_of_sameNamed (template : Template) (settings : Settings)
    {first second : Dictionary} (h : SameNamed template first second)
    : render template first settings = render template second settings :=
  renderNodes_congr template.nodes h.sameLookups none

/-- A list of guarantors, with a condition and a helper in each run, and a closer too many. -/
def guarantorLines : Text :=
  ("\x7b\x7b#each fiadores\x7d\x7d\x7b\x7b@index\x7d\x7d: \x7b\x7bthis\x7d\x7d" : Text)
    ++ ("\x7b\x7b#if cidade\x7d\x7d (\x7b\x7bupper cidade\x7d\x7d)\x7b\x7b/if\x7d\x7d; " : Text)
    ++ ("\x7b\x7b/each\x7d\x7d\x7b\x7b/each\x7d\x7d" : Text)

/-- The form of two guarantors. -/
def twoGuarantors : Dictionary :=
  TextMap.ofList [("fiadores", .list ["Ana", "Bia"]), ("cidade", .text "Lins")]

/-- Values under the names of a repetition make no difference to it. -/
theorem render_guarantorLines
    : let other := ((twoGuarantors.insert "this" (.text "Caio")).insert "@index" (.text "7")).insert
        "cpfLocatario" (.text "111.222.333-44")
      SameNamed (ofText guarantorLines) twoGuarantors other
      ∧ render (ofText guarantorLines) twoGuarantors .default
        = render (ofText guarantorLines) other .default
      ∧ render (ofText guarantorLines) other .default
        = ("0: Ana (LINS); 1: Bia (LINS); \x7b\x7b/each\x7d\x7d" : Text) := by
  intro other
  have hnamed : SameNamed (ofText guarantorLines) twoGuarantors other :=
    ⟨by decide +kernel, by decide +kernel, by decide +kernel⟩
  exact ⟨hnamed, render_eq_of_sameNamed _ _ hnamed, by decide +kernel⟩

end LeasePapers.Template
