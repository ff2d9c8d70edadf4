import LeasePapers.Amount.Printer
import LeasePapers.Amount.Reader
import LeasePapers.Calendar.Iso
import LeasePapers.Field.Dictionary
import LeasePapers.Settings.Basic
import LeasePapers.Template.Basic
import LeasePapers.Template.Placeholder
import LeasePapers.Text.Lower

/-! The document of a template: one walk over the directive tree. Rendering never fails, and what is
put in for a field is never read for directives again.
-/

namespace LeasePapers.Template

/-- The current element of a repetition, with its number from zero. -/
structure Scope where
  element : Text
  index : Nat

/-- What a document is rendered from: the fields, the settings, and the innermost repetition. -/
structure Context where
  fields : Dictionary
  settings : Settings
  scope : Option Scope

namespace Context

/-- The text that a name stands for, if it stands for any. -/
def lookup? (context : Context) (name : Text) : Option Text :=
  if name = elementName then context.scope.map Scope.element
  else if name = indexName then context.scope.map (fun scope => Number.digits scope.index)
  else (context.fields.get? name).map Field.Value.display

/-- The text that a name stands for, if it is not empty. -/
def value? (context : Context) (name : Text) : Option Text :=
  (context.lookup? name).filter (· ≠ [])

/-- Whether a name stands for a text that is not all blanks. -/
def isPresent (context : Context) (name : Text) : Bool :=
  (context.value? name).any (fun text => !Text.isAllBlank text)

/-- What stands for a variable: its value, as a local date if its name says so. A missing one leaves
nothing or a placeholder, as the settings say. -/
def variableText (context : Context) (name : Text) : Text :=
  match context.value? name with
  | some text => if context.settings.namesDate name then Calendar.localize text else text
  | none => if context.settings.leavesBlank name then [] else placeholder name

/-- A value as a helper writes it, if the helper can. -/
def helped? (context : Context) (text : Text) : Helper → Option Text
  | .currency =>
      (Amount.ofText? text).map (fun amount => amount.currency context.settings.currencySymbol)
  | .number => (Amount.ofText? text).map Amount.number
  | .upper => some (Text.upper text)
  | .lower => some (Text.lower text)

/-- What stands for the call of a helper. -/
def helperText (context : Context) (helper : Helper) (field : Text) : Text :=
  ((context.value? field).bind (fun text => context.helped? text helper)).getD
    (placeholder field)

/-- The elements that a repetition runs over. -/
def elements (context : Context) (name : Text) : List Text :=
  Dictionary.list context.fields name

/-- The contexts of the runs of a repetition. -/
def runs (context : Context) (name : Text) : List Context :=
  (context.elements name).zipIdx.map (fun (element, index) =>
    { context with scope := some ⟨element, index⟩ })

end Context

mutual

/-- What a node writes. -/
def renderNode (context : Context) : Node → Text
  | .text content => content
  | .variable name => context.variableText name
  | .helper helper field => context.helperText helper field
  | .block (.each list) body _ => (context.runs list).flatMap (fun run => renderNodes run body)
  | .block (.equal field literal) body otherwise =>
      if context.lookup? field = some literal then renderNodes context body
      else renderNodes context otherwise
  | .block (.present field) body otherwise =>
      if context.isPresent field then renderNodes context body
      else renderNodes context otherwise
  | .block (.absent field) body _ =>
      if context.isPresent field then [] else renderNodes context body

/-- What nodes write, one after the other. -/
def renderNodes (context : Context) : List Node → Text
  | [] => []
  | node :: rest => renderNode context node ++ renderNodes context rest

end

/-- The document of a template. -/
def render (template : Template) (fields : Dictionary) (settings : Settings) : Text :=
  renderNodes ⟨fields, settings, none⟩ template.nodes

end LeasePapers.Template
