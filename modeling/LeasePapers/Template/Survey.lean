import LeasePapers.Calendar.Keyword
import LeasePapers.Calendar.Local
import LeasePapers.Field.Dictionary
import LeasePapers.Template.Basic

/-! What a template asks for: the names it reads, and a dictionary of samples for them.
-/

namespace LeasePapers.Template

mutual

/-- The names that a node mentions as variables or conditions, the ones of its branches included. -/
def Node.mentions : Node → List Text
  | .text _ => []
  | .variable name => [name]
  | .helper _ _ => []
  | .block header body otherwise =>
      let own : List Text :=
        match header with
        | .each _ => []
        | .equal field _ | .present field | .absent field => [field]
      own ++ mentionsIn body ++ mentionsIn otherwise

/-- The names that nodes mention. -/
def mentionsIn : List Node → List Text
  | [] => []
  | node :: rest => node.mentions ++ mentionsIn rest

end

/-- Whether a name is that of a field: neither the current element of a repetition nor its
number. -/
def namesField (name : Text) : Bool :=
  name != elementName && name != indexName

/-- The fields that a template mentions, each once and in order. -/
def fieldNames (template : Template) : List Text :=
  (TextMap.ofList (((mentionsIn template.nodes).filter namesField).map (fun name => (name, ())))).keys

/-- A sample for a field, told by its name. -/
def sampleFor (today : Calendar.Date) (name : Text) : Text :=
  let lowered := Text.lower name
  if Calendar.namesDate Calendar.defaultKeywords name then today.toLocal
  else if Text.contains "nome" lowered then "Nome de Exemplo"
  else if Text.contains "endereco" lowered then "Endereço de Exemplo, 123"
  else if Text.contains "valor" lowered then "R$ 1.000,00"
  else "Exemplo " ++ name

/-- Samples for the fields that a template mentions. -/
def samples (template : Template) (today : Calendar.Date) : Dictionary :=
  TextMap.ofList (template.fieldNames.map (fun name => (name, .text (sampleFor today name))))

end LeasePapers.Template
