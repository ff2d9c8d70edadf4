import LeasePapers.Field.Basic

/-! Which fields carry personal data, and how each of them is redacted.
-/

namespace LeasePapers.Redaction

/-- A way of redacting a text. A document is either of two kinds, told by its number of digits;
prose may mention the names of parties. -/
inductive Rule where
  | name
  | nameList
  | address
  | cpf
  | rg
  | document
  | phone
  | email
  | prose
  deriving DecidableEq, Repr

/-- The fields with personal data and their rules, in groups. -/
def rules : List (Field × Rule) :=
  [(.primeiroLocatario, .name), (.segundoLocatario, .name), (.terceiroLocatario, .name),
   (.quartoLocatario, .name), (.primeiroFiador, .name), (.segundoFiador, .name),
   (.terceiroFiador, .name), (.quartoFiador, .name), (.fiadores, .name), (.fiador1, .name),
   (.fiador2, .name), (.fiador3, .name), (.fiador4, .name), (.nomeQuemRetira, .name),
   (.assinanteSelecionado, .name), (.nomeGestor, .name), (.nomeVistoriador, .name),
   (.nomeLocatario, .nameList), (.nomeLocatarioFormatado, .nameList),
   (.nomeProprietario, .nameList), (.nomesResumidosLocadores, .nameList),
   (.nomeProprietarioFormatado, .nameList), (.nomeFiador, .nameList),
   (.nomeFiadoresFormatado, .nameList), (.qualificacaoCompletaLocatarios, .nameList),
   (.qualificacaoCompletaLocadores, .nameList), (.qualificacaoCompletaProprietario, .nameList),
   (.qualificacaoCompleta, .nameList),
   (.endereco, .address), (.enderecoImovel, .address), (.logradouro, .address),
   (.rua, .address),
   (.cpfLocatario, .cpf), (.cpfProprietario, .cpf), (.cpf, .cpf), (.rgLocatario, .rg),
   (.rgProprietario, .rg), (.rg, .rg), (.documentoQuemRetira, .document),
   (.telefoneLocatario, .phone), (.celularLocatario, .phone), (.telefoneProprietario, .phone),
   (.celularProprietario, .phone), (.telefone, .phone), (.celular, .phone),
   (.emailLocatario, .email), (.emailProprietario, .email), (.email, .email),
   (.textoEntregaChaves, .prose), (.observacao, .prose), (.citacaoLocatarios, .prose),
   (.locatarioTerm, .prose), (.proprietarioTerm, .prose), (.saudacaoProprietario, .prose),
   (.saudacaoLocatario, .prose)]

/-- The rule for the field with that name, if it carries personal data. -/
def ruleFor? (name : Text) : Option Rule :=
  (rules.find? (fun entry => entry.1.name = name)).map (·.2)

end LeasePapers.Redaction
