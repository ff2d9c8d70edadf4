import LeasePapers.Resolution.Phrase
import LeasePapers.Resolution.Update

/-! What follows for the owners of the property.
-/

namespace LeasePapers.Resolution

/-- What stands for the names of the owners if they are missing. -/
def missingOwner : Text := "[NOME DO PROPRIETÁRIO]"

/-- What happens to a field on behalf of the owners. The names are marked with the emphasis tag. -/
def ownerChange (tag : Text) (raw : Dictionary) : Field → Change :=
  let party := Party.ofFields .owner raw
  let a := party.agreement
  let noun := party.noun
  fun
    | .isMultipleProprietarios => .text (flag party.isPlural)
    | .proprietarioTerm => .text (Noun.proprietario.withArticle a)
    | .locadorTerm => .text (noun.heading a)
    | .locadorTermComercial => .text (noun.form a)
    | .proprietarioPrezado => .text a.dear
    | .proprietarioPrezadoWhatsapp => .text (party.givenNamesOr missingGivenName)
    | .primeiroNomeProprietario => .text (leadingGivenName party)
    | .saudacaoProprietario => .text (party.greeting missingGivenName)
    | .nomeProprietarioFormatado =>
        let names := if party.names = [] then [missingOwner] else party.names
        .text (Name.joinEmphasized tag names)
    | .nomeProprietario => .text ((Party.freeText? .owner raw).getD missingOwner)
    | .tratamentoProprietarioGenero => .text a.sir
    | .tratamentoLocadorGenero => .text (noun.afterTo a)
    | .qualificacaoCompletaProprietario =>
        .text (filledOr raw .qualificacaoCompletaLocadores missingFreeText)
    | _ => .keep

end LeasePapers.Resolution
