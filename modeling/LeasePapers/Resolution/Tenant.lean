import LeasePapers.Resolution.Phrase
import LeasePapers.Resolution.Update

/-! What follows for the tenants of a contract.
-/

namespace LeasePapers.Resolution

/-- What stands for the names of the tenants if they are missing. -/
def missingTenant : Text := "[NOME DO LOCATÁRIO]"

/-- The full names of the tenants: as the form gives them in one field, or joined from the slots. -/
def tenantFullName (party : Party) (raw : Dictionary) : Text :=
  match Dictionary.filled? raw Field.nomeLocatario with
  | some name => name
  | none => if party.source = .slots then Name.joinAll party.names else missingTenant

/-- What happens to a field on behalf of the tenants. -/
def tenantChange (raw : Dictionary) : Field → Change :=
  let party := Party.ofFields .tenant raw
  let a := party.agreement
  let noun := party.noun
  fun
    | .isMultipleLocatarios => .text (flag party.isPlural)
    | .locatarioTerm => .text (noun.heading a)
    | .locatarioTermComercial => .text (noun.form a)
    | .locatarioTermNoArtigo => .text (noun.withArticle a)
    | .locatarioTermo => .text (noun.afterOf a)
    | .locatarioDocumentacao => .text (noun.afterOf a)
    | .locatarioResponsabilidade => .text (noun.afterOf a)
    | .locatarioComunicou => .text (a.verb "informou" "informaram")
    | .locatarioIra => .text (a.verb "irá" "irão")
    | .locatarioPrezado => .text a.dear
    | .locatarioPrezadoWhatsapp => .text (party.givenNamesOr missingGivenName)
    | .primeiroNomeLocatario => .text (leadingGivenName party)
    | .saudacaoLocatario => .text (party.greeting missingGivenName)
    | .nomeLocatarioFormatado => .text (namesOr party missingTenant)
    | .nomeLocatario => .text (tenantFullName party raw)
    | .primeiroLocatario => .text (filledOr raw .primeiroLocatario [])
    | .segundoLocatario => .text (filledOr raw .segundoLocatario [])
    | .terceiroLocatario => .text (filledOr raw .terceiroLocatario [])
    | .quartoLocatario => .text (filledOr raw .quartoLocatario [])
    | .tratamentoLocatarioGenero => .text a.possessive
    | .tratamentoLocatarioGeneroPlural => .text a.possessivePlural
    | .tratamentoLocatarioNotificacao => .text a.formalAddress
    | .notificadoLocatarioTitulo =>
        .text (a.notified ++ [' '] ++ Name.capitalize (noun.form a))
    | .qualificacaoCompletaLocatarios =>
        .text (filledOr raw .qualificacaoCompletaLocatarios missingFreeText)
    | _ => .keep

end LeasePapers.Resolution
