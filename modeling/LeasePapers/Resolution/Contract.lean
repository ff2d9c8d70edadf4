import LeasePapers.Calendar.Local
import LeasePapers.Calendar.Phrase
import LeasePapers.Resolution.Phrase
import LeasePapers.Resolution.Update

/-! What follows for the contract itself: dates, defaults, and the documents that are asked for.
-/

namespace LeasePapers.Resolution

/-- Whether a form asks for something. -/
def asksFor (raw : Dictionary) (field : Field) : Bool :=
  (Dictionary.filled? raw field).any (fun answer => Text.eqAsciiCase answer "sim")

/-- An answer in small letters. -/
def yesOrNo (b : Bool) : Text :=
  if b then "sim" else "nao"

/-- The address of the property, from either of two fields. -/
def propertyAddress (raw : Dictionary) : Text :=
  ((Dictionary.filled? raw Field.endereco).or (Dictionary.filled? raw Field.enderecoImovel)).getD
    "[ENDEREÇO]"

/-- The documents that are asked for. Electricity bills always are. -/
def requestedDocuments (raw : Dictionary) : List Text :=
  let items : List (Bool × Text) :=
    [(true, "conta de energia elétrica"),
     (asksFor raw .solicitarAgua, "conta de água"),
     (asksFor raw .solicitarCondominio, "boleto de condomínio"),
     (asksFor raw .solicitarGas, "conta de gás"),
     (asksFor raw .solicitarCND, "Certidão Negativa de Débitos (CND)")]
  (items.filter (·.1)).map (·.2)

/-- What happens to a field on behalf of the contract, at a moment of writing. -/
def contractChange (moment : Calendar.Moment) (raw : Dictionary) : Field → Change :=
  let today := moment.date.toLocal
  fun
    | .dataAtual => .text today
    | .mesesComprovantes => .text (Calendar.lastThreeMonths moment.date)
    | .saudacaoComercial => .text (Calendar.greeting moment.hour)
    | .dataComunicacao => .text (filledOr raw .dataComunicacao today)
    | .dataInicioRescisao => .text (filledOr raw .dataInicioRescisao today)
    | .dataTerminoRescisao => .text (filledOr raw .dataTerminoRescisao today)
    | .dataRealizacaoVistoria => .text (filledOr raw .dataRealizacaoVistoria today)
    | .dataFirmamentoContrato => .text (filledOr raw .dataFirmamentoContrato today)
    | .dataVistoria => .text (filledOr raw .dataVistoria today)
    | .dataLiquidacao => .text (filledOr raw .dataLiquidacao today)
    | .prazoDias => .text (filledOr raw .prazoDias "30")
    | .assinanteSelecionado => .text (filledOr raw .assinanteSelecionado "[NOME DO ASSINANTE]")
    | .numeroContrato => .text (filledOr raw .numeroContrato "[NÚMERO DO CONTRATO]")
    | .cpflDaev => .text (filledOr raw .cpflDaev "[CPFL/DAEV]")
    | .quantidadeChaves => .text (filledOr raw .quantidadeChaves "[QUANTIDADE DE CHAVES]")
    | .enderecoImovel => .text (propertyAddress raw)
    | .cpfl => .text "SIM"
    | .statusAgua => .text (if asksFor raw .solicitarAgua then "SIM" else "NAO")
    | .tipoAgua => .text (filledOr raw .tipoAgua "DAEV")
    | .solicitarEnergia => .text "sim"
    | .solicitarAgua => .text (yesOrNo (asksFor raw .solicitarAgua))
    | .solicitarCondominio => .text (yesOrNo (asksFor raw .solicitarCondominio))
    | .solicitarGas => .text (yesOrNo (asksFor raw .solicitarGas))
    | .solicitarCND => .text (yesOrNo (asksFor raw .solicitarCND))
    | .documentosSolicitados => .text (Name.joinAll (requestedDocuments raw))
    | _ => .keep

end LeasePapers.Resolution
