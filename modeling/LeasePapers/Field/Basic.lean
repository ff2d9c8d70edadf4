import LeasePapers.Text.Basic

/-! The fields that the library knows by name. A form may hold any other field as well; such a field
is carried along and has no meaning of its own.
-/

namespace LeasePapers

/-- A field known by name. The groups are: what the form says of each role and what follows for it,
other people, identity and contact, the property and the contract, dates, utilities and requested
documents. -/
inductive Field where
  | nomeLocatario | primeiroLocatario | segundoLocatario | terceiroLocatario | quartoLocatario
  | generoLocatario | qualificacaoCompletaLocatarios | cpfLocatario | rgLocatario
  | telefoneLocatario | celularLocatario | emailLocatario | citacaoLocatarios
  | isMultipleLocatarios | locatarioTerm | locatarioTermComercial | locatarioTermNoArtigo
  | locatarioTermo | locatarioDocumentacao | locatarioResponsabilidade | locatarioComunicou
  | locatarioIra | locatarioPrezado | locatarioPrezadoWhatsapp | primeiroNomeLocatario
  | saudacaoLocatario | nomeLocatarioFormatado | tratamentoLocatarioGenero
  | tratamentoLocatarioGeneroPlural | tratamentoLocatarioNotificacao | notificadoLocatarioTitulo
  | nomeProprietario | nomesResumidosLocadores | generoProprietario
  | qualificacaoCompletaLocadores | cpfProprietario | rgProprietario | telefoneProprietario
  | celularProprietario | emailProprietario
  | isMultipleProprietarios | proprietarioTerm | locadorTerm | locadorTermComercial
  | proprietarioPrezado | proprietarioPrezadoWhatsapp | primeiroNomeProprietario
  | saudacaoProprietario | nomeProprietarioFormatado | tratamentoProprietarioGenero
  | tratamentoLocadorGenero | qualificacaoCompletaProprietario
  | nomeFiador | primeiroFiador | segundoFiador | terceiroFiador | quartoFiador | generoFiador
  | temFiador
  | fiadores | fiador1 | fiador2 | fiador3 | fiador4 | nomeFiadoresFormatado | isMultipleFiadores
  | fiadorTerm
  | nomeQuemRetira | documentoQuemRetira | assinanteSelecionado | nomeGestor | nomeVistoriador
  | qualificacaoCompleta
  | cpf | rg | telefone | celular | email
  | endereco | enderecoImovel | logradouro | rua | numeroContrato | prazoDias | cpflDaev
  | quantidadeChaves | textoEntregaChaves | observacao
  | dataAtual | dataComunicacao | dataInicioRescisao | dataTerminoRescisao
  | dataRealizacaoVistoria | dataFirmamentoContrato | dataVistoria | dataLiquidacao
  | mesesComprovantes | saudacaoComercial
  | cpfl | statusAgua | tipoAgua | solicitarAgua | solicitarEnergia | solicitarCondominio
  | solicitarGas | solicitarCND | documentosSolicitados
  deriving DecidableEq, Repr

namespace Field

/-- Every known field, in the order of their groups. -/
def all : List Field :=
  [.nomeLocatario, .primeiroLocatario, .segundoLocatario, .terceiroLocatario, .quartoLocatario,
   .generoLocatario, .qualificacaoCompletaLocatarios, .cpfLocatario, .rgLocatario,
   .telefoneLocatario, .celularLocatario, .emailLocatario, .citacaoLocatarios,
   .isMultipleLocatarios, .locatarioTerm, .locatarioTermComercial, .locatarioTermNoArtigo,
   .locatarioTermo, .locatarioDocumentacao, .locatarioResponsabilidade, .locatarioComunicou,
   .locatarioIra, .locatarioPrezado, .locatarioPrezadoWhatsapp, .primeiroNomeLocatario,
   .saudacaoLocatario, .nomeLocatarioFormatado, .tratamentoLocatarioGenero,
   .tratamentoLocatarioGeneroPlural, .tratamentoLocatarioNotificacao, .notificadoLocatarioTitulo,
   .nomeProprietario, .nomesResumidosLocadores, .generoProprietario,
   .qualificacaoCompletaLocadores, .cpfProprietario, .rgProprietario, .telefoneProprietario,
   .celularProprietario, .emailProprietario, .isMultipleProprietarios, .proprietarioTerm,
   .locadorTerm, .locadorTermComercial, .proprietarioPrezado, .proprietarioPrezadoWhatsapp,
   .primeiroNomeProprietario, .saudacaoProprietario, .nomeProprietarioFormatado,
   .tratamentoProprietarioGenero, .tratamentoLocadorGenero, .qualificacaoCompletaProprietario,
   .nomeFiador, .primeiroFiador, .segundoFiador, .terceiroFiador, .quartoFiador, .generoFiador,
   .temFiador, .fiadores, .fiador1, .fiador2, .fiador3, .fiador4, .nomeFiadoresFormatado,
   .isMultipleFiadores, .fiadorTerm, .nomeQuemRetira, .documentoQuemRetira,
   .assinanteSelecionado, .nomeGestor, .nomeVistoriador, .qualificacaoCompleta, .cpf, .rg,
   .telefone, .celular, .email, .endereco, .enderecoImovel, .logradouro, .rua, .numeroContrato,
   .prazoDias, .cpflDaev, .quantidadeChaves, .textoEntregaChaves, .observacao, .dataAtual,
   .dataComunicacao, .dataInicioRescisao, .dataTerminoRescisao, .dataRealizacaoVistoria,
   .dataFirmamentoContrato, .dataVistoria, .dataLiquidacao, .mesesComprovantes,
   .saudacaoComercial, .cpfl, .statusAgua, .tipoAgua, .solicitarAgua, .solicitarEnergia,
   .solicitarCondominio, .solicitarGas, .solicitarCND, .documentosSolicitados]

/-- The name under which a form sends the field. -/
def name : Field → Text
  | .nomeLocatario => "nomeLocatario"
  | .primeiroLocatario => "primeiroLocatario"
  | .segundoLocatario => "segundoLocatario"
  | .terceiroLocatario => "terceiroLocatario"
  | .quartoLocatario => "quartoLocatario"
  | .generoLocatario => "generoLocatario"
  | .qualificacaoCompletaLocatarios => "qualificacaoCompletaLocatarios"
  | .cpfLocatario => "cpfLocatario"
  | .rgLocatario => "rgLocatario"
  | .telefoneLocatario => "telefoneLocatario"
  | .celularLocatario => "celularLocatario"
  | .emailLocatario => "emailLocatario"
  | .citacaoLocatarios => "citacaoLocatarios"
  | .isMultipleLocatarios => "isMultipleLocatarios"
  | .locatarioTerm => "locatarioTerm"
  | .locatarioTermComercial => "locatarioTermComercial"
  | .locatarioTermNoArtigo => "locatarioTermNoArtigo"
  | .locatarioTermo => "locatarioTermo"
  | .locatarioDocumentacao => "locatarioDocumentacao"
  | .locatarioResponsabilidade => "locatarioResponsabilidade"
  | .locatarioComunicou => "locatarioComunicou"
  | .locatarioIra => "locatarioIra"
  | .locatarioPrezado => "locatarioPrezado"
  | .locatarioPrezadoWhatsapp => "locatarioPrezadoWhatsapp"
  | .primeiroNomeLocatario => "primeiroNomeLocatario"
  | .saudacaoLocatario => "saudacaoLocatario"
  | .nomeLocatarioFormatado => "nomeLocatarioFormatado"
  | .tratamentoLocatarioGenero => "tratamentoLocatarioGenero"
  | .tratamentoLocatarioGeneroPlural => "tratamentoLocatarioGeneroPlural"
  | .tratamentoLocatarioNotificacao => "tratamentoLocatarioNotificacao"
  | .notificadoLocatarioTitulo => "notificadoLocatarioTitulo"
  | .nomeProprietario => "nomeProprietario"
  | .nomesResumidosLocadores => "nomesResumidosLocadores"
  | .generoProprietario => "generoProprietario"
  | .qualificacaoCompletaLocadores => "qualificacaoCompletaLocadores"
  | .cpfProprietario => "cpfProprietario"
  | .rgProprietario => "rgProprietario"
  | .telefoneProprietario => "telefoneProprietario"
  | .celularProprietario => "celularProprietario"
  | .emailProprietario => "emailProprietario"
  | .isMultipleProprietarios => "isMultipleProprietarios"
  | .proprietarioTerm => "proprietarioTerm"
  | .locadorTerm => "locadorTerm"
  | .locadorTermComercial => "locadorTermComercial"
  | .proprietarioPrezado => "proprietarioPrezado"
  | .proprietarioPrezadoWhatsapp => "proprietarioPrezadoWhatsapp"
  | .primeiroNomeProprietario => "primeiroNomeProprietario"
  | .saudacaoProprietario => "saudacaoProprietario"
  | .nomeProprietarioFormatado => "nomeProprietarioFormatado"
  | .tratamentoProprietarioGenero => "tratamentoProprietarioGenero"
  | .tratamentoLocadorGenero => "tratamentoLocadorGenero"
  | .qualificacaoCompletaProprietario => "qualificacaoCompletaProprietario"
  | .nomeFiador => "nomeFiador"
  | .primeiroFiador => "primeiroFiador"
  | .segundoFiador => "segundoFiador"
  | .terceiroFiador => "terceiroFiador"
  | .quartoFiador => "quartoFiador"
  | .generoFiador => "generoFiador"
  | .temFiador => "temFiador"
  | .fiadores => "fiadores"
  | .fiador1 => "fiador1"
  | .fiador2 => "fiador2"
  | .fiador3 => "fiador3"
  | .fiador4 => "fiador4"
  | .nomeFiadoresFormatado => "nomeFiadoresFormatado"
  | .isMultipleFiadores => "isMultipleFiadores"
  | .fiadorTerm => "fiadorTerm"
  | .nomeQuemRetira => "nomeQuemRetira"
  | .documentoQuemRetira => "documentoQuemRetira"
  | .assinanteSelecionado => "assinanteSelecionado"
  | .nomeGestor => "nomeGestor"
  | .nomeVistoriador => "nomeVistoriador"
  | .qualificacaoCompleta => "qualificacaoCompleta"
  | .cpf => "cpf"
  | .rg => "rg"
  | .telefone => "telefone"
  | .celular => "celular"
  | .email => "email"
  | .endereco => "endereco"
  | .enderecoImovel => "enderecoImovel"
  | .logradouro => "logradouro"
  | .rua => "rua"
  | .numeroContrato => "numeroContrato"
  | .prazoDias => "prazoDias"
  | .cpflDaev => "cpflDaev"
  | .quantidadeChaves => "quantidadeChaves"
  | .textoEntregaChaves => "textoEntregaChaves"
  | .observacao => "observacao"
  | .dataAtual => "dataAtual"
  | .dataComunicacao => "dataComunicacao"
  | .dataInicioRescisao => "dataInicioRescisao"
  | .dataTerminoRescisao => "dataTerminoRescisao"
  | .dataRealizacaoVistoria => "dataRealizacaoVistoria"
  | .dataFirmamentoContrato => "dataFirmamentoContrato"
  | .dataVistoria => "dataVistoria"
  | .dataLiquidacao => "dataLiquidacao"
  | .mesesComprovantes => "mesesComprovantes"
  | .saudacaoComercial => "saudacaoComercial"
  | .cpfl => "cpfl"
  | .statusAgua => "statusAgua"
  | .tipoAgua => "tipoAgua"
  | .solicitarAgua => "solicitarAgua"
  | .solicitarEnergia => "solicitarEnergia"
  | .solicitarCondominio => "solicitarCondominio"
  | .solicitarGas => "solicitarGas"
  | .solicitarCND => "solicitarCND"
  | .documentosSolicitados => "documentosSolicitados"

/-- A field stands for its name. -/
instance : Coe Field Text := ⟨name⟩

/-- The known field with that name. -/
def ofName? (text : Text) : Option Field :=
  all.find? (fun field => field.name = text)

/-- Whether a name is one of the known ones. -/
def isKnown (text : Text) : Bool :=
  (ofName? text).isSome

end Field

end LeasePapers
