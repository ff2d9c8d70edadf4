import LeasePapers.Proofs.Field.Dictionary
import LeasePapers.Resolution.Basic

/-! The fields that resolution reads. Two forms that agree on them are resolved by the same changes,
whatever else they hold.
-/

namespace LeasePapers

/-- The fields from which the names and the agreement of a role follow. -/
def Role.inputs (role : Role) : List Field :=
  role.slots ++ role.freeTexts ++ [role.genderField]

namespace Resolution

/-- The fields from which the changes on behalf of the contract follow. -/
def contractInputs : List Field :=
  [.dataComunicacao, .dataInicioRescisao, .dataTerminoRescisao, .dataRealizacaoVistoria,
   .dataFirmamentoContrato, .dataVistoria, .dataLiquidacao, .prazoDias, .assinanteSelecionado,
   .numeroContrato, .cpflDaev, .quantidadeChaves, .endereco, .enderecoImovel, .tipoAgua,
   .solicitarAgua, .solicitarCondominio, .solicitarGas, .solicitarCND]

/-- The fields from which all changes follow. -/
def inputs : List Field :=
  Role.tenant.inputs ++ Role.owner.inputs ++ Role.guarantor.inputs ++ contractInputs
    ++ [.temFiador, .fiadores, .qualificacaoCompletaLocatarios, .qualificacaoCompletaLocadores]

/-- The inputs that are read as texts, all but the list of guarantors. -/
def textInputs : List Field :=
  inputs.filter (· ≠ .fiadores)

end Resolution

section

variable {read : List Field} {first second : Dictionary}

namespace Party

/-- The names in slots depend on the slots alone. -/
theorem slotNames_congr {role : Role} (h : Dictionary.AgreeOn role.slots first second)
    : slotNames role first = slotNames role second :=
  List.filterMap_congr (fun _ hmem => h.filled? hmem)

/-- A free text depends on its fields alone. -/
theorem freeText?_congr {role : Role} (h : Dictionary.AgreeOn role.freeTexts first second)
    : freeText? role first = freeText? role second := by
  rw [freeText?, freeText?, ← List.head?_filterMap, ← List.head?_filterMap]
  exact congrArg List.head? (List.filterMap_congr (fun _ hmem => h.filled? hmem))

/-- The places where names may stand do not depend on the marker of the gender. -/
theorem places_congr {role : Role}
    (h : Dictionary.AgreeOn (role.slots ++ role.freeTexts) first second)
    (hguarantor : role = .guarantor → Dictionary.AgreeOn [.temFiador] first second
      ∧ Dictionary.list first Field.fiadores = Dictionary.list second Field.fiadores)
    : places role first = places role second := by
  have hslots : slotNames role first = slotNames role second :=
    slotNames_congr (h.mono (fun _ => List.mem_append_left _))
  have hfree : freeTextNames role first = freeTextNames role second := by
    rw [freeTextNames, freeTextNames, freeText?_congr (h.mono (fun _ => List.mem_append_right _))]
  cases role with
  | owner => rw [places, places, hfree]
  | tenant => rw [places, places, hslots, hfree]
  | guarantor =>
      obtain ⟨hanswer, hlist⟩ := hguarantor rfl
      have hlisted : listedNames first = listedNames second := by
        rw [listedNames, listedNames, hlist]
      have hany : hasGuarantors first = hasGuarantors second := by
        rw [hasGuarantors, hasGuarantors, hanswer.filled? (by simp)]
      rw [places, places, hslots, hfree, hlisted, hany]

/-- A party depends on the inputs of its role, and guarantors on the answer and the list as well. -/
theorem ofFields_congr {role : Role} (h : Dictionary.AgreeOn role.inputs first second)
    (hguarantor : role = .guarantor → Dictionary.AgreeOn [.temFiador] first second
      ∧ Dictionary.list first Field.fiadores = Dictionary.list second Field.fiadores)
    : ofFields role first = ofFields role second := by
  have hgender : Dictionary.text? first role.genderField
      = Dictionary.text? second role.genderField := h.text? (by simp [Role.inputs])
  have hplaces := places_congr (h.mono (fun _ => List.mem_append_left _)) hguarantor
  rw [ofFields, ofFields, hplaces, hgender]

end Party

namespace Resolution

/-- What fills a field is the same in forms that agree on it. -/
theorem filledOr_congr (h : Dictionary.AgreeOn read first second) {field : Field}
    (hmem : field ∈ read) (other : Text)
    : filledOr first field other = filledOr second field other := by
  rw [filledOr, filledOr, h.filled? hmem]

/-- An answer is the same in forms that agree on it. -/
theorem asksFor_congr (h : Dictionary.AgreeOn read first second) {field : Field}
    (hmem : field ∈ read)
    : asksFor first field = asksFor second field := by
  rw [asksFor, asksFor, h.filled? hmem]

/-- The fields of the tenants depend on the inputs of their role and their qualification. -/
theorem tenantChange_congr
    (h : Dictionary.AgreeOn (Role.tenant.inputs ++ [.qualificacaoCompletaLocatarios]) first second)
    : tenantChange first = tenantChange second := by
  have hparty : Party.ofFields .tenant first = Party.ofFields .tenant second :=
    Party.ofFields_congr (h.mono (by decide)) (by simp)
  funext field
  simp (disch := decide) only [tenantChange, tenantFullName, hparty, filledOr_congr h, h.filled?]

/-- The fields of the owners depend on the inputs of their role and their qualification. -/
theorem ownerChange_congr
    (h : Dictionary.AgreeOn (Role.owner.inputs ++ [.qualificacaoCompletaLocadores]) first second)
    (tag : Text)
    : ownerChange tag first = ownerChange tag second := by
  have hparty : Party.ofFields .owner first = Party.ofFields .owner second :=
    Party.ofFields_congr (h.mono (by decide)) (by simp)
  have hfree : Party.freeText? .owner first = Party.freeText? .owner second :=
    Party.freeText?_congr (h.mono (by decide))
  funext field
  simp (disch := decide) only [ownerChange, hparty, hfree, filledOr_congr h]

/-- The fields of the guarantors depend on the inputs of their role, the answer and the list. -/
theorem guarantorChange_congr
    (h : Dictionary.AgreeOn (Role.guarantor.inputs ++ [.temFiador]) first second)
    (hlist : Dictionary.list first Field.fiadores = Dictionary.list second Field.fiadores)
    (tag : Text)
    : guarantorChange tag first = guarantorChange tag second := by
  have hparty : Party.ofFields .guarantor first = Party.ofFields .guarantor second :=
    Party.ofFields_congr (h.mono (by decide)) (fun _ => ⟨h.mono (by decide), hlist⟩)
  funext field
  simp only [guarantorChange, hparty]

/-- The fields of the contract depend on their inputs. -/
theorem contractChange_congr (h : Dictionary.AgreeOn contractInputs first second)
    (moment : Calendar.Moment)
    : contractChange moment first = contractChange moment second := by
  have haddress : propertyAddress first = propertyAddress second := by
    simp (disch := decide) only [propertyAddress, h.filled?]
  have hdocuments : requestedDocuments first = requestedDocuments second := by
    simp (disch := decide) only [requestedDocuments, asksFor_congr h]
  funext field
  simp (disch := decide) only [contractChange, haddress, hdocuments, filledOr_congr h,
    asksFor_congr h]

/-- Forms that agree on what is read are resolved by the same changes. The guarantors may be listed
in different ways, as a list or as a text that spells it. -/
theorem change_congr_of_list (h : Dictionary.AgreeOn textInputs first second)
    (hlist : Dictionary.list first Field.fiadores = Dictionary.list second Field.fiadores)
    (tag : Text) (moment : Calendar.Moment)
    : change tag moment first = change tag moment second := by
  rw [change, change, tenantChange_congr (h.mono (by decide)),
    ownerChange_congr (h.mono (by decide)) tag,
    guarantorChange_congr (h.mono (by decide)) hlist tag,
    contractChange_congr (h.mono (by decide)) moment]

/-- All changes depend on the inputs. -/
theorem change_congr (h : Dictionary.AgreeOn inputs first second) (tag : Text)
    (moment : Calendar.Moment)
    : change tag moment first = change tag moment second :=
  change_congr_of_list (h.mono (fun _ hmem => List.mem_of_mem_filter hmem)) (h.list (by decide)) tag
    moment

end Resolution

end

end LeasePapers
