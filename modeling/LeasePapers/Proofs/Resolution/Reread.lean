import LeasePapers.Proofs.Calendar.Local
import LeasePapers.Proofs.Party.Names
import LeasePapers.Proofs.Resolution.Inputs

/-! What resolution reads in a form that it has resolved before. Most fields are handed through or
read as they were written; the names of tenants, owners and guarantors are left in a field of their
own as well, where they are found again if no other field has them.
-/

namespace LeasePapers

-----------------------------------------------------------------------------------------
-- Texts that stand as they are when they are trimmed
-----------------------------------------------------------------------------------------

/-- Names that begin and end in no blanks are joined to a text that does neither. -/
theorem Name.trim_joinAll {names : List Text}
    (h : ∀ name ∈ names, Text.trim name = name ∧ name ≠ [])
    : Text.trim (joinAll names) = joinAll names := by
  rcases names_cases names with rfl | ⟨name, rfl⟩ | ⟨front, last, hfront, rfl⟩
  · rfl
  · exact (h name (by simp)).1
  · obtain ⟨first, rest, rfl⟩ := List.exists_cons_of_ne_nil hfront
    have hfirst := h first (by simp)
    have hlast := h last (by simp)
    rw [joinAll_concat hfront]
    refine Text.trim_eq_self ?_ ?_
    · intro c hc
      have hjoined : (Text.join comma (first :: rest)).head? = first.head? :=
        Text.head?_join rest hfirst.2
      have hne : Text.join comma (first :: rest) ≠ [] := by
        intro hnil
        rw [hnil] at hjoined
        exact hfirst.2 (List.head?_eq_none_iff.mp hjoined.symm)
      rw [List.append_assoc, List.head?_append_of_ne_nil _ hne, hjoined, ← hfirst.1] at hc
      exact Text.isBlank_head?_trim hc
    · intro c hc
      rw [List.getLast?_append_of_ne_nil _ hlast.2, ← hlast.1] at hc
      exact Text.isBlank_getLast?_trimEnd hc

/-- Joined names are something. -/
theorem Name.joinAll_ne_nil {names : List Text} (hne : names ≠ [])
    (h : ∀ name ∈ names, Text.trim name = name ∧ name ≠ [])
    : joinAll names ≠ [] := by
  rcases names_cases names with rfl | ⟨name, rfl⟩ | ⟨front, last, hfront, rfl⟩
  · exact absurd rfl hne
  · exact (h name (by simp)).2
  · rw [joinAll_concat hfront]
    exact List.append_ne_nil_of_right_ne_nil _ (h last (by simp)).2

namespace Resolution

variable (tag : Text) (moment : Calendar.Moment) (raw : Dictionary)

-----------------------------------------------------------------------------------------
-- Fields that are handed through
-----------------------------------------------------------------------------------------

/-- The fields that resolution reads and never changes. -/
def handedThrough : List Field :=
  Role.guarantor.slots
    ++ [.nomeFiador, .nomesResumidosLocadores, .generoLocatario, .generoProprietario, .generoFiador,
        .temFiador, .endereco, .qualificacaoCompletaLocadores]

/-- What a field holds after resolving is its change on what it held. -/
theorem get?_resolve (field : Field)
    : (resolve tag moment raw).get? field.name
      = (change tag moment raw field).on (raw.get? field.name) :=
  Dictionary.get?_update raw (change tag moment raw) field

/-- Fields that are handed through hold what they held. -/
theorem resolve_handedThrough : Dictionary.AgreeOn handedThrough (resolve tag moment raw) raw := by
  intro field hmem
  have hkeep : change tag moment raw field = .keep := by
    cases field <;> first | exact absurd hmem (by decide) | rfl
  rw [get?_resolve, hkeep]
  rfl

variable {tag moment raw}

/-- Whether a field is handed through does not depend on what the form says. -/
theorem change_eq_keep {field : Field} (h : change tag moment raw field = .keep)
    (other : Dictionary)
    : change tag moment other field = .keep := by
  cases field with
  | nomeFiadoresFormatado =>
      simp only [change, guarantorChange] at h
      by_cases hnone : (Party.ofFields .guarantor raw).names = []
      · rw [if_pos hnone] at h
        cases h
      · rw [if_neg hnone] at h
        cases h
  | _ => first | rfl | cases h

-----------------------------------------------------------------------------------------
-- Fields that are read as they were written
-----------------------------------------------------------------------------------------

/-- A field that is changed to a trimmed text is filled with it, unless it is empty. -/
theorem filled?_resolve {field : Field} {text : Text}
    (h : change tag moment raw field = .text text) (htrim : Text.trim text = text)
    : Dictionary.filled? (resolve tag moment raw) field.name
      = if text = [] then none else some text := by
  have hvalue : (resolve tag moment raw).get? field.name = some (.text text) := by
    rw [get?_resolve, h]
    rfl
  rw [Dictionary.filled?_of_text hvalue, htrim]

/-- What fills a field, or the text in its place, has no blanks around it. -/
theorem trim_filledOr (field : Field) {other : Text} (h : Text.trim other = other)
    : Text.trim (filledOr raw field other) = filledOr raw field other := by
  rw [filledOr]
  cases hfilled : Dictionary.filled? raw field.name with
  | none => exact h
  | some text => exact (Dictionary.trim_of_filled? hfilled).1

/-- A field that is filled with itself is filled in the same way again. -/
theorem filledOr_resolve {field : Field} {other : Text}
    (h : change tag moment raw field = .text (filledOr raw field other))
    (htrim : Text.trim other = other)
    : filledOr (resolve tag moment raw) field other = filledOr raw field other := by
  rw [filledOr, filled?_resolve h (trim_filledOr field htrim)]
  split
  · rename_i hnil
    rw [filledOr] at hnil ⊢
    cases hfilled : Dictionary.filled? raw field.name with
    | none => rfl
    | some text =>
        rw [hfilled] at hnil
        exact absurd hnil (Dictionary.trim_of_filled? hfilled).2
  · rfl

/-- An answer that is written out is read again as the same. -/
theorem asksFor_resolve {field : Field}
    (h : change tag moment raw field = .text (yesOrNo (asksFor raw field)))
    : asksFor (resolve tag moment raw) field = asksFor raw field := by
  have htrim : ∀ answer, Text.trim (yesOrNo answer) = yesOrNo answer := by decide
  have hasks : ∀ answer,
      (if yesOrNo answer = [] then none else some (yesOrNo answer)).any
        (fun answer => Text.eqAsciiCase answer "sim") = answer := by decide
  rw [asksFor, filled?_resolve h (htrim _), hasks]

/-- The address is left where it is read if there is no other. -/
theorem propertyAddress_resolve
    : propertyAddress (resolve tag moment raw) = propertyAddress raw := by
  have hother : Dictionary.filled? (resolve tag moment raw) Field.endereco.name
      = Dictionary.filled? raw Field.endereco.name :=
    (resolve_handedThrough tag moment raw).filled? (by decide)
  have haddress : Text.trim (propertyAddress raw) = propertyAddress raw
      ∧ propertyAddress raw ≠ [] := by
    rw [propertyAddress]
    cases hfound : (Dictionary.filled? raw Field.endereco).or
        (Dictionary.filled? raw Field.enderecoImovel) with
    | none => exact ⟨by decide, by decide⟩
    | some text =>
        rcases Option.or_eq_some_iff.mp hfound with hfilled | ⟨-, hfilled⟩
        · exact Dictionary.trim_of_filled? hfilled
        · exact Dictionary.trim_of_filled? hfilled
  have hleft := @filled?_resolve tag moment raw .enderecoImovel _ rfl haddress.1
  rw [if_neg haddress.2] at hleft
  rw [propertyAddress, hother, hleft, propertyAddress]
  cases Dictionary.filled? raw Field.endereco.name with
  | none => rfl
  | some text => rfl

/-- What follows for the contract follows again from the resolved form. -/
theorem contractChange_resolve
    : contractChange moment (resolve tag moment raw) = contractChange moment raw := by
  have htoday := moment.date.trim_toLocal
  have hwater : asksFor (resolve tag moment raw) .solicitarAgua = asksFor raw .solicitarAgua :=
    asksFor_resolve rfl
  have hshared : asksFor (resolve tag moment raw) .solicitarCondominio
      = asksFor raw .solicitarCondominio := asksFor_resolve rfl
  have hgas : asksFor (resolve tag moment raw) .solicitarGas = asksFor raw .solicitarGas :=
    asksFor_resolve rfl
  have hdebts : asksFor (resolve tag moment raw) .solicitarCND = asksFor raw .solicitarCND :=
    asksFor_resolve rfl
  funext field
  simp only [contractChange, requestedDocuments, hwater, hshared, hgas, hdebts,
    propertyAddress_resolve]
  cases field with
  | dataComunicacao | dataInicioRescisao | dataTerminoRescisao | dataRealizacaoVistoria
  | dataFirmamentoContrato | dataVistoria | dataLiquidacao =>
      exact congrArg Change.text (filledOr_resolve rfl htoday)
  | prazoDias | assinanteSelecionado | numeroContrato | cpflDaev | quantidadeChaves | tipoAgua =>
      exact congrArg Change.text (filledOr_resolve rfl (by decide))
  | _ => rfl

-----------------------------------------------------------------------------------------
-- Names that are left in a field of their own
-----------------------------------------------------------------------------------------

/-- A slot is filled in the same way again. -/
theorem filled?_slot_resolve {slot : Field} (h : slot ∈ Role.tenant.slots)
    : Dictionary.filled? (resolve tag moment raw) slot.name = Dictionary.filled? raw slot.name := by
  have hchange : change tag moment raw slot = .text (filledOr raw slot []) := by
    cases slot <;> first | exact absurd h (by decide) | rfl
  rw [filled?_resolve hchange (trim_filledOr slot rfl), filledOr]
  cases hfilled : Dictionary.filled? raw slot.name with
  | none => rfl
  | some text => exact if_neg (Dictionary.trim_of_filled? hfilled).2

/-- The full name of the tenants has no blanks around it, and is something. -/
theorem trim_tenantFullName
    : Text.trim (tenantFullName (Party.ofFields .tenant raw) raw)
        = tenantFullName (Party.ofFields .tenant raw) raw
      ∧ tenantFullName (Party.ofFields .tenant raw) raw ≠ [] := by
  rw [tenantFullName]
  cases hname : Dictionary.filled? raw Field.nomeLocatario.name with
  | some name => exact Dictionary.trim_of_filled? hname
  | none =>
      simp only
      split
      · rename_i hsource
        have hne := (Party.source_eq_slots_iff raw).mp hsource
        rw [Party.names_of_slots hne]
        exact ⟨Name.trim_joinAll (fun _ => Party.trim_of_mem_slotNames),
          Name.joinAll_ne_nil hne (fun _ => Party.trim_of_mem_slotNames)⟩
      · exact ⟨by decide, by decide⟩

/-- The full names of the tenants are found where they are left. -/
theorem filled?_nomeLocatario_resolve
    : Dictionary.filled? (resolve tag moment raw) Field.nomeLocatario.name
      = some (tenantFullName (Party.ofFields .tenant raw) raw) := by
  have htrim := @trim_tenantFullName raw
  rw [@filled?_resolve tag moment raw .nomeLocatario _ rfl htrim.1, if_neg htrim.2]

/-- The free text of the owners is that of their short names, or else of the full one. -/
theorem freeText?_owner (fields : Dictionary)
    : Party.freeText? .owner fields
      = (Dictionary.filled? fields Field.nomesResumidosLocadores).or
          (Dictionary.filled? fields Field.nomeProprietario) := by
  simp only [Party.freeText?, Role.freeTexts, List.findSome?_cons, List.findSome?_nil]
  cases Dictionary.filled? fields Field.nomesResumidosLocadores.name with
  | none => cases Dictionary.filled? fields Field.nomeProprietario.name <;> rfl
  | some text => rfl

/-- After resolving, the name of the owner is the free text, or the placeholder. -/
theorem filled?_nomeProprietario_resolve
    : Dictionary.filled? (resolve tag moment raw) Field.nomeProprietario.name
      = some ((Party.freeText? .owner raw).getD missingOwner) := by
  have htrim : Text.trim ((Party.freeText? .owner raw).getD missingOwner)
        = (Party.freeText? .owner raw).getD missingOwner
      ∧ (Party.freeText? .owner raw).getD missingOwner ≠ [] := by
    cases hfree : Party.freeText? .owner raw with
    | none => exact ⟨by decide, by decide⟩
    | some text =>
        obtain ⟨field, -, hfilled⟩ := List.exists_of_findSome?_eq_some hfree
        exact Dictionary.trim_of_filled? hfilled
  rw [@filled?_resolve tag moment raw .nomeProprietario _ rfl htrim.1, if_neg htrim.2]

/-- The names of the guarantors are found in the list that they are left in. -/
theorem listedNames_resolve
    : Party.listedNames (resolve tag moment raw) = (Party.ofFields .guarantor raw).names := by
  have hlist : Dictionary.list (resolve tag moment raw) Field.fiadores.name
      = (Party.ofFields .guarantor raw).names := by
    have hvalue : (resolve tag moment raw).get? Field.fiadores.name
        = some (.list (Party.ofFields .guarantor raw).names) :=
      get?_resolve tag moment raw .fiadores
    rw [Dictionary.list, hvalue]
    rfl
  have htrim : (Party.ofFields .guarantor raw).names.map Text.trim
      = (Party.ofFields .guarantor raw).names :=
    (List.map_congr_left (fun _ hname => (Party.trim_of_mem_names hname).1)).trans (List.map_id _)
  rw [Party.listedNames, hlist, htrim, List.filter_eq_self]
  intro name hname
  simpa using (Party.trim_of_mem_names hname).2

end Resolution

end LeasePapers
