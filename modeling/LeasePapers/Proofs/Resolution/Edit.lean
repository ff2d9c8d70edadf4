import LeasePapers.Proofs.Resolution.Reread

/-! Forms that are resolved, edited and resolved again, against forms that are edited as they came.
The second resolution reads the names that the first one has left, where the edited form names
nobody in a place that comes before. Every other result follows the edit.
-/

namespace LeasePapers

/-- A change that does not keep gives the same whatever was there. -/
theorem Change.on_eq {change : Change} (h : change ≠ .keep) (old other : Option Field.Value)
    : change.on old = change.on other := by
  cases change with
  | keep => exact absurd rfl h
  | write value => rfl
  | clear => rfl

namespace Role

/-- The fields that are written from the names and the agreement of a role. -/
def results : Role → List Field
  | .owner =>
      [.isMultipleProprietarios, .proprietarioTerm, .locadorTerm, .locadorTermComercial,
       .proprietarioPrezado, .proprietarioPrezadoWhatsapp, .primeiroNomeProprietario,
       .saudacaoProprietario, .nomeProprietarioFormatado, .nomeProprietario,
       .tratamentoProprietarioGenero, .tratamentoLocadorGenero]
  | .tenant =>
      [.isMultipleLocatarios, .locatarioTerm, .locatarioTermComercial, .locatarioTermNoArtigo,
       .locatarioTermo, .locatarioDocumentacao, .locatarioResponsabilidade, .locatarioComunicou,
       .locatarioIra, .locatarioPrezado, .locatarioPrezadoWhatsapp, .primeiroNomeLocatario,
       .saudacaoLocatario, .nomeLocatarioFormatado, .nomeLocatario, .tratamentoLocatarioGenero,
       .tratamentoLocatarioGeneroPlural, .tratamentoLocatarioNotificacao,
       .notificadoLocatarioTitulo]
  | .guarantor =>
      [.fiadores, .isMultipleFiadores, .fiadorTerm, .fiador1, .fiador2, .fiador3, .fiador4,
       .nomeFiadoresFormatado]

/-- The results that say the given names. A placeholder has no given name, but its first word is
taken for one where the placeholder is read as a name. -/
def givenNameResults : Role → List Field
  | .owner => [.proprietarioPrezadoWhatsapp, .primeiroNomeProprietario, .saudacaoProprietario]
  | .tenant => [.locatarioPrezadoWhatsapp, .primeiroNomeLocatario, .saudacaoLocatario]
  | .guarantor => []

end Role

namespace Party

/-- Whether a form says who the guarantors are before the list of them is looked at. -/
def NamesGuarantors (fields : Dictionary) : Prop :=
  slotNames .guarantor fields ≠ [] ∨ freeTextNames .guarantor fields ≠ []

/-- Whether a form names guarantors is seen from its names. -/
instance (fields : Dictionary) : Decidable (NamesGuarantors fields) :=
  inferInstanceAs (Decidable (_ ∨ _))

/-- Where guarantors are named, no further place is looked at. -/
theorem firstFilled_of_named {fields : Dictionary} (h : NamesGuarantors fields)
    (more other : List (Source × List Text))
    : firstFilled ((.slots, slotNames .guarantor fields)
        :: (.freeText, freeTextNames .guarantor fields) :: more)
      = firstFilled ((.slots, slotNames .guarantor fields)
        :: (.freeText, freeTextNames .guarantor fields) :: other) := by
  rw [firstFilled, firstFilled, firstFilled, firstFilled]
  rcases h with hslots | hfree
  · rw [if_neg hslots, if_neg hslots]
  · rw [if_neg hfree, if_neg hfree]

/-- A party is made from the names that are found first and its marker. -/
theorem ofFields_of_found {role : Role} {first second : Dictionary}
    (hfound : firstFilled (places role first) = firstFilled (places role second))
    (hmarker : Dictionary.text? first role.genderField = Dictionary.text? second role.genderField)
    : ofFields role first = ofFields role second := by
  rw [ofFields, ofFields, hfound, hmarker]

/-- The free text of the tenants. -/
theorem freeText?_tenant (fields : Dictionary)
    : freeText? .tenant fields = Dictionary.filled? fields Field.nomeLocatario := by
  simp only [freeText?, Role.freeTexts, List.findSome?_cons, List.findSome?_nil]
  cases Dictionary.filled? fields Field.nomeLocatario.name <;> rfl

/-- Without a filled slot the tenants are those of the free text. -/
theorem names_tenant {fields : Dictionary} (h : slotNames .tenant fields = [])
    : (ofFields .tenant fields).names = freeTextNames .tenant fields := by
  rw [ofFields, places, firstFilled, if_pos h]
  exact names_of_single_place _ _

/-- Guarantors that are named nowhere else are those of the list. -/
theorem names_guarantor {fields : Dictionary} (hany : hasGuarantors fields = true)
    (hnone : ¬NamesGuarantors fields)
    : (ofFields .guarantor fields).names = listedNames fields := by
  obtain ⟨hslots, hfree⟩ := not_or.mp hnone
  rw [ofFields, places, if_pos hany, firstFilled, if_pos (not_not.mp hslots), firstFilled,
    if_pos (not_not.mp hfree)]
  exact names_of_single_place _ _

/-- The owners are those of the free text. -/
theorem names_owner (fields : Dictionary)
    : (ofFields .owner fields).names = freeTextNames .owner fields :=
  names_of_single_place _ _

/-- A single name and no name at all are phrased alike. -/
theorem phrases_of_single {role : Role} {first second : Dictionary} {name : Text}
    (hmarker : Dictionary.text? first role.genderField = Dictionary.text? second role.genderField)
    (hname : (ofFields role first).names = [name]) (hnone : (ofFields role second).names = [])
    : (ofFields role first).agreement = (ofFields role second).agreement
      ∧ (ofFields role first).noun = (ofFields role second).noun
      ∧ (ofFields role first).isPlural = (ofFields role second).isPlural := by
  have hsame : (ofFields role first).marker = (ofFields role second).marker := by
    rw [ofFields, ofFields, hmarker]
  have hagreement : (ofFields role first).agreement = (ofFields role second).agreement := by
    rw [agreement, agreement, hsame, hname, hnone]
    rfl
  exact ⟨hagreement, rfl, by rw [isPlural, isPlural, hagreement]⟩

end Party

namespace Resolution

/-- The full name of the tenants is joined from the slots, unless it was filled in. -/
theorem tenantFullName_of_slots {fields : Dictionary}
    (hname : Dictionary.filled? fields Field.nomeLocatario = none)
    (hslots : Party.slotNames .tenant fields ≠ [])
    : tenantFullName (Party.ofFields .tenant fields) fields
      = Name.joinAll (Party.slotNames .tenant fields) := by
  rw [tenantFullName, hname]
  simp only [if_pos ((Party.source_eq_slots_iff fields).mpr hslots), Party.names_of_slots hslots]

/-- Without any name of a tenant the placeholder takes its place. -/
theorem tenantFullName_of_none {fields : Dictionary}
    (hname : Dictionary.filled? fields Field.nomeLocatario = none)
    (hslots : Party.slotNames .tenant fields = [])
    : tenantFullName (Party.ofFields .tenant fields) fields = missingTenant := by
  have hsource : (Party.ofFields .tenant fields).source ≠ .slots :=
    fun he => (Party.source_eq_slots_iff fields).mp he hslots
  rw [tenantFullName, hname]
  simp only [if_neg hsource]

/-- The placeholder, read again, is taken for a name. -/
theorem names_of_missingTenant {fields : Dictionary}
    (hslots : Party.slotNames .tenant fields = [])
    (hname : Dictionary.filled? fields Field.nomeLocatario = some missingTenant)
    : (Party.ofFields .tenant fields).names = [missingTenant] := by
  rw [Party.names_tenant hslots, Party.freeTextNames, Party.freeText?_tenant, hname]
  decide

-----------------------------------------------------------------------------------------
-- Results that need not follow an edit
-----------------------------------------------------------------------------------------

/-- The results about a role that need not follow an edit of a resolved form, where `raw` is the
form as it came and `fresh` is that form edited.

The full names of the tenants are read as they were left, unless the form gives them: they stay
behind an edit of the slots, and say who the tenants are if no slot is left. The full names of the
owners are read where the short names are gone, and the list of guarantors where nothing else names
any. Of a role that nobody was named for, a placeholder is read. -/
def stale (edited : List Field) (raw fresh : Dictionary) : Role → List Field
  | .tenant =>
      if .nomeLocatario ∈ edited ∨ Dictionary.filled? raw Field.nomeLocatario ≠ none then []
      else if Party.slotNames .tenant fresh ≠ [] then
        if ∀ slot ∈ Role.tenant.slots, slot ∉ edited then [] else [.nomeLocatario]
      else if Party.slotNames .tenant raw ≠ [] then Role.tenant.results
      else Role.tenant.givenNameResults
  | .owner =>
      if .nomeProprietario ∈ edited
          ∨ Dictionary.filled? fresh Field.nomesResumidosLocadores ≠ none then []
      else if Dictionary.filled? raw Field.nomesResumidosLocadores ≠ none then Role.owner.results
      else if Dictionary.filled? raw Field.nomeProprietario ≠ none then []
      else Role.owner.givenNameResults
  | .guarantor =>
      if Party.hasGuarantors raw = true ∧ Party.NamesGuarantors raw
          ∧ ¬Party.NamesGuarantors fresh then Role.guarantor.results
      else []

-----------------------------------------------------------------------------------------
-- The same edit of two forms
-----------------------------------------------------------------------------------------

/-- The fields that resolution reads and that name no party. -/
def otherInputs : List Field :=
  contractInputs ++ [.temFiador, .fiadores, .qualificacaoCompletaLocatarios]

/-- One edit of the fields that name parties, made to the resolved form and to the form as it came.
-/
structure SameEdit (tag : Text) (moment : Calendar.Moment) (raw : Dictionary) (edited : List Field)
    (again fresh : Dictionary) : Prop where
  inputs : ∀ field ∈ edited, ∃ role : Role, field ∈ role.inputs
  same : Dictionary.AgreeOn edited again fresh
  resolved : ∀ name, (∀ field ∈ edited, field.name ≠ name)
    → again.get? name = (resolve tag moment raw).get? name
  asItCame : ∀ name, (∀ field ∈ edited, field.name ≠ name)
    → fresh.get? name = raw.get? name

namespace SameEdit

variable {tag : Text} {moment : Calendar.Moment} {raw again fresh : Dictionary}
  {edited : List Field}

/-- No edit at all. -/
theorem refl (tag : Text) (moment : Calendar.Moment) (raw : Dictionary)
    : SameEdit tag moment raw [] (resolve tag moment raw) raw where
  inputs := by simp
  same := by simp [Dictionary.AgreeOn]
  resolved := fun _ _ => rfl
  asItCame := fun _ _ => rfl

/-- A field that is written or taken out. -/
theorem single {role : Role} {field : Field} {edit : Change} (hinput : field ∈ role.inputs)
    (hedit : edit ≠ .keep)
    : SameEdit tag moment raw [field] (edit.apply (resolve tag moment raw) field)
        (edit.apply raw field) where
  inputs := by
    rw [List.forall_mem_singleton]
    exact ⟨role, hinput⟩
  same := by
    intro other hmem
    obtain rfl := List.mem_singleton.mp hmem
    rw [Change.get?_apply, Change.get?_apply, if_pos rfl, if_pos rfl]
    exact Change.on_eq hedit _ _
  resolved := by
    intro name hname
    rw [Change.get?_apply, if_neg (Ne.symm (hname field List.mem_cons_self))]
  asItCame := by
    intro name hname
    rw [Change.get?_apply, if_neg (Ne.symm (hname field List.mem_cons_self))]

section

variable (h : SameEdit tag moment raw edited again fresh)

include h

/-- What was not edited is as it was resolved, and as it was given. -/
theorem unedited {read : List Field} (hread : ∀ field ∈ read, field ∉ edited)
    : Dictionary.AgreeOn read again (resolve tag moment raw)
      ∧ Dictionary.AgreeOn read fresh raw := by
  have hname : ∀ field ∈ read, ∀ other ∈ edited, other.name ≠ field.name := by
    intro field hmem other hother hname
    exact hread field hmem (Field.name_inj hname ▸ hother)
  exact ⟨fun field hmem => h.resolved _ (hname field hmem),
    fun field hmem => h.asItCame _ (hname field hmem)⟩

/-- A field that was not edited is as it was resolved, and as it was given. -/
theorem unedited_field {field : Field} (hfield : field ∉ edited)
    : Dictionary.AgreeOn [field] again (resolve tag moment raw)
      ∧ Dictionary.AgreeOn [field] fresh raw :=
  h.unedited (by simpa using hfield)

/-- Only fields that name parties are edited. -/
theorem others
    : Dictionary.AgreeOn otherInputs again (resolve tag moment raw)
      ∧ Dictionary.AgreeOn otherInputs fresh raw := by
  have hother : ∀ role : Role, ∀ field ∈ otherInputs, field ∉ role.inputs := by
    intro role
    cases role <;> decide
  refine h.unedited (fun field hmem hedited => ?_)
  obtain ⟨role, hinput⟩ := h.inputs field hedited
  exact hother role field hmem hinput

/-- Fields that are handed through are the same when resolved again. -/
theorem handedThrough : Dictionary.AgreeOn handedThrough again fresh := by
  intro field hmem
  by_cases hedited : field ∈ edited
  · exact h.same field hedited
  · obtain ⟨hagain, hfresh⟩ := h.unedited_field hedited
    rw [hagain field (by simp), hfresh field (by simp)]
    exact resolve_handedThrough tag moment raw field hmem

/-- The fields of the contract are changed in the same way again. -/
theorem contractChange_eq : contractChange moment again = contractChange moment fresh := by
  obtain ⟨hagain, hfresh⟩ := h.others
  rw [contractChange_congr (hagain.mono (by decide)), contractChange_resolve,
    contractChange_congr (hfresh.mono (by decide))]

/-- The markers of the roles are the same when resolved again. -/
theorem marker (role : Role)
    : Dictionary.text? again role.genderField = Dictionary.text? fresh role.genderField :=
  h.handedThrough.text? (by cases role <;> decide)

-----------------------------------------------------------------------------------------
-- Tenants
-----------------------------------------------------------------------------------------

/-- The slots are filled in the same way again. -/
theorem filled?_slot {slot : Field} (hslot : slot ∈ Role.tenant.slots)
    : Dictionary.filled? again slot.name = Dictionary.filled? fresh slot.name := by
  by_cases hedited : slot ∈ edited
  · exact h.same.filled? hedited
  · obtain ⟨hagain, hfresh⟩ := h.unedited_field hedited
    rw [hagain.filled? (by simp), filled?_slot_resolve hslot, hfresh.filled? (by simp)]

/-- The names in the slots of the tenants are the same again. -/
theorem slotNames_tenant : Party.slotNames .tenant again = Party.slotNames .tenant fresh :=
  List.filterMap_congr (fun _ hslot => h.filled?_slot hslot)

/-- The full names are left as they are read, where the form gives them in one text. -/
theorem filled?_nomeLocatario
    (hkept : .nomeLocatario ∈ edited ∨ Dictionary.filled? raw Field.nomeLocatario ≠ none)
    : Dictionary.filled? again Field.nomeLocatario
      = Dictionary.filled? fresh Field.nomeLocatario := by
  by_cases hedited : .nomeLocatario ∈ edited
  · exact h.same.filled? hedited
  · obtain ⟨hagain, hfresh⟩ := h.unedited_field hedited
    obtain ⟨name, hname⟩ := Option.ne_none_iff_exists'.mp (hkept.resolve_left hedited)
    rw [hagain.filled? (by simp), filled?_nomeLocatario_resolve, hfresh.filled? (by simp),
      tenantFullName, hname]

/-- The full names stay what they were, whatever other fields are edited: they are read as they were
left.
-/
theorem get?_nomeLocatario (hedited : .nomeLocatario ∉ edited)
    : (resolve tag moment again).get? Field.nomeLocatario.name
      = (resolve tag moment raw).get? Field.nomeLocatario.name := by
  obtain ⟨hagain, -⟩ := h.unedited_field hedited
  have hleft := (hagain.filled? (by simp)).trans filled?_nomeLocatario_resolve
  have hkept : tenantFullName (Party.ofFields .tenant again) again
      = tenantFullName (Party.ofFields .tenant raw) raw := by
    rw [tenantFullName, hleft]
  rw [Resolution.get?_resolve, Resolution.get?_resolve]
  exact congrArg (fun name => some (Field.Value.text name)) hkept

/-- The qualification of the tenants is the same again. -/
theorem filledOr_qualification
    : filledOr again .qualificacaoCompletaLocatarios missingFreeText
      = filledOr fresh .qualificacaoCompletaLocatarios missingFreeText := by
  obtain ⟨hagain, hfresh⟩ := h.others
  rw [filledOr_congr hagain (by decide), filledOr_congr hfresh (by decide),
    filledOr_resolve rfl (by decide)]

/-- Fields that say nothing about who the tenants are follow any edit. -/
theorem tenantChange_of_not_result {field : Field} (hfield : field ∉ Role.tenant.results)
    : tenantChange again field = tenantChange fresh field := by
  have hslot : ∀ slot ∈ Role.tenant.slots,
      Change.text (filledOr again slot []) = Change.text (filledOr fresh slot []) := by
    intro slot hmem
    rw [filledOr, filledOr, h.filled?_slot hmem]
  cases field with
  | primeiroLocatario => exact hslot _ (by decide)
  | segundoLocatario => exact hslot _ (by decide)
  | terceiroLocatario => exact hslot _ (by decide)
  | quartoLocatario => exact hslot _ (by decide)
  | qualificacaoCompletaLocatarios => exact congrArg Change.text h.filledOr_qualification
  | _ => first | exact absurd (by decide) hfield | rfl

/-- All results about tenants follow the edit if both forms name the same ones. -/
theorem tenantChange_of_party
    (hparty : Party.ofFields .tenant again = Party.ofFields .tenant fresh) {field : Field}
    (hname : field = .nomeLocatario → tenantFullName (Party.ofFields .tenant again) again
      = tenantFullName (Party.ofFields .tenant fresh) fresh)
    : tenantChange again field = tenantChange fresh field := by
  by_cases hresult : field ∈ Role.tenant.results
  · by_cases hfull : field = .nomeLocatario
    · have htext := hname hfull
      rw [hfull]
      exact congrArg Change.text htext
    · simp only [tenantChange, hparty]
      cases field <;> first | rfl | exact absurd rfl hfull | exact absurd hresult (by decide)
  · exact h.tenantChange_of_not_result hresult

/-- Where a form names no tenants, the placeholder is read as a name of one. -/
theorem tenantChange_of_placeholder (hslots : Party.slotNames .tenant fresh = [])
    (hagain : Dictionary.filled? again Field.nomeLocatario = some missingTenant)
    (hfresh : Dictionary.filled? fresh Field.nomeLocatario = none)
    {field : Field} (hfield : field ∉ Role.tenant.givenNameResults)
    : tenantChange again field = tenantChange fresh field := by
  have hname := names_of_missingTenant (h.slotNames_tenant.trans hslots) hagain
  have hnone : (Party.ofFields .tenant fresh).names = [] := by
    rw [Party.names_tenant hslots, Party.freeTextNames, Party.freeText?_tenant, hfresh]
    rfl
  have hfull : tenantFullName (Party.ofFields .tenant again) again
      = tenantFullName (Party.ofFields .tenant fresh) fresh := by
    rw [tenantFullName_of_none hfresh hslots, tenantFullName, hagain]
  have hjoined : namesOr (Party.ofFields .tenant again) missingTenant
      = namesOr (Party.ofFields .tenant fresh) missingTenant := by
    rw [namesOr, namesOr, hname, hnone]
    rfl
  obtain ⟨hagreement, hnoun, hplural⟩ :=
    Party.phrases_of_single (h.marker .tenant) hname hnone
  by_cases hresult : field ∈ Role.tenant.results
  · simp only [tenantChange, hagreement, hnoun, hplural, hfull, hjoined]
    cases field <;> first | rfl | exact absurd (by decide) hfield | exact absurd hresult (by decide)
  · exact h.tenantChange_of_not_result hresult

/-- The fields of the tenants are changed in the same way again, but for stale ones. -/
theorem tenantChange_eq {field : Field} (hfield : field ∉ stale edited raw fresh .tenant)
    : tenantChange again field = tenantChange fresh field := by
  rw [stale] at hfield
  by_cases hkept : .nomeLocatario ∈ edited ∨ Dictionary.filled? raw Field.nomeLocatario ≠ none
  · have hname := h.filled?_nomeLocatario hkept
    have hfound : Party.firstFilled (Party.places .tenant again)
        = Party.firstFilled (Party.places .tenant fresh) := by
      rw [Party.places, Party.places, h.slotNames_tenant, Party.freeTextNames, Party.freeTextNames,
        Party.freeText?_tenant, Party.freeText?_tenant, hname]
    have hparty := Party.ofFields_of_found hfound (h.marker .tenant)
    refine h.tenantChange_of_party hparty (fun _ => ?_)
    rw [hparty, tenantFullName, tenantFullName, hname]
  · rw [if_neg hkept] at hfield
    obtain ⟨hedited, hraw⟩ := not_or.mp hkept
    obtain ⟨hagain, hfresh⟩ := h.unedited_field hedited
    have hleft := (hagain.filled? (by simp)).trans filled?_nomeLocatario_resolve
    have hcame := (hfresh.filled? (by simp)).trans (not_not.mp hraw)
    by_cases hslots : Party.slotNames .tenant fresh = []
    · rw [if_neg (not_not.mpr hslots)] at hfield
      by_cases hbefore : Party.slotNames .tenant raw = []
      · rw [if_neg (not_not.mpr hbefore)] at hfield
        rw [tenantFullName_of_none (not_not.mp hraw) hbefore] at hleft
        exact h.tenantChange_of_placeholder hslots hleft hcame hfield
      · rw [if_pos hbefore] at hfield
        exact h.tenantChange_of_not_result hfield
    · rw [if_pos hslots] at hfield
      have hfound : Party.firstFilled (Party.places .tenant again)
          = Party.firstFilled (Party.places .tenant fresh) := by
        rw [Party.places, Party.places, h.slotNames_tenant, Party.firstFilled, if_neg hslots,
          Party.firstFilled, if_neg hslots]
      have hparty := Party.ofFields_of_found hfound (h.marker .tenant)
      refine h.tenantChange_of_party hparty (fun hfull => ?_)
      by_cases hsame : ∀ slot ∈ Role.tenant.slots, slot ∉ edited
      · have hnames : Party.slotNames .tenant fresh = Party.slotNames .tenant raw :=
          Party.slotNames_congr (h.unedited hsame).2
        rw [tenantFullName_of_slots hcame hslots, tenantFullName, hleft, hnames,
          tenantFullName_of_slots (not_not.mp hraw) (hnames ▸ hslots)]
      · rw [if_neg hsame, hfull] at hfield
        exact absurd (List.mem_singleton.mpr rfl) hfield

-----------------------------------------------------------------------------------------
-- Owners
-----------------------------------------------------------------------------------------

/-- The short names of the owners are the same again. -/
theorem filled?_nomesResumidosLocadores
    : Dictionary.filled? again Field.nomesResumidosLocadores
      = Dictionary.filled? fresh Field.nomesResumidosLocadores :=
  h.handedThrough.filled? (by decide)

/-- Fields of the owners that do not tell of them are changed in the same way again. -/
theorem ownerChange_of_not_result (tag' : Text) {field : Field}
    (hfield : field ∉ Role.owner.results)
    : ownerChange tag' again field = ownerChange tag' fresh field := by
  cases field with
  | qualificacaoCompletaProprietario =>
      exact congrArg Change.text (filledOr_congr h.handedThrough (by decide) missingFreeText)
  | _ => first | exact absurd (by decide) hfield | rfl

/-- All results about owners follow the edit if both forms name the same ones. -/
theorem ownerChange_of_freeText (tag' : Text)
    (hfree : Party.freeText? .owner again = Party.freeText? .owner fresh) (field : Field)
    : ownerChange tag' again field = ownerChange tag' fresh field := by
  by_cases hresult : field ∈ Role.owner.results
  · have hfound : Party.firstFilled (Party.places .owner again)
        = Party.firstFilled (Party.places .owner fresh) := by
      rw [Party.places, Party.places, Party.freeTextNames, Party.freeTextNames, hfree]
    simp only [ownerChange, Party.ofFields_of_found hfound (h.marker .owner), hfree]
    cases field <;> first | rfl | exact absurd hresult (by decide)
  · exact h.ownerChange_of_not_result tag' hresult

/-- Where a form names no owners, the placeholder is read as a name of one. -/
theorem ownerChange_of_placeholder (tag' : Text)
    (hagain : Party.freeText? .owner again = some missingOwner)
    (hfresh : Party.freeText? .owner fresh = none) {field : Field}
    (hfield : field ∉ Role.owner.givenNameResults)
    : ownerChange tag' again field = ownerChange tag' fresh field := by
  have hname : (Party.ofFields .owner again).names = [missingOwner] := by
    rw [Party.names_owner, Party.freeTextNames, hagain]
    decide
  have hnone : (Party.ofFields .owner fresh).names = [] := by
    rw [Party.names_owner, Party.freeTextNames, hfresh]
    rfl
  obtain ⟨hagreement, hnoun, hplural⟩ :=
    Party.phrases_of_single (h.marker .owner) hname hnone
  by_cases hresult : field ∈ Role.owner.results
  · simp only [ownerChange, hagreement, hnoun, hplural, hname, hnone, hagain, hfresh]
    cases field <;> first | rfl | exact absurd (by decide) hfield | exact absurd hresult (by decide)
  · exact h.ownerChange_of_not_result tag' hresult

/-- The fields of the owners are changed in the same way again, but for stale ones. -/
theorem ownerChange_eq (tag' : Text) {field : Field}
    (hfield : field ∉ stale edited raw fresh .owner)
    : ownerChange tag' again field = ownerChange tag' fresh field := by
  have hshort := h.filled?_nomesResumidosLocadores
  rw [stale] at hfield
  by_cases hkept : .nomeProprietario ∈ edited
      ∨ Dictionary.filled? fresh Field.nomesResumidosLocadores ≠ none
  · refine h.ownerChange_of_freeText tag' ?_ field
    rw [freeText?_owner, freeText?_owner, hshort]
    rcases hkept with hedited | hfilled
    · rw [h.same.filled? hedited]
    · obtain ⟨names, hnames⟩ := Option.ne_none_iff_exists'.mp hfilled
      rw [hnames]
      rfl
  · rw [if_neg hkept] at hfield
    obtain ⟨hedited, hnone⟩ := not_or.mp hkept
    by_cases hbefore : Dictionary.filled? raw Field.nomesResumidosLocadores = none
    · rw [if_neg (not_not.mpr hbefore)] at hfield
      obtain ⟨hagain, hfresh⟩ := h.unedited_field hedited
      have hleft : Party.freeText? .owner again
          = some ((Dictionary.filled? raw Field.nomeProprietario).getD missingOwner) := by
        rw [freeText?_owner, hshort, not_not.mp hnone, hagain.filled? (by simp),
          filled?_nomeProprietario_resolve, freeText?_owner, hbefore]
        rfl
      have hcame : Party.freeText? .owner fresh
          = Dictionary.filled? raw Field.nomeProprietario := by
        rw [freeText?_owner, not_not.mp hnone, hfresh.filled? (by simp)]
        rfl
      cases hname : Dictionary.filled? raw Field.nomeProprietario with
      | none =>
          rw [hname] at hleft hcame hfield
          exact h.ownerChange_of_placeholder tag' hleft hcame hfield
      | some name =>
          rw [hname] at hleft hcame
          exact h.ownerChange_of_freeText tag' (hleft.trans hcame.symm) field
    · rw [if_pos hbefore] at hfield
      exact h.ownerChange_of_not_result tag' hfield

-----------------------------------------------------------------------------------------
-- Guarantors
-----------------------------------------------------------------------------------------

/-- There are guarantors again if there were any. -/
theorem hasGuarantors_eq : Party.hasGuarantors again = Party.hasGuarantors fresh := by
  rw [Party.hasGuarantors, Party.hasGuarantors, h.handedThrough.filled? (by decide)]

/-- The names in the slots of the guarantors are the same again. -/
theorem slotNames_guarantor
    : Party.slotNames .guarantor again = Party.slotNames .guarantor fresh :=
  Party.slotNames_congr (h.handedThrough.mono (by decide))

/-- The names in the free text of the guarantors are the same again. -/
theorem freeTextNames_guarantor
    : Party.freeTextNames .guarantor again = Party.freeTextNames .guarantor fresh := by
  rw [Party.freeTextNames, Party.freeTextNames,
    Party.freeText?_congr (h.handedThrough.mono (by decide))]

/-- The fields of the guarantors are changed in the same way again, but for stale ones. -/
theorem guarantorChange_eq (tag' : Text) {field : Field}
    (hfield : field ∉ stale edited raw fresh .guarantor)
    : guarantorChange tag' again field = guarantorChange tag' fresh field := by
  rw [stale] at hfield
  by_cases hstale : Party.hasGuarantors raw = true ∧ Party.NamesGuarantors raw
      ∧ ¬Party.NamesGuarantors fresh
  · rw [if_pos hstale] at hfield
    cases field <;> first | exact absurd (by decide) hfield | rfl
  · obtain ⟨hagain, hfresh⟩ := h.others
    have hany : Party.hasGuarantors fresh = Party.hasGuarantors raw := by
      rw [Party.hasGuarantors, Party.hasGuarantors, hfresh.filled? (by decide)]
    have hlisted : Party.listedNames again = (Party.ofFields .guarantor raw).names := by
      rw [← @listedNames_resolve tag moment raw, Party.listedNames, Party.listedNames,
        hagain.list (by decide)]
    have hcame : Party.listedNames fresh = Party.listedNames raw := by
      rw [Party.listedNames, Party.listedNames, hfresh.list (by decide)]
    have hfound : Party.firstFilled (Party.places .guarantor again)
        = Party.firstFilled (Party.places .guarantor fresh) := by
      rw [Party.places, Party.places, h.hasGuarantors_eq, h.slotNames_guarantor,
        h.freeTextNames_guarantor]
      by_cases hhas : Party.hasGuarantors fresh = true
      · rw [if_pos hhas, if_pos hhas]
        by_cases hnamed : Party.NamesGuarantors fresh
        · exact Party.firstFilled_of_named hnamed _ _
        · have hbefore : ¬Party.NamesGuarantors raw :=
            fun hbefore => hstale ⟨hany ▸ hhas, hbefore, hnamed⟩
          rw [hlisted, hcame, Party.names_guarantor (hany ▸ hhas) hbefore]
      · rw [if_neg hhas, if_neg hhas]
    simp only [guarantorChange, Party.ofFields_of_found hfound (h.marker .guarantor)]

-----------------------------------------------------------------------------------------
-- All results
-----------------------------------------------------------------------------------------

/-- What is not stale follows the edit: the change is the same, and a field that is kept is the same
in both forms.
-/
theorem get?_resolve {name : Text}
    (hname : ∀ role, ∀ field ∈ stale edited raw fresh role, field.name ≠ name)
    : (resolve tag moment again).get? name = (resolve tag moment fresh).get? name := by
  cases hfield : Field.ofName? name with
  | none =>
      have hother := Field.name_ne_of_ofName? hfield
      have hresolved : (resolve tag moment raw).get? name = raw.get? name :=
        Dictionary.get?_update_unknown raw _ hfield
      rw [resolve, resolve, Dictionary.get?_update_unknown _ _ hfield,
        Dictionary.get?_update_unknown _ _ hfield, h.resolved name (fun other _ => hother other),
        h.asItCame name (fun other _ => hother other), hresolved]
  | some field =>
      obtain rfl := Field.name_of_ofName? hfield
      have hfresh : ∀ role, field ∉ stale edited raw fresh role :=
        fun role hmem => hname role field hmem rfl
      have hchange : change tag moment again field = change tag moment fresh field := by
        simp only [change, h.tenantChange_eq (hfresh .tenant), h.ownerChange_eq tag (hfresh .owner),
          h.guarantorChange_eq tag (hfresh .guarantor), h.contractChange_eq]
      rw [Resolution.get?_resolve, Resolution.get?_resolve, hchange]
      by_cases hkeep : change tag moment fresh field = .keep
      · have hsame : again.get? field.name = fresh.get? field.name := by
          by_cases hedited : field ∈ edited
          · exact h.same field hedited
          · obtain ⟨hagain, hcame⟩ := h.unedited_field hedited
            rw [hagain field (by simp), hcame field (by simp), Resolution.get?_resolve,
              change_eq_keep hkeep raw]
            rfl
        rw [hsame]
      · exact Change.on_eq hkeep _ _

end

end SameEdit

-----------------------------------------------------------------------------------------
-- Resolving an edited form
-----------------------------------------------------------------------------------------

/-- Every result that is not stale follows an edit of the resolved form, whatever field that names a
party is written or taken out.
-/
theorem resolve_edited (tag : Text) (moment : Calendar.Moment) (raw : Dictionary) {role : Role}
    {edited : Field} {edit : Change} (hinput : edited ∈ role.inputs) (hedit : edit ≠ .keep)
    {name : Text}
    (hname : ∀ role, ∀ field ∈ stale [edited] raw (edit.apply raw edited) role, field.name ≠ name)
    : (resolve tag moment (edit.apply (resolve tag moment raw) edited)).get? name
      = (resolve tag moment (edit.apply raw edited)).get? name :=
  (SameEdit.single hinput hedit).get?_resolve hname

/-- A morning in March. -/
def atNine : Calendar.Moment :=
  ⟨⟨2025, 3, 10, by decide⟩, 9⟩

/-- A form that names two tenants. -/
def anaAndBia : Dictionary :=
  TextMap.ofList
    [(Field.primeiroLocatario.name, .text "Ana"), (Field.segundoLocatario.name, .text "Bia")]

/-- The greeting follows a slot that was emptied. -/
theorem resolve_edited_segundoLocatario
    : (resolve "strong" atNine ((Change.text []).apply (resolve "strong" atNine anaAndBia)
          Field.segundoLocatario)).get? Field.saudacaoLocatario.name
        = some (.text "Prezado Ana") := by
  have hinput : Field.segundoLocatario ∈ Role.tenant.inputs := by decide
  have hedit : Change.text [] ≠ .keep := by decide
  have hname : ∀ role, ∀ field ∈ stale [.segundoLocatario] anaAndBia
      ((Change.text []).apply anaAndBia Field.segundoLocatario) role,
      field.name ≠ Field.saudacaoLocatario.name := by
    have hfield : ∀ role, Field.saudacaoLocatario ∉ stale [.segundoLocatario] anaAndBia
        ((Change.text []).apply anaAndBia Field.segundoLocatario) role := by
      intro role
      cases role <;> decide +kernel
    intro role field hmem hsame
    exact hfield role (Field.name_inj hsame ▸ hmem)
  rw [resolve_edited "strong" atNine anaAndBia hinput hedit hname, get?_resolve]
  decide +kernel

/-- After a slot is emptied the full names of the tenants are still the old ones. -/
theorem stale_after_edit
    : (resolve "strong" atNine ((Change.text []).apply (resolve "strong" atNine anaAndBia)
          Field.segundoLocatario)).get? Field.nomeLocatario.name
        = some (.text "Ana e Bia")
      ∧ (resolve "strong" atNine ((Change.text []).apply anaAndBia
          Field.segundoLocatario)).get? Field.nomeLocatario.name
        = some (.text "Ana") := by
  have hinput : Field.segundoLocatario ∈ Role.tenant.inputs := by decide
  have hedit : Change.text [] ≠ .keep := by decide
  constructor
  · rw [(SameEdit.single hinput hedit).get?_nomeLocatario (by decide), get?_resolve]
    decide +kernel
  · rw [get?_resolve]
    decide +kernel

/-- An edit that leaves no result stale may be made before a form is resolved or after that. -/
theorem resolve_edited_eq (tag : Text) (moment : Calendar.Moment) (raw : Dictionary) {role : Role}
    {edited : Field} {edit : Change} (hinput : edited ∈ role.inputs) (hedit : edit ≠ .keep)
    (hstale : ∀ role, stale [edited] raw (edit.apply raw edited) role = [])
    : resolve tag moment (edit.apply (resolve tag moment raw) edited)
      = resolve tag moment (edit.apply raw edited) := by
  refine TextMap.eq_of_get? (fun name => ?_)
  refine (SameEdit.single hinput hedit).get?_resolve (fun role field hmem => ?_)
  rw [hstale role] at hmem
  cases hmem

-----------------------------------------------------------------------------------------
-- Resolving a form again
-----------------------------------------------------------------------------------------

/-- Without an edit only given names are stale, those of a role that nobody is named for. -/
theorem unnamed_of_stale {raw : Dictionary} {role : Role} {field : Field}
    (h : field ∈ stale [] raw raw role)
    : field ∈ role.givenNameResults ∧ Party.slotNames role raw = []
      ∧ Party.freeText? role raw = none := by
  cases role with
  | tenant =>
      rw [stale] at h
      split at h
      · cases h
      · rename_i hname
        split at h
        · simp at h
        · rename_i hslots
          rw [Party.freeText?_tenant]
          exact ⟨h, not_not.mp hslots, by simpa using hname⟩
  | owner =>
      rw [stale] at h
      split at h
      · cases h
      · rename_i hshort
        split at h
        · simp_all
        · split at h
          · cases h
          · rename_i hname
            rw [freeText?_owner]
            simp_all [Party.slotNames, Role.slots]
  | guarantor =>
      rw [stale, if_neg (fun hstale => hstale.2.2 hstale.2.1)] at h
      cases h

/-- Resolving a form again changes nothing but given names, and those only of a role that nobody is
named for.
-/
theorem resolve_resolve (tag : Text) (moment : Calendar.Moment) (raw : Dictionary) {name : Text}
    (hname : ∀ role, Party.slotNames role raw = [] → Party.freeText? role raw = none
      → ∀ field ∈ role.givenNameResults, field.name ≠ name)
    : (resolve tag moment (resolve tag moment raw)).get? name
      = (resolve tag moment raw).get? name := by
  refine (SameEdit.refl tag moment raw).get?_resolve (fun role field hstale => ?_)
  obtain ⟨hgiven, hslots, hfree⟩ := unnamed_of_stale hstale
  exact hname role hslots hfree field hgiven

/-- An empty form, resolved twice, keeps the placeholder of the tenants. -/
theorem resolve_resolve_empty
    : (resolve "strong" atNine (resolve "strong" atNine .empty)).get?
          Field.nomeLocatarioFormatado.name
        = some (.text missingTenant) := by
  have hname : ∀ role, Party.slotNames role .empty = [] → Party.freeText? role .empty = none
      → ∀ field ∈ role.givenNameResults, field.name ≠ Field.nomeLocatarioFormatado.name := by
    intro role _ _ field hmem hsame
    rw [Field.name_inj hsame] at hmem
    revert hmem
    cases role <;> decide
  rw [resolve_resolve "strong" atNine .empty hname, get?_resolve]
  decide +kernel

/-- If a form names no tenants, the placeholder that the first resolution leaves is read as a name
by the second, and its first word as a given name.
-/
theorem leadingGivenName_of_placeholder (tag : Text) (moment : Calendar.Moment) {raw : Dictionary}
    (hslots : Party.slotNames .tenant raw = [])
    (hname : Dictionary.filled? raw Field.nomeLocatario = none)
    : (resolve tag moment (resolve tag moment raw)).get? Field.primeiroNomeLocatario.name
      = some (.text "[nome") := by
  have hslots' : Party.slotNames .tenant (resolve tag moment raw) = [] :=
    (SameEdit.refl tag moment raw).slotNames_tenant.trans hslots
  have hleft : Dictionary.filled? (resolve tag moment raw) Field.nomeLocatario
      = some missingTenant := by
    rw [filled?_nomeLocatario_resolve, tenantFullName_of_none hname hslots]
  have hgiven : leadingGivenName (Party.ofFields .tenant (resolve tag moment raw)) = "[nome" := by
    rw [leadingGivenName, Party.givenNames, names_of_missingTenant hslots' hleft]
    decide
  rw [get?_resolve]
  exact congrArg (fun name => some (Field.Value.text name)) hgiven

/-- Resolving the empty form again changes it. -/
theorem resolve_resolve_ne
    : resolve "strong" atNine (resolve "strong" atNine .empty)
      ≠ resolve "strong" atNine .empty := by
  intro hsame
  have hfirst : (resolve "strong" atNine .empty).get? Field.primeiroNomeLocatario.name
      = some (.text missingGivenName) := by
    rw [get?_resolve]
    decide +kernel
  rw [← hsame, leadingGivenName_of_placeholder "strong" atNine (by decide) (by decide)] at hfirst
  revert hfirst
  decide +kernel

/-- From the second time on nothing changes: a resolved form names somebody for every role that has
given names.
-/
theorem resolve_resolve_resolve (tag : Text) (moment : Calendar.Moment) (raw : Dictionary)
    : resolve tag moment (resolve tag moment (resolve tag moment raw))
      = resolve tag moment (resolve tag moment raw) := by
  refine TextMap.eq_of_get? (fun name => ?_)
  refine (SameEdit.refl tag moment (resolve tag moment raw)).get?_resolve
    (fun role field hstale => ?_)
  obtain ⟨hgiven, -, hfree⟩ := unnamed_of_stale hstale
  cases role with
  | tenant =>
      rw [Party.freeText?_tenant, filled?_nomeLocatario_resolve] at hfree
      cases hfree
  | owner =>
      rw [freeText?_owner, filled?_nomeProprietario_resolve] at hfree
      exact absurd (Option.or_eq_none_iff.mp hfree).2 (by simp)
  | guarantor => cases hgiven

end Resolution

end LeasePapers
