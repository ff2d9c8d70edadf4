import LeasePapers.Proofs.Resolution.Edit

/-! The fields that follow from others. Resolution writes or takes them out, and what a form holds
at them says nothing: it is never read. Fields that resolution does not write are handed through.
-/

namespace LeasePapers.Resolution

variable {tag : Text} {moment : Calendar.Moment} {first second : Dictionary}

/-- The fields that are written on behalf of the contract. -/
def contractResults : List Field :=
  [.dataAtual, .mesesComprovantes, .saudacaoComercial, .dataComunicacao, .dataInicioRescisao,
   .dataTerminoRescisao, .dataRealizacaoVistoria, .dataFirmamentoContrato, .dataVistoria,
   .dataLiquidacao, .prazoDias, .assinanteSelecionado, .numeroContrato, .cpflDaev,
   .quantidadeChaves, .enderecoImovel, .cpfl, .statusAgua, .tipoAgua, .solicitarEnergia,
   .solicitarAgua, .solicitarCondominio, .solicitarGas, .solicitarCND, .documentosSolicitados]

/-- The fields that resolution writes or takes out. -/
def written : List Field :=
  Role.tenant.results ++ Role.tenant.slots ++ Role.owner.results ++ Role.guarantor.results
    ++ [.qualificacaoCompletaLocatarios, .qualificacaoCompletaProprietario] ++ contractResults

/-- The fields that resolution writes or takes out and never reads: terms, greetings and flags, the
formatted names, the guarantors one by one, the date of today and the documents that are asked for.
-/
def derived : List Field :=
  written.filter (· ∉ inputs)

/-- A field is kept if and only if it is not among those that are written. -/
theorem change_eq_keep_iff (raw : Dictionary) (field : Field)
    : change tag moment raw field = .keep ↔ field ∉ written := by
  cases field with
  | nomeFiadoresFormatado =>
      refine iff_of_false (fun hkeep => ?_) (by decide)
      cases change_eq_keep hkeep .empty
  | _ => first | exact iff_of_true rfl (by decide) | exact iff_of_false nofun (by decide)

/-- Every other field is handed through, be it a known one or not. -/
theorem resolve_agreeOff_written (tag : Text) (moment : Calendar.Moment) (raw : Dictionary)
    : Dictionary.AgreeOff written (resolve tag moment raw) raw := by
  intro name hname
  cases hfield : Field.ofName? name with
  | none => exact Dictionary.get?_update_unknown raw _ hfield
  | some field =>
      obtain rfl := Field.name_of_ofName? hfield
      have hkeep : change tag moment raw field = .keep :=
        (change_eq_keep_iff raw field).mpr (fun hmem => hname field hmem rfl)
      rw [get?_resolve, hkeep]
      rfl

/-- Forms that are resolved by the same changes, and are the same where nothing is changed. -/
theorem resolve_eq_of_change (hchange : change tag moment first = change tag moment second)
    (hkept : Dictionary.AgreeOff written first second)
    : resolve tag moment first = resolve tag moment second := by
  refine TextMap.eq_of_get? (fun name => ?_)
  by_cases hname : ∀ field ∈ written, field.name ≠ name
  · rw [resolve_agreeOff_written tag moment first name hname,
      resolve_agreeOff_written tag moment second name hname, hkept name hname]
  · push Not at hname
    obtain ⟨field, hmem, rfl⟩ := hname
    have hne : change tag moment second field ≠ .keep :=
      fun hkeep => (change_eq_keep_iff second field).mp hkeep hmem
    rw [get?_resolve, get?_resolve, hchange]
    exact Change.on_eq hne _ _

/-- Forms that agree but for derived fields are resolved to the same. -/
theorem resolve_congr (h : Dictionary.AgreeOff derived first second)
    : resolve tag moment first = resolve tag moment second := by
  have hread : Dictionary.AgreeOn inputs first second :=
    h.agreeOn (fun field hinput hderived => by simp [derived, hinput] at hderived)
  exact resolve_eq_of_change (change_congr hread tag moment)
    (h.mono (fun _ hderived => List.mem_of_mem_filter hderived))

/-- The guarantors may be listed in different ways: a list and a text that spells it are resolved to
the same. -/
theorem resolve_congr_of_list (h : Dictionary.AgreeOff [.fiadores] first second)
    (hlist : Dictionary.list first Field.fiadores = Dictionary.list second Field.fiadores)
    : resolve tag moment first = resolve tag moment second :=
  resolve_eq_of_change (change_congr_of_list (h.agreeOn (by decide)) hlist tag moment)
    (h.mono (by decide))

-----------------------------------------------------------------------------------------
-- Fields that are written and read
-----------------------------------------------------------------------------------------

/-- What makes a difference in a field that is read and written: a text that says yes where a
question is asked and is a name or a date elsewhere, and a list of guarantors with one name. -/
def telling : Field → Field.Value
  | .fiadores => .list ["sim"]
  | _ => .text "sim"

/-- A written field that is read is no derived one: what a form holds at it makes a difference. -/
theorem resolve_ne_of_read {field : Field} (hwritten : field ∈ written) (hread : field ∈ inputs)
    : resolve "strong" atNine (TextMap.empty.insert field (telling field))
        ≠ resolve "strong" atNine .empty := by
  have hchange : ∀ field ∈ written, field ∈ inputs →
      (change "strong" atNine (TextMap.empty.insert field (telling field)) field).on none
        ≠ (change "strong" atNine .empty field).on none := by
    decide
  have hon : ∀ raw : Dictionary, (resolve "strong" atNine raw).get? field.name
      = (change "strong" atNine raw field).on none := by
    intro raw
    rw [get?_resolve]
    exact Change.on_eq (fun hkeep => (change_eq_keep_iff raw field).mp hkeep hwritten) _ _
  intro hsame
  refine hchange field hwritten hread ?_
  rw [← hon, ← hon, hsame]

/-- The derived fields are those that are written whatever a form says, and where nothing a form
holds makes a difference. -/
theorem mem_derived_iff (field : Field)
    : field ∈ derived
      ↔ (∀ tag moment raw, change tag moment raw field ≠ .keep)
        ∧ ∀ tag moment raw value,
          resolve tag moment (raw.insert field value) = resolve tag moment raw := by
  constructor
  · intro hderived
    refine ⟨fun tag moment raw hkeep => ?_, fun tag moment raw value => ?_⟩
    · exact (change_eq_keep_iff raw field).mp hkeep (List.mem_of_mem_filter hderived)
    · refine resolve_congr (fun name hname => ?_)
      rw [TextMap.get?_insert, if_neg (Ne.symm (hname field hderived))]
  · rintro ⟨hwrites, hsame⟩
    have hwritten : field ∈ written :=
      not_not.mp ((change_eq_keep_iff .empty field).not.mp (hwrites "strong" atNine .empty))
    refine List.mem_filter.mpr ⟨hwritten, decide_eq_true (fun hread => ?_)⟩
    exact resolve_ne_of_read hwritten hread (hsame _ _ _ _)

-----------------------------------------------------------------------------------------
-- Stale values
-----------------------------------------------------------------------------------------

/-- What a form holds at derived fields has no part in what it is resolved to, and whatever is not
written is left as it came. -/
theorem resolve_eq_of_agreeOff (tag : Text) (moment : Calendar.Moment)
    (h : Dictionary.AgreeOff derived first second)
    : resolve tag moment first = resolve tag moment second
      ∧ Dictionary.AgreeOff written (resolve tag moment first) first :=
  ⟨resolve_congr h, resolve_agreeOff_written tag moment first⟩

/-- A stale greeting. -/
theorem resolve_saudacaoLocatario
    : resolve "strong" atNine (anaAndBia.insert Field.saudacaoLocatario (.text "Prezado Caio"))
        = resolve "strong" atNine anaAndBia
      ∧ Dictionary.AgreeOff written
          (resolve "strong" atNine
            (anaAndBia.insert Field.saudacaoLocatario (.text "Prezado Caio")))
          (anaAndBia.insert Field.saudacaoLocatario (.text "Prezado Caio")) := by
  refine resolve_eq_of_agreeOff "strong" atNine (fun name hname => ?_)
  have hother : Field.saudacaoLocatario.name ≠ name := hname .saudacaoLocatario (by decide)
  rw [TextMap.get?_insert, if_neg hother.symm]

end LeasePapers.Resolution
