import LeasePapers.Proofs.Resolution.Derived

/-! The phrases about a role. They are written out here in all their forms, and every one that is
written into a form stands in the form of one agreement: the gender is that of the marker, and the
number follows from the marker and the names.
-/

namespace LeasePapers

/-- A phrase in the forms that it takes: masculine and feminine, then both in the plural. -/
structure Phrase where
  masculine : Text
  feminine : Text
  masculines : Text
  feminines : Text

/-- The form of a phrase that agrees. -/
def Phrase.form (phrase : Phrase) : Agreement → Text
  | ⟨.masculine, .singular⟩ => phrase.masculine
  | ⟨.feminine, .singular⟩ => phrase.feminine
  | ⟨.masculine, .plural⟩ => phrase.masculines
  | ⟨.feminine, .plural⟩ => phrase.feminines

/-- The salutation of a letter. -/
def Phrase.salutation : Phrase := ⟨"Prezado", "Prezada", "Prezados", "Prezadas"⟩

namespace Role

/-- The phrases that are written about a role, and the fields in which they stand. -/
def phrases : Role → List (Field × Phrase)
  | .tenant =>
      [(.isMultipleLocatarios, ⟨"false", "false", "true", "true"⟩),
       (.locatarioTerm, ⟨"LOCATÁRIO", "LOCATÁRIA", "LOCATÁRIOS", "LOCATÁRIAS"⟩),
       (.locatarioTermComercial, ⟨"locatário", "locatária", "locatários", "locatárias"⟩),
       (.locatarioTermNoArtigo,
         ⟨"o locatário", "a locatária", "os locatários", "as locatárias"⟩),
       (.locatarioTermo,
         ⟨"do locatário", "da locatária", "dos locatários", "das locatárias"⟩),
       (.locatarioDocumentacao,
         ⟨"do locatário", "da locatária", "dos locatários", "das locatárias"⟩),
       (.locatarioResponsabilidade,
         ⟨"do locatário", "da locatária", "dos locatários", "das locatárias"⟩),
       (.locatarioComunicou, ⟨"informou", "informou", "informaram", "informaram"⟩),
       (.locatarioIra, ⟨"irá", "irá", "irão", "irão"⟩),
       (.locatarioPrezado, .salutation),
       (.tratamentoLocatarioGenero, ⟨"seu", "sua", "seus", "suas"⟩),
       (.tratamentoLocatarioGeneroPlural, ⟨"seus", "suas", "seus", "suas"⟩),
       (.tratamentoLocatarioNotificacao, ⟨"V.S", "V.Sa", "V.Ss", "V.Sas"⟩),
       (.notificadoLocatarioTitulo,
         ⟨"Notificado Locatário", "Notificada Locatária", "Notificados Locatários",
          "Notificadas Locatárias"⟩)]
  | .owner =>
      [(.isMultipleProprietarios, ⟨"false", "false", "true", "true"⟩),
       (.proprietarioTerm,
         ⟨"o proprietário", "a proprietária", "os proprietários", "as proprietárias"⟩),
       (.locadorTerm, ⟨"LOCADOR", "LOCADORA", "LOCADORES", "LOCADORAS"⟩),
       (.locadorTermComercial, ⟨"locador", "locadora", "locadores", "locadoras"⟩),
       (.proprietarioPrezado, .salutation),
       (.tratamentoProprietarioGenero,
         ⟨"o senhor", "a senhora", "os senhores", "as senhoras"⟩),
       (.tratamentoLocadorGenero,
         ⟨"ao locador", "à locadora", "aos locadores", "às locadoras"⟩)]
  | .guarantor =>
      [(.isMultipleFiadores, ⟨"false", "false", "true", "true"⟩),
       (.fiadorTerm, ⟨"FIADOR", "FIADORA", "FIADORES", "FIADORAS"⟩)]

/-- The fields that greet the people who hold a role, by a salutation and their given names. -/
def greetings : Role → List Field
  | .owner => [.saudacaoProprietario]
  | .tenant => [.saudacaoLocatario]
  | .guarantor => []

/-- The fields that agree with the people who hold a role. -/
def agreeing (role : Role) : List Field :=
  role.phrases.map Prod.fst ++ role.greetings

end Role

namespace Resolution

variable {tag : Text} {moment : Calendar.Moment} {raw first second : Dictionary} {role : Role}

/-- What is written about a role is in the form of an agreement, and the agreement is what the form
says of the role. -/
structure Governs (raw resolved : Dictionary) (role : Role) (a : Agreement) : Prop where
  marked : ∀ marker, Party.Marks role raw marker → a.gender = marker.gender
  unmarked : (∀ marker, ¬Party.Marks role raw marker) → a.gender = .masculine
  number : a.number = .plural
    ↔ (∃ marker, Party.Marks role raw marker ∧ marker.isPlural = true)
      ∨ 1 < (Party.statedNames role raw).length
  phrased : ∀ field phrase, (field, phrase) ∈ role.phrases →
    resolved.get? field.name = some (.text (phrase.form a))
  greeted : ∀ field ∈ role.greetings,
    ∃ given, List.Forall₂ Name.GivenAs (Party.statedNames role raw) given
      ∧ resolved.get? field.name
        = some (.text (Phrase.salutation.form a ++ [' ']
            ++ if given = [] then missingGivenName else Name.joinAll given))

/-- What a form says of a role admits one agreement only. -/
theorem Governs.unique {resolved : Dictionary} {a b : Agreement} (ha : Governs raw resolved role a)
    (hb : Governs raw resolved role b)
    : a = b := by
  have hgender : a.gender = b.gender := by
    by_cases hmarked : ∃ marker, Party.Marks role raw marker
    · obtain ⟨marker, hmarks⟩ := hmarked
      rw [ha.marked marker hmarks, hb.marked marker hmarks]
    · rw [not_exists] at hmarked
      rw [ha.unmarked hmarked, hb.unmarked hmarked]
  have hnumber : a.number = .plural ↔ b.number = .plural := ha.number.trans hb.number.symm
  obtain ⟨gender, number⟩ := a
  obtain ⟨gender', number'⟩ := b
  cases number <;> cases number' <;> simp_all

/-- What happens to a field on behalf of a role. -/
def roleChange (tag : Text) (raw : Dictionary) : Role → Field → Change
  | .tenant => tenantChange raw
  | .owner => ownerChange tag raw
  | .guarantor => guarantorChange tag raw

/-- A field that agrees with a party is changed by its role. -/
theorem get?_resolve_agreeing {field : Field} (h : field ∈ role.agreeing)
    : (resolve tag moment raw).get? field.name
      = (roleChange tag raw role field).on (raw.get? field.name) := by
  have hchange : change tag moment raw field = roleChange tag raw role field := by
    cases role <;> cases field <;> first | rfl | exact absurd h (by decide)
  rw [get?_resolve, hchange]

/-- The phrases of a party are written into their fields in the form that agrees with it. -/
theorem roleChange_phrases (tag : Text) (raw : Dictionary) (role : Role)
    : ∀ entry ∈ role.phrases,
        roleChange tag raw role entry.1
          = .text (entry.2.form (Party.ofFields role raw).agreement) := by
  have hnoun : (Party.ofFields role raw).noun = role.noun := rfl
  -- Of the whole form only the agreement is left, and the four forms of a phrase are closed texts.
  cases role <;>
    simp only [Role.phrases, List.forall_mem_cons, List.not_mem_nil, false_imp_iff, implies_true,
      and_true, roleChange, tenantChange, ownerChange, guarantorChange, Party.isPlural, hnoun] <;>
    generalize Party.agreement _ = a <;>
    rcases a with ⟨⟨⟩, ⟨⟩⟩ <;>
    decide +kernel

/-- The greetings of a role greet its party. -/
theorem roleChange_greetings (tag : Text) (raw : Dictionary) (role : Role)
    : ∀ field ∈ role.greetings,
        roleChange tag raw role field
          = .text ((Party.ofFields role raw).greeting missingGivenName) := by
  cases role <;> simp [Role.greetings, roleChange, tenantChange, ownerChange]

/-- The salutation of an agreement is the phrase in its form. -/
theorem dear_eq (a : Agreement) : a.dear = Phrase.salutation.form a := by
  rcases a with ⟨⟨⟩, ⟨⟩⟩ <;> rfl

/-- The agreement of a party governs what is written about it. -/
theorem governs_agreement (tag : Text) (moment : Calendar.Moment) (raw : Dictionary) (role : Role)
    : Governs raw (resolve tag moment raw) role (Party.ofFields role raw).agreement where
  marked := by
    intro marker hmarks
    rw [Party.marks_iff] at hmarks
    rw [Party.agreement, hmarks]
    rfl
  unmarked := by
    intro hnone
    have hmarker : (Party.ofFields role raw).marker = none :=
      Option.eq_none_iff_forall_ne_some.mpr (fun marker h => hnone marker (Party.marks_iff.mpr h))
    rw [Party.agreement, hmarker]
    rfl
  number := by
    rw [Party.agreement, Agreement.of, Party.names_ofFields]
    simp only [Party.marks_iff]
    cases (Party.ofFields role raw).marker with
    | none => simp
    | some marker => cases hplural : marker.isPlural <;> simp [hplural]
  phrased := by
    intro field phrase hmem
    have hfield : field ∈ role.agreeing :=
      List.mem_append_left _ (List.mem_map.mpr ⟨_, hmem, rfl⟩)
    rw [get?_resolve_agreeing hfield, roleChange_phrases tag raw role _ hmem]
    rfl
  greeted := by
    intro field hmem
    refine ⟨_, Party.givenAs_givenNames role raw, ?_⟩
    rw [get?_resolve_agreeing (List.mem_append_right _ hmem),
      roleChange_greetings tag raw role field hmem, Party.greeting, Party.givenNamesOr, dear_eq]
    rfl

-----------------------------------------------------------------------------------------
-- The marker of a role
-----------------------------------------------------------------------------------------

/-- Forms that differ in the marker of a role alone name the same people, and in the same places. -/
theorem found_of_marker (h : Dictionary.AgreeOff [role.genderField] first second) (other : Role)
    : (Party.ofFields other first).names = (Party.ofFields other second).names
      ∧ (Party.ofFields other first).source = (Party.ofFields other second).source := by
  have hread : Dictionary.AgreeOn [.temFiador, .fiadores] first second :=
    h.agreeOn (by cases role <;> decide)
  have hplaces : Party.places other first = Party.places other second :=
    Party.places_congr (h.agreeOn (by cases role <;> cases other <;> decide))
      (fun _ => ⟨hread.mono (by decide), hread.list (by decide)⟩)
  simp only [Party.ofFields, hplaces, and_self]

/-- The marker of a role has no part in what is written on behalf of another one. -/
theorem roleChange_of_other {other : Role} (h : Dictionary.AgreeOff [role.genderField] first second)
    (hother : other ≠ role)
    : roleChange tag first other = roleChange tag second other := by
  cases other with
  | tenant =>
      refine tenantChange_congr (h.agreeOn ?_)
      cases role <;> first | decide | contradiction
  | owner =>
      refine ownerChange_congr (h.agreeOn ?_) tag
      cases role <;> first | decide | contradiction
  | guarantor =>
      have hlist : Dictionary.AgreeOn [.fiadores] first second :=
        h.agreeOn (by cases role <;> decide)
      refine guarantorChange_congr (h.agreeOn ?_) (hlist.list (by decide)) tag
      cases role <;> first | decide | contradiction

/-- On behalf of its own role it makes a difference to the agreeing fields alone: all others follow
from the names. -/
theorem roleChange_of_marker (h : Dictionary.AgreeOff [role.genderField] first second)
    {field : Field} (hfield : field ∉ role.agreeing)
    : roleChange tag first role field = roleChange tag second role field := by
  obtain ⟨hnames, hsource⟩ := found_of_marker h role
  cases role with
  | tenant =>
      have hread : Dictionary.AgreeOn
          (Role.tenant.slots ++ [.nomeLocatario, .qualificacaoCompletaLocatarios]) first second :=
        h.agreeOn (by decide)
      simp (disch := decide) only [roleChange, tenantChange, leadingGivenName, Party.givenNamesOr,
        Party.givenNames, namesOr, tenantFullName, hnames, hsource, hread.filled?,
        filledOr_congr hread]
      cases field <;> first | rfl | exact absurd (by decide) hfield
  | owner =>
      have hread : Dictionary.AgreeOn [.qualificacaoCompletaLocadores] first second :=
        h.agreeOn (by decide)
      have hfree : Party.freeText? .owner first = Party.freeText? .owner second :=
        Party.freeText?_congr (h.agreeOn (by decide))
      simp (disch := decide) only [roleChange, ownerChange, leadingGivenName, Party.givenNamesOr,
        Party.givenNames, hnames, hfree, filledOr_congr hread]
      cases field <;> first | rfl | exact absurd (by decide) hfield
  | guarantor =>
      simp only [roleChange, guarantorChange, hnames]
      cases field <;> first | rfl | exact absurd (by decide) hfield

/-- Among all fields but itself, the marker of a role makes a difference to the agreeing ones alone.
-/
theorem resolve_of_marker (h : Dictionary.AgreeOff [role.genderField] first second)
    : Dictionary.AgreeOff (role.genderField :: role.agreeing) (resolve tag moment first)
        (resolve tag moment second) := by
  intro name hname
  rw [List.forall_mem_cons] at hname
  cases hfield : Field.ofName? name with
  | none =>
      rw [resolve, resolve, Dictionary.get?_update_unknown _ _ hfield,
        Dictionary.get?_update_unknown _ _ hfield]
      exact h name (by simpa using hname.1)
  | some field =>
      obtain rfl := Field.name_of_ofName? hfield
      have hroles : ∀ other,
          roleChange tag first other field = roleChange tag second other field := by
        intro other
        by_cases hother : other = role
        · subst hother
          exact roleChange_of_marker h (fun hmem => hname.2 field hmem rfl)
        · rw [roleChange_of_other h hother]
      have hcontract : contractChange moment first = contractChange moment second :=
        contractChange_congr (h.agreeOn (by cases role <;> decide)) moment
      have hchange : change tag moment first field = change tag moment second field := by
        have htenant := hroles .tenant
        have howner := hroles .owner
        have hguarantor := hroles .guarantor
        simp only [roleChange] at htenant howner hguarantor
        simp only [change, htenant, howner, hguarantor, hcontract]
      rw [get?_resolve, get?_resolve, hchange, h field.name (by simpa using hname.1)]

/-- What is written about a role is in the form of one agreement, which is the one that the form
says, and the marker of the role makes no difference to any other field. -/
theorem resolve_governed (tag : Text) (moment : Calendar.Moment) (raw : Dictionary) (role : Role)
    : (∃! a, Governs raw (resolve tag moment raw) role a)
      ∧ ∀ other, Dictionary.AgreeOff [role.genderField] raw other →
          Dictionary.AgreeOff (role.genderField :: role.agreeing) (resolve tag moment raw)
            (resolve tag moment other) := by
  refine ⟨⟨_, governs_agreement tag moment raw role, fun a ha => ?_⟩, fun other h => ?_⟩
  · exact ha.unique (governs_agreement tag moment raw role)
  · exact resolve_of_marker h

end Resolution

end LeasePapers
