import LeasePapers.Proofs.Party.Alike
import LeasePapers.Proofs.Resolution.Inputs

/-! Resolution of two forms that differ in surnames. Field by field the same is kept, written or
taken out, and what is written is the same once it is redacted.
-/

namespace LeasePapers.Resolution

open Redaction (RedactedAlike)

/-- Two changes of a field are the same, or write values that are redacted alike. -/
def ChangeAlike (field : Field) (change other : Change) : Prop :=
  change = other ∨ ∃ value value', change = .write value ∧ other = .write value'
    ∧ RedactedAlike field.name value value'

/-- Texts that are redacted alike are changes that are. -/
theorem ChangeAlike.text {field : Field} {text other : Text}
    (h : RedactedAlike field.name (.text text) (.text other))
    : ChangeAlike field (.text text) (.text other) :=
  Or.inr ⟨_, _, rfl, rfl, h⟩

/-- Alike changes stay alike with other ones in their place where they keep. -/
theorem ChangeAlike.orElse {field : Field} {change other more more' : Change}
    (h : ChangeAlike field change other) (hmore : ChangeAlike field more more')
    : ChangeAlike field (change.orElse more) (other.orElse more') := by
  rcases h with rfl | ⟨value, value', rfl, rfl, hvalue⟩
  · cases change with
    | keep => exact hmore
    | write value => exact Or.inl rfl
    | clear => exact Or.inl rfl
  · exact Or.inr ⟨value, value', rfl, rfl, hvalue⟩

variable {tag : Text} {first second : Dictionary}

/-- Slots with alike names are changed alike. -/
theorem filledOr_alike {slot : Field} (hrule : Redaction.ruleFor? slot.name = some .name)
    (h : Option.Rel Name.Alike (Dictionary.filled? first slot.name)
      (Dictionary.filled? second slot.name))
    : ChangeAlike slot (.text (filledOr first slot [])) (.text (filledOr second slot [])) := by
  rw [filledOr, filledOr]
  generalize Dictionary.filled? first slot.name = text, Dictionary.filled? second slot.name = other
    at h
  cases h with
  | none => exact Or.inl rfl
  | some hname => exact .text (Redaction.redactedAlike_of_alike hrule hname)

/-- Slots are redacted as names. -/
theorem rule_of_slot {role : Role} {slot : Field} (h : slot ∈ role.slots)
    : Redaction.ruleFor? slot.name = some .name := by
  have hrules : ∀ slot ∈ role.slots, (slot, Redaction.Rule.name) ∈ Redaction.rules := by
    cases role <;> decide
  exact Redaction.ruleFor?_of_mem (hrules slot h)

/-- The full names of the tenants are alike: the free text, or the names of the slots joined. -/
theorem tenantFullName_alike {party other : Party} (h : RoleAlike [] .tenant first second)
    (hparty : Party.Alike [] party other)
    : RedactedAlike Field.nomeLocatario.name (.text (tenantFullName party first))
        (.text (tenantFullName other second)) := by
  have hrule : Redaction.ruleFor? Field.nomeLocatario.name = some .nameList :=
    Redaction.ruleFor?_of_mem (by decide)
  have htext := h.freeTexts .nomeLocatario (by simp [Role.freeTexts])
  rw [tenantFullName, tenantFullName]
  generalize Dictionary.filled? first Field.nomeLocatario.name = text,
    Dictionary.filled? second Field.nomeLocatario.name = text' at htext
  cases htext with
  | none =>
      simp only [hparty.source]
      split
      · exact Redaction.redactedAlike_joined hrule (by simp) hparty.names hparty.joinable
      · exact Redaction.redactedAlike_self _ _
  | some htext =>
      rcases htext with rfl | htext
      · exact Redaction.redactedAlike_self _ _
      · exact Redaction.redactedAlike_freeText hrule htext

/-- Alike tenants change the fields of their role alike. -/
theorem tenantChange_alike (h : RoleAlike [] .tenant first second)
    (hsame : Dictionary.AgreeOn [.qualificacaoCompletaLocatarios] first second) (field : Field)
    : ChangeAlike field (tenantChange first field) (tenantChange second field) := by
  have hparty := h.party
  have hslot : ∀ slot ∈ Role.tenant.slots,
      ChangeAlike slot (.text (filledOr first slot [])) (.text (filledOr second slot [])) :=
    fun slot hmem => filledOr_alike (rule_of_slot hmem) (h.slots slot hmem)
  -- Only the names themselves are left to compare.
  simp (disch := decide) only [tenantChange, leadingGivenName, hparty.agreement, hparty.noun,
    hparty.isPlural, hparty.givenNames, hparty.givenNamesOr, hparty.greeting, filledOr_congr hsame]
  cases field with
  | primeiroLocatario => exact hslot _ (by decide)
  | segundoLocatario => exact hslot _ (by decide)
  | terceiroLocatario => exact hslot _ (by decide)
  | quartoLocatario => exact hslot _ (by decide)
  | nomeLocatario => exact .text (tenantFullName_alike h hparty)
  | nomeLocatarioFormatado =>
      have hrule : Redaction.ruleFor? Field.nomeLocatarioFormatado.name = some .nameList :=
        Redaction.ruleFor?_of_mem (by decide)
      refine .text ?_
      rw [namesOr, namesOr]
      rcases hparty.names_nil_or with ⟨hnil, hnil'⟩ | ⟨hne, hne'⟩
      · rw [if_pos hnil, if_pos hnil']
        exact Redaction.redactedAlike_self _ _
      · rw [if_neg hne, if_neg hne']
        exact Redaction.redactedAlike_joined hrule (by simp) hparty.names hparty.joinable
  | _ => exact Or.inl rfl

/-- Alike owners change the fields of their role alike. -/
theorem ownerChange_alike (h : RoleAlike tag .owner first second)
    (htag : ∀ c ∈ tag, Text.isAsciiAlphanumeric c = true)
    (hsame : Dictionary.AgreeOn [.qualificacaoCompletaLocadores] first second) (field : Field)
    : ChangeAlike field (ownerChange tag first field) (ownerChange tag second field) := by
  have hparty := h.party
  have htext := h.freeText?
  simp (disch := decide) only [ownerChange, leadingGivenName, hparty.agreement, hparty.noun,
    hparty.isPlural, hparty.givenNames, hparty.givenNamesOr, hparty.greeting, filledOr_congr hsame]
  cases field with
  | nomeProprietario =>
      have hrule : Redaction.ruleFor? Field.nomeProprietario.name = some .nameList :=
        Redaction.ruleFor?_of_mem (by decide)
      refine .text ?_
      generalize Party.freeText? .owner first = text, Party.freeText? .owner second = other at htext
      cases htext with
      | none => exact Redaction.redactedAlike_self _ _
      | some htext =>
          rcases htext with rfl | htext
          · exact Redaction.redactedAlike_self _ _
          · exact Redaction.redactedAlike_freeText hrule htext
  | nomeProprietarioFormatado =>
      have hrule : Redaction.ruleFor? Field.nomeProprietarioFormatado.name = some .nameList :=
        Redaction.ruleFor?_of_mem (by decide)
      refine .text ?_
      rcases hparty.names_nil_or with ⟨hnil, hnil'⟩ | ⟨hne, hne'⟩
      · rw [if_pos hnil, if_pos hnil']
        exact Redaction.redactedAlike_self _ _
      · rw [if_neg hne, if_neg hne']
        exact Redaction.redactedAlike_joined hrule htag hparty.names hparty.joinable
  | _ => exact Or.inl rfl

/-- Alike names are alike at every place, or missing, by induction on the names. -/
theorem alike_getD {names others : List Text} (h : List.Forall₂ Name.Alike names others)
    (place : Nat)
    : Name.Alike (names.getD place []) (others.getD place []) := by
  induction h generalizing place with
  | nil => exact Or.inl rfl
  | cons hname _ ih =>
      cases place with
      | zero => exact hname
      | succ place => exact ih place

/-- Alike guarantors change the fields of their role alike. -/
theorem guarantorChange_alike (h : RoleAlike tag .guarantor first second)
    (htag : ∀ c ∈ tag, Text.isAsciiAlphanumeric c = true) (field : Field)
    : ChangeAlike field (guarantorChange tag first field) (guarantorChange tag second field) := by
  have hparty := h.party
  have hplace : ∀ field place, (field, Redaction.Rule.name) ∈ Redaction.rules →
      ChangeAlike field (.text ((Party.ofFields .guarantor first).names.getD place []))
        (.text ((Party.ofFields .guarantor second).names.getD place [])) := by
    intro field place hrule
    exact .text (Redaction.redactedAlike_of_alike (Redaction.ruleFor?_of_mem hrule)
      (alike_getD hparty.names place))
  simp only [guarantorChange, hparty.agreement, hparty.noun, hparty.isPlural]
  cases field with
  | fiadores =>
      have hrule : Redaction.ruleFor? Field.fiadores.name = some .name :=
        Redaction.ruleFor?_of_mem (by decide)
      exact Or.inr ⟨_, _, rfl, rfl, Redaction.redactedAlike_list hrule hparty.names⟩
  | fiador1 => exact hplace _ 0 (by decide)
  | fiador2 => exact hplace _ 1 (by decide)
  | fiador3 => exact hplace _ 2 (by decide)
  | fiador4 => exact hplace _ 3 (by decide)
  | nomeFiadoresFormatado =>
      have hlist : Redaction.ruleFor? Field.nomeFiadoresFormatado.name = some .nameList :=
        Redaction.ruleFor?_of_mem (by decide)
      rcases hparty.names_nil_or with ⟨hnil, hnil'⟩ | ⟨hne, hne'⟩
      · exact Or.inl (by simp only [if_pos hnil, if_pos hnil'])
      · simp only [if_neg hne, if_neg hne']
        exact .text (Redaction.redactedAlike_joined hlist htag hparty.names hparty.joinable)
  | _ => exact Or.inl rfl

/-- Two forms differ in nothing that resolution reads but surnames. -/
structure FormsAlike (tag : Text) (first second : Dictionary) : Prop where
  tenant : RoleAlike [] .tenant first second
  owner : RoleAlike tag .owner first second
  guarantor : RoleAlike tag .guarantor first second
  contract : Dictionary.AgreeOn contractInputs first second
  qualifications : Dictionary.AgreeOn
    [.qualificacaoCompletaLocatarios, .qualificacaoCompletaLocadores] first second

/-- Forms that differ in surnames are resolved by alike changes. -/
theorem change_alike (h : FormsAlike tag first second)
    (htag : ∀ c ∈ tag, Text.isAsciiAlphanumeric c = true) (moment : Calendar.Moment) (field : Field)
    : ChangeAlike field (change tag moment first field) (change tag moment second field) := by
  have htenant := tenantChange_alike h.tenant (h.qualifications.mono (by decide)) field
  have howner := ownerChange_alike h.owner htag (h.qualifications.mono (by decide)) field
  have hguarantor := guarantorChange_alike h.guarantor htag field
  have hcontract := contractChange_congr h.contract moment
  have hlast : ChangeAlike field (contractChange moment first field)
      (contractChange moment second field) := Or.inl (by rw [hcontract])
  exact (htenant.orElse howner).orElse (hguarantor.orElse hlast)

end LeasePapers.Resolution
