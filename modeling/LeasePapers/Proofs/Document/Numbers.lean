import LeasePapers.Proofs.Document.Basic
import LeasePapers.Proofs.Resolution.Inputs
import LeasePapers.Proofs.Text.Blank

/-! Numbers of documents and telephones in a redacted document. Of such a number a document shows
how many digits it has, by the placeholder for a wrong number of them, and its last two digits;
nothing else of it has any influence on the document.
-/

namespace LeasePapers

namespace Redaction

/-- The rules that show the last two digits of a number. -/
def Rule.isForNumbers : Rule → Bool
  | .cpf | .rg | .document | .phone => true
  | .name | .nameList | .address | .email | .prose => false

/-- A text that may hold a number: neither blank nor a placeholder, and no bracket at its
beginning.
-/
structure HoldsNumber (text : Text) : Prop where
  notBlank : Text.isAllBlank text = false
  notPlaceholder : isPlaceholder text = false
  noBracket : (Text.trim text).head? ≠ some '['

/-- Two numbers of which redaction shows the same: they have equally many digits, and the same last
two.
-/
structure SameEnding (number other : Text) : Prop where
  holds : HoldsNumber number
  otherHolds : HoldsNumber other
  count : (digitsOf number).length = (digitsOf other).length
  ending : lastTwo number = lastTwo other

/-- A text that begins with a bracket after its leading blanks begins with it when trimmed. -/
theorem HoldsNumber.redactable {text : Text} (h : HoldsNumber text) : Redactable text := by
  refine ⟨h.notBlank, h.notPlaceholder, ?_⟩
  rw [spelledList?, if_neg]
  intro hhead
  obtain ⟨rest, hrest⟩ := List.head?_eq_some_iff.mp hhead
  have hbracket : Text.isBlank '[' = false := by decide
  have htrim : Text.trim text = '[' :: Text.trimEnd rest := by
    rw [Text.trim, hrest, Text.trimEnd, Text.trimEnd, List.reverse_cons, List.dropWhile_append]
    split
    · rename_i hempty
      rw [List.isEmpty_iff.mp hempty]
      simp [hbracket]
    · simp
  exact h.noBracket (by rw [htrim]; rfl)

/-- A number is redacted by its ending alone. -/
theorem redactNumber_congr {missing invalid mask first second : Text} {fits : Nat → Bool}
    (h : SameEnding first second)
    : redactNumber missing invalid mask fits first
      = redactNumber missing invalid mask fits second := by
  rw [redactNumber, redactNumber, h.holds.notBlank, h.otherHolds.notBlank, h.count,
    h.ending]

/-- Numbers that end alike are redacted alike, by each of the rules for numbers. -/
theorem redactBy_congr {rule : Rule} {first second : Text} (names : List KnownName)
    (hrule : rule.isForNumbers = true) (h : SameEnding first second)
    : redactBy names rule first = redactBy names rule second := by
  have hcpf : redactCpf first = redactCpf second := redactNumber_congr h
  have hrg : redactRg first = redactRg second := redactNumber_congr h
  have hphone : redactPhone first = redactPhone second := redactNumber_congr h
  cases rule with
  | cpf => exact hcpf
  | rg => exact hrg
  | document => rw [redactBy, redactDocument, redactDocument, h.count, hcpf, hrg]
  | phone => exact hphone
  | name | nameList | address | email | prose => cases hrule

/-- Under a rule for numbers, values with the same ending are redacted alike. -/
theorem redactValue_congr {rule : Rule} {first second : Text} (names : List KnownName)
    (hrule : rule.isForNumbers = true) (h : SameEnding first second)
    : redactValue names rule (.text first) = redactValue names rule (.text second) := by
  rw [h.holds.redactable.redactValue, h.otherHolds.redactable.redactValue,
    redactBy_congr names hrule h]

end Redaction

namespace Document

/-- Two forms differ in nothing but numbers, and these have equally many digits and end alike. -/
def DifferInNumbers (first second : Dictionary) : Prop :=
  ∀ name, first.get? name = second.get? name
    ∨ ∃ rule number other, Redaction.ruleFor? name = some rule ∧ rule.isForNumbers = true
      ∧ first.get? name = some (.text number) ∧ second.get? name = some (.text other)
      ∧ Redaction.SameEnding number other

namespace DifferInNumbers

variable {first second : Dictionary}

/-- Forms that differ in numbers agree where no rule is for numbers. -/
theorem agreeOn (h : DifferInNumbers first second) {read : List Field}
    (hread : ∀ field ∈ read, (Redaction.ruleFor? field.name).all (!·.isForNumbers) = true)
    : Dictionary.AgreeOn read first second := by
  intro field hmem
  rcases h field.name with he | ⟨rule, number, other, hrule, hnumbers, -⟩
  · exact he
  · have hnot := hread field hmem
    simp [hrule, hnumbers] at hnot

/-- Resolution neither reads numbers nor gives names that depend on them. -/
theorem prepare_eq [Redaction.Patterns] (h : DifferInNumbers first second) {settings : Settings}
    (hredacts : settings.redacts = true) (moment : Calendar.Moment)
    : prepare settings moment first = prepare settings moment second := by
  have hnumbers : ∀ field ∈ Resolution.inputs ++ Redaction.nameFields,
      (Redaction.ruleFor? field.name).all (!·.isForNumbers) = true := by
    simp only [Redaction.ruleFor?_name]
    decide
  have hinputs : Dictionary.AgreeOn Resolution.inputs first second :=
    h.agreeOn (fun field hmem => hnumbers field (List.mem_append_left _ hmem))
  have hnames : Dictionary.AgreeOn Redaction.nameFields first second :=
    h.agreeOn (fun field hmem => hnumbers field (List.mem_append_right _ hmem))
  have hchange := Resolution.change_congr hinputs settings.emphasisTag moment
  have hknown : Redaction.searchedNames (Resolution.resolve settings.emphasisTag moment first)
      = Redaction.searchedNames (Resolution.resolve settings.emphasisTag moment second) := by
    refine Redaction.searchedNames_congr (fun field hmem => ?_)
    rw [Resolution.resolve, Resolution.resolve, Dictionary.get?_update, Dictionary.get?_update,
      hchange, hnames field hmem]
  rw [prepare_of_redacts hredacts, prepare_of_redacts hredacts]
  refine TextMap.eq_of_get? (fun name => ?_)
  rw [Redaction.get?_redact, Redaction.get?_redact, hknown]
  generalize Redaction.searchedNames _ = known
  cases hfield : Field.ofName? name with
  | none =>
      have hunknown := Redaction.ruleFor?_unknown hfield
      rcases h name with he | ⟨rule, _, _, hrule, -⟩
      · rw [Resolution.resolve, Resolution.resolve, Dictionary.get?_update_unknown _ _ hfield,
          Dictionary.get?_update_unknown _ _ hfield, he]
      · rw [hunknown] at hrule
        cases hrule
  | some field =>
      obtain rfl := Field.name_of_ofName? hfield
      rw [Resolution.resolve, Resolution.resolve, Dictionary.get?_update, Dictionary.get?_update,
        hchange]
      rcases h field.name with he | ⟨rule, number, other, hrule, hfor, hfirst, hsecond, hending⟩
      · rw [he]
      · -- The number is written over, taken out, or handed through and then redacted.
        rw [hfirst, hsecond]
        cases Resolution.change settings.emphasisTag moment second field with
        | write value => rfl
        | clear => rfl
        | keep =>
            have hredacted := Redaction.redactValue_congr known hfor hending
            simp only [Change.on, Option.map_some, Redaction.redactField, hrule, hredacted]

end DifferInNumbers

/-- A redacted document shows of a number how many digits it has and the last two of them: forms
that differ in nothing else give the same document, whatever the template, the settings and the
moment.
-/
theorem generate_eq_of_differInNumbers [Redaction.Patterns] {first second : Dictionary}
    {settings : Settings} (h : DifferInNumbers first second) (hredacts : settings.redacts = true)
    (template : Template) (moment : Calendar.Moment)
    : generate template settings moment first = generate template settings moment second := by
  rw [generate, generate, h.prepare_eq hredacts moment]

/-- Two numbers with the same ending give the same document, which shows no more than that. -/
theorem generate_cpfLocatario
    : generate (Template.ofText "CPF \x7b\x7bcpfLocatario\x7d\x7d")
          { Settings.default with redacts := true } ⟨⟨2024, 5, 20, by decide⟩, 9⟩
          (TextMap.empty.insert Field.cpfLocatario.name (.text "123.456.789-09"))
        = generate (Template.ofText "CPF \x7b\x7bcpfLocatario\x7d\x7d")
          { Settings.default with redacts := true } ⟨⟨2024, 5, 20, by decide⟩, 9⟩
          (TextMap.empty.insert Field.cpfLocatario.name (.text "987.654.321-09")) := by
  have hfirst : Redaction.HoldsNumber "123.456.789-09" :=
    ⟨by decide +kernel, by decide +kernel, by decide +kernel⟩
  have hsecond : Redaction.HoldsNumber "987.654.321-09" :=
    ⟨by decide +kernel, by decide +kernel, by decide +kernel⟩
  have hrule : Redaction.ruleFor? Field.cpfLocatario.name = some .cpf :=
    Redaction.ruleFor?_of_mem (by decide)
  refine generate_eq_of_differInNumbers (fun name => ?_) rfl _ _
  rw [TextMap.get?_insert, TextMap.get?_insert]
  split
  · rename_i hname
    subst hname
    exact Or.inr ⟨.cpf, _, _, hrule, rfl, rfl, rfl, hfirst, hsecond, by decide +kernel,
      by decide +kernel⟩
  · exact Or.inl rfl

end Document

end LeasePapers
