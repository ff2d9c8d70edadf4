import LeasePapers.Proofs.Name.Entry
import LeasePapers.Proofs.Redaction.Name
import LeasePapers.Proofs.Text.Braces
import LeasePapers.Template.Segment

/-! Redacted values hold no braces. Every rule either takes the braces out of what it keeps, or
keeps nothing but digits; what is passed on as it is, blank texts and placeholders, has none; and a
list is spelled without any.
-/

namespace LeasePapers

-----------------------------------------------------------------------------------------
-- Spelled lists
-----------------------------------------------------------------------------------------

namespace Json

/-- No hexadecimal digit is a brace. -/
theorem isBrace_hexDigit : ∀ n < 16, Text.isBrace (hexDigit n) = false := by
  decide

/-- The escape of a control character has no brace. -/
theorem braceFree_controlEscape {code : Nat} (h : code < 32)
    : Text.BraceFree ['\\', 'u', '0', '0', hexDigit (code / 16), hexDigit (code % 16)] := by
  have hfixed : Text.BraceFree ['\\', 'u', '0', '0'] := by decide
  have hhigh := isBrace_hexDigit (code / 16) (by omega)
  have hlow := isBrace_hexDigit (code % 16) (by omega)
  exact Text.braceFree_append.mpr ⟨hfixed, by simp [hhigh, hlow]⟩

/-- A character that is no brace is escaped without one. -/
theorem braceFree_escapeChar {c : Char} (h : Text.isBrace c = false)
    : Text.BraceFree (escapeChar c) := by
  unfold escapeChar
  repeat' split
  all_goals first | decide | exact braceFree_controlEscape ‹c < ' '› | simpa using h

/-- A text without braces is quoted without one. -/
theorem braceFree_quote {text : Text} (h : Text.BraceFree text) : Text.BraceFree (quote text) := by
  have hquote : Text.isBrace '"' = false := by decide
  have hescaped : Text.BraceFree (text.flatMap escapeChar) := by
    intro c hmem
    obtain ⟨d, hd, hc⟩ := List.mem_flatMap.mp hmem
    exact braceFree_escapeChar (h d hd) c hc
  simp [quote, hquote, hescaped]

end Json

namespace Text

/-- Parts without braces are joined without one. -/
theorem braceFree_join {separator : Text} {parts : List Text} (hseparator : BraceFree separator)
    (hparts : ∀ part ∈ parts, BraceFree part)
    : BraceFree (join separator parts) := by
  intro c hmem
  rcases mem_join hmem with hmem | ⟨part, hpart, hmem⟩
  · exact hseparator c hmem
  · exact hparts part hpart c hmem

end Text

/-- Items without braces are written as an array without one. -/
theorem Field.braceFree_arrayText {items : List Text} (h : ∀ item ∈ items, Text.BraceFree item)
    : Text.BraceFree (arrayText items) := by
  have hitems : Text.BraceFree (Text.join [','] (items.map Json.quote)) := by
    refine Text.braceFree_join (by decide) (fun part hpart => ?_)
    obtain ⟨item, hitem, rfl⟩ := List.mem_map.mp hpart
    exact Json.braceFree_quote (h item hitem)
  have hopening : Text.isBrace '[' = false := by decide
  have hclosing : Text.isBrace ']' = false := by decide
  simp [arrayText, hitems, hopening, hclosing]

namespace Redaction

-----------------------------------------------------------------------------------------
-- Rules
-----------------------------------------------------------------------------------------

/-- A redacted name has no brace. -/
theorem braceFree_redactName (full : Text) : Text.BraceFree (redactName full) := by
  unfold redactName
  split
  · decide
  · exact Text.braceFree_withoutBraces _
  · exact Text.braceFree_withoutBraces _

/-- Redacted names have no brace. -/
theorem braceFree_redactNames (text : Text) : Text.BraceFree (redactNames text) := by
  unfold redactNames
  split
  · decide
  · exact Text.braceFree_withoutBraces _

/-- A redacted address has no brace. -/
theorem braceFree_redactAddress (text : Text) : Text.BraceFree (redactAddress text) := by
  unfold redactAddress
  simp only
  split
  · decide
  · split
    · exact Text.braceFree_withoutBraces _
    · split
      · exact Text.braceFree_withoutBraces _
      · decide

/-- No digit is a brace. -/
theorem isBrace_of_isDigit {c : Char} (h : c.isDigit = true) : Text.isBrace c = false := by
  cases hbrace : Text.isBrace c with
  | false => rfl
  | true =>
      simp only [Text.isBrace, Bool.or_eq_true, beq_iff_eq] at hbrace
      rcases hbrace with rfl | rfl <;> cases h

/-- The last two digits have no brace. -/
theorem braceFree_lastTwo (text : Text) : Text.BraceFree (lastTwo text) := by
  intro c hmem
  exact isBrace_of_isDigit (List.mem_filter.mp (List.mem_of_mem_drop hmem)).2

/-- The masks of numbers have no braces if the fixed texts in them have none. -/
theorem braceFree_redactNumber {missing invalid mask : Text} {fits : Nat → Bool} (text : Text)
    (hmissing : Text.BraceFree missing) (hinvalid : Text.BraceFree invalid)
    (hmask : Text.BraceFree mask)
    : Text.BraceFree (redactNumber missing invalid mask fits text) := by
  unfold redactNumber
  split
  · exact hmissing
  · split
    · exact Text.braceFree_append.mpr ⟨hmask, braceFree_lastTwo text⟩
    · exact hinvalid

/-- A redacted address for mail has no brace. -/
theorem braceFree_redactEmail (text : Text) : Text.BraceFree (redactEmail text) := by
  unfold redactEmail
  simp only
  split
  · decide
  · split
    · decide
    · decide
    · exact Text.braceFree_withoutBraces _

/-- No rule leaves a brace. -/
theorem braceFree_redactBy (names : List KnownName) (rule : Rule) (text : Text)
    : Text.BraceFree (redactBy names rule text) := by
  have hcpf : Text.BraceFree (redactCpf text) :=
    braceFree_redactNumber text (by decide) (by decide) (by decide)
  have hrg : Text.BraceFree (redactRg text) :=
    braceFree_redactNumber text (by decide) (by decide) (by decide)
  have hphone : Text.BraceFree (redactPhone text) :=
    braceFree_redactNumber text (by decide) (by decide) (by decide)
  cases rule with
  | name => exact braceFree_redactName text
  | nameList => exact braceFree_redactNames text
  | address => exact braceFree_redactAddress text
  | cpf => exact hcpf
  | rg => exact hrg
  | document =>
      rw [redactBy, redactDocument]
      split
      · exact hcpf
      · exact hrg
  | phone => exact hphone
  | email => exact braceFree_redactEmail text
  | prose => exact Text.braceFree_withoutBraces _

-----------------------------------------------------------------------------------------
-- Texts and values
-----------------------------------------------------------------------------------------

/-- A placeholder has no brace. -/
theorem braceFree_of_isPlaceholder {text : Text} (h : isPlaceholder text = true)
    : Text.BraceFree text := by
  intro c hmem
  cases hbrace : Text.isBrace c with
  | false => rfl
  | true =>
      simp only [Text.isBrace, Bool.or_eq_true, beq_iff_eq] at hbrace
      have hnot : isPlaceholder text = false := by
        rcases hbrace with rfl | rfl <;>
          exact not_isPlaceholder_of_mem hmem (by decide) (by decide) (by decide)
            (by decide)
      rw [h] at hnot
      cases hnot

/-- A text is redacted to one without braces, whatever it is. -/
theorem braceFree_redactText (names : List KnownName) (rule : Rule) (text : Text)
    : Text.BraceFree (redactText names rule text) := by
  unfold redactText
  split
  · rename_i hkept
    rcases hkept with hblank | hplaceholder
    · exact Text.braceFree_of_isAllBlank hblank
    · exact braceFree_of_isPlaceholder hplaceholder
  · exact braceFree_redactBy names rule text

end Redaction

/-- The texts in a value: the text itself, or every element of the list. -/
def Field.Value.texts : Field.Value → List Text
  | .text content => [content]
  | .list items => items

namespace Redaction

/-- A value is redacted to texts without braces, whatever it is. -/
theorem braceFree_redactValue (names : List KnownName) (rule : Rule) (value : Field.Value)
    : ∀ text ∈ (redactValue names rule value).texts, Text.BraceFree text := by
  have hitems : ∀ items : List Text, ∀ item ∈ items.map (redactText names rule),
      Text.BraceFree item := by
    intro items item hmem
    obtain ⟨text, -, rfl⟩ := List.mem_map.mp hmem
    exact braceFree_redactText names rule text
  cases value with
  | list items => exact hitems items
  | text content =>
      intro text hmem
      rw [redactValue] at hmem
      split at hmem
      · rename_i items _
        rw [List.mem_singleton.mp hmem]
        exact Field.braceFree_arrayText (hitems items)
      · rw [List.mem_singleton.mp hmem]
        exact braceFree_redactText names rule content

/-- Redacted values can never become directives: in a redacted dictionary no text of a field with
a rule holds a mark that opens or closes a tag, whatever the field held before.
-/
theorem not_mem_mark_of_redact [Patterns] {fields : Dictionary} {name : Text} {rule : Rule}
    {value : Field.Value} (hrule : ruleFor? name = some rule)
    (hvalue : (redact fields).get? name = some value)
    : ∀ text ∈ value.texts, Template.openMark ∉ text ∧ Template.closeMark ∉ text := by
  rw [get?_redact, Option.map_eq_some_iff] at hvalue
  obtain ⟨before, -, rfl⟩ := hvalue
  intro text hmem
  rw [redactField, hrule] at hmem
  have hfree := braceFree_redactValue _ rule before text hmem
  constructor
  · intro hopen
    cases hfree _ hopen
  · intro hclose
    cases hfree _ hclose

/-- A list in a text loses the braces around and inside of its names. -/
theorem not_mem_mark_of_redact_fiadores
    : ruleFor? Field.fiadores.name = some .name
      ∧ (redact (TextMap.empty.insert Field.fiadores.name
            (.text "[\"\x7b\x7bAna\x7d\x7d Souza\", \"\x7b%\"]"))).get? Field.fiadores.name
          = some (.text "[\"Ana S.\",\"%\"]")
      ∧ ∀ text ∈ (Field.Value.text "[\"Ana S.\",\"%\"]").texts,
          Template.openMark ∉ text ∧ Template.closeMark ∉ text := by
  have hrule : ruleFor? Field.fiadores.name = some .name := ruleFor?_of_mem (by decide)
  have hvalue : (redact (TextMap.empty.insert Field.fiadores.name
        (.text "[\"\x7b\x7bAna\x7d\x7d Souza\", \"\x7b%\"]"))).get? Field.fiadores.name
      = some (.text "[\"Ana S.\",\"%\"]") := by
    rw [get?_redact, TextMap.get?_insert, if_pos rfl, Option.map_some, redactField, hrule]
    decide +kernel
  exact ⟨hrule, hvalue, not_mem_mark_of_redact hrule hvalue⟩

end Redaction

end LeasePapers
