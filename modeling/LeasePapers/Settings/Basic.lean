import LeasePapers.Calendar.Keyword
import LeasePapers.Failure
import LeasePapers.Text.Blank

/-! Settings: what a document's author may choose.
-/

namespace LeasePapers

/-- The settings of a run: which words mark a date field, which fields are left blank when missing,
the symbol of the currency, the tag that emphasizes names, and whether personal data is redacted. -/
structure Settings where
  dateKeywords : List Text
  blankWhenMissing : List Text
  currencySymbol : Text
  emphasisTag : Text
  redacts : Bool
  deriving DecidableEq, Repr

namespace Settings

/-- The settings that hold where nothing is said. -/
def default : Settings :=
  { dateKeywords := Calendar.defaultKeywords
    blankWhenMissing := ["observacao"]
    currencySymbol := "R$"
    emphasisTag := "strong"
    redacts := false }

/-- Whether a field is left blank when it is missing. -/
def leavesBlank (settings : Settings) (field : Text) : Bool :=
  settings.blankWhenMissing.contains field

/-- Whether a field holds a date. -/
def namesDate (settings : Settings) (field : Text) : Bool :=
  Calendar.namesDate settings.dateKeywords field

/-- The first thing that is wrong with settings. Every keyword has a character that is not blank,
the tag is bare letters and digits or empty, and the symbol has no braces. -/
def fault? (settings : Settings) : Option Failure :=
  if settings.dateKeywords.any Text.isAllBlank then some .blankKeyword
  else if !settings.emphasisTag.all Text.isAsciiAlphanumeric then
    some (.unfitTag settings.emphasisTag)
  else if settings.currencySymbol.any Text.isBrace then
    some (.bracesInSymbol settings.currencySymbol)
  else none

/-- The settings, if nothing is wrong with them. -/
def checked (settings : Settings) : Except Failure Settings :=
  match settings.fault? with
  | some failure => .error failure
  | none => .ok settings

/-- Nothing is wrong with settings if no keyword is blank, the tag is bare letters and digits, and
the symbol has no braces. -/
theorem fault?_eq_none_iff {settings : Settings}
    : settings.fault? = none
      ↔ (∀ keyword ∈ settings.dateKeywords, Text.isAllBlank keyword = false)
        ∧ (∀ c ∈ settings.emphasisTag, Text.isAsciiAlphanumeric c = true)
        ∧ ∀ c ∈ settings.currencySymbol, Text.isBrace c = false := by
  have hkeywords : settings.dateKeywords.any Text.isAllBlank = false
      ↔ ∀ keyword ∈ settings.dateKeywords, Text.isAllBlank keyword = false := by simp
  have htag : settings.emphasisTag.all Text.isAsciiAlphanumeric = true
      ↔ ∀ c ∈ settings.emphasisTag, Text.isAsciiAlphanumeric c = true := List.all_eq_true
  have hsymbol : settings.currencySymbol.any Text.isBrace = false
      ↔ ∀ c ∈ settings.currencySymbol, Text.isBrace c = false := by simp
  rw [fault?, ← hkeywords, ← htag, ← hsymbol]
  cases settings.dateKeywords.any Text.isAllBlank
  · cases settings.emphasisTag.all Text.isAsciiAlphanumeric
    · simp
    · cases settings.currencySymbol.any Text.isBrace <;> simp
  · simp

end Settings

end LeasePapers
