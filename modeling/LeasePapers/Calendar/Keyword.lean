import LeasePapers.Text.Lower

/-! Names of fields that hold dates, told by the words in them.
-/

namespace LeasePapers.Calendar

/-- The words that mark a field as a date when a configuration names none. -/
def defaultKeywords : List Text :=
  ["data", "date", "vencimento", "prazo", "inicio", "fim", "termino"].map String.toList

/-- Whether one of the keywords occurs in a name, in any letter case. Empty keywords do not
count. -/
def namesDate (keywords : List Text) (name : Text) : Bool :=
  keywords.any (fun keyword =>
    keyword != [] && Text.contains (Text.lower keyword) (Text.lower name))

end LeasePapers.Calendar
