import LeasePapers.Text.Blank
import LeasePapers.Text.Lower

/-! Grammatical agreement in Portuguese: the gender and number that every phrase about a party
agrees with, and the little words that take four forms by them.
-/

namespace LeasePapers

/-- A grammatical gender. -/
inductive Gender where
  | masculine
  | feminine
  deriving DecidableEq, Repr

/-- A grammatical number. -/
inductive Plurality where
  | singular
  | plural
  deriving DecidableEq, Repr

/-- What a form says about the gender of a party. -/
inductive Marker where
  | masculino
  | feminino
  | masculinos
  | femininos
  deriving DecidableEq, Repr

namespace Marker

/-- The word that a form sends for a marker. -/
def word : Marker → Text
  | .masculino => "masculino"
  | .feminino => "feminino"
  | .masculinos => "masculinos"
  | .femininos => "femininos"

/-- The marker that a text spells, in any letter case and between any blanks. -/
def ofText? (text : Text) : Option Marker :=
  let spelled := Text.lower (Text.trim text)
  [masculino, feminino, masculinos, femininos].find? (fun marker => marker.word = spelled)

/-- The gender that a marker names. -/
def gender : Marker → Gender
  | .masculino | .masculinos => .masculine
  | .feminino | .femininos => .feminine

/-- Whether a marker names several people. -/
def isPlural : Marker → Bool
  | .masculinos | .femininos => true
  | .masculino | .feminino => false

end Marker

/-- What the phrases about a party agree with. -/
structure Agreement where
  gender : Gender
  number : Plurality
  deriving DecidableEq, Repr

namespace Agreement

/-- The agreement of a party with that marker and with several people or not. Without a marker the
gender is the masculine; a plural marker makes the party plural whoever is named. -/
def of (marker : Option Marker) (several : Bool) : Agreement :=
  { gender := (marker.map Marker.gender).getD .masculine
    number := if marker.any Marker.isPlural || several then .plural else .singular }

/-- Whether the number is the plural. -/
def isPlural (a : Agreement) : Bool :=
  a.number = .plural

/-- The one of four forms that agrees: masculine and feminine, then both in the plural. -/
def choose {α : Type} (a : Agreement) (ms fs mp fp : α) : α :=
  match a.gender, a.number with
  | .masculine, .singular => ms
  | .feminine, .singular => fs
  | .masculine, .plural => mp
  | .feminine, .plural => fp

/-- The definite article. -/
def article (a : Agreement) : Text := a.choose "o" "a" "os" "as"

/-- The preposition `de` with the article. -/
def ofArticle (a : Agreement) : Text := a.choose "do" "da" "dos" "das"

/-- The preposition `a` with the article. -/
def toArticle (a : Agreement) : Text := a.choose "ao" "à" "aos" "às"

/-- The salutation of a letter. -/
def dear (a : Agreement) : Text := a.choose "Prezado" "Prezada" "Prezados" "Prezadas"

/-- The polite third person. -/
def sir (a : Agreement) : Text :=
  a.choose "o senhor" "a senhora" "os senhores" "as senhoras"

/-- The possessive. -/
def possessive (a : Agreement) : Text := a.choose "seu" "sua" "seus" "suas"

/-- The possessive of several things that belong to the party. -/
def possessivePlural (a : Agreement) : Text := a.choose "seus" "suas" "seus" "suas"

/-- The abbreviated address of a notification. -/
def formalAddress (a : Agreement) : Text := a.choose "V.S" "V.Sa" "V.Ss" "V.Sas"

/-- The participle that heads a notification. -/
def notified (a : Agreement) : Text :=
  a.choose "Notificado" "Notificada" "Notificados" "Notificadas"

/-- The form of a verb. -/
def verb (a : Agreement) (singular plural : Text) : Text :=
  a.choose singular singular plural plural

end Agreement

end LeasePapers
