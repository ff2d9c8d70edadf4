import LeasePapers.Field.Dictionary
import LeasePapers.Name.Given
import LeasePapers.Party.Role

/-! Parties: the people who hold a role of the contract, where their names were found, and what the
phrases about them agree with.
-/

namespace LeasePapers

/-- Where the names of a party were found. -/
inductive Source where
  | slots
  | freeText
  | list
  | missing
  deriving DecidableEq, Repr

/-- The people who hold a role. -/
structure Party where
  role : Role
  names : List Text
  source : Source
  marker : Option Marker
  deriving DecidableEq, Repr

namespace Party

/-- The names in the filled slots of a role, in order. -/
def slotNames (role : Role) (fields : Dictionary) : List Text :=
  role.slots.filterMap (fun (slot : Field) => Dictionary.filled? fields slot)

/-- The first filled free text of a role. -/
def freeText? (role : Role) (fields : Dictionary) : Option Text :=
  role.freeTexts.findSome? (fun (field : Field) => Dictionary.filled? fields field)

/-- The names in the first filled free text of a role. -/
def freeTextNames (role : Role) (fields : Dictionary) : List Text :=
  ((freeText? role fields).map Name.split).getD []

/-- The names in the list of guarantors, blank ones left out. -/
def listedNames (fields : Dictionary) : List Text :=
  ((Dictionary.list fields Field.fiadores).map Text.trim).filter (· ≠ [])

/-- Whether there are guarantors at all: a form may say that there are none. -/
def hasGuarantors (fields : Dictionary) : Bool :=
  match Dictionary.filled? fields Field.temFiador with
  | some answer => Text.eqAsciiCase answer "sim"
  | none => true

/-- The first of the places, in order, that has names. -/
def firstFilled : List (Source × List Text) → Source × List Text
  | [] => (.missing, [])
  | (source, names) :: rest => if names = [] then firstFilled rest else (source, names)

/-- The places where the names of a role may stand: slots before free text, and for guarantors the
list at last. -/
def places (role : Role) (fields : Dictionary) : List (Source × List Text) :=
  match role with
  | .owner => [(.freeText, freeTextNames .owner fields)]
  | .tenant => [(.slots, slotNames .tenant fields), (.freeText, freeTextNames .tenant fields)]
  | .guarantor =>
      if hasGuarantors fields then
        [(.slots, slotNames .guarantor fields), (.freeText, freeTextNames .guarantor fields),
         (.list, listedNames fields)]
      else []

/-- The party that a form names for a role. -/
def ofFields (role : Role) (fields : Dictionary) : Party :=
  let found := firstFilled (places role fields)
  { role
    names := found.2
    source := found.1
    marker := (Dictionary.text? fields role.genderField).bind Marker.ofText? }

/-- What the phrases about a party agree with. -/
def agreement (party : Party) : Agreement :=
  Agreement.of party.marker (party.names.length > 1)

/-- Whether the phrases about a party stand in the plural. -/
def isPlural (party : Party) : Bool :=
  party.agreement.isPlural

/-- The noun for a party. -/
def noun (party : Party) : Noun :=
  party.role.noun

/-- The given names of a party, each with one capital. -/
def givenNames (party : Party) : List Text :=
  Name.givenNames party.names

/-- The given names in one text, or what stands for them. -/
def givenNamesOr (party : Party) (placeholder : Text) : Text :=
  if party.givenNames = [] then placeholder else Name.joinAll party.givenNames

/-- The salutation of a letter to a party. -/
def greeting (party : Party) (placeholder : Text) : Text :=
  party.agreement.dear ++ [' '] ++ party.givenNamesOr placeholder

end Party

end LeasePapers
