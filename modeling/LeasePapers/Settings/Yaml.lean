import LeasePapers.Settings.Basic
import LeasePapers.Yaml.Document
import LeasePapers.Yaml.Printer

/-! Settings as a YAML mapping. Members that are left out keep their defaults, unknown members are
passed over, and a known member must not be repeated.
-/

namespace LeasePapers.Settings

/-- The members of the mapping. -/
inductive Member where
  | dateKeywords
  | blankWhenMissing
  | currencySymbol
  | emphasisTag
  | redacts
  deriving DecidableEq, Repr

/-- The key of a member. -/
def Member.key : Member → Text
  | .dateKeywords => "date_field_keywords"
  | .blankWhenMissing => "blank_when_missing"
  | .currencySymbol => "currency_symbol"
  | .emphasisTag => "emphasis_tag"
  | .redacts => "anonymize"

/-- The members in the order in which they are written. -/
def Member.all : List Member :=
  [.dateKeywords, .blankWhenMissing, .currencySymbol, .emphasisTag, .redacts]

/-- The member with that key. -/
def Member.ofKey? (key : Text) : Option Member :=
  all.find? (fun member => member.key = key)

/-- The text of a scalar, however it is written. -/
def scalarText? : Yaml.Node → Option Text
  | .scalar text _ _ => some text
  | _ => none

/-- The texts of a sequence of scalars; a value that is left out stands for the empty one. -/
def textList? : Yaml.Node → Option (List Text)
  | .sequence items => items.mapM scalarText?
  | .scalar [] .plain _ => some []
  | _ => none

/-- The tag of truth values. -/
def truthTag : Text := "tag:yaml.org,2002:bool"

/-- The truth value of a plain scalar, or of a literal block that is tagged as one. -/
def truth? : Yaml.Node → Option Bool
  | .scalar text .plain _ => Yaml.boolean? text
  | .scalar text .literal (some tag) => if tag = truthTag then Yaml.boolean? text else none
  | _ => none

/-- Settings with one member read from a node. -/
def setMember? (settings : Settings) (value : Yaml.Node) : Member → Option Settings
  | .dateKeywords => (textList? value).map (fun list => { settings with dateKeywords := list })
  | .blankWhenMissing =>
      (textList? value).map (fun list => { settings with blankWhenMissing := list })
  | .currencySymbol =>
      (scalarText? value).map (fun text => { settings with currencySymbol := text })
  | .emphasisTag => (scalarText? value).map (fun text => { settings with emphasisTag := text })
  | .redacts => (truth? value).map (fun truth => { settings with redacts := truth })

/-- Settings with members read from a mapping one after the other, where some have been read. -/
def setMembers? (settings : Settings) (read : List Member)
    : List (Yaml.Node × Yaml.Node) → Option Settings
  | [] => some settings
  | (key, value) :: rest =>
      (scalarText? key).bind (fun key =>
        match Member.ofKey? key with
        | none => setMembers? settings read rest
        | some member =>
            if read.contains member then none
            else
              (settings.setMember? value member).bind (fun settings =>
                setMembers? settings (member :: read) rest))

/-- The settings that a document stands for. An absent one stands for the defaults. -/
def ofNode? : Yaml.Node → Option Settings
  | .mapping members => setMembers? default [] members
  | .scalar [] .plain _ => some default
  | _ => none

/-- Reads settings and checks them. -/
def ofYaml (text : Text) : Except Failure Settings :=
  match (Yaml.ofText? text).bind ofNode? with
  | some settings => settings.checked
  | none => .error (.malformedSettings text)

/-- A member of settings as it is written. -/
def memberText (settings : Settings) (member : Member) : Text :=
  match member with
  | .dateKeywords => Yaml.listMember member.key settings.dateKeywords
  | .blankWhenMissing => Yaml.listMember member.key settings.blankWhenMissing
  | .currencySymbol => Yaml.scalarMember member.key settings.currencySymbol
  | .emphasisTag => Yaml.scalarMember member.key settings.emphasisTag
  | .redacts => member.key ++ (if settings.redacts then ": true\n" else ": false\n" : String)

/-- Writes settings. -/
def toYaml (settings : Settings) : Text :=
  Member.all.flatMap settings.memberText

end LeasePapers.Settings
