import LeasePapers.Field.Dictionary
import LeasePapers.Name.List
import LeasePapers.Party.Role
import LeasePapers.Redaction.Name
import LeasePapers.Text.Fold

/-! Redacted prose: every name that the form gives elsewhere is replaced by its redacted form, in
whatever letter case it is spelled. The longest names come first, so that a name inside another is
not replaced within it. A name that is too long to be searched for stays where it is.
-/

namespace LeasePapers.Redaction

/-- The library that searches texts for patterns: it builds one from a name unless the pattern takes
up more memory than it grants. -/
class Patterns where
  builds : Text → Bool

/-- Ten mebibytes are granted to a pattern, of which a letter in either case takes about eighty
bytes. -/
instance : Patterns where
  builds name := 80 * name.length ≤ 10485760

/-- A name that prose may mention, with its redacted form. -/
structure KnownName where
  spelling : Text
  redacted : Text
  deriving DecidableEq, Repr

/-- Adds a name that redaction changes, unless it is known already. -/
def addKnown (known : List KnownName) (name : KnownName) : List KnownName :=
  if name.spelling = name.redacted ∨ known.any (fun other => other.spelling = name.spelling) then
    known
  else known ++ [name]

/-- A single name with its redacted form. -/
def known (name : Text) : KnownName := ⟨name, redactName name⟩

/-- The names in a free text, first all of it and then each name by itself. -/
def knownInFreeText (text : Text) : List KnownName :=
  if isPlaceholder text then []
  else ⟨text, redactNames text⟩ :: (Name.split text).map known

/-- The filled fields of a list, trimmed. -/
def filledAmong (fields : Dictionary) (names : List Field) : List Text :=
  names.filterMap (fun (name : Field) => Dictionary.filled? fields name)

/-- The names that a form gives for a role in free text and in slots. -/
def knownForRole (fields : Dictionary) (role : Role) : List KnownName :=
  (filledAmong fields role.freeTexts).flatMap knownInFreeText
    ++ (filledAmong fields role.slots).map known

/-- The names in the list of guarantors. -/
def knownInList (fields : Dictionary) : List KnownName :=
  let names := (Dictionary.list fields Field.fiadores).map Text.trim
  (names.filter (fun name => name ≠ [] && !isPlaceholder name)).map known

/-- All names that a form gives, each once, in the order in which they are replaced. -/
def knownNames (fields : Dictionary) : List KnownName :=
  let given := [Role.tenant, .owner, .guarantor].flatMap (knownForRole fields)
    ++ knownInList fields
  (given.foldl addKnown []).mergeSort (fun a b => b.spelling.length ≤ a.spelling.length)

/-- The names that prose is searched for: those that a pattern can be built from. -/
def searchedNames [Patterns] (fields : Dictionary) : List KnownName :=
  (knownNames fields).filter (fun name => Patterns.builds name.spelling)

/-- The redacted form of a name before some text: its final dot is dropped before another dot. -/
def redactedBefore (name : KnownName) (after : Text) : Text :=
  if after.head? = some '.' then (Text.dropTail? ['.'] name.redacted).getD name.redacted
  else name.redacted

/-- Replaces a name from left to right, after passing over so many characters that belong to a place
replaced already. -/
def replaceAfter (name : KnownName) : Nat → Text → Text
  | _, [] => []
  | covered + 1, _ :: rest => replaceAfter name covered rest
  | 0, c :: rest =>
      match Text.dropFolded? name.spelling (c :: rest) with
      | some after =>
          redactedBefore name after ++ replaceAfter name (name.spelling.length - 1) rest
      | none => c :: replaceAfter name 0 rest

/-- Replaces a name wherever it stands. -/
def replaceName (text : Text) (name : KnownName) : Text :=
  replaceAfter name 0 text

/-- Prose, redacted: names are replaced one after the other. -/
def redactProse (names : List KnownName) (text : Text) : Text :=
  Text.withoutBraces (names.foldl replaceName text)

end LeasePapers.Redaction
