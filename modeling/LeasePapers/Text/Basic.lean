/-! Text as a list of characters, with the cutting and joining that the rest of the library is
written in. Every operation is a plain recursion on the list, so that its laws follow by
induction on the text.
-/

namespace LeasePapers

/-- A text is the list of its characters. -/
abbrev Text := List Char

/-- A string literal stands for the list of its characters. -/
instance : Coe String Text := ⟨String.toList⟩

namespace Text

/-- The length of a text in UTF-8 bytes, the unit of every position. -/
def byteSize : Text → Nat
  | [] => 0
  | c :: rest => c.utf8Size + byteSize rest

/-- The pieces between the characters that satisfy `cut`, empty pieces included. There is always
one piece more than there are cuts. -/
def pieces (cut : Char → Bool) : Text → List Text
  | [] => [[]]
  | c :: rest =>
      if cut c then [] :: pieces cut rest
      else
        match pieces cut rest with
        | [] => [[c]]
        | piece :: more => (c :: piece) :: more

/-- The texts in order with `separator` between neighbours. -/
def join (separator : Text) : List Text → Text
  | [] => []
  | [only] => only
  | first :: next :: rest => first ++ separator ++ join separator (next :: rest)

/-- What stands before and after the first `mark`, if there is one. -/
def cutOnce (mark : Char) : Text → Option (Text × Text)
  | [] => none
  | c :: rest =>
      if c = mark then some ([], rest)
      else (cutOnce mark rest).map (fun (before, after) => (c :: before, after))

/-- What follows `lead`, if the text begins with it. -/
def dropLead? : Text → Text → Option Text
  | [], text => some text
  | _ :: _, [] => none
  | a :: lead, b :: text => if a = b then dropLead? lead text else none

/-- What comes before `tail`, if the text ends in it. -/
def dropTail? (tail text : Text) : Option Text :=
  (dropLead? tail.reverse text.reverse).map List.reverse

/-- Whether the text begins with `lead`. -/
def startsWith (lead text : Text) : Bool :=
  (dropLead? lead text).isSome

/-- Whether `part` occurs somewhere in the text, without a gap. -/
def contains (part : Text) : Text → Bool
  | [] => startsWith part []
  | c :: rest => startsWith part (c :: rest) || contains part rest

/-- Whether every character is an ASCII digit. -/
def allDigits (text : Text) : Bool :=
  text.all Char.isDigit

/-- Whether a character is an ASCII letter or digit. -/
def isAsciiAlphanumeric (c : Char) : Bool :=
  c.isDigit || c.isAlpha

/-- An ASCII capital as its small letter; every other character as it is. -/
def asciiLowerChar (c : Char) : Char :=
  if 'A' ≤ c ∧ c ≤ 'Z' then Char.ofNat (c.toNat + 32) else c

/-- Equality of texts that does not tell ASCII capitals from small letters. -/
def eqAsciiCase (a b : Text) : Bool :=
  a.map asciiLowerChar == b.map asciiLowerChar

/-- Whether a character is a brace. -/
def isBrace (c : Char) : Bool :=
  c == '\x7b' || c == '\x7d'

/-- The text without braces, which alone can open or close a directive. -/
def withoutBraces (text : Text) : Text :=
  text.filter (fun c => !isBrace c)

/-- A lead is dropped from in front of whatever follows it, by induction on the lead. -/
theorem dropLead?_append (lead rest : Text) : dropLead? lead (lead ++ rest) = some rest := by
  induction lead with
  | nil => cases rest <;> rfl
  | cons a lead ih => simp [dropLead?, ih]

/-- A text that a lead is dropped from begins with it, by induction on the lead. -/
theorem eq_append_of_dropLead? {lead text rest : Text} (h : dropLead? lead text = some rest)
    : text = lead ++ rest := by
  induction lead generalizing text with
  | nil => cases text <;> simp_all [dropLead?]
  | cons a lead ih =>
      cases text with
      | nil => simp [dropLead?] at h
      | cons b text =>
          by_cases hab : a = b
          · subst hab
            simp only [dropLead?, if_pos] at h
            simp [ih h]
          · simp [dropLead?, hab] at h

/-- Two texts together take as many bytes as both of them, by induction on the first one. -/
theorem byteSize_append (a b : Text) : byteSize (a ++ b) = byteSize a + byteSize b := by
  induction a with
  | nil => simp [byteSize]
  | cons c a ih => simp [byteSize, ih, Nat.add_assoc]

/-- A text with characters takes bytes. -/
theorem byteSize_pos {text : Text} (h : text ≠ []) : 0 < byteSize text := by
  obtain ⟨c, rest, rfl⟩ := List.exists_cons_of_ne_nil h
  exact Nat.add_pos_left c.utf8Size_pos _

end Text

end LeasePapers
