import Mathlib.Data.List.TakeWhile
import LeasePapers.Proofs.Json.Arrays
import LeasePapers.Proofs.Number.Digits
import LeasePapers.Proofs.Number.Double

/-! Whole numbers inside a JSON text. Where the text in front ends between two tokens and no
character behind continues the number, its literal is read by itself: as a single token, which is
the number that the literal stands for.
-/

namespace LeasePapers.Json

-----------------------------------------------------------------------------------------
-- Texts that are read by themselves
-----------------------------------------------------------------------------------------

/-- A text whose last token is a mark ends between two tokens, so what follows is read as if it
stood alone, by induction on the text.
-/
theorem tokensFrom?_append {reading : Reading} {text : Text} {tokens : List Token}
    (h : tokensFrom? reading text = some tokens)
    (hlast : ∀ token ∈ tokens.getLast?, token.isScalar = false) (rest : Text)
    : tokensFrom? reading (text ++ rest) = (tokensFrom? .between rest).map (tokens ++ ·) := by
  induction text generalizing reading tokens with
  | nil =>
      have hscalar : ∀ {token}, tokens = [token] → token.isScalar = true → False := by
        rintro token rfl htrue
        rw [hlast token rfl] at htrue
        cases htrue
      cases reading with
      | between =>
          obtain rfl := Option.some.inj h
          exact Option.map_id'.symm
      | number read =>
          obtain ⟨token, htoken, hsame⟩ := Option.map_eq_some_iff.mp h
          exact (hscalar hsame.symm (isScalar_of_ofNumber? htoken)).elim
      | word read =>
          obtain ⟨token, htoken, hsame⟩ := Option.map_eq_some_iff.mp h
          exact (hscalar hsame.symm (isScalar_of_ofWord? htoken)).elim
      | string | escape | hex | pairSlash | pairMark | pairHex => cases h
  | cons c text ih =>
      obtain ⟨first, next, more, hread, hmore, rfl⟩ := tokensFrom?_cons_eq_some h
      have hbehind : ∀ token ∈ more.getLast?, token.isScalar = false := fun token hmem =>
        hlast token (by rw [Option.mem_def] at hmem ⊢; rw [List.getLast?_append, hmem]; rfl)
      rw [List.cons_append, tokensFrom?_cons hread, ih hmore hbehind, Option.map_map]
      simp only [Function.comp_def, List.append_assoc]

/-- Characters of a number are read on as such, by induction on them. -/
theorem tokensFrom?_number {run : Text} (h : ∀ c ∈ run, isNumberChar c = true) (read rest : Text)
    : tokensFrom? (.number read) (run ++ rest) = tokensFrom? (.number (read ++ run)) rest := by
  induction run generalizing read with
  | nil => rw [List.nil_append, List.append_nil]
  | cons c run ih =>
      rw [List.forall_mem_cons] at h
      have hread : readChar c (.number read) = some ([], .number (read ++ [c])) := if_pos h.1
      rw [List.cons_append, tokensFrom?_silent hread, ih h.2, List.append_assoc,
        List.singleton_append]

/-- A number ends where no character continues it. -/
theorem tokensFrom?_numberEnd {rest : Text} (h : ∀ c ∈ rest.head?, isNumberChar c = false)
    (read : Text)
    : tokensFrom? (.number read) rest
      = (Token.ofNumber? read).bind (fun token => (tokens? rest).map (token :: ·)) := by
  cases rest with
  | nil =>
      cases hread : Token.ofNumber? read <;> simp [tokensFrom?, tokens?, readEnd, hread]
  | cons c rest =>
      have hc : isNumberChar c = false := h c rfl
      cases hread : Token.ofNumber? read with
      | none => simp [tokensFrom?, readChar, hc, hread]
      | some token =>
          cases hnext : readBetween c <;> simp [tokensFrom?, tokens?, readChar, hc, hread, hnext]

-----------------------------------------------------------------------------------------
-- Whole numbers
-----------------------------------------------------------------------------------------

/-- The text of a whole number: a minus, if it is negative, and digits. -/
def integerText (negative : Bool) (digits : Text) : Text :=
  if negative then '-' :: digits else digits

variable {negative : Bool} {digits : Text}

/-- Digits belong to numbers. -/
theorem isNumberChar_of_isDigit {c : Char} (h : c.isDigit = true) : isNumberChar c = true := by
  simp [isNumberChar, h]

/-- A digit begins a number. -/
theorem readBetween_of_isDigit {c : Char} (h : c.isDigit = true)
    : readBetween c = some ([], .number [c]) := by
  have hspace : isSpace c = false := by
    cases hspace : isSpace c with
    | false => rfl
    | true =>
        have hblank := Text.isBlank_of_class (p := Char.isDigit) (by decide) h
        rw [isBlank_of_isSpace hspace] at hblank
        cases hblank
  have hquote : c ≠ '"' := by
    rintro rfl
    cases h
  simp [readBetween, hspace, hquote, h]

/-- A whole number is read as the token of its text, and what follows by itself. -/
theorem tokensFrom?_integerText {after : Text} (hne : digits ≠ [])
    (hdigits : ∀ c ∈ digits, c.isDigit = true)
    (hend : ∀ c ∈ after.head?, isNumberChar c = false)
    : tokensFrom? .between (integerText negative digits ++ after)
      = (Token.ofNumber? (integerText negative digits)).bind
          (fun token => (tokens? after).map (token :: ·)) := by
  have hrun : ∀ c ∈ digits, isNumberChar c = true :=
    fun c hc => isNumberChar_of_isDigit (hdigits c hc)
  cases negative with
  | true =>
      have hminus : readChar '-' .between = some ([], .number ['-']) := rfl
      have htext : integerText true digits = '-' :: digits := rfl
      rw [htext, List.cons_append, tokensFrom?_silent hminus, tokensFrom?_number hrun,
        tokensFrom?_numberEnd hend, List.singleton_append]
  | false =>
      cases digits with
      | nil => exact absurd rfl hne
      | cons c digits =>
          rw [List.forall_mem_cons] at hdigits hrun
          have hfirst : readChar c .between = some ([], .number [c]) :=
            readBetween_of_isDigit hdigits.1
          have htext : integerText false (c :: digits) = c :: digits := rfl
          rw [htext, List.cons_append, tokensFrom?_silent hfirst, tokensFrom?_number hrun.2,
            tokensFrom?_numberEnd hend, List.singleton_append]

/-- Digits alone are a literal without places and exponent. -/
theorem unsigned?_digits (hdigits : ∀ c ∈ digits, c.isDigit = true)
    : Literal.unsigned? negative digits
      = (Literal.whole? digits).map (fun whole => ⟨negative, whole, none, none⟩) := by
  have hwhole : digits.takeWhile Char.isDigit = digits := List.takeWhile_eq_self_iff.mpr hdigits
  have hrest : digits.dropWhile Char.isDigit = [] := List.dropWhile_eq_nil_iff.mpr hdigits
  rw [Literal.unsigned?, hwhole, hrest]
  cases Literal.whole? digits <;> rfl

/-- The literal of a whole number is its minus and its digits. -/
theorem ofText?_integerText (hne : digits ≠ []) (hdigits : ∀ c ∈ digits, c.isDigit = true)
    : Literal.ofText? (integerText negative digits)
      = (Literal.whole? digits).map (fun whole => ⟨negative, whole, none, none⟩) := by
  cases negative with
  | true => exact unsigned?_digits hdigits
  | false =>
      cases digits with
      | nil => exact absurd rfl hne
      | cons c digits =>
          have hminus : c ≠ '-' := by
            rintro rfl
            cases hdigits '-' List.mem_cons_self
          have hplain : Literal.ofText? (c :: digits) = Literal.unsigned? false (c :: digits) := by
            rw [Literal.ofText?.eq_def]
            split
            · rename_i heq
              exact absurd (List.cons.inj heq).1 hminus
            · rfl
          exact hplain.trans (unsigned?_digits hdigits)

/-- The whole part of digits is all of them, and a zero stands alone. -/
theorem whole?_eq_some {whole : Text} (h : Literal.whole? digits = some whole)
    : whole = digits ∧ ∀ behind, digits = '0' :: behind → behind = [] := by
  rw [Literal.whole?.eq_def] at h
  split at h
  · cases h
  · cases h
  · rename_i hzero
    refine ⟨(Option.some.inj h).symm, ?_⟩
    rintro (_ | ⟨c, behind⟩) rfl
    · rfl
    · exact absurd rfl (hzero c behind)

/-- A text that is read and holds a whole number is read up to it and behind it; no needless zero
stands in front of the digits, and the token is the number of the literal.
-/
theorem exists_number_of_tokens? {before after : Text} {opening tokens : List Token}
    {mark : Token} (hbefore : tokens? before = some (opening ++ [mark]))
    (hmark : mark.isScalar = false) (hne : digits ≠ []) (hdigits : ∀ c ∈ digits, c.isDigit = true)
    (hend : ∀ c ∈ after.head?, isNumberChar c = false)
    (h : tokens? (before ++ integerText negative digits ++ after) = some tokens)
    : ∃ number more, Literal.number? ⟨negative, digits, none, none⟩ = some number
        ∧ (∀ behind, digits = '0' :: behind → behind = [])
        ∧ tokens? after = some more ∧ tokens = opening ++ mark :: .number number :: more := by
  have hlast : ∀ token ∈ (opening ++ [mark]).getLast?, token.isScalar = false := by
    simpa using hmark
  rw [List.append_assoc, tokens?, tokensFrom?_append hbefore hlast,
    tokensFrom?_integerText hne hdigits hend] at h
  obtain ⟨others, hothers, rfl⟩ := Option.map_eq_some_iff.mp h
  obtain ⟨token, htoken, hmore⟩ := Option.bind_eq_some_iff.mp hothers
  obtain ⟨more, hafter, rfl⟩ := Option.map_eq_some_iff.mp hmore
  obtain ⟨number, hnumber, rfl⟩ := Option.map_eq_some_iff.mp htoken
  obtain ⟨literal, hliteral, hvalue⟩ := Option.bind_eq_some_iff.mp hnumber
  rw [ofText?_integerText hne hdigits] at hliteral
  obtain ⟨whole, hwhole, rfl⟩ := Option.map_eq_some_iff.mp hliteral
  obtain ⟨rfl, hzero⟩ := whole?_eq_some hwhole
  exact ⟨number, more, hvalue, hzero, hafter, by simp⟩

/-- Behind its name a whole number is the value of a member, and only members that are named behind
it follow. -/
theorem exists_members_of_integerText {before after name : Text} {all : List (Text × Value)}
    (hplace : AwaitsMember name before) (hne : digits ≠ [])
    (hdigits : ∀ c ∈ digits, c.isDigit = true)
    (hend : ∀ c ∈ after.head?, isNumberChar c = false)
    (h : ofText? (before ++ integerText negative digits ++ after) = some (.object all))
    : ∃ number members more, Literal.number? ⟨negative, digits, none, none⟩ = some number
        ∧ (∀ behind, digits = '0' :: behind → behind = [])
        ∧ all = members ++ (name, .number number) :: more
        ∧ ∀ member ∈ more, NamesMember member.1 after := by
  obtain ⟨opening, hbefore, hnesting⟩ := hplace
  obtain ⟨tokens, htokens, hrun⟩ := Option.bind_eq_some_iff.mp h
  obtain ⟨last, hlast, hresult⟩ := Option.bind_eq_some_iff.mp hrun
  have hmarks : tokens? before = some ((opening ++ [.string name]) ++ [.colon]) := by
    rw [hbefore, List.append_assoc, List.singleton_append]
  obtain ⟨number, behind, hnumber, hzero, hafter, rfl⟩ :=
    exists_number_of_tokens? hmarks rfl hne hdigits hend htokens
  rw [List.append_assoc, List.singleton_append] at hlast
  obtain ⟨members, more, hall, hnamed⟩ := exists_members_of_number hnesting hlast hresult
  exact ⟨number, members, more, hnumber, hzero, hall,
    fun member hmem => ⟨behind, hafter, hnamed member hmem⟩⟩

-----------------------------------------------------------------------------------------
-- Magnitudes of whole numbers
-----------------------------------------------------------------------------------------

/-- The digits that are taken are the first ones of the number, and either all of them or as many as
stay below the bound, by induction on the digits.
-/
theorem takeDigits_spec (hdigits : ∀ c ∈ digits, c.isDigit = true) (first : Nat)
    : (Literal.takeDigits first digits).1 * Number.tenTo (Literal.takeDigits first digits).2
          ≤ Nat.ofDigitChars 10 digits first
        ∧ Nat.ofDigitChars 10 digits first
          < ((Literal.takeDigits first digits).1 + 1)
            * Number.tenTo (Literal.takeDigits first digits).2
        ∧ ((Literal.takeDigits first digits).2 = 0
          ∨ Literal.digitBound ≤ 10 * (Literal.takeDigits first digits).1 + 9) := by
  induction digits generalizing first with
  | nil =>
      rw [Literal.takeDigits, Nat.ofDigitChars_nil]
      simp [Number.tenTo_zero]
  | cons c digits ih =>
      rw [List.forall_mem_cons] at hdigits
      obtain ⟨d, hd, hvalue, -⟩ := Number.exists_digitChar_of_isDigit hdigits.1
      have hlast : Number.ofDigits [c] = d := by
        rw [Number.ofDigits, Nat.ofDigitChars_cons, hvalue]
        exact Nat.zero_add d
      simp only [Literal.takeDigits, hlast, Nat.ofDigitChars_cons, hvalue, Nat.mul_comm first]
      split
      · exact ih hdigits.2 _
      · rename_i hbound
        have hrest := Number.ofDigits_lt hdigits.2
        rw [Nat.ofDigitChars_eq_ofDigitChars_zero, ← Number.ofDigits, Number.tenTo_succ]
        rw [Number.tenTo_eq] at hrest ⊢
        refine ⟨?_, ?_, Or.inr (by omega)⟩
        · nlinarith
        · nlinarith
/-- The magnitude of digits is that of the digits which are taken, shifted by the rest. -/
theorem magnitude?_whole
    : Literal.magnitude? ⟨negative, digits, none, none⟩
      = Number.Double.ofScientific? (Literal.takeDigits 0 digits).1
          ((Literal.takeDigits 0 digits).2 : Nat) := by
  simp [Literal.magnitude?, Literal.takeDigits]

/-- A great whole number is read with four roundings, as its digits beyond the bound count for
nothing. -/
theorem within_magnitude? (hdigits : ∀ c ∈ digits, c.isDigit = true)
    (hgreat : Number.twoTo 63 ≤ Number.ofDigits digits) {x : Number.Double}
    (h : Literal.magnitude? ⟨negative, digits, none, none⟩ = some x)
    : x.Normal ∧ Number.Within 4 (Number.ofDigits digits) x.value := by
  obtain ⟨hlow, hhigh, hbound⟩ := takeDigits_spec hdigits 0
  rw [magnitude?_whole] at h
  rw [← Number.ofDigits] at hlow hhigh
  generalize Literal.takeDigits 0 digits = taken at h hlow hhigh hbound
  obtain ⟨whole, zeros⟩ := taken
  simp only at h hlow hhigh hbound
  have hwhole : 2 ^ 53 ≤ whole := by
    rw [Number.twoTo_eq] at hgreat
    rcases hbound with rfl | hbound
    · rw [Number.tenTo_zero] at hhigh
      omega
    · rw [Literal.digitBound, Number.twoTo_eq] at hbound
      omega
  have hcut : Number.Within 1 (Number.ofDigits digits) (whole * Number.tenTo zeros : Nat) := by
    have hgap : 2 ^ 53 * Number.tenTo zeros ≤ whole * Number.tenTo zeros :=
      Nat.mul_le_mul_right _ hwhole
    rw [Nat.add_mul, Nat.one_mul] at hhigh
    refine Number.within_one (Number.tenTo zeros) ?_ ?_ ?_ ?_
    · exact_mod_cast hhigh.le
    · exact_mod_cast hlow.trans (Nat.le_add_right _ _)
    · exact_mod_cast hgap.trans hlow
    · exact_mod_cast hgap
  obtain ⟨hnormal, hread⟩ := Number.Double.within_ofScientific? (by omega) h
  have hall : Number.Within (1 + 3) (Number.ofDigits digits) x.value := hcut.trans hread
  exact ⟨hnormal, hall⟩

end LeasePapers.Json
