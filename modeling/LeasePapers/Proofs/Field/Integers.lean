import LeasePapers.Field.Json
import LeasePapers.Proofs.Json.Literals
import LeasePapers.Proofs.Number.Shortest
import LeasePapers.Proofs.Text.Map

/-! Whole numbers as fields. One that fits 64 signed bits becomes the text of its literal. Any other
goes through the binary format: it becomes a number next to it with at most seventeen digits, and
zeros stand for the rest, so numbers that differ only further behind become the same text.
-/

namespace LeasePapers

namespace Field

-----------------------------------------------------------------------------------------
-- Texts of numbers
-----------------------------------------------------------------------------------------

/-- Whether a whole number fits 64 signed bits. -/
def FitsSigned (negative : Bool) (digits : Text) : Prop :=
  if negative then Number.ofDigits digits ≤ Number.twoTo 63
  else Number.ofDigits digits < Number.twoTo 63

variable {negative : Bool} {digits : Text} {number : Json.Number} {x : Number.Double}

/-- A number that is read with a few roundings is written with at most seventeen digits, and zeros
behind them. -/
theorem exists_magnitudeText {value roundings : Nat} (hgreat : Number.twoTo 63 ≤ value)
    (hnormal : x.Normal) (hread : Number.Within roundings value x.value) (hfew : roundings ≤ 4)
    : ∃ kept zeros, magnitudeText x = kept ++ List.replicate zeros '0' ∧ kept.length ≤ 17
        ∧ |(Number.ofDigits (kept ++ List.replicate zeros '0') : ℚ) - value| ≤ value / 2 ^ 50 := by
  have hvalue : (0 : ℚ) ≤ value := by positivity
  have hgreat' : (10 : ℚ) ^ 16 ≤ x.value := by
    have hcast : (2 : ℚ) ^ 63 ≤ value := by
      rw [Number.twoTo_eq] at hgreat
      exact_mod_cast hgreat
    have hnear := (abs_le.mp (hread.abs_sub_le (by omega) hvalue)).1
    linarith
  obtain ⟨kept, zeros, htext, hlength, hnear⟩ :=
    Number.Double.exists_positional_shortest hnormal hgreat' .upward
  rw [magnitudeText, if_neg hnormal.pos.ne']
  exact ⟨kept, zeros, htext, hlength, (hread.trans hnear).abs_sub_le (by omega) hvalue⟩

/-- A whole number that fits is written as it was read. -/
theorem numberText_of_fitsSigned (hne : digits ≠ []) (hdigits : ∀ c ∈ digits, c.isDigit = true)
    (hzero : ∀ behind, digits = '0' :: behind → behind = []) (hfits : FitsSigned negative digits)
    (h : Json.Literal.number? ⟨negative, digits, none, none⟩ = some number)
    : numberText number = Json.integerText negative digits := by
  have hsame := Number.digits_ofDigits hdigits hne hzero
  cases negative with
  | false =>
      have hless : Number.ofDigits digits < Number.twoTo 63 := hfits
      have hbound : Number.ofDigits digits < Json.Literal.digitBound := hless.trans (by decide)
      obtain rfl : .whole (Number.ofDigits digits) = number := by
        simpa [Json.Literal.number?, hbound] using h
      rw [numberText, wholeText, if_pos (by exact_mod_cast hless), Number.signedDigits,
        if_neg (by omega), Int.natAbs_natCast, hsame]
      rfl
  | true =>
      have hle : Number.ofDigits digits ≤ Number.twoTo 63 := hfits
      rcases Nat.eq_zero_or_pos (Number.ofDigits digits) with hnone | hpos
      · -- Minus zero is no whole number, and its magnitude is written as a zero.
        rw [hnone] at hsame
        subst hsame
        have hminus : Json.Literal.number? ⟨true, Number.digits 0, none, none⟩
            = some (.binary true Number.Double.zero) := by
          decide +kernel
        obtain rfl := Option.some.inj (hminus.symm.trans h)
        have hmagnitude : magnitudeText Number.Double.zero = ['0'] := if_pos rfl
        rw [numberText, hmagnitude]
        rfl
      · obtain rfl : .whole (-Number.ofDigits digits) = number := by
          simpa [Json.Literal.number?, hpos, hle] using h
        rw [numberText, wholeText, if_pos (by omega), Number.signedDigits, if_pos (by omega),
          Int.natAbs_neg, Int.natAbs_natCast, hsame]
        rfl

/-- Any other whole number is rounded, and written with at most seventeen digits. -/
theorem exists_numberText_of_not_fitsSigned (hdigits : ∀ c ∈ digits, c.isDigit = true)
    (hfits : ¬FitsSigned negative digits)
    (h : Json.Literal.number? ⟨negative, digits, none, none⟩ = some number)
    : ∃ kept zeros, numberText number
          = Json.integerText negative (kept ++ List.replicate zeros '0')
        ∧ kept.length ≤ 17
        ∧ |(Number.ofDigits (kept ++ List.replicate zeros '0') : ℚ) - Number.ofDigits digits|
          ≤ Number.ofDigits digits / 2 ^ 50 := by
  have hgreat : Number.twoTo 63 ≤ Number.ofDigits digits := by
    rw [FitsSigned] at hfits
    split at hfits <;> omega
  have hsome : 1 ≤ Number.ofDigits digits := (Number.twoTo_pos 63).trans_le hgreat
  by_cases hwhole : negative = false ∧ Number.ofDigits digits < Json.Literal.digitBound
  · obtain ⟨rfl, hbound⟩ := hwhole
    obtain rfl : .whole (Number.ofDigits digits) = number := by
      simpa [Json.Literal.number?, hbound] using h
    have hrange : (Number.ofDigits digits : ℚ) / (1 : Nat) < 2 ^ 1023 := by
      rw [Json.Literal.digitBound, Number.twoTo_eq] at hbound
      have hcast : (Number.ofDigits digits : ℚ) < 2 ^ 64 := by exact_mod_cast hbound
      rw [Nat.cast_one, div_one]
      exact hcast.trans (pow_lt_pow_right₀ (by norm_num) (by decide))
    obtain ⟨x, hx⟩ := Option.isSome_iff_exists.mp
      (Number.Double.isSome_ofQuotient? Nat.one_pos hsome hrange)
    have hread := Number.Double.within_ofQuotient? Nat.one_pos hsome hx
    rw [Nat.cast_one, div_one] at hread
    rw [numberText, wholeText, if_neg (by omega), Int.toNat_natCast, hx]
    exact exists_magnitudeText hgreat
      (Number.Double.normal_of_ofQuotient? Nat.one_pos hsome hx) hread (by decide)
  · obtain ⟨x, hx, rfl⟩ : ∃ x, Json.Literal.magnitude? ⟨negative, digits, none, none⟩ = some x
        ∧ .binary negative x = number := by
      have hfirst : ¬(negative = false ∧ Number.ofDigits digits < Json.Literal.digitBound) := hwhole
      have hsecond : ¬(negative = true ∧ 0 < Number.ofDigits digits
          ∧ Number.ofDigits digits ≤ Number.twoTo 63) := by
        rintro ⟨rfl, -, hle⟩
        exact hfits hle
      simpa [Json.Literal.number?, hfirst, hsecond] using h
    obtain ⟨hnormal, hread⟩ := Json.within_magnitude? hdigits hgreat hx
    obtain ⟨kept, zeros, htext, hrest⟩ :=
      exists_magnitudeText hgreat hnormal hread (Nat.le_refl 4)
    refine ⟨kept, zeros, ?_, hrest⟩
    rw [numberText, htext, Json.integerText]

end Field

namespace Dictionary

variable {fields next : Dictionary} {members more : List (Text × Json.Value)} {name : Text}

-----------------------------------------------------------------------------------------
-- Members that are taken in
-----------------------------------------------------------------------------------------

/-- A member that is added sets the field of its name and no other. -/
theorem get?_addMember {member : Text × Json.Value} {value : Option Field.Value}
    (hvalue : Field.Value.ofJson? member.2 = some value) (h : addMember fields member = some next)
    (name : Text)
    : next.get? name = if name = member.1 then value else fields.get? name := by
  rw [addMember, hvalue, Option.map_some, Option.some.injEq] at h
  subst h
  cases value with
  | none => exact TextMap.get?_erase _ _ _
  | some value => exact TextMap.get?_insert _ _ _ _

/-- Members of other names leave a field alone, by induction on them. -/
theorem get?_foldlM_addMember_of_ne (h : members.foldlM addMember fields = some next)
    (hne : ∀ member ∈ members, member.1 ≠ name)
    : next.get? name = fields.get? name := by
  induction members generalizing fields with
  | nil =>
      obtain rfl := Option.some.inj h
      rfl
  | cons member members ih =>
      rw [List.foldlM_cons, Option.bind_eq_bind, Option.bind_eq_some_iff] at h
      obtain ⟨middle, hmember, hrest⟩ := h
      obtain ⟨value, hvalue, -⟩ := Option.map_eq_some_iff.mp hmember
      rw [List.forall_mem_cons] at hne
      rw [ih hrest hne.2, get?_addMember hvalue hmember, if_neg hne.1.symm]

/-- Of several members of a name the last one counts. -/
theorem get?_foldlM_addMember_of_last {number : Json.Number}
    (h : (members ++ (name, .number number) :: more).foldlM addMember fields = some next)
    (hlast : ∀ member ∈ more, member.1 ≠ name)
    : next.get? name = some (.text (Field.numberText number)) := by
  rw [List.foldlM_append, Option.bind_eq_bind, Option.bind_eq_some_iff] at h
  obtain ⟨before, -, h⟩ := h
  rw [List.foldlM_cons, Option.bind_eq_bind, Option.bind_eq_some_iff] at h
  obtain ⟨middle, hmember, hrest⟩ := h
  rw [get?_foldlM_addMember_of_ne hrest hlast, get?_addMember rfl hmember, if_pos rfl]

-----------------------------------------------------------------------------------------
-- Whole numbers in an object
-----------------------------------------------------------------------------------------

/-- A whole number that is the last member of its name becomes the text of its literal if it fits 64
signed bits, minus zero included; otherwise it becomes a number next to it with at most seventeen
digits. -/
theorem get?_ofJson_integerText {before after digits : Text} {negative : Bool}
    (hplace : Json.AwaitsMember name before) (hne : digits ≠ [])
    (hdigits : ∀ c ∈ digits, c.isDigit = true)
    (hend : ∀ c ∈ after.head?, Json.isNumberChar c = false)
    (hlast : ¬Json.NamesMember name after)
    (h : ofJson (before ++ Json.integerText negative digits ++ after) = .ok fields)
    : (Field.FitsSigned negative digits
        → fields.get? name = some (.text (Json.integerText negative digits)))
      ∧ (¬Field.FitsSigned negative digits → ∃ kept zeros,
        fields.get? name
            = some (.text (Json.integerText negative (kept ++ List.replicate zeros '0')))
          ∧ kept.length ≤ 17
          ∧ |(Number.ofDigits (kept ++ List.replicate zeros '0') : ℚ) - Number.ofDigits digits|
            ≤ Number.ofDigits digits / 2 ^ 50) := by
  rw [ofJson] at h
  split at h
  · rename_i all hobject
    obtain ⟨number, members, more, hnumber, hzero, rfl, hnamed⟩ :=
      Json.exists_members_of_integerText hplace hne hdigits hend hobject
    have hothers : ∀ member ∈ more, member.1 ≠ name := by
      rintro member hmem rfl
      exact hlast (hnamed member hmem)
    split at h
    · rename_i result hfields
      obtain rfl := Except.ok.inj h
      have hfield := get?_foldlM_addMember_of_last hfields hothers
      refine ⟨fun hfits => ?_, fun hfits => ?_⟩
      · rw [hfield, Field.numberText_of_fitsSigned hne hdigits hzero hfits hnumber]
      · obtain ⟨kept, zeros, htext, hrest⟩ :=
          Field.exists_numberText_of_not_fitsSigned hdigits hfits hnumber
        exact ⟨kept, zeros, by rw [hfield, htext], hrest⟩
    · cases h
  · cases h

/-- The lowest integer comes after an earlier member of its name, which it replaces. -/
theorem get?_ofJson_integerText_lowest
    : Json.AwaitsMember "rg" "\x7b\"rg\": 12, \"fiadores\": [\"Ana\"], \"rg\": "
      ∧ ¬Json.NamesMember "rg" ", \"cpf\": 7\x7d"
      ∧ Field.FitsSigned true "9223372036854775808"
      ∧ ∃ fields, ofJson ("\x7b\"rg\": 12, \"fiadores\": [\"Ana\"], \"rg\": "
            ++ Json.integerText true "9223372036854775808" ++ ", \"cpf\": 7\x7d") = .ok fields
          ∧ fields.get? "rg" = some (.text "-9223372036854775808") := by
  have hplace : Json.AwaitsMember "rg" "\x7b\"rg\": 12, \"fiadores\": [\"Ana\"], \"rg\": " :=
    ⟨[.openObject, .string "rg", .colon, .number (.whole 12), .comma, .string "fiadores", .colon,
      .openArray, .string "Ana", .closeArray, .comma], rfl, rfl⟩
  have hlast : ¬Json.NamesMember "rg" ", \"cpf\": 7\x7d" :=
    @Json.not_namesMember _ _ [.comma, .string "cpf", .colon, .number (.whole 7), .closeObject] rfl
      (by simp)
  have hfits : Field.FitsSigned true "9223372036854775808" := by
    rw [Field.FitsSigned]
    decide
  have hread : (ofJson ("\x7b\"rg\": 12, \"fiadores\": [\"Ana\"], \"rg\": "
      ++ Json.integerText true "9223372036854775808" ++ ", \"cpf\": 7\x7d")).toOption.isSome := by
    decide +kernel
  refine ⟨hplace, hlast, hfits, ?_⟩
  cases h : ofJson ("\x7b\"rg\": 12, \"fiadores\": [\"Ana\"], \"rg\": "
      ++ Json.integerText true "9223372036854775808" ++ ", \"cpf\": 7\x7d") with
  | error failure =>
      rw [h] at hread
      cases hread
  | ok fields =>
      have hall := get?_ofJson_integerText hplace (by simp) (by simp) (by simp; decide) hlast h
      exact ⟨fields, rfl, hall.1 hfits⟩

/-- Two numbers of a contract that differ become the same, as neither fits 64 signed bits. -/
theorem integerText_not_kept
    : Json.AwaitsMember "numeroContrato" "\x7b\"numeroContrato\": "
      ∧ ¬Json.NamesMember "numeroContrato" "\x7d"
      ∧ (ofJson ("\x7b\"numeroContrato\": " ++ Json.integerText false "9223372036854775808"
            ++ "\x7d")).map (fun fields => fields.get? "numeroContrato")
          = .ok (some (.text "9223372036854776000"))
      ∧ (ofJson ("\x7b\"numeroContrato\": " ++ Json.integerText false "9223372036854775809"
            ++ "\x7d")).map (fun fields => fields.get? "numeroContrato")
          = .ok (some (.text "9223372036854776000"))
      ∧ Json.integerText false "9223372036854775808" ≠ "9223372036854776000" := by
  have hlast : ¬Json.NamesMember "numeroContrato" "\x7d" :=
    @Json.not_namesMember _ _ [.closeObject] rfl (by simp)
  exact ⟨⟨[.openObject], rfl, rfl⟩, hlast, by decide +kernel, by decide +kernel, by decide⟩

end Dictionary

end LeasePapers
