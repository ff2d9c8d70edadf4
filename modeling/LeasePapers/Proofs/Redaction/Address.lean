import LeasePapers.Proofs.Redaction.CityState
import LeasePapers.Proofs.Text.Upper

/-! What redacted addresses show. Numbers, commas and braces are in none of them. The last part
after a comma is shown before the other parts if it is a city and a state as a whole, or if no other
part holds one.
-/

namespace LeasePapers.Redaction

variable {text city state : Text}

-----------------------------------------------------------------------------------------
-- Numbers and marks
-----------------------------------------------------------------------------------------

/-- Whether a character is a digit, a comma or a brace. -/
def isNumberMark (c : Char) : Bool :=
  c.isDigit || c == ',' || Text.isBrace c

/-- The digits, the comma and the braces. -/
def numberMarks : List Char :=
  [',', '\x7b', '\x7d'] ++ Text.charsBetween '0' '9'

/-- A mark of numbers is one of those. -/
theorem mem_numberMarks {c : Char} (h : isNumberMark c = true) : c ∈ numberMarks := by
  simp only [isNumberMark, Text.isBrace, Bool.or_eq_true, beq_iff_eq] at h
  rcases h with (hdigit | rfl) | rfl | rfl
  · simp only [Char.isDigit, Bool.and_eq_true, decide_eq_true_eq] at hdigit
    exact List.mem_append_right _ (Text.mem_charsBetween hdigit.1 hdigit.2)
  · simp [numberMarks]
  · simp [numberMarks]
  · simp [numberMarks]

/-- No mark of numbers is a letter, or changes when it is capitalized. -/
theorem numberMarks_kept
    : numberMarks.all (fun c => !Text.isLetter c && Text.isOwnCapital c) = true := by
  decide +kernel

/-- These marks are no letters, and they are the capitals of nothing but themselves. -/
theorem kept_of_isNumberMark {c : Char} (h : isNumberMark c = true)
    : Text.isLetter c = false ∧ Text.isOwnCapital c = true := by
  simpa using List.all_eq_true.mp numberMarks_kept c (mem_numberMarks h)

/-- No letter is a mark of numbers. -/
theorem isNumberMark_of_isLetter {c : Char} (h : Text.isLetter c = true)
    : isNumberMark c = false := by
  cases hmark : isNumberMark c with
  | false => rfl
  | true =>
      rw [(kept_of_isNumberMark hmark).1] at h
      cases h

/-- No mark of numbers stands in the name of a city. -/
theorem isNumberMark_of_isCityChar {c : Char} (h : isCityChar c = true)
    : isNumberMark c = false := by
  obtain hletter | rfl : Text.isLetter c = true ∨ c = ' ' := by simpa [isCityChar] using h
  · exact isNumberMark_of_isLetter hletter
  · rfl

/-- No capital of a letter is such a mark. -/
theorem isNumberMark_of_mem_upper {letters : Text} (h : ∀ c ∈ letters, Text.isLetter c = true)
    : ∀ c ∈ Text.upper letters, isNumberMark c = false := by
  intro c hc
  obtain ⟨letter, hletter, hmem⟩ := List.mem_flatMap.mp hc
  cases hmark : isNumberMark c with
  | false => rfl
  | true =>
      have hown := (kept_of_isNumberMark hmark).2
      rw [Text.eq_of_mem_upperChar hown hmem, isNumberMark_of_isLetter (h letter hletter)] at hmark
      cases hmark

-----------------------------------------------------------------------------------------
-- The city and the state that are shown
-----------------------------------------------------------------------------------------

/-- A city and a state as they are shown. -/
def cityStateText (city state : Text) : Text :=
  city ++ [' ', '-', ' '] ++ Text.upper state

/-- A city is written with the characters of cities, and a state with letters. -/
theorem OccursIn.chars (h : OccursIn city state text)
    : (∀ c ∈ city, isCityChar c = true) ∧ ∀ c ∈ state, Text.isLetter c = true := by
  obtain ⟨before, after, rest, rfl, written, rfl, hform, hend⟩ := h
  cases hform with
  | intro begins chars ends blankBefore mark blankAfter first second =>
      exact ⟨chars, by simp [first, second]⟩

/-- A city with its state has no mark of numbers, capitalized or not. -/
theorem isNumberMark_of_mem_cityStateText (h : OccursIn city state text)
    : ∀ c ∈ cityStateText city state, isNumberMark c = false := by
  obtain ⟨hcity, hstate⟩ := h.chars
  simp only [cityStateText, List.forall_mem_append]
  exact ⟨⟨fun c hc => isNumberMark_of_isCityChar (hcity c hc), by simp [isNumberMark, Text.isBrace]⟩,
    isNumberMark_of_mem_upper hstate⟩

/-- Braces are marks of numbers. -/
theorem isBrace_of_isNumberMark {c : Char} (h : isNumberMark c = false) : Text.isBrace c = false := by
  simp only [isNumberMark, Bool.or_eq_false_iff] at h
  exact h.2

/-- A city with its state has no braces that could be taken out. -/
theorem withoutBraces_cityStateText (h : OccursIn city state text)
    : Text.withoutBraces (cityStateText city state) = cityStateText city state :=
  Text.withoutBraces_of_braceFree
    (fun c hc => isBrace_of_isNumberMark (isNumberMark_of_mem_cityStateText h c hc))

-----------------------------------------------------------------------------------------
-- The parts of an address
-----------------------------------------------------------------------------------------

/-- The parts of an address between commas, without the blanks around them. -/
def addressParts (text : Text) : List Text :=
  (Text.pieces (· == ',') (Text.trim text)).map Text.trim

/-- The part of an address behind its last comma. -/
def lastPart (text : Text) : Text :=
  (addressParts text).getLastD []

/-- Whether a city and a state stand in the text. -/
def HasCityState (text : Text) : Prop :=
  ∃ city state, OccursIn city state text

/-- Whether the text is a city and a state as a whole. -/
def IsCityState (text : Text) : Prop :=
  ∃ city state, CityStateForm city state text

/-- A text is read as a city with its state if and only if it has their form. -/
theorem wholeCityState?_eq_some_iff
    : wholeCityState? text = some (city, state) ↔ CityStateForm city state text := by
  have hwhole : wholeCityState? text = some (city, state)
      ↔ cityStateAt? text = some (city, state, []) := by
    rw [wholeCityState?]
    split
    · rename_i foundCity foundState hfound
      simp [hfound]
    · rename_i hnot
      exact iff_of_false (by simp) (hnot city state)
  rw [hwhole, cityStateAt?_eq_some_iff]
  constructor
  · rintro ⟨written, rfl, hform, -⟩
    rwa [List.append_nil]
  · exact fun hform => ⟨text, (List.append_nil text).symm, hform, rfl⟩

/-- The last part is what stands behind the last comma. -/
theorem lastPart_eq
    : lastPart text = Text.trim ((Text.pieces (· == ',') (Text.trim text)).getLastD []) := by
  rw [lastPart, addressParts, List.getLastD_eq_getLast?, List.getLastD_eq_getLast?, List.getLast?_map]
  cases (Text.pieces (· == ',') (Text.trim text)).getLast? <;> rfl

/-- What is shown of an address that is not blank. -/
theorem redactAddress_eq (h : Text.trim text ≠ [])
    : redactAddress text
      = match (wholeCityState? (lastPart text)).or (findCityState? (Text.trim text)) with
        | some (city, state) => Text.withoutBraces (cityStateText city state)
        | none =>
            if 1 < (addressParts text).length ∧ (lastPart text).head?.any Text.isAlphabetic
                ∧ !(lastPart text).any Char.isDigit then
              Text.withoutBraces (lastPart text)
            else cityUnknown := by
  have hlength : (addressParts text).length = (Text.pieces (· == ',') (Text.trim text)).length :=
    List.length_map _
  rw [redactAddress, lastPart_eq, hlength]
  simp only [if_neg h]
  rfl

/-- No part of an address has a comma. -/
theorem comma_not_mem_lastPart (text : Text) : ',' ∉ lastPart text := by
  intro hmem
  rw [lastPart_eq] at hmem
  have hpiece := (Text.isInfix_trim _).subset hmem
  rw [List.getLastD_eq_getLast?] at hpiece
  cases hlast : (Text.pieces (· == ',') (Text.trim text)).getLast? with
  | none =>
      rw [hlast] at hpiece
      cases hpiece
  | some piece =>
      rw [hlast] at hpiece
      have hnot := Text.not_cut_of_mem_pieces (List.mem_of_getLast? hlast) ',' hpiece
      cases hnot

/-- The text for a missing address shows no number. -/
theorem any_isNumberMark_addressMissing : addressMissing.any isNumberMark = false := by rfl

/-- The text for an unknown city shows no number. -/
theorem any_isNumberMark_cityUnknown : cityUnknown.any isNumberMark = false := by rfl

/-- A text whose characters are no marks of numbers shows no number. -/
theorem any_isNumberMark_eq_false {shown : Text} (h : ∀ c ∈ shown, isNumberMark c = false)
    : shown.any isNumberMark = false := by
  simpa using h

/-- A redacted address shows no digit, no comma and no brace. -/
theorem conceals_redactAddress (text : Text) : (redactAddress text).any isNumberMark = false := by
  by_cases hblank : Text.trim text = []
  · have hmissing : redactAddress text = addressMissing := by
      rw [redactAddress]
      exact if_pos hblank
    rw [hmissing]
    exact any_isNumberMark_addressMissing
  rw [redactAddress_eq hblank]
  split
  · rename_i city state hfound
    have hoccurs : ∃ part, OccursIn city state part := by
      rcases Option.or_eq_some_iff.mp hfound with hwhole | ⟨-, hfirst⟩
      · exact ⟨_, (wholeCityState?_eq_some_iff.mp hwhole).occursIn⟩
      · exact ⟨_, occursIn_of_findCityState? hfirst⟩
    obtain ⟨part, hoccurs⟩ := hoccurs
    rw [withoutBraces_cityStateText hoccurs]
    exact any_isNumberMark_eq_false (isNumberMark_of_mem_cityStateText hoccurs)
  · split
    · rename_i hshown
      refine any_isNumberMark_eq_false (fun c hc => ?_)
      obtain ⟨hmem, hbrace⟩ := List.mem_filter.mp hc
      have hdigit : c.isDigit = false := by
        have hnone : (lastPart text).any Char.isDigit = false := by simpa using hshown.2.2
        simpa using List.any_eq_false.mp hnone c hmem
      have hcomma : c ≠ ',' := fun he => comma_not_mem_lastPart text (he ▸ hmem)
      simpa [isNumberMark, hdigit, hcomma] using hbrace
    · exact any_isNumberMark_cityUnknown

-----------------------------------------------------------------------------------------
-- The last part
-----------------------------------------------------------------------------------------

/-- The first city and state of an address is the first one in its parts. -/
theorem findCityState?_address (text : Text)
    : findCityState? (Text.trim text) = (addressParts text).findSome? findCityState? := by
  conv_lhs => rw [← Text.join_pieces ',' (Text.trim text), findCityState?_join]
  rw [addressParts, List.findSome?_map, Function.comp_def]
  simp only [findCityState?_trim]

/-- The parts of an address end with the last one. -/
theorem addressParts_eq (text : Text)
    : addressParts text = (addressParts text).dropLast ++ [lastPart text] := by
  have hne : addressParts text ≠ [] := by
    rw [addressParts, Ne, List.map_eq_nil_iff]
    exact Text.pieces_ne_nil _ _
  rw [lastPart, List.getLastD_eq_getLast?, List.getLast?_eq_some_getLast hne, Option.getD_some,
    List.dropLast_concat_getLast]

/-- Nothing is found if and only if no city with its state occurs. -/
theorem findCityState?_eq_none_iff_not {part : Text}
    : findCityState? part = none ↔ ¬HasCityState part := by
  rw [findCityState?_eq_none_iff]
  exact ⟨fun h ⟨city, state, hoccurs⟩ => h city state hoccurs,
    fun h city state hoccurs => h ⟨city, state, hoccurs⟩⟩

/-- An address with a city in its last part is not blank. -/
theorem trim_ne_nil (h : HasCityState (lastPart text)) : Text.trim text ≠ [] := by
  intro hnil
  have hlast : lastPart text = [] := by
    rw [lastPart_eq, hnil]
    rfl
  rw [hlast] at h
  exact findCityState?_eq_none_iff_not.mp rfl h

/-- What is shown of the address is a city and a state that stand in the part. -/
def ShownFrom (part text : Text) : Prop :=
  ∃ city state, OccursIn city state part ∧ redactAddress text = cityStateText city state

/-- A city that is found in a part is shown from there. -/
theorem shownFrom_of_found {part : Text} (hblank : Text.trim text ≠ [])
    (h : (wholeCityState? (lastPart text)).or (findCityState? (Text.trim text)) = some (city, state))
    (hoccurs : OccursIn city state part)
    : ShownFrom part text := by
  refine ⟨city, state, hoccurs, ?_⟩
  rw [redactAddress_eq hblank, h]
  exact withoutBraces_cityStateText hoccurs

/-- If a city and a state stand in the last part of an address, then such a pair of the last part is
shown, provided that the last part is nothing else or that no other part holds one. Otherwise a city
and a state of another part are shown.
-/
theorem redactAddress_lastPart (h : HasCityState (lastPart text))
    : (IsCityState (lastPart text) ∨ (∀ part ∈ (addressParts text).dropLast, ¬HasCityState part)
          → ShownFrom (lastPart text) text)
      ∧ (¬IsCityState (lastPart text) → (∃ part ∈ (addressParts text).dropLast, HasCityState part)
          → ∃ part ∈ (addressParts text).dropLast, ShownFrom part text) := by
  have hblank := trim_ne_nil h
  have hfirst : findCityState? (Text.trim text)
      = ((addressParts text).dropLast.findSome? findCityState?).or
          (findCityState? (lastPart text)) := by
    conv_lhs => rw [findCityState?_address, addressParts_eq, List.findSome?_append]
    rw [List.findSome?_singleton]
  cases hwhole : wholeCityState? (lastPart text) with
  | some found =>
      obtain ⟨city, state⟩ := found
      have hform := wholeCityState?_eq_some_iff.mp hwhole
      refine ⟨fun _ => shownFrom_of_found hblank ?_ hform.occursIn,
        fun hnot => absurd ⟨city, state, hform⟩ hnot⟩
      rw [hwhole, Option.some_or]
  | none =>
      have hnot : ¬IsCityState (lastPart text) := by
        rintro ⟨city, state, hform⟩
        rw [wholeCityState?_eq_some_iff.mpr hform] at hwhole
        cases hwhole
      cases hbefore : (addressParts text).dropLast.findSome? findCityState? with
      | none =>
          have hnone := List.findSome?_eq_none_iff.mp hbefore
          refine ⟨fun _ => ?_, fun _ ⟨part, hpart, hhas⟩ =>
            absurd hhas (findCityState?_eq_none_iff_not.mp (hnone part hpart))⟩
          obtain ⟨⟨city, state⟩, hfound⟩ : ∃ found, findCityState? (lastPart text) = some found := by
            rw [← Option.isSome_iff_exists]
            obtain ⟨city, state, hoccurs⟩ := h
            exact isSome_findCityState?_of_occursIn hoccurs
          refine shownFrom_of_found hblank ?_ (occursIn_of_findCityState? hfound)
          rw [hwhole, hfirst, hbefore, hfound]
          rfl
      | some found =>
          obtain ⟨city, state⟩ := found
          obtain ⟨part, hpart, hfound⟩ := List.exists_of_findSome?_eq_some hbefore
          have hoccurs := occursIn_of_findCityState? hfound
          refine ⟨fun hcase => ?_, fun _ _ => ⟨part, hpart, shownFrom_of_found hblank ?_ hoccurs⟩⟩
          · exact absurd ⟨city, state, hoccurs⟩ ((hcase.resolve_left hnot) part hpart)
          · rw [hwhole, hfirst, hbefore]
            rfl

/-- A city behind the last comma is shown, although the street could be read as one. -/
theorem redactAddress_lastPart_campinas
    : HasCityState (lastPart "Rua Um - AP 3, Campinas - SP")
      ∧ IsCityState (lastPart "Rua Um - AP 3, Campinas - SP")
      ∧ ShownFrom (lastPart "Rua Um - AP 3, Campinas - SP") "Rua Um - AP 3, Campinas - SP"
      ∧ redactAddress "Rua Um - AP 3, Campinas - SP" = "Campinas - SP" := by
  have hform : CityStateForm "Campinas" "SP" (lastPart "Rua Um - AP 3, Campinas - SP") :=
    wholeCityState?_eq_some_iff.mp (by decide +kernel)
  exact ⟨⟨_, _, hform.occursIn⟩, ⟨_, _, hform⟩,
    (redactAddress_lastPart ⟨_, _, hform.occursIn⟩).1 (.inl ⟨_, _, hform⟩), by decide +kernel⟩

/-- A street and a flat are shown in place of the city, as a postal code follows the state. -/
theorem not_shownFrom_lastPart
    : HasCityState (lastPart "Rua Um - AP 3, Campinas - SP 13000")
      ∧ redactAddress "Rua Um - AP 3, Campinas - SP 13000" = "Rua Um - AP"
      ∧ ¬ShownFrom (lastPart "Rua Um - AP 3, Campinas - SP 13000")
          "Rua Um - AP 3, Campinas - SP 13000" := by
  have hpart : lastPart "Rua Um - AP 3, Campinas - SP 13000" = "Campinas - SP 13000" := by
    decide +kernel
  have hshown : redactAddress "Rua Um - AP 3, Campinas - SP 13000" = "Rua Um - AP" := by
    decide +kernel
  have hoccurs : OccursIn "Campinas" "SP" "Campinas - SP 13000" :=
    occursIn_of_findCityState? (by decide +kernel)
  refine ⟨⟨_, _, hpart ▸ hoccurs⟩, hshown, ?_⟩
  rintro ⟨city, state, ⟨before, after, rest, htext, written, rfl, hform, -⟩, he⟩
  -- What is shown begins with a letter that the last part does not have.
  have hmem : 'R' ∈ city := by
    rw [hshown, cityStateText] at he
    cases hform with
    | intro begins chars ends blankBefore mark blankAfter first second =>
        cases city with
        | nil => cases begins
        | cons c city =>
            obtain ⟨rfl, -⟩ := List.cons.inj he
            exact List.mem_cons_self
  have hnot : 'R' ∉ lastPart "Rua Um - AP 3, Campinas - SP 13000" := by
    rw [hpart]
    decide
  refine hnot ?_
  rw [htext]
  cases hform with
  | intro begins chars ends blankBefore mark blankAfter first second => simp [hmem]

end LeasePapers.Redaction
