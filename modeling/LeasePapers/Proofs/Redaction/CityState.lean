import Mathlib.Data.List.DropRight
import LeasePapers.Proofs.Text.Words
import LeasePapers.Redaction.Address

/-! The cities and states that stand in a text. What is written as one is said apart from the
search, which finds the first that stands in the text. None reaches over a comma or begins or ends
with a blank, so the first one in a text is the first one in its parts.
-/

namespace LeasePapers.Redaction

-----------------------------------------------------------------------------------------
-- Cities and states as they are written
-----------------------------------------------------------------------------------------

/-- A city and a state as they are written: letters and spaces, beginning with a letter and ending
with no space, then a dash between blanks, then two letters. -/
inductive CityStateForm (city : Text) : Text → Text → Prop
  | intro {before after : Text} {dash a b : Char} (begins : city.head?.any Text.isLetter = true)
      (chars : ∀ c ∈ city, isCityChar c = true) (ends : city.getLast? ≠ some ' ')
      (blankBefore : ∀ c ∈ before, Text.isBlank c = true) (mark : isDash dash = true)
      (blankAfter : ∀ c ∈ after, Text.isBlank c = true) (first : Text.isLetter a = true)
      (second : Text.isLetter b = true)
    : CityStateForm city [a, b] (city ++ before ++ dash :: (after ++ [a, b]))

/-- The city and the state stand at the beginning of the text, and a word ends after them. -/
def BeginsWith (city state : Text) (text rest : Text) : Prop :=
  ∃ written, text = written ++ rest ∧ CityStateForm city state written
    ∧ Text.wordEndsBefore rest = true

/-- The city and the state stand somewhere in the text, and a word ends after them. -/
def OccursIn (city state text : Text) : Prop :=
  ∃ before after rest, text = before ++ after ∧ BeginsWith city state after rest

-----------------------------------------------------------------------------------------
-- Characters
-----------------------------------------------------------------------------------------

/-- What stands between words: the blanks, the dashes and the comma. -/
def separators : List Char :=
  ['-', '–', ','] ++ Text.blanks

/-- No separator is a letter, or belongs to a word. -/
theorem separators_parting
    : separators.all (fun c => !Text.isLetter c && !Text.isWordChar c) = true := by
  decide +kernel

/-- A separator is no letter, and belongs to no word. -/
theorem parting_of_separator {c : Char} (h : c ∈ separators)
    : Text.isLetter c = false ∧ Text.isWordChar c = false := by
  simpa using List.all_eq_true.mp separators_parting c h

/-- Blanks are separators. -/
theorem separator_of_isBlank {c : Char} (h : Text.isBlank c = true) : c ∈ separators :=
  List.mem_append_right _ (Text.mem_blanks h)

/-- No letter is a blank. -/
theorem isBlank_of_isLetter {c : Char} (h : Text.isLetter c = true) : Text.isBlank c = false := by
  cases hblank : Text.isBlank c with
  | false => rfl
  | true =>
      rw [(parting_of_separator (separator_of_isBlank hblank)).1] at h
      cases h

/-- No dash is a letter. -/
theorem isLetter_of_isDash {c : Char} (h : isDash c = true) : Text.isLetter c = false := by
  obtain rfl | rfl : c = '-' ∨ c = '–' := by simpa [isDash] using h
  · exact (parting_of_separator (by simp [separators])).1
  · exact (parting_of_separator (by simp [separators])).1

/-- A comma is no letter. -/
theorem isLetter_comma : Text.isLetter ',' = false :=
  (parting_of_separator (by simp [separators])).1

/-- No dash stands in the name of a city. -/
theorem isCityChar_of_isDash {c : Char} (h : isDash c = true) : isCityChar c = false := by
  have hspace : c ≠ ' ' := by
    rintro rfl
    cases h
  simp [isCityChar, isLetter_of_isDash h, hspace]

/-- No dash is a blank. -/
theorem isBlank_of_isDash {c : Char} (h : isDash c = true) : Text.isBlank c = false :=
  Text.isBlank_of_class (by decide) h

/-- The only blank in the name of a city is the space. -/
theorem eq_space_of_isCityChar {c : Char} (h : isCityChar c = true) (hblank : Text.isBlank c = true)
    : c = ' ' := by
  obtain hletter | hspace : Text.isLetter c = true ∨ c = ' ' := by simpa [isCityChar] using h
  · rw [isBlank_of_isLetter hletter] at hblank
    cases hblank
  · exact hspace

-----------------------------------------------------------------------------------------
-- The search at one place
-----------------------------------------------------------------------------------------

/-- The spaces behind a city are taken away. -/
theorem withoutTrailingSpaces_append {city spaces : Text} (hcity : city.getLast? ≠ some ' ')
    (hspaces : ∀ c ∈ spaces, c = ' ')
    : withoutTrailingSpaces (city ++ spaces) = city := by
  have hback : ∀ c ∈ spaces.reverse, (c == ' ') = true := by simpa using hspaces
  have hkept : city.reverse.dropWhile (· == ' ') = city.reverse := by
    rw [List.dropWhile_eq_self_iff]
    intro hpos hspace
    refine hcity ?_
    rw [← List.head?_reverse, List.head?_eq_getElem?, List.getElem?_eq_getElem hpos]
    simpa using hspace
  rw [withoutTrailingSpaces, List.reverse_append, List.dropWhile_append_of_pos hback, hkept,
    List.reverse_reverse]

/-- What is taken off a text is spaces, and none is left at its end. -/
theorem exists_withoutTrailingSpaces (text : Text)
    : ∃ spaces, text = withoutTrailingSpaces text ++ spaces ∧ (∀ c ∈ spaces, c = ' ')
        ∧ (withoutTrailingSpaces text).getLast? ≠ some ' ' := by
  refine ⟨text.rtakeWhile (· == ' '), List.rdropWhile_append_rtakeWhile.symm,
    fun c hc => by simpa using List.mem_rtakeWhile_imp hc, fun hlast => ?_⟩
  have hne : text.rdropWhile (· == ' ') ≠ [] := by
    intro hnil
    rw [withoutTrailingSpaces, ← List.rdropWhile, hnil] at hlast
    cases hlast
  rw [withoutTrailingSpaces, ← List.rdropWhile, List.getLast?_eq_some_getLast hne] at hlast
  exact List.rdropWhile_last_not _ _ hne (by simp [Option.some.inj hlast])

/-- A state is two letters at the end of a word. -/
theorem stateAt?_eq_some_iff {text state rest : Text}
    : stateAt? text = some (state, rest)
      ↔ ∃ a b, text = a :: b :: rest ∧ state = [a, b] ∧ Text.isLetter a = true
          ∧ Text.isLetter b = true ∧ Text.wordEndsBefore rest = true := by
  constructor
  · intro h
    rw [stateAt?.eq_def] at h
    split at h
    · rename_i a b more
      split at h
      · rename_i hletters
        obtain ⟨rfl, rfl⟩ := Prod.mk.inj (Option.some.inj h)
        simp only [Bool.and_eq_true] at hletters
        exact ⟨a, b, rfl, rfl, hletters.1.1, hletters.1.2, hletters.2⟩
      · cases h
    · cases h
  · rintro ⟨a, b, rfl, rfl, ha, hb, hrest⟩
    simp [stateAt?, ha, hb, hrest]

/-- The name of a city begins with the letter that the text begins with. -/
theorem head?_city {text : Text} (h : text.head?.any Text.isLetter = true)
    : (withoutTrailingSpaces (text.takeWhile isCityChar)).head?.any Text.isLetter = true := by
  obtain ⟨spaces, hrun, hspaces, -⟩ := exists_withoutTrailingSpaces (text.takeWhile isCityChar)
  cases text with
  | nil => cases h
  | cons c rest =>
      have hletter : Text.isLetter c = true := h
      rw [List.takeWhile_cons_of_pos (by simp [isCityChar, hletter])] at hrun ⊢
      cases hcity : withoutTrailingSpaces (c :: rest.takeWhile isCityChar) with
      | nil =>
          rw [hcity, List.nil_append] at hrun
          obtain rfl := hspaces c (hrun ▸ List.mem_cons_self)
          have hspace : Text.isLetter ' ' = false := by decide
          rw [hspace] at hletter
          cases hletter
      | cons d city =>
          rw [hcity] at hrun
          obtain ⟨rfl, -⟩ := List.cons.inj hrun
          exact hletter

/-- What is found at the beginning of a text stands there. -/
theorem beginsWith_of_cityStateAt? {text city state rest : Text}
    (h : cityStateAt? text = some (city, state, rest))
    : BeginsWith city state text rest := by
  rw [cityStateAt?] at h
  split at h
  · rename_i hbegins
    simp only at h
    split at h
    · rename_i dash more hdash
      split at h
      · rename_i hmark
        obtain ⟨⟨found, after⟩, hstate, he⟩ := Option.map_eq_some_iff.mp h
        obtain ⟨rfl, rfl, rfl⟩ := he
        obtain ⟨a, b, hmore, rfl, ha, hb, hend⟩ := stateAt?_eq_some_iff.mp hstate
        obtain ⟨spaces, hrun, hspaces, hlast⟩ :=
          exists_withoutTrailingSpaces (text.takeWhile isCityChar)
        have hmoreEq : more = more.takeWhile Text.isBlank ++ a :: b :: after := by
          rw [← hmore, List.takeWhile_append_dropWhile]
        have hgap : text.dropWhile isCityChar
            = (text.dropWhile isCityChar).takeWhile Text.isBlank ++ dash :: more := by
          rw [← hdash, List.takeWhile_append_dropWhile]
        have htext : text = withoutTrailingSpaces (text.takeWhile isCityChar)
            ++ (spaces ++ (text.dropWhile isCityChar).takeWhile Text.isBlank)
            ++ dash :: (more.takeWhile Text.isBlank ++ [a, b]) ++ after := by
          calc text = text.takeWhile isCityChar ++ text.dropWhile isCityChar :=
                List.takeWhile_append_dropWhile.symm
            _ = (withoutTrailingSpaces (text.takeWhile isCityChar) ++ spaces)
                ++ ((text.dropWhile isCityChar).takeWhile Text.isBlank
                  ++ dash :: (more.takeWhile Text.isBlank ++ a :: b :: after)) := by
              rw [← hrun, ← hmoreEq, ← hgap]
            _ = _ := by simp
        refine ⟨_, htext, .intro (head?_city hbegins) (fun c hc => ?_) hlast ?_ hmark
          (fun c hc => List.mem_takeWhile_imp hc) ha hb, hend⟩
        · refine List.mem_takeWhile_imp (l := text) ?_
          rw [hrun]
          exact List.mem_append_left _ hc
        · rw [List.forall_mem_append]
          refine ⟨fun c hc => ?_, fun c hc => List.mem_takeWhile_imp hc⟩
          rw [hspaces c hc]
          rfl
      · cases h
    · cases h
  · cases h

/-- A run of characters of a class is taken and dropped as far as it goes. -/
theorem run_append {p : Char → Bool} {run rest : Text} (hrun : ∀ c ∈ run, p c = true)
    (hrest : ∀ c ∈ rest.head?, p c = false)
    : (run ++ rest).takeWhile p = run ∧ (run ++ rest).dropWhile p = rest := by
  rw [List.takeWhile_append_of_pos hrun, List.dropWhile_append_of_pos hrun]
  cases rest with
  | nil => simp
  | cons c rest => simp [hrest c rfl]

/-- What stands at the beginning of a text is found there. -/
theorem cityStateAt?_of_beginsWith {text city state rest : Text}
    (h : BeginsWith city state text rest)
    : cityStateAt? text = some (city, state, rest) := by
  obtain ⟨written, rfl, hform, hend⟩ := h
  cases hform with
  | @intro before after dash a b begins chars ends blankBefore mark blankAfter first second =>
      have hbegins : (city ++ before ++ dash :: (after ++ [a, b]) ++ rest).head?.any Text.isLetter
          = true := by
        cases city with
        | nil => cases begins
        | cons c city => exact begins
      -- The name runs on into the spaces behind it, and up to another blank or the dash.
      have hspaces : ∀ c ∈ before.takeWhile isCityChar, c = ' ' := fun c hc =>
        eq_space_of_isCityChar (List.mem_takeWhile_imp hc)
          (blankBefore c ((List.takeWhile_prefix _).subset hc))
      have hblanks : ∀ c ∈ before.dropWhile isCityChar, Text.isBlank c = true :=
        fun c hc => blankBefore c ((List.dropWhile_suffix _).subset hc)
      have hrunChars : ∀ c ∈ city ++ before.takeWhile isCityChar, isCityChar c = true := by
        rw [List.forall_mem_append]
        exact ⟨chars, fun c hc => List.mem_takeWhile_imp hc⟩
      have hstop : ∀ c ∈ (before.dropWhile isCityChar ++ dash :: (after ++ a :: b :: rest)).head?,
          isCityChar c = false := by
        intro c hc
        have hnot := List.head?_dropWhile_not isCityChar before
        cases hgap : before.dropWhile isCityChar with
        | nil =>
            rw [hgap] at hc
            obtain rfl := Option.some.inj hc
            exact isCityChar_of_isDash mark
        | cons d gap =>
            rw [hgap] at hc hnot
            obtain rfl := Option.some.inj hc
            simpa using hnot
      have htext : city ++ before ++ dash :: (after ++ [a, b]) ++ rest
          = (city ++ before.takeWhile isCityChar)
            ++ (before.dropWhile isCityChar ++ dash :: (after ++ a :: b :: rest)) := by
        simp only [List.append_assoc, List.cons_append, List.nil_append]
        rw [← List.append_assoc (before.takeWhile isCityChar), List.takeWhile_append_dropWhile]
      obtain ⟨htake, hdrop⟩ := run_append hrunChars hstop
      have hgap := (@run_append _ _ (dash :: (after ++ a :: b :: rest)) hblanks
        (fun c hc => by rw [← Option.some.inj hc]; exact isBlank_of_isDash mark)).2
      have hbehind := (@run_append _ _ (a :: b :: rest) blankAfter
        (fun c hc => by rw [← Option.some.inj hc]; exact isBlank_of_isLetter first)).2
      have hstate : stateAt? (a :: b :: rest) = some ([a, b], rest) :=
        stateAt?_eq_some_iff.mpr ⟨a, b, rfl, rfl, first, second, hend⟩
      rw [cityStateAt?, if_pos hbegins, htext, htake, hdrop, hgap,
        withoutTrailingSpaces_append ends hspaces]
      simp only [mark, if_true, hbehind, hstate, Option.map_some]

/-- What is read at a place is the city and state that a text begins with. -/
theorem cityStateAt?_eq_some_iff {text city state rest : Text}
    : cityStateAt? text = some (city, state, rest) ↔ BeginsWith city state text rest :=
  ⟨beginsWith_of_cityStateAt?, cityStateAt?_of_beginsWith⟩

-----------------------------------------------------------------------------------------
-- The search through a text
-----------------------------------------------------------------------------------------

/-- A city begins with a letter, so other characters are passed over. -/
theorem findCityState?_cons_of_not_letter {c : Char} (h : Text.isLetter c = false) (rest : Text)
    : findCityState? (c :: rest) = findCityState? rest := by
  have hnone : cityStateAt? (c :: rest) = none := by
    rw [cityStateAt?, if_neg (by simp [h])]
  rw [findCityState?, hnone]

/-- What is found stands in the text, by induction on it. -/
theorem occursIn_of_findCityState? {text city state : Text}
    (h : findCityState? text = some (city, state))
    : OccursIn city state text := by
  induction text with
  | nil => cases h
  | cons c text ih =>
      rw [findCityState?] at h
      split at h
      · rename_i foundCity foundState rest hfound
        obtain ⟨rfl, rfl⟩ := Prod.mk.inj (Option.some.inj h)
        exact ⟨[], c :: text, rest, rfl, cityStateAt?_eq_some_iff.mp hfound⟩
      · obtain ⟨before, after, rest, rfl, hbegins⟩ := ih h
        exact ⟨c :: before, after, rest, rfl, hbegins⟩

/-- Where a city and a state stand, some are found, by induction on the text before them. -/
theorem isSome_findCityState?_of_occursIn {text city state : Text} (h : OccursIn city state text)
    : (findCityState? text).isSome = true := by
  obtain ⟨before, after, rest, rfl, hbegins⟩ := h
  induction before with
  | nil =>
      have hfound := cityStateAt?_of_beginsWith hbegins
      cases after with
      | nil => cases hfound
      | cons c after => rw [List.nil_append, findCityState?, hfound]; rfl
  | cons c before ih =>
      rw [List.cons_append, findCityState?]
      split
      · rfl
      · exact ih

/-- Nothing is found if and only if nothing occurs. -/
theorem findCityState?_eq_none_iff {text : Text}
    : findCityState? text = none ↔ ∀ city state, ¬OccursIn city state text := by
  constructor
  · intro h city state hoccurs
    have hsome := isSome_findCityState?_of_occursIn hoccurs
    rw [h] at hsome
    cases hsome
  · intro h
    cases hfound : findCityState? text with
    | none => rfl
    | some found => exact absurd (occursIn_of_findCityState? hfound) (h _ _)

/-- A text in the form of a city with its state holds them. -/
theorem CityStateForm.occursIn {city state text : Text} (h : CityStateForm city state text)
    : OccursIn city state text :=
  ⟨[], text, [], rfl, text, (List.append_nil text).symm, h, rfl⟩

-----------------------------------------------------------------------------------------
-- The parts of a text
-----------------------------------------------------------------------------------------

/-- A word ends before the text, and no city and state reaches into it from outside. -/
structure Bars (text : Text) : Prop where
  ends : Text.wordEndsBefore text = true
  outside {city state begun more : Text} (form : CityStateForm city state (begun ++ more))
    (reaches : more <+: text)
    : more = []

/-- The form of a city with its state has only the characters of its parts. -/
theorem CityStateForm.not_mem {city state text : Text} (h : CityStateForm city state text) {c : Char}
    (hcity : isCityChar c = false) (hblank : Text.isBlank c = false) (hdash : isDash c = false)
    : c ∉ text := by
  have hletter : Text.isLetter c = false := by
    simp only [isCityChar, Bool.or_eq_false_iff] at hcity
    exact hcity.1
  have hdiffers : ∀ {p : Char → Bool} {d : Char}, p c = false → p d = true → ¬c = d := by
    rintro p d hc hd rfl
    rw [hc] at hd
    cases hd
  cases h with
  | intro begins chars ends blankBefore mark blankAfter first second =>
      simp only [List.mem_append, List.mem_cons, List.not_mem_nil, or_false, not_or]
      exact ⟨⟨fun hmem => hdiffers hcity (chars c hmem) rfl,
        fun hmem => hdiffers hblank (blankBefore c hmem) rfl⟩, hdiffers hdash mark,
        fun hmem => hdiffers hblank (blankAfter c hmem) rfl, hdiffers hletter first,
        hdiffers hletter second⟩

/-- The form of a city with its state ends with a letter. -/
theorem CityStateForm.isLetter_getLast? {city state text : Text} (h : CityStateForm city state text)
    : ∀ c ∈ text.getLast?, Text.isLetter c = true := by
  cases h with
  | @intro before after dash a b begins chars ends blankBefore mark blankAfter first second =>
      have hlast : city ++ before ++ dash :: (after ++ [a, b])
          = (city ++ before ++ dash :: (after ++ [a])) ++ [b] := by simp
      rw [hlast, List.getLast?_concat]
      intro c hc
      rwa [← Option.some.inj hc]

/-- No city and state reaches over a comma. -/
theorem bars_comma (rest : Text) : Bars (',' :: rest) where
  ends := by
    have hword : Text.isWordChar ',' = false := (parting_of_separator (by simp [separators])).2
    simp [Text.wordEndsBefore, hword]
  outside := by
    rintro city state begun (- | ⟨c, more⟩) form reaches
    · rfl
    · obtain ⟨rfl, -⟩ := List.cons_prefix_cons.mp reaches
      have hcity : isCityChar ',' = false := by simp [isCityChar, isLetter_comma]
      exact absurd (by simp) (form.not_mem hcity (by decide) (by decide))

/-- No city and state ends with a blank. -/
theorem bars_blanks {blanks : Text} (h : ∀ c ∈ blanks, Text.isBlank c = true) : Bars blanks where
  ends := by
    cases blanks with
    | nil => rfl
    | cons c blanks =>
        have hword : Text.isWordChar c = false :=
          (parting_of_separator (separator_of_isBlank (h c List.mem_cons_self))).2
        simp [Text.wordEndsBefore, hword]
  outside := by
    intro city state begun more form reaches
    obtain rfl | ⟨initial, last, rfl⟩ := List.eq_nil_or_concat more
    · rfl
    · have hletter := form.isLetter_getLast? last
        (by simp)
      have hblank := h last (reaches.subset (by simp))
      rw [isBlank_of_isLetter hletter] at hblank
      cases hblank

/-- In front of a bar a city and a state stand as they stand at the end of a text. -/
theorem cityStateAt?_append {after : Text} (h : Bars after) (text : Text)
    : cityStateAt? (text ++ after)
      = (cityStateAt? text).map (fun (city, state, rest) => (city, state, rest ++ after)) := by
  have hends : ∀ rest, Text.wordEndsBefore (rest ++ after) = Text.wordEndsBefore rest := by
    intro rest
    cases rest with
    | nil => exact h.ends
    | cons c rest => rfl
  apply Option.ext
  rintro ⟨city, state, rest⟩
  rw [cityStateAt?_eq_some_iff, Option.map_eq_some_iff]
  constructor
  · rintro ⟨written, htext, hform, hend⟩
    obtain ⟨more, rfl, rfl⟩ | ⟨more, rfl, rfl⟩ := List.append_eq_append_iff.mp htext
    · obtain rfl := h.outside hform (List.prefix_append more rest)
      rw [List.append_nil] at hform
      refine ⟨(city, state, []), cityStateAt?_eq_some_iff.mpr ?_, rfl⟩
      exact ⟨text, (List.append_nil text).symm, hform, rfl⟩
    · rw [hends] at hend
      exact ⟨(city, state, more), cityStateAt?_eq_some_iff.mpr ⟨written, rfl, hform, hend⟩, rfl⟩
  · rintro ⟨⟨foundCity, foundState, more⟩, hfound, he⟩
    obtain ⟨rfl, rfl, rfl⟩ := he
    obtain ⟨written, rfl, hform, hend⟩ := cityStateAt?_eq_some_iff.mp hfound
    exact ⟨written, by rw [List.append_assoc], hform, by rw [hends, hend]⟩

/-- The first city and state in front of a bar or behind it, by induction on the text before it. -/
theorem findCityState?_append {after : Text} (h : Bars after) (text : Text)
    : findCityState? (text ++ after) = (findCityState? text).or (findCityState? after) := by
  induction text with
  | nil => rfl
  | cons c text ih =>
      have hhere := cityStateAt?_append h (c :: text)
      rw [List.cons_append] at hhere
      rw [List.cons_append, findCityState?, findCityState?, hhere, ih]
      cases cityStateAt? (c :: text) with
      | none => rfl
      | some found => rfl

/-- The first city and state of a text is the first one in its parts, by induction on them. -/
theorem findCityState?_join (parts : List Text)
    : findCityState? (Text.join [','] parts) = parts.findSome? findCityState? := by
  match parts with
  | [] => rfl
  | [part] =>
      rw [Text.join, List.findSome?_cons]
      cases findCityState? part <;> rfl
  | part :: next :: rest =>
      rw [Text.join, List.append_assoc, List.singleton_append,
        findCityState?_append (bars_comma _), findCityState?_cons_of_not_letter isLetter_comma,
        findCityState?_join (next :: rest), List.findSome?_cons (a := part)]
      cases findCityState? part <;> rfl

/-- Blanks in front are passed over, by induction on the blanks. -/
theorem findCityState?_of_blank {blanks : Text} (h : ∀ c ∈ blanks, Text.isBlank c = true)
    (rest : Text)
    : findCityState? (blanks ++ rest) = findCityState? rest := by
  induction blanks with
  | nil => rfl
  | cons c blanks ih =>
      rw [List.forall_mem_cons] at h
      have hletter : Text.isLetter c = false := by
        cases hletter : Text.isLetter c with
        | false => rfl
        | true =>
            rw [isBlank_of_isLetter hletter] at h
            cases h.1
      rw [List.cons_append, findCityState?_cons_of_not_letter hletter, ih h.2]

/-- Blanks around a text hold no city and state. -/
theorem findCityState?_trim (text : Text) : findCityState? (Text.trim text) = findCityState? text := by
  have hstart : ∀ c ∈ text.takeWhile Text.isBlank, Text.isBlank c = true :=
    fun c hc => List.mem_takeWhile_imp hc
  have hend : ∀ c ∈ (Text.trimStart text).rtakeWhile Text.isBlank, Text.isBlank c = true :=
    fun c hc => List.mem_rtakeWhile_imp hc
  have hnone : findCityState? ((Text.trimStart text).rtakeWhile Text.isBlank) = none := by
    have hblank := findCityState?_of_blank hend []
    rwa [List.append_nil] at hblank
  have htrim : Text.trimStart text
      = Text.trim text ++ (Text.trimStart text).rtakeWhile Text.isBlank :=
    List.rdropWhile_append_rtakeWhile.symm
  calc findCityState? (Text.trim text)
      = findCityState? (Text.trimStart text) := by
        conv_rhs => rw [htrim, findCityState?_append (bars_blanks hend), hnone, Option.or_none]
    _ = findCityState? (text.takeWhile Text.isBlank ++ Text.trimStart text) :=
        (findCityState?_of_blank hstart _).symm
    _ = findCityState? text := by rw [Text.trimStart, List.takeWhile_append_dropWhile]

end LeasePapers.Redaction
