import LeasePapers.Proofs.Text.Braces
import LeasePapers.Text.Fold

/-! Texts apart from case. The characters that part names and words fold only from themselves, and a
text begins with another one apart from case if a piece of it has the same folded form.
-/

namespace LeasePapers.Text

-----------------------------------------------------------------------------------------
-- Characters
-----------------------------------------------------------------------------------------

/-- Whether a run carries some code point to that one. -/
def Run.reaches (run : Run) (code : Nat) : Bool :=
  run.image ≤ code && code ≤ run.image + (run.last - run.first)

/-- The code points that a table may carry to that one. -/
def preimages (table : List Run) (code : Nat) : List Nat :=
  (table.filter (fun run => run.reaches code)).map (fun run => run.first + (code - run.image))

/-- A code with an image is among those that have it. -/
theorem mem_preimages {table : List Run} {code target : Nat}
    (h : image? table code = some target)
    : code ∈ preimages table target := by
  obtain ⟨run, hrun, hcovers, rfl⟩ := exists_run_of_image? h
  simp only [Run.covers, Bool.and_eq_true, decide_eq_true_eq] at hcovers
  refine List.mem_map.mpr ⟨run, List.mem_filter.mpr ⟨hrun, ?_⟩, ?_⟩
  · simp only [Run.reaches, Bool.and_eq_true, decide_eq_true_eq]
    omega
  · omega

/-- A character that a table carries to another one comes from a preimage of it. -/
theorem toNat_of_mapChar {table : List Run} {c target : Char} (h : mapChar table c = target)
    (hzero : target.toNat ≠ 0)
    : c = target ∨ c.toNat ∈ preimages table target.toNat := by
  rw [mapChar] at h
  split at h
  · rename_i code hcode
    refine Or.inr (mem_preimages ?_)
    rw [hcode, ← h]
    by_cases hvalid : code.isValidChar
    · rw [Char.ofNat, dif_pos hvalid]
      rfl
    · refine absurd ?_ hzero
      rw [← h, Char.ofNat, dif_neg hvalid]
      rfl
  · exact Or.inl h

/-- Whether a character is its own folded form, and that of no other character. -/
def isCaseless (c : Char) : Bool :=
  c.toNat != 0 && foldChar c == c && (preimages foldRuns c.toNat).isEmpty

/-- A character without case is folded to itself. -/
theorem foldChar_of_isCaseless {c : Char} (h : isCaseless c = true) : foldChar c = c := by
  simp only [isCaseless, Bool.and_eq_true, beq_iff_eq] at h
  exact h.1.2

/-- A caseless character equals no other one apart from case. -/
theorem eq_of_foldChar_eq {c d : Char} (hc : isCaseless c = true) (h : foldChar d = foldChar c)
    : d = c := by
  rw [foldChar_of_isCaseless hc] at h
  simp only [isCaseless, Bool.and_eq_true, bne_iff_ne, List.isEmpty_iff] at hc
  rcases toNat_of_mapChar h hc.1.1 with hsame | hmem
  · exact hsame
  · rw [hc.2] at hmem
    cases hmem

/-- Blanks have no case. -/
theorem isCaseless_of_isBlank {c : Char} (h : isBlank c = true) : isCaseless c = true := by
  have hall : blanks.all isCaseless = true := by decide +kernel
  exact List.all_eq_true.mp hall c (mem_blanks h)

/-- Braces have no case. -/
theorem isCaseless_of_isBrace {c : Char} (h : isBrace c = true) : isCaseless c = true := by
  simp only [isBrace, Bool.or_eq_true, beq_iff_eq] at h
  rcases h with rfl | rfl <;> decide

/-- A class of caseless characters does not tell letter cases apart. -/
theorem class_foldChar {p : Char → Bool} (hp : ∀ c, p c = true → isCaseless c = true) (c : Char)
    : p (foldChar c) = p c := by
  cases hc : p c with
  | true => rw [foldChar_of_isCaseless (hp c hc), hc]
  | false =>
      cases hfold : p (foldChar c) with
      | false => rfl
      | true =>
          have hsame := foldChar_of_isCaseless (hp _ hfold)
          rw [eq_of_foldChar_eq (hp _ hfold) hsame.symm, hfold] at hc
          cases hc

/-- Folding makes no blank, and takes none away. -/
@[simp] theorem isBlank_foldChar (c : Char) : isBlank (foldChar c) = isBlank c :=
  class_foldChar (fun _ => isCaseless_of_isBlank) c

/-- Folding makes no brace, and takes none away. -/
@[simp] theorem isBrace_foldChar (c : Char) : isBrace (foldChar c) = isBrace c :=
  class_foldChar (fun _ => isCaseless_of_isBrace) c

/-- Characters that are folded alike are blanks together. -/
theorem isBlank_of_foldChar_eq {c d : Char} (h : foldChar c = foldChar d)
    : isBlank c = isBlank d := by
  rw [← isBlank_foldChar c, h, isBlank_foldChar]

/-- Characters that are folded alike are braces together. -/
theorem isBrace_of_foldChar_eq {c d : Char} (h : foldChar c = foldChar d)
    : isBrace c = isBrace d := by
  rw [← isBrace_foldChar c, h, isBrace_foldChar]

/-- Only two characters are folded to the letter of the conjunction. -/
theorem eq_letterE_of_foldChar {c : Char} (h : foldChar c = 'e') : c = 'e' ∨ c = 'E' := by
  have hpreimages : preimages foldRuns 'e'.toNat = ['E'.toNat] := by decide
  refine (toNat_of_mapChar h (by decide)).imp_right (fun hmem => ?_)
  rw [hpreimages, List.mem_singleton] at hmem
  exact Char.toNat_inj.mp hmem

-----------------------------------------------------------------------------------------
-- Texts
-----------------------------------------------------------------------------------------

/-- A text apart from case. -/
def folded (text : Text) : Text :=
  text.map foldChar

/-- The empty text is folded to itself. -/
@[simp] theorem folded_nil : folded [] = [] :=
  rfl

/-- A text is folded character by character. -/
@[simp] theorem folded_cons (c : Char) (rest : Text)
    : folded (c :: rest) = foldChar c :: folded rest :=
  rfl

/-- Texts are folded one by one. -/
@[simp] theorem folded_append (first second : Text)
    : folded (first ++ second) = folded first ++ folded second :=
  List.map_append

/-- Folding keeps the length. -/
@[simp] theorem length_folded (text : Text) : (folded text).length = text.length :=
  List.length_map _

/-- Only the empty text is folded to it. -/
@[simp] theorem folded_eq_nil {text : Text} : folded text = [] ↔ text = [] :=
  List.map_eq_nil_iff

/-- Folding keeps the words, by induction on the text. -/
theorem words_folded (text : Text) : words (folded text) = (words text).map folded := by
  have hpieces : ∀ text, pieces isBlank (folded text) = (pieces isBlank text).map folded := by
    intro text
    induction text with
    | nil => rfl
    | cons c rest ih =>
        rw [folded_cons, pieces, pieces, isBlank_foldChar, ih]
        split
        · simp
        · cases pieces isBlank rest <;> simp
  rw [words, words, hpieces, List.filter_map]
  congr 1
  exact List.filter_congr (fun piece _ => by simp)

/-- A character without case is in a folded text if and only if it is in the text. -/
theorem mem_folded {text : Text} {c : Char} (hc : isCaseless c = true)
    : c ∈ folded text ↔ c ∈ text := by
  rw [folded, List.mem_map]
  constructor
  · rintro ⟨d, hd, hfold⟩
    rw [← foldChar_of_isCaseless hc] at hfold
    exact eq_of_foldChar_eq hc hfold ▸ hd
  · intro hmem
    exact ⟨c, hmem, foldChar_of_isCaseless hc⟩

/-- What is dropped apart from case is a piece of the text with the same folded form, by induction
on it.
-/
theorem dropFolded?_eq_some_iff {lead text after : Text}
    : dropFolded? lead text = some after
      ↔ ∃ found, text = found ++ after ∧ folded found = folded lead := by
  induction lead generalizing text with
  | nil => cases text <;> simp [dropFolded?]
  | cons c lead ih =>
      cases text with
      | nil => simp [dropFolded?]
      | cons d rest =>
          rw [dropFolded?]
          by_cases hfold : foldChar c = foldChar d
          · rw [if_pos hfold, ih]
            constructor
            · rintro ⟨found, rfl, hfound⟩
              exact ⟨d :: found, rfl, by simp [hfold, hfound]⟩
            · rintro ⟨found, htext, hfound⟩
              cases found with
              | nil => simp at hfound
              | cons first found =>
                  obtain ⟨rfl, rfl⟩ := List.cons.inj htext
                  exact ⟨found, rfl, (List.cons.inj hfound).2⟩
          · rw [if_neg hfold]
            simp only [reduceCtorEq, false_iff, not_exists, not_and]
            rintro found htext hfound
            cases found with
            | nil => simp at hfound
            | cons first found =>
                obtain ⟨rfl, rfl⟩ := List.cons.inj htext
                exact hfold (List.cons.inj hfound).1.symm

/-- A text begins with another one apart from case if its folded form begins with the other's. -/
theorem isSome_dropFolded? {lead text : Text}
    : (dropFolded? lead text).isSome = true ↔ folded lead <+: folded text := by
  rw [Option.isSome_iff_exists]
  constructor
  · rintro ⟨after, h⟩
    obtain ⟨found, rfl, hfound⟩ := dropFolded?_eq_some_iff.mp h
    rw [folded_append, hfound]
    exact List.prefix_append _ _
  · intro h
    refine ⟨text.drop lead.length, dropFolded?_eq_some_iff.mpr ⟨text.take lead.length, ?_, ?_⟩⟩
    · rw [List.take_append_drop]
    · rw [folded, List.map_take, ← folded, List.prefix_iff_eq_take.mp h, length_folded]

-----------------------------------------------------------------------------------------
-- Bare texts
-----------------------------------------------------------------------------------------

/-- A text without its braces and apart from case. -/
def bare (text : Text) : Text :=
  folded (withoutBraces text)

/-- The empty text is compared as it is. -/
@[simp] theorem bare_nil : bare [] = [] :=
  rfl

/-- A brace is not compared. -/
theorem bare_cons_of_isBrace {c : Char} (rest : Text) (h : isBrace c = true)
    : bare (c :: rest) = bare rest := by
  simp [bare, withoutBraces, h]

/-- Any other character is compared as it is folded. -/
theorem bare_cons {c : Char} (rest : Text) (h : isBrace c = false)
    : bare (c :: rest) = foldChar c :: bare rest := by
  simp [bare, withoutBraces, h]

/-- Texts are compared one by one. -/
@[simp] theorem bare_append (first second : Text)
    : bare (first ++ second) = bare first ++ bare second := by
  simp [bare, withoutBraces]

/-- A text without braces is compared as it is folded. -/
theorem bare_of_braceFree {text : Text} (h : BraceFree text) : bare text = folded text := by
  rw [bare, withoutBraces_of_braceFree h]

/-- Braces are the same in every case, so they can be taken out of the folded form. -/
theorem bare_eq_withoutBraces (text : Text) : bare text = withoutBraces (folded text) := by
  rw [bare, withoutBraces, withoutBraces, folded, folded, List.filter_map]
  congr 1
  refine List.filter_congr (fun c _ => ?_)
  simp [isBrace_foldChar]

/-- Texts that are folded alike are compared alike. -/
theorem bare_congr {first second : Text} (h : folded first = folded second)
    : bare first = bare second := by
  rw [bare_eq_withoutBraces, bare_eq_withoutBraces, h]

/-- No brace is compared. -/
theorem braceFree_bare (text : Text) : BraceFree (bare text) := by
  rw [bare_eq_withoutBraces]
  exact braceFree_withoutBraces _

/-- No more is compared than there is. -/
theorem length_bare_le (text : Text) : (bare text).length ≤ text.length := by
  rw [bare, length_folded]
  exact List.length_filter_le _ _

/-- Where there are no blanks, none are compared. -/
theorem not_blank_bare {text : Text} (h : ∀ c ∈ text, isBlank c = false)
    : ∀ c ∈ bare text, isBlank c = false := by
  intro c hc
  obtain ⟨d, hd, rfl⟩ := List.mem_map.mp hc
  rw [isBlank_foldChar]
  exact h d (List.mem_filter.mp hd).1

/-- A text that is compared as it is folded has no brace. -/
theorem braceFree_of_folded_eq_bare {text : Text} (h : folded text = bare text)
    : BraceFree text := by
  intro c hmem
  rw [← isBrace_foldChar]
  exact braceFree_bare text _ (h ▸ List.mem_map_of_mem hmem)

/-- What has no braces is read at the beginning of a text only before its first brace, by induction
on the text.
-/
theorem prefix_bare_or_eq {part text after : Text} (hpart : BraceFree part)
    (h : part <+: folded (text ++ after))
    : part <+: bare text ∨ folded text = bare text := by
  induction text generalizing part with
  | nil => exact Or.inr rfl
  | cons c rest ih =>
      rw [List.cons_append, folded_cons, List.prefix_cons_iff] at h
      rcases h with rfl | ⟨more, rfl, hmore⟩
      · exact Or.inl (List.nil_prefix)
      · rw [braceFree_cons, isBrace_foldChar] at hpart
        rw [bare_cons rest hpart.1, folded_cons]
        rcases ih hpart.2 hmore with hprefix | hsame
        · exact Or.inl (List.cons_prefix_cons.mpr ⟨rfl, hprefix⟩)
        · exact Or.inr (by rw [hsame])

/-- An end of a bare text is what is bare of an end of the text that begins with no brace, by
induction on the text.
-/
theorem exists_suffix_of_bare {text part : Text} (h : part <:+ bare text) (hne : part ≠ [])
    : ∃ c rest, c :: rest <:+ text ∧ isBrace c = false ∧ bare (c :: rest) = part := by
  induction text with
  | nil => exact absurd (List.suffix_nil.mp h) hne
  | cons c rest ih =>
      have hlater : part <:+ bare rest
          → ∃ d more, d :: more <:+ c :: rest ∧ isBrace d = false ∧ bare (d :: more) = part := by
        intro hrest
        obtain ⟨d, more, hmore, hd, hbare⟩ := ih hrest
        exact ⟨d, more, hmore.trans (List.suffix_cons _ _), hd, hbare⟩
      cases hbrace : isBrace c with
      | true =>
          rw [bare_cons_of_isBrace _ hbrace] at h
          exact hlater h
      | false =>
          rw [bare_cons _ hbrace, List.suffix_cons_iff] at h
          rcases h with hwhole | hrest
          · exact ⟨c, rest, List.suffix_rfl, hbrace, by rw [bare_cons _ hbrace, hwhole]⟩
          · exact hlater hrest

end LeasePapers.Text
