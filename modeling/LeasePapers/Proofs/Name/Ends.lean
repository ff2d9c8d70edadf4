import LeasePapers.Proofs.Name.Entry

/-! The ends of a free text of names. Where it begins with a word, and not with a comma or `e`, the
first of its names begins with that word, and so it is at the end. No name is longer than the text.
-/

namespace LeasePapers.Name

-----------------------------------------------------------------------------------------
-- The first and the last token
-----------------------------------------------------------------------------------------

/-- Only an empty run has no token. -/
theorem ofRun_eq_nil_iff {run : Text} : Token.ofRun run = [] ↔ run = [] := by
  rw [Token.ofRun]
  split
  · simp_all
  · split <;> simp_all

/-- If the first token is a word, it is the whole run. -/
theorem ofRun_append_of_word {run word : Text} {tokens more : List Token} (hrun : run ≠ [])
    (h : Token.ofRun run ++ tokens = .word word :: more)
    : word = run ∧ more = tokens := by
  rw [Token.ofRun, if_neg hrun] at h
  split at h
  · simp at h
  · obtain ⟨hword, hmore⟩ := List.cons.inj h
    exact ⟨(Token.word.inj hword).symm, hmore.symm⟩

/-- Only blanks have no tokens, by induction on the text. -/
theorem blank_of_tokensAfter {run text : Text} (h : tokensAfter run text = [])
    : run = [] ∧ ∀ c ∈ text, Text.isBlank c = true := by
  induction text generalizing run with
  | nil => exact ⟨ofRun_eq_nil_iff.mp h, by simp⟩
  | cons c rest ih =>
      rcases tokensAfter_cons run c rest with ⟨kind, hc⟩ | ⟨hblank, hc⟩ | ⟨-, hc⟩
      · simp [hc] at h
      · rw [hc, List.append_eq_nil_iff, ofRun_eq_nil_iff] at h
        exact ⟨h.1, List.forall_mem_cons.mpr ⟨hblank, (ih h.2).2⟩⟩
      · rw [hc] at h
        simpa using (ih h).1

/-- Where a word has begun and it is the first token, the text begins with it, and only blanks
follow it if it is the only one; by induction on the text.
-/
theorem append_of_tokensAfter {run text word : Text} {more : List Token} (hrun : run ≠ [])
    (h : tokensAfter run text = .word word :: more)
    : ∃ after, run ++ text = word ++ after ∧ (more = [] → ∀ c ∈ after, Text.isBlank c = true) := by
  induction text generalizing run with
  | nil =>
      rw [tokensAfter, ← List.append_nil (Token.ofRun run)] at h
      obtain ⟨rfl, -⟩ := ofRun_append_of_word hrun h
      exact ⟨[], rfl, by simp⟩
  | cons c rest ih =>
      rcases tokensAfter_cons run c rest with ⟨kind, hc⟩ | ⟨hblank, hc⟩ | ⟨-, hc⟩
      · obtain ⟨rfl, rfl⟩ := ofRun_append_of_word hrun (hc ▸ h)
        exact ⟨c :: rest, rfl, by simp⟩
      · obtain ⟨rfl, rfl⟩ := ofRun_append_of_word hrun (hc ▸ h)
        refine ⟨c :: rest, rfl, fun hnil => ?_⟩
        exact List.forall_mem_cons.mpr ⟨hblank, (blank_of_tokensAfter hnil).2⟩
      · rw [hc] at h
        obtain ⟨after, hafter, hblanks⟩ := ih (by simp) h
        exact ⟨after, by rw [← hafter, List.append_cons], hblanks⟩

/-- A text that ends in no blank ends in its last token, if that is a word, by induction on it. -/
theorem suffix_of_tokensAfter {run text word : Text} {before : List Token}
    (hend : ∀ c ∈ text.getLast?, Text.isBlank c = false)
    (h : tokensAfter run text = before ++ [.word word])
    : word <:+ run ++ text := by
  induction text generalizing run before with
  | nil =>
      have hmem : Token.word word ∈ Token.ofRun run := by
        rw [tokensAfter] at h
        simp [h]
      obtain ⟨rfl, -⟩ := word_of_ofRun hmem
      exact ⟨[], (List.append_nil _).symm⟩
  | cons c rest ih =>
      have hrest : ∀ d ∈ rest.getLast?, Text.isBlank d = false :=
        fun d hd => hend d (List.mem_getLast?_cons hd)
      have hlater : ∀ tokens, tokens ++ tokensAfter [] rest = before ++ [.word word]
          → tokensAfter [] rest ≠ [] → word <:+ run ++ c :: rest := by
        intro tokens htokens hne
        obtain ⟨others, last, hlast⟩ := (List.eq_nil_or_concat _).resolve_left hne
        rw [List.concat_eq_append] at hlast
        rw [hlast, ← List.append_assoc] at htokens
        obtain ⟨-, hword⟩ := List.append_inj' htokens rfl
        obtain rfl := List.singleton_inj.mp hword
        exact (ih hrest hlast).trans ⟨run ++ [c], by simp⟩
      rcases tokensAfter_cons run c rest with ⟨kind, hc⟩ | ⟨hblank, hc⟩ | ⟨-, hc⟩
      · rw [hc] at h
        refine hlater (Token.ofRun run ++ [.separator kind]) (by simpa using h) (fun hnil => ?_)
        rw [hnil] at h
        obtain ⟨-, hword⟩ := List.append_inj' h rfl
        cases hword
      · rw [hc] at h
        refine hlater (Token.ofRun run) h (fun hnil => ?_)
        -- Then nothing but blanks is left, and the text ends in one of them.
        have hblanks : ∀ d ∈ c :: rest, Text.isBlank d = true :=
          List.forall_mem_cons.mpr ⟨hblank, (blank_of_tokensAfter hnil).2⟩
        have hlast := List.getLast?_eq_some_getLast (List.cons_ne_nil c rest)
        have hnot := hend _ hlast
        rw [hblanks _ (List.mem_of_getLast? hlast)] at hnot
        cases hnot
      · rw [hc] at h
        rw [List.append_cons]
        exact ih hrest h

/-- A trimmed text begins with its first token, if that is a word, and is no more than that if it is
the only one.
-/
theorem begins_of_tokenize {text word : Text} {more : List Token} (htrim : Text.trim text = text)
    (h : tokenize text = .word word :: more)
    : word <+: text ∧ (more = [] → text = word) := by
  cases text with
  | nil => cases h
  | cons c rest =>
      have hblank : Text.isBlank c = false := by
        have hhead : c ∈ (Text.trim (c :: rest)).head? := by
          rw [htrim]
          rfl
        exact Text.isBlank_head?_trim hhead
      have hrun : tokensAfter [c] rest = .word word :: more := by
        rcases tokensAfter_cons [] c rest with ⟨kind, hc⟩ | ⟨hc, -⟩ | ⟨-, hc⟩
        · rw [tokenize, hc] at h
          cases h
        · rw [hblank] at hc
          cases hc
        · exact hc ▸ h
      obtain ⟨after, hafter, hblanks⟩ := append_of_tokensAfter (by simp) hrun
      rw [List.singleton_append] at hafter
      refine ⟨hafter ▸ List.prefix_append _ _, fun hmore => ?_⟩
      rcases List.eq_nil_or_concat after with rfl | ⟨front, last, rfl⟩
      · rw [hafter, List.append_nil]
      · have hlast : last ∈ (Text.trim (c :: rest)).getLast? := by
          rw [htrim, hafter]
          simp
        have hnot := Text.isBlank_getLast?_trimEnd hlast
        rw [hblanks hmore last (by simp)] at hnot
        cases hnot

/-- A trimmed text ends with its last token, if that is a word. -/
theorem ends_of_tokenize {text word : Text} {before : List Token} (htrim : Text.trim text = text)
    (h : tokenize text = before ++ [.word word])
    : word <:+ text := by
  have hend : ∀ c ∈ text.getLast?, Text.isBlank c = false := by
    intro c hc
    rw [← htrim] at hc
    exact Text.isBlank_getLast?_trimEnd hc
  exact suffix_of_tokensAfter hend h

-----------------------------------------------------------------------------------------
-- The first and the last name
-----------------------------------------------------------------------------------------

/-- The words read so far begin the first group, by induction on the tokens. -/
theorem groupsAfter_begins (group : List Text) (tokens : List Token)
    : ∃ more others, groupsAfter group tokens = (group ++ more) :: others := by
  induction tokens generalizing group with
  | nil => exact ⟨[], [], by simp [groupsAfter]⟩
  | cons token tokens ih =>
      cases token with
      | word text =>
          obtain ⟨more, others, hgroups⟩ := ih (group ++ [text])
          exact ⟨text :: more, others, by simp [groupsAfter, hgroups]⟩
      | separator kind => exact ⟨[], groupsAfter [] tokens, by simp [groupsAfter]⟩

/-- The last token, if it is a word, ends the last group, and that is longer if there is no other
one and words have been read before; by induction on the tokens.
-/
theorem groupsAfter_ends (group : List Text) (tokens : List Token) (word : Text)
    : ∃ others front, groupsAfter group (tokens ++ [.word word]) = others ++ [front ++ [word]]
        ∧ (group ≠ [] → others.filter (· ≠ []) = [] → front ≠ []) := by
  induction tokens generalizing group with
  | nil => exact ⟨[], group, rfl, fun hgroup _ => hgroup⟩
  | cons token tokens ih =>
      cases token with
      | word text =>
          obtain ⟨others, front, hgroups, hlonger⟩ := ih (group ++ [text])
          exact ⟨others, front, hgroups, fun _ => hlonger (by simp)⟩
      | separator kind =>
          obtain ⟨others, front, hgroups, -⟩ := ih []
          refine ⟨group :: others, front, ?_, fun hgroup hnil => ?_⟩
          · rw [List.cons_append, groupsAfter, hgroups, List.cons_append]
          · simp [hgroup] at hnil

/-- A last group of words is the last name of a text, whatever stands before it. -/
theorem split_of_groups {text word : Text} {groups : List (List Text)} {front : List Text}
    (h : groupsAfter [] (tokenize text) = groups ++ [front ++ [word]])
    : split text
        = (groups.filter (· ≠ [])).map (Text.join [' ']) ++ [Text.join [' '] (front ++ [word])]
      ∧ Text.words (Text.join [' '] (front ++ [word])) = front ++ [word] := by
  have hparts : front ++ [word] ∈ groupsAfter [] (tokenize text) :=
    h ▸ List.mem_append_right _ (List.mem_singleton_self _)
  exact ⟨by simp [split, h], Text.words_join (fun _ hword => (isWord_of_mem_groups hparts hword).notBlank)⟩

/-- A free text of names that begins with a word of the first one, and ends with a word of the last
one unless that has several.
-/
structure EndsInNames (text : Text) : Prop where
  first : split text ≠ [] → ∃ word more, tokenize text = .word word :: more
  last : ∀ others name, split text = others ++ [name] → (Text.words name).length ≤ 1
    → ∃ before word, tokenize text = before ++ [.word word]

namespace EndsInNames

variable {text name only : Text} {others : List Text}

/-- The first name begins with the word that the text begins with. -/
theorem begins (h : EndsInNames text) (htrim : Text.trim text = text)
    (hsplit : split text = name :: others)
    : ∃ word more, Text.words name = word :: more ∧ word <+: text := by
  obtain ⟨word, tokens, htokens⟩ := h.first (by simp [hsplit])
  obtain ⟨more, groups, hgroups⟩ := groupsAfter_begins [word] tokens
  have hparts : word :: more ∈ groupsAfter [] (tokenize text) := by
    rw [htokens, groupsAfter]
    exact hgroups ▸ List.mem_cons_self
  rw [split, htokens, groupsAfter, List.nil_append, hgroups] at hsplit
  have hname : Text.join [' '] (word :: more) = name := by simpa using (List.cons.inj hsplit).1
  refine ⟨word, more, ?_, (begins_of_tokenize htrim htokens).1⟩
  rw [← hname, Text.words_join (fun _ hword => (isWord_of_mem_groups hparts hword).notBlank)]

/-- A last name of a single word is what the text ends with. -/
theorem ends (h : EndsInNames text) (htrim : Text.trim text = text)
    (hsplit : split text = others ++ [name]) (hwords : Text.words name = [only])
    : only <:+ text := by
  obtain ⟨tokens, word, htokens⟩ := h.last others name hsplit (by simp [hwords])
  obtain ⟨groups, front, hgroups, -⟩ := groupsAfter_ends [] tokens word
  rw [← htokens] at hgroups
  obtain ⟨hown, hparts⟩ := split_of_groups hgroups
  obtain ⟨-, hname⟩ := List.append_inj' (hsplit.symm.trans hown) rfl
  rw [← List.singleton_inj.mp hname, hwords, ← List.nil_append [only]] at hparts
  obtain ⟨-, hword⟩ := List.append_inj' hparts rfl
  exact List.singleton_inj.mp hword ▸ ends_of_tokenize htrim htokens

/-- A text with a single name of a single word is that word. -/
theorem single (h : EndsInNames text) (htrim : Text.trim text = text)
    (hsplit : split text = [name]) (hwords : Text.words name = [only])
    : text = only := by
  obtain ⟨word, tokens, htokens⟩ := h.first (by simp [hsplit])
  obtain ⟨before, last, hlast⟩ := h.last [] name hsplit (by simp [hwords])
  rcases List.eq_nil_or_concat tokens with rfl | ⟨middle, token, rfl⟩
  · have hgroups : groupsAfter [] (tokenize text) = [] ++ [[] ++ [word]] := by
      rw [htokens]
      rfl
    obtain ⟨hown, hparts⟩ := split_of_groups hgroups
    obtain rfl := List.singleton_inj.mp (hsplit.symm.trans hown)
    rw [(begins_of_tokenize htrim htokens).2 rfl]
    exact List.singleton_inj.mp (hparts.symm.trans hwords)
  · -- With another word behind the first, the last name has words before its last one.
    rw [List.concat_eq_append, ← List.cons_append] at htokens
    obtain ⟨-, htoken⟩ := List.append_inj' (htokens.symm.trans hlast) rfl
    obtain rfl := List.singleton_inj.mp htoken
    obtain ⟨groups, front, hgroups, hlonger⟩ := groupsAfter_ends [word] middle last
    rw [List.cons_append] at htokens
    have hall : groupsAfter [] (tokenize text) = groups ++ [front ++ [last]] := by
      rw [htokens, groupsAfter, List.nil_append, hgroups]
    obtain ⟨hown, hparts⟩ := split_of_groups hall
    rw [hsplit, ← List.nil_append [name]] at hown
    obtain ⟨hothers, hname⟩ := List.append_inj' hown rfl
    rw [← List.singleton_inj.mp hname, hwords, ← List.nil_append [only]] at hparts
    obtain ⟨hfront, -⟩ := List.append_inj' hparts rfl
    exact absurd hfront.symm (hlonger (by simp) (List.map_eq_nil_iff.mp hothers.symm))

end EndsInNames

-----------------------------------------------------------------------------------------
-- The length of a name
-----------------------------------------------------------------------------------------

/-- The room that words take with a blank behind each of them. -/
def room : List Text → Nat
  | [] => 0
  | word :: rest => word.length + 1 + room rest

/-- Words one after the other take their room together, by induction on the first ones. -/
theorem room_append (parts more : List Text) : room (parts ++ more) = room parts + room more := by
  induction parts with
  | nil => simp [room]
  | cons word parts ih =>
      rw [List.cons_append, room, room, ih]
      omega

/-- The words among tokens. -/
def wordsOf (tokens : List Token) : List Text :=
  tokens.filterMap (fun
    | .word text => some text
    | .separator _ => none)

/-- Joined words take their room but for one blank. -/
theorem length_join {parts : List Text} (h : parts ≠ [])
    : (Text.join [' '] parts).length + 1 = room parts := by
  match parts with
  | [word] => simp [Text.join, room]
  | word :: next :: rest =>
      have ih := length_join (List.cons_ne_nil next rest)
      simp only [Text.join, room, List.length_append, List.length_singleton] at ih ⊢
      omega

/-- The words of a text take no more room than the text, by induction on the text. -/
theorem room_tokensAfter (run text : Text)
    : room (wordsOf (tokensAfter run text)) ≤ run.length + text.length + 1 := by
  have hrun : ∀ run : Text, room (wordsOf (Token.ofRun run)) ≤ run.length + 1 := by
    intro run
    rw [Token.ofRun]
    split
    · simp [wordsOf, room]
    · split <;> simp [wordsOf, room]
  induction text generalizing run with
  | nil => exact hrun run
  | cons c rest ih =>
      have hrest := ih []
      have hlonger := ih (run ++ [c])
      have hown := hrun run
      simp only [List.length_cons, List.length_append, List.length_nil] at hrest hlonger ⊢
      rcases tokensAfter_cons run c rest with ⟨kind, hc⟩ | ⟨hblank, hc⟩ | ⟨-, hc⟩
      · rw [hc]
        simp only [wordsOf, List.filterMap_append, List.filterMap_cons, room_append] at hrest hown ⊢
        omega
      · rw [hc]
        simp only [wordsOf, List.filterMap_append, room_append] at hrest hown ⊢
        omega
      · rw [hc]
        omega

/-- A group of words takes no more room than all words, by induction on the tokens. -/
theorem room_of_mem_groups {group found : List Text} {tokens : List Token}
    (h : found ∈ groupsAfter group tokens)
    : room found ≤ room group + room (wordsOf tokens) := by
  induction tokens generalizing group with
  | nil =>
      rw [List.mem_singleton.mp h]
      omega
  | cons token tokens ih =>
      cases token with
      | word text =>
          have hfound := ih h
          simp only [wordsOf, List.filterMap_cons, room_append, room] at hfound ⊢
          omega
      | separator kind =>
          rcases List.mem_cons.mp h with rfl | h
          · omega
          · have hfound := ih h
            simp only [wordsOf, List.filterMap_cons, room] at hfound ⊢
            omega

/-- No name is longer than the text that it stands in. -/
theorem length_le_of_mem_split {text name : Text} (h : name ∈ split text)
    : name.length ≤ text.length := by
  obtain ⟨parts, hparts, rfl⟩ := List.mem_map.mp h
  obtain ⟨hgroup, hne⟩ := List.mem_filter.mp hparts
  have hjoin := length_join (by simpa using hne : parts ≠ [])
  have hroom := room_of_mem_groups hgroup
  have htokens := room_tokensAfter [] text
  simp only [room, List.length_nil, tokenize] at hroom htokens hjoin
  omega

end LeasePapers.Name
