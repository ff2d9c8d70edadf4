import LeasePapers.Proofs.Json.Members
import LeasePapers.Proofs.Json.Strings
import LeasePapers.Proofs.Text.Blank

/-! The texts that spell JSON arrays. Such a text begins with its opening bracket, behind blanks,
and does not end with a dot. The value that a run of tokens delivers is an array exactly if the
first of them opens one, for the outermost frame keeps its kind until it is closed.
-/

namespace LeasePapers.Json

-----------------------------------------------------------------------------------------
-- The outermost value
-----------------------------------------------------------------------------------------

/-- Whether a value is an array. -/
def Value.isArray : Value → Bool
  | .array _ => true
  | _ => false

namespace Progress

variable {progress next : Progress} {frame : Frame} {token : Token}

/-- A value has been begun, and it is an object, or finished, and it is no array. -/
inductive NoArray : Progress → Prop
  | opened {frames : List Frame} {frame : Frame} {awaited : Awaited}
      (kind : frame.isArray = false)
    : NoArray ⟨frames ++ [frame], awaited, none⟩
  | finished {value : Value} (kind : value.isArray = false) : NoArray ⟨[], .next, some value⟩

/-- A run has no array while it is inside of something else. -/
theorem NoArray.single (hframe : frame.isArray = false) (awaited : Awaited)
    : NoArray ⟨[frame], awaited, none⟩ :=
  @NoArray.opened [] frame awaited hframe

/-- A run without an array has none after the next token. -/
theorem NoArray.take (h : NoArray progress) (htake : take progress token = some next)
    : NoArray next := by
  cases h with
  | finished kind => cases token <;> cases htake
  | opened kind =>
      cases outermost_take kind htake with
      | inside => exact .opened kind
      | value => exact .single rfl _
      | name => exact .single rfl _
      | closed => exact .finished rfl

/-- What begins with no array is none at the end, by induction on the tokens. -/
theorem NoArray.run (h : NoArray progress) {tokens : List Token}
    (hrun : tokens.foldlM Progress.take progress = some next)
    : NoArray next := by
  induction tokens generalizing progress with
  | nil =>
      obtain rfl := Option.some.inj hrun
      exact h
  | cons token tokens ih =>
      obtain ⟨middle, htake, hrun⟩ := foldlM_take_cons hrun
      exact ih (h.take htake) hrun

/-- A run without an array does not result in one. -/
theorem NoArray.result_ne (h : NoArray progress) (items : List Value)
    : progress.result ≠ some (.array items) := by
  cases h with
  | opened kind => simp
  | finished kind =>
      rintro ⟨⟩
      cases kind

end Progress

/-- Tokens that deliver an array begin with its opening bracket. -/
theorem openArray_of_run {tokens : List Token} {progress : Progress} {items : List Value}
    (hrun : tokens.foldlM Progress.take .start = some progress)
    (hresult : progress.result = some (.array items))
    : ∃ more, tokens = .openArray :: more := by
  cases tokens with
  | nil =>
      obtain rfl := Option.some.inj hrun
      cases hresult
  | cons token tokens =>
      obtain ⟨first, htake, hrun⟩ := Progress.foldlM_take_cons hrun
      have hnone : ¬Progress.NoArray first := fun h => (h.run hrun).result_ne items hresult
      cases token with
      | openArray => exact ⟨tokens, rfl⟩
      | closeArray | closeObject | comma | colon => cases htake
      | openObject =>
          obtain rfl := Option.some.inj htake
          exact absurd (.single rfl _) hnone
      | string text | number value | null | boolean value =>
          obtain rfl := Option.some.inj htake
          exact absurd (.finished rfl) hnone

/-- A number cannot be the last token of an array. -/
theorem last_ne_number {tokens : List Token} {number : Number} {progress : Progress}
    {items : List Value}
    (hrun : (tokens ++ [Token.number number]).foldlM Progress.take .start = some progress)
    : progress.result ≠ some (.array items) := by
  rw [List.foldlM_append, Option.bind_eq_bind, Option.bind_eq_some_iff] at hrun
  obtain ⟨⟨frames, awaited, result⟩, -, hrun⟩ := hrun
  obtain ⟨last, htake, hlast⟩ := Progress.foldlM_take_cons hrun
  obtain rfl := Option.some.inj hlast
  have hdeliver : Progress.deliver (.number number) frames = some last
      → last.result ≠ some (.array items) := by
    intro h
    rw [Progress.deliver.eq_def] at h
    split at h
    all_goals cases h <;> simp
  cases awaited with
  | value => exact hdeliver htake
  | firstValue => exact hdeliver htake
  | name | firstName => rcases frames with _ | ⟨_ | _ | _, _⟩ <;> cases htake
  | colon => cases htake
  | next => rcases frames with _ | ⟨_ | _ | _, _⟩ <;> cases htake

-----------------------------------------------------------------------------------------
-- The first and the last character
-----------------------------------------------------------------------------------------

/-- Whether a token is a value of its own. -/
def Token.isScalar : Token → Bool
  | .string _ | .number _ | .null | .boolean _ => true
  | _ => false

/-- Whether the reader is in the middle of a token. -/
def Reading.isInside : Reading → Bool
  | .between => false
  | _ => true

/-- A number is a scalar. -/
theorem isScalar_of_ofNumber? {run : Text} {token : Token} (h : Token.ofNumber? run = some token)
    : token.isScalar = true := by
  obtain ⟨number, -, rfl⟩ := Option.map_eq_some_iff.mp h
  rfl

/-- The words of JSON are scalars. -/
theorem isScalar_of_ofWord? {word : Text} {token : Token} (h : Token.ofWord? word = some token)
    : token.isScalar = true := by
  rw [Token.ofWord?] at h
  split_ifs at h <;> cases h <;> rfl

/-- After a digit of a code, the reader is still inside of the string. -/
theorem isInside_readCode {read : Text} {value : Nat} {next : Reading}
    (h : readCode read value = some next)
    : next.isInside = true := by
  rw [readCode] at h
  split_ifs at h <;> cases h <;> rfl

/-- After a digit of the second code of a pair, the reader is still inside of the string. -/
theorem isInside_readPair {read : Text} {leading value : Nat} {next : Reading}
    (h : readPair read leading value = some next)
    : next.isInside = true := by
  rw [readPair] at h
  split_ifs at h
  cases h
  rfl

/-- Inside a token nothing is finished, or that token is. -/
theorem readChar_inside {reading next : Reading} {c : Char} {tokens : List Token}
    (hinside : reading.isInside = true) (h : readChar c reading = some (tokens, next))
    : tokens = [] ∧ next.isInside = true
      ∨ ∃ token more, tokens = token :: more ∧ token.isScalar = true := by
  cases reading with
  | between => cases hinside
  | string read =>
      rw [readChar] at h
      split_ifs at h <;> cases h
      · exact Or.inr ⟨_, _, rfl, rfl⟩
      · exact Or.inl ⟨rfl, rfl⟩
      · exact Or.inl ⟨rfl, rfl⟩
  | escape read =>
      rw [readChar] at h
      split_ifs at h
      · cases h
        exact Or.inl ⟨rfl, rfl⟩
      · obtain ⟨meant, -, he⟩ := Option.map_eq_some_iff.mp h
        cases he
        exact Or.inl ⟨rfl, rfl⟩
  | hex read value missing =>
      simp only [readChar, Option.bind_eq_bind, Option.bind_eq_some_iff] at h
      obtain ⟨digit, -, h⟩ := h
      split_ifs at h
      · obtain ⟨after, hafter, he⟩ := Option.bind_eq_some_iff.mp h
        cases he
        exact Or.inl ⟨rfl, isInside_readCode hafter⟩
      · cases h
        exact Or.inl ⟨rfl, rfl⟩
  | pairSlash read leading =>
      rw [readChar] at h
      split_ifs at h
      cases h
      exact Or.inl ⟨rfl, rfl⟩
  | pairMark read leading =>
      rw [readChar] at h
      split_ifs at h
      cases h
      exact Or.inl ⟨rfl, rfl⟩
  | pairHex read leading value missing =>
      simp only [readChar, Option.bind_eq_bind, Option.bind_eq_some_iff] at h
      obtain ⟨digit, -, h⟩ := h
      split_ifs at h
      · obtain ⟨after, hafter, he⟩ := Option.bind_eq_some_iff.mp h
        cases he
        exact Or.inl ⟨rfl, isInside_readPair hafter⟩
      · cases h
        exact Or.inl ⟨rfl, rfl⟩
  | number read =>
      rw [readChar] at h
      split_ifs at h
      · cases h
        exact Or.inl ⟨rfl, rfl⟩
      · obtain ⟨token, htoken, h⟩ := Option.bind_eq_some_iff.mp h
        obtain ⟨_, -, he⟩ := Option.bind_eq_some_iff.mp h
        cases he
        exact Or.inr ⟨_, _, rfl, isScalar_of_ofNumber? htoken⟩
  | word read =>
      rw [readChar] at h
      split_ifs at h
      · cases h
        exact Or.inl ⟨rfl, rfl⟩
      · obtain ⟨token, htoken, h⟩ := Option.bind_eq_some_iff.mp h
        obtain ⟨_, -, he⟩ := Option.bind_eq_some_iff.mp h
        cases he
        exact Or.inr ⟨_, _, rfl, isScalar_of_ofWord? htoken⟩

/-- A text is read by its first character, and by the rest from where that leads. -/
theorem tokensFrom?_cons_eq_some {reading : Reading} {c : Char} {rest : Text} {tokens : List Token}
    (h : tokensFrom? reading (c :: rest) = some tokens)
    : ∃ first next more, readChar c reading = some (first, next)
        ∧ tokensFrom? next rest = some more ∧ tokens = first ++ more := by
  rw [tokensFrom?, Option.bind_eq_bind, Option.bind_eq_some_iff] at h
  obtain ⟨⟨first, next⟩, hread, h⟩ := h
  obtain ⟨more, hmore, he⟩ := Option.bind_eq_some_iff.mp h
  exact ⟨first, next, more, hread, hmore, (Option.some.inj he).symm⟩

/-- Where the reader is in the middle of a token, that comes first, by induction on the text. -/
theorem tokensFrom?_inside {reading : Reading} {text : Text} {tokens : List Token}
    (hinside : reading.isInside = true) (h : tokensFrom? reading text = some tokens)
    : ∃ token more, tokens = token :: more ∧ token.isScalar = true := by
  induction text generalizing reading tokens with
  | nil =>
      rw [tokensFrom?, readEnd.eq_def] at h
      split at h
      · cases hinside
      · obtain ⟨token, htoken, rfl⟩ := Option.map_eq_some_iff.mp h
        exact ⟨token, [], rfl, isScalar_of_ofNumber? htoken⟩
      · obtain ⟨token, htoken, rfl⟩ := Option.map_eq_some_iff.mp h
        exact ⟨token, [], rfl, isScalar_of_ofWord? htoken⟩
      · cases h
  | cons c rest ih =>
      obtain ⟨first, next, more, hread, hmore, rfl⟩ := tokensFrom?_cons_eq_some h
      rcases readChar_inside hinside hread with ⟨rfl, hnext⟩ | ⟨token, others, rfl, hscalar⟩
      · exact ih hnext hmore
      · exact ⟨token, others ++ more, rfl, hscalar⟩

/-- The spaces of JSON are blanks. -/
theorem isBlank_of_isSpace {c : Char} (h : isSpace c = true) : Text.isBlank c = true := by
  simp only [isSpace, Bool.or_eq_true, beq_iff_eq] at h
  rcases h with ((rfl | rfl) | rfl) | rfl <;> decide

/-- What can stand between tokens and begins none of its own kind is no blank. -/
theorem readBetween_cases {c : Char} {tokens : List Token} {next : Reading}
    (h : readBetween c = some (tokens, next))
    : isSpace c = true ∧ tokens = [] ∧ next = .between
      ∨ Text.isBlank c = false ∧ tokens = [] ∧ next.isInside = true
      ∨ ∃ token, Token.ofMark? c = some token ∧ tokens = [token] := by
  rw [readBetween] at h
  split_ifs at h with hspace hquote hnumber hword
  · cases h
    exact Or.inl ⟨hspace, rfl, rfl⟩
  · cases h
    subst hquote
    exact Or.inr (Or.inl ⟨by decide, rfl, rfl⟩)
  · cases h
    refine Or.inr (Or.inl ⟨?_, rfl, rfl⟩)
    exact Text.isBlank_of_class (p := fun c => c == '-' || c.isDigit) (by decide)
      (by simpa using hnumber)
  · cases h
    exact Or.inr (Or.inl ⟨Text.isBlank_of_class (by decide) hword, rfl, rfl⟩)
  · obtain ⟨token, htoken, he⟩ := Option.map_eq_some_iff.mp h
    cases he
    exact Or.inr (Or.inr ⟨token, htoken, rfl⟩)

/-- The mark that opens an array is a bracket. -/
theorem eq_of_ofMark? {c : Char} (h : Token.ofMark? c = some .openArray) : c = '[' := by
  rw [Token.ofMark?] at h
  split_ifs at h with hbracket
  · exact hbracket
  all_goals cases h

/-- A text whose first token opens an array begins with the bracket, by induction on the blanks
before it.
-/
theorem head?_of_openArray {text : Text} {more : List Token}
    (h : tokens? text = some (.openArray :: more))
    : (Text.trimStart text).head? = some '[' := by
  induction text with
  | nil => cases h
  | cons c rest ih =>
      obtain ⟨first, next, others, hread, hothers, he⟩ := tokensFrom?_cons_eq_some h
      rcases readBetween_cases hread with ⟨hspace, rfl, rfl⟩ | ⟨-, rfl, hinside⟩
        | ⟨token, hmark, rfl⟩
      · rw [Text.trimStart, List.dropWhile_cons_of_pos (isBlank_of_isSpace hspace)]
        exact ih (he ▸ hothers)
      · obtain ⟨token, behind, rfl, hscalar⟩ := tokensFrom?_inside hinside hothers
        obtain ⟨rfl, -⟩ := List.cons.inj he
        cases hscalar
      · obtain ⟨rfl, -⟩ := List.cons.inj he
        obtain rfl := eq_of_ofMark? hmark
        rfl

/-- What is read up to a dot at the end is a number, by induction on the text before it. -/
theorem tokensFrom?_concat_dot {reading : Reading} {text : Text} {tokens : List Token}
    (h : tokensFrom? reading (text ++ ['.']) = some tokens)
    : ∃ before number, tokens = before ++ [.number number] := by
  induction text generalizing reading tokens with
  | nil =>
      obtain ⟨first, next, more, hread, hmore, rfl⟩ := tokensFrom?_cons_eq_some h
      cases reading with
      | number read =>
          have hnext : readChar '.' (.number read) = some ([], .number (read ++ ['.'])) := rfl
          rw [hnext] at hread
          obtain ⟨rfl, rfl⟩ := Prod.mk.inj (Option.some.inj hread)
          obtain ⟨token, htoken, rfl⟩ := Option.map_eq_some_iff.mp hmore
          obtain ⟨number, -, rfl⟩ := Option.map_eq_some_iff.mp htoken
          exact ⟨[], number, rfl⟩
      | string read =>
          have hnext : readChar '.' (.string read) = some ([], .string (read ++ ['.'])) := rfl
          rw [hnext] at hread
          obtain ⟨rfl, rfl⟩ := Prod.mk.inj (Option.some.inj hread)
          cases hmore
      | word read =>
          obtain ⟨token, -, hread⟩ := Option.bind_eq_some_iff.mp hread
          cases hread
      | between | escape | hex | pairSlash | pairMark | pairHex => cases hread
  | cons c text ih =>
      obtain ⟨first, next, more, -, hmore, rfl⟩ := tokensFrom?_cons_eq_some h
      obtain ⟨before, number, rfl⟩ := ih hmore
      exact ⟨first ++ before, number, (List.append_assoc _ _ _).symm⟩

end LeasePapers.Json

namespace LeasePapers.Field

/-- A text with elements is one array, from its first token to its last. -/
theorem exists_run_of_arrayElements? {text : Text} {items : List Text}
    (h : arrayElements? text = some items)
    : ∃ tokens progress values, Json.tokens? text = some tokens
        ∧ tokens.foldlM Json.Progress.take .start = some progress
        ∧ progress.result = some (.array values) := by
  rw [arrayElements?] at h
  split at h
  · rename_i values hvalue
    obtain ⟨tokens, htokens, hrun⟩ := Option.bind_eq_some_iff.mp hvalue
    obtain ⟨progress, hprogress, hresult⟩ := Option.bind_eq_some_iff.mp hrun
    exact ⟨tokens, progress, values, htokens, hprogress, hresult⟩
  · cases h

/-- A text that spells an array begins with a bracket. -/
theorem head?_of_arrayElements? {text : Text} {items : List Text}
    (h : arrayElements? text = some items)
    : (Text.trimStart text).head? = some '[' := by
  obtain ⟨tokens, progress, values, htokens, hrun, hresult⟩ := exists_run_of_arrayElements? h
  obtain ⟨more, rfl⟩ := Json.openArray_of_run hrun hresult
  exact Json.head?_of_openArray htokens

/-- A text that ends with a dot spells no array. -/
theorem arrayElements?_concat_dot (text : Text) : arrayElements? (text ++ ['.']) = none := by
  cases h : arrayElements? (text ++ ['.']) with
  | none => rfl
  | some items =>
      obtain ⟨tokens, progress, values, htokens, hrun, hresult⟩ := exists_run_of_arrayElements? h
      obtain ⟨before, number, rfl⟩ := Json.tokensFrom?_concat_dot htokens
      exact absurd hresult (Json.last_ne_number hrun)

end LeasePapers.Field
