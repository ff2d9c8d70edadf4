import LeasePapers.Field.Value
import Mathlib.Tactic.SplitIfs

/-! JSON strings and arrays of strings, read back from their texts. Every character is escaped in a
way that the reader undoes inside a string, so the text of a list of texts is read as that list.
What a text spells is read in two steps: which tokens it is, and which value they make.
-/

namespace LeasePapers.Json

-----------------------------------------------------------------------------------------
-- One character after the other
-----------------------------------------------------------------------------------------

/-- Reading goes on from where a character leads, behind the tokens that it ends. -/
theorem tokensFrom?_cons {reading next : Reading} {c : Char} {tokens : List Token}
    (h : readChar c reading = some (tokens, next)) (rest : Text)
    : tokensFrom? reading (c :: rest) = (tokensFrom? next rest).map (tokens ++ ·) := by
  simp only [tokensFrom?, h, Option.bind_eq_bind, Option.bind_some]
  cases tokensFrom? next rest <;> rfl

/-- A character that ends no token leaves the tokens as they are. -/
theorem tokensFrom?_silent {reading next : Reading} {c : Char}
    (h : readChar c reading = some ([], next)) (rest : Text)
    : tokensFrom? reading (c :: rest) = tokensFrom? next rest := by
  rw [tokensFrom?_cons h]
  exact Option.map_id'

-----------------------------------------------------------------------------------------
-- Texts between tokens
-----------------------------------------------------------------------------------------

/-- A text that begins between two tokens is read as tokens, whatever follows it. -/
def Spells (text : Text) (tokens : List Token) : Prop :=
  ∀ rest, tokensFrom? .between (text ++ rest) = (tokensFrom? .between rest).map (tokens ++ ·)

/-- Nothing spells nothing. -/
theorem spells_nil : Spells [] [] :=
  fun _ => Option.map_id'.symm

/-- Texts one after the other spell their tokens one after the other. -/
theorem Spells.append {first second : Text} {tokens more : List Token} (h : Spells first tokens)
    (h' : Spells second more)
    : Spells (first ++ second) (tokens ++ more) := by
  intro rest
  rw [List.append_assoc, h, h', Option.map_map]
  simp only [Function.comp_def, List.append_assoc]

/-- A mark spells the token that it is. -/
theorem spells_mark {c : Char} {token : Token} (hspace : isSpace c = false) (hquote : c ≠ '"')
    (hnumber : ¬(c = '-' ∨ c.isDigit)) (hword : c.isLower = false)
    (h : Token.ofMark? c = some token)
    : Spells [c] [token] := by
  refine @tokensFrom?_cons _ _ _ [token] ?_
  rw [readChar, readBetween]
  simp [hspace, hquote, hnumber, hword, h]

-----------------------------------------------------------------------------------------
-- Strings
-----------------------------------------------------------------------------------------

/-- A hexadecimal digit has the value that it is written from. -/
theorem hexValue?_hexDigit : ∀ n < 16, hexValue? (hexDigit n) = some n := by
  decide

/-- An escape of two characters stands for the character that is meant. -/
theorem tokensFrom?_simpleEscape {mark meant : Char} (hmark : mark ≠ 'u')
    (h : simpleEscape? mark = some meant) (read rest : Text)
    : tokensFrom? (.string read) ('\\' :: mark :: rest)
      = tokensFrom? (.string (read ++ [meant])) rest := by
  have hslash : readChar '\\' (.string read) = some ([], .escape read) := rfl
  have hmeant : readChar mark (.escape read) = some ([], .string (read ++ [meant])) := by
    simp [readChar, hmark, h]
  rw [tokensFrom?_silent hslash, tokensFrom?_silent hmeant]

/-- The two hexadecimal digits of a control character are read back. -/
theorem tokensFrom?_controlEscape {c : Char} (hc : c < ' ') (read rest : Text)
    : tokensFrom? (.string read)
        (['\\', 'u', '0', '0', hexDigit (c.toNat / 16), hexDigit (c.toNat % 16)] ++ rest)
      = tokensFrom? (.string (read ++ [c])) rest := by
  have hlow : c.toNat < 32 := hc
  have hhigh := hexValue?_hexDigit (c.toNat / 16) (by omega)
  have hlast := hexValue?_hexDigit (c.toNat % 16) (by omega)
  have hcode : c.toNat / 16 * 16 + c.toNat % 16 = c.toNat := by omega
  have hslash : readChar '\\' (.string read) = some ([], .escape read) := rfl
  have hmark : readChar 'u' (.escape read) = some ([], .hex read 0 4) := rfl
  have hfirst : readChar '0' (.hex read 0 4) = some ([], .hex read 0 3) := rfl
  have hsecond : readChar '0' (.hex read 0 3) = some ([], .hex read 0 2) := rfl
  have hthird : readChar (hexDigit (c.toNat / 16)) (.hex read 0 2)
      = some ([], .hex read (c.toNat / 16) 1) := by
    simp [readChar, hhigh]
  have hfourth : readChar (hexDigit (c.toNat % 16)) (.hex read (c.toNat / 16) 1)
      = some ([], .string (read ++ [c])) := by
    have hnot : ¬(0xD800 ≤ c.toNat ∧ c.toNat ≤ 0xDBFF) := by omega
    have hnot' : ¬(0xDC00 ≤ c.toNat ∧ c.toNat ≤ 0xDFFF) := by omega
    simp [readChar, hlast, hcode, readCode, hnot, hnot']
  simp only [List.cons_append, List.nil_append]
  rw [tokensFrom?_silent hslash, tokensFrom?_silent hmark, tokensFrom?_silent hfirst,
    tokensFrom?_silent hsecond, tokensFrom?_silent hthird, tokensFrom?_silent hfourth]

/-- The escaped form of a character is read as that character inside a string. -/
theorem tokensFrom?_escapeChar (c : Char) (read rest : Text)
    : tokensFrom? (.string read) (escapeChar c ++ rest)
      = tokensFrom? (.string (read ++ [c])) rest := by
  rw [escapeChar]
  split_ifs with hquote hslash hback htab hline hfeed hreturn hcontrol
  rotate_left 7
  · exact tokensFrom?_controlEscape hcontrol read rest
  · exact tokensFrom?_silent (by simp [readChar, hquote, hslash, hcontrol]) rest
  all_goals
    subst c
    exact tokensFrom?_simpleEscape (by decide) rfl read rest

/-- A quoted text is read as one string, by induction on it. -/
theorem spells_quote (text : Text) : Spells (quote text) [.string text] := by
  intro rest
  have hinside : ∀ read, tokensFrom? (.string read) (text.flatMap escapeChar ++ '"' :: rest)
      = (tokensFrom? .between rest).map (.string (read ++ text) :: ·) := by
    induction text with
    | nil =>
        intro read
        rw [List.append_nil]
        exact @tokensFrom?_cons _ _ _ [.string read] rfl rest
    | cons c text ih =>
        intro read
        rw [List.flatMap_cons, List.append_assoc, tokensFrom?_escapeChar, ih, List.append_assoc,
          List.singleton_append]
  have hopening : readChar '"' .between = some ([], .string []) := rfl
  rw [quote, List.cons_append, List.cons_append, tokensFrom?_silent hopening, List.append_assoc]
  exact hinside []

-----------------------------------------------------------------------------------------
-- Lists between brackets
-----------------------------------------------------------------------------------------

/-- A comma spells a comma. -/
theorem spells_comma : Spells [','] [.comma] :=
  spells_mark (by decide) (by decide) (by decide) (by decide) rfl

/-- Texts with a comma between neighbours are read as their tokens with a comma between neighbours,
by induction on them.
-/
theorem Spells.join {α : Type} {separator : Text} {text : α → Text} {tokens : α → List Token}
    (hseparator : Spells separator [.comma]) (items : List α)
    (hitems : ∀ item ∈ items, Spells (text item) (tokens item))
    : Spells (Text.join separator (items.map text))
        ([Token.comma].intercalate (items.map tokens)) := by
  match items with
  | [] => exact spells_nil
  | [item] =>
      rw [List.map_singleton, List.map_singleton, List.intercalate_singleton]
      exact hitems item (by simp)
  | item :: next :: items =>
      rw [List.forall_mem_cons] at hitems
      have htail := Spells.join hseparator (next :: items) hitems.2
      simp only [List.map_cons, List.intercalate_cons_cons, Text.join] at htail ⊢
      exact (hitems.1.append hseparator).append htail

-----------------------------------------------------------------------------------------
-- Tokens of a value
-----------------------------------------------------------------------------------------

/-- Tokens make a value where one may stand, unless arrays and objects are nested too deep: `depth`
says how many of them the value opens inside each other.
-/
def Makes (tokens : List Token) (value : Value) (depth : Nat) : Prop :=
  ∀ frames : List Frame, frames.length + depth ≤ deepestNesting →
    tokens.foldlM Progress.take ⟨frames, .value, none⟩ = Progress.deliver value frames

/-- A value that is made within a depth is made within a greater one. -/
theorem Makes.mono {tokens : List Token} {value : Value} {depth more : Nat}
    (h : Makes tokens value depth) (hdepth : depth ≤ more)
    : Makes tokens value more :=
  fun frames hframes => h frames (by omega)

/-- A string makes itself. -/
theorem makes_string (text : Text) : Makes [.string text] (.string text) 0 := by
  intro frames _
  exact Option.bind_fun_some _

/-- What a text spells is the value that its tokens make. -/
theorem Makes.ofText? {text : Text} {tokens : List Token} {value : Value} {depth : Nat}
    (h : Makes tokens value depth) (hspells : Spells text tokens) (hdepth : depth ≤ deepestNesting)
    : ofText? text = some value := by
  have htokens : tokens? text = some tokens := by
    have hall := hspells []
    rw [List.append_nil] at hall
    rw [tokens?, hall]
    exact congrArg some (List.append_nil tokens)
  have hrun : tokens.foldlM Progress.take .start = Progress.deliver value [] :=
    h [] (by simpa using hdepth)
  rw [Json.ofText?, htokens]
  simp only [Option.bind_eq_bind, Option.bind_some, hrun]
  rfl

/-- The tokens of strings between brackets. -/
def stringTokens (items : List Text) : List Token :=
  .openArray :: [Token.comma].intercalate (items.map (fun item => [.string item])) ++ [.closeArray]

/-- Strings between commas are taken in as the last items of an array that is closed behind them, by
induction on them.
-/
theorem foldlM_take_strings (frames : List Frame) (item : Text) (items : List Text)
    (before : List Value)
    : ([Token.comma].intercalate ((item :: items).map (fun item => [.string item]))
          ++ [Token.closeArray]).foldlM Progress.take ⟨.array before :: frames, .value, none⟩
      = Progress.deliver (.array (before ++ (item :: items).map Value.string)) frames := by
  induction items generalizing item before with
  | nil => exact Option.bind_fun_some _
  | cons next items ih =>
      have h := ih next (before ++ [.string item])
      rw [List.append_assoc] at h
      rw [List.map_cons, List.map_cons, List.intercalate_cons_cons]
      exact h

/-- Strings in brackets make their array, one level deep. -/
theorem makes_strings (items : List Text)
    : Makes (stringTokens items) (.array (items.map Value.string)) 1 := by
  intro frames hframes
  have hroom : frames.length < deepestNesting := hframes
  have hopen : Progress.take ⟨frames, .value, none⟩ .openArray
      = some ⟨.array [] :: frames, .firstValue, none⟩ :=
    if_pos hroom
  rw [stringTokens, List.cons_append, List.foldlM_cons, hopen]
  cases items with
  | nil => exact Option.bind_fun_some _
  | cons item items =>
      -- A string may stand first in an array just as it may stand behind a comma.
      have hfirst : ∀ more, (Token.string item :: more).foldlM Progress.take
            ⟨.array [] :: frames, .firstValue, none⟩
          = (Token.string item :: more).foldlM Progress.take ⟨.array [] :: frames, .value, none⟩ :=
        fun _ => rfl
      have h := foldlM_take_strings frames item items []
      cases items with
      | nil => exact h
      | cons next items => exact h

/-- A bracket opens an array. -/
theorem spells_openArray : Spells ['['] [.openArray] :=
  spells_mark (by decide) (by decide) (by decide) (by decide) rfl

/-- A bracket closes an array. -/
theorem spells_closeArray : Spells [']'] [.closeArray] :=
  spells_mark (by decide) (by decide) (by decide) (by decide) rfl

/-- The text of an array of strings is read as that array. -/
theorem ofText?_array (items : List Text)
    : ofText? (['['] ++ Text.join [','] (items.map quote) ++ [']'])
      = some (.array (items.map Value.string)) :=
  (makes_strings items).ofText?
    ((spells_openArray.append (.join spells_comma items (fun item _ => spells_quote item))).append
      spells_closeArray)
    (by decide)

end LeasePapers.Json

namespace LeasePapers.Field

/-- A list of texts is read back from its JSON array. -/
theorem arrayElements?_arrayText (items : List Text)
    : arrayElements? (arrayText items) = some items := by
  rw [arrayElements?, arrayText, Json.ofText?_array]
  simp only [List.map_map]
  exact congrArg some (List.map_id' items)

end LeasePapers.Field
