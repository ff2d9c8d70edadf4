import LeasePapers.Json.Reader

/-! The members of the outermost object. Tokens are counted by the brackets that they open and
close, and as many arrays and objects are open as are counted. While a single one is open, a string
and a colon name a member, and what is delivered next is its value; members are never changed
afterwards.
-/

namespace LeasePapers.Json

-----------------------------------------------------------------------------------------
-- Open brackets
-----------------------------------------------------------------------------------------

/-- How many brackets more are open behind a token than in front of it. -/
def Token.turn : Token → Int
  | .openArray | .openObject => 1
  | .closeArray | .closeObject => -1
  | .comma | .colon | .string _ | .number _ | .null | .boolean _ => 0

/-- How many brackets more are open behind the tokens than in front of them. -/
def nesting : List Token → Int
  | [] => 0
  | token :: tokens => token.turn + nesting tokens

/-- No tokens open or close anything. -/
@[simp] theorem nesting_nil : nesting [] = 0 :=
  rfl

/-- The nesting of tokens is summed up one by one. -/
@[simp] theorem nesting_cons (token : Token) (tokens : List Token)
    : nesting (token :: tokens) = token.turn + nesting tokens :=
  rfl

/-- Whether what is open is an array. -/
def Frame.isArray : Frame → Bool
  | .array _ => true
  | .object _ | .member _ _ => false

namespace Progress

variable {progress next last : Progress} {frames inner : List Frame} {outer : Frame}
  {awaited : Awaited} {token : Token} {tokens : List Token} {value : Value}

/-- A value that is delivered opens and closes nothing. -/
theorem length_deliver (h : deliver value frames = some next)
    : next.frames.length = frames.length := by
  rw [deliver.eq_def] at h
  split at h
  all_goals cases h <;> rfl

/-- An opened frame is one more. -/
theorem length_openFrame {frame : Frame} (h : openFrame frame awaited frames = some next)
    : next.frames.length = frames.length + 1 := by
  rw [openFrame] at h
  split at h
  · obtain rfl := Option.some.inj h
    rfl
  · cases h

/-- Where a value is awaited, frames are opened as a token says. -/
theorem length_takeValue (h : takeValue frames token = some next)
    : (next.frames.length : Int) = frames.length + token.turn := by
  cases token with
  | openArray | openObject =>
      rw [length_openFrame h]
      rfl
  | string text | number value | null | boolean value =>
      rw [length_deliver h]
      exact (Int.add_zero _).symm
  | closeArray | closeObject | comma | colon => cases h

/-- Where a name is awaited, frames are closed as a token says. -/
theorem length_takeName (h : takeName frames token = some next)
    : (next.frames.length : Int) = frames.length + token.turn := by
  rw [takeName.eq_def] at h
  split at h
  · obtain rfl := Option.some.inj h
    rfl
  · cases h

/-- Frames are closed as a token says. -/
theorem length_close (h : close frames token = some next)
    : (next.frames.length : Int) = frames.length + token.turn := by
  rw [close.eq_def] at h
  split at h
  · rw [length_deliver h, List.length_cons, Token.turn]
    omega
  · rw [length_deliver h, List.length_cons, Token.turn]
    omega
  · cases h

/-- Behind a value, frames are closed as a token says. -/
theorem length_takeNext (h : takeNext frames token = some next)
    : (next.frames.length : Int) = frames.length + token.turn := by
  rw [takeNext.eq_def] at h
  split at h
  · obtain rfl := Option.some.inj h
    rfl
  · obtain rfl := Option.some.inj h
    rfl
  · exact length_close h

/-- Every token opens and closes as many arrays and objects as it counts for. -/
theorem length_take (h : progress.take token = some next)
    : (next.frames.length : Int) = progress.frames.length + token.turn := by
  rw [Progress.take.eq_def] at h
  split at h
  · exact length_takeValue h
  · split at h
    · exact length_close h
    · exact length_takeValue h
  · exact length_takeName h
  · split at h
    · exact length_close h
    · exact length_takeName h
  · split at h
    · obtain rfl := Option.some.inj h
      exact (Int.add_zero _).symm
    · cases h
  · exact length_takeNext h

/-- A run takes its first token, and the others from where that leads. -/
theorem foldlM_take_cons (h : (token :: tokens).foldlM Progress.take progress = some last)
    : ∃ next, progress.take token = some next ∧ tokens.foldlM Progress.take next = some last := by
  rwa [List.foldlM_cons, Option.bind_eq_bind, Option.bind_eq_some_iff] at h

/-- As many arrays and objects are open as the tokens count, by induction on them. -/
theorem length_run (h : tokens.foldlM Progress.take progress = some last)
    : (last.frames.length : Int) = progress.frames.length + nesting tokens := by
  induction tokens generalizing progress with
  | nil =>
      obtain rfl := Option.some.inj h
      exact (Int.add_zero _).symm
  | cons token tokens ih =>
      obtain ⟨next, htake, hrun⟩ := foldlM_take_cons h
      rw [ih hrun, length_take htake, nesting_cons, Int.add_assoc]

-----------------------------------------------------------------------------------------
-- The outermost frame
-----------------------------------------------------------------------------------------

/-- What a token does to the outermost frame, if that is an object: nothing, or it ends the value of
the last member, or names a member, or closes the object. -/
inductive Outermost (inner : List Frame) : Frame → Token → Progress → Prop
  | inside {outer : Frame} {token : Token} (frames : List Frame) (awaited : Awaited)
    : Outermost inner outer token ⟨frames ++ [outer], awaited, none⟩
  | value {members : List (Text × Value)} {name : Text} {token : Token} (value : Value)
    : Outermost inner (.member members name) token
        ⟨[.object (members ++ [(name, value)])], .next, none⟩
  | name {members : List (Text × Value)} {name : Text} (outside : inner = [])
    : Outermost inner (.object members) (.string name) ⟨[.member members name], .colon, none⟩
  | closed {members : List (Text × Value)} {token : Token}
    : Outermost inner (.object members) token ⟨[], .next, some (.object members)⟩

/-- A value that is delivered stays inside of the outermost frame, or is that of its last member. -/
theorem outermost_deliver (hkind : outer.isArray = false) {rest : List Frame}
    (h : deliver value (rest ++ [outer]) = some next)
    : Outermost inner outer token next := by
  cases rest with
  | nil =>
      cases outer with
      | array items => cases hkind
      | object members => cases h
      | member members name =>
          obtain rfl := Option.some.inj h
          exact .value value
  | cons top rest =>
      cases top with
      | array items =>
          obtain rfl := Option.some.inj h
          exact .inside (_ :: rest) _
      | object members => cases h
      | member members name =>
          obtain rfl := Option.some.inj h
          exact .inside (_ :: rest) _

/-- A token where a value is awaited does to the outermost frame what tokens do. -/
theorem outermost_takeValue (hkind : outer.isArray = false)
    (h : takeValue (inner ++ [outer]) token = some next)
    : Outermost inner outer token next := by
  have hopen : ∀ {frame : Frame} {awaited : Awaited},
      openFrame frame awaited (inner ++ [outer]) = some next → Outermost inner outer token next := by
    intro frame awaited h
    rw [openFrame] at h
    split at h
    · obtain rfl := Option.some.inj h
      exact .inside (frame :: inner) awaited
    · cases h
  cases token with
  | openArray | openObject => exact hopen h
  | string text | number value | null | boolean value => exact outermost_deliver hkind h
  | closeArray | closeObject | comma | colon => cases h

/-- A token where a name is awaited names a member, or closes the object. -/
theorem outermost_takeName (h : takeName (inner ++ [outer]) token = some next)
    : Outermost inner outer token next := by
  cases inner with
  | nil =>
      cases outer <;> cases token <;> cases h
      exact .name rfl
  | cons top inner =>
      cases top <;> cases token <;> cases h
      exact .inside (_ :: inner) _

/-- A token that closes a frame closes the outermost one, or one inside of it. -/
theorem outermost_close (hkind : outer.isArray = false)
    (h : close (inner ++ [outer]) token = some next)
    : Outermost inner outer token next := by
  cases inner with
  | nil =>
      cases outer with
      | array items => cases hkind
      | object members =>
          cases token <;> cases h
          exact .closed
      | member members name => cases token <;> cases h
  | cons top inner =>
      cases top with
      | array items =>
          cases token with
          | closeArray => exact outermost_deliver hkind h
          | _ => cases h
      | object members =>
          cases token with
          | closeObject => exact outermost_deliver hkind h
          | _ => cases h
      | member members name => cases token <;> cases h

/-- A token behind a value does to the outermost frame what tokens do. -/
theorem outermost_takeNext (hkind : outer.isArray = false)
    (h : takeNext (inner ++ [outer]) token = some next)
    : Outermost inner outer token next := by
  rw [takeNext.eq_def] at h
  split at h
  · rename_i items rest heq
    obtain rfl := Option.some.inj h
    rw [← heq]
    exact .inside inner _
  · rename_i members rest heq
    obtain rfl := Option.some.inj h
    rw [← heq]
    exact .inside inner _
  · exact outermost_close hkind h

/-- Whatever is awaited, a token does to the outermost frame what tokens do. -/
theorem outermost_take (hkind : outer.isArray = false)
    (h : Progress.take ⟨inner ++ [outer], awaited, none⟩ token = some next)
    : Outermost inner outer token next := by
  rw [Progress.take.eq_def] at h
  split at h
  · exact outermost_takeValue hkind h
  · split at h
    · exact outermost_close hkind h
    · exact outermost_takeValue hkind h
  · exact outermost_takeName h
  · split at h
    · exact outermost_close hkind h
    · exact outermost_takeName h
  · split at h
    · obtain rfl := Option.some.inj h
      exact .inside inner _
    · cases h
  · exact outermost_takeNext hkind h

end Progress

/-- A member of that name is named among the tokens where no more than `depth` brackets that were
open before them are closed. -/
def NamedAt (name : Text) (depth : Int) (tokens : List Token) : Prop :=
  ∃ before after, tokens = before ++ .string name :: .colon :: after ∧ depth + nesting before = 0

/-- A name at a depth behind a token stands as deep counted from before it. -/
theorem NamedAt.cons {name : Text} {depth : Int} {token : Token} {tokens : List Token}
    (h : NamedAt name (depth + token.turn) tokens)
    : NamedAt name depth (token :: tokens) := by
  obtain ⟨before, after, rfl, hdepth⟩ := h
  exact ⟨token :: before, after, rfl, by rw [nesting_cons]; omega⟩

/-- The members that an object begins with by what is read of it; the value of the last one may be
still open. -/
def Frame.Holds : Frame → List (Text × Value) → Prop
  | .object members, before => before = members
  | .member members name, before => ∃ value, before = members ++ [(name, value)]
  | .array _, _ => False

namespace Progress

variable {inner : List Frame} {awaited : Awaited} {tokens : List Token} {last : Progress}
  {all : List (Text × Value)}

/-- A finished run takes no further token, so its value stays. -/
theorem run_of_finished {value : Value}
    (hrun : tokens.foldlM Progress.take ⟨[], .next, some value⟩ = some last)
    : last.result = some value := by
  cases tokens with
  | nil =>
      obtain rfl := Option.some.inj hrun
      rfl
  | cons token tokens =>
      obtain ⟨next, htake, -⟩ := foldlM_take_cons hrun
      cases token <;> cases htake

/-- The members that are read of the outermost object are those that are named in it, behind the
ones that are read already, by induction on the tokens.
-/
theorem members_of_run {outer : Frame} (hkind : outer.isArray = false)
    (hrun : tokens.foldlM Progress.take ⟨inner ++ [outer], awaited, none⟩ = some last)
    (hresult : last.result = some (.object all))
    : ∃ before more, all = before ++ more ∧ outer.Holds before
        ∧ ∀ member ∈ more, NamedAt member.1 inner.length tokens := by
  induction tokens generalizing inner awaited outer with
  | nil =>
      obtain rfl := Option.some.inj hrun
      cases hresult
  | cons token tokens ih =>
      obtain ⟨next, htake, hnext⟩ := foldlM_take_cons hrun
      have hlength := length_take htake
      cases outermost_take hkind htake with
      | inside frames awaited =>
          obtain ⟨before, more, hall, hholds, hnamed⟩ := ih hkind hnext
          have hdepth : (frames.length : Int) = inner.length + token.turn := by
            simp only [List.length_append, List.length_singleton] at hlength
            omega
          rw [hdepth] at hnamed
          exact ⟨before, more, hall, hholds, fun member hmem => (hnamed member hmem).cons⟩
      | @value members name token value =>
          obtain ⟨before, more, hall, rfl, hnamed⟩ :=
            @ih [] .next (.object (members ++ [(name, value)])) rfl hnext
          have hdepth : (([] : List Frame).length : Int) = inner.length + token.turn := by
            simp only [List.length_append, List.length_singleton] at hlength
            simp
            omega
          rw [hdepth] at hnamed
          exact ⟨_, more, hall, ⟨value, rfl⟩, fun member hmem => (hnamed member hmem).cons⟩
      | @name members name outside =>
          subst outside
          obtain ⟨before, more, rfl, ⟨value, rfl⟩, hnamed⟩ :=
            @ih [] .colon (.member members name) rfl hnext
          refine ⟨members, (name, value) :: more, by simp, rfl, ?_⟩
          rw [List.forall_mem_cons]
          refine ⟨?_, fun member hmem => NamedAt.cons (by simpa [Token.turn] using hnamed member hmem)⟩
          -- Behind the name of a member nothing but the colon is taken.
          cases tokens with
          | nil =>
              obtain rfl := Option.some.inj hnext
              cases hresult
          | cons token tokens =>
              obtain ⟨behind, hcolon, -⟩ := foldlM_take_cons hnext
              cases token <;> cases hcolon
              exact ⟨[], tokens, rfl, rfl⟩
      | closed =>
          have hsame := run_of_finished hnext
          rw [hresult] at hsame
          obtain rfl := Value.object.inj (Option.some.inj hsame)
          exact ⟨all, [], (List.append_nil all).symm, rfl, fun member hmem => nomatch hmem⟩

/-- A string that is followed by a colon names a member of the innermost object. -/
theorem exists_members_of_name {progress middle next : Progress} {name : Text}
    (hname : progress.take (.string name) = some middle) (hcolon : middle.take .colon = some next)
    : ∃ members frames, progress.frames = .object members :: frames
        ∧ next = ⟨.member members name :: frames, .value, none⟩ := by
  obtain ⟨frames, awaited, result⟩ := progress
  have hdelivered : ∀ {value : Value}, deliver value frames = some middle → False := by
    intro value h
    rw [deliver.eq_def] at h
    split at h
    all_goals cases h <;> cases hcolon
  cases awaited with
  | value => exact (hdelivered hname).elim
  | firstValue => exact (hdelivered hname).elim
  | name | firstName =>
      rcases frames with _ | ⟨_ | members | _, frames⟩
      · cases hname
      · cases hname
      · obtain rfl := Option.some.inj hname
        obtain rfl := Option.some.inj hcolon
        exact ⟨members, frames, rfl, rfl⟩
      · cases hname
  | colon => cases hname
  | next => rcases frames with _ | ⟨_ | _ | _, _⟩ <;> cases hname

end Progress

/-- A text ends where the value of a member of that name is awaited, with a single bracket open. -/
def AwaitsMember (name before : Text) : Prop :=
  ∃ opening, tokens? before = some (opening ++ [.string name, .colon]) ∧ nesting opening = 1

/-- A member of that name is named behind the value of another one, in the same object. -/
def NamesMember (name after : Text) : Prop :=
  ∃ tokens, tokens? after = some tokens ∧ NamedAt name 0 tokens

/-- A text in which a string is nowhere a token names no member by it. -/
theorem not_namesMember {name after : Text} {tokens : List Token} (h : tokens? after = some tokens)
    (hnone : Token.string name ∉ tokens)
    : ¬NamesMember name after := by
  rintro ⟨others, hothers, before, behind, rfl, -⟩
  rw [Option.some.inj (h.symm.trans hothers)] at hnone
  exact hnone (by simp)

/-- A number behind a name and a colon, with one bracket open in front of them, is the value of a
member of that name, and only members that are named behind it follow. -/
theorem exists_members_of_number {opening after : List Token} {name : Text} {number : Number}
    {last : Progress} {all : List (Text × Value)} (hdepth : nesting opening = 1)
    (hrun : (opening ++ .string name :: .colon :: .number number :: after).foldlM Progress.take
      .start = some last)
    (hresult : last.result = some (.object all))
    : ∃ members more, all = members ++ (name, .number number) :: more
        ∧ ∀ member ∈ more, NamedAt member.1 0 after := by
  rw [List.foldlM_append, Option.bind_eq_bind, Option.bind_eq_some_iff] at hrun
  obtain ⟨progress, hopening, hrun⟩ := hrun
  obtain ⟨middle, hname, hrun⟩ := Progress.foldlM_take_cons hrun
  obtain ⟨next, hcolon, hrun⟩ := Progress.foldlM_take_cons hrun
  obtain ⟨behind, hnumber, hrun⟩ := Progress.foldlM_take_cons hrun
  obtain ⟨members, frames, hframes, rfl⟩ := Progress.exists_members_of_name hname hcolon
  have hlength := Progress.length_run hopening
  have hstart : Progress.start.frames = [] := rfl
  rw [hdepth, hframes, hstart, List.length_cons, List.length_nil] at hlength
  obtain rfl : frames = [] := List.length_eq_zero_iff.mp (by omega)
  obtain rfl := Option.some.inj hnumber
  have hobject : after.foldlM Progress.take
      ⟨[] ++ [.object (members ++ [(name, .number number)])], .next, none⟩ = some last := hrun
  obtain ⟨before, more, rfl, rfl, hnamed⟩ := Progress.members_of_run rfl hobject hresult
  exact ⟨members, more, by simp, hnamed⟩

end LeasePapers.Json
