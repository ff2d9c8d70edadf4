import LeasePapers.Proofs.Template.Append

/-! How deep blocks are nested while a template is read. Never more than the deepest nesting of
blocks is open, and openers are refused where so many are; the blocks refused are forgotten with
their closers. A closer that closes a block around a refused one leaves that one behind, and from
then on openers are refused wherever they stand.
-/

namespace LeasePapers.Template

namespace Builder

/-- What has been built of the segments read so far. -/
def reading (segments : List Segment) : Builder :=
  segments.foldl step start

/-- Reading one segment more is a step. -/
theorem reading_concat (segments : List Segment) (segment : Segment)
    : reading (segments ++ [segment]) = (reading segments).step segment := by
  rw [reading, List.foldl_append]
  rfl

/-- The position is the size of what was read. -/
theorem position_reading (segments : List Segment)
    : (reading segments).position = Text.byteSize (segments.flatMap Segment.raw) := by
  rw [reading, position_run]
  exact Nat.zero_add _

/-- A segment closes an open block although a block that nests too deep was opened inside of it and
has not been closed.
-/
def Leaves (b : Builder) (segment : Segment) : Prop :=
  ∃ inner name kind rest,
    segment = .tag inner ∧ Tag.ofInner inner = .closer name
    ∧ b.tooDeep = kind :: rest ∧ kind.name ≠ name
    ∧ ∃ frame ∈ b.frames, frame.header.kind.name = name

/-- A block that nests too deep has been left behind: a block around it was closed before it, and
since then blocks that nest too deep have been open all the time.
-/
inductive Abandoned : List Segment → Prop
  | closed {read : List Segment} {segment : Segment} (leaves : (reading read).Leaves segment)
    : Abandoned (read ++ [segment])
  | later {read : List Segment} {segment : Segment} (abandoned : Abandoned read)
      (deep : (reading (read ++ [segment])).tooDeep ≠ [])
    : Abandoned (read ++ [segment])

/-- Before anything is read, nothing is left behind. -/
theorem not_abandoned_nil : ¬Abandoned [] := by
  generalize hnil : ([] : List Segment) = read
  rintro (_ | _) <;> simp at hnil

/-- A block is left behind at a step, or was before and something is still nested too deep. -/
theorem abandoned_concat {read : List Segment} {segment : Segment}
    : Abandoned (read ++ [segment])
      ↔ (reading read).Leaves segment
        ∨ Abandoned read ∧ (reading (read ++ [segment])).tooDeep ≠ [] := by
  constructor
  · generalize hall : read ++ [segment] = all
    intro habandoned
    cases habandoned with
    | closed leaves =>
        obtain ⟨rfl, hlast⟩ := List.append_inj' hall rfl
        obtain rfl := List.singleton_inj.mp hlast
        exact Or.inl leaves
    | later abandoned deep =>
        obtain ⟨rfl, -⟩ := List.append_inj' hall rfl
        exact Or.inr ⟨abandoned, deep⟩
  · rintro (hleaves | ⟨habandoned, hdeep⟩)
    · exact .closed hleaves
    · exact .later habandoned hdeep

-----------------------------------------------------------------------------------------
-- One step
-----------------------------------------------------------------------------------------

/-- What a segment can do to the nesting: it keeps the number of open blocks, and refused blocks are
open after it only at the limit; or it opens a block where there is room; or it closes blocks.
-/
inductive Nests (b : Builder) (segment : Segment) (after : Builder) : Prop
  | level (frames : after.frames.length = b.frames.length)
      (limit : after.tooDeep ≠ [] → b.isAtLimit = true) (stays : ¬b.Leaves segment)
  | opened (allowed : b.tooDeep = []) (deep : after.tooDeep = [])
      (room : b.frames.length < deepestNesting)
      (frames : after.frames.length = b.frames.length + 1)
  | closed (deep : after.tooDeep = b.tooDeep) (frames : after.frames.length < b.frames.length)
      (leaves : b.tooDeep ≠ [] → b.Leaves segment)

variable {b : Builder}

/-- The limit is reached while something is nested too deep, or as many blocks are open as may be.
-/
theorem isAtLimit_eq_true_iff
    : b.isAtLimit = true ↔ b.tooDeep ≠ [] ∨ deepestNesting ≤ b.frames.length := by
  simp [isAtLimit]

/-- Where nothing is nested too deep, nothing is left behind. -/
theorem not_leaves_of_tooDeep_nil (h : b.tooDeep = []) (segment : Segment)
    : ¬b.Leaves segment := by
  rintro ⟨_, _, _, _, -, -, hdeep, -⟩
  simp [h] at hdeep

/-- Only a closer leaves anything behind. -/
theorem not_leaves_of_meaning {inner : Text} (h : ∀ name, Tag.ofInner inner ≠ .closer name)
    : ¬b.Leaves (.tag inner) := by
  rintro ⟨_, name, _, _, htag, hcloser, -⟩
  obtain rfl := Segment.tag.inj htag
  exact h name hcloser

/-- Giving up blocks keeps what is nested too deep, by induction on their number. -/
theorem tooDeep_unwindMany (b : Builder) (count : Nat)
    : (b.unwindMany count).tooDeep = b.tooDeep := by
  induction count generalizing b with
  | zero => rfl
  | succ count ih =>
      rw [unwindMany, ih, unwind]
      split
      · rfl
      · rw [tooDeep_add]
        rfl

/-- Closing a block keeps what is nested too deep. -/
@[simp] theorem tooDeep_closeTop (b : Builder) : b.closeTop.tooDeep = b.tooDeep := by
  unfold closeTop
  split
  · rfl
  · rw [tooDeep_add]

/-- Closing a block leaves one fewer. -/
theorem length_frames_closeTop (b : Builder)
    : b.closeTop.frames.length = b.frames.length - 1 := by
  unfold closeTop
  split
  · simp_all
  · rename_i hframes
    simp [hframes]

/-- Giving up blocks leaves so many fewer. -/
theorem length_frames_unwindMany (b : Builder) (count : Nat)
    : (b.unwindMany count).frames.length = b.frames.length - count := by
  have hlength := congrArg List.length (headers_unwindMany b count)
  rwa [List.length_map, List.length_drop, List.length_map] at hlength

/-- A closer closes blocks if there is an open block of its name, and otherwise it closes none. -/
theorem close_nests (b : Builder) (name raw : Text)
    : (b.close name raw).tooDeep = b.tooDeep
      ∧ ((∃ frame ∈ b.frames, frame.header.kind.name = name)
          ∧ (b.close name raw).frames.length < b.frames.length
        ∨ (¬∃ frame ∈ b.frames, frame.header.kind.name = name)
          ∧ (b.close name raw).frames.length = b.frames.length) := by
  cases hframes : b.frames with
  | nil => simp [close, hframes, refuse, literal, report]
  | cons top rest =>
      rw [close_cons b hframes]
      generalize hreported : (if top.header.kind.name = name then b
        else b.report (.mismatchedCloser top.header.kind name) b.position) = reported
      have hsame : reported.frames = b.frames ∧ reported.tooDeep = b.tooDeep := by
        rw [← hreported]
        split <;> exact ⟨rfl, rfl⟩
      rw [← hframes, ← hsame.1, ← hsame.2, closeNamed]
      split
      · rename_i hnone
        refine ⟨by simp [literal], Or.inr ⟨?_, by simp [literal]⟩⟩
        simpa using hnone
      · rename_i depth hdepth
        obtain ⟨hlt, hname, -⟩ := List.findIdx?_eq_some_iff_getElem.mp hdepth
        refine ⟨by rw [tooDeep_closeTop, tooDeep_unwindMany], Or.inl ⟨?_, ?_⟩⟩
        · exact ⟨_, List.getElem_mem hlt, by simpa using hname⟩
        · rw [length_frames_closeTop, length_frames_unwindMany]
          omega

/-- An else branch keeps what is nested too deep. -/
@[simp] theorem tooDeep_beginElse (b : Builder) (raw : Text)
    : (b.beginElse raw).tooDeep = b.tooDeep := by
  unfold beginElse
  repeat' split
  all_goals simp [refuse, literal, report]

/-- An else branch keeps the open blocks. -/
@[simp] theorem length_frames_beginElse (b : Builder) (raw : Text)
    : (b.beginElse raw).frames.length = b.frames.length := by
  unfold beginElse
  split
  · rename_i hframes
    split <;> simp [refuse, literal, report, hframes]
  · simp [refuse, literal, report]

/-- The limit is reached while something is nested too deep. -/
theorem isAtLimit_of_tooDeep (h : b.tooDeep ≠ []) : b.isAtLimit = true :=
  isAtLimit_eq_true_iff.mpr (Or.inl h)

/-- A closer that does not belong to the innermost refused block closes blocks or none. -/
theorem apply_closer_nests {inner name : Text} (hmeaning : Tag.ofInner inner = .closer name)
    (hother : ∀ kind rest, b.tooDeep = kind :: rest → kind.name ≠ name)
    : Nests b (.tag inner) (b.apply (tagText inner) (.closer name)) := by
  obtain ⟨hdeep, ⟨hopen, hless⟩ | ⟨hnone, hsame⟩⟩ :=
    close_nests { b with closed := b.closed + 1 } name (tagText inner)
  · refine .closed hdeep hless (fun hsome => ?_)
    obtain ⟨kind, rest, hcons⟩ := List.exists_cons_of_ne_nil hsome
    exact ⟨inner, name, kind, rest, rfl, hmeaning, hcons, hother kind rest hcons, hopen⟩
  · refine .level hsame (fun hsome => isAtLimit_of_tooDeep (hdeep ▸ hsome)) ?_
    rintro ⟨_, _, _, _, htag, hcloser, -, -, hopen⟩
    obtain rfl := Segment.tag.inj htag
    obtain rfl := Tag.closer.inj (hmeaning.symm.trans hcloser)
    exact hnone hopen

/-- Tags that neither open nor close a block leave the nesting as it is. -/
theorem apply_inner_nests {inner : Text} {tag : Tag} (hmeaning : Tag.ofInner inner = tag)
    (hopener : ∀ header, tag ≠ .opener header) (hcloser : ∀ name, tag ≠ .closer name)
    : Nests b (.tag inner) (b.apply (tagText inner) tag) := by
  have hframes : (b.apply (tagText inner) tag).frames.length = b.frames.length := by
    cases tag with
    | opener header => exact absurd rfl (hopener header)
    | closer name => exact absurd rfl (hcloser name)
    | leaf | otherwise | literal => simp [apply, refuse, literal, report]
  have hdeep : (b.apply (tagText inner) tag).tooDeep = b.tooDeep := by
    cases tag with
    | opener header => exact absurd rfl (hopener header)
    | closer name => exact absurd rfl (hcloser name)
    | leaf | otherwise | literal => simp [apply, refuse, literal, report]
  exact .level hframes (fun hsome => isAtLimit_of_tooDeep (hdeep ▸ hsome))
    (not_leaves_of_meaning (by rwa [hmeaning]))

/-- At the limit openers are refused, and a closer belongs to the innermost refused block or closes
blocks outside of it.
-/
theorem applyAtLimit_nests {inner : Text} {tag : Tag} (hmeaning : Tag.ofInner inner = tag)
    (hlimit : b.isAtLimit = true)
    : Nests b (.tag inner) (b.applyAtLimit (tagText inner) tag) := by
  cases tag with
  | leaf node => exact apply_inner_nests hmeaning (by simp) (by simp)
  | literal problem => exact apply_inner_nests hmeaning (by simp) (by simp)
  | opener header =>
      refine .level ?_ (fun _ => hlimit) (not_leaves_of_meaning (by simp [hmeaning]))
      simp [applyAtLimit, refuseDeep, refuse, literal, report]
  | otherwise =>
      rw [applyAtLimit]
      split
      · exact apply_inner_nests hmeaning (by simp) (by simp)
      · exact .level (by simp [literal]) (fun _ => hlimit)
          (not_leaves_of_meaning (by simp [hmeaning]))
  | closer name =>
      rw [applyAtLimit]
      split
      · rename_i kind rest hdeep
        split
        · rename_i hname
          refine .level (by simp [literal]) (fun _ => hlimit) ?_
          rintro ⟨_, _, _, _, htag, hcloser, hcons, hne, -⟩
          obtain rfl := Segment.tag.inj htag
          obtain rfl := Tag.closer.inj (hmeaning.symm.trans hcloser)
          obtain ⟨rfl, -⟩ := List.cons.inj (hdeep.symm.trans hcons)
          exact hne hname
        · rename_i hname
          refine apply_closer_nests hmeaning (fun other more hcons => ?_)
          obtain ⟨rfl, -⟩ := List.cons.inj (hdeep.symm.trans hcons)
          exact hname
      · rename_i hdeep
        exact apply_closer_nests hmeaning (by simp [hdeep])

/-- Every segment does one of the three things to the nesting. -/
theorem take_nests (b : Builder) (segment : Segment) : Nests b segment (b.take segment) := by
  cases segment with
  | text content =>
      refine .level (by simp [take, literal]) (fun hsome => isAtLimit_of_tooDeep ?_) ?_
      · simpa [take, literal] using hsome
      · rintro ⟨_, _, _, _, htag, -⟩
        cases htag
  | unterminated raw =>
      refine .level (by simp [take, refuse, literal, report])
        (fun hsome => isAtLimit_of_tooDeep ?_) ?_
      · simpa [take, refuse, literal, report] using hsome
      · rintro ⟨_, _, _, _, htag, -⟩
        cases htag
  | tag inner =>
      simp only [take]
      split
      · rename_i hlimit
        exact applyAtLimit_nests rfl hlimit
      · rename_i hlimit
        rw [isAtLimit_eq_true_iff, not_or, not_not, not_le] at hlimit
        obtain ⟨hdeep, hroom⟩ := hlimit
        cases hmeaning : Tag.ofInner inner with
        | leaf node => exact apply_inner_nests hmeaning (by simp) (by simp)
        | literal problem => exact apply_inner_nests hmeaning (by simp) (by simp)
        | otherwise => exact apply_inner_nests hmeaning (by simp) (by simp)
        | closer name => exact apply_closer_nests hmeaning (by simp [hdeep])
        | opener header => exact .opened hdeep hdeep hroom rfl

-----------------------------------------------------------------------------------------
-- The run
-----------------------------------------------------------------------------------------

/-- No more blocks are open than may be. While refused blocks are open, just so many are, unless
one of them has been left behind; then there are fewer.
-/
structure Nested (b : Builder) (read : List Segment) : Prop where
  room : b.frames.length ≤ deepestNesting
  full : b.tooDeep ≠ [] → ¬Abandoned read → b.frames.length = deepestNesting
  left : Abandoned read → b.tooDeep ≠ [] ∧ b.frames.length < deepestNesting

/-- Before anything is read, nothing is nested. -/
theorem nested_start : start.Nested [] :=
  ⟨Nat.zero_le _, fun hdeep => absurd rfl hdeep, fun hread => absurd hread not_abandoned_nil⟩

/-- Every step keeps the invariant. -/
theorem Nested.step {read : List Segment} {segment : Segment} (h : (reading read).Nested read)
    : (reading (read ++ [segment])).Nested (read ++ [segment]) := by
  obtain ⟨hroom, hfull, hleft⟩ := h
  have hconcat := @abandoned_concat read segment
  have htake := take_nests (reading read) segment
  rw [reading_concat] at hconcat ⊢
  change _ ↔ _ ∨ _ ∧ ((reading read).take segment).tooDeep ≠ [] at hconcat
  cases htake with
  | level frames limit stays =>
      rw [or_iff_right stays] at hconcat
      refine ⟨frames.trans_le hroom, fun hdeep hread => ?_, fun hread => ?_⟩
      · have hbefore : ¬Abandoned read := fun habandoned => hread (hconcat.mpr ⟨habandoned, hdeep⟩)
        refine Eq.trans frames ?_
        rcases isAtLimit_eq_true_iff.mp (limit hdeep) with hsome | hlimit
        · exact hfull hsome hbefore
        · exact Nat.le_antisymm hroom hlimit
      · obtain ⟨habandoned, hdeep⟩ := hconcat.mp hread
        exact ⟨hdeep, frames.trans_lt (hleft habandoned).2⟩
  | opened allowed deep room frames =>
      have hstays : ¬Abandoned (read ++ [segment]) := by
        rw [hconcat]
        rintro (hleaves | ⟨-, hdeep⟩)
        · exact not_leaves_of_tooDeep_nil allowed segment hleaves
        · exact hdeep deep
      exact ⟨frames.trans_le room, fun hdeep => absurd deep hdeep,
        fun hread => absurd hread hstays⟩
  | closed deep frames leaves =>
      refine ⟨(frames.trans_le hroom).le, fun hdeep hread => ?_, fun hread => ?_⟩
      · exact absurd (hconcat.mpr (Or.inl (leaves (deep ▸ hdeep)))) hread
      · refine ⟨?_, frames.trans_le hroom⟩
        rcases hconcat.mp hread with ⟨_, _, _, _, -, -, hcons, -⟩ | ⟨-, hdeep⟩
        · rw [Builder.step, deep, hcons]
          exact List.cons_ne_nil _ _
        · exact hdeep

/-- Every run keeps the invariant, by induction on the segments from the last one. -/
theorem nested_reading (read : List Segment) : (reading read).Nested read := by
  induction read using List.reverseRecOn with
  | nil => exact nested_start
  | append_singleton read segment ih => exact ih.step

-----------------------------------------------------------------------------------------
-- Reported openers
-----------------------------------------------------------------------------------------

/-- A block of a kind is reported at a position as nested too deep. -/
def Refused (b : Builder) (kind : Kind) (position : Nat) : Prop :=
  .problem (.nestingTooDeep kind) position ∈ b.issues

variable {kind : Kind} {position : Nat}

/-- What was refused is seen from the issues. -/
theorem refused_of_issues {other : Builder} (h : other.issues = b.issues)
    : other.Refused kind position ↔ b.Refused kind position := by
  rw [Refused, Refused, h]

/-- A reported problem refuses what it says. -/
theorem refused_report {problem : Problem} {place : Nat}
    : (b.report problem place).Refused kind position
      ↔ b.Refused kind position ∨ .nestingTooDeep kind = problem ∧ position = place := by
  simp [Refused, report]

/-- Other problems refuse nothing. -/
theorem refused_report_of_ne (problem : Problem) {place : Nat}
    (h : ∀ kind, problem ≠ .nestingTooDeep kind)
    : (b.report problem place).Refused kind position ↔ b.Refused kind position := by
  rw [refused_report, or_iff_left]
  rintro ⟨hproblem, -⟩
  exact h kind hproblem.symm

/-- Adding nodes refuses nothing. -/
theorem refused_add (nodes : List Node)
    : (b.add nodes).Refused kind position ↔ b.Refused kind position :=
  refused_of_issues (issues_add b nodes)

/-- A segment that is refused for another problem is not nested too deep. -/
theorem refused_refuse_of_ne (problem : Problem) (h : ∀ kind, problem ≠ .nestingTooDeep kind)
    (raw : Text)
    : (b.refuse problem raw).Refused kind position ↔ b.Refused kind position :=
  (refused_add _).trans (refused_report_of_ne problem h)

/-- Giving up blocks refuses none as nested too deep, by induction on their number. -/
theorem refused_unwindMany (b : Builder) (count : Nat)
    : (b.unwindMany count).Refused kind position ↔ b.Refused kind position := by
  induction count generalizing b with
  | zero => rfl
  | succ count ih =>
      rw [unwindMany, ih, unwind]
      split
      · rfl
      · rw [refused_add, refused_report_of_ne (.unclosedBlock _) (by simp)]
        rfl

/-- Closing a block refuses nothing. -/
theorem refused_closeTop (b : Builder)
    : b.closeTop.Refused kind position ↔ b.Refused kind position := by
  unfold closeTop
  split
  · rfl
  · rw [refused_add]
    rfl

/-- A closer refuses nothing as nested too deep. -/
theorem refused_close (b : Builder) (name raw : Text)
    : (b.close name raw).Refused kind position ↔ b.Refused kind position := by
  cases hframes : b.frames with
  | nil =>
      simp only [close, hframes]
      exact refused_refuse_of_ne (.strayCloser name) (by simp) raw
  | cons top rest =>
      rw [close_cons b hframes, closeNamed]
      have hreported : (if top.header.kind.name = name then b
          else b.report (.mismatchedCloser top.header.kind name) b.position).Refused kind position
          ↔ b.Refused kind position := by
        split
        · rfl
        · exact refused_report_of_ne (.mismatchedCloser _ _) (by simp)
      rw [← hreported]
      split
      · exact refused_add _
      · rw [refused_closeTop, refused_unwindMany]

/-- An else branch refuses nothing as nested too deep. -/
theorem refused_beginElse (b : Builder) (raw : Text)
    : (b.beginElse raw).Refused kind position ↔ b.Refused kind position := by
  unfold beginElse
  split
  · split
    · rfl
    · exact refused_refuse_of_ne .strayElse nofun raw
  · exact refused_refuse_of_ne .strayElse nofun raw

/-- A tag by itself is never nested too deep. -/
theorem problem_ne_nestingTooDeep {inner : Text} {problem : Problem}
    (h : Tag.ofInner inner = .literal problem) (kind : Kind)
    : problem ≠ .nestingTooDeep kind := by
  rintro rfl
  unfold Tag.ofInner openerTag leafTag at h
  grind

/-- Outside the limit nothing is reported as nested too deep. -/
theorem refused_apply {inner : Text} {tag : Tag} (hmeaning : Tag.ofInner inner = tag)
    : (b.apply (tagText inner) tag).Refused kind position ↔ b.Refused kind position := by
  cases tag with
  | leaf node => exact refused_add [node]
  | literal problem => exact refused_refuse_of_ne problem (problem_ne_nestingTooDeep hmeaning) _
  | opener header => rfl
  | otherwise => exact refused_beginElse b _
  | closer name => exact refused_close _ name _

/-- At the limit every opener is reported, and nothing else is reported as nested too deep. -/
theorem refused_applyAtLimit {inner : Text} {tag : Tag} (hmeaning : Tag.ofInner inner = tag)
    : (b.applyAtLimit (tagText inner) tag).Refused kind position
      ↔ b.Refused kind position
        ∨ ∃ header, tag = .opener header ∧ header.kind = kind ∧ b.position = position := by
  cases tag with
  | opener header =>
      have hrefuse : (b.applyAtLimit (tagText inner) (.opener header)).Refused kind position
          ↔ (b.report (.nestingTooDeep header.kind) b.position).Refused kind position :=
        refused_add _
      rw [hrefuse, refused_report]
      simp [eq_comm]
  | leaf node =>
      rw [or_iff_left (by simp)]
      exact refused_apply hmeaning
  | literal problem =>
      rw [or_iff_left (by simp)]
      exact refused_apply hmeaning
  | otherwise =>
      rw [or_iff_left (by simp), applyAtLimit]
      split
      · exact refused_apply hmeaning
      · exact refused_add _
  | closer name =>
      rw [or_iff_left (by simp), applyAtLimit]
      split
      · split
        · exact refused_add _
        · exact refused_apply hmeaning
      · exact refused_apply hmeaning

/-- A step reports as nested too deep just the openers at the limit. -/
theorem refused_step {segment : Segment}
    : (b.step segment).Refused kind position
      ↔ b.Refused kind position
        ∨ b.isAtLimit = true ∧ b.position = position
          ∧ ∃ inner header, segment = .tag inner ∧ Tag.ofInner inner = .opener header
            ∧ header.kind = kind := by
  have htake : (b.step segment).Refused kind position
      ↔ (b.take segment).Refused kind position := Iff.rfl
  rw [htake]
  cases segment with
  | text content =>
      rw [or_iff_left nofun]
      exact refused_add _
  | unterminated raw =>
      rw [or_iff_left nofun]
      exact refused_refuse_of_ne .unterminatedTag nofun raw
  | tag inner =>
      simp only [take]
      split
      · rename_i hlimit
        rw [refused_applyAtLimit rfl]
        simp [hlimit, and_comm, and_assoc]
      · rename_i hlimit
        rw [refused_apply rfl]
        simp [hlimit]

/-- The openers reported as nested too deep are those that were read at the limit, by induction on
the segments from the last one.
-/
theorem refused_reading (segments : List Segment)
    : (reading segments).Refused kind position
      ↔ ∃ read inner header rest, segments = read ++ .tag inner :: rest
        ∧ Tag.ofInner inner = .opener header ∧ header.kind = kind
        ∧ (reading read).position = position ∧ (reading read).isAtLimit = true := by
  induction segments using List.reverseRecOn with
  | nil => simp [reading, start, Refused]
  | append_singleton segments segment ih =>
      rw [reading_concat, refused_step, ih]
      constructor
      · rintro (⟨read, inner, header, rest, rfl, h⟩ | ⟨hlimit, hposition, inner, header, rfl, h⟩)
        · exact ⟨read, inner, header, rest ++ [segment], by simp, h⟩
        · exact ⟨segments, inner, header, [], rfl, h.1, h.2, hposition, hlimit⟩
      · rintro ⟨read, inner, header, rest, hall, hmeaning, hkind, hposition, hlimit⟩
        rcases List.eq_nil_or_concat rest with rfl | ⟨more, last, rfl⟩
        · obtain ⟨rfl, htag⟩ := List.append_inj' hall rfl
          obtain rfl := List.singleton_inj.mp htag
          exact Or.inr ⟨hlimit, hposition, inner, header, rfl, hmeaning, hkind⟩
        · rw [List.concat_eq_append, ← List.cons_append, ← List.append_assoc] at hall
          obtain ⟨rfl, -⟩ := List.append_inj' hall rfl
          exact Or.inl ⟨read, inner, header, more, rfl, hmeaning, hkind, hposition, hlimit⟩

/-- Unclosed blocks and counts are no matter of depth. -/
theorem refused_finish (b : Builder)
    : b.finish.Refused kind position ↔ b.Refused kind position := by
  rw [← refused_unwindMany b b.frames.length, finish]
  split
  · rfl
  · simp [Refused]

/-- Openers are refused where the deepest nesting is open, and behind a refused block that has been
left behind.
-/
theorem isAtLimit_reading (read : List Segment)
    : (reading read).isAtLimit = true
      ↔ (reading read).frames.length = deepestNesting ∨ Abandoned read := by
  obtain ⟨hroom, hfull, hleft⟩ := nested_reading read
  rw [isAtLimit_eq_true_iff]
  constructor
  · rintro (hdeep | hlimit)
    · exact (em (Abandoned read)).symm.imp_left (hfull hdeep)
    · exact Or.inl (Nat.le_antisymm hroom hlimit)
  · rintro (hlimit | habandoned)
    · exact Or.inr hlimit.ge
    · exact Or.inl (hleft habandoned).1

end Builder

open Builder

/-- The limit on nesting is exact up to blocks that are left behind. At no point of a template are
more blocks open than may nest, and while refused blocks are open exactly so many are, unless one of
them has been left behind; an opener is reported as nested too deep if and only if just so many
blocks are open around it, or a refused block has been left behind; everywhere else tags are taken
in as they are outside of deep blocks.
-/
theorem full_iff_not_abandoned (text : Text)
    : (∀ read, read <+: segments text →
        (reading read).frames.length ≤ deepestNesting
        ∧ ((reading read).tooDeep ≠ [] →
            ((reading read).frames.length = deepestNesting ↔ ¬Abandoned read)))
      ∧ (∀ kind position, .problem (.nestingTooDeep kind) position ∈ (ofText text).issues
          ↔ ∃ read inner header rest, segments text = read ++ .tag inner :: rest
            ∧ Tag.ofInner inner = .opener header ∧ header.kind = kind
            ∧ Text.byteSize (read.flatMap Segment.raw) = position
            ∧ ((reading read).frames.length = deepestNesting ∨ Abandoned read))
      ∧ (∀ read inner rest, segments text = read ++ .tag inner :: rest →
          (reading read).frames.length < deepestNesting → ¬Abandoned read →
          (reading read).take (.tag inner)
            = (reading read).apply (tagText inner) (Tag.ofInner inner)) := by
  refine ⟨fun read _ => ?_, fun kind position => ?_, fun read inner rest _ hroom hkept => ?_⟩
  · obtain ⟨hroom, hfull, hleft⟩ := nested_reading read
    refine ⟨hroom, fun hdeep => ⟨fun hlength habandoned => ?_, hfull hdeep⟩⟩
    exact (hleft habandoned).2.ne hlength
  · have hissues : (reading (segments text)).finish.Refused kind position ↔ _ :=
      (refused_finish _).trans (refused_reading (segments text))
    simp only [position_reading, isAtLimit_reading] at hissues
    exact hissues
  · have hlimit : ¬(reading read).isAtLimit = true := by
      rw [isAtLimit_reading, not_or]
      exact ⟨hroom.ne, hkept⟩
    simp only [take]
    rw [if_neg hlimit]

/-- As many blocks as may nest, a block in them that is never closed, the closers of those that are
open, and one more block.
-/
def leftBehind : Text :=
  (List.replicate deepestNesting ("\x7b\x7b#if a\x7d\x7d" : Text)).flatten
    ++ ("\x7b\x7b#each b\x7d\x7d" : Text)
    ++ (List.replicate deepestNesting ("\x7b\x7b/if\x7d\x7d" : Text)).flatten
    ++ ("\x7b\x7b#if a\x7d\x7dx\x7b\x7b/if\x7d\x7d" : Text)

/-- The last opener is reported as nested too deep although no block is open around it. -/
theorem nestingTooDeep_leftBehind
    : (segments leftBehind).drop 129 = [.tag "#if a", .text "x", .tag "/if"]
      ∧ (reading ((segments leftBehind).take 129)).tooDeep = [.each]
      ∧ (reading ((segments leftBehind).take 129)).frames.length = 0
      ∧ (reading ((segments leftBehind).take 129)).position = 1035
      ∧ .problem (.nestingTooDeep .present) 1035 ∈ (ofText leftBehind).issues
      ∧ render (ofText leftBehind) (TextMap.empty.insert "a" (.text "1")) .default
        = ("\x7b\x7b#each b\x7d\x7d\x7b\x7b#if a\x7d\x7dx\x7b\x7b/if\x7d\x7d" : Text) := by
  decide +kernel

end LeasePapers.Template
