import LeasePapers.Command.Program
import LeasePapers.Proofs.Command.Inputs

/-! What a call of the program comes to. Its inputs are tried one after the other; the first that is
wrong decides the failure, and then nothing has been printed and no file touched. Behind that only
the writing of a document can fail, and only the check of a template can find problems.
-/

namespace LeasePapers.Command

section

variable [Redaction.Patterns]

-----------------------------------------------------------------------------------------
-- The cases of a call
-----------------------------------------------------------------------------------------

/-- A call that asks for a command comes to an answer and leaves the files in a state, in one of
five ways. -/
inductive ComesTo {State : Type} (storage : Storage State) (state : State)
    (moment : Calendar.Moment) (invocation : Invocation)
    : Answer → State → Prop where
  | faulty {failure : Failure}
      (hfirst : Input.FirstFails (storage.read state) failure invocation.needs)
      : ComesTo storage state moment invocation ⟨[], 1, some failure⟩ state
  | unwritable {path document : Text} {fault : FileFault} {left : State}
      (hsound : ∀ input ∈ invocation.needs, input.Sound (storage.read state))
      (hsaves : Saves (storage.read state) moment invocation path document)
      (hwrite : storage.write state path document = (.error fault, left))
      : ComesTo storage state moment invocation ⟨[], 1, some (.unwritableDocument path fault)⟩ left
  | saved {path document : Text} {left : State}
      (hsound : ∀ input ∈ invocation.needs, input.Sound (storage.read state))
      (hsaves : Saves (storage.read state) moment invocation path document)
      (hwrite : storage.write state path document = (.ok (), left))
      : ComesTo storage state moment invocation ⟨[], 0, none⟩ left
  | finding {count : Nat} {printed : Text}
      (hsound : ∀ input ∈ invocation.needs, input.Sound (storage.read state))
      (hfinds : Finds (storage.read state) invocation count)
      : ComesTo storage state moment invocation
          ⟨printed, 2, some (.problemsInTemplate count)⟩ state
  | printing {printed : Text}
      (hsound : ∀ input ∈ invocation.needs, input.Sound (storage.read state))
      (hsaves : ∀ path document, ¬Saves (storage.read state) moment invocation path document)
      (hfinds : ∀ count, ¬Finds (storage.read state) invocation count)
      : ComesTo storage state moment invocation ⟨printed, 0, none⟩ state

/-- There are no further cases: the first fault of the inputs, or one of the three things that a run
with sound inputs does, and what an attempt to write comes to. -/
theorem comesTo_callIn {State : Type} (storage : Storage State) (state : State)
    (moment : Calendar.Moment) {words : List Text} {invocation : Invocation}
    (h : ofWords words = .ok invocation)
    : ComesTo storage state moment invocation (callIn storage state moment words).1
        (callIn storage state moment words).2 := by
  simp only [callIn, h, Storage.run, Storage.save]
  rcases Input.sound_or_firstFails (storage.read state) invocation.needs
    with hsound | ⟨failure, hfirst⟩
  · rcases run_of_sound hsound moment with ⟨path, document, hsaves, hrun⟩
      | ⟨count, printed, hfinds, hrun⟩ | ⟨hsaves, hfinds, printed, hrun⟩
    · rw [hrun]
      rcases hwrite : storage.write state path document with ⟨fault | ⟨⟩, left⟩
      · simp only [hwrite]
        exact .unwritable hsound hsaves hwrite
      · simp only [hwrite]
        exact .saved hsound hsaves hwrite
    · rw [hrun]
      exact .finding hsound hfinds
    · rw [hrun]
      exact .printing hsound hsaves hfinds
  · rw [run_of_firstFails hfirst]
    simp only [Outcome.fails, Outcome.exitCode, hfirst.exitCode]
    exact .faulty hfirst

-----------------------------------------------------------------------------------------
-- Exit codes
-----------------------------------------------------------------------------------------

section

variable {files : Reading} {moment : Calendar.Moment} {invocation : Invocation}

/-- There is no more than one document to be saved. -/
theorem Saves.unique {path document path' document' : Text}
    (h : Saves files moment invocation path document)
    (h' : Saves files moment invocation path' document')
    : path = path' ∧ document = document' := by
  obtain ⟨_, _, _, _, _, _, hcommand, hsettings, hsource, hform, rfl⟩ := h
  obtain ⟨_, _, _, _, _, _, hcommand', hsettings', hsource', hform', rfl⟩ := h'
  rw [hcommand] at hcommand'
  cases hcommand'
  rw [hsettings] at hsettings'
  cases hsettings'
  rw [hsource] at hsource'
  cases hsource'
  rw [hform] at hform'
  cases hform'
  exact ⟨rfl, rfl⟩

/-- A command that saves a document finds no issues. -/
theorem Saves.not_finds {path document : Text} (h : Saves files moment invocation path document)
    (count : Nat)
    : ¬Finds files invocation count := by
  obtain ⟨_, _, _, _, _, _, hcommand, -⟩ := h
  rintro ⟨_, _, _, hcommand', -⟩
  rw [hcommand] at hcommand'
  cases hcommand'

end

/-- A run has a document to save and cannot write it; the attempt leaves the files in a state. -/
def FailsToSave {State : Type} (storage : Storage State) (state : State)
    (moment : Calendar.Moment) (invocation : Invocation) (left : State)
    : Prop :=
  ∃ path document fault,
    Saves (storage.read state) moment invocation path document
    ∧ storage.write state path document = (.error fault, left)

section

variable {State : Type} {storage : Storage State} {state left : State}
variable {moment : Calendar.Moment} {invocation : Invocation} {answer : Answer}

/-- The program ends with one if and only if an input fails or the document is not saved. -/
theorem ComesTo.exitCode_eq_one_iff (h : ComesTo storage state moment invocation answer left)
    : answer.exitCode = 1
      ↔ (∃ failure, Input.FirstFails (storage.read state) failure invocation.needs)
        ∨ ∃ left, FailsToSave storage state moment invocation left := by
  cases h with
  | faulty hfirst => exact iff_of_true rfl (.inl ⟨_, hfirst⟩)
  | unwritable hsound hsaves hwrite =>
      exact iff_of_true rfl (.inr ⟨_, _, _, _, hsaves, hwrite⟩)
  | saved hsound hsaves hwrite =>
      refine iff_of_false (by simp) ?_
      rintro (⟨_, hfirst⟩ | ⟨_, _, _, _, hsaves', hwrite'⟩)
      · exact hfirst.not_sound hsound
      · obtain ⟨rfl, rfl⟩ := hsaves.unique hsaves'
        rw [hwrite] at hwrite'
        cases hwrite'
  | finding hsound hfinds =>
      refine iff_of_false (by simp) ?_
      rintro (⟨_, hfirst⟩ | ⟨_, _, _, _, hsaves, -⟩)
      · exact hfirst.not_sound hsound
      · exact hsaves.not_finds _ hfinds
  | printing hsound hsaves hfinds =>
      refine iff_of_false (by simp) ?_
      rintro (⟨_, hfirst⟩ | ⟨_, _, _, _, hsaves', -⟩)
      · exact hfirst.not_sound hsound
      · exact hsaves _ _ hsaves'

/-- What is reported is the first failure of the inputs. -/
theorem ComesTo.failure_of_firstFails (h : ComesTo storage state moment invocation answer left)
    {failure : Failure}
    (hfirst : Input.FirstFails (storage.read state) failure invocation.needs)
    : answer.failure = some failure := by
  cases h with
  | faulty hfirst' => exact congrArg some (hfirst'.unique hfirst)
  | unwritable hsound | saved hsound | finding hsound | printing hsound =>
      exact absurd hsound hfirst.not_sound

/-- A program that fails prints nothing, and leaves everything as it was but for a failing write. -/
theorem ComesTo.clean (h : ComesTo storage state moment invocation answer left)
    (hcode : answer.exitCode = 1)
    : answer.printed = []
      ∧ (left = state ∨ FailsToSave storage state moment invocation left) := by
  cases h with
  | faulty => exact ⟨rfl, .inl rfl⟩
  | unwritable _ hsaves hwrite => exact ⟨rfl, .inr ⟨_, _, _, hsaves, hwrite⟩⟩
  | saved | finding | printing => cases hcode

/-- The program ends with two if and only if a sound template has issues. -/
theorem ComesTo.exitCode_eq_two_iff (h : ComesTo storage state moment invocation answer left)
    : answer.exitCode = 2
      ↔ (∀ input ∈ invocation.needs, input.Sound (storage.read state))
        ∧ ∃ count, Finds (storage.read state) invocation count := by
  cases h with
  | faulty hfirst => exact iff_of_false (by simp) (fun h => hfirst.not_sound h.1)
  | unwritable _ hsaves | saved _ hsaves =>
      exact iff_of_false (by simp) (fun ⟨_, _, hfinds⟩ => hsaves.not_finds _ hfinds)
  | finding hsound hfinds => exact iff_of_true rfl ⟨hsound, _, hfinds⟩
  | printing _ _ hfinds =>
      exact iff_of_false (by simp) (fun ⟨_, count, hfinds'⟩ => hfinds count hfinds')

/-- A program that ends otherwise succeeds, and reports nothing. -/
theorem ComesTo.succeeds (h : ComesTo storage state moment invocation answer left)
    (hone : answer.exitCode ≠ 1) (htwo : answer.exitCode ≠ 2)
    : answer.exitCode = 0 ∧ answer.failure = none := by
  cases h with
  | faulty | unwritable => exact absurd rfl hone
  | saved | printing => exact ⟨rfl, rfl⟩
  | finding => exact absurd rfl htwo

end

/-- A call that fails with exit code 1 prints nothing and leaves its folder as it was, whatever its
words are; a command line that is refused has another exit code. -/
theorem call_of_exitCode_eq_one {folder : Folder} {moment : Calendar.Moment} {words : List Text}
    (h : (call folder moment words).exitCode = 1)
    : (call folder moment words).printed = [] ∧ (call folder moment words).folder = folder := by
  have hcode : (callIn Folder.storage folder moment words).1.exitCode = 1 := h
  suffices hclean : (callIn Folder.storage folder moment words).1.printed = []
      ∧ (callIn Folder.storage folder moment words).2 = folder from hclean
  cases hwords : ofWords words with
  | error ending =>
      rw [callIn, hwords] at hcode
      cases ending <;> cases hcode
  | ok invocation =>
      obtain ⟨hprinted, hsame | ⟨path, document, fault, -, hwrite⟩⟩ :=
        (comesTo_callIn Folder.storage folder moment hwords).clean hcode
      · exact ⟨hprinted, hsame⟩
      · refine ⟨hprinted, ?_⟩
        generalize (callIn Folder.storage folder moment words).2 = left at hwrite
        simp only [Folder.storage] at hwrite
        cases hfolder : folder.write path document with
        | ok written =>
            rw [hfolder] at hwrite
            cases hwrite
        | error found =>
            rw [hfolder] at hwrite
            exact (congrArg Prod.snd hwrite).symm

/-- An answer does not change with files that the command line does not name, as long as attempts to
write come to the same. -/
theorem callIn_congr {State : Type} {storage : Storage State} {state other : State}
    (moment : Calendar.Moment) {words : List Text} {invocation : Invocation}
    (h : ofWords words = .ok invocation)
    (hread : ∀ path ∈ invocation.inputs, storage.read other path = storage.read state path)
    (hwrite : ∀ path text,
      (storage.write other path text).1 = (storage.write state path text).1)
    : (callIn storage other moment words).1 = (callIn storage state moment words).1 := by
  simp only [callIn, h, Storage.run, Storage.save, run_congr hread]
  cases hsaved : (run (storage.read state) moment invocation).saved with
  | none => rfl
  | some saved =>
      obtain ⟨path, text⟩ := saved
      have hsame := hwrite path text
      rcases hother : storage.write other path text with ⟨written, left⟩
      rcases hstate : storage.write state path text with ⟨written', left'⟩
      rw [hother, hstate] at hsame
      cases hsame
      simp only [hother, hstate]
      cases written <;> rfl

/-- A call fails with exit code 1 exactly if something is wrong with an input, the first of which
decides the failure, or the document cannot be written; nothing is printed then, and only a failing
attempt to write may have touched the files. It fails with exit code 2 exactly if its inputs are
sound and it checks a template that has problems, and it succeeds otherwise. Other files than those
of the command line have no say in its answer. -/
theorem callIn_outcome {State : Type} (storage : Storage State) (state : State)
    (moment : Calendar.Moment) {words : List Text} {invocation : Invocation}
    (h : ofWords words = .ok invocation)
    : ∃ answer left, callIn storage state moment words = (answer, left)
      ∧ (answer.exitCode = 1
        ↔ (∃ failure, Input.FirstFails (storage.read state) failure invocation.needs)
          ∨ ∃ left, FailsToSave storage state moment invocation left)
      ∧ (∀ failure, Input.FirstFails (storage.read state) failure invocation.needs →
        answer.failure = some failure)
      ∧ (answer.exitCode = 1 →
        answer.printed = []
        ∧ (left = state ∨ FailsToSave storage state moment invocation left))
      ∧ (answer.exitCode = 2
        ↔ (∀ input ∈ invocation.needs, input.Sound (storage.read state))
          ∧ ∃ count, Finds (storage.read state) invocation count)
      ∧ (answer.exitCode ≠ 1 → answer.exitCode ≠ 2 →
        answer.exitCode = 0 ∧ answer.failure = none)
      ∧ ∀ other,
        (∀ path ∈ invocation.inputs, storage.read other path = storage.read state path) →
        (∀ path text, (storage.write other path text).1 = (storage.write state path text).1) →
        (callIn storage other moment words).1 = answer := by
  have hcomes := comesTo_callIn storage state moment h
  refine ⟨_, _, rfl, hcomes.exitCode_eq_one_iff,
    fun _ hfirst => hcomes.failure_of_firstFails hfirst, hcomes.clean, hcomes.exitCode_eq_two_iff,
    hcomes.succeeds, ?_⟩
  intro other hread hwrite
  exact callIn_congr moment h hread hwrite

end

/-- A form that is missing is found out behind a template that is there; the call fails with that,
and leaves the folder as it was. -/
theorem callIn_outcome_missingForm
    : ofWords ["render", "t", "-f", "f"] = .ok ⟨none, .render ['t'] ['f'] false none⟩
      ∧ callIn Folder.storage ⟨[([['t']], [])]⟩ ⟨⟨2024, 5, 20, by decide⟩, 9⟩
          ["render", "t", "-f", "f"]
        = (⟨[], 1, some (.unreadableFields ['f'] .missing)⟩, ⟨[([['t']], [])]⟩) := by
  have hwords : ofWords ["render", "t", "-f", "f"]
      = .ok ⟨none, .render ['t'] ['f'] false none⟩ :=
    rfl
  have hread : Folder.storage.read ⟨[([['t']], [])]⟩ ['t'] = .ok [] := rfl
  have hmissing : Folder.storage.read ⟨[([['t']], [])]⟩ ['f'] = .error .missing := rfl
  refine ⟨hwords, ?_⟩
  obtain ⟨⟨printed, code, failure⟩, left, hcall, hone, hfirst, hclean, -⟩ :=
    callIn_outcome Folder.storage ⟨[([['t']], [])]⟩ ⟨⟨2024, 5, 20, by decide⟩, 9⟩ hwords
  have hfails : Input.FirstFails (Folder.storage.read ⟨[([['t']], [])]⟩)
      (.unreadableFields ['f'] .missing) [.template ['t'], .fields ['f']] := by
    refine .later ?_ (.here (.unreadable hmissing))
    intro failure hfails
    cases hfails with
    | unreadable hread' => cases hread.symm.trans hread'
  have hcode : code = 1 := hone.mpr (.inl ⟨_, hfails⟩)
  have hfailure : failure = _ := hfirst _ hfails
  obtain ⟨hprinted, rfl | ⟨_, _, _, hsaves, -⟩⟩ := hclean hcode
  · rw [hcall]
    cases hcode
    cases hfailure
    cases hprinted
    rfl
  · exact absurd hsaves (not_saves (by simp) _ _)

end LeasePapers.Command
