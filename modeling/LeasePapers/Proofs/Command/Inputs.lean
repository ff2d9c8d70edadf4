import LeasePapers.Command.Run
import Mathlib.Tactic.SplitIfs

/-! The inputs of a run, in the order in which they are tried, and what can be wrong with each of
them. A run fails with the first fault that it comes upon, before it has done anything; if there is
none, it prints, or has a document to be saved, or finds problems in a template that it checks.
-/

namespace LeasePapers

-----------------------------------------------------------------------------------------
-- What is wrong with an input
-----------------------------------------------------------------------------------------

namespace Command

/-- An input of a run: a file, and what it is read for. -/
inductive Input where
  | settings (path : Text)
  | template (path : Text)
  | fields (path : Text)
  deriving DecidableEq, Repr

namespace Input

/-- The path of an input. -/
def path : Input → Text
  | .settings path | .template path | .fields path => path

/-- The failure of a run that cannot read an input. -/
def unreadable (fault : FileFault) : Input → Failure
  | .settings path => .unreadableSettings path fault
  | .template path => .unreadableTemplate path fault
  | .fields path => .unreadableFields path fault

/-- What is wrong with an input: it cannot be read, or it does not hold settings, or settings that
are refused, or it does not hold a form. Nothing that a template may hold is wrong. -/
inductive Fails (files : Reading) : Input → Failure → Prop where
  | unreadable {input : Input} {fault : FileFault} (hread : files input.path = .error fault)
      : Fails files input (input.unreadable fault)
  | malformedSettings {path text : Text} (hread : files path = .ok text)
      (hnone : (Yaml.ofText? text).bind Settings.ofNode? = none)
      : Fails files (.settings path) (.malformedSettings text)
  | refusedSettings {path text : Text} {settings : Settings} {failure : Failure}
      (hread : files path = .ok text)
      (hsome : (Yaml.ofText? text).bind Settings.ofNode? = some settings)
      (hfault : settings.fault? = some failure)
      : Fails files (.settings path) failure
  | malformedFields {path text : Text} {failure : Failure} (hread : files path = .ok text)
      (herror : Dictionary.ofJson text = .error failure)
      : Fails files (.fields path) (.malformedFieldsIn path text)

/-- Nothing is wrong with an input. -/
def Sound (files : Reading) (input : Input) : Prop :=
  ∀ failure, ¬input.Fails files failure

/-- Of several inputs the first that is wrong is wrong with `failure`. -/
inductive FirstFails (files : Reading) (failure : Failure) : List Input → Prop where
  | here {input : Input} {rest : List Input} (h : input.Fails files failure)
      : FirstFails files failure (input :: rest)
  | later {input : Input} {rest : List Input} (h : input.Sound files)
      (hrest : FirstFails files failure rest)
      : FirstFails files failure (input :: rest)

/-- Either nothing is wrong with any of several inputs, or something is with the first of them that
is wrong, by induction on them. -/
theorem sound_or_firstFails (files : Reading) (inputs : List Input)
    : (∀ input ∈ inputs, input.Sound files) ∨ ∃ failure, FirstFails files failure inputs := by
  induction inputs with
  | nil => exact .inl (by simp)
  | cons input rest ih =>
      by_cases hsound : input.Sound files
      · rcases ih with hall | ⟨failure, hfirst⟩
        · exact .inl (List.forall_mem_cons.mpr ⟨hsound, hall⟩)
        · exact .inr ⟨failure, .later hsound hfirst⟩
      · obtain ⟨failure, hfails⟩ := Classical.not_forall_not.mp hsound
        exact .inr ⟨failure, .here hfails⟩

/-- If an input is the first to fail, not all of them are sound, by induction on the inputs. -/
theorem FirstFails.not_sound {files : Reading} {failure : Failure} {inputs : List Input}
    (h : FirstFails files failure inputs)
    : ¬∀ input ∈ inputs, input.Sound files := by
  intro hsound
  induction h with
  | here hfails => exact hsound _ List.mem_cons_self _ hfails
  | later _ _ ih => exact ih (fun input hmem => hsound input (List.mem_cons_of_mem _ hmem))

/-- A fault of the inputs is a fault of theirs and no finding about a template. -/
theorem Fails.exitCode {files : Reading} {input : Input} {failure : Failure}
    (h : input.Fails files failure)
    : failure.exitCode = 1 := by
  cases h with
  | unreadable => cases input <;> rfl
  | malformedSettings => rfl
  | malformedFields => rfl
  | refusedSettings _ _ hfault =>
      revert hfault
      unfold Settings.fault?
      split_ifs <;> rintro ⟨⟩ <;> rfl

/-- What an input fails with ends the program with one, by induction on the inputs. -/
theorem FirstFails.exitCode {files : Reading} {failure : Failure} {inputs : List Input}
    (h : FirstFails files failure inputs)
    : failure.exitCode = 1 := by
  induction h with
  | here hfails => exact hfails.exitCode
  | later _ _ ih => exact ih

end Input

end Command

/-- The inputs of a command, in the order in which they are tried. -/
def Command.needs : Command → List Command.Input
  | .render template fields _ _ => [.template template, .fields fields]
  | .resolve fields _ => [.fields fields]
  | .anonymize fields => [.fields fields]
  | .lint template _ => [.template template]
  | .vars template _ => [.template template]

/-- The inputs of a command line: the settings, if a file with them is given, before all others. -/
def Invocation.needs (invocation : Invocation) : List Command.Input :=
  invocation.settings.toList.map .settings ++ invocation.command.needs

/-- The inputs are the files that the command line reads. -/
theorem Invocation.map_path_needs (invocation : Invocation)
    : invocation.needs.map Command.Input.path = invocation.inputs := by
  obtain ⟨settings, command⟩ := invocation
  cases settings <;> cases command <;> rfl

namespace Command

-----------------------------------------------------------------------------------------
-- Reading one input
-----------------------------------------------------------------------------------------

/-- A result is that of reading an input: it is an error exactly if something is wrong with it. -/
def Reads {α : Type} (files : Reading) (input : Input) (result : Except Failure α) : Prop :=
  ∀ failure, result = .error failure ↔ input.Fails files failure

/-- The settings are read by their file alone. -/
theorem reads_settings (files : Reading) (path : Text)
    : Reads files (.settings path) (readSettings files (some path)) := by
  intro failure
  rw [readSettings]
  constructor
  · intro h
    cases hread : files path with
    | error fault =>
        rw [hread] at h
        cases h
        exact .unreadable hread
    | ok text =>
        rw [hread] at h
        simp only [Settings.ofYaml] at h
        cases hsome : (Yaml.ofText? text).bind Settings.ofNode? with
        | none =>
            rw [hsome] at h
            cases h
            exact .malformedSettings hread hsome
        | some settings =>
            rw [hsome] at h
            simp only [Settings.checked] at h
            cases hfault : settings.fault? with
            | none =>
                rw [hfault] at h
                cases h
            | some found =>
                rw [hfault] at h
                cases h
                exact .refusedSettings hread hsome hfault
  · intro h
    cases h with
    | unreadable hread => rw [show files path = _ from hread]; rfl
    | malformedSettings hread hnone => rw [hread]; simp only [Settings.ofYaml, hnone]
    | refusedSettings hread hsome hfault =>
        rw [hread]
        simp only [Settings.ofYaml, hsome, Settings.checked, hfault]

/-- A template is read by its file alone. -/
theorem reads_template (files : Reading) (path : Text)
    : Reads files (.template path) (readTemplate files path) := by
  intro failure
  rw [readTemplate]
  constructor
  · intro h
    cases hread : files path with
    | error fault =>
        rw [hread] at h
        cases h
        exact .unreadable hread
    | ok text =>
        rw [hread] at h
        cases h
  · intro h
    cases h with
    | unreadable hread => rw [show files path = _ from hread]; rfl

/-- A form is read by its file alone. -/
theorem reads_fields (files : Reading) (path : Text)
    : Reads files (.fields path) (readFields files path) := by
  intro failure
  rw [readFields]
  constructor
  · intro h
    cases hread : files path with
    | error fault =>
        rw [hread] at h
        cases h
        exact .unreadable hread
    | ok text =>
        rw [hread] at h
        simp only at h
        cases hform : Dictionary.ofJson text with
        | ok form =>
            rw [hform] at h
            cases h
        | error found =>
            rw [hform] at h
            cases h
            exact .malformedFields hread hform
  · intro h
    cases h with
    | unreadable hread => rw [show files path = _ from hread]; rfl
    | malformedFields hread herror => simp only [hread, herror, Except.mapError]

/-- An input fails in one way only. -/
theorem Reads.unique {α : Type} {files : Reading} {input : Input} {result : Except Failure α}
    {failure other : Failure} (h : Reads files input result) (hfails : input.Fails files failure)
    (hother : input.Fails files other)
    : failure = other := by
  have hresult := (h failure).mpr hfails
  rw [(h other).mpr hother] at hresult
  exact (Except.error.inj hresult).symm

/-- No more than one thing is wrong with an input. -/
theorem Input.Fails.unique {files : Reading} {input : Input} {failure other : Failure}
    (h : input.Fails files failure) (h' : input.Fails files other)
    : failure = other := by
  cases input with
  | settings path => exact (reads_settings files path).unique h h'
  | template path => exact (reads_template files path).unique h h'
  | fields path => exact (reads_fields files path).unique h h'

/-- There is one first failure at most, by induction on the inputs. -/
theorem Input.FirstFails.unique {files : Reading} {inputs : List Input} {failure other : Failure}
    (h : FirstFails files failure inputs) (h' : FirstFails files other inputs)
    : failure = other := by
  induction h with
  | here hfails =>
      cases h' with
      | here hfails' => exact hfails.unique hfails'
      | later hsound _ => exact absurd hfails (hsound _)
  | later hsound _ ih =>
      cases h' with
      | here hfails' => exact absurd hfails' (hsound _)
      | later _ hrest => exact ih hrest

/-- An input with nothing wrong is read as something. -/
theorem Reads.exists_ok {α : Type} {files : Reading} {input : Input} {result : Except Failure α}
    (h : Reads files input result) (hsound : input.Sound files)
    : ∃ value, result = .ok value := by
  cases hresult : result with
  | ok value => exact ⟨value, rfl⟩
  | error failure => exact absurd ((h failure).mp hresult) (hsound failure)

/-- Where an input is read, the first fault is its own, and the outcome is that fault, or it is one
of those that are read after it. -/
theorem Reads.ofResult_cases {α : Type} {files : Reading} {input : Input} {rest : List Input}
    {result : Except Failure α} {failure : Failure} (h : Reads files input result)
    (hfirst : Input.FirstFails files failure (input :: rest)) (outcome : α → Outcome)
    : Outcome.ofResult result outcome = .fails failure
      ∨ ∃ value, result = .ok value ∧ Input.FirstFails files failure rest := by
  cases hfirst with
  | here hfails => exact .inl (by rw [(h failure).mpr hfails]; rfl)
  | later hsound hrest =>
      obtain ⟨value, hvalue⟩ := h.exists_ok hsound
      exact .inr ⟨value, hvalue, hrest⟩

-----------------------------------------------------------------------------------------
-- Runs
-----------------------------------------------------------------------------------------

section

variable {files : Reading} {moment : Calendar.Moment} {failure : Failure}

/-- A command stops with the failure of the first input that fails. -/
theorem runWith_of_firstFails [Redaction.Patterns] (settings : Settings)
    {command : LeasePapers.Command} (h : Input.FirstFails files failure command.needs)
    : runWith files moment settings command = .fails failure := by
  cases command with
  | render template fields redacts output =>
      rcases (reads_template files template).ofResult_cases h _ with heq | ⟨read, hread, hrest⟩
      · exact heq
      · rw [runWith, hread]
        rcases (reads_fields files fields).ofResult_cases hrest _ with heq | ⟨_, _, hnil⟩
        · exact heq
        · cases hnil
  | resolve fields redacts | anonymize fields =>
      rcases (reads_fields files fields).ofResult_cases h _ with heq | ⟨_, _, hnil⟩
      · exact heq
      · cases hnil
  | lint template json | vars template sample =>
      rcases (reads_template files template).ofResult_cases h _ with heq | ⟨_, _, hnil⟩
      · exact heq
      · cases hnil

/-- A run whose inputs are not all sound fails with the first fault among them. -/
theorem run_of_firstFails [Redaction.Patterns] {invocation : Invocation}
    (h : Input.FirstFails files failure invocation.needs)
    : run files moment invocation = .fails failure := by
  obtain ⟨_ | path, command⟩ := invocation
  · exact runWith_of_firstFails .default h
  · rcases (reads_settings files path).ofResult_cases h _ with heq | ⟨settings, hread, hrest⟩
    · exact heq
    · rw [run, hread]
      exact runWith_of_firstFails settings hrest

/-- A run reads the files that its command line names and no others. -/
theorem run_congr [Redaction.Patterns] {other : Reading} {invocation : Invocation}
    (h : ∀ path ∈ invocation.inputs, files path = other path)
    : run files moment invocation = run other moment invocation := by
  obtain ⟨given, command⟩ := invocation
  have hsettings : readSettings files given = readSettings other given := by
    cases given with
    | none => rfl
    | some path => rw [readSettings, readSettings, h path List.mem_cons_self]
  have hnamed : ∀ path ∈ command.inputs, files path = other path :=
    fun path hmem => h path (List.mem_append_right _ hmem)
  have hwith : ∀ settings,
      runWith files moment settings command = runWith other moment settings command := by
    intro settings
    cases command with
    | render template fields redacts output =>
        have hfields : files fields = other fields := hnamed fields (by simp [Command.inputs])
        simp only [runWith, readTemplate, readFields, hnamed template List.mem_cons_self, hfields]
    | resolve fields redacts | anonymize fields =>
        simp only [runWith, readFields, hnamed fields List.mem_cons_self]
    | lint template json | vars template sample =>
        simp only [runWith, readTemplate, hnamed template List.mem_cons_self]
  rw [run, run, hsettings]
  simp only [hwith]

end

/-- The document that a run has to save, and where: the command line names a file for it, and all
that it is made of has been read. -/
def Saves [Redaction.Patterns] (files : Reading) (moment : Calendar.Moment)
    (invocation : Invocation) (path document : Text)
    : Prop :=
  ∃ template fields redacts settings source form,
    invocation.command = .render template fields redacts (some path)
    ∧ readSettings files invocation.settings = .ok settings
    ∧ files template = .ok source
    ∧ readFields files fields = .ok form
    ∧ document
      = Document.generate (Template.ofText source) (redacting redacts settings) moment form

/-- The number of problems in the template that a run has to check, if it has any. -/
def Finds (files : Reading) (invocation : Invocation) (count : Nat) : Prop :=
  ∃ template json source,
    invocation.command = .lint template json
    ∧ files template = .ok source
    ∧ (Template.ofText source).issues ≠ []
    ∧ count = (Template.ofText source).issues.length

/-- A sound template has a text. -/
theorem exists_source {files : Reading} {path : Text} (h : (Input.template path).Sound files)
    : ∃ source, files path = .ok source := by
  cases hread : files path with
  | ok source => exact ⟨source, rfl⟩
  | error fault => exact absurd (.unreadable hread) (h _)

/-- No command saves a document but one that renders with an output. -/
theorem not_saves [Redaction.Patterns] {files : Reading} {moment : Calendar.Moment}
    {invocation : Invocation}
    (h : ∀ template fields redacts path,
      invocation.command ≠ .render template fields redacts (some path))
    (path document : Text)
    : ¬Saves files moment invocation path document := by
  rintro ⟨template, fields, redacts, _, _, _, hcommand, -⟩
  exact h template fields redacts path hcommand

/-- No command finds issues but one that checks a template. -/
theorem not_finds {files : Reading} {invocation : Invocation}
    (h : ∀ template json, invocation.command ≠ .lint template json) (count : Nat)
    : ¬Finds files invocation count := by
  rintro ⟨template, json, _, hcommand, -⟩
  exact h template json hcommand

/-- A run whose inputs are sound does one of three things: it has a document to be saved, or it
finds problems in the template that it checks, or it does nothing but print. -/
theorem run_of_sound [Redaction.Patterns] {files : Reading} {invocation : Invocation}
    (h : ∀ input ∈ invocation.needs, input.Sound files) (moment : Calendar.Moment)
    : (∃ path document, Saves files moment invocation path document
        ∧ run files moment invocation = ⟨[], some (path, document), none⟩)
      ∨ (∃ count printed, Finds files invocation count
        ∧ run files moment invocation = ⟨printed, none, some (.problemsInTemplate count)⟩)
      ∨ ((∀ path document, ¬Saves files moment invocation path document)
        ∧ (∀ count, ¬Finds files invocation count)
        ∧ ∃ printed, run files moment invocation = .prints printed) := by
  obtain ⟨given, command⟩ := invocation
  obtain ⟨settings, hsettings⟩ : ∃ settings, readSettings files given = .ok settings := by
    cases given with
    | none => exact ⟨.default, rfl⟩
    | some path => exact (reads_settings files path).exists_ok (h _ List.mem_cons_self)
  have hneeds : ∀ input ∈ command.needs, input.Sound files :=
    fun input hmem => h input (List.mem_append_right _ hmem)
  rw [run, hsettings]
  cases command with
  | render template fields redacts output =>
      obtain ⟨source, hsource⟩ := exists_source (hneeds _ List.mem_cons_self)
      obtain ⟨form, hform⟩ := (reads_fields files fields).exists_ok
        (hneeds (.fields fields) (by simp [Command.needs]))
      simp only [Outcome.ofResult, runWith, readTemplate, hsource, hform]
      cases output with
      | some path =>
          exact .inl ⟨path, _, ⟨template, fields, redacts, settings, source, form, rfl, hsettings,
            hsource, hform, rfl⟩, rfl⟩
      | none =>
          exact .inr (.inr ⟨not_saves (by simp), not_finds (by simp), _, rfl⟩)
  | resolve fields redacts | anonymize fields =>
      obtain ⟨form, hform⟩ := (reads_fields files fields).exists_ok (hneeds _ List.mem_cons_self)
      simp only [Outcome.ofResult, runWith, hform]
      exact .inr (.inr ⟨not_saves (by simp), not_finds (by simp), _, rfl⟩)
  | lint template json =>
      obtain ⟨source, hsource⟩ := exists_source (hneeds _ List.mem_cons_self)
      simp only [Outcome.ofResult, runWith, readTemplate, hsource, Template.isValid,
        List.isEmpty_iff]
      by_cases hissues : (Template.ofText source).issues = []
      · rw [if_pos hissues]
        refine .inr (.inr ⟨not_saves (by simp), ?_, _, rfl⟩)
        rintro count ⟨_, _, other, hcommand, hother, hne, -⟩
        cases hcommand
        rw [hsource] at hother
        cases hother
        exact hne hissues
      · rw [if_neg hissues]
        exact .inr (.inl ⟨_, _, ⟨template, json, source, rfl, hsource, hissues, rfl⟩, rfl⟩)
  | vars template sample =>
      obtain ⟨source, hsource⟩ := exists_source (hneeds _ List.mem_cons_self)
      simp only [Outcome.ofResult, runWith, readTemplate, hsource]
      refine .inr (.inr ⟨not_saves (by simp), not_finds (by simp), ?_⟩)
      cases sample <;> exact ⟨_, rfl⟩

end Command

end LeasePapers
