import MarkupAssist.Files.Tree
import MarkupAssist.Proofs.CommandLine.Outcome
import MarkupAssist.Proofs.Suggestion.Reading

/-!
# Completing on the command line

A command to complete gets what the engine needs step by step. The first step that fails is
the one that is told about, and nothing is written then. If no step fails, what is written
are the suggestions of the engine.

- `Task`            : the operands and switches of a command to complete
- `Step.failure?`   : the steps, in their order, and how each of them fails
- `Step.ofFailure?` : the step that a failure comes from
- `Ready`           : all that the engine needs
- `run_output`      : the steps one after the other
- `run_of_task`     : the outcome of a run
-/

namespace MarkupAssist
namespace CommandLine

/-! ## Tasks -/

structure Task where
  settingsFile : Option String
  verbose : Bool
  file : String
  line : Nat
  column : Nat
  language : Option String
  catalogue : Option String
  format : OutputFormat

namespace Task

def invocation (task : Task) : Invocation where
  settings := task.settingsFile
  verbose := task.verbose
  command := .complete task.file task.line task.column task.language task.catalogue task.format

/-- The settings of the file that is named, or else those of the directory somebody works in. -/
def settings (around : Surroundings Id) (task : Task) : Except Failure Settings :=
  match task.settingsFile with
  | some path => Except.mapError Failure.settings (Workspace.loadSettings around.files path).run
  | none => Except.mapError Failure.settings (Workspace.findSettings around.files ".").run

/-- The text to complete in, from the input where the file is called `-`. -/
def source (around : Surroundings Id) (task : Task) : Except Failure String :=
  if task.file = "-" then Except.mapError Failure.input around.input
  else Except.mapError (Failure.source task.file) (around.files.readText task.file)

def position (task : Task) : Position :=
  ⟨task.line - 1, task.column - 1⟩

def catalogueIn (around : Surroundings Id) (path : String) : Except Failure Catalogue :=
  Except.mapError Failure.catalogue (Catalogue.load around.files path).run

/-- The language that is given, or else the file's extension, or else `vue`. -/
def spokenLanguage (task : Task) : String :=
  task.language.getD (((Files.extension? task.file).map Text.lowercaseText).getD "vue")

end Task

/-! ## Steps -/

inductive Step
  | settings
  | position
  | source
  | directory
  | catalogue
  deriving DecidableEq

namespace Step

/-- In the order in which they are taken. -/
def all : List Step :=
  [settings, position, source, directory, catalogue]

def failureOf {α : Type} : Except Failure α → Option Failure
  | .ok _ => none
  | .error failure => some failure

variable (around : Surroundings Id) (task : Task)

/-- Where a catalogue is looked for, and so whether there is one, depends on the settings. -/
def failure? : Step → Option Failure
  | settings => failureOf (task.settings around)
  | position => if 1 ≤ task.line ∧ 1 ≤ task.column then none else some .noSuchPosition
  | source => failureOf (task.source around)
  | directory =>
      match task.settings around with
      | .ok loaded =>
          if (directory? around loaded task.catalogue).isSome then none else some .noCatalogue
      | .error _ => none
  | catalogue =>
      match task.settings around with
      | .ok loaded =>
          (directory? around loaded task.catalogue).bind fun path =>
            failureOf (Task.catalogueIn around path)
      | .error _ => none

def firstFailure? : Option Failure :=
  all.findSome? (failure? around task)

end Step

/-- Each step has been taken. -/
structure Ready (around : Surroundings Id) (task : Task) where
  settings : Settings
  source : String
  path : String
  catalogue : Catalogue
  settingsLoaded : task.settings around = .ok settings
  positioned : 1 ≤ task.line ∧ 1 ≤ task.column
  sourceRead : task.source around = .ok source
  found : directory? around settings task.catalogue = some path
  loaded : Task.catalogueIn around path = .ok catalogue

variable {around : Surroundings Id} {task : Task}

/-- The answer of the engine to a request that is not cancelled. -/
def Ready.suggestions (ready : Ready around task) : List Suggestion :=
  Engine.complete ⟨ready.catalogue, ready.settings.completion⟩
    ⟨.ofText ready.source, task.position, task.spokenLanguage⟩ false

/-! ## What a step comes to -/

theorem languageOf_eq_spokenLanguage (task : Task) :
    languageOf task.language task.file = task.spokenLanguage := by
  unfold languageOf Task.spokenLanguage
  cases task.language with
  | some language =>
      rfl
  | none =>
      cases Files.extension? task.file with
      | none =>
          rfl
      | some ending =>
          rfl

theorem Step.failureOf_eq_some_iff {α : Type} {x : Except Failure α} {failure : Failure} :
    failureOf x = some failure ↔ x = .error failure := by
  cases x with
  | ok a =>
      simp [failureOf]
  | error other =>
      simp [failureOf]

theorem run_loadSettings (around : Surroundings Id) (task : Task) :
    (loadSettings around task.settingsFile).run = task.settings around := by
  unfold Task.settings
  cases task.settingsFile with
  | some path =>
      exact run_orFail Failure.settings (Workspace.loadSettings around.files path)
  | none =>
      exact run_orFail Failure.settings (Workspace.findSettings around.files ".")

theorem exists_fault_of_settings {failure : Failure} (h : task.settings around = .error failure) :
    ∃ fault, failure = .settings fault := by
  rw [Task.settings] at h
  split at h
  · obtain ⟨fault, _, hfault⟩ := exists_fault_of_mapError h
    exact ⟨fault, hfault⟩
  · obtain ⟨fault, _, hfault⟩ := exists_fault_of_mapError h
    exact ⟨fault, hfault⟩

/-- The step that fails in this way. -/
def Step.ofFailure? : Failure → Option Step
  | .settings _ => some settings
  | .noSuchPosition => some position
  | .input _ => some source
  | .source _ _ => some source
  | .noCatalogue => some directory
  | .catalogue _ => some catalogue
  | .wantedStylesheet _ => none
  | .stylesheet _ => none

/-- No two steps fail in the same way. -/
theorem Step.ofFailure?_of_failure? {step : Step} {failure : Failure}
    (h : failure? around task step = some failure) : ofFailure? failure = some step := by
  cases step with
  | settings =>
      obtain ⟨fault, rfl⟩ := exists_fault_of_settings (failureOf_eq_some_iff.1 h)
      rfl
  | position =>
      rw [failure?] at h
      split at h
      · cases h
      · cases h
        rfl
  | source =>
      have hsource := failureOf_eq_some_iff.1 h
      rw [Task.source] at hsource
      split at hsource
      · obtain ⟨fault, _, rfl⟩ := exists_fault_of_mapError hsource
        rfl
      · obtain ⟨fault, _, rfl⟩ := exists_fault_of_mapError hsource
        rfl
  | directory =>
      rw [failure?] at h
      split at h
      · split at h
        · cases h
        · cases h
          rfl
      · cases h
  | catalogue =>
      rw [failure?] at h
      split at h
      · obtain ⟨path, _, hpath⟩ := Option.bind_eq_some_iff.1 h
        obtain ⟨fault, _, rfl⟩ := exists_fault_of_mapError (failureOf_eq_some_iff.1 hpath)
        rfl
      · cases h

/-! ## All steps -/

/-- What a command to complete does, with failures as values. -/
theorem run_output (around : Surroundings Id) (task : Task) :
    (output around task.invocation).run = (do
      let settings ← task.settings around
      let position ← (if 1 ≤ task.line ∧ 1 ≤ task.column then .ok task.position
        else .error .noSuchPosition : Except Failure Position)
      let source ← task.source around
      let path ← (match directory? around settings task.catalogue with
        | some path => .ok path
        | none => .error .noCatalogue : Except Failure String)
      let catalogue ← Task.catalogueIn around path
      return formatted task.format (Engine.complete ⟨catalogue, settings.completion⟩
        ⟨.ofText source, position, task.spokenLanguage⟩ false) : Except Failure String) := by
  have houtput : output around task.invocation = loadSettings around task.settingsFile >>=
      fun settings => complete around settings task.file task.line task.column task.language
        task.catalogue >>= fun suggestions => pure (formatted task.format suggestions) := by
    rfl
  simp only [houtput, run_bind, complete, run_loadSettings, run_positionOf, run_readSource,
    run_cataloguePath, run_orFail, languageOf_eq_spokenLanguage, bind_assoc]
  rfl

/-- Either the first failure is the outcome, or nothing has failed and the engine is asked. -/
theorem output_of_failure_or_ready (around : Surroundings Id) (task : Task) :
    (∃ failure, Step.firstFailure? around task = some failure ∧
      (output around task.invocation).run = Except.error failure) ∨
    ((∀ step, Step.failure? around task step = none) ∧
      ∃ ready : Ready around task, (output around task.invocation).run =
        Except.ok (formatted task.format ready.suggestions)) := by
  rw [run_output]
  -- the cases follow the steps: a failing one comes after steps that have given what they are for
  cases hsettings : task.settings around with
  | error failure =>
      refine .inl ⟨failure, ?_, rfl⟩
      simp [Step.firstFailure?, Step.all, Step.failure?, Step.failureOf, *]
  | ok settings =>
      by_cases hposition : 1 ≤ task.line ∧ 1 ≤ task.column
      · rw [if_pos hposition]
        cases hsource : task.source around with
        | error failure =>
            refine .inl ⟨failure, ?_, rfl⟩
            simp [Step.firstFailure?, Step.all, Step.failure?, Step.failureOf, *]
        | ok source =>
            cases hfound : directory? around settings task.catalogue with
            | none =>
                refine .inl ⟨.noCatalogue, ?_, ?_⟩
                · simp [Step.firstFailure?, Step.all, Step.failure?, Step.failureOf, *]
                · simp only [bind, Except.bind, hfound]
            | some path =>
                cases hloaded : Task.catalogueIn around path with
                | error failure =>
                    refine .inl ⟨failure, ?_, ?_⟩
                    · simp [Step.firstFailure?, Step.all, Step.failure?, Step.failureOf, *]
                    · simp only [bind, Except.bind, hfound, hloaded]
                | ok catalogue =>
                    let ready : Ready around task :=
                      ⟨settings, source, path, catalogue, hsettings, hposition, hsource, hfound,
                        hloaded⟩
                    refine .inr ⟨?_, ready, ?_⟩
                    · intro step
                      cases step <;> simp [Step.failure?, Step.failureOf, *]
                    · simp only [bind, Except.bind, hfound, hloaded]
                      rfl
      · rw [if_neg hposition]
        refine .inl ⟨.noSuchPosition, ?_, rfl⟩
        simp [Step.firstFailure?, Step.all, Step.failure?, Step.failureOf, *]

theorem failure?_of_output {failure : Failure}
    (h : (output around task.invocation).run = Except.error failure) :
    ∃ step, Step.failure? around task step = some failure := by
  rcases output_of_failure_or_ready around task with ⟨first, hfirst, houtput⟩ | ⟨_, ready, houtput⟩
  · obtain rfl : first = failure := Except.error.inj (houtput.symm.trans h)
    obtain ⟨step, _, hstep⟩ := List.exists_of_findSome?_eq_some hfirst
    exact ⟨step, hstep⟩
  · cases houtput.symm.trans h

theorem output_of_firstFailure {failure : Failure}
    (h : Step.firstFailure? around task = some failure) :
    (output around task.invocation).run = Except.error failure := by
  rcases output_of_failure_or_ready around task with ⟨first, hfirst, houtput⟩ | ⟨hnone, _⟩
  · obtain rfl : first = failure := Option.some.inj (hfirst.symm.trans h)
    exact houtput
  · obtain ⟨step, _, hstep⟩ := List.exists_of_findSome?_eq_some h
    cases hstep.symm.trans (hnone step)

/-! ## Runs -/

/-- A run fails exactly if one of the steps does, it tells about the first one and writes nothing
else; any other run writes a list in which every suggestion of the engine can be read back. -/
theorem run_of_task {arguments : List String} (around : Surroundings Id) (task : Task)
    (harguments : Invocation.ofArguments arguments = .ok task.invocation) :
    ∃ outcome : Outcome, run around arguments = outcome ∧
      (outcome.code = 1 ↔ ∃ step, Step.failure? around task step ≠ none) ∧
      (∀ failure, Step.firstFailure? around task = some failure →
        outcome = ⟨1, "", some failure.report⟩) ∧
      ((∀ step, Step.failure? around task step = none) →
        ∃ ready : Ready around task, outcome.code = 0 ∧ outcome.error = none ∧
          (task.format = .json →
            Suggestion.listOfText outcome.output = .ok ready.suggestions)) := by
  refine ⟨_, run_of_invocation harguments, ?_⟩
  -- the two alternatives exclude each other, which gives both directions of the equivalence
  rcases output_of_failure_or_ready around task with
    ⟨failure, hfirst, houtput⟩ | ⟨hnone, ready, houtput⟩
  · obtain ⟨step, _, hstep⟩ := List.exists_of_findSome?_eq_some hfirst
    have hfails : Step.failure? around task step ≠ none := by
      rw [hstep]
      exact Option.some_ne_none failure
    rw [houtput]
    refine ⟨⟨fun _ => ⟨step, hfails⟩, fun _ => rfl⟩, ?_, fun hnone => absurd (hnone step) hfails⟩
    intro other hother
    rw [Option.some.inj (hfirst.symm.trans hother)]
    rfl
  · have hfirst : Step.firstFailure? around task = none :=
      List.findSome?_eq_none_iff.2 fun step _ => hnone step
    rw [houtput]
    refine ⟨⟨fun hcode => absurd hcode Nat.zero_ne_one, ?_⟩, ?_, fun _ => ⟨ready, rfl, rfl, ?_⟩⟩
    · rintro ⟨step, hfails⟩
      exact absurd (hnone step) hfails
    · intro failure hfailure
      rw [hfirst] at hfailure
      cases hfailure
    · intro hjson
      have hread := Suggestion.listOfText_indented ready.suggestions
      rw [hjson]
      exact hread

/-- A catalogue of one tag in the first directory that is searched, and a document as input. -/
def oneTag : Surroundings Id where
  files := Files.FileTree.access (.ofFiles [
    ("data/element-tags.json", some "\x7b\"el-row\":\x7b\x7d\x7d".toUTF8),
    ("data/element-attributes.json", some "\x7b\x7d".toUTF8)])
  input := .ok "<"

/-- To complete the input in its first line. -/
def atColumn (column : Nat) : Task :=
  ⟨none, false, "-", 1, column, none, none, .json⟩

theorem run_at_two_columns :
    (∃ outcome : Outcome, run oneTag ["complete", "-", "1", "2"] = outcome ∧ outcome.code = 0 ∧
      ∃ ready : Ready oneTag (atColumn 2),
        Suggestion.listOfText outcome.output = .ok ready.suggestions) ∧
    run oneTag ["complete", "-", "1", "0"] =
      ⟨1, "", some "Error: line and column are 1-based"⟩ := by
  refine ⟨?_, ?_⟩
  · have harguments : Invocation.ofArguments ["complete", "-", "1", "2"] =
        .ok (atColumn 2).invocation := by
      rfl
    have hnone : ∀ step, Step.failure? oneTag (atColumn 2) step = none := by
      intro step
      cases step with
      | settings => decide +kernel
      | position => rfl
      | source => rfl
      | directory => decide +kernel
      | catalogue => decide +kernel
    obtain ⟨outcome, hrun, _, _, hdone⟩ := run_of_task oneTag (atColumn 2) harguments
    obtain ⟨ready, hcode, _, hread⟩ := hdone hnone
    exact ⟨outcome, hrun, hcode, ready, hread rfl⟩
  · have harguments : Invocation.ofArguments ["complete", "-", "1", "0"] =
        .ok (atColumn 0).invocation := by
      rfl
    have hfirst : Step.firstFailure? oneTag (atColumn 0) = some .noSuchPosition := by
      decide +kernel
    obtain ⟨outcome, hrun, _, hfails, _⟩ := run_of_task oneTag (atColumn 0) harguments
    exact hrun.trans (hfails .noSuchPosition hfirst)

end CommandLine
end MarkupAssist
