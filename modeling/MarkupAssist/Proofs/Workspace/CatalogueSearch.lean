import MarkupAssist.Proofs.CommandLine.Completion
import MarkupAssist.Proofs.Files.Below

/-!
# The search for a catalogue

A directory is taken for a catalogue by its table of tags, whether or not the other table is
there as well. The first search path with such a table is the answer, so the directory and its
table of tags are there whenever a catalogue has been looked for; the table of attributes may
be missing.

- `hasTable`        : something lies where a table is looked for
- `holdsCatalogue`  : a directory with both tables
- `IsFirst`         : what the search finds
- `fault_of_load`   : what can be wrong with a directory
- `failure_of_load` : what can be wrong with the one that has been found
-/

namespace MarkupAssist
namespace Workspace

open Catalogue (LoadFault TableFault TableName)
open CommandLine (Failure Surroundings directory? output)
open Files (FileAccess FileFault FileTree joinPath)

/-! ## Directories with tables -/

section Directories

variable (files : FileAccess Id)

/-- Something in the directory has the name of the table. -/
def hasTable (table : TableName) (directory : String) : Bool :=
  files.isThere (joinPath directory table.fileName)

def isFile (path : String) : Bool :=
  files.isThere path && !files.isDirectory path

/-- A directory with both tables, as files. -/
def holdsCatalogue (directory : String) : Bool :=
  files.isDirectory directory && (isFile files (joinPath directory TableName.tags.fileName) &&
    isFile files (joinPath directory TableName.attributes.fileName))

end Directories

variable {files : FileAccess Id} {root directory path : String} {searchPaths : List String}

theorem hasTable_of_holdsCatalogue (table : TableName)
    (h : holdsCatalogue files directory = true) : hasTable files table directory = true := by
  simp only [holdsCatalogue, isFile, Bool.and_eq_true] at h
  cases table with
  | tags =>
      exact h.2.1.1
  | attributes =>
      exact h.2.2.1

/-- What a table lies in is a directory. -/
theorem isDirectory_of_hasTable (hfiles : files.Lawful) {table : TableName}
    (hpath : directory ≠ "") (h : hasTable files table directory = true) :
    files.isDirectory directory = true := by
  refine hfiles.isDirectory_above directory table.fileName hpath ?_ h
  cases table <;> decide

/-! ## The search -/

/-- The first path of a list that passes a test. -/
def IsFirst (test : String → Bool) (paths : List String) (path : String) : Prop :=
  ∃ front back, paths = front ++ path :: back ∧ test path = true ∧
    ∀ earlier ∈ front, test earlier = false

theorem findCatalogue_eq (files : FileAccess Id) (root : String) (searchPaths : List String) :
    findCatalogue files root searchPaths =
      (searchPaths.map (joinPath root)).find? (hasTable files .tags) :=
  CommandLine.firstPath?_eq_find? _ _

theorem findCatalogue_eq_some_iff :
    findCatalogue files root searchPaths = some path ↔
      IsFirst (hasTable files .tags) (searchPaths.map (joinPath root)) path := by
  rw [findCatalogue_eq]
  refine List.find?_eq_some_iff_append.trans ?_
  simp only [IsFirst, Bool.not_eq_true']
  constructor
  · rintro ⟨htable, front, back, hpaths, hfront⟩
    exact ⟨front, back, hpaths, htable, hfront⟩
  · rintro ⟨front, back, hpaths, htable, hfront⟩
    exact ⟨htable, front, back, hpaths, hfront⟩

theorem findCatalogue_eq_none_iff :
    findCatalogue files root searchPaths = none ↔
      ∀ path ∈ searchPaths, hasTable files .tags (joinPath root path) = false := by
  rw [findCatalogue_eq]
  refine List.find?_eq_none.trans ?_
  simp

/-- Below the directory somebody works in no path is empty. -/
theorem joinPath_here_ne_empty (path : String) : joinPath "." path ≠ "" := by
  intro hempty
  have hchars := congrArg String.toList hempty
  rw [joinPath] at hchars
  split at hchars
  · next habsolute =>
      have hslash : path.toList.head? = some '/' := by
        simpa using habsolute
      simp [hchars] at hslash
  · split at hchars
    · simp at hchars
    · simp at hchars

/-! ## Faults of a directory -/

theorem exists_cause_of_readTable {table : TableName} {fault : LoadFault}
    (h : (Catalogue.readTable files directory table).run = Except.error fault) :
    ∃ cause, files.readText (joinPath directory table.fileName) = .error cause ∧
      fault = .unreadable (joinPath directory table.fileName) cause := by
  rw [Catalogue.readTable] at h
  cases hread : (files.readText (joinPath directory table.fileName) :
      Except FileFault String) with
  | error cause =>
      rw [hread] at h
      exact ⟨cause, rfl, (Except.error.inj h).symm⟩
  | ok text =>
      rw [hread] at h
      cases h

/-- One table after the other, and then what they say. -/
theorem run_load_of_isDirectory (h : files.isDirectory directory = true) :
    (Catalogue.load files directory).run =
      ((Catalogue.readTable files directory .tags).run >>= fun tags =>
        (Catalogue.readTable files directory .attributes).run >>= fun attributes =>
          match Catalogue.ofTexts tags attributes with
          | .ok catalogue => .ok catalogue
          | .error bad => .error (.badTable (joinPath directory bad.table.fileName) bad) :
        Except LoadFault Catalogue) := by
  have hload : Catalogue.load files directory =
      (Catalogue.readTable files directory .tags >>= fun tags =>
        Catalogue.readTable files directory .attributes >>= fun attributes =>
          match Catalogue.ofTexts tags attributes with
          | .ok catalogue => pure catalogue
          | .error bad => throw (.badTable (joinPath directory bad.table.fileName) bad)) := by
    rw [Catalogue.load, h]
    rfl
  simp only [hload, CommandLine.run_bind]
  rfl

theorem fault_of_load {fault : LoadFault}
    (h : (Catalogue.load files directory).run = Except.error fault) :
    (files.isDirectory directory = false ∧ fault = .noDirectory directory) ∨
    (∃ table cause, files.readText (joinPath directory (TableName.fileName table)) =
        .error cause ∧ fault = .unreadable (joinPath directory table.fileName) cause) ∨
    ∃ bad : TableFault, fault = .badTable (joinPath directory bad.table.fileName) bad := by
  cases hdirectory : (files.isDirectory directory : Bool) with
  | false =>
      rw [Catalogue.load, hdirectory] at h
      exact .inl ⟨rfl, (Except.error.inj h).symm⟩
  | true =>
      rw [run_load_of_isDirectory hdirectory] at h
      cases htags : ((Catalogue.readTable files directory .tags).run : Except LoadFault String) with
      | error other =>
          rw [htags] at h
          obtain ⟨cause, hcause, hother⟩ := exists_cause_of_readTable htags
          exact .inr (.inl ⟨.tags, cause, hcause, (Except.error.inj h).symm.trans hother⟩)
      | ok tags =>
          cases hattributes :
              ((Catalogue.readTable files directory .attributes).run : Except LoadFault String) with
          | error other =>
              rw [htags, hattributes] at h
              obtain ⟨cause, hcause, hother⟩ := exists_cause_of_readTable hattributes
              exact .inr (.inl ⟨.attributes, cause, hcause,
                (Except.error.inj h).symm.trans hother⟩)
          | ok attributes =>
              cases hcatalogue : Catalogue.ofTexts tags attributes with
              | ok catalogue =>
                  simp [htags, hattributes, hcatalogue, bind, Except.bind] at h
              | error bad =>
                  simp only [htags, hattributes, hcatalogue, bind, Except.bind] at h
                  exact .inr (.inr ⟨bad, (Except.error.inj h).symm⟩)

/-! ## Runs -/

section Runs

variable {around : Surroundings Id} {task : CommandLine.Task}

theorem directory?_none (around : Surroundings Id) (settings : Settings) :
    directory? around settings none = findCatalogue around.files "." settings.searchPaths :=
  (findCatalogue_eq around.files "." settings.searchPaths).symm

theorem not_found_of_output (hsearch : task.catalogue = none)
    (h : (output around task.invocation).run = Except.error .noCatalogue) :
    ∃ settings, task.settings around = .ok settings ∧
      findCatalogue around.files "." settings.searchPaths = none := by
  obtain ⟨step, hstep⟩ := CommandLine.failure?_of_output h
  obtain rfl : CommandLine.Step.directory = step :=
    Option.some.inj (CommandLine.Step.ofFailure?_of_failure? hstep)
  rw [CommandLine.Step.failure?, hsearch] at hstep
  cases hsettings : task.settings around with
  | error failure =>
      rw [hsettings] at hstep
      cases hstep
  | ok settings =>
      refine ⟨settings, rfl, ?_⟩
      rw [← directory?_none]
      simpa [hsettings] using hstep

theorem found_of_output {fault : LoadFault} (hsearch : task.catalogue = none)
    (h : (output around task.invocation).run = Except.error (.catalogue fault)) :
    ∃ settings directory, task.settings around = .ok settings ∧
      findCatalogue around.files "." settings.searchPaths = some directory ∧
      (Catalogue.load around.files directory).run = Except.error fault := by
  obtain ⟨step, hstep⟩ := CommandLine.failure?_of_output h
  obtain rfl : CommandLine.Step.catalogue = step :=
    Option.some.inj (CommandLine.Step.ofFailure?_of_failure? hstep)
  rw [CommandLine.Step.failure?, hsearch] at hstep
  cases hsettings : task.settings around with
  | error failure =>
      rw [hsettings] at hstep
      cases hstep
  | ok settings =>
      rw [hsettings] at hstep
      obtain ⟨directory, hfound, hfails⟩ := Option.bind_eq_some_iff.1 hstep
      obtain ⟨other, hload, hother⟩ :=
        CommandLine.exists_fault_of_mapError (CommandLine.Step.failureOf_eq_some_iff.1 hfails)
      refine ⟨settings, directory, rfl, ?_, ?_⟩
      · rw [← directory?_none]
        exact hfound
      · rw [hload, Failure.catalogue.inj hother]

/-- What the search finds below the directory somebody works in is a directory with a table of
tags. -/
theorem isDirectory_of_found (hfiles : files.Lawful)
    (h : findCatalogue files "." searchPaths = some directory) :
    files.isDirectory directory = true ∧ hasTable files .tags directory = true := by
  obtain ⟨front, back, hpaths, htable, _⟩ := findCatalogue_eq_some_iff.1 h
  have hmem : directory ∈ searchPaths.map (joinPath ".") := by
    rw [hpaths]
    exact List.mem_append_right front List.mem_cons_self
  obtain ⟨path, _, rfl⟩ := List.mem_map.1 hmem
  exact ⟨isDirectory_of_hasTable hfiles (joinPath_here_ne_empty path) htable, htable⟩

/-- Of the tables of the directory that has been found only that of the attributes can be
missing. -/
theorem failure_of_load (hfiles : files.Lawful) {fault : LoadFault}
    (hfound : findCatalogue files "." searchPaths = some directory)
    (hload : (Catalogue.load files directory).run = Except.error fault) :
    (∀ path, fault ≠ .noDirectory path) ∧
    ∀ path cause, fault = .unreadable path cause →
      (cause = .notFound → files.isThere path = false) ∧
      (files.isThere path = false → path = joinPath directory TableName.attributes.fileName) := by
  obtain ⟨hdirectory, htags⟩ := isDirectory_of_found hfiles hfound
  rcases fault_of_load hload with
    ⟨hnone, _⟩ | ⟨table, cause, hcause, rfl⟩ | ⟨bad, rfl⟩
  · cases hdirectory.symm.trans hnone
  · refine ⟨fun path hpath => LoadFault.noConfusion hpath, ?_⟩
    intro path other hother
    obtain ⟨rfl, rfl⟩ := LoadFault.unreadable.inj hother
    refine ⟨?_, ?_⟩
    · rintro rfl
      exact hfiles.not_isThere _ hcause
    · intro hmissing
      cases table with
      | tags =>
          cases htags.symm.trans hmissing
      | attributes =>
          rfl
  · refine ⟨fun path hpath => LoadFault.noConfusion hpath, ?_⟩
    intro path cause hcause
    exact LoadFault.noConfusion hcause

/-- The search takes the first directory with a table of tags. A run that depends on it never
fails for want of the directory or of that table, only the table of attributes may be missing
from it, and a run with a whole catalogue in sight does not fail for want of a catalogue. -/
theorem found_catalogue_has_tags (files : FileAccess Id) :
    (∀ (root : String) (searchPaths : List String),
      (∀ path, findCatalogue files root searchPaths = some path ↔
        IsFirst (hasTable files .tags) (searchPaths.map (joinPath root)) path) ∧
      (findCatalogue files root searchPaths = none ↔
        ∀ path ∈ searchPaths, hasTable files .tags (joinPath root path) = false)) ∧
    (files.Lawful → ∀ (input : Except FileFault String) (task : CommandLine.Task)
      (failure : Failure), task.catalogue = none →
      (output ⟨files, input⟩ task.invocation).run = Except.error failure →
      (∀ path, failure ≠ .catalogue (.noDirectory path)) ∧
      (∀ path cause, failure = .catalogue (.unreadable path cause) →
        (cause = .notFound → files.isThere path = false) ∧
        (files.isThere path = false → ∃ settings directory,
          task.settings ⟨files, input⟩ = .ok settings ∧
          findCatalogue files "." settings.searchPaths = some directory ∧
          path = joinPath directory TableName.attributes.fileName)) ∧
      (failure = .noCatalogue → ∃ settings, task.settings ⟨files, input⟩ = .ok settings ∧
        ∀ path ∈ settings.searchPaths, holdsCatalogue files (joinPath "." path) = false)) := by
  refine ⟨fun root searchPaths =>
    ⟨fun path => findCatalogue_eq_some_iff, findCatalogue_eq_none_iff⟩, ?_⟩
  intro hfiles input task failure hsearch houtput
  refine ⟨?_, ?_, ?_⟩
  · rintro path rfl
    obtain ⟨settings, directory, _, hfound, hload⟩ := found_of_output hsearch houtput
    exact (failure_of_load hfiles hfound hload).1 path rfl
  · rintro path cause rfl
    obtain ⟨settings, directory, hsettings, hfound, hload⟩ := found_of_output hsearch houtput
    obtain ⟨hnothing, hattributes⟩ := (failure_of_load hfiles hfound hload).2 path cause rfl
    exact ⟨hnothing, fun hmissing =>
      ⟨settings, directory, hsettings, hfound, hattributes hmissing⟩⟩
  · rintro rfl
    obtain ⟨settings, hsettings, hnone⟩ := not_found_of_output hsearch houtput
    refine ⟨settings, hsettings, ?_⟩
    intro path hpath
    cases hholds : holdsCatalogue files (joinPath "." path) with
    | false =>
        rfl
    | true =>
        have htable := hasTable_of_holdsCatalogue .tags hholds
        rw [findCatalogue_eq_none_iff.1 hnone path hpath] at htable
        cases htable

end Runs

/-- A table of tags in the first directory that is searched, and a catalogue in the second. -/
def tagsBeforeCatalogue : FileTree :=
  .ofFiles [
    ("data/element-tags.json", some "\x7b\x7d".toUTF8),
    (".element-helper/element-tags.json", some "\x7b\x7d".toUTF8),
    (".element-helper/element-attributes.json", some "\x7b\x7d".toUTF8)]

/-- The table that is missing from the first is the one that is told about. -/
theorem output_tagsBeforeCatalogue :
    (output ⟨tagsBeforeCatalogue.access, .ok "<"⟩ (CommandLine.atColumn 2).invocation).run =
      Except.error (.catalogue (.unreadable "./data/element-attributes.json" .notFound)) := by
  refine CommandLine.output_of_firstFailure ?_
  decide +kernel

theorem found_catalogue_has_tags_alone :
    tagsBeforeCatalogue.access.Lawful ∧
    tagsBeforeCatalogue.access.isThere "./data/element-attributes.json" = false ∧
    ∃ settings directory,
      (CommandLine.atColumn 2).settings ⟨tagsBeforeCatalogue.access, .ok "<"⟩ = .ok settings ∧
      findCatalogue tagsBeforeCatalogue.access "." settings.searchPaths = some directory ∧
      "./data/element-attributes.json" = joinPath directory TableName.attributes.fileName := by
  have hfiles : tagsBeforeCatalogue.access.Lawful := tagsBeforeCatalogue.system.lawful
  obtain ⟨_, hunreadable, _⟩ := (found_catalogue_has_tags tagsBeforeCatalogue.access).2 hfiles
    (.ok "<") (CommandLine.atColumn 2) _ rfl output_tagsBeforeCatalogue
  obtain ⟨hnothing, hfound⟩ := hunreadable "./data/element-attributes.json" .notFound rfl
  exact ⟨hfiles, hnothing rfl, hfound (hnothing rfl)⟩

/-- With a whole catalogue in sight a run fails for want of a table. -/
theorem table_missing_beside_catalogue :
    holdsCatalogue tagsBeforeCatalogue.access "./data" = false ∧
    holdsCatalogue tagsBeforeCatalogue.access "./.element-helper" = true ∧
    findCatalogue tagsBeforeCatalogue.access "." ({} : Settings).searchPaths = some "./data" ∧
    (output ⟨tagsBeforeCatalogue.access, .ok "<"⟩ (CommandLine.atColumn 2).invocation).run =
      Except.error (.catalogue (.unreadable "./data/element-attributes.json" .notFound)) := by
  refine ⟨?_, ?_, ?_, output_tagsBeforeCatalogue⟩
  · decide +kernel
  · decide +kernel
  · have hfirst : (({} : Settings).searchPaths.map (joinPath ".")).find?
        (hasTable tagsBeforeCatalogue.access .tags) = some "./data" := by
      decide +kernel
    exact (findCatalogue_eq _ _ _).trans hfirst

end Workspace
end MarkupAssist
