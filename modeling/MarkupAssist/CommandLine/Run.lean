import MarkupAssist.CommandLine.Arguments
import MarkupAssist.Engine.Request
import MarkupAssist.Workspace.Locate

/-!
# Running commands

What a command writes, and how it fails. All commands take settings into account and fail
first of all for want of them.

- `Outcome`    : what is left of a run
- `Failure`    : why a command has no output
- `output`     : the output of an invocation
- `run`        : the outcome of a command line
-/

namespace MarkupAssist
namespace CommandLine

open Files (FileAccess FileFault)

structure Outcome where
  code : Nat
  output : String
  /-- The last line for people, in case of failure. -/
  error : Option String
  deriving DecidableEq, Repr

/-! ## Failures -/

inductive Failure
  | settings (fault : Workspace.SettingsFault)
  | noSuchPosition
  | input (fault : FileFault)
  | source (path : String) (fault : FileFault)
  | noCatalogue
  | catalogue (fault : Catalogue.LoadFault)
  /-- A stylesheet somebody asked for. -/
  | wantedStylesheet (fault : Workspace.StylesheetFault)
  /-- The stylesheet of the settings. -/
  | stylesheet (fault : Workspace.StylesheetFault)
  deriving DecidableEq, Repr

namespace Failure

def message : Failure → String
  | settings fault => fault.message
  | noSuchPosition => "line and column are 1-based"
  | input fault => fault.describe
  | source path fault => "failed to read " ++ path ++ ": " ++ fault.describe
  | noCatalogue => "no knowledge base found, pass --kb"
  | catalogue fault => fault.message
  | wantedStylesheet fault => fault.message
  | stylesheet fault => fault.message

/-- What lies behind the failure is told once more after it. -/
def cause? : Failure → Option String
  | settings fault => fault.cause?
  | catalogue fault => fault.cause?
  | stylesheet fault => some fault.fault.describe
  | _ => none

def report (failure : Failure) : String :=
  match failure.cause? with
  | some cause => "Error: " ++ failure.message ++ ": " ++ cause
  | none => "Error: " ++ failure.message

end Failure

/-! ## Output -/

/-- A label of less than thirty characters is filled up with blanks. -/
def padded (label : String) : String :=
  label ++ String.ofList (List.replicate (30 - label.toList.length) ' ')

def plainLine (suggestion : Suggestion) : String :=
  padded suggestion.label ++ " " ++ suggestion.kind.title ++ " " ++
    suggestion.detail.getD "" ++ "\n"

def formatted (format : OutputFormat) (suggestions : List Suggestion) : String :=
  match format with
  | .json => (Json.list (suggestions.map Suggestion.toJson)).indented ++ "\n"
  | .plain => String.join (suggestions.map plainLine)

/-- Without a language the file's extension is one, and without that it is `vue`. -/
def languageOf (language : Option String) (file : String) : String :=
  match language with
  | some language => language
  | none =>
      match Files.extension? file with
      | some ending => Text.lowercaseText ending
      | none => "vue"

variable {m : Type → Type} [Monad m]

/-- Where a run gets texts from: the files, and the input, which the path `-` names. -/
structure Surroundings (m : Type → Type) where
  files : FileAccess m
  input : m (Except FileFault String)

abbrev Action (m : Type → Type) (α : Type) := ExceptT Failure m α

def orFail {ε α : Type} (failure : ε → Failure) (action : ExceptT ε m α) : Action m α := do
  match ← (action.run : m _) with
  | .ok a => pure a
  | .error fault => throw (failure fault)

def readSource (around : Surroundings m) (file : String) : Action m String := do
  if file = "-" then
    match ← around.input with
    | .ok text => pure text
    | .error fault => throw (.input fault)
  else
    match ← around.files.readText file with
    | .ok text => pure text
    | .error fault => throw (.source file fault)

def cataloguePath (around : Surroundings m) (settings : Settings) :
    Option String → Action m String
  | some path => pure path
  | none => do
      match ← (Workspace.findCatalogue around.files "." settings.searchPaths : m _) with
      | some path => pure path
      | none => throw .noCatalogue

/-- Lines and columns are counted from one here. -/
def positionOf (line column : Nat) : Action m Position :=
  if line = 0 || column = 0 then throw .noSuchPosition
  else pure ⟨line - 1, column - 1⟩

def complete (around : Surroundings m) (settings : Settings) (file : String)
    (line column : Nat) (language catalogue : Option String) :
    Action m (List Suggestion) := do
  let position ← positionOf line column
  let source ← readSource around file
  let path ← cataloguePath around settings catalogue
  let catalogue ← orFail .catalogue (Catalogue.load around.files path)
  let engine : Engine := ⟨catalogue, settings.completion⟩
  return engine.complete ⟨.ofText source, position, languageOf language file⟩ false

def stylesheet (around : Surroundings m) (settings : Settings) :
    Option String → Action m String
  | some path => orFail .wantedStylesheet (Workspace.loadStylesheet around.files path)
  | none => orFail .stylesheet
      (Workspace.loadStylesheet around.files (Workspace.stylesheetPath settings.preview))

def query (settings : Settings) (keyword : String) : Preview.Query :=
  .forTag keyword settings.preview.tagPrefix

def loadSettings (around : Surroundings m) : Option String → Action m Settings
  | some path => orFail .settings (Workspace.loadSettings around.files path)
  | none => orFail .settings (Workspace.findSettings around.files ".")

def output (around : Surroundings m) (invocation : Invocation) : Action m String := do
  let settings ← loadSettings around invocation.settings
  match invocation.command with
  | .complete file line column language catalogue format =>
      return formatted format (← complete around settings file line column language catalogue)
  | .preview keyword path =>
      let css ← stylesheet around settings path
      return Preview.page settings.preview css (query settings keyword) ++ "\n"
  | .identify keyword => return (query settings keyword).identifier ++ "\n"

/-! ## Outcomes -/

def versionText : String :=
  "element-helper 0.1.0\n"

/-- The texts about usage, those that are asked for and those that a fault brings up, are left out
here: of such a run only the code is told. -/
def Stop.outcome : Stop → Outcome
  | .usageFault => ⟨2, "", none⟩
  | .helpWanted => ⟨0, "", none⟩
  | .versionWanted => ⟨0, versionText, none⟩

/-- A failure has code one, and nothing is written then. -/
def outcomeOf : Except Failure String → Outcome
  | .ok output => ⟨0, output, none⟩
  | .error failure => ⟨1, "", some failure.report⟩

def run (around : Surroundings m) (arguments : List String) : m Outcome :=
  match Invocation.ofArguments arguments with
  | .ok invocation => outcomeOf <$> (output around invocation).run
  | .error stop => pure stop.outcome

end CommandLine
end MarkupAssist
