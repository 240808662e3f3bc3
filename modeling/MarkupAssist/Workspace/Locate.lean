import MarkupAssist.Catalogue.Load
import MarkupAssist.Preview.Page
import MarkupAssist.Settings.Writing

/-!
# Workspaces

What lies in the directory somebody works in: settings, a catalogue, a stylesheet.

- `loadSettings`, `findSettings` : settings from a file, and from the first one there is
- `findCatalogue`                : the first directory with a catalogue
- `loadStylesheet`               : the stylesheet of documentation pages
-/

namespace MarkupAssist
namespace Workspace

open Files (FileAccess FileFault joinPath)

variable {m : Type → Type} [Monad m] (files : FileAccess m)

/-- The first path of a list for which the answer is yes. -/
def firstPath? (test : String → m Bool) : List String → m (Option String)
  | [] => pure none
  | path :: paths => do
      if ← test path then return some path else firstPath? test paths

/-! ## Settings -/

inductive SettingsFault
  | unreadable (path : String) (fault : FileFault)
  | bad (path : String) (fault : Yaml.Fault)
  deriving DecidableEq, Repr

namespace SettingsFault

/-- Of a file that is not even YAML nothing more is said. -/
def message : SettingsFault → String
  | unreadable path fault => "failed to read config file " ++ path ++ ": " ++ fault.describe
  | bad path fault =>
      match fault.message? with
      | some text => "failed to parse config file " ++ path ++ ": " ++ text
      | none => "failed to parse config file"

def cause? : SettingsFault → Option String
  | unreadable _ fault => some fault.describe
  | bad _ fault => fault.message?

end SettingsFault

def loadSettings (path : String) : ExceptT SettingsFault m Settings := do
  match ← files.readText path with
  | .error fault => throw (.unreadable path fault)
  | .ok text =>
      match Settings.ofText text with
      | .ok settings => pure settings
      | .error fault => throw (.bad path fault)

/-- The names a file of settings may have; the first one that is there counts. -/
def settingsNames : List String :=
  [".element-helper.yaml", ".element-helper.yml", "element-helper.yaml"]

/-- Without such a file everything has its default. -/
def findSettings (root : String) : ExceptT SettingsFault m Settings := do
  match ← (firstPath? files.isThere (settingsNames.map (joinPath root)) : m _) with
  | some path => loadSettings files path
  | none => pure {}

/-! ## Catalogues -/

/-- A directory is known by its table of tags. -/
def findCatalogue (root : String) (searchPaths : List String) : m (Option String) :=
  firstPath?
    (fun path => files.isThere (joinPath path Catalogue.TableName.tags.fileName))
    (searchPaths.map (joinPath root))

/-! ## Stylesheets -/

structure StylesheetFault where
  path : String
  fault : FileFault
  deriving DecidableEq, Repr

namespace StylesheetFault

def message (fault : StylesheetFault) : String :=
  "failed to read stylesheet " ++ fault.path ++ ": " ++ fault.fault.describe

end StylesheetFault

def loadStylesheet (path : String) : ExceptT StylesheetFault m String := do
  match ← files.readText path with
  | .ok text => pure text
  | .error fault => throw ⟨path, fault⟩

/-- The stylesheet of the settings has a fixed name. -/
def stylesheetPath (settings : PreviewSettings) : String :=
  joinPath settings.resourcePath "style.css"

end Workspace
end MarkupAssist
