import MarkupAssist.Catalogue.Tables
import MarkupAssist.Files.Access

/-!
# Catalogues in directories

The two tables of a catalogue are files of one directory. Both are read before either is
looked at.

- `LoadFault`      : why there is no catalogue
- `Catalogue.load` : the catalogue of a directory
-/

namespace MarkupAssist
namespace Catalogue

open Files (FileAccess FileFault joinPath)

inductive LoadFault
  | noDirectory (path : String)
  | unreadable (path : String) (fault : FileFault)
  | badTable (path : String) (fault : TableFault)
  deriving DecidableEq, Repr

namespace LoadFault

def message : LoadFault → String
  | noDirectory path => "knowledge base directory not found: " ++ path
  | unreadable path fault => "failed to read " ++ path ++ ": " ++ fault.describe
  | badTable path fault => fault.message path

/-- What lies behind the fault, if that is a fault of its own. -/
def cause? : LoadFault → Option String
  | noDirectory _ => none
  | unreadable _ fault => some fault.describe
  | badTable _ fault =>
      match fault.defect with
      | .unreadable cause => some cause.message
      | _ => none

end LoadFault

variable {m : Type → Type} [Monad m]

def readTable (files : FileAccess m) (directory : String) (table : TableName) :
    ExceptT LoadFault m String := do
  let path := joinPath directory table.fileName
  match ← files.readText path with
  | .ok text => pure text
  | .error fault => throw (.unreadable path fault)

def load (files : FileAccess m) (directory : String) : ExceptT LoadFault m Catalogue := do
  if !(← files.isDirectory directory) then throw (.noDirectory directory)
  let tags ← readTable files directory .tags
  let attributes ← readTable files directory .attributes
  match ofTexts tags attributes with
  | .ok catalogue => pure catalogue
  | .error fault => throw (.badTable (joinPath directory fault.table.fileName) fault)

end Catalogue
end MarkupAssist
