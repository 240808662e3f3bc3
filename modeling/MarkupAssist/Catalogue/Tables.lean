import MarkupAssist.Catalogue.Basic
import MarkupAssist.Json.Decode
import MarkupAssist.Json.Value

/-!
# Catalogues in writing

A catalogue is written as two JSON objects, one keyed by tags and one by attributes. Both
are read before any of their entries is looked at, and then the entries in their order, so
that a fault is always the first one of that sequence.

- `TableName`            : the two tables and the files they are kept in
- `Defect`, `TableFault` : what can be wrong, and in which table
- `Catalogue.ofTexts`    : the catalogue of two texts
-/

namespace MarkupAssist
namespace Catalogue

inductive TableName
  | tags
  | attributes
  deriving DecidableEq, Repr

def TableName.fileName : TableName → String
  | .tags => "element-tags.json"
  | .attributes => "element-attributes.json"

inductive Defect
  /-- The text is no JSON, or an entry is not what it should be. -/
  | unreadable (fault : Json.Fault)
  | notKeyed
  | icons (mismatch : Data.Mismatch)
  deriving DecidableEq, Repr

structure TableFault where
  table : TableName
  defect : Defect
  deriving DecidableEq, Repr

/-- The key of the attribute table that holds the icon names instead of an attribute. -/
def iconsKey : String := "icons"

/-- The fault in words; `file` is how the table is called. -/
def TableFault.message (file : String) (fault : TableFault) : String :=
  match fault.defect with
  | .unreadable cause => "failed to parse " ++ file ++ ": " ++ cause.message
  | .notKeyed => "malformed metadata in " ++ file ++ ": expected an object keyed by name"
  | .icons mismatch =>
      "malformed metadata in " ++ file ++ ": `" ++ iconsKey ++
        "` must be a list of icon names: " ++ (Json.Fault.ofMismatch mismatch).message

/-! ## Reading -/

open Json (Decoder)

/-- The members of a table. -/
def members (table : TableName) (text : String) : Except TableFault (List (String × Json)) :=
  match Json.ofText text with
  | .ok (.object members) => .ok members
  | .ok _ => .error ⟨table, .notKeyed⟩
  | .error fault => .error ⟨table, .unreadable fault⟩

/-- An entry that does not fit makes its table unreadable. -/
def decoded {α : Type} (table : TableName) (decoder : Decoder α) (value : Json) :
    Except TableFault α :=
  (decoder value).mapError fun mismatch => ⟨table, .unreadable (.ofMismatch mismatch)⟩

def addTag (catalogue : Catalogue) (member : String × Json) : Except TableFault Catalogue := do
  let tag ← decoded .tags (Data.Notation.record Tag.entry) member.2
  return { catalogue with tags := catalogue.tags.put { tag with name := member.1 } }

def addIcons (catalogue : Catalogue) (value : Json) : Except TableFault Catalogue := do
  let icons ← ((Data.Notation.list (Data.Notation.text "a string") : Decoder _) value).mapError
    fun mismatch => ⟨.attributes, .icons mismatch⟩
  return { catalogue with icons }

def addAttribute (catalogue : Catalogue) (member : String × Json) :
    Except TableFault Catalogue :=
  if member.1 = iconsKey then addIcons catalogue member.2
  else do
    let entry : Attribute ← decoded .attributes (Data.Notation.record Attribute.entry) member.2
    return { catalogue with attributes := catalogue.attributes.put (member.1, entry.normalized) }

def ofTexts (tags attributes : String) : Except TableFault Catalogue := do
  let tags ← members .tags tags
  let attributes ← members .attributes attributes
  let catalogue ← tags.foldlM addTag {}
  attributes.foldlM addAttribute catalogue

end Catalogue
end MarkupAssist
