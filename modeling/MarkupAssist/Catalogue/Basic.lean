import MarkupAssist.Catalogue.Attribute
import MarkupAssist.Catalogue.Tag
import MarkupAssist.Data.Table

/-!
# The catalogue

Two ordered tables, of tags and of attributes, and a list of icon names. An attribute is
listed under its name, or under `tag/name` for one tag alone.

- `Catalogue.tag?`       : a tag by its name
- `Catalogue.attribute?` : an attribute as it applies to a tag
-/

namespace MarkupAssist

structure Catalogue where
  tags : Data.Table Catalogue.Tag.name := .empty
  attributes : Data.Table (Prod.fst : String × Catalogue.Attribute → String) := .empty
  icons : List String := []
  deriving DecidableEq

namespace Catalogue

/-- A catalogue out of lists; of two entries with one key the later one counts. -/
def ofLists (tags : List Tag) (attributes : List (String × Attribute)) (icons : List String) :
    Catalogue :=
  ⟨.ofList tags, .ofList attributes, icons⟩

def tag? (catalogue : Catalogue) (name : String) : Option Tag :=
  catalogue.tags.get? name

/-- Tags that are not known have no attributes of their own. -/
def tagAttributes (catalogue : Catalogue) (tag : String) : List String :=
  match catalogue.tag? tag with
  | some tag => tag.attributes
  | none => []

/-- The attribute listed under exactly this key. -/
def entry? (catalogue : Catalogue) (key : String) : Option Attribute :=
  (catalogue.attributes.get? key).map Prod.snd

def scopedKey (tag name : String) : String :=
  tag ++ "/" ++ name

/-- What is listed for the tag alone comes before what is listed for all. -/
def attribute? (catalogue : Catalogue) (tag : Option String) (name : String) : Option Attribute :=
  (tag.bind fun tag => catalogue.entry? (scopedKey tag name)).or (catalogue.entry? name)

end Catalogue
end MarkupAssist
