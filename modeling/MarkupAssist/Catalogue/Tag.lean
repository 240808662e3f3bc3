import MarkupAssist.Data.Record

/-!
# Tags

What the catalogue knows about a tag.
-/

namespace MarkupAssist
namespace Catalogue

open Data (Notation Record Slot)

structure Tag where
  name : String := ""
  /-- The tags that usually stand inside it. -/
  childTags : List String := []
  /-- Attributes that are written along with it. -/
  defaultAttributes : List String := []
  /-- Its own attributes, in the order in which they are suggested. -/
  attributes : List String := []
  description : String := ""
  deriving DecidableEq, Repr

/-- A table names a tag by its key, so the name is none of the fields. -/
def Tag.entry {ρ : Type → Type} [Notation ρ] : Record ρ Tag where
  title := "struct TagDef"
  blank := {}
  slots := [
    (Slot.texts "subtags" fun names tag => { tag with childTags := names }).called ["childTags"],
    (Slot.texts "defaults" fun names tag => { tag with defaultAttributes := names }).called
      ["defaultAttributes"],
    Slot.texts "attributes" fun names tag => { tag with attributes := names },
    Slot.text "description" fun text tag => { tag with description := text }]

end Catalogue
end MarkupAssist
