import MarkupAssist.Data.Record
import MarkupAssist.Text.Space

/-!
# Attributes

What the catalogue knows about an attribute, and how its kind says where values come from.
-/

namespace MarkupAssist
namespace Catalogue

open Data (Notation Record Slot)

inductive AttributeKind
  /-- Written without a value. -/
  | flag
  /-- An event, bound to a handler. -/
  | method
  | boolean
  | icon
  /-- An icon by its short name. -/
  | shortcutIcon
  | enumerated
  | freeText
  deriving DecidableEq, Repr

/-- Kinds are known by their names, in any ASCII case; other names are no kind of their own. -/
def AttributeKind.ofText (name : String) : AttributeKind :=
  match (String.ofList (Text.trim name.toList)).toLower with
  | "flag" => .flag
  | "method" => .method
  | "boolean" => .boolean
  | "icon" => .icon
  | "shortcut-icon" => .shortcutIcon
  | "enum" => .enumerated
  | "enumerated" => .enumerated
  | _ => .freeText

structure Attribute where
  kind : AttributeKind := .freeText
  options : Option (List String) := none
  description : String := ""
  /-- Whether every tag has it. -/
  isGlobal : Bool := false
  deriving DecidableEq, Repr

namespace Attribute

def entry {ρ : Type → Type} [Notation ρ] : Record ρ Attribute where
  title := "struct AttributeDef"
  blank := {}
  slots := [
    Slot.text "type" fun name a => { a with kind := .ofText name },
    { name := "options"
      read := (fun options a => { a with options }) <$>
        Notation.optional (Notation.list (Notation.text "a string")) },
    Slot.text "description" fun text a => { a with description := text },
    Slot.boolean "global" fun flag a => { a with isGlobal := flag }]

/-- An attribute of no particular kind that has options is enumerated. -/
def normalized (a : Attribute) : Attribute :=
  if a.kind = .freeText ∧ a.options.isSome then { a with kind := .enumerated } else a

end Attribute
end Catalogue
end MarkupAssist
