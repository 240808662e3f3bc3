import MarkupAssist.Markup.AttributeProbe
import MarkupAssist.Markup.EnclosingTag
import MarkupAssist.Markup.ScriptRegion
import MarkupAssist.Settings

/-!
# The context of a position

What a position in a document calls for: a tag name, an attribute name of some tag, a
value of some attribute, or nothing.
-/

namespace MarkupAssist
namespace Markup

inductive Context
  | nothing
  | tagName
  | attributeName (tag : String) (offset : Nat)
  | attributeValue (tag : String) (name : String)
  deriving DecidableEq, Repr

def scanTag (document : Document) (position : Position) (settings : CompletionSettings) :
    TagLookup :=
  enclosingTag document position settings.lookbackLines

def underScript (document : Document) (position : Position) (settings : CompletionSettings) : Bool :=
  inScriptRegion document position settings.scriptScanLines

/-- A tag begins here: a name is being typed, or its `<` has just been. -/
def startsTag (document : Document) (position : Position) (lookup : TagLookup) : Bool :=
  lookup == .typingName || document.charBefore? position == some '<'

def classify (document : Document) (position : Position) (settings : CompletionSettings) : Context :=
  if document.Contains position then
    match scanTag document position settings with
    | .found tag =>
        match valuedAttribute? document position with
        | some name => .attributeValue tag.name name
        | none => .attributeName tag.name tag.offset
    | lookup =>
        if startsTag document position lookup && !underScript document position settings then
          .tagName
        else .nothing
  else .nothing

theorem classify_of_not_contains {document : Document} {position : Position}
    (h : ¬ document.Contains position) (settings : CompletionSettings) :
    classify document position settings = .nothing := by
  simp [classify, h]

end Markup
end MarkupAssist
