import MarkupAssist.Document
import MarkupAssist.Markup.Line

/-!
# The enclosing tag

Which tag's attribute list a position lies in. Lines are looked at one by one from the
position upward, each on its own, and only so many of them.

- `TagLookup`    : the four answers
- `verdict?`     : what one line decides
- `searchAbove`  : the lines above, nearest first
- `enclosingTag` : the whole search
-/

namespace MarkupAssist
namespace Markup

structure EnclosingTag where
  name : String
  /-- The place of the tag's `<` in the whole text. -/
  offset : Nat
  deriving DecidableEq, Repr

inductive TagLookup
  | found (tag : EnclosingTag)
  /-- Right after `<` or within a name, which is not the name of an enclosing tag yet. -/
  | typingName
  /-- A tag ends between here and any opening one. -/
  | outside
  /-- The window or the document has no further line. -/
  | exhausted
  deriving DecidableEq, Repr

/-- What the summary of line `n` says about a position after it, if anything. -/
def verdict? (document : Document) (n : Nat) (summary : LineSummary) : Option TagLookup :=
  match summary.openTag with
  | some tag => some (.found ⟨tag.name, document.offsetAt ⟨n, tag.column⟩⟩)
  | none => if summary.boundary || summary.inClosingTag then some .outside else none

/-- Look at the lines `n - 1`, `n - 2`, … , at most `window` of them. -/
def searchAbove (document : Document) : (window n : Nat) → TagLookup
  | _, 0 => .exhausted
  | 0, _ => .exhausted
  | window + 1, n + 1 =>
      match verdict? document n (scanLine (document.lineText n)) with
      | some answer => answer
      | none => searchAbove document window n

def enclosingTag (document : Document) (position : Position) (window : Nat) : TagLookup :=
  if document.Contains position then
    match window with
    | 0 => .exhausted
    | window + 1 =>
        let summary := scanLine (document.textBefore position)
        if summary.typingName then .typingName
        else match verdict? document position.line summary with
          | some answer => answer
          | none => searchAbove document window position.line
  else .exhausted

/-! ## First consequences -/

theorem enclosingTag_of_not_contains {document : Document} {position : Position}
    (h : ¬ document.Contains position) (window : Nat) :
    enclosingTag document position window = .exhausted := by
  simp [enclosingTag, h]

theorem enclosingTag_zero (document : Document) (position : Position) :
    enclosingTag document position 0 = .exhausted := by
  simp [enclosingTag]

end Markup
end MarkupAssist
