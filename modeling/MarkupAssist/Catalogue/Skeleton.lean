import MarkupAssist.Catalogue.Outline

/-!
# Skeletons of tags

The markup that is inserted for a tag and its child tags. It is written line by line in one go,
with a count of the placeholders that goes on from tag to tag. Tags may refer to each other in a
circle, so what ends the writing is a depth.

- `Draft`    : the lines that have been written and the number of the next placeholder
- `writeTag` : write a tag and what stands inside it
- `skeleton` : the inserted text, which follows a `<` that is there already
-/

namespace MarkupAssist
namespace Catalogue

open Outline (attributeText closeTag indentation)

structure Draft where
  lines : List (List Char) := []
  next : Nat := 1
  deriving DecidableEq, Repr

def Draft.addLine (line : List Char) (draft : Draft) : Draft :=
  { draft with lines := draft.lines ++ [line] }

/-! ## Writing -/

/-- Write a default attribute behind the others; the number after it is for the next one. -/
def addDefault (written : List Char × Nat) (name : String) : List Char × Nat :=
  (written.1 ++ attributeText name written.2, written.2 + 1)

/-- The default attributes of a tag, and the number after their placeholders. -/
def writeDefaults (tag : Tag) (next : Nat) : List Char × Nat :=
  tag.defaultAttributes.foldl addDefault ([], next)

/-- The child tags to write: none when the depth is used up, and none that is not known. -/
def writtenChildren (catalogue : Catalogue) (maxDepth depth : Nat) (tag : Tag) : List Tag :=
  if maxDepth ≤ depth + 1 then [] else tag.childTags.filterMap catalogue.tag?

theorem lt_of_writtenChildren {catalogue : Catalogue} {maxDepth depth : Nat} {tag child : Tag}
    {rest : List Tag} (h : catalogue.writtenChildren maxDepth depth tag = child :: rest) :
    depth + 1 < maxDepth := by
  unfold writtenChildren at h
  split at h
  · simp at h
  · omega

/-- A tag without children is closed on the line that opens it. -/
def writeTag (catalogue : Catalogue) (maxDepth depth : Nat) (tag : Tag) (draft : Draft) : Draft :=
  let defaults := writeDefaults tag draft.next
  let opening := indentation depth ++ '<' :: (tag.name.toList ++ defaults.1 ++ ['>'])
  let counted := { draft with next := defaults.2 }
  match _hchildren : catalogue.writtenChildren maxDepth depth tag with
  | [] => counted.addLine (opening ++ closeTag tag.name)
  | child :: rest =>
      let inner := (child :: rest).foldl
        (fun draft child => catalogue.writeTag maxDepth (depth + 1) child draft)
        (counted.addLine opening)
      inner.addLine (indentation depth ++ closeTag tag.name)
termination_by maxDepth - depth
decreasing_by
  have hlt := lt_of_writtenChildren _hchildren
  omega

/-- The lines with line feeds between them, without the `<` of the first one. -/
def skeleton (catalogue : Catalogue) (tag : Tag) (maxDepth : Nat) : String :=
  let text := ['\n'].intercalate (catalogue.writeTag maxDepth 0 tag {}).lines
  String.ofList (match text with
    | '<' :: rest => rest
    | other => other)

end Catalogue
end MarkupAssist
