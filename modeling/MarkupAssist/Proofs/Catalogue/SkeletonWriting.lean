import MarkupAssist.Catalogue.Skeleton

/-!
# The writing of a skeleton

A skeleton is written with a count that goes on from tag to tag and a depth that cuts circles of
tags. What is on the lines in the end is the text of the tree, cut at that depth.

- `Draft.add`            : a tree written behind what is there already
- `writeTag_eq_add`      : what is written for a tag is its tree, whatever stood there before
- `lines_writeTag`       : the lines of a whole skeleton
- `open_cons_skeleton`   : its text, with the `<` that is there already
-/

namespace MarkupAssist
namespace Catalogue

namespace Outline

/-! ## Trees with and without children -/

theorem lines_of_no_children (level first : Nat) (name : String) (attributes : List String) :
    (Outline.node name attributes []).lines level first =
      [indentation level ++ (openTag name first attributes ++ closeTag name)] := by
  simp [lines]

/-- With children there is a line to open the tag and a line to close it. -/
theorem lines_of_children (level first : Nat) (name : String) (attributes : List String)
    {children : List Outline} (h : children ≠ []) :
    (Outline.node name attributes children).lines level first =
      (indentation level ++ openTag name first attributes) ::
        (linesOfAll (level + 1) (first + attributes.length) children ++
          [indentation level ++ closeTag name]) := by
  cases children with
  | nil =>
      exact absurd rfl h
  | cons child rest =>
      simp [lines, linesOfAll]

theorem exists_text_eq_cons (outline : Outline) : ∃ rest, outline.text = '<' :: rest := by
  obtain ⟨name, attributes, children⟩ := outline
  have hfirst : ∃ rest others,
      (Outline.node name attributes children).lines 0 1 = ('<' :: rest) :: others := by
    cases children with
    | nil =>
        exact ⟨_, _, lines_of_no_children 0 1 name attributes⟩
    | cons child rest =>
        exact ⟨_, _, lines_of_children 0 1 name attributes (by simp)⟩
  obtain ⟨rest, others, hlines⟩ := hfirst
  cases others with
  | nil =>
      exact ⟨rest, by simp [text, hlines]⟩
  | cons other others =>
      exact ⟨rest ++ '\n' :: ['\n'].intercalate (other :: others), by simp [text, hlines]⟩

end Outline

open Outline (attributesText openTag closeTag indentation)

/-! ## One tag -/

theorem foldl_addDefault (names : List String) (written : List Char × Nat) :
    names.foldl addDefault written =
      (written.1 ++ attributesText written.2 names, written.2 + names.length) := by
  induction names generalizing written with
  | nil =>
      simp [attributesText]
  | cons name rest ih =>
      rw [List.foldl_cons, ih]
      simp [addDefault, attributesText, Nat.add_assoc, Nat.add_comm 1]

theorem writeDefaults_eq (tag : Tag) (next : Nat) :
    writeDefaults tag next =
      (attributesText next tag.defaultAttributes, next + tag.defaultAttributes.length) := by
  simp [writeDefaults, foldl_addDefault]

variable {catalogue : Catalogue} {maxDepth depth : Nat} {tag : Tag}

theorem writeTag_of_no_children (h : catalogue.writtenChildren maxDepth depth tag = [])
    (draft : Draft) :
    catalogue.writeTag maxDepth depth tag draft =
      ⟨draft.lines ++ [indentation depth ++
          (openTag tag.name draft.next tag.defaultAttributes ++ closeTag tag.name)],
        draft.next + tag.defaultAttributes.length⟩ := by
  rw [writeTag, writeDefaults_eq]
  split
  · simp [Draft.addLine, openTag]
  · next hchildren =>
      simp [h] at hchildren

theorem writeTag_of_children {children : List Tag}
    (h : catalogue.writtenChildren maxDepth depth tag = children) (hne : children ≠ [])
    (draft : Draft) :
    catalogue.writeTag maxDepth depth tag draft =
      Draft.addLine (indentation depth ++ closeTag tag.name)
        (children.foldl (fun draft child => catalogue.writeTag maxDepth (depth + 1) child draft)
          ⟨draft.lines ++ [indentation depth ++ openTag tag.name draft.next tag.defaultAttributes],
            draft.next + tag.defaultAttributes.length⟩) := by
  rw [writeTag, writeDefaults_eq]
  split
  · next hchildren =>
      exact absurd (h.symm.trans hchildren) hne
  · next child rest hchildren =>
      obtain rfl : children = child :: rest := h.symm.trans hchildren
      rfl

/-! ## Whole trees -/

/-- The tree is written behind the lines that are there, and its placeholders are counted on. -/
def Draft.add (level : Nat) (draft : Draft) (outline : Outline) : Draft :=
  ⟨draft.lines ++ outline.lines level draft.next, draft.next + outline.placeholders⟩

theorem Draft.foldl_add (level : Nat) (draft : Draft) (outlines : List Outline) :
    outlines.foldl (Draft.add level) draft =
      ⟨draft.lines ++ Outline.linesOfAll level draft.next outlines,
        draft.next + Outline.placeholdersOfAll outlines⟩ := by
  induction outlines generalizing draft with
  | nil =>
      simp [Outline.linesOfAll, Outline.placeholdersOfAll]
  | cons outline rest ih =>
      rw [List.foldl_cons, ih]
      simp [Draft.add, Outline.linesOfAll, Outline.placeholdersOfAll, Nat.add_assoc]

/-- Of the depth only what is left of it counts, for the tree is cut where none is left. -/
theorem writeTag_eq_add (below : Nat) (hbelow : maxDepth - 1 - depth = below) (draft : Draft) :
    catalogue.writeTag maxDepth depth tag draft = draft.add depth (catalogue.expand below tag) := by
  induction below generalizing depth tag draft with
  | zero =>
      have hnone : catalogue.writtenChildren maxDepth depth tag = [] :=
        if_pos (by omega)
      rw [writeTag_of_no_children hnone, Draft.add, expand, Outline.lines_of_no_children]
      rfl
  | succ below ih =>
      have hall : catalogue.writtenChildren maxDepth depth tag =
          tag.childTags.filterMap catalogue.tag? := if_neg (by omega)
      by_cases hnone : tag.childTags.filterMap catalogue.tag? = []
      · rw [writeTag_of_no_children (hall.trans hnone), Draft.add, expand, hnone, List.map_nil,
          Outline.lines_of_no_children]
        rfl
      · -- each child is written as its own tree, one level further in
        have hchild : (fun draft child => catalogue.writeTag maxDepth (depth + 1) child draft) =
            fun draft child => draft.add (depth + 1) (catalogue.expand below child) := by
          funext draft child
          exact ih (by omega) draft
        have hchildren :
            (tag.childTags.filterMap catalogue.tag?).map (catalogue.expand below) ≠ [] := by
          simpa using hnone
        rw [writeTag_of_children hall hnone, hchild, ← List.foldl_map, Draft.foldl_add, Draft.add,
          expand, Outline.lines_of_children _ _ _ _ hchildren]
        simp [Draft.addLine, Outline.placeholders, Nat.add_assoc]

theorem lines_writeTag (catalogue : Catalogue) (tag : Tag) (maxDepth : Nat) :
    (catalogue.writeTag maxDepth 0 tag {}).lines =
      (catalogue.expand (maxDepth - 1) tag).lines 0 1 := by
  rw [writeTag_eq_add (maxDepth - 1) (Nat.sub_zero _)]
  rfl

/-- What is inserted follows a `<` that is there already. -/
theorem open_cons_skeleton (catalogue : Catalogue) (tag : Tag) (maxDepth : Nat) :
    '<' :: (catalogue.skeleton tag maxDepth).toList =
      (catalogue.expand (maxDepth - 1) tag).text := by
  have htext : ['\n'].intercalate (catalogue.writeTag maxDepth 0 tag {}).lines =
      (catalogue.expand (maxDepth - 1) tag).text := by
    rw [lines_writeTag, Outline.text]
  obtain ⟨rest, hrest⟩ := (catalogue.expand (maxDepth - 1) tag).exists_text_eq_cons
  rw [skeleton, htext, hrest]
  simp

end Catalogue
end MarkupAssist
