import MarkupAssist.Proofs.Catalogue.SkeletonWriting

/-!
# The order of placeholders

A skeleton is the tree of a tag, row by row in the order of a walk that goes into the depth first.
No count is kept here: the number of a placeholder is told by the rows above it.

- `Outline.rows`     : the rows of a tree, with what each of them opens and closes
- `Outline.preorder` : the tags of a tree, each one before its children
- `countingOn`       : rows, each with the number that follows the default attributes above it
- `Row.text`         : a row as it is written, spelled out character by character

The rows open the tags of the tree in preorder (`opened_rows`), so the placeholders belong to the
default attributes in preorder and are numbered without a gap (`flatten_countingOn_marked`). The
text of a row is told here without the functions that write a skeleton, and the lines they write
are shown to be these texts (`lines_eq_countingOn`).
-/

namespace MarkupAssist
namespace Catalogue

/-! ## Rows -/

inductive Row
  | whole (level : Nat) (name : String) (attributes : List String)
  | opening (level : Nat) (name : String) (attributes : List String)
  | closing (level : Nat) (name : String)
  deriving DecidableEq, Repr

namespace Row

/-- The tag that is opened on the row, with its default attributes. -/
def opened? : Row → Option (String × List String)
  | .whole _ name attributes => some (name, attributes)
  | .opening _ name attributes => some (name, attributes)
  | .closing _ _ => none

def defaults (row : Row) : List String :=
  match row.opened? with
  | some opened => opened.2
  | none => []

/-- The default attributes of a row, numbered from the given number on. -/
def marked (row : Row) (first : Nat) : List (String × Nat) :=
  row.defaults.zipIdx first

/-- A default attribute as it is written, ` name="$1"` for the number 1. -/
def markText (mark : String × Nat) : List Char :=
  (" " ++ mark.1 ++ "=\"$" ++ toString mark.2 ++ "\"").toList

def openingText (name : String) (marked : List (String × Nat)) : List Char :=
  ("<" ++ name).toList ++ marked.flatMap markText ++ ">".toList

def closingText (name : String) : List Char :=
  ("</" ++ name ++ ">").toList

/-- Two blanks further in for every level. -/
def text (row : Row) (first : Nat) : List Char :=
  match row with
  | .whole level name _ =>
      List.replicate (2 * level) ' ' ++ openingText name (row.marked first) ++ closingText name
  | .opening level name _ =>
      List.replicate (2 * level) ' ' ++ openingText name (row.marked first)
  | .closing level name => List.replicate (2 * level) ' ' ++ closingText name

end Row

/-- Rows with the number that follows the default attributes of all rows above. -/
def countingOn {α : Type} (f : Row → Nat → α) (first : Nat) (rows : List Row) : List α :=
  rows.mapIdx fun i row => f row (first + ((rows.take i).flatMap Row.defaults).length)

section Counting

variable {α : Type} (f : Row → Nat → α)

theorem countingOn_cons (first : Nat) (row : Row) (rest : List Row) :
    countingOn f first (row :: rest) =
      f row first :: countingOn f (first + row.defaults.length) rest := by
  simp [countingOn, Nat.add_assoc]

theorem countingOn_append (first : Nat) (front back : List Row) :
    countingOn f first (front ++ back) =
      countingOn f first front ++
        countingOn f (first + (front.flatMap Row.defaults).length) back := by
  induction front generalizing first with
  | nil =>
      simp [countingOn]
  | cons row rest ih =>
      rw [List.cons_append, countingOn_cons, countingOn_cons, ih]
      simp [Nat.add_assoc]

theorem countingOn_singleton (first : Nat) (row : Row) :
    countingOn f first [row] = [f row first] := by
  simp [countingOn]

end Counting

/-- Read from row to row, the numbers go on without a gap. -/
theorem flatten_countingOn_marked (first : Nat) (rows : List Row) :
    (countingOn Row.marked first rows).flatten = (rows.flatMap Row.defaults).zipIdx first := by
  induction rows generalizing first with
  | nil =>
      rfl
  | cons row rest ih =>
      rw [countingOn_cons, List.flatten_cons, ih, List.flatMap_cons, List.zipIdx_append]
      rfl

theorem flatMap_defaults (rows : List Row) :
    rows.flatMap Row.defaults = (rows.filterMap Row.opened?).flatMap Prod.snd := by
  induction rows with
  | nil =>
      rfl
  | cons row rest ih =>
      rw [List.flatMap_cons, ih, List.filterMap_cons, Row.defaults]
      cases row.opened? <;> rfl

/-! ## The rows of a tree -/

namespace Outline

mutual

/-- A tag without children has a row to itself; others have a row before their children and one
after them. -/
def rows (level : Nat) : Outline → List Row
  | .node name attributes children =>
      match children with
      | [] => [.whole level name attributes]
      | child :: rest =>
          .opening level name attributes ::
            (rows (level + 1) child ++ rowsOfAll (level + 1) rest ++ [.closing level name])

def rowsOfAll (level : Nat) : List Outline → List Row
  | [] => []
  | outline :: rest => rows level outline ++ rowsOfAll level rest

end

mutual

/-- The tags with their default attributes, each one before its children. -/
def preorder : Outline → List (String × List String)
  | .node name attributes children => (name, attributes) :: preorderOfAll children

def preorderOfAll : List Outline → List (String × List String)
  | [] => []
  | outline :: rest => outline.preorder ++ preorderOfAll rest

end

theorem mem_preorderOfAll {opened : String × List String} {outlines : List Outline} :
    opened ∈ preorderOfAll outlines ↔ ∃ outline ∈ outlines, opened ∈ outline.preorder := by
  induction outlines with
  | nil =>
      simp [preorderOfAll]
  | cons outline rest ih =>
      simp [preorderOfAll, ih]

theorem rows_of_children (level : Nat) (name : String) (attributes : List String)
    {children : List Outline} (h : children ≠ []) :
    (Outline.node name attributes children).rows level =
      .opening level name attributes ::
        (rowsOfAll (level + 1) children ++ [.closing level name]) := by
  cases children with
  | nil =>
      exact absurd rfl h
  | cons child rest =>
      simp [rows, rowsOfAll]

mutual

theorem opened_rows (level : Nat) :
    ∀ outline : Outline, (outline.rows level).filterMap Row.opened? = outline.preorder
  | .node name attributes children => by
      have hchildren := opened_rowsOfAll (level + 1) children
      by_cases hnone : children = []
      · subst hnone
        simp [rows, preorder, preorderOfAll, Row.opened?]
      · simp [rows_of_children level name attributes hnone, preorder, Row.opened?, hchildren]

theorem opened_rowsOfAll (level : Nat) :
    ∀ outlines : List Outline, (rowsOfAll level outlines).filterMap Row.opened? =
      preorderOfAll outlines
  | [] => rfl
  | outline :: rest => by
      simp [rowsOfAll, preorderOfAll, opened_rows level outline, opened_rowsOfAll level rest]

end

mutual

theorem length_defaults : ∀ outline : Outline,
    (outline.preorder.flatMap Prod.snd).length = outline.placeholders
  | .node name attributes children => by
      simp [preorder, placeholders, length_defaultsOfAll children]

theorem length_defaultsOfAll : ∀ outlines : List Outline,
    ((preorderOfAll outlines).flatMap Prod.snd).length = placeholdersOfAll outlines
  | [] => rfl
  | outline :: rest => by
      simp [preorderOfAll, placeholdersOfAll, length_defaults outline, length_defaultsOfAll rest]

end

theorem length_defaults_rows (level : Nat) (outline : Outline) :
    ((outline.rows level).flatMap Row.defaults).length = outline.placeholders := by
  rw [flatMap_defaults, opened_rows, length_defaults]

/-! ## Rows and lines -/

theorem attributeText_eq_markText (name : String) (number : Nat) :
    attributeText name number = Row.markText (name, number) := by
  simp [attributeText, Row.markText]

theorem attributesText_eq_flatMap (first : Nat) (names : List String) :
    attributesText first names = (names.zipIdx first).flatMap Row.markText := by
  induction names generalizing first with
  | nil =>
      rfl
  | cons name rest ih =>
      rw [attributesText, ih, List.zipIdx_cons, List.flatMap_cons, attributeText_eq_markText]

theorem openTag_eq_openingText (name : String) (first : Nat) (attributes : List String) :
    openTag name first attributes = Row.openingText name (attributes.zipIdx first) := by
  simp [openTag, attributesText_eq_flatMap, Row.openingText]

theorem closeTag_eq_closingText (name : String) : closeTag name = Row.closingText name := by
  simp [closeTag, Row.closingText]

mutual

/-- The count that is handed down with the lines is the one that the rows above tell. -/
theorem lines_eq_countingOn (level first : Nat) :
    ∀ outline : Outline, outline.lines level first = countingOn Row.text first (outline.rows level)
  | .node name attributes children => by
      by_cases hnone : children = []
      · subst hnone
        rw [lines_of_no_children, openTag_eq_openingText, closeTag_eq_closingText,
          ← List.append_assoc, rows, countingOn_singleton]
        rfl
      · have hinner := linesOfAll_eq_countingOn (level + 1) (first + attributes.length) children
        rw [lines_of_children level first name attributes hnone,
          rows_of_children level name attributes hnone, countingOn_cons, countingOn_append,
          countingOn_singleton, openTag_eq_openingText, closeTag_eq_closingText, hinner]
        rfl

theorem linesOfAll_eq_countingOn (level first : Nat) :
    ∀ outlines : List Outline, linesOfAll level first outlines =
      countingOn Row.text first (rowsOfAll level outlines)
  | [] => rfl
  | outline :: rest => by
      have hhere := lines_eq_countingOn level first outline
      have hrest := linesOfAll_eq_countingOn level (first + outline.placeholders) rest
      rw [linesOfAll, rowsOfAll, countingOn_append, length_defaults_rows, hhere, hrest]

end

end Outline

/-- What is inserted for a tag is its tree, cut at the depth, row by row; the rows open the tags in
preorder, and the placeholders of their default attributes are numbered from 1 on in this order. -/
theorem skeleton_eq_rows (catalogue : Catalogue) (tag : Tag) (maxDepth : Nat) :
    let tree := catalogue.expand (max maxDepth 1 - 1) tag
    '<' :: (catalogue.skeleton tag maxDepth).toList =
        ['\n'].intercalate (countingOn Row.text 1 (tree.rows 0)) ∧
      (tree.rows 0).filterMap Row.opened? = tree.preorder ∧
      (countingOn Row.marked 1 (tree.rows 0)).flatten =
        (tree.preorder.flatMap Prod.snd).zipIdx 1 ∧
      (countingOn Row.marked 1 (tree.rows 0)).flatten.map Prod.snd =
        List.range' 1 tree.placeholders := by
  intro tree
  have hopened : (tree.rows 0).filterMap Row.opened? = tree.preorder := tree.opened_rows 0
  have hmarks : (countingOn Row.marked 1 (tree.rows 0)).flatten =
      (tree.preorder.flatMap Prod.snd).zipIdx 1 := by
    rw [flatten_countingOn_marked, flatMap_defaults, hopened]
  have htree : tree = catalogue.expand (maxDepth - 1) tag := by
    have hbelow : max maxDepth 1 - 1 = maxDepth - 1 := by omega
    exact congrArg (catalogue.expand · tag) hbelow
  refine ⟨?_, hopened, hmarks, ?_⟩
  · calc
      '<' :: (catalogue.skeleton tag maxDepth).toList
          = (catalogue.expand (maxDepth - 1) tag).text := open_cons_skeleton catalogue tag maxDepth
      _ = ['\n'].intercalate (tree.lines 0 1) := by rw [← htree, Outline.text]
      _ = ['\n'].intercalate (countingOn Row.text 1 (tree.rows 0)) := by
          rw [Outline.lines_eq_countingOn]
  · rw [hmarks, List.zipIdx_map_snd, Outline.length_defaults]

/-- A row of columns, each with the default attribute that the table gives it. -/
example :
    let row : Tag := { name := "el-row", childTags := ["el-col"], defaultAttributes := ["gutter"] }
    let column : Tag := { name := "el-col", defaultAttributes := ["span"] }
    '<' :: ((ofLists [row, column] [] []).skeleton row 4).toList =
      "<el-row gutter=\"$1\">\n  <el-col span=\"$2\"></el-col>\n</el-row>".toList := by
  intro row column
  rw [open_cons_skeleton]
  decide +kernel

end Catalogue
end MarkupAssist
