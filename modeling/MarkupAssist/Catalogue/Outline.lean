import MarkupAssist.Catalogue.Basic

/-!
# Outlines of tags

A tag with its child tags, their child tags and so on, cut at a depth, and the markup that
stands for it: one line for a tag without children, otherwise an opening line, the
lines of the children two blanks further in, and a closing line. Every default attribute
has an empty value with a placeholder, and these are numbered in the order of writing.

- `Outline`          : the tree
- `Catalogue.expand` : the tree of a tag
- `Outline.lines`    : its lines
- `Outline.text`     : the lines put together
-/

namespace MarkupAssist
namespace Catalogue

inductive Outline
  | node (name : String) (attributes : List String) (children : List Outline)
  deriving Repr

/-- The tree of a tag with so many levels below it. Child tags that are not known are left out. -/
def expand (catalogue : Catalogue) : (below : Nat) → Tag → Outline
  | 0, tag => .node tag.name tag.defaultAttributes []
  | below + 1, tag =>
      .node tag.name tag.defaultAttributes
        ((tag.childTags.filterMap catalogue.tag?).map (expand catalogue below))

namespace Outline

/-! ## Counting -/

mutual

/-- The number of default attributes in the tree. -/
def placeholders : Outline → Nat
  | .node _ attributes children => attributes.length + placeholdersOfAll children

def placeholdersOfAll : List Outline → Nat
  | [] => 0
  | outline :: rest => outline.placeholders + placeholdersOfAll rest

end

/-! ## Lines -/

def indentation (level : Nat) : List Char :=
  List.replicate (2 * level) ' '

/-- An attribute with the placeholder of the given number for a value. -/
def attributeText (name : String) (number : Nat) : List Char :=
  ' ' :: (name.toList ++ '=' :: '"' :: '$' :: (Nat.toDigits 10 number ++ ['"']))

def attributesText (first : Nat) : List String → List Char
  | [] => []
  | name :: rest => attributeText name first ++ attributesText (first + 1) rest

def openTag (name : String) (first : Nat) (attributes : List String) : List Char :=
  '<' :: (name.toList ++ attributesText first attributes ++ ['>'])

def closeTag (name : String) : List Char :=
  '<' :: '/' :: (name.toList ++ ['>'])

mutual

/-- The lines of a tree that stands at a level and whose first placeholder has a number. -/
def lines (level first : Nat) : Outline → List (List Char)
  | .node name attributes children =>
      let start := indentation level ++ openTag name first attributes
      match children with
      | [] => [start ++ closeTag name]
      | child :: rest =>
          let inner := first + attributes.length
          start :: (lines (level + 1) inner child ++
            linesOfAll (level + 1) (inner + child.placeholders) rest ++
            [indentation level ++ closeTag name])

def linesOfAll (level first : Nat) : List Outline → List (List Char)
  | [] => []
  | outline :: rest =>
      lines level first outline ++ linesOfAll level (first + outline.placeholders) rest

end

/-- The lines with line feeds between them. -/
def text (outline : Outline) : List Char :=
  ['\n'].intercalate (outline.lines 0 1)

end Outline
end Catalogue
end MarkupAssist
