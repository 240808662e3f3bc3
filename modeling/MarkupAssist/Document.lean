import MarkupAssist.Text.Space

/-!
# Documents and positions

A document is its lines, and it has at least one. A position counts lines and characters
from zero; a character beyond the end of its line stands for the end of the line.

- `Document.ofText`    : cut a text at its line breaks, `\n` and `\r\n` alike
- `Document.textBefore`: the text of the cursor's line up to the cursor
- `Document.offsetAt`  : the place of a position in the whole text, a line break counting one
-/

namespace MarkupAssist

structure Position where
  line : Nat
  character : Nat
  deriving DecidableEq, Repr

/-! ## Lines -/

/-- The pieces between line feeds, never none. -/
def splitLines : List Char → List (List Char)
  | [] => [[]]
  | c :: rest =>
      if c = '\n' then [] :: splitLines rest
      else match splitLines rest with
        | [] => [[c]]
        | line :: lines => (c :: line) :: lines

theorem splitLines_ne_nil (cs : List Char) : splitLines cs ≠ [] := by
  cases cs with
  | nil => simp [splitLines]
  | cons c rest =>
      by_cases hc : c = '\n'
      · simp [splitLines, hc]
      · cases h : splitLines rest <;> simp [splitLines, hc, h]

@[simp] theorem splitLines_nil : splitLines [] = [[]] := rfl

@[simp] theorem splitLines_newline (rest : List Char) :
    splitLines ('\n' :: rest) = [] :: splitLines rest := by
  simp [splitLines]

/-- One carriage return before the line break belongs to the break. -/
def dropReturn (line : List Char) : List Char :=
  if line.getLast? = some '\r' then line.dropLast else line

structure Document where
  lines : List (List Char)
  lines_ne_nil : lines ≠ []
  deriving DecidableEq

namespace Document

@[ext] theorem ext {d e : Document} (h : d.lines = e.lines) : d = e := by
  cases d; cases e; simp_all

def ofText (text : String) : Document where
  lines := (splitLines text.toList).map dropReturn
  lines_ne_nil := by simp [splitLines_ne_nil]

def lineCount (document : Document) : Nat :=
  document.lines.length

def line? (document : Document) (n : Nat) : Option (List Char) :=
  document.lines[n]?

/-- A line the document does not have reads as the empty one. -/
def lineText (document : Document) (n : Nat) : List Char :=
  (document.line? n).getD []

def Contains (document : Document) (position : Position) : Prop :=
  position.line < document.lineCount

instance (document : Document) (position : Position) : Decidable (document.Contains position) :=
  inferInstanceAs (Decidable (_ < _))

theorem lineCount_pos (document : Document) : 0 < document.lineCount :=
  List.length_pos_iff.mpr document.lines_ne_nil

def lastLine (document : Document) : Nat :=
  document.lineCount - 1

/-! ## Around a position -/

def textBefore (document : Document) (position : Position) : List Char :=
  (document.lineText position.line).take position.character

def charBefore? (document : Document) (position : Position) : Option Char :=
  (document.textBefore position).getLast?

/-- The characters of the lines above, one for each line break among them, and the column. -/
def offsetAt (document : Document) (position : Position) : Nat :=
  (document.lines.take position.line).foldr (fun line count => line.length + 1 + count) 0 +
    min position.character (document.lineText position.line).length

def typedWord (document : Document) (position : Position) : List Char :=
  Text.lastWord (document.textBefore position)

theorem textBefore_of_length_le {document : Document} {position : Position}
    (h : (document.lineText position.line).length ≤ position.character) :
    document.textBefore position = document.lineText position.line :=
  List.take_of_length_le h

/-- Every position of the document, line by line, the ends of the lines included. -/
def positions (document : Document) : List Position :=
  document.lines.zipIdx.flatMap fun (line, n) =>
    (List.range (line.length + 1)).map fun column => ⟨n, column⟩

end Document
end MarkupAssist
