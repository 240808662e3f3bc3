import MarkupAssist.Document

/-!
# Text put in at a position

A text without line breaks is put in within one line; what stands before the position and
the lines above stay as they are.
-/

namespace MarkupAssist

/-- The position so many characters further on the same line. -/
def Position.onward (position : Position) (count : Nat) : Position :=
  { position with character := position.character + count }

namespace Document

def insert (document : Document) (position : Position) (text : List Char) : Document where
  lines := document.lines.modify position.line fun line =>
    line.take position.character ++ text ++ line.drop position.character
  lines_ne_nil := by simp [document.lines_ne_nil]

variable {document : Document} {position : Position}

theorem contains_insert (h : document.Contains position) (text : List Char) (count : Nat) :
    (document.insert position text).Contains (position.onward count) := by
  simpa [Contains, lineCount, insert, Position.onward] using h

theorem take_lines_insert (document : Document) (position : Position) (text : List Char) :
    (document.insert position text).lines.take position.line =
      document.lines.take position.line := by
  rw [insert, List.take_modify]
  exact List.modify_eq_self (List.length_take_le _ _)

theorem lineText_insert (h : document.Contains position) (text : List Char) :
    (document.insert position text).lineText position.line =
      document.textBefore position ++ text ++
        (document.lineText position.line).drop position.character := by
  have hline : position.line < document.lines.length := h
  simp [lineText, line?, insert, textBefore, hline]

theorem textBefore_insert (h : document.Contains position)
    (hinside : position.character ≤ (document.lineText position.line).length)
    (text : List Char) :
    (document.insert position text).textBefore (position.onward text.length) =
      document.textBefore position ++ text := by
  have hlength : (document.textBefore position ++ text).length =
      position.character + text.length := by
    simp [textBefore, Nat.min_eq_left hinside]
  rw [textBefore, Position.onward, lineText_insert h, ← hlength, List.take_left]

end Document
end MarkupAssist
