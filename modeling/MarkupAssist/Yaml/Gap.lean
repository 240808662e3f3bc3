import MarkupAssist.Yaml.Source

/-!
# Gaps within scalars

Blanks and line breaks between two words of a scalar. One line break reads as a blank, of
several ones the first reads as nothing, and the blanks around them count for nothing.

- `Gap`      : what there is between two words
- `Gap.text` : what it reads as
- `Scan.gap` : the scanning of a gap
-/

namespace MarkupAssist
namespace Yaml

structure Gap where
  /-- Before the first line break. -/
  blanks : List Char := []
  breaks : List Char := []
  /-- A line break that is no part of the text comes first. -/
  escaped : Bool := false
  deriving DecidableEq, Repr

namespace Gap

/-- Whether the next word stands in another line. -/
def isBroken (gap : Gap) : Bool :=
  gap.escaped || !gap.breaks.isEmpty

def addBlank (c : Char) (gap : Gap) : Gap :=
  if gap.isBroken then gap else { gap with blanks := gap.blanks ++ [c] }

def addBreak (c : Char) (gap : Gap) : Gap :=
  { gap with breaks := gap.breaks ++ [c] }

/-- The breaks folded: a first line feed is a blank when it is alone, else nothing. -/
def folded : List Char → List Char
  | ['\n'] => [' ']
  | '\n' :: breaks => breaks
  | breaks => breaks

def text (gap : Gap) : List Char :=
  if gap.escaped then gap.breaks
  else if gap.breaks.isEmpty then gap.blanks
  else folded gap.breaks

end Gap

namespace Scan

/-- A gap, from its beginning on. In a new line no tab may stand before the given column. -/
def gapFrom (tabColumn : Option Nat) : (bound : Nat) → Gap → Scan Gap
  | 0, gap => pure gap
  | bound + 1, gap => do
      match ← peek with
      | some c =>
          if isBlank c then
            if c == '\t' && gap.isBroken && tabColumn.any ((← column) < ·) then fail
            else
              skip 1
              gapFrom tabColumn bound (gap.addBlank c)
          else match ← lineBreak? with
            | some c => gapFrom tabColumn bound (gap.addBreak c)
            | none => pure gap
      | none => pure gap

def gap (tabColumn : Option Nat) (start : Gap) : Scan Gap := do
  gapFrom tabColumn (← bound) start

end Scan
end Yaml
end MarkupAssist
