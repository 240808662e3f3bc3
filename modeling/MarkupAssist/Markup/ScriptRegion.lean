import MarkupAssist.Document

/-!
# Script regions

Below a line that opens a script, and above the one that closes it, no markup is typed.

- `marker?`        : what a line says about the lines below it
- `insideScript`   : the nearest line with a marker decides
- `inScriptRegion` : the same, from a position upward
-/

namespace MarkupAssist
namespace Markup

def occursIn (pattern : List Char) : List Char → Bool
  | [] => pattern.isEmpty
  | c :: rest => pattern.isPrefixOf (c :: rest) || occursIn pattern rest

def scriptEnd : List Char := "</script".toList

def scriptStart : List Char := "<script".toList

def endsScript (line : List Char) : Bool :=
  occursIn scriptEnd line

/-- The line holds a `<script …>` tag and white space around it, nothing else at its ends. -/
def opensScript (line : List Char) : Bool :=
  let tag := Text.trim line
  scriptStart.isPrefixOf tag && (tag.drop scriptStart.length).getLast? == some '>'

/-- `false` below the end of a script, `true` below a start, nothing below other lines. -/
def marker? (line : List Char) : Option Bool :=
  if endsScript line then some false
  else if opensScript line then some true
  else none

/-- Look at the lines `n - 1`, `n - 2`, … , at most `limit` of them. -/
def insideScript (document : Document) : (limit n : Nat) → Bool
  | _, 0 => false
  | 0, _ => false
  | limit + 1, n + 1 =>
      match marker? (document.lineText n) with
      | some inside => inside
      | none => insideScript document limit n

/-- The cursor's own line counts, whole; a position below the document looks at its end. -/
def inScriptRegion (document : Document) (position : Position) (limit : Option Nat) : Bool :=
  let count := min position.line document.lastLine + 1
  insideScript document (limit.getD count) count

end Markup
end MarkupAssist
