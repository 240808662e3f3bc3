import MarkupAssist.Yaml.Readable

/-!
# Characters of YAML text

The text that is left to be scanned, with the place it has come to, and the elementary
ways to go on in it. There are five line breaks; most of them read as a line feed.

- `Mark`, `Source` : a place, and the text from there on
- `Scan`           : what is done on a source; it may find the text malformed
- `isBlank`, `isBreak`, `atGap` : the characters between words
-/

namespace MarkupAssist
namespace Yaml

/-! ## Places -/

/-- All counted from zero: the index in bytes, lines, and columns in characters. -/
structure Mark where
  index : Nat := 0
  line : Nat := 0
  column : Nat := 0
  deriving DecidableEq, Repr, Inhabited

def byteCount (cs : List Char) : Nat :=
  cs.foldr (fun c count => c.utf8Size + count) 0

namespace Mark

/-- After some characters of the same line. -/
def onward (mark : Mark) (passed : List Char) : Mark :=
  { mark with index := mark.index + byteCount passed, column := mark.column + passed.length }

/-- After a line break of so many bytes. -/
def nextLine (mark : Mark) (bytes : Nat) : Mark :=
  ⟨mark.index + bytes, mark.line + 1, 0⟩

end Mark

@[simp] theorem byteCount_nil : byteCount [] = 0 := rfl

theorem byteCount_append (cs ds : List Char) :
    byteCount (cs ++ ds) = byteCount cs + byteCount ds := by
  induction cs with
  | nil => simp [byteCount]
  | cons c rest ih => simpa [byteCount, Nat.add_assoc] using ih

/-- To go on in two parts is to go on at once. -/
theorem Mark.onward_append (mark : Mark) (cs ds : List Char) :
    mark.onward (cs ++ ds) = (mark.onward cs).onward ds := by
  simp [onward, byteCount_append, Nat.add_assoc]

/-! ## Character classes -/

def isBlank (c : Char) : Bool :=
  c == ' ' || c == '\t'

def isBreak (c : Char) : Bool :=
  c == '\r' || c == '\n' || c == '\x85' || c == '\u2028' || c == '\u2029'

/-- The breaks of Unicode stay what they are. -/
def normalBreak (c : Char) : Char :=
  if c == '\u2028' || c == '\u2029' then c else '\n'

/-- Names of anchors, directives and tag handles. -/
def isNameChar (c : Char) : Bool :=
  c.isAlphanum || c == '-' || c == '_'

/-- Blanks, line breaks and the end of the text stand between words. -/
def atGap : List Char → Bool
  | [] => true
  | c :: _ => isBlank c || isBreak c

/-! ## Scanning -/

structure Source where
  rest : List Char
  mark : Mark := {}
  /-- The text goes on after the rest, but cannot be read there. -/
  broken : Bool
  /-- More than any repetition can go on. -/
  bound : Nat
  deriving DecidableEq, Repr

def Source.ofText (text : String) : Source :=
  let (rest, broken) := readable text.toList
  { rest, broken, bound := rest.length + 4 }

/-- Why the text is not YAML is not told apart. -/
inductive Malformed
  | malformed
  deriving DecidableEq, Repr

abbrev Scan (α : Type) := EStateM Malformed Source α

namespace Scan

def fail {α : Type} : Scan α :=
  throw .malformed

def rest : Scan (List Char) := do
  return (← get).rest

def mark : Scan Mark := do
  return (← get).mark

def column : Scan Nat := do
  return (← mark).column

def bound : Scan Nat := do
  return (← get).bound

/-- Look so many characters ahead, if the text does not end before. -/
def look (n : Nat) : Scan Unit := do
  let source ← get
  if source.broken && source.rest.length < n then fail

def peek : Scan (Option Char) := do
  look 1
  return (← rest).head?

/-- Pass so many characters, none of which is a line break. -/
def skip (n : Nat) : Scan Unit :=
  modify fun source =>
    { source with rest := source.rest.drop n, mark := source.mark.onward (source.rest.take n) }

/-- Take the characters of a class that holds no line break. -/
def takeWhile (p : Char → Bool) : Scan (List Char) := do
  let taken := (← rest).takeWhile p
  skip taken.length
  look 1
  return taken

def skipBlanks : Scan Unit := do
  let _ ← takeWhile isBlank

/-- Go on after a line break. -/
def passBreak (length : Nat) : Scan Unit :=
  modify fun source =>
    { source with
      rest := source.rest.drop length
      mark := source.mark.nextLine (byteCount (source.rest.take length)) }

/-- Take a line break, if there is one. -/
def lineBreak? : Scan (Option Char) := do
  match ← peek with
  | some c =>
      if isBreak c then
        look 2
        passBreak (if ['\r', '\n'].isPrefixOf (← rest) then 2 else 1)
        return some (normalBreak c)
      else return none
  | none => return none

/-- Pass a comment, if there is one, up to the end of the line. -/
def skipComment : Scan Unit := do
  if (← peek) == some '#' then
    let _ ← takeWhile (!isBreak ·)

/-- Nothing but blanks and a comment may be left in the line, which is passed. -/
def finishLine : Scan Unit := do
  skipBlanks
  skipComment
  match ← lineBreak? with
  | some _ => pure ()
  | none => if (← peek).isSome then fail

end Scan

/-- Three hyphens or points at the start of a line, and nothing right after them, are between
documents. -/
def isDocumentBorder (border : List Char) (source : Source) : Bool :=
  source.mark.column == 0 && border.isPrefixOf source.rest && atGap (source.rest.drop 3)

def documentStart : List Char := "---".toList

def documentEnd : List Char := "...".toList

def atDocumentBorder (source : Source) : Bool :=
  isDocumentBorder documentStart source || isDocumentBorder documentEnd source

end Yaml
end MarkupAssist
