import MarkupAssist.Document
import MarkupAssist.Text.Digit
import MarkupAssist.Text.WordChar

/-!
# Keywords

The word of a line that touches the cursor. A number with a point is one word, with what
follows its digits; any other word is a run of characters that are not punctuation.

- `wordLength` : the length of the word at the start of a text
- `words`      : the words of a line, with their columns
- `keywordAt?` : the word at a position
-/

namespace MarkupAssist
namespace Preview

/-! ## Words -/

def punctuation : List Char :=
  "`~!@$^&*()=+[\x7b]\x7d\\|;:'\",.<>/".toList

/-- Hyphens, among others, are no punctuation here. -/
def isPlain (c : Char) : Bool :=
  !punctuation.contains c && !Text.isSpace c

/-- The point of a number, a digit, and what belongs to a word; none if there is no such. -/
def fractionLength : List Char → Nat
  | '.' :: d :: rest => if Text.isDigit d then 2 + (rest.takeWhile Text.isWordChar).length else 0
  | _ => 0

def unsignedLength (cs : List Char) : Nat :=
  let whole := cs.takeWhile Text.isDigit
  match fractionLength (cs.drop whole.length) with
  | 0 => 0
  | n + 1 => whole.length + (n + 1)

/-- The length of a number with a point at the start of a text, zero if there is none. -/
def numberLength : List Char → Nat
  | '-' :: cs => match unsignedLength cs with
      | 0 => 0
      | n + 1 => n + 2
  | cs => unsignedLength cs

/-- A number, if there is one, is taken before a run of plain characters. -/
def wordLength (cs : List Char) : Nat :=
  match numberLength cs with
  | 0 => (cs.takeWhile isPlain).length
  | n => n

structure Word where
  column : Nat
  chars : List Char
  deriving DecidableEq, Repr

namespace Word

def endColumn (word : Word) : Nat :=
  word.column + word.chars.length

/-- The cursor is before, after or within the word. -/
def touches (word : Word) (column : Nat) : Bool :=
  word.column ≤ column && column ≤ word.endColumn

end Word

/-- The words of a text that starts in the given column; so many of its first characters
belong to the word before. -/
def words (column : Nat) : (taken : Nat) → List Char → List Word
  | _, [] => []
  | taken + 1, _ :: rest => words (column + 1) taken rest
  | 0, c :: rest =>
      match wordLength (c :: rest) with
      | 0 => words (column + 1) 0 rest
      | n + 1 => ⟨column, (c :: rest).take (n + 1)⟩ :: words (column + 1) n rest

/-! ## Keywords -/

/-- Of two words at the cursor it is the one before it. -/
def keywordIn? (line : List Char) (column : Nat) : Option (List Char) :=
  ((words 0 0 line).find? (·.touches column)).map Word.chars

def keywordAt? (document : Document) (position : Position) : Option (List Char) :=
  (document.line? position.line).bind fun line =>
    keywordIn? line (min position.character line.length)

end Preview
end MarkupAssist
