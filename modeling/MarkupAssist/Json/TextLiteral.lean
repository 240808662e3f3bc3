import MarkupAssist.Json.Cursor

/-!
# Texts in JSON

What stands between two quotes, read by a small automaton: characters, escapes by a letter,
and escapes by four hexadecimal digits, two of which may make up one character.

- `Mode`, `step`   : where the automaton stands, and the reading of one character
- `Reader.text`    : a text after its opening quote
- `Reader.skipText`: the same for a text nobody wants, which may hold halves of characters
-/

namespace MarkupAssist
namespace Json

namespace TextLiteral

inductive Mode
  | plain
  | escape
  /-- Within four hexadecimal digits: how many are missing, the value of the others, and the
  first half of the character if this is the second. -/
  | unit (missing value : Nat) (high : Option Nat)
  /-- After a first half. -/
  | pairBackslash (high : Nat)
  | pairLetter (high : Nat)
  deriving DecidableEq, Repr

inductive Step
  | close
  | go (mode : Mode) (written : Option Char)
  /-- The fault shows so many bytes after the beginning of the character. -/
  | refuse (fault : SyntaxFault) (bytes : Nat)
  deriving DecidableEq, Repr

def hexValue? (c : Char) : Option Nat :=
  if '0' ≤ c ∧ c ≤ '9' then some (c.toNat - '0'.toNat)
  else if 'a' ≤ c ∧ c ≤ 'f' then some (c.toNat - 'a'.toNat + 10)
  else if 'A' ≤ c ∧ c ≤ 'F' then some (c.toNat - 'A'.toNat + 10)
  else none

/-- The character behind a letter that follows a backslash. -/
def letterEscape? (c : Char) : Option Char :=
  match c with
  | '"' => some '"'
  | '\\' => some '\\'
  | '/' => some '/'
  | 'b' => some '\x08'
  | 'f' => some '\x0c'
  | 'n' => some '\n'
  | 'r' => some '\r'
  | 't' => some '\t'
  | _ => none

def isHigh (unit : Nat) : Bool :=
  0xD800 ≤ unit && unit ≤ 0xDBFF

def isLow (unit : Nat) : Bool :=
  0xDC00 ≤ unit && unit ≤ 0xDFFF

/-- The character of two halves. -/
def joined (high low : Nat) : Char :=
  Char.ofNat (0x10000 + (high - 0xD800) * 0x400 + (low - 0xDC00))

/-- What four digits come to. A half may stand alone only in a text that is not kept. -/
def finishUnit (kept : Bool) (value : Nat) : (high : Option Nat) → Step
  | none =>
      if !kept then .go .plain none
      else if isLow value then .refuse .loneSurrogate 1
      else if isHigh value then .go (.pairBackslash value) none
      else .go .plain (some (Char.ofNat value))
  | some high =>
      if isLow value then .go .plain (some (joined high value))
      else .refuse .loneSurrogate 1

def step (kept : Bool) (c : Char) : Mode → Step
  | .plain =>
      if c = '"' then .close
      else if c = '\\' then .go .escape none
      else if c < ' ' then .refuse .controlCharacter (if kept then 1 else 0)
      else .go .plain (some c)
  | .escape =>
      if c = 'u' then .go (.unit 4 0 none) none
      else match letterEscape? c with
        | some e => .go .plain (some e)
        | none => .refuse .invalidEscape 1
  | .unit missing value high =>
      match hexValue? c with
      | none => .refuse .invalidEscape missing
      | some digit =>
          if missing ≤ 1 then finishUnit kept (value * 16 + digit) high
          else .go (.unit (missing - 1) (value * 16 + digit) high) none
  | .pairBackslash high =>
      if c = '\\' then .go (.pairLetter high) none else .refuse .surrogateUnfinished 1
  | .pairLetter high =>
      if c = 'u' then .go (.unit 4 0 (some high)) none else .refuse .surrogateUnfinished 1

/-- The place so many bytes on; at the end of the text, if it is too short, `false`. -/
def placeOn (place : Place) : (bytes : Nat) → List Char → Place × Bool
  | 0, _ => (place, true)
  | _ + 1, [] => (place, false)
  | bytes + 1, c :: rest =>
      if c.utf8Size ≤ bytes + 1 then placeOn (place.after c) (bytes + 1 - c.utf8Size) rest
      else ({ place with column := place.column + (bytes + 1) }, true)

/-- A fault beyond the end of the text is that the text ends. -/
def faultOn (fault : SyntaxFault) (place : Place) (bytes : Nat) (rest : List Char) : Fault :=
  match placeOn place bytes rest with
  | (place, true) => ⟨.writing fault, some place⟩
  | (place, false) => ⟨.writing .textUnfinished, some place⟩

/-- Read up to the closing quote; `taken` holds what has been read, last character first. -/
def read (kept : Bool) (mode : Mode) (taken : List Char) (place : Place) :
    List Char → EStateM.Result Fault Cursor (List Char)
  | [] => .error ⟨.writing .textUnfinished, some place⟩ ⟨[], place⟩
  | c :: rest =>
      match step kept c mode with
      | .close => .ok taken.reverse ⟨rest, place.after c⟩
      | .go mode written => read kept mode (written.toList ++ taken) (place.after c) rest
      | .refuse fault bytes => .error (faultOn fault place bytes (c :: rest)) ⟨c :: rest, place⟩

end TextLiteral

namespace Reader

def text : Reader String := fun cursor =>
  match TextLiteral.read true .plain [] cursor.place cursor.rest with
  | .ok cs cursor => .ok (String.ofList cs) cursor
  | .error fault cursor => .error fault cursor

def skipText : Reader Unit := fun cursor =>
  match TextLiteral.read false .plain [] cursor.place cursor.rest with
  | .ok _ cursor => .ok () cursor
  | .error fault cursor => .error fault cursor

end Reader
end Json
end MarkupAssist
