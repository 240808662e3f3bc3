import MarkupAssist.Json.Basic

/-!
# Reading JSON text

A reader takes characters off a cursor, which knows its place in the text. Faults of the
notation carry the place where they were noticed. A value that does not fit is noticed
without a place; it gets the one reached when the value around it has been closed.

- `Place`, `Cursor` : line and column; the column counts bytes
- `Fault`           : a cause and, mostly, a place
- `Reader`          : readers and the elementary ones among them
-/

namespace MarkupAssist
namespace Json

/-! ## Places -/

structure Place where
  /-- Counted from one. -/
  line : Nat
  /-- The number of bytes since the start of the line. -/
  column : Nat
  deriving DecidableEq, Repr

namespace Place

def start : Place := ⟨1, 0⟩

def after (place : Place) (c : Char) : Place :=
  if c = '\n' then ⟨place.line + 1, 0⟩ else { place with column := place.column + c.utf8Size }

/-- One byte on, which may be within a character. -/
def byteAfter (place : Place) (c : Char) : Place :=
  if c = '\n' then ⟨place.line + 1, 0⟩ else { place with column := place.column + 1 }

def afterAll (place : Place) (cs : List Char) : Place :=
  cs.foldl after place

end Place

/-! ## Faults -/

inductive SyntaxFault
  | listUnfinished
  | objectUnfinished
  | textUnfinished
  | valueUnfinished
  | colonExpected
  | listCommaOrEndExpected
  | objectCommaOrEndExpected
  | wordExpected
  | valueExpected
  | invalidEscape
  | invalidNumber
  | numberOutOfRange
  | keyNotText
  | controlCharacter
  | loneSurrogate
  | surrogateUnfinished
  | trailingComma
  | trailingCharacters
  | nestedTooDeep
  deriving DecidableEq, Repr

def SyntaxFault.describe : SyntaxFault → String
  | .listUnfinished => "EOF while parsing a list"
  | .objectUnfinished => "EOF while parsing an object"
  | .textUnfinished => "EOF while parsing a string"
  | .valueUnfinished => "EOF while parsing a value"
  | .colonExpected => "expected `:`"
  | .listCommaOrEndExpected => "expected `,` or `]`"
  | .objectCommaOrEndExpected => "expected `,` or `\x7d`"
  | .wordExpected => "expected ident"
  | .valueExpected => "expected value"
  | .invalidEscape => "invalid escape"
  | .invalidNumber => "invalid number"
  | .numberOutOfRange => "number out of range"
  | .keyNotText => "key must be a string"
  | .controlCharacter => "control character (\\u0000-\\u001F) found while parsing a string"
  | .loneSurrogate => "lone leading surrogate in hex escape"
  | .surrogateUnfinished => "unexpected end of hex escape"
  | .trailingComma => "trailing comma"
  | .trailingCharacters => "trailing characters"
  | .nestedTooDeep => "recursion limit exceeded"

inductive Cause
  | writing (fault : SyntaxFault)
  | data (mismatch : Data.Mismatch)
  deriving DecidableEq, Repr

structure Fault where
  cause : Cause
  place : Option Place
  deriving DecidableEq, Repr

namespace Fault

def ofMismatch (mismatch : Data.Mismatch) : Fault :=
  ⟨.data mismatch, none⟩

/-- A fault without a place gets this one. -/
def placedAt (fault : Fault) (place : Place) : Fault :=
  { fault with place := some (fault.place.getD place) }

def message (fault : Fault) : String :=
  let cause := match fault.cause with
    | .writing fault => fault.describe
    | .data mismatch => mismatch.describe wording
  match fault.place with
  | some place => cause ++ " at line " ++ toString place.line ++ " column " ++ toString place.column
  | none => cause

end Fault

/-! ## Readers -/

structure Cursor where
  rest : List Char
  place : Place
  deriving DecidableEq, Repr

namespace Cursor

def ofText (text : String) : Cursor :=
  ⟨text.toList, .start⟩

/-- The place after the next byte. -/
def ahead (cursor : Cursor) : Place :=
  match cursor.rest with
  | [] => cursor.place
  | c :: _ => cursor.place.byteAfter c

/-- Take off a first part of what is left. -/
def pass (cursor : Cursor) (taken : List Char) : Cursor :=
  ⟨cursor.rest.drop taken.length, cursor.place.afterAll taken⟩

end Cursor

/-- Blank, tab and line ends may stand between any two tokens. -/
def isBlank (c : Char) : Bool :=
  c == ' ' || c == '\n' || c == '\t' || c == '\r'

abbrev Reader (α : Type) := EStateM Fault Cursor α

namespace Reader

def cursor : Reader Cursor := get

/-- Fail where the cursor stands. -/
def failHere {α : Type} (fault : SyntaxFault) : Reader α := fun cursor =>
  .error ⟨.writing fault, some cursor.place⟩ cursor

/-- Fail at the next byte, which is looked at but not taken. -/
def failAhead {α : Type} (fault : SyntaxFault) : Reader α := fun cursor =>
  .error ⟨.writing fault, some cursor.ahead⟩ cursor

/-- A mismatch, placed where the cursor stands. -/
def mismatch {α : Type} (m : Data.Mismatch) : Reader α := fun cursor =>
  .error ⟨.data m, some cursor.place⟩ cursor

/-- A mismatch whose place is still open. -/
def mismatchLater {α : Type} (m : Data.Mismatch) : Reader α := fun cursor =>
  .error (.ofMismatch m) cursor

/-- The next character, without taking it. -/
def peek : Reader (Option Char) := fun cursor => .ok cursor.rest.head? cursor

/-- Take the next character, if there is one. -/
def advance : Reader Unit := fun cursor => .ok () (cursor.pass (cursor.rest.take 1))

def skipBlanks : Reader Unit := fun cursor =>
  .ok () (cursor.pass (cursor.rest.takeWhile isBlank))

/-- The character with which the next token begins. -/
def token : Reader (Option Char) := do
  skipBlanks
  peek

/-- The letters of a word, one by one. -/
def word : List Char → Reader Unit
  | [] => pure ()
  | expected :: rest => do
      match ← peek with
      | none => failHere .valueUnfinished
      | some c => if c = expected then advance *> word rest else failAhead .wordExpected

/-- Read, then close what was opened, also after a fault: an open place is the one where the
closing has come to. -/
def closedBy {α : Type} (close : Reader Unit) (body : Reader α) : Reader α := fun cursor =>
  match body cursor with
  | .ok a cursor =>
      match close cursor with
      | .ok () cursor => .ok a cursor
      | .error fault cursor => .error (fault.placedAt cursor.place) cursor
  | .error fault cursor =>
      let closed := match close cursor with
        | .ok () cursor => cursor
        | .error _ cursor => cursor
      .error (fault.placedAt closed.place) closed

/-! ## Lists and objects -/

def endList : Reader Unit := do
  match ← token with
  | some ']' => advance
  | some ',' => do
      advance
      match ← token with
      | some ']' => failAhead .trailingComma
      | _ => failAhead .trailingCharacters
  | some _ => failAhead .trailingCharacters
  | none => failAhead .listUnfinished

def endObject : Reader Unit := do
  match ← token with
  | some '\x7d' => advance
  | some ',' => failAhead .trailingComma
  | some _ => failAhead .trailingCharacters
  | none => failAhead .objectUnfinished

/-- Whether another item follows; the comma before it is taken. -/
def moreItems (first : Bool) : Reader Bool := do
  match ← token with
  | none => failAhead .listUnfinished
  | some ']' => pure false
  | some c =>
      if first then pure true
      else if c = ',' then do
        advance
        match ← token with
        | some ']' => failAhead .trailingComma
        | some _ => pure true
        | none => failAhead .valueUnfinished
      else failAhead .listCommaOrEndExpected

/-- Whether another key follows; the comma before it is taken. -/
def moreMembers (first : Bool) : Reader Bool := do
  match ← token with
  | none => failAhead .objectUnfinished
  | some '\x7d' => pure false
  | some c =>
      if first then
        if c = '"' then pure true else failAhead .keyNotText
      else if c = ',' then do
        advance
        match ← token with
        | some '"' => pure true
        | some '\x7d' => failAhead .trailingComma
        | some _ => failAhead .keyNotText
        | none => failAhead .valueUnfinished
      else failAhead .objectCommaOrEndExpected

def colon : Reader Unit := do
  match ← token with
  | some ':' => advance
  | some _ => failAhead .colonExpected
  | none => failAhead .objectUnfinished

/-- Nothing but blanks may follow. -/
def endOfText : Reader Unit := do
  match ← token with
  | some _ => failAhead .trailingCharacters
  | none => pure ()

/-- Read a whole text. -/
def readAll {α : Type} (reader : Reader α) (text : String) : Except Fault α :=
  match (do let a ← reader; endOfText; pure a : Reader α) (.ofText text) with
  | .ok a _ => .ok a
  | .error fault _ => .error fault

end Reader
end Json
end MarkupAssist
