import MarkupAssist.Json.Basic

/-!
# Writing JSON

Values are written on one line without blanks, or indented by two blanks a level.

- `escape`        : a character inside a text
- `compact`       : on one line
- `indented`      : over several lines
-/

namespace MarkupAssist
namespace Json

/-- Quotes, backslashes and controls are escaped, by a letter where there is one. -/
def escape (c : Char) : List Char :=
  if c = '"' then ['\\', '"']
  else if c = '\\' then ['\\', '\\']
  else if c = '\x08' then ['\\', 'b']
  else if c = '\x0c' then ['\\', 'f']
  else if c = '\n' then ['\\', 'n']
  else if c = '\r' then ['\\', 'r']
  else if c = '\t' then ['\\', 't']
  else if c < ' ' then ['\\', 'u', '0', '0', Nat.digitChar (c.toNat / 16), Nat.digitChar (c.toNat % 16)]
  else [c]

def textChars (s : String) : List Char :=
  '"' :: (s.toList.flatMap escape ++ ['"'])

def Number.chars : Json.Number → List Char
  | .natural n => Nat.toDigits 10 n
  | .negative n => '-' :: Nat.toDigits 10 n
  | .real x => (wording.reals.text x).toList

/-- Everything on one line, or new lines at a depth of indentation. -/
inductive Layout
  | compact
  | indented (depth : Nat)
  deriving DecidableEq, Repr

namespace Layout

def deeper : Layout → Layout
  | compact => compact
  | indented depth => indented (depth + 1)

def newline : Layout → List Char
  | compact => []
  | indented depth => '\n' :: List.replicate (2 * depth) ' '

def afterColon : Layout → List Char
  | compact => []
  | indented _ => [' ']

end Layout

mutual

def chars (layout : Layout) : Json → List Char
  | .null => "null".toList
  | .boolean b => (if b then "true" else "false").toList
  | .number n => n.chars
  | .text s => textChars s
  | .list [] => ['[', ']']
  | .list (item :: items) =>
      '[' :: (layout.deeper.newline ++ chars layout.deeper item ++
        itemChars layout.deeper items ++ layout.newline ++ [']'])
  | .object [] => ['\x7b', '\x7d']
  | .object ((key, value) :: members) =>
      '\x7b' :: (layout.deeper.newline ++ textChars key ++ ':' :: layout.afterColon ++
        chars layout.deeper value ++ memberChars layout.deeper members ++
        layout.newline ++ ['\x7d'])

/-- Further items, a comma before each. -/
def itemChars (layout : Layout) : List Json → List Char
  | [] => []
  | item :: items => ',' :: (layout.newline ++ chars layout item ++ itemChars layout items)

/-- Further members, a comma before each. -/
def memberChars (layout : Layout) : List (String × Json) → List Char
  | [] => []
  | (key, value) :: members =>
      ',' :: (layout.newline ++ textChars key ++ ':' :: layout.afterColon ++
        chars layout value ++ memberChars layout members)

end

def compact (value : Json) : String :=
  String.ofList (value.chars .compact)

def indented (value : Json) : String :=
  String.ofList (value.chars (.indented 0))

end Json
end MarkupAssist
