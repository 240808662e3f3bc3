import MarkupAssist.Json.NumberLiteral
import MarkupAssist.Json.TextLiteral

/-!
# Values in JSON

A value of any kind is known by the character it begins with. Lists and objects may be
nested only so deep, which makes the reading of one value recursive on the depth left.

- `Reader.items`, `Reader.members` : the inside of a list or object, given a reader of one value
- `Reader.value`                   : any value
- `Json.ofText`                    : a text that is one value
-/

namespace MarkupAssist
namespace Json

namespace Reader

/-- Nothing is read so often as there are characters, so this bounds every repetition. -/
def bound : Reader Nat := do
  return (← cursor).rest.length + 1

/-! ## Scalars -/

/-- What a value that is neither list nor object can be. -/
inductive Scalar
  | null
  | boolean (b : Bool)
  | number (n : Json.Number)
  | text (s : String)
  deriving DecidableEq, Repr

def Scalar.toJson : Scalar → Json
  | .null => .null
  | .boolean b => .boolean b
  | .number n => .number n
  | .text s => .text s

/-- A value that begins with `c` and is no list or object. -/
def scalar (c : Char) : Reader Scalar :=
  if c = 'n' then advance *> word "ull".toList *> pure .null
  else if c = 't' then advance *> word "rue".toList *> pure (.boolean true)
  else if c = 'f' then advance *> word "alse".toList *> pure (.boolean false)
  else if c = '"' then advance *> .text <$> text
  else if c = '-' || isDigit c then .number <$> number
  else failAhead .valueExpected

/-! ## Lists and objects -/

/-- The items of a list after its `[`. -/
def items {α : Type} (item : Reader α) : (bound : Nat) → (first : Bool) → Reader (List α)
  | 0, _ => pure []
  | bound + 1, first => do
      if ← moreItems first then
        let a ← item
        return a :: (← items item bound false)
      else return []

/-- A key, from its opening quote on. -/
def key : Reader String :=
  advance *> text

/-- The members of an object after its opening brace, in the order they are written in. -/
def members {α : Type} (value : Reader α) :
    (bound : Nat) → (first : Bool) → Reader (List (String × α))
  | 0, _ => pure []
  | bound + 1, first => do
      if ← moreMembers first then
        let name ← key
        colon
        let a ← value
        return (name, a) :: (← members value bound false)
      else return []

def list {α : Type} (item : Reader α) : Reader (List α) := do
  advance
  closedBy endList (do items item (← bound) true)

def object {α : Type} (value : Reader α) : Reader (List (String × α)) := do
  advance
  closedBy endObject (do members value (← bound) true)

/-! ## Values -/

/-- A value with at most so many lists and objects around anything in it. -/
def value : (depth : Nat) → Reader Json
  | 0 => do
      match ← token with
      | some '[' | some '\x7b' => failAhead .nestedTooDeep
      | some c => Scalar.toJson <$> scalar c
      | none => failHere .valueUnfinished
  | depth + 1 => do
      match ← token with
      | some '[' => Json.list <$> list (value depth)
      | some '\x7b' => ofMembers <$> object (value depth)
      | some c => Scalar.toJson <$> scalar c
      | none => failHere .valueUnfinished

end Reader

/-- How deep lists and objects may be nested. -/
def greatestDepth : Nat := 127

def ofText (text : String) : Except Fault Json :=
  Reader.readAll (Reader.value greatestDepth) text

end Json
end MarkupAssist
