import MarkupAssist.Data.Record
import MarkupAssist.Json.Skip

/-!
# Reading records from JSON text

A record is written as an object or as the list of its fields. It is read while the text is
read, so each mismatch is noticed at a place, and no field is written twice. Members that
the record does not know are passed over.

- `Reader.wrongType`              : a value of another type than wanted
- `Reader.fields`, `Reader.inOrder` : the fields of a record in an object, and in a list
- `Reader.choice`                 : one of several words
- the instance of `Data.Notation`
-/

namespace MarkupAssist
namespace Json
namespace Reader

open Data (Draft Mismatch Need Notation Record Slot)

/-! ## Values of a wanted type -/

def Scalar.found (scalar : Scalar) : Data.Found :=
  scalar.toJson.found

/-- A scalar is read to its end, of anything else only the bracket is looked at. -/
def wrongType {α : Type} (expected : String) : Reader α := do
  match ← token with
  | none => failHere .valueUnfinished
  | some '[' => mismatch (.wrongType .list expected)
  | some '\x7b' => mismatch (.wrongType .map expected)
  | some c => do
      let scalar ← scalar c
      mismatch (.wrongType scalar.found expected)

def textValue (expected : String) : Reader String := do
  match ← token with
  | some '"' => advance *> text
  | _ => wrongType expected

def booleanValue : Reader Bool := do
  match ← token with
  | some 't' => advance *> word "rue".toList *> pure true
  | some 'f' => advance *> word "alse".toList *> pure false
  | _ => wrongType "a boolean"

/-- How a natural number of 64 bits is called. -/
def naturalName : String := "usize"

def naturalValue : Reader Nat := do
  match ← token with
  | some c =>
      if c = '-' || isDigit c then
        match ← number with
        | .natural n => pure n
        | .negative n => mismatch (.wrongValue (Number.negative n).found naturalName)
        | .real x => mismatch (.wrongType (.real x) naturalName)
      else wrongType naturalName
  | none => wrongType naturalName

def listValue {α : Type} (item : Reader α) : Reader (List α) := do
  match ← token with
  | some '[' => list item
  | _ => wrongType "a sequence"

def optionalValue {α : Type} (item : Reader α) : Reader (Option α) := do
  match ← token with
  | some 'n' => advance *> word "ull".toList *> pure none
  | _ => some <$> item

def nullValue : Reader Unit := do
  match ← token with
  | some 'n' => advance *> word "ull".toList
  | _ => wrongType "unit"

/-! ## Records -/

variable {σ : Type}

def orMismatch {α : Type} : Except Mismatch α → Reader α
  | .ok a => pure a
  | .error m => mismatchLater m

/-- Fill the slots of the members of an object. -/
def fields (record : Record Reader σ) :
    (bound : Nat) → (first : Bool) → Draft σ → Reader (Draft σ)
  | 0, _, draft => pure draft
  | bound + 1, first, draft => do
      if ← moreMembers first then
        match record.slot? (← key) with
        | none => do
            colon
            skipValue
            fields record bound false draft
        | some slot =>
            if draft.has slot then mismatchLater (.repeatedField slot.name)
            else do
              colon
              let f ← slot.read
              fields record bound false (draft.fill slot f)
      else return draft

/-- Fill the slots from the item of the given index on, one after the other. -/
def inOrder (record : Record Reader σ) : (index : Nat) → List (Slot Reader σ) → σ → Reader σ
  | _, [], draft => pure draft
  | index, slot :: rest, draft => do
      if ← moreItems (index == 0) then
        let f ← slot.read
        inOrder record (index + 1) rest (f draft)
      else if slot.need = .never then inOrder record (index + 1) rest draft
      else mismatchLater (.wrongLength index record.asList)

def recordValue (record : Record Reader σ) : Reader σ := do
  match ← token with
  | some '\x7b' => do
      advance
      closedBy endObject (do orMismatch (record.finish (← fields record (← bound) true record.start)))
  | some '[' => do
      advance
      closedBy endList (inOrder record 0 record.slots record.blank)
  | _ => wrongType record.title

instance : Notation Reader where
  text := textValue
  boolean := booleanValue
  natural := naturalValue
  list := listValue
  optional := optionalValue
  record := recordValue

/-- A text that is one record. -/
def readRecord (record : Record Reader σ) (text : String) : Except Fault σ :=
  readAll (recordValue record) text

/-! ## Words -/

variable {α : Type}

def oneOf (known : List (String × α)) : Reader α := do
  let name ← textValue "variant identifier"
  match known.lookup name with
  | some a => pure a
  | none => mismatch (.unknownVariant name (known.map Prod.fst))

def endChoice : Reader Unit := do
  match ← token with
  | some '\x7d' => advance
  | some _ => failHere .valueExpected
  | none => failHere .objectUnfinished

/-- An object that stands for a word cannot be empty. -/
def choiceKey (known : List (String × α)) : Reader α := do
  match ← token with
  | some '"' => oneOf known
  | some '\x7d' => failAhead .valueExpected
  | some _ => failAhead .keyNotText
  | none => failAhead .objectUnfinished

/-- One of the known words, alone or as the key of an object with nothing else in it. -/
def choice (known : List (String × α)) : Reader α := do
  match ← token with
  | some '"' => oneOf known
  | some '\x7b' => do
      advance
      let a ← choiceKey known
      colon
      nullValue
      endChoice
      pure a
  | some _ => failAhead .valueExpected
  | none => failHere .valueUnfinished

end Reader
end Json
end MarkupAssist
