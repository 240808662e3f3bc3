import MarkupAssist.Data.Record
import MarkupAssist.Json.Basic

/-!
# Reading records from JSON values

The same as from text, for a value that has been read already: a mismatch has no place, and
a field is written twice only under two of its names.

- `Decoder`                        : what is made of a value
- `Decoder.fields`, `Decoder.inOrder` : the fields of a record in an object, and in a list
- the instance of `Data.Notation`
-/

namespace MarkupAssist
namespace Json

open Data (Draft Mismatch Need Notation Record Slot)

abbrev Decoder (α : Type) := ReaderT Json (Except Mismatch) α

namespace Decoder

def wrongType {α : Type} (expected : String) : Decoder α := fun value =>
  .error (.wrongType value.found expected)

def textValue (expected : String) : Decoder String
  | .text s => .ok s
  | value => wrongType expected value

def booleanValue : Decoder Bool
  | .boolean b => .ok b
  | value => wrongType "a boolean" value

def naturalValue : Decoder Nat
  | .number (.natural n) => .ok n
  | .number (.negative n) => .error (.wrongValue (Number.negative n).found "usize")
  | value => wrongType "usize" value

def listValue {α : Type} (item : Decoder α) : Decoder (List α)
  | .list items => items.mapM item
  | value => wrongType "a sequence" value

def optionalValue {α : Type} (item : Decoder α) : Decoder (Option α)
  | .null => .ok none
  | value => some <$> item value

/-! ## Records -/

variable {σ : Type}

/-- Fill the slot of one member of an object, if it has one. -/
def field (record : Record Decoder σ) (draft : Draft σ) (member : String × Json) :
    Except Mismatch (Draft σ) :=
  match record.slot? member.1 with
  | none => .ok draft
  | some slot =>
      if draft.has slot then .error (.repeatedField slot.name)
      else draft.fill slot <$> slot.read member.2

def fields (record : Record Decoder σ) (members : List (String × Json)) :
    Except Mismatch (Draft σ) :=
  members.foldlM (field record) record.start

/-- Fill the slots from the items, one after the other; the items left over come back. -/
def inOrder (record : Record Decoder σ) :
    (index : Nat) → List (Slot Decoder σ) → List Json → σ → Except Mismatch (σ × List Json)
  | _, [], items, draft => .ok (draft, items)
  | index, slot :: rest, item :: items, draft => do
      let f ← slot.read item
      inOrder record (index + 1) rest items (f draft)
  | index, slot :: rest, [], draft =>
      if slot.need = .never then inOrder record (index + 1) rest [] draft
      else .error (.wrongLength index record.asList)

def recordValue (record : Record Decoder σ) : Decoder σ
  | .object members => fields record members >>= record.finish
  | .list items => do
      match ← inOrder record 0 record.slots items record.blank with
      | (draft, []) => pure draft
      | _ => throw (.wrongLength items.length "fewer elements in array")
  | value => wrongType record.title value

instance : Notation Decoder where
  text := textValue
  boolean := booleanValue
  natural := naturalValue
  list := listValue
  optional := optionalValue
  record := recordValue

end Decoder
end Json
end MarkupAssist
