import MarkupAssist.Data.Record
import MarkupAssist.Yaml.Node
import MarkupAssist.Yaml.Resolution

/-!
# Reading records from YAML

A record is written as a map. What does not fit is told with its place in the text and with
the path that leads there. A text that is malformed is only told to be when what stands
before the fault is all right.

- `Fault`          : what can be wrong, and where
- `Decoder`        : what is made of a node
- the instance of `Data.Notation`
- `readRecord`     : a text that is one record
-/

namespace MarkupAssist
namespace Yaml

open Data (Draft Mismatch Need Notation Record Slot)

/-! ## Places -/

/-- A step from a collection to something in it. -/
inductive Step
  | member (key : String)
  | item (index : Nat)
  /-- A member whose key is an alias. -/
  | unnamed
  deriving DecidableEq, Repr

/-- From the inside out. -/
abbrev Path := List Step

def Path.text : Path → String
  | [] => ""
  | .item index :: outer => Path.text outer ++ "[" ++ toString index ++ "]"
  | .member key :: outer => Path.text outer ++ (if outer.isEmpty then "" else ".") ++ key
  | .unnamed :: outer => Path.text outer ++ (if outer.isEmpty then "" else ".") ++ "?"

structure Place where
  mark : Mark
  path : Path
  deriving DecidableEq, Repr

/-! ## Faults -/

inductive Fault
  | malformed
  | mismatch (mismatch : Mismatch) (place : Option Place)
  deriving DecidableEq, Repr

/-- Absent values are called after the type they have. -/
def wording : Data.Wording where
  nothing := "unit value"
  reals := ⟨none⟩

namespace Fault

/-- A fault without a place gets this one. -/
def placedAt (place : Place) : Fault → Fault
  | malformed => malformed
  | mismatch m known => mismatch m (some (known.getD place))

/-- Lines and columns are counted from one; the very beginning is not mentioned. -/
def placeText (mark : Mark) : String :=
  if mark.line = 0 && mark.column = 0 then ""
  else " at line " ++ toString (mark.line + 1) ++ " column " ++ toString (mark.column + 1)

/-- Of malformed texts nothing more is said. -/
def message? : Fault → Option String
  | malformed => none
  | mismatch m none => some (m.describe wording)
  | mismatch m (some place) =>
      let path := if place.path.isEmpty then "" else place.path.text ++ ": "
      some (path ++ m.describe wording ++ placeText place.mark)

end Fault

/-! ## Decoders -/

structure Surroundings where
  anchors : List (Nat × Node)
  path : Path := []

abbrev Decoder (α : Type) := ReaderT Surroundings (ReaderT Node (Except Fault)) α

namespace Decoder

def within (around : Surroundings) (step : Step) : Surroundings :=
  { around with path := step :: around.path }

/-- The node itself, or the one it is an alias for. -/
def target (around : Surroundings) (node : Node) : Node :=
  Document.target around.anchors node

/-- Why a node is not what was expected. -/
def mismatch (expected : String) : Node → Option (Mark × Mismatch)
  | .scalar mark _ scalar => some (mark, scalar.mismatch expected)
  | .list mark _ _ => some (mark, .wrongType .list expected)
  | .map mark _ _ => some (mark, .wrongType .map expected)
  | .alias _ => none
  | .missing => none

def wrongType {α : Type} (expected : String) : Decoder α := fun around node =>
  match mismatch expected (target around node) with
  | some (mark, m) => .error (.mismatch m (some ⟨mark, around.path⟩))
  | none => .error .malformed

/-! ## Scalars -/

/-- Every scalar is a text, as it is written. -/
def textValue (expected : String) : Decoder String := fun around node =>
  match target around node with
  | .scalar _ _ scalar => .ok scalar.text
  | _ => wrongType expected around node

def scalarValue {α : Type} (type expected : String) (read : String → Option α) : Decoder α :=
  fun around node =>
    match target around node with
    | .scalar _ _ scalar =>
        match if scalar.mayBe type then read scalar.text else none with
        | some a => .ok a
        | none => wrongType expected around node
    | _ => wrongType expected around node

def booleanValue : Decoder Bool :=
  scalarValue "bool" "a boolean" boolean?

/-- A natural number of 64 bits. -/
def naturalValue : Decoder Nat :=
  scalarValue "int" "usize" fun text =>
    (natural? text.toList).bind fun n => if n < Nat.pow 2 64 then some n else none

/-! ## Collections -/

/-- A fault in a collection is in the collection, unless its place is known better. -/
def inside {α : Type} (mark : Mark) (around : Surroundings) (result : Except Fault α) :
    Except Fault α :=
  result.mapError (Fault.placedAt ⟨mark, around.path⟩)

def items {α : Type} (item : Decoder α) (around : Surroundings) :
    (index : Nat) → List Node → Except Fault (List α)
  | _, [] => .ok []
  | index, node :: rest => do
      let a ← item (within around (.item index)) node
      return a :: (← items item around (index + 1) rest)

def listValue {α : Type} (item : Decoder α) : Decoder (List α) := fun around node =>
  match target around node with
  | .list mark _ nodes => inside mark around (items item around 0 nodes)
  | .scalar _ _ scalar => if scalar.isVoid then .ok [] else wrongType "a sequence" around node
  | _ => wrongType "a sequence" around node

/-- Whether a scalar says that there is nothing; its tag may be at odds with that. -/
def isAbsent (scalar : Scalar) : Except Fault Bool :=
  if scalar.style ≠ .plain then .ok false
  else match scalar.tag with
    | some tag =>
        if tag ≠ standardTag "null" then .ok false
        else if isNull scalar.text then .ok true
        else .error (.mismatch (.wrongValue (.text scalar.text) "null") none)
    | none => .ok (scalar.text.isEmpty || isNull scalar.text)

def optionalValue {α : Type} (item : Decoder α) : Decoder (Option α) := fun around node =>
  match target around node with
  | .scalar _ _ scalar => do
      if ← isAbsent scalar then return none else some <$> item around node
  | _ => some <$> item around node

/-! ## Records -/

variable {σ : Type}

/-- The name of a member, and the step to its value. -/
def memberName (around : Surroundings) (key : Node) : Except Fault (String × Step) := do
  let name ← textValue "field identifier" around key
  return (name, match key with
    | .scalar _ _ _ => .member name
    | _ => .unnamed)

/-- Fill the slot of one member; the value of an unknown one has to be there all the same. -/
def field (record : Record Decoder σ) (around : Surroundings) (draft : Draft σ)
    (member : Node × Node) : Except Fault (Draft σ) := do
  let (name, step) ← memberName around member.1
  match record.slot? name with
  | none => if member.2.isComplete then return draft else throw .malformed
  | some slot =>
      if draft.has slot then throw (.mismatch (.repeatedField slot.name) none)
      else return draft.fill slot (← slot.read (within around step) member.2)

def finish (record : Record Decoder σ) (draft : Draft σ) : Except Fault σ :=
  (record.finish draft).mapError (.mismatch · none)

/-- A record of which nothing is written may be left out. -/
def recordValue (record : Record Decoder σ) : Decoder σ := fun around node =>
  match target around node with
  | .map mark _ members =>
      inside mark around (members.foldlM (field record around) record.start >>= finish record)
  | .scalar mark _ scalar =>
      if scalar.isVoid then inside mark around (finish record record.start)
      else wrongType record.title around node
  | _ => wrongType record.title around node

instance : Notation Decoder where
  text := textValue
  boolean := booleanValue
  natural := naturalValue
  list := listValue
  optional := optionalValue
  record := recordValue

end Decoder

/-- A text that is one record. -/
def readRecord (record : Record Decoder σ) (text : String) : Except Fault σ := do
  let document := Document.ofText text
  let value ← Decoder.recordValue record ⟨document.anchors, []⟩ document.root
  if document.wellFormed then return value else throw .malformed

end Yaml
end MarkupAssist
