import MarkupAssist.Data.Mismatch

/-!
# Records in writing

How a record of named fields is written, said once for all notations: a blank record, and
a slot for each field that may be written. A notation knows how its texts, numbers, lists
and records are read; what is read fills the slots.

- `Slot`, `Record` : the fields of a record
- `Draft`          : a record of which some slots have been filled
- `Notation`       : what a notation has to be able to read
-/

namespace MarkupAssist
namespace Data

/-- When a slot has to be filled. -/
inductive Need
  | never
  /-- Only where the fields are written as a list, without their names. -/
  | inLists
  | always
  deriving DecidableEq, Repr

/-- A field of `σ`, read by a reader of the notation `ρ`. -/
structure Slot (ρ : Type → Type) (σ : Type) where
  name : String
  otherNames : List String := []
  need : Need := .never
  read : ρ (σ → σ)

structure Record (ρ : Type → Type) (σ : Type) where
  /-- What the record is called where another value was found. -/
  title : String
  blank : σ
  /-- In the order of a list of the fields. -/
  slots : List (Slot ρ σ)

structure Draft (σ : Type) where
  record : σ
  /-- The names of the slots that have been filled. -/
  filled : List String

namespace Slot

variable {ρ : Type → Type} {σ : Type}

def isCalled (slot : Slot ρ σ) (name : String) : Bool :=
  slot.name == name || slot.otherNames.contains name

end Slot

namespace Draft

variable {ρ : Type → Type} {σ : Type}

def has (draft : Draft σ) (slot : Slot ρ σ) : Bool :=
  draft.filled.contains slot.name

def fill (draft : Draft σ) (slot : Slot ρ σ) (f : σ → σ) : Draft σ :=
  ⟨f draft.record, slot.name :: draft.filled⟩

end Draft

namespace Record

variable {ρ : Type → Type} {σ : Type}

def start (record : Record ρ σ) : Draft σ :=
  ⟨record.blank, []⟩

def slot? (record : Record ρ σ) (name : String) : Option (Slot ρ σ) :=
  record.slots.find? (·.isCalled name)

/-- A draft is complete when each slot that has to be filled has been. -/
def finish (record : Record ρ σ) (draft : Draft σ) : Except Mismatch σ :=
  match record.slots.find? fun slot => slot.need == .always && !draft.has slot with
  | some slot => .error (.missingField slot.name)
  | none => .ok draft.record

/-- What a list of the fields should have been when it ends too early. -/
def asList (record : Record ρ σ) : String :=
  record.title ++ " with " ++ elementsPhrase record.slots.length

end Record

class Notation (ρ : Type → Type) extends Functor ρ where
  /-- A text, called `expected` where another value was found. -/
  text (expected : String) : ρ String
  boolean : ρ Bool
  natural : ρ Nat
  list {α : Type} : ρ α → ρ (List α)
  optional {α : Type} : ρ α → ρ (Option α)
  record {σ : Type} : Record ρ σ → ρ σ

/-! ## Slots for the kinds of fields -/

namespace Slot

variable {ρ : Type → Type} [Notation ρ] {σ : Type}

def text (name : String) (put : String → σ → σ) : Slot ρ σ where
  name
  read := put <$> Notation.text "a string"

/-- A text that names a file or directory. -/
def path (name : String) (put : String → σ → σ) : Slot ρ σ where
  name
  read := put <$> Notation.text "path string"

def boolean (name : String) (put : Bool → σ → σ) : Slot ρ σ where
  name
  read := put <$> Notation.boolean

def natural (name : String) (put : Nat → σ → σ) : Slot ρ σ where
  name
  read := put <$> Notation.natural

def texts (name : String) (put : List String → σ → σ) : Slot ρ σ where
  name
  read := put <$> Notation.list (Notation.text "a string")

def called (slot : Slot ρ σ) (names : List String) : Slot ρ σ :=
  { slot with otherNames := names }

def needed (slot : Slot ρ σ) (need : Need) : Slot ρ σ :=
  { slot with need }

end Slot
end Data
end MarkupAssist
