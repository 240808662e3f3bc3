import MarkupAssist.Data.Mismatch
import MarkupAssist.Data.Table

/-!
# JSON values

A value of the JSON data format. An object keeps its members in the order of their first
occurrence, each key once, and the last value written for a key is the one that counts.

- `Json`           : the values
- `Json.ofMembers` : the object of written members
- `Json.same`      : equality of values, which is decidable
- `Json.found`     : how a value is named where another one was expected
-/

namespace MarkupAssist
namespace Json

inductive Number
  /-- Below `2 ^ 64`. -/
  | natural (n : Nat)
  /-- The number `-n`, for `n` from `1` to `2 ^ 63`. -/
  | negative (n : Nat)
  | real (x : Number.Binary64)
  deriving DecidableEq, Repr

end Json

inductive Json
  | null
  | boolean (b : Bool)
  | number (n : Json.Number)
  | text (s : String)
  | list (items : List Json)
  | object (members : List (String × Json))
  deriving Repr

namespace Json

/-- The object of the members of a text, in the order in which they are written. -/
def ofMembers (written : List (String × Json)) : Json :=
  .object (Data.settle Prod.fst written)

/-! ## Equality -/

mutual

/-- Whether two values are one. -/
def same : Json → Json → Bool
  | .null, .null => true
  | .boolean b, .boolean c => decide (b = c)
  | .number m, .number n => decide (m = n)
  | .text s, .text t => decide (s = t)
  | .list items, .list others => sameItems items others
  | .object members, .object others => sameMembers members others
  | _, _ => false

def sameItems : List Json → List Json → Bool
  | [], [] => true
  | a :: items, b :: others => same a b && sameItems items others
  | _, _ => false

def sameMembers : List (String × Json) → List (String × Json) → Bool
  | [], [] => true
  | (key, a) :: members, (other, b) :: others =>
      decide (key = other) && same a b && sameMembers members others
  | _, _ => false

end

mutual

theorem same_iff : ∀ a b : Json, same a b = true ↔ a = b
  | .null, b => by cases b <;> simp [same]
  | .boolean _, b => by cases b <;> simp [same]
  | .number _, b => by cases b <;> simp [same]
  | .text _, b => by cases b <;> simp [same]
  | .list items, b => by
      cases b with
      | list others => simp [same, sameItems_iff items others]
      | _ => simp [same]
  | .object members, b => by
      cases b with
      | object others => simp [same, sameMembers_iff members others]
      | _ => simp [same]

theorem sameItems_iff : ∀ items others : List Json, sameItems items others = true ↔ items = others
  | [], others => by cases others <;> simp [sameItems]
  | a :: items, others => by
      cases others with
      | nil => simp [sameItems]
      | cons b others => simp [sameItems, same_iff a b, sameItems_iff items others]

theorem sameMembers_iff : ∀ members others : List (String × Json),
    sameMembers members others = true ↔ members = others
  | [], others => by cases others <;> simp [sameMembers]
  | (key, a) :: members, others => by
      cases others with
      | nil => simp [sameMembers]
      | cons other others =>
          obtain ⟨other, b⟩ := other
          simp [sameMembers, same_iff a b, sameMembers_iff members others]

end

instance : DecidableEq Json := fun a b => decidable_of_iff (same a b = true) (same_iff a b)

/-! ## Naming values -/

def Number.found : Number → Data.Found
  | .natural n => .integer n
  | .negative n => .integer (-(n : Int))
  | .real x => .real x

def found : Json → Data.Found
  | .null => .nothing
  | .boolean b => .boolean b
  | .number n => n.found
  | .text s => .text s
  | .list _ => .list
  | .object _ => .map

/-- JSON's absent value is written `null`; very small and very large numbers have an exponent. -/
def wording : Data.Wording where
  nothing := "null"
  reals := ⟨some (-5, 15)⟩

end Json
end MarkupAssist
