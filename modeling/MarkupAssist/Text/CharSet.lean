/-!
# Sets of characters given by their borders

A large character class is written as the ascending list of its borders: the first
number is in the class, the second is the first one after it that is not, and so on.
A character belongs to the class when the number of borders up to it is odd.
-/

namespace MarkupAssist
namespace Text

/-- Membership by the parity of the borders at or below `n`. -/
def withinBorders (borders : List Nat) (n : Nat) : Bool :=
  match borders with
  | [] => false
  | b :: rest => if n < b then false else !withinBorders rest n

@[simp] theorem withinBorders_nil (n : Nat) : withinBorders [] n = false := rfl

theorem withinBorders_of_lt {b n : Nat} {rest : List Nat} (h : n < b) :
    withinBorders (b :: rest) n = false := by
  simp [withinBorders, h]

theorem withinBorders_of_le {b n : Nat} {rest : List Nat} (h : b ≤ n) :
    withinBorders (b :: rest) n = !withinBorders rest n := by
  simp [withinBorders, Nat.not_lt.mpr h]

end Text
end MarkupAssist
