/-!
# Numbers of 64-bit binary floating point

A finite number is a sign, a significand and a power of two. All arithmetic goes through
one rounding of an exact quotient of natural numbers: to the nearest number, and to the
one with the even significand when two are equally near.

- `Magnitude`      : a non-negative finite number, in the one form with the longest significand
- `roundQuotient?` : the nearest one to a quotient, none where it would be too large
- `Binary64`       : a magnitude and a sign
-/

namespace MarkupAssist
namespace Number

/-- `significand * 2 ^ exponent`. -/
structure Magnitude where
  significand : Nat
  exponent : Int
  deriving DecidableEq, Repr

namespace Magnitude

def leastExponent : Int := -1074

def greatestExponent : Int := 971

def zero : Magnitude := ⟨0, leastExponent⟩

def isZero (x : Magnitude) : Bool := x.significand == 0

/-- The number as a quotient of natural numbers. -/
def quotient (x : Magnitude) : Nat × Nat :=
  if 0 ≤ x.exponent then (x.significand * Nat.pow 2 x.exponent.toNat, 1)
  else (x.significand, Nat.pow 2 (-x.exponent).toNat)

end Magnitude

/-- The natural number nearest to `num / den`, the even one of two. -/
def roundHalfEven (num den : Nat) : Nat :=
  let q := num / den
  let r := num % den
  if 2 * r < den then q
  else if den < 2 * r then q + 1
  else q + q % 2

/-- `num / den` measured in units of `2 ^ exponent`. -/
def inUnits (num den : Nat) (exponent : Int) : Nat × Nat :=
  if 0 ≤ exponent then (num, den * Nat.pow 2 exponent.toNat)
  else (num * Nat.pow 2 (-exponent).toNat, den)

/-- The unit in which the significand of `num / den` has 53 binary digits, or the least. -/
def unitExponent (num den : Nat) : Int :=
  let guess : Int := (num.log2 : Int) - (den.log2 : Int) - 52
  let (n, d) := inUnits num den guess
  let exact := if n / d < Nat.pow 2 52 then guess - 1 else guess
  max exact Magnitude.leastExponent

def roundQuotient? (num den : Nat) : Option Magnitude :=
  if num = 0 then some .zero
  else
    let exponent := unitExponent num den
    let (n, d) := inUnits num den exponent
    let significand := roundHalfEven n d
    let rounded : Magnitude :=
      if significand = Nat.pow 2 53 then ⟨Nat.pow 2 52, exponent + 1⟩ else ⟨significand, exponent⟩
    if Magnitude.greatestExponent < rounded.exponent then none else some rounded

namespace Magnitude

def ofNat? (n : Nat) : Option Magnitude :=
  roundQuotient? n 1

def mul? (x y : Magnitude) : Option Magnitude :=
  roundQuotient? (x.quotient.1 * y.quotient.1) (x.quotient.2 * y.quotient.2)

/-- No number is nearest to a quotient by zero. -/
def div? (x y : Magnitude) : Option Magnitude :=
  if y.isZero then none
  else roundQuotient? (x.quotient.1 * y.quotient.2) (x.quotient.2 * y.quotient.1)

end Magnitude

structure Binary64 where
  negative : Bool
  magnitude : Magnitude
  deriving DecidableEq, Repr

example : roundQuotient? 1 1 = some ⟨2 ^ 52, -52⟩ := by decide +kernel

example : roundQuotient? 1 10 = some ⟨7205759403792794, -56⟩ := by decide +kernel

example : roundQuotient? 1 (2 ^ 1075) = some .zero := by decide +kernel

end Number
end MarkupAssist
