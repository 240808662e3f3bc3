import MarkupAssist.Number.Binary64

/-!
# The shortest decimal text of a number

Of the decimals that round to a given number those with the fewest digits are taken, and
of these the nearest. They are searched grid by grid: on the grid of the multiples of a
power of ten only the two neighbours of the number come into question.

- `shortestDecimal` : the digits, as a natural number and a power of ten
- `RealFormat`      : where digits are written out in full and where with an exponent
- `RealFormat.text` : the written number
-/

namespace MarkupAssist
namespace Number

/-- `digits * 10 ^ power`. -/
structure Decimal where
  digits : Nat
  power : Int
  deriving DecidableEq, Repr

/-! ## Digits -/

/-- Twice or four times the number and the ends of the interval that rounds to it, all in
one unit: below, the number, above, and the unit's exponent. -/
def roundingInterval (x : Magnitude) : Nat × Nat × Nat × Int :=
  if x.significand = Nat.pow 2 52 && Magnitude.leastExponent < x.exponent then
    (4 * x.significand - 1, 4 * x.significand, 4 * x.significand + 2, x.exponent - 2)
  else
    (2 * x.significand - 1, 2 * x.significand, 2 * x.significand + 1, x.exponent - 1)

/-- The neighbour of `x` on the grid `10 ^ power` that rounds to it, the nearer of two. -/
def onGrid? (x : Magnitude) (power : Int) : Option Nat :=
  let (below, here, above, exponent) := roundingInterval x
  -- All is scaled to natural numbers: `unit` stands for the binary unit, `step` for the grid.
  let unit := Nat.pow 2 exponent.toNat * Nat.pow 10 (-power).toNat
  let step := Nat.pow 2 (-exponent).toNat * Nat.pow 10 power.toNat
  let inside (n : Nat) : Bool :=
    if x.significand % 2 = 0 then below * unit ≤ n * step && n * step ≤ above * unit
    else below * unit < n * step && n * step < above * unit
  let low := here * unit / step
  let nearest := roundHalfEven (here * unit) step
  if inside nearest then some nearest
  else if inside low then some low
  else if inside (low + 1) then some (low + 1)
  else none

/-- Try ever finer grids; seventeen digits always suffice. -/
def searchGrids (x : Magnitude) (power : Int) : Nat → Decimal
  | 0 => ⟨0, 0⟩
  | tries + 1 =>
      match onGrid? x power with
      | some digits => ⟨digits, power⟩
      | none => searchGrids x (power - 1) tries

/-- The number of decimal digits. -/
def digitCount (n : Nat) : Nat :=
  (Nat.toDigits 10 n).length

/-- A power of ten at or above the number. -/
def powerAbove (x : Magnitude) : Int :=
  let (num, den) := x.quotient
  (digitCount num : Int) - (digitCount den : Int) + 1

/-- A number found on a coarse grid may end in zeros, which belong to the power. -/
def Decimal.trimmed : Nat → Decimal → Decimal
  | 0, d => d
  | n + 1, d =>
      if d.digits ≠ 0 && d.digits % 10 = 0 then Decimal.trimmed n ⟨d.digits / 10, d.power + 1⟩
      else d

def shortestDecimal (x : Magnitude) : Decimal :=
  if x.isZero then ⟨0, 0⟩
  else Decimal.trimmed 20 (searchGrids x (powerAbove x) 24)

/-! ## Text -/

/-- Digits are written out in full while the exponent of the first one lies within the
range, and everywhere if there is none. -/
structure RealFormat where
  fullRange : Option (Int × Int)

def RealFormat.inFull (format : RealFormat) (exponent : Int) : Bool :=
  match format.fullRange with
  | none => true
  | some (least, greatest) => least ≤ exponent && exponent ≤ greatest

def zeros (n : Nat) : List Char :=
  List.replicate n '0'

/-- At least one digit stands on either side of the point. -/
def fullText (digits : List Char) (power : Int) : List Char :=
  if 0 ≤ power then digits ++ zeros power.toNat ++ ['.', '0']
  else
    let places := (-power).toNat
    if places < digits.length then
      digits.take (digits.length - places) ++ '.' :: digits.drop (digits.length - places)
    else '0' :: '.' :: (zeros (places - digits.length) ++ digits)

/-- One digit before the point; the exponent always has a sign. -/
def exponentText (digits : List Char) (exponent : Int) : List Char :=
  let front := match digits with
    | [] => []
    | [d] => [d]
    | d :: rest => d :: '.' :: rest
  let sign := if exponent < 0 then '-' else '+'
  front ++ 'e' :: sign :: Nat.toDigits 10 exponent.natAbs

def RealFormat.magnitudeText (format : RealFormat) (x : Magnitude) : List Char :=
  let d := shortestDecimal x
  let digits := Nat.toDigits 10 d.digits
  let exponent := d.power + digits.length - 1
  if format.inFull exponent then fullText digits d.power
  else exponentText digits exponent

def RealFormat.text (format : RealFormat) (x : Binary64) : String :=
  String.ofList ((if x.negative then ['-'] else []) ++ format.magnitudeText x.magnitude)

end Number
end MarkupAssist
