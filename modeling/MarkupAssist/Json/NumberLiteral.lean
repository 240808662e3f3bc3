import MarkupAssist.Json.Cursor

/-!
# Numbers in JSON

A number is written with a whole part, perhaps a fraction, and perhaps a power of ten. Its
leading digits make up a significand of at most 64 bits; a real number is that significand
times or over a power of ten, each rounded to a number of its own.

- `NumberLiteral`          : the parts of a written number
- `NumberLiteral.value?`   : the number, unless it is too large
- `Reader.number`          : a number that is kept
- `Reader.skipNumber`      : one that is not
-/

namespace MarkupAssist
namespace Json

structure NumberLiteral where
  negative : Bool
  whole : List Char
  fraction : Option (List Char)
  /-- The digits, and whether the power is negative. -/
  power : Option (Bool × List Char)
  deriving DecidableEq, Repr

namespace NumberLiteral

def digitValue (c : Char) : Nat :=
  c.toNat - '0'.toNat

/-- Append digits to a number as long as it stays within the limit; the others are left. -/
def appendDigits (limit n : Nat) : List Char → Nat × List Char
  | [] => (n, [])
  | d :: rest =>
      let m := n * 10 + digitValue d
      if m ≤ limit then appendDigits limit m rest else (n, d :: rest)

def greatestSignificand : Nat := Nat.pow 2 64 - 1

def greatestPower : Nat := Nat.pow 2 31 - 1

/-- Significand and power of ten, the written power left aside. Whole digits beyond the
significand raise the power, fraction digits beyond it count for nothing. -/
def significand (literal : NumberLiteral) : Nat × Int :=
  let (n, unread) := appendDigits greatestSignificand 0 literal.whole
  let fraction := literal.fraction.getD []
  let (n, ignored) := appendDigits greatestSignificand n fraction
  (n, (unread.length : Int) - ((fraction.length : Int) - ignored.length))

/-- Digits of the written power after the first one that makes it too large. -/
def digitsPastPower (literal : NumberLiteral) : Nat :=
  match literal.power with
  | some (_, digits) => (appendDigits greatestPower 0 digits).2.length - 1
  | none => 0

/-- The power of ten that is written, none if it is too large. -/
def writtenPower? (literal : NumberLiteral) : Option Int :=
  match literal.power with
  | none => some 0
  | some (negative, digits) =>
      match appendDigits greatestPower 0 digits with
      | (n, []) => some (if negative then -(n : Int) else n)
      | _ => none

def hasNegativePower (literal : NumberLiteral) : Bool :=
  match literal.power with
  | some (negative, _) => negative
  | none => false

/-! ## Values -/

open MarkupAssist.Number

/-- A power of ten that is a number of its own, up to the largest one. -/
def tenTo (n : Nat) : Magnitude :=
  (Magnitude.ofNat? (Nat.pow 10 n)).getD .zero

/-- The largest power of ten there is a number for. -/
def largestTen : Nat := 308

/-- Divide by a power of ten; three divisions by the largest one leave nothing of any number. -/
def scaleDown? : (divisions : Nat) → (power : Nat) → Magnitude → Option Magnitude
  | 0, _, _ => some .zero
  | divisions + 1, power, x =>
      if power ≤ largestTen then x.div? (tenTo power)
      else x.div? (tenTo largestTen) >>= scaleDown? divisions (power - largestTen)

/-- Nothing but zero stands a multiplication by more than the largest power of ten. -/
def scale? (x : Magnitude) (power : Int) : Option Magnitude :=
  if power < 0 then scaleDown? 3 power.natAbs x
  else if power ≤ largestTen then x.mul? (tenTo power.toNat)
  else if x.isZero then some x
  else none

def magnitude? (literal : NumberLiteral) : Option Magnitude :=
  let (n, power) := literal.significand
  match literal.writtenPower? with
  | some written => Magnitude.ofNat? n >>= (scale? · (power + written))
  | none => if n = 0 || literal.hasNegativePower then some .zero else none

def real? (literal : NumberLiteral) : Option Json.Number :=
  literal.magnitude?.map fun x => .real ⟨literal.negative, x⟩

/-- A negative whole number that does not fit 64 bits is real, and so is `-0`. -/
def value? (literal : NumberLiteral) : Option Json.Number :=
  match literal.fraction, literal.power, appendDigits greatestSignificand 0 literal.whole with
  | none, none, (n, []) =>
      if !literal.negative then some (.natural n)
      else if 1 ≤ n ∧ n ≤ Nat.pow 2 63 then some (.negative n)
      else literal.real?
  | _, _, _ => literal.real?

end NumberLiteral

/-! ## Reading -/

namespace Reader

def isDigit (c : Char) : Bool :=
  c.isDigit

def digits : Reader (List Char) := fun cursor =>
  let taken := cursor.rest.takeWhile isDigit
  .ok taken (cursor.pass taken)

/-- A text that ends too early is said to when the number is kept. -/
def digitMissing {α : Type} (kept : Bool) : Reader α := do
  match ← peek with
  | none => failHere (if kept then .valueUnfinished else .invalidNumber)
  | some _ => failAhead .invalidNumber

def someDigits (kept : Bool) : Reader (List Char) := do
  match ← digits with
  | [] => digitMissing kept
  | ds => pure ds

/-- No other digit follows a leading zero. -/
def wholePart (kept : Bool) : Reader (List Char) := do
  match ← peek with
  | some '0' => do
      advance
      match ← peek with
      | some c => if isDigit c then failAhead .invalidNumber else pure ['0']
      | none => pure ['0']
  | _ => someDigits kept

def fractionPart (kept : Bool) : Reader (Option (List Char)) := do
  match ← peek with
  | some '.' => advance *> some <$> someDigits kept
  | _ => pure none

/-- Whether the power of ten has a minus sign. -/
def powerSign : Reader Bool := do
  match ← peek with
  | some '+' => advance *> pure false
  | some '-' => advance *> pure true
  | _ => pure false

def powerPart (kept : Bool) : Reader (Option (Bool × List Char)) := do
  match ← peek with
  | some 'e' | some 'E' => do
      advance
      let negative ← powerSign
      return some (negative, ← someDigits kept)
  | _ => pure none

def numberLiteral (kept : Bool) : Reader NumberLiteral := do
  let negative := (← peek) == some '-'
  if negative then advance
  let whole ← wholePart kept
  let fraction ← fractionPart kept
  let power ← powerPart kept
  return ⟨negative, whole, fraction, power⟩

/-- A power that is too large is noticed at the digit that makes it so. -/
def outOfRange {α : Type} (literal : NumberLiteral) : Reader α := fun cursor =>
  let place := { cursor.place with column := cursor.place.column - literal.digitsPastPower }
  .error ⟨.writing .numberOutOfRange, some place⟩ cursor

def number : Reader Json.Number := do
  let literal ← numberLiteral true
  match literal.value? with
  | some n => pure n
  | none => outOfRange literal

def skipNumber : Reader Unit := do
  let _ ← numberLiteral false

end Reader
end Json
end MarkupAssist
