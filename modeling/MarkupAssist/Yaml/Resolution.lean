import MarkupAssist.Data.Mismatch
import MarkupAssist.Yaml.Event

/-!
# What scalars mean

A plain scalar without a tag is absent, a truth value, an integer or a real number if it
is written like one, in this order, and a text otherwise. A tag settles the matter.

- `natural?`, `integer?`, `real?` : numbers in writing
- `Scalar.found`                  : what a scalar is, where something else was expected
-/

namespace MarkupAssist
namespace Yaml

open Data (Found Mismatch)

/-! ## Words -/

def isNull (text : String) : Bool :=
  ["null", "Null", "NULL", "~"].contains text

def boolean? (text : String) : Option Bool :=
  if ["true", "True", "TRUE"].contains text then some true
  else if ["false", "False", "FALSE"].contains text then some false
  else none

/-! ## Integers -/

def digitValue? (base : Nat) (c : Char) : Option Nat :=
  let value :=
    if c.isDigit then c.toNat - '0'.toNat
    else if 'a' ≤ c ∧ c ≤ 'z' then c.toNat - 'a'.toNat + 10
    else if 'A' ≤ c ∧ c ≤ 'Z' then c.toNat - 'A'.toNat + 10
    else base
  if value < base then some value else none

/-- Digits, at least one. -/
def digits? (base : Nat) (cs : List Char) : Option Nat :=
  if cs.isEmpty then none
  else cs.foldlM (fun n c => (digitValue? base c).map (n * base + ·)) 0

/-- Digits behind an optional plus sign. -/
def unsigned? (base : Nat) : List Char → Option Nat
  | '+' :: cs => digits? base cs
  | cs => digits? base cs

/-- The ways to write a number in another base than ten. -/
def bases : List (List Char × Nat) :=
  [("0x".toList, 16), ("0o".toList, 8), ("0b".toList, 2)]

/-- The digits after the mark of a base. -/
def inBase? (cs : List Char) : Option Nat :=
  bases.findSome? fun (mark, base) =>
    if mark.isPrefixOf cs then digits? base (cs.drop mark.length) else none

/-- A zero before other digits makes a text of them. -/
def isPaddedNumber (cs : List Char) : Bool :=
  let digits := match cs with
    | '+' :: rest => rest
    | '-' :: rest => rest
    | _ => cs
  1 < digits.length && digits.head? == some '0' && digits.all Char.isDigit

/-- A natural number, however large. -/
def natural? (cs : List Char) : Option Nat :=
  let unsigned := match cs with
    | '+' :: rest => rest
    | _ => cs
  (inBase? unsigned).or (if isPaddedNumber cs then none else digits? 10 unsigned)

/-- The number behind a minus sign. -/
def negated? : List Char → Option Nat
  | '-' :: cs => (inBase? cs).or (if isPaddedNumber ('-' :: cs) then none else digits? 10 cs)
  | _ => none

/-- Numbers of up to 64 bits and of up to 128 bits are told apart. -/
def integer? (text : String) : Option Found :=
  match natural? text.toList, negated? text.toList with
  | some n, _ =>
      if n < Nat.pow 2 64 then some (.integer n)
      else if n < Nat.pow 2 128 then some (.wideInteger n)
      else none
  | none, some n =>
      if n ≤ Nat.pow 2 63 then some (.integer (-(n : Int)))
      else if n ≤ Nat.pow 2 127 then some (.wideInteger (-(n : Int)))
      else none
  | none, none => none

/-! ## Real numbers -/

/-- Digits around a point, at least one on either side, and the power of ten of the last. -/
def mantissa? (cs : List Char) : Option (Nat × Int) :=
  let whole := cs.takeWhile Char.isDigit
  let fraction? := match cs.drop whole.length with
    | [] => some []
    | '.' :: fraction => if fraction.all Char.isDigit then some fraction else none
    | _ => none
  fraction?.bind fun fraction =>
    (digits? 10 (whole ++ fraction)).map fun n => (n, -(fraction.length : Int))

def power? : List Char → Option Int
  | '-' :: cs => (digits? 10 cs).map fun n => -(n : Int)
  | cs => (unsigned? 10 cs).map Int.ofNat

/-- A number and the power of ten it is multiplied with. -/
def unsignedReal? (cs : List Char) : Option (Nat × Int) :=
  let isMark := fun c => c == 'e' || c == 'E'
  match cs.dropWhile (!isMark ·) with
  | [] => mantissa? cs
  | _ :: power =>
      (mantissa? (cs.takeWhile (!isMark ·))).bind fun (n, places) =>
        (power? power).map fun power => (n, places + power)

open Number

/-- A power beyond this range makes any number zero or too large. The number of digits counts,
as digits and power may make up for each other. -/
def clippedPower (n : Nat) (power : Int) : Int :=
  let limit : Int := digitCount n + 400
  max (-limit) (min limit power)

/-- The nearest number to `n` times a power of ten. -/
def nearest? (n : Nat) (power : Int) : Option Magnitude :=
  let power := clippedPower n power
  if 0 ≤ power then roundQuotient? (n * Nat.pow 10 power.toNat) 1
  else roundQuotient? n (Nat.pow 10 power.natAbs)

def finite? (cs : List Char) : Option Found :=
  let (negative, digits) := match cs with
    | '-' :: rest => (true, rest)
    | '+' :: rest => (false, rest)
    | _ => (false, cs)
  (unsignedReal? digits).bind fun (n, power) =>
    (nearest? n power).map fun x => .real ⟨negative, x⟩

def isInfinity (cs : List Char) : Bool :=
  [".inf", ".Inf", ".INF"].contains (String.ofList cs)

def real? (text : String) : Option Found :=
  match text.toList with
  | '+' :: cs => if isInfinity cs then some (.infinity false) else finite? ('+' :: cs)
  | '-' :: cs => if isInfinity cs then some (.infinity true) else finite? ('-' :: cs)
  | cs =>
      if isInfinity cs then some (.infinity false)
      else if [".nan", ".NaN", ".NAN"].contains text then some .notANumber
      else finite? cs

/-! ## Scalars -/

def untagged (text : String) : Found :=
  if text.isEmpty || isNull text then .nothing
  else match boolean? text with
    | some b => .boolean b
    | none =>
        match integer? text with
        | some found => found
        | none =>
            if isPaddedNumber text.toList then .text text
            else (real? text).getD (.text text)

def standardTag (name : String) : List Char :=
  ("tag:yaml.org,2002:" ++ name).toList

namespace Scalar

/-- The tag is one of those with a meaning of their own, and this is what it asks for. -/
def tagged? (scalar : Scalar) : Option (Except String Found) :=
  let text := scalar.text
  let wanted (expected : String) (found : Option Found) : Option (Except String Found) :=
    some (match found with
      | some found => .ok found
      | none => .error expected)
  match scalar.tag with
  | none => none
  | some tag =>
      if tag == standardTag "bool" then wanted "a boolean" ((boolean? text).map .boolean)
      else if tag == standardTag "int" then wanted "an integer" (integer? text)
      else if tag == standardTag "float" then wanted "a float" (real? text)
      else if tag == standardTag "null" then
        wanted "null" (if isNull text then some .nothing else none)
      else none

/-- Tags that begin with an exclamation mark have no meaning of their own. -/
def hasForeignTag (scalar : Scalar) : Bool :=
  match scalar.tag with
  | some tag => tag.head? != some '!'
  | none => false

/-- Why a scalar is not what was expected. -/
def mismatch (scalar : Scalar) (expected : String) : Mismatch :=
  match scalar.tagged? with
  | some (.ok found) => .wrongType found expected
  | some (.error wanted) => .wrongValue (.text scalar.text) wanted
  | none =>
      if scalar.style == .plain && !scalar.hasForeignTag then
        .wrongType (untagged scalar.text) expected
      else .wrongType (.text scalar.text) expected

/-- A plain scalar of no characters, which may stand for an empty collection. -/
def isVoid (scalar : Scalar) : Bool :=
  scalar.style == .plain && scalar.text.isEmpty

/-- The words and numbers of other types are plain, or literal with the type's tag. -/
def mayBe (scalar : Scalar) (type : String) : Bool :=
  scalar.style == .plain || (scalar.style == .literal && scalar.tag == some (standardTag type))

end Scalar
end Yaml
end MarkupAssist
