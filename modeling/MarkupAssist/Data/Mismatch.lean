import MarkupAssist.Number.Shortest
import MarkupAssist.Text.Quoted

/-!
# Data that does not fit

Why a well-written value is not one of the wanted type, and how this is said. The same
reasons arise from every notation; a notation only decides how it speaks of the absent
value and how it writes numbers.

- `Found`    : what was there
- `Wording`  : the notation's manner of speaking
- `Mismatch` : the reason
-/

namespace MarkupAssist
namespace Data

inductive Found
  | nothing
  | boolean (b : Bool)
  | integer (n : Int)
  /-- An integer beyond 64 bits that fits 128. -/
  | wideInteger (n : Int)
  | real (x : Number.Binary64)
  | infinity (negative : Bool)
  | notANumber
  | text (s : String)
  | list
  | map
  deriving DecidableEq, Repr

structure Wording where
  nothing : String
  reals : Number.RealFormat

/-- A whole number of 128 bits is signed exactly when it is negative. -/
def wideWidth (n : Int) : String :=
  if n < 0 then "i128" else "u128"

def Found.describe (wording : Wording) : Found → String
  | .nothing => wording.nothing
  | .boolean b => "boolean `" ++ (if b then "true" else "false") ++ "`"
  | .integer n => "integer `" ++ toString n ++ "`"
  | .wideInteger n => "integer `" ++ toString n ++ "` as " ++ wideWidth n
  | .real x => "floating point `" ++ wording.reals.text x ++ "`"
  | .infinity negative => "floating point `" ++ (if negative then "-inf" else "inf") ++ "`"
  | .notANumber => "floating point `NaN`"
  | .text s => "string " ++ Text.quoted s
  | .list => "sequence"
  | .map => "map"

inductive Mismatch
  | wrongType (found : Found) (expected : String)
  | wrongValue (found : Found) (expected : String)
  | wrongLength (length : Nat) (expected : String)
  | missingField (name : String)
  | repeatedField (name : String)
  | unknownVariant (name : String) (known : List String)
  deriving DecidableEq, Repr

def Mismatch.describe (wording : Wording) : Mismatch → String
  | .wrongType found expected =>
      "invalid type: " ++ found.describe wording ++ ", expected " ++ expected
  | .wrongValue found expected =>
      "invalid value: " ++ found.describe wording ++ ", expected " ++ expected
  | .wrongLength length expected =>
      "invalid length " ++ toString length ++ ", expected " ++ expected
  | .missingField name => "missing field `" ++ name ++ "`"
  | .repeatedField name => "duplicate field `" ++ name ++ "`"
  | .unknownVariant name known =>
      "unknown variant `" ++ name ++ "`, expected one of " ++
        ", ".intercalate (known.map fun k => "`" ++ k ++ "`")

/-- How many fields a record has, in words. -/
def elementsPhrase (n : Nat) : String :=
  toString n ++ (if n = 1 then " element" else " elements")

end Data
end MarkupAssist
