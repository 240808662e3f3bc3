/-!
# Readable text

Text is read in portions of so many bytes. A portion is checked as a whole before any of it
is looked at, so a character that YAML does not allow hides all of its portion, and what
comes after it.

- `isAllowed`    : the characters that YAML text may hold
- `portionSize`  : the most bytes of a portion
- `readable`     : the portions before the first one that cannot be read
-/

namespace MarkupAssist
namespace Yaml

def isAllowed (c : Char) : Bool :=
  let n := c.toNat
  c == '\t' || c == '\n' || c == '\r' || (0x20 ≤ n && n ≤ 0x7E) || c == '\x85' ||
    (0xA0 ≤ n && n ≤ 0xFFFD) || 0x10000 ≤ n

def portionSize : Nat := 16384

/-- `portion` is what has been read of a portion, the last character first, and `room` the
number of bytes it may still take. The second answer is whether something cannot be read. -/
def readableFrom (room : Nat) (portion : List Char) : List Char → List Char × Bool
  | [] => (portion.reverse, false)
  | c :: rest =>
      if c.utf8Size ≤ room then
        if isAllowed c then readableFrom (room - c.utf8Size) (c :: portion) rest
        else ([], true)
      else if isAllowed c then
        let (later, broken) := readableFrom (portionSize - c.utf8Size) [c] rest
        (portion.reverse ++ later, broken)
      else (portion.reverse, true)

def readable (text : List Char) : List Char × Bool :=
  readableFrom portionSize [] text

/-! ## Small laws -/

theorem readableFrom_of_allowed (text : List Char) (h : text.all isAllowed = true)
    (room : Nat) (portion : List Char) :
    readableFrom room portion text = (portion.reverse ++ text, false) := by
  induction text generalizing room portion with
  | nil => simp [readableFrom]
  | cons c rest ih =>
      have hc : isAllowed c = true ∧ rest.all isAllowed = true := by simpa using h
      by_cases hr : c.utf8Size ≤ room <;> simp [readableFrom, hr, hc.1, ih hc.2]

theorem readable_of_allowed {text : List Char} (h : text.all isAllowed = true) :
    readable text = (text, false) := by
  simp [readable, readableFrom_of_allowed text h]

end Yaml
end MarkupAssist
