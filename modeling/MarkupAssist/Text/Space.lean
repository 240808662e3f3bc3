/-!
# White space

The characters with the Unicode property `White_Space`, and what is cut by them:
trimming and the last word of a text.

- `isSpace`  : the characters themselves
- `trim`     : a text without the white space at its ends
- `lastWord` : what stands after the last white space
-/

namespace MarkupAssist
namespace Text

def isSpace (c : Char) : Bool :=
  let n := c.toNat
  (0x9 ≤ n && n ≤ 0xD) || n == 0x20 || n == 0x85 || n == 0xA0 || n == 0x1680 ||
    (0x2000 ≤ n && n ≤ 0x200A) || n == 0x2028 || n == 0x2029 || n == 0x202F ||
    n == 0x205F || n == 0x3000

def trimStart (cs : List Char) : List Char :=
  cs.dropWhile isSpace

def trimEnd (cs : List Char) : List Char :=
  (cs.reverse.dropWhile isSpace).reverse

def trim (cs : List Char) : List Char :=
  trimEnd (trimStart cs)

/-- Empty when the text ends in white space; the whole text when it holds none. -/
def lastWord (cs : List Char) : List Char :=
  (cs.reverse.takeWhile fun c => !isSpace c).reverse

/-! ## Small laws -/

theorem lastWord_suffix (cs : List Char) : lastWord cs <:+ cs := by
  have h := List.takeWhile_prefix (l := cs.reverse) fun c => !isSpace c
  simpa [lastWord] using List.reverse_suffix.mpr h

theorem isSpace_of_isWhitespace {c : Char} (h : c.isWhitespace = true) : isSpace c = true := by
  have h' : ((c = ' ' ∨ c = '\t') ∨ c = '\r') ∨ c = '\n' := by
    simpa [Char.isWhitespace] using h
  rcases h' with ((h | h) | h) | h <;> subst h <;> decide

end Text
end MarkupAssist
