import MarkupAssist.Json.Value

/-!
# Values nobody wants

A value that is passed over has to be well written too, but it may be nested to any depth
and its numbers may be of any size. The text's own faults are told in fewer words here.

- `Reader.skipItems`, `Reader.skipMembers` : the inside of a list or object
- `Reader.skipValue`                       : a whole value
-/

namespace MarkupAssist
namespace Json
namespace Reader

def skipScalar (c : Char) : Reader Unit :=
  if c = 'n' then advance *> word "ull".toList
  else if c = 't' then advance *> word "rue".toList
  else if c = 'f' then advance *> word "alse".toList
  else if c = '"' then advance *> skipText
  else if c = '-' || isDigit c then skipNumber
  else failAhead .valueExpected

/-- Go on from one item to the next, past the comma; `false` at the end, which is passed too. -/
def skipToNext (close : Char) (unfinished missing : SyntaxFault) : Reader Bool := do
  match ← token with
  | none => failHere unfinished
  | some c =>
      if c = ',' then advance *> pure true
      else if c = close then advance *> pure false
      else failAhead missing

/-- What is left of a list, an item first. -/
def skipItems (item : Reader Unit) : (bound : Nat) → Reader Unit
  | 0 => pure ()
  | bound + 1 => do
      item
      if ← skipToNext ']' .listUnfinished .listCommaOrEndExpected then skipItems item bound

def skipKey : Reader Unit := do
  match ← token with
  | some '"' => advance *> skipText
  | some _ => failAhead .keyNotText
  | none => failHere .objectUnfinished

/-- What is left of an object, a member first. -/
def skipMembers (value : Reader Unit) : (bound : Nat) → Reader Unit
  | 0 => pure ()
  | bound + 1 => do
      skipKey
      colon
      value
      if ← skipToNext '\x7d' .objectUnfinished .objectCommaOrEndExpected then
        skipMembers value bound

/-- The inside of brackets: nothing at all, or what `contents` reads. -/
def skipInside (close : Char) (unfinished : SyntaxFault) (contents : Reader Unit) :
    Reader Unit := do
  match ← token with
  | none => failHere unfinished
  | some c => if c = close then advance else contents

/-- A value in which no more brackets are nested than the bound. -/
def skipNested : (bound : Nat) → Reader Unit
  | 0 => pure ()
  | depth + 1 => do
      match ← token with
      | some '[' => do
          advance
          skipInside ']' .listUnfinished (do skipItems (skipNested depth) (← bound))
      | some '\x7b' => do
          advance
          skipInside '\x7d' .objectUnfinished (do skipMembers (skipNested depth) (← bound))
      | some c => skipScalar c
      | none => failHere .valueUnfinished

def skipValue : Reader Unit := do
  skipNested (← bound)

end Reader
end Json
end MarkupAssist
