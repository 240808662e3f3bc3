import MarkupAssist.Yaml.Source

/-!
# Anchors, tags and directives

A tag is written whole, or by a handle and what follows it. Handles stand for the first
part of a tag; a directive above a document can say for which.

- `TagName`        : a tag as it is written
- `Directive`      : what a directive says
- `Scan.anchor`, `Scan.tag`, `Scan.directive` : their scanning
-/

namespace MarkupAssist
namespace Yaml

/-- An empty handle stands before a tag that is written whole. -/
structure TagName where
  handle : List Char
  suffix : List Char
  deriving DecidableEq, Repr

inductive Directive
  | version (major minor : Nat)
  | tagHandle (handle start : List Char)
  deriving DecidableEq, Repr

namespace Scan

/-- Something that belongs to a node ends where a gap begins, or one of these characters. -/
def requireEnd (others : List Char) : Scan Unit := do
  look 1
  let chars ← rest
  if !(atGap chars || chars.head?.any others.contains) then fail

/-! ## Anchors -/

/-- The name after `&` or `*`. -/
def anchor : Scan String := do
  skip 1
  let name ← takeWhile isNameChar
  if name.isEmpty then fail
  requireEnd "?:,]\x7d%@`".toList
  return String.ofList name

/-! ## Tags -/

/-- Whether a name stands between two exclamation marks. -/
def isWholeHandle (handle : List Char) : Bool :=
  2 ≤ handle.length && handle.getLast? == some '!'

/-- An exclamation mark, a name, and perhaps another mark. -/
def tagHandle : Scan (List Char) := do
  if (← peek) != some '!' then fail
  skip 1
  let name ← takeWhile isNameChar
  if (← peek) == some '!' then
    skip 1
    return '!' :: (name ++ ['!'])
  else return '!' :: name

def isUriChar (verbatim : Bool) (c : Char) : Bool :=
  isNameChar c || ";/?:@&=+$.!~*'()".toList.contains c || (verbatim && ",[]".toList.contains c)

def octetDigit? (c : Char) : Option Nat :=
  if c.isDigit then some (c.toNat - '0'.toNat)
  else if 'a' ≤ c ∧ c ≤ 'f' then some (c.toNat - 'a'.toNat + 10)
  else if 'A' ≤ c ∧ c ≤ 'F' then some (c.toNat - 'A'.toNat + 10)
  else none

/-- A percent sign and two digits. -/
def octet : Scan Nat := do
  look 3
  match ← rest with
  | '%' :: a :: b :: _ =>
      match octetDigit? a, octetDigit? b with
      | some high, some low => skip 3 *> pure (high * 16 + low)
      | _, _ => fail
  | _ => fail

/-- How many octets follow the first one of a character. -/
def octetsAfter? (first : Nat) : Option Nat :=
  if first < 0x80 then some 0
  else if first / 0x20 = 6 then some 1
  else if first / 0x10 = 14 then some 2
  else if first / 0x08 = 30 then some 3
  else none

def laterOctets : Nat → Scan (List Nat)
  | 0 => pure []
  | n + 1 => do
      let later ← octet
      if later / 0x40 ≠ 2 then fail
      return later :: (← laterOctets n)

/-- One escaped character, kept as its octets. -/
def octets : Scan (List Char) := do
  let first ← octet
  match octetsAfter? first with
  | some n => return (first :: (← laterOctets n)).map Char.ofNat
  | none => fail

def uriFrom (verbatim : Bool) : (bound : Nat) → (taken : List Char) → Scan (List Char)
  | 0, taken => pure taken
  | bound + 1, taken => do
      match ← peek with
      | some '%' => do
          let escaped ← octets
          uriFrom verbatim bound (taken ++ escaped)
      | some c =>
          if isUriChar verbatim c then skip 1 *> uriFrom verbatim bound (taken ++ [c])
          else pure taken
      | none => pure taken

def uri (verbatim : Bool) : Scan (List Char) := do
  uriFrom verbatim (← bound) []

def someUri (verbatim : Bool) : Scan (List Char) := do
  match ← uri verbatim with
  | [] => fail
  | chars => pure chars

/-- What a tag or the first part of one is worth ends before an escaped NUL. -/
def beforeNul (cs : List Char) : List Char :=
  cs.takeWhile (· ≠ '\x00')

def verbatimTag : Scan TagName := do
  skip 2
  let suffix ← someUri true
  if (← peek) != some '>' then fail
  skip 1
  return ⟨[], beforeNul suffix⟩

/-- With a handle that has one exclamation mark only, the mark alone is the handle; and a mark
with nothing after it is a tag of its own. -/
def shorthandTag : Scan TagName := do
  let handle ← tagHandle
  if isWholeHandle handle then return ⟨handle, beforeNul (← someUri false)⟩
  let suffix := beforeNul (handle.drop 1 ++ (← uri false))
  return if suffix.isEmpty then ⟨[], ['!']⟩ else ⟨['!'], suffix⟩

def tag (inFlow : Bool) : Scan TagName := do
  let name ← if ['!', '<'].isPrefixOf (← rest) then verbatimTag else shorthandTag
  requireEnd (if inFlow then [','] else [])
  return name

/-! ## Directives -/

/-- A number of at most nine digits. -/
def versionNumber : Scan Nat := do
  let digits ← takeWhile Char.isDigit
  if digits.isEmpty || 9 < digits.length then fail
  return digits.foldl (fun n d => n * 10 + (d.toNat - '0'.toNat)) 0

def versionDirective : Scan Directive := do
  skipBlanks
  let major ← versionNumber
  if (← peek) != some '.' then fail
  skip 1
  return .version major (← versionNumber)

def tagDirective : Scan Directive := do
  skipBlanks
  let handle ← tagHandle
  if !(isWholeHandle handle || handle == ['!']) || !(← peek).any isBlank then fail
  skipBlanks
  let start ← someUri true
  requireEnd []
  return .tagHandle handle (beforeNul start)

/-- From the percent sign to the end of the line. -/
def directive : Scan Directive := do
  skip 1
  let name ← takeWhile isNameChar
  requireEnd []
  let directive ←
    if name == "YAML".toList then versionDirective
    else if name == "TAG".toList then tagDirective
    else fail
  finishLine
  return directive

end Scan
end Yaml
end MarkupAssist
