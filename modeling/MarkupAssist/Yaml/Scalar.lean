import MarkupAssist.Yaml.Gap

/-!
# Scalars

A scalar is written plainly, in quotes, or as a block of lines. All that counts later is its
text and the style it was written in.

- `Style`          : the five ways to write a scalar
- `Scan.singleQuoted`, `Scan.doubleQuoted` : in quotes, after the opening one
- `Scan.plain`     : without quotes
- `Scan.block`     : as a block, after its `|` or `>`
-/

namespace MarkupAssist
namespace Yaml

inductive Style
  | plain
  | singleQuoted
  | doubleQuoted
  | literal
  | folded
  deriving DecidableEq, Repr

namespace Scan

/-! ## Quoted scalars -/

/-- The character behind a letter that follows a backslash. -/
def letterEscape? : Char → Option Char
  | '0' => some '\x00'
  | 'a' => some '\x07'
  | 'b' => some '\x08'
  | 't' => some '\t'
  | '\t' => some '\t'
  | 'n' => some '\n'
  | 'v' => some '\x0b'
  | 'f' => some '\x0c'
  | 'r' => some '\r'
  | 'e' => some '\x1b'
  | ' ' => some ' '
  | '"' => some '"'
  | '/' => some '/'
  | '\\' => some '\\'
  | 'N' => some '\x85'
  | '_' => some '\xa0'
  | 'L' => some '\u2028'
  | 'P' => some '\u2029'
  | _ => none

/-- How many hexadecimal digits follow one of these letters. -/
def escapeDigits? : Char → Option Nat
  | 'x' => some 2
  | 'u' => some 4
  | 'U' => some 8
  | _ => none

def hexValue? (c : Char) : Option Nat :=
  if '0' ≤ c ∧ c ≤ '9' then some (c.toNat - '0'.toNat)
  else if 'a' ≤ c ∧ c ≤ 'f' then some (c.toNat - 'a'.toNat + 10)
  else if 'A' ≤ c ∧ c ≤ 'F' then some (c.toNat - 'A'.toNat + 10)
  else none

def hexNumber : (digits : Nat) → (value : Nat) → Scan Nat
  | 0, value => pure value
  | digits + 1, value => do
      match (← peek).bind hexValue? with
      | some digit => do
          skip 1
          hexNumber digits (value * 16 + digit)
      | none => fail

/-- The character an escape stands for, after its backslash. -/
def escapedChar (letter : Char) : Scan Char := do
  match letterEscape? letter, escapeDigits? letter with
  | some c, _ => skip 1 *> pure c
  | none, some digits => do
      skip 1
      let n ← hexNumber digits 0
      if n.isValidChar then pure (Char.ofNat n) else fail
  | none, none => fail

/-- The characters up to a gap or the closing quote. -/
def singleQuotedWord : (bound : Nat) → (taken : List Char) → Scan (List Char)
  | 0, taken => pure taken.reverse
  | bound + 1, taken => do
      look 2
      match ← rest with
      | '\'' :: '\'' :: _ => skip 2 *> singleQuotedWord bound ('\'' :: taken)
      | '\'' :: _ => pure taken.reverse
      | c :: _ =>
          if isBlank c || isBreak c then pure taken.reverse
          else skip 1 *> singleQuotedWord bound (c :: taken)
      | [] => pure taken.reverse

/-- The same, or up to and with a line break that is escaped, which the second answer tells. -/
def doubleQuotedWord : (bound : Nat) → (taken : List Char) → Scan (List Char × Bool)
  | 0, taken => pure (taken.reverse, false)
  | bound + 1, taken => do
      look 2
      match ← rest with
      | '"' :: _ => pure (taken.reverse, false)
      | '\\' :: c :: _ => do
          skip 1
          if isBreak c then
            let _ ← lineBreak?
            pure (taken.reverse, true)
          else
            let c ← escapedChar c
            doubleQuotedWord bound (c :: taken)
      | '\\' :: [] => fail
      | c :: _ =>
          if isBlank c || isBreak c then pure (taken.reverse, false)
          else skip 1 *> doubleQuotedWord bound (c :: taken)
      | [] => pure (taken.reverse, false)

/-- Words and gaps up to the closing quote, which may follow an escaped line break. -/
def quotedFrom (quote : Char) (word : Scan (List Char × Bool)) :
    (bound : Nat) → (text : List Char) → Scan (List Char)
  | 0, _ => fail
  | bound + 1, text => do
      look 4
      if atDocumentBorder (← get) || (← rest).isEmpty then fail
      let (chars, escaped) ← word
      if (← peek) == some quote then skip 1 *> pure (text ++ chars)
      else
        let gap ← gap none { escaped }
        quotedFrom quote word bound (text ++ chars ++ gap.text)

def singleQuoted : Scan (List Char) := do
  let limit ← bound
  quotedFrom '\'' (do return (← singleQuotedWord limit [], false)) limit []

def doubleQuoted : Scan (List Char) := do
  let limit ← bound
  quotedFrom '"' (doubleQuotedWord limit []) limit []

/-! ## Plain scalars -/

/-- Characters that end a plain scalar between brackets. -/
def isFlowIndicator (c : Char) : Bool :=
  c == ',' || c == '[' || c == ']' || c == '\x7b' || c == '\x7d'

/-- Between brackets a colon may not stand right before one of them. -/
def isMisplacedColon (inFlow : Bool) (c : Char) (rest : List Char) : Bool :=
  inFlow && c == ':' && rest.head?.any fun next => isFlowIndicator next || next == '?'

def endsPlain (inFlow : Bool) (c : Char) (rest : List Char) : Bool :=
  (c == ':' && atGap rest) || (inFlow && isFlowIndicator c)

/-- The length of a word of a plain scalar; none if a colon in it is misplaced. -/
def plainWordLength? (inFlow : Bool) : List Char → Option Nat
  | [] => some 0
  | c :: rest =>
      if isBlank c || isBreak c then some 0
      else if isMisplacedColon inFlow c rest then none
      else if endsPlain inFlow c rest then some 0
      else (plainWordLength? inFlow rest).map (· + 1)

def plainWord (inFlow : Bool) : Scan (List Char) := do
  let chars ← rest
  match plainWordLength? inFlow chars with
  | some n => do
      skip n
      if n ≠ 0 then look 2
      return chars.take n
  | none => fail

/-- Words and gaps as long as another word follows. `least` is the column of the words in
further lines. The second answer is whether the gap at the end has a line break. -/
def plainFrom (inFlow : Bool) (least : Nat) :
    (bound : Nat) → (text : List Char) → (gap : Gap) → Scan (List Char × Bool)
  | 0, text, gap => pure (text, gap.isBroken)
  | bound + 1, text, gap => do
      look 4
      if atDocumentBorder (← get) || (← peek) == some '#' then return (text, gap.isBroken)
      match ← plainWord inFlow with
      | [] => return (text, gap.isBroken)
      | word => do
          let text := text ++ gap.text ++ word
          if (← rest).isEmpty || !atGap (← rest) then return (text, false)
          let gap ← Scan.gap (some least) {}
          if !inFlow && (← column) < least then return (text, gap.isBroken)
          plainFrom inFlow least bound text gap

def plain (inFlow : Bool) (least : Nat) : Scan (List Char × Bool) := do
  plainFrom inFlow least (← bound) [] {}

/-! ## Block scalars -/

/-- What becomes of the line breaks at the end. -/
inductive Chomping
  | strip
  | clip
  | keep
  deriving DecidableEq, Repr

def chomping? : Scan (Option Chomping) := do
  match ← peek with
  | some '+' => skip 1 *> pure (some .keep)
  | some '-' => skip 1 *> pure (some .strip)
  | _ => pure none

/-- A further indentation, from one to nine. -/
def increment? : Scan (Option Nat) := do
  match ← peek with
  | some c =>
      if c == '0' then fail
      else if c.isDigit then skip 1 *> pure (some (c.toNat - '0'.toNat))
      else pure none
  | none => pure none

/-- The two indicators of a block, in any order. -/
def blockHeader : Scan (Chomping × Option Nat) := do
  match ← chomping? with
  | some chomping => do
      let increment ← increment?
      return (chomping, increment)
  | none => do
      let increment ← increment?
      let chomping ← if increment.isSome then chomping? else pure none
      return (chomping.getD .clip, increment)

/-- The line breaks and the indentation before a line; without an indentation, which is then
zero, all blanks are passed. The second answer is the widest indentation seen. -/
def indentedBreaks (indent : Nat) :
    (bound : Nat) → (breaks : List Char) → (widest : Nat) → Scan (List Char × Nat)
  | 0, breaks, widest => pure (breaks, widest)
  | bound + 1, breaks, widest => do
      let blanks := (← rest).takeWhile (· == ' ')
      let missing := indent - (← column)
      skip (if indent = 0 then blanks.length else min blanks.length missing)
      let column ← column
      if (indent = 0 || column < indent) && (← peek) == some '\t' then fail
      let widest := max widest column
      match ← lineBreak? with
      | some c => indentedBreaks indent bound (breaks ++ [c]) widest
      | none => pure (breaks, widest)

/-- What stands between two lines of a block. -/
def lineJoint (style : Style) (lineBreak breaks : List Char) (afterBlank beforeBlank : Bool) :
    List Char :=
  if style == .folded && lineBreak == ['\n'] && !afterBlank && !beforeBlank then
    if breaks.isEmpty then [' '] else breaks
  else lineBreak ++ breaks

/-- The lines of a block of the given indentation. Before the next one stand a line break of
the line above, which began with a blank or not, and further line breaks. -/
def blockLines (style : Style) (chomping : Chomping) (indent : Nat) :
    (bound : Nat) → (text lineBreak breaks : List Char) → (afterBlank : Bool) →
      Scan (List Char)
  | 0, text, _, _, _ => pure text
  | bound + 1, text, lineBreak, breaks, afterBlank => do
      if (← column) == indent && !(← rest).isEmpty then
        let beforeBlank := (← peek).any isBlank
        let line ← takeWhile (!isBreak ·)
        let text := text ++ lineJoint style lineBreak breaks afterBlank beforeBlank ++ line
        let lineBreak := (← lineBreak?).toList
        let (breaks, _) ← indentedBreaks indent (← Scan.bound) [] 0
        blockLines style chomping indent bound text lineBreak breaks beforeBlank
      else
        match chomping with
        | .strip => pure text
        | .clip => pure (text ++ lineBreak)
        | .keep => pure (text ++ lineBreak ++ breaks)

/-- `outer` is the least indentation a block can have here, `parent` that of the lines around
it, to which a written one is added. -/
def block (style : Style) (parent outer : Nat) : Scan (List Char) := do
  let (chomping, increment) ← blockHeader
  finishLine
  let written := match increment with
    | some n => parent + n
    | none => 0
  let (breaks, widest) ← indentedBreaks written (← bound) [] 0
  let indent := if written = 0 then max widest (max outer 1) else written
  blockLines style chomping indent (← bound) [] [] breaks false

end Scan
end Yaml
end MarkupAssist
