import MarkupAssist.Yaml.Scalar
import MarkupAssist.Yaml.Tag

/-!
# Tokens

Text is cut into tokens. Blocks are opened and closed by indentation alone, so tokens are
made up for it; and as a key shows only by the colon after it, tokens wait in a queue
until it is clear that no colon follows.

- `Token`           : the pieces of the text, and those that are made up
- `Scanner`         : the queue, the open blocks, and what may yet turn out to be a key
- `Scanner.peek`, `Scanner.drop` : the next token
-/

namespace MarkupAssist
namespace Yaml

inductive TokenKind
  | directive (directive : Directive)
  | documentStart
  | documentEnd
  | streamEnd
  | blockListStart
  | blockMapStart
  | blockEnd
  | flowListStart
  | flowListEnd
  | flowMapStart
  | flowMapEnd
  | blockEntry
  | flowEntry
  | key
  | value
  | alias (name : String)
  | anchor (name : String)
  | tag (name : TagName)
  | scalar (style : Style) (text : String)
  deriving DecidableEq, Repr

structure Token where
  kind : TokenKind
  start : Mark
  stop : Mark
  deriving DecidableEq, Repr

/-- Something that is a key if a colon follows it. -/
structure KeyCandidate where
  /-- The number of its first token. -/
  number : Nat
  /-- A colon has to follow. -/
  required : Bool
  mark : Mark
  deriving DecidableEq, Repr

structure Scanner where
  source : Source
  queue : List Token := []
  /-- The number of tokens that have left the queue. -/
  taken : Nat := 0
  /-- The columns of the open blocks, innermost first. -/
  blocks : List Nat := []
  /-- The last key candidate inside each open bracket and outside of all, innermost first. -/
  candidates : List (Option KeyCandidate) := [none]
  /-- Whether a key may start here. -/
  keyAllowed : Bool := true
  deriving Repr

abbrev Scanning (α : Type) := EStateM Malformed Scanner α

namespace Scanner

/-! ## The state -/

def inFlow (scanner : Scanner) : Bool :=
  2 ≤ scanner.candidates.length

/-- The least column of anything inside the innermost block. -/
def leastColumn (scanner : Scanner) : Nat :=
  match scanner.blocks with
  | [] => 0
  | column :: _ => column + 1

def onSource {α : Type} (scan : Scan α) : Scanning α := fun scanner =>
  match scan scanner.source with
  | .ok a source => .ok a { scanner with source }
  | .error e source => .error e { scanner with source }

def fail {α : Type} : Scanning α :=
  throw .malformed

def allowKey (allowed : Bool) : Scanning Unit :=
  modify fun scanner => { scanner with keyAllowed := allowed }

def enqueue (token : Token) : Scanning Unit :=
  modify fun scanner => { scanner with queue := scanner.queue ++ [token] }

/-- Put a token before the one of the given number. -/
def enqueueBefore (number : Nat) (token : Token) : Scanning Unit :=
  modify fun scanner =>
    let n := number - scanner.taken
    { scanner with queue := scanner.queue.take n ++ token :: scanner.queue.drop n }

/-- A token of so many characters. -/
def enqueueIndicator (kind : TokenKind) (length : Nat) : Scanning Unit := do
  let start ← onSource Scan.mark
  onSource (Scan.skip length)
  enqueue ⟨kind, start, ← onSource Scan.mark⟩

def enqueueScanned (scan : Scan TokenKind) : Scanning Unit := do
  let start ← onSource Scan.mark
  let kind ← onSource scan
  enqueue ⟨kind, start, ← onSource Scan.mark⟩

/-! ## Key candidates -/

/-- A candidate that has to be a key cannot be given up. -/
def giveUp : Option KeyCandidate → Scanning (Option KeyCandidate)
  | some candidate => if candidate.required then fail else pure none
  | none => pure none

def setCandidate (candidate : Option KeyCandidate) : Scanning Unit :=
  modify fun scanner =>
    { scanner with candidates := candidate :: scanner.candidates.drop 1 }

def removeCandidate : Scanning Unit := do
  setCandidate (← giveUp (← get).candidates.head?.join)

/-- What comes next may be a key, if one may start here. -/
def saveCandidate : Scanning Unit := do
  let scanner ← get
  if scanner.keyAllowed then
    removeCandidate
    let mark := scanner.source.mark
    setCandidate (some {
      number := scanner.taken + scanner.queue.length
      required := !scanner.inFlow && scanner.blocks.head? == some mark.column
      mark })

/-- A key stands in one line and is no longer than 1024 bytes. -/
def isStale (mark : Mark) (candidate : KeyCandidate) : Bool :=
  candidate.mark.line < mark.line || candidate.mark.index + 1024 < mark.index

def removeStale : Scanning Unit := do
  let scanner ← get
  let candidates ← scanner.candidates.mapM fun candidate =>
    if candidate.any (isStale scanner.source.mark) then giveUp candidate else pure candidate
  set { scanner with candidates }

/-! ## Blocks -/

/-- Open a block at a column beyond the innermost one. Its token goes before the token of a
number, or to the end. -/
def openBlock (column : Nat) (kind : TokenKind) (before : Option Nat) (mark : Mark) :
    Scanning Unit := do
  let scanner ← get
  if !scanner.inFlow && scanner.leastColumn ≤ column then
    set { scanner with blocks := column :: scanner.blocks }
    match before with
    | some number => enqueueBefore number ⟨kind, mark, mark⟩
    | none => enqueue ⟨kind, mark, mark⟩

/-- Close the blocks beyond a column, or all of them. -/
def closeBlocks (column : Option Nat) : Scanning Unit := do
  let scanner ← get
  if !scanner.inFlow then
    let mark := scanner.source.mark
    let closed := scanner.blocks.takeWhile fun block => column.all (· < block)
    set { scanner with
      blocks := scanner.blocks.drop closed.length
      queue := scanner.queue ++ List.replicate closed.length (Token.mk .blockEnd mark mark) }

/-! ## Scanning one token -/

/-- Pass blanks, comments and line breaks. Tabs do not indent. -/
def skipToToken : (bound : Nat) → Scanning Unit
  | 0 => pure ()
  | bound + 1 => do
      onSource (Scan.look 1)
      let scanner ← get
      let tabs := scanner.inFlow || !scanner.keyAllowed
      -- A byte order mark may start a line, and counts as a character of it.
      if scanner.source.mark.column == 0 && scanner.source.rest.head? == some '\ufeff' then
        onSource (Scan.skip 1)
      let _ ← onSource (Scan.takeWhile fun c => c == ' ' || (tabs && c == '\t'))
      onSource Scan.skipComment
      match ← onSource Scan.lineBreak? with
      | some _ => do
          if !scanner.inFlow then allowKey true
          skipToToken bound
      | none => pure ()

/-- All blocks end and no key can be open. -/
def endContent : Scanning Unit := do
  closeBlocks none
  removeCandidate
  allowKey false

/-- The end of the text counts as the beginning of a line. -/
def scanStreamEnd : Scanning Unit := do
  let source := (← get).source
  if source.mark.column ≠ 0 then
    onSource (Scan.passBreak 0)
  endContent
  enqueueIndicator .streamEnd 0

def scanFlowStart (kind : TokenKind) : Scanning Unit := do
  saveCandidate
  modify fun scanner => { scanner with candidates := none :: scanner.candidates }
  allowKey true
  enqueueIndicator kind 1

def scanFlowEnd (kind : TokenKind) : Scanning Unit := do
  removeCandidate
  modify fun scanner =>
    if scanner.inFlow then { scanner with candidates := scanner.candidates.drop 1 } else scanner
  allowKey false
  enqueueIndicator kind 1

def scanFlowEntry : Scanning Unit := do
  removeCandidate
  allowKey true
  enqueueIndicator .flowEntry 1

/-- Open a block at an indicator, where the context allows for one. -/
def openBlockHere (kind : TokenKind) : Scanning Unit := do
  let scanner ← get
  if !scanner.inFlow then
    if !scanner.keyAllowed then fail
    let mark := scanner.source.mark
    openBlock mark.column kind none mark

def scanBlockEntry : Scanning Unit := do
  openBlockHere .blockListStart
  removeCandidate
  allowKey true
  enqueueIndicator .blockEntry 1

def scanKey : Scanning Unit := do
  openBlockHere .blockMapStart
  removeCandidate
  allowKey (!(← get).inFlow)
  enqueueIndicator .key 1

/-- A colon makes the candidate before it a key, together with a map to hold it. -/
def scanValue : Scanning Unit := do
  match (← get).candidates.head?.join with
  | some candidate => do
      enqueueBefore candidate.number ⟨.key, candidate.mark, candidate.mark⟩
      openBlock candidate.mark.column .blockMapStart (some candidate.number) candidate.mark
      setCandidate none
      allowKey false
  | none => do
      openBlockHere .blockMapStart
      allowKey (!(← get).inFlow)
  enqueueIndicator .value 1

/-- Something that may itself be a key. -/
def scanCandidate (scan : Scan TokenKind) : Scanning Unit := do
  saveCandidate
  allowKey false
  enqueueScanned scan

def scanBlockScalar (style : Style) : Scanning Unit := do
  removeCandidate
  allowKey true
  let scanner ← get
  enqueueScanned do
    Scan.skip 1
    let text ← Scan.block style (scanner.blocks.head?.getD 0) scanner.leastColumn
    return .scalar style (String.ofList text)

def scanQuoted (style : Style) (scan : Scan (List Char)) : Scanning Unit :=
  scanCandidate do
    Scan.skip 1
    return .scalar style (String.ofList (← scan))

/-- A plain scalar that ends in another line leaves room for a key. -/
def scanPlain : Scanning Unit := do
  saveCandidate
  allowKey false
  let scanner ← get
  let start := scanner.source.mark
  let (text, broken) ← onSource (Scan.plain scanner.inFlow scanner.leastColumn)
  enqueue ⟨.scalar .plain (String.ofList text), start, ← onSource Scan.mark⟩
  if broken then allowKey true

/-- Characters that a plain scalar cannot start with. -/
def indicators : List Char :=
  "-?:,[]\x7b\x7d#&*!|>'\"%@`".toList

/-- Hyphens, question marks and colons may start a scalar if a word goes on after them. -/
def startsPlain (inFlow : Bool) (c : Char) (rest : List Char) : Bool :=
  (!isBlank c && !indicators.contains c) ||
    (c == '-' && !rest.head?.any isBlank) ||
    (!inFlow && (c == '?' || c == ':') && !atGap rest)

def scanNext : Scanning Unit := do
  skipToToken (← get).source.bound
  removeStale
  closeBlocks (some (← get).source.mark.column)
  onSource (Scan.look 4)
  let scanner ← get
  let source := scanner.source
  let inFlow := scanner.inFlow
  match source.rest with
  | [] => scanStreamEnd
  | c :: rest =>
      if c == '%' && source.mark.column == 0 then do
        endContent
        enqueueScanned (.directive <$> Scan.directive)
      else if isDocumentBorder documentStart source then do
        endContent
        enqueueIndicator .documentStart 3
      else if isDocumentBorder documentEnd source then do
        endContent
        enqueueIndicator .documentEnd 3
      else if c == '[' then scanFlowStart .flowListStart
      else if c == '\x7b' then scanFlowStart .flowMapStart
      else if c == ']' then scanFlowEnd .flowListEnd
      else if c == '\x7d' then scanFlowEnd .flowMapEnd
      else if c == ',' then scanFlowEntry
      else if c == '-' && atGap rest then scanBlockEntry
      else if c == '?' && (inFlow || atGap rest) then scanKey
      else if c == ':' && (inFlow || atGap rest) then scanValue
      else if c == '*' then scanCandidate (.alias <$> Scan.anchor)
      else if c == '&' then scanCandidate (.anchor <$> Scan.anchor)
      else if c == '!' then scanCandidate (.tag <$> Scan.tag inFlow)
      else if c == '|' && !inFlow then scanBlockScalar .literal
      else if c == '>' && !inFlow then scanBlockScalar .folded
      else if c == '\'' then scanQuoted .singleQuoted Scan.singleQuoted
      else if c == '"' then scanQuoted .doubleQuoted Scan.doubleQuoted
      else if startsPlain inFlow c rest then scanPlain
      else fail

/-! ## The queue -/

/-- The first token may yet turn out to belong to a key. -/
def isWaiting (scanner : Scanner) : Bool :=
  scanner.queue.isEmpty ||
    scanner.candidates.any fun candidate => candidate.any (·.number == scanner.taken)

def fill : (bound : Nat) → Scanning Unit
  | 0 => fail
  | bound + 1 => do
      if !(← get).queue.isEmpty then removeStale
      if (← get).isWaiting then
        scanNext
        fill bound

/-- The next token, without taking it. -/
def peek : Scanning Token := do
  fill (← get).source.bound
  match (← get).queue with
  | token :: _ => pure token
  | [] => fail

def drop : Scanning Unit :=
  modify fun scanner =>
    { scanner with queue := scanner.queue.drop 1, taken := scanner.taken + 1 }

def ofText (text : String) : Scanner :=
  { source := .ofText text }

end Scanner
end Yaml
end MarkupAssist
