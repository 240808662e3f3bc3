import MarkupAssist.Yaml.Token

/-!
# Events

The nodes of a document in the order of the text, collections by their two ends. What has
been read of a malformed text before it goes wrong is kept.

An anchor gets the number of names there are already, so a name that is given again
takes a number that the next new name takes too, and the later node with that number counts.

- `Event`        : scalars, aliases and the ends of collections
- `Events.ofText`: the first document of a text
-/

namespace MarkupAssist
namespace Yaml

structure Scalar where
  style : Style
  tag : Option (List Char) := none
  text : String
  deriving DecidableEq, Repr

def Scalar.empty : Scalar :=
  ⟨.plain, none, ""⟩

inductive Event
  | scalar (mark : Mark) (anchor : Option Nat) (scalar : Scalar)
  | listStart (mark : Mark) (anchor : Option Nat)
  | mapStart (mark : Mark) (anchor : Option Nat)
  /-- The end of the innermost list or map. -/
  | close
  | alias (anchor : Nat)
  deriving DecidableEq, Repr

structure Reading where
  scanner : Scanner
  /-- What the handles of tags stand for. -/
  handles : List (List Char × List Char) := []
  anchors : List (String × Nat) := []
  /-- The last one first. -/
  events : List Event := []
  deriving Repr

abbrev Parsing (α : Type) := EStateM Malformed Reading α

namespace Parsing

def fail {α : Type} : Parsing α :=
  throw .malformed

def onScanner {α : Type} (scan : Scanning α) : Parsing α := fun reading =>
  match scan reading.scanner with
  | .ok a scanner => .ok a { reading with scanner }
  | .error e scanner => .error e { reading with scanner }

def peek : Parsing Token :=
  onScanner Scanner.peek

def drop : Parsing Unit :=
  onScanner Scanner.drop

def emit (event : Event) : Parsing Unit :=
  modify fun reading => { reading with events := event :: reading.events }

def emitEmpty (mark : Mark) : Parsing Unit :=
  emit (.scalar mark none .empty)

/-! ## Anchors and tags -/

def defineAnchor (name : String) : Parsing Nat := do
  let reading ← get
  let number := reading.anchors.length
  let others := reading.anchors.filter (·.1 ≠ name)
  set { reading with anchors := (name, number) :: others }
  return number

def defineAnchor? : Option String → Parsing (Option Nat)
  | some name => some <$> defineAnchor name
  | none => pure none

def emitAlias (name : String) : Parsing Unit := do
  match (← get).anchors.lookup name with
  | some number => emit (.alias number)
  | none => fail

/-- The handles that need no directive. -/
def standardHandles : List (List Char × List Char) :=
  [("!".toList, "!".toList), ("!!".toList, "tag:yaml.org,2002:".toList)]

def fullTag (name : TagName) : Parsing (List Char) := do
  if name.handle.isEmpty then return name.suffix
  match (← get).handles.lookup name.handle with
  | some start => return start ++ name.suffix
  | none => fail

def fullTag? : Option TagName → Parsing (Option (List Char))
  | some name => some <$> fullTag name
  | none => pure none

/-- What is written before a node. -/
structure Properties where
  /-- The place of the first of them. -/
  start : Option Mark := none
  anchor : Option String := none
  tag : Option TagName := none

def anchor? : Parsing (Option (Mark × String)) := do
  let token ← peek
  match token.kind with
  | .anchor name => drop *> pure (some (token.start, name))
  | _ => pure none

def tag? : Parsing (Option (Mark × TagName)) := do
  let token ← peek
  match token.kind with
  | .tag name => drop *> pure (some (token.start, name))
  | _ => pure none

/-- An anchor and a tag in any order. -/
def properties : Parsing Properties := do
  match ← anchor? with
  | some (mark, anchor) => return ⟨mark, anchor, (← tag?).map Prod.snd⟩
  | none =>
      match ← tag? with
      | some (mark, tag) => return ⟨mark, (← anchor?).map Prod.snd, tag⟩
      | none => return {}

/-! ## Nodes -/

/-- Tokens after which a key or value in a block is empty. -/
def endsBlockNode : TokenKind → Bool
  | .key => true
  | .value => true
  | .blockEnd => true
  | _ => false

/-- Tokens after which an item is empty. -/
def endsItem (indentless : Bool) : TokenKind → Bool
  | .blockEntry => true
  | .blockEnd => true
  | .key => indentless
  | .value => indentless
  | _ => false

def endsFlowNode (close : TokenKind) (kind : TokenKind) : Bool :=
  kind == .flowEntry || kind == close

mutual

/-- A node; `inBlock` is whether it may be a block, `indentless` whether the items of a list
may stand in the column of the key before them. -/
def node (inBlock indentless : Bool) : (bound : Nat) → Parsing Unit
  | 0 => fail
  | bound + 1 => do
      let first ← peek
      match first.kind with
      | .alias name => emitAlias name *> drop
      | _ => do
          let props ← properties
          let tag ← fullTag? props.tag
          let token ← peek
          let mark := props.start.getD token.start
          match token.kind, inBlock, indentless with
          | .blockEntry, _, true => do
              emit (.listStart mark (← defineAnchor? props.anchor))
              indentlessItems bound
          | .scalar style text, _, _ => do
              emit (.scalar mark (← defineAnchor? props.anchor) ⟨style, tag, text⟩)
              drop
          | .flowListStart, _, _ => do
              emit (.listStart mark (← defineAnchor? props.anchor))
              drop
              flowItems bound true
          | .flowMapStart, _, _ => do
              emit (.mapStart mark (← defineAnchor? props.anchor))
              drop
              flowMembers bound true
          | .blockListStart, true, _ => do
              emit (.listStart mark (← defineAnchor? props.anchor))
              drop
              blockItems bound
          | .blockMapStart, true, _ => do
              emit (.mapStart mark (← defineAnchor? props.anchor))
              drop
              blockMembers bound
          | _, _, _ =>
              if props.start.isSome then
                emit (.scalar mark (← defineAnchor? props.anchor) ⟨.plain, tag, ""⟩)
              else fail

def blockItems : (bound : Nat) → Parsing Unit
  | 0 => fail
  | bound + 1 => do
      let token ← peek
      match token.kind with
      | .blockEntry => do
          drop
          if endsItem false (← peek).kind then emitEmpty token.stop else node true false bound
          blockItems bound
      | .blockEnd => emit .close *> drop
      | _ => fail

def indentlessItems : (bound : Nat) → Parsing Unit
  | 0 => fail
  | bound + 1 => do
      let token ← peek
      match token.kind with
      | .blockEntry => do
          drop
          if endsItem true (← peek).kind then emitEmpty token.stop else node true false bound
          indentlessItems bound
      | _ => emit .close

def blockMembers : (bound : Nat) → Parsing Unit
  | 0 => fail
  | bound + 1 => do
      let token ← peek
      match token.kind with
      | .key => do
          drop
          if endsBlockNode (← peek).kind then emitEmpty token.stop else node true true bound
          blockValue bound
          blockMembers bound
      | .blockEnd => emit .close *> drop
      | _ => fail

def blockValue : (bound : Nat) → Parsing Unit
  | 0 => fail
  | bound + 1 => do
      let token ← peek
      match token.kind with
      | .value => do
          drop
          if endsBlockNode (← peek).kind then emitEmpty token.stop else node true true bound
      | _ => emitEmpty token.start

/-- The items of a list in brackets; a key among them is a map of its own. -/
def flowItems : (bound : Nat) → (first : Bool) → Parsing Unit
  | 0, _ => fail
  | bound + 1, first => do
      if (← peek).kind ≠ .flowListEnd && !first then
        if (← peek).kind ≠ .flowEntry then fail
        drop
      let token ← peek
      match token.kind with
      | .flowListEnd => emit .close *> drop
      | .key => do
          emit (.mapStart token.start none)
          drop
          pairKey bound
          flowValue .flowListEnd bound
          let _ ← peek
          emit .close
          flowItems bound false
      | _ => do
          node false false bound
          flowItems bound false

/-- The key of a pair in a list; a token that stands in its place is passed. -/
def pairKey : (bound : Nat) → Parsing Unit
  | 0 => fail
  | bound + 1 => do
      let token ← peek
      if token.kind == .value || endsFlowNode .flowListEnd token.kind then
        drop
        emitEmpty token.stop
      else node false false bound

/-- The members of a map in braces; a key may stand without a value. -/
def flowMembers : (bound : Nat) → (first : Bool) → Parsing Unit
  | 0, _ => fail
  | bound + 1, first => do
      if (← peek).kind ≠ .flowMapEnd && !first then
        if (← peek).kind ≠ .flowEntry then fail
        drop
      match (← peek).kind with
      | .flowMapEnd => emit .close *> drop
      | .key => do
          drop
          let token ← peek
          if token.kind == .value || endsFlowNode .flowMapEnd token.kind then
            emitEmpty token.start
          else node false false bound
          flowValue .flowMapEnd bound
          flowMembers bound false
      | _ => do
          node false false bound
          emitEmpty (← peek).start
          flowMembers bound false

def flowValue (close : TokenKind) : (bound : Nat) → Parsing Unit
  | 0 => fail
  | bound + 1 => do
      if (← peek).kind == .value then
        drop
        let token ← peek
        if endsFlowNode close token.kind then emitEmpty token.start
        else node false false bound
      else emitEmpty (← peek).start

end

/-! ## Documents -/

/-- A version that is known. -/
def isKnownVersion (major minor : Nat) : Bool :=
  major == 1 && (minor == 1 || minor == 2)

/-- The directives above a document, each of them given once. -/
def directives : (bound : Nat) → (versioned : Bool) → Parsing Unit
  | 0, _ => fail
  | bound + 1, versioned => do
      match (← peek).kind with
      | .directive (.version major minor) => do
          if versioned || !isKnownVersion major minor then fail
          drop
          directives bound true
      | .directive (.tagHandle handle start) => do
          let reading ← get
          if (reading.handles.lookup handle).isSome then fail
          set { reading with handles := (handle, start) :: reading.handles }
          drop
          directives bound versioned
      | _ => modify fun reading =>
          { reading with handles := reading.handles ++ standardHandles }

/-- Tokens that no document begins with. -/
def endsDocument : TokenKind → Bool
  | .directive _ => true
  | .documentStart => true
  | .documentEnd => true
  | .streamEnd => true
  | _ => false

def explicitDocument (bound : Nat) : Parsing Unit := do
  directives bound false
  if (← peek).kind ≠ .documentStart then fail
  drop
  let token ← peek
  if endsDocument token.kind then emitEmpty token.start else node true false bound

/-- The first document of the text, if there is any. -/
def document (bound : Nat) : Parsing Unit := do
  match (← peek).kind with
  | .streamEnd => pure ()
  | .directive _ => explicitDocument bound
  | .documentStart => explicitDocument bound
  | _ => do
      directives bound false
      node true false bound

/-- Nothing but marks of its end may follow a document. -/
def finish : (bound : Nat) → Parsing Unit
  | 0 => fail
  | bound + 1 => do
      match (← peek).kind with
      | .documentEnd => drop *> finish bound
      | .streamEnd => pure ()
      | _ => fail

end Parsing

/-- The events of a text, and whether all of it is well written. -/
structure Events where
  events : List Event
  wellFormed : Bool
  deriving Repr

/-- Every step of parsing takes a token or goes into one, and no character makes up more than
four of them. -/
def Parsing.bound (text : String) : Nat :=
  8 * (text.length + 8)

def Events.ofText (text : String) : Events :=
  let bound := Parsing.bound text
  match (do Parsing.document bound; Parsing.finish bound) { scanner := .ofText text } with
  | .ok () reading => ⟨reading.events.reverse, true⟩
  | .error _ reading => ⟨reading.events.reverse, false⟩

end Yaml
end MarkupAssist
