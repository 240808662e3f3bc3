import MarkupAssist.Yaml.Event

/-!
# Nodes

The first document of a text as a tree. Where a malformed text breaks off, the tree holds
a node that is missing, so that what stands before it can still be looked at.

- `Node`            : the tree
- `Node.ofEvents`   : the tree of a list of events
- `Node.anchored`   : the nodes that aliases may stand for
- `Document`        : a tree with its anchors
-/

namespace MarkupAssist
namespace Yaml

inductive Node
  | scalar (mark : Mark) (anchor : Option Nat) (scalar : Scalar)
  | list (mark : Mark) (anchor : Option Nat) (items : List Node)
  | map (mark : Mark) (anchor : Option Nat) (members : List (Node × Node))
  | alias (anchor : Nat)
  /-- The text is malformed before the end of what should be here. -/
  | missing
  deriving Repr

namespace Node

/-! ## From events -/

mutual

/-- The node at the start of some events, and the events after it. -/
def read : (bound : Nat) → List Event → Node × List Event
  | 0, events => (missing, events)
  | _ + 1, [] => (missing, [])
  | _ + 1, .scalar mark anchor s :: rest => (scalar mark anchor s, rest)
  | bound + 1, .listStart mark anchor :: rest =>
      let (items, rest) := readItems bound rest
      (list mark anchor items, rest)
  | bound + 1, .mapStart mark anchor :: rest =>
      let (members, rest) := readMembers bound rest
      (map mark anchor members, rest)
  | _ + 1, .close :: rest => (missing, rest)
  | _ + 1, .alias anchor :: rest => (.alias anchor, rest)

def readItems : (bound : Nat) → List Event → List Node × List Event
  | 0, events => ([missing], events)
  | _ + 1, [] => ([missing], [])
  | _ + 1, .close :: rest => ([], rest)
  | bound + 1, events =>
      let (item, rest) := read bound events
      let (items, rest) := readItems bound rest
      (item :: items, rest)

def readMembers : (bound : Nat) → List Event → List (Node × Node) × List Event
  | 0, events => ([(missing, missing)], events)
  | _ + 1, [] => ([(missing, missing)], [])
  | _ + 1, .close :: rest => ([], rest)
  | bound + 1, events =>
      let (key, rest) := read bound events
      let (value, rest) := read bound rest
      let (members, rest) := readMembers bound rest
      ((key, value) :: members, rest)

end

def ofEvents (events : List Event) : Node :=
  (read (events.length + 1) events).1

/-! ## What is in a tree -/

mutual

/-- Nothing in it is missing. -/
def isComplete : Node → Bool
  | scalar _ _ _ => true
  | list _ _ items => areComplete items
  | map _ _ members => membersComplete members
  | .alias _ => true
  | missing => false

def areComplete : List Node → Bool
  | [] => true
  | item :: items => item.isComplete && areComplete items

def membersComplete : List (Node × Node) → Bool
  | [] => true
  | (key, value) :: members => key.isComplete && value.isComplete && membersComplete members

end

def ownAnchor (anchor : Option Nat) (node : Node) : List (Nat × Node) :=
  anchor.toList.map (·, node)

mutual

/-- The anchored nodes with their numbers, in the order of the text. -/
def anchored : Node → List (Nat × Node)
  | scalar mark anchor s => ownAnchor anchor (scalar mark anchor s)
  | list mark anchor items => ownAnchor anchor (list mark anchor items) ++ anchoredItems items
  | map mark anchor members =>
      ownAnchor anchor (map mark anchor members) ++ anchoredMembers members
  | .alias _ => []
  | missing => []

def anchoredItems : List Node → List (Nat × Node)
  | [] => []
  | item :: items => item.anchored ++ anchoredItems items

def anchoredMembers : List (Node × Node) → List (Nat × Node)
  | [] => []
  | (key, value) :: members => key.anchored ++ value.anchored ++ anchoredMembers members

end

end Node

/-! ## Documents -/

structure Document where
  root : Node
  /-- Of two nodes with one number the first one here counts. -/
  anchors : List (Nat × Node)
  /-- Nothing in or after the document is malformed. -/
  wellFormed : Bool
  deriving Repr

namespace Document

/-- A text without nodes holds an empty one. -/
def ofText (text : String) : Document :=
  let events := Events.ofText text
  if events.events.isEmpty && events.wellFormed then
    ⟨.scalar {} none .empty, [], true⟩
  else
    let root := Node.ofEvents events.events
    ⟨root, root.anchored.reverse, events.wellFormed⟩

/-- The node an alias stands for; other nodes stand for themselves. -/
def target (anchors : List (Nat × Node)) : Node → Node
  | .alias anchor => (anchors.lookup anchor).getD .missing
  | node => node

end Document
end Yaml
end MarkupAssist
