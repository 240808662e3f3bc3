import MarkupAssist.Text.Space

/-!
# One line of markup

A line is read from left to right, on its own, through the states of a small automaton.
Its summary says what is still open where the line ends. Outside a tag a quoted value
after `=` is taken for a value of a tag begun on an earlier line, so that a `>` inside
it ends nothing.

- `State`    : where the automaton stands
- `Progress` : the state together with what has been seen so far
- `step`     : the reading of one character
- `scanLine` : the summary of a whole line
-/

namespace MarkupAssist
namespace Markup

/-- Tag and attribute names are made of ASCII letters, digits, `-` and `_`. -/
def isNameChar (c : Char) : Bool :=
  c.isAlphanum || c == '-' || c == '_'

def isQuote (c : Char) : Bool :=
  c == '"' || c == '\''

/-- A tag that no `>` has ended, with the column of its `<`. -/
structure OpenTag where
  name : String
  column : Nat
  deriving DecidableEq, Repr

inductive State
  | text
  | opened (column : Nat)
  | tagName (column : Nat) (name : String)
  | inTag
  | quoted (quote : Char)
  | closingTag
  | assigned
  | continuedValue (quote : Char)
  deriving DecidableEq, Repr

structure Progress where
  state : State
  openTag : Option OpenTag
  boundary : Bool
  deriving DecidableEq, Repr

namespace Progress

def start : Progress :=
  ⟨.text, none, false⟩

/-- Move on without anything to record. -/
def moveTo (state : State) (p : Progress) : Progress :=
  { p with state }

/-- A `>` outside a tag: a tag of an earlier line may end here. -/
def strayEnd (p : Progress) : Progress :=
  { p with state := .text, boundary := true }

def endTag (_ : Progress) : Progress :=
  ⟨.text, none, true⟩

/-- A `<` inside a tag leaves that tag behind. -/
def reopen (column : Nat) (p : Progress) : Progress :=
  { p with state := .opened column, openTag := none }

def openWith (name : String) (column : Nat) (state : State) (p : Progress) : Progress :=
  { p with state, openTag := some ⟨name, column⟩ }

end Progress

/-! ## The automaton -/

open Progress in
def step (column : Nat) (c : Char) (p : Progress) : Progress :=
  match p.state with
  | .text =>
      if c = '<' then p.moveTo (.opened column)
      else if c = '>' then p.strayEnd
      else if c = '=' then p.moveTo .assigned
      else p
  | .assigned =>
      if isQuote c then p.moveTo (.continuedValue c)
      else if c = '<' then p.moveTo (.opened column)
      else if c = '>' then p.strayEnd
      else if c = '=' || Text.isSpace c then p
      else p.moveTo .text
  | .continuedValue quote =>
      if c = quote then p.moveTo .text else p
  | .opened start =>
      if isNameChar c then p.moveTo (.tagName start (String.singleton c))
      else if c = '/' then p.moveTo .closingTag
      else if c = '<' then p.moveTo (.opened column)
      else if c = '>' then p.strayEnd
      else p.moveTo .text
  | .tagName start name =>
      if isNameChar c then p.moveTo (.tagName start (name.push c))
      else if c = '>' then p.endTag
      else if c = '<' then p.reopen column
      else if isQuote c then p.openWith name start (.quoted c)
      else p.openWith name start .inTag
  | .inTag =>
      if isQuote c then p.moveTo (.quoted c)
      else if c = '>' then p.endTag
      else if c = '<' then p.reopen column
      else p
  | .quoted quote =>
      if c = quote then p.moveTo .inTag else p
  | .closingTag =>
      if c = '>' then p.strayEnd
      else if c = '<' then p.moveTo (.opened column)
      else p

/-- Read a text whose first character stands in the given column. -/
def run (column : Nat) (p : Progress) : List Char → Progress
  | [] => p
  | c :: rest => run (column + 1) (step column c p) rest

@[simp] theorem run_nil (column : Nat) (p : Progress) : run column p [] = p := rfl

@[simp] theorem run_cons (column : Nat) (p : Progress) (c : Char) (rest : List Char) :
    run column p (c :: rest) = run (column + 1) (step column c p) rest := rfl

theorem run_append (column : Nat) (p : Progress) (front back : List Char) :
    run column p (front ++ back) = run (column + front.length) (run column p front) back := by
  induction front generalizing column p with
  | nil => simp
  | cons c front ih => simp [ih, Nat.add_comm, Nat.add_left_comm]

/-! ## Summaries -/

structure LineSummary where
  /-- The last tag of the line, if no `>` has ended it. -/
  openTag : Option OpenTag
  /-- The line ends right after a `<` or within a tag name. -/
  typingName : Bool
  /-- A `>` was read that ends a tag, of this line or of an earlier one. -/
  boundary : Bool
  /-- The line ends within `</name`. -/
  inClosingTag : Bool
  deriving DecidableEq, Repr

def Progress.summary (p : Progress) : LineSummary :=
  match p.state with
  | .opened _ => ⟨p.openTag, true, p.boundary, false⟩
  | .tagName column name => ⟨some ⟨name, column⟩, true, p.boundary, false⟩
  | .closingTag => ⟨p.openTag, false, p.boundary, true⟩
  | _ => ⟨p.openTag, false, p.boundary, false⟩

def scanLine (line : List Char) : LineSummary :=
  (run 0 .start line).summary

end Markup
end MarkupAssist
