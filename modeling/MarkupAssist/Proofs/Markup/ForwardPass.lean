import MarkupAssist.Markup.Context
import MarkupAssist.Proofs.Document.Reading
import MarkupAssist.Proofs.Markup.Automaton

/-!
# One pass over a document

The same automaton, read once from the start of the document to a position: its state goes
on from line to line, a line break is a white-space character like any other, and quotes mean
nothing outside a tag. What it knows at the position names the enclosing tag without any search.

- `ForwardPass`        : the automaton's progress and the place where a tag ended last
- `passTo`             : the pass up to a position
- `ForwardPass.lookup` : the enclosing tag, if it begins at a given place or later
- `Regular`            : the documents in which a line can be read without those above it
-/

namespace MarkupAssist
namespace Markup

structure ForwardPass where
  progress : Progress
  /-- The place of the last `>` outside a value or of the last `/` of a closing tag. -/
  lastEnd : Option Nat
  deriving DecidableEq, Repr

namespace ForwardPass

def start : ForwardPass :=
  ⟨.start, none⟩

def state (pass : ForwardPass) : State :=
  pass.progress.state

def openTag (pass : ForwardPass) : Option OpenTag :=
  pass.progress.openTag

def inValue (pass : ForwardPass) : Bool :=
  match pass.state with
  | .quoted _ => true
  | _ => false

/-! ## Reading -/

def endsTag (state : State) (c : Char) : Bool :=
  match state with
  | .quoted _ => false
  | .opened _ => c == '>' || c == '/'
  | _ => c == '>'

/-- An `=` in a text is passed over: here it is known whether a tag is open. -/
def step (pass : ForwardPass) (place : Nat) (c : Char) : ForwardPass where
  progress :=
    if pass.state = .text ∧ c = '=' then pass.progress else Markup.step place c pass.progress
  lastEnd := if endsTag pass.state c then some place else pass.lastEnd

def run (place : Nat) (pass : ForwardPass) : List Char → ForwardPass
  | [] => pass
  | c :: rest => run (place + 1) (pass.step place c) rest

@[simp] theorem run_nil (place : Nat) (pass : ForwardPass) : run place pass [] = pass := rfl

@[simp] theorem run_cons (place : Nat) (pass : ForwardPass) (c : Char) (rest : List Char) :
    run place pass (c :: rest) = run (place + 1) (pass.step place c) rest := rfl

theorem run_append (place : Nat) (pass : ForwardPass) (front back : List Char) :
    run place pass (front ++ back) = run (place + front.length) (run place pass front) back := by
  induction front generalizing place pass with
  | nil =>
      simp
  | cons c front ih =>
      simp [ih, Nat.add_comm, Nat.add_left_comm]

/-- Outside of tags nothing but angle brackets makes a difference. -/
theorem step_of_no_angle {pass : ForwardPass}
    (h : pass.state = .text ∨ pass.state = .closingTag) {c : Char} (hangle : isAngle c = false)
    (place : Nat) : pass.step place c = pass := by
  rcases ne_of_isAngle hangle with ⟨hopen, hclose⟩
  obtain ⟨⟨state, openTag, boundary⟩, lastEnd⟩ := pass
  rcases h with h | h
  · obtain rfl : state = .text := h
    by_cases heq : c = '='
    · simp [step, ForwardPass.state, endsTag, heq]
    · simp [step, ForwardPass.state, Markup.step, endsTag, hopen, hclose, heq]
  · obtain rfl : state = .closingTag := h
    simp [step, ForwardPass.state, Markup.step, endsTag, hopen, hclose]

/-! ## The answer of a pass -/

/-- The enclosing tag as far as it begins at place `first` or later. Outside of tags the pass
tells apart whether a tag has ended there. -/
def lookup (pass : ForwardPass) (first : Nat) : TagLookup :=
  match pass.state with
  | .opened _ => .typingName
  | .tagName _ _ => .typingName
  | .inTag | .quoted _ =>
      match pass.openTag with
      | some tag => if first ≤ tag.column then .found ⟨tag.name, tag.column⟩ else .exhausted
      | none => .exhausted
  | _ => if pass.lastEnd.any (first ≤ ·) then .outside else .exhausted

theorem lookup_of_openTag {pass : ForwardPass} {tag : OpenTag}
    (hstate : pass.state.inAttributes = true) (htag : pass.openTag = some tag) (first : Nat) :
    pass.lookup first = if first ≤ tag.column then .found ⟨tag.name, tag.column⟩ else .exhausted := by
  unfold lookup
  cases h : pass.state <;> simp_all [State.inAttributes]

theorem lookup_of_outside {pass : ForwardPass}
    (hstate : pass.state = .text ∨ pass.state = .closingTag) (first : Nat) :
    pass.lookup first = if pass.lastEnd.any (first ≤ ·) then .outside else .exhausted := by
  rcases hstate with h | h <;> simp [lookup, h]

/-! ## What every pass keeps -/

/-- The states in which the automaton of a line makes up for not knowing the lines above. -/
def guesses : State → Bool
  | .assigned => true
  | .continuedValue _ => true
  | _ => false

/-- No state is a guess, tags are remembered in attribute areas only, and all places lie before
`place`. -/
structure Proper (place : Nat) (pass : ForwardPass) : Prop where
  knows : guesses pass.state = false
  sound : pass.progress.Sound
  within : pass.progress.Within place
  lastEnd : ∀ e, pass.lastEnd = some e → e < place

theorem proper_start : start.Proper 0 where
  knows := rfl
  sound := Progress.sound_start
  within := Progress.within_start 0
  lastEnd := by simp [start]

theorem Proper.step {place : Nat} {pass : ForwardPass} (h : pass.Proper place) (c : Char) :
    (pass.step place c).Proper (place + 1) := by
  obtain ⟨hknows, hsound, hwithin, hlast⟩ := h
  constructor
  · -- an `=` in a text is the only way into a guess, and it is passed over
    obtain ⟨⟨state, openTag, boundary⟩, lastEnd⟩ := pass
    cases state <;> simp only [ForwardPass.step, ForwardPass.state, Markup.step] at hknows ⊢ <;>
      grind [guesses, Progress.moveTo, Progress.strayEnd, Progress.endTag, Progress.reopen,
        Progress.openWith]
  · simp only [ForwardPass.step]
    split
    · exact hsound
    · exact hsound.step place c
  · simp only [ForwardPass.step]
    split
    · exact hwithin.mono (Nat.le_succ place)
    · exact hwithin.step c
  · intro e he
    simp only [ForwardPass.step] at he
    split at he
    · cases he
      exact Nat.lt_succ_self place
    · exact Nat.lt_succ_of_lt (hlast e he)

theorem Proper.run {place : Nat} {pass : ForwardPass} (h : pass.Proper place)
    (cs : List Char) : (run place pass cs).Proper (place + cs.length) := by
  induction cs generalizing place pass with
  | nil =>
      exact h
  | cons c rest ih =>
      have hrest := ih (h.step c)
      rwa [ForwardPass.run_cons, List.length_cons, Nat.add_comm rest.length, ← Nat.add_assoc]

/-- The states in which a line can begin when no value is open. -/
def BetweenLines (pass : ForwardPass) : Prop :=
  pass.state = .text ∨ pass.state = .inTag ∨ pass.state = .closingTag

theorem Proper.betweenLines_step {place : Nat} {pass : ForwardPass} (h : pass.Proper place)
    (hvalue : pass.inValue = false) : (pass.step place '\n').BetweenLines := by
  have hquote : isQuote '\n' = false := by decide
  have hname : isNameChar '\n' = false := by decide
  have hknows := h.knows
  -- a `<` alone falls back into the text, a name goes on to its attributes
  obtain ⟨⟨state, openTag, boundary⟩, lastEnd⟩ := pass
  cases state with
  | assigned =>
      simp [guesses, ForwardPass.state] at hknows
  | continuedValue quote =>
      simp [guesses, ForwardPass.state] at hknows
  | quoted quote =>
      simp [inValue, ForwardPass.state] at hvalue
  | _ =>
      simp [BetweenLines, ForwardPass.step, ForwardPass.state, Markup.step, hquote, hname,
        Progress.moveTo, Progress.openWith]

/-- Nothing that lies before the first place looked at is reported. -/
theorem Proper.lookup_eq_exhausted {place : Nat} {pass : ForwardPass} (h : pass.Proper place)
    (hbetween : pass.BetweenLines) : pass.lookup place = .exhausted := by
  have hlast : pass.lastEnd.any (place ≤ ·) = false := by
    cases hend : pass.lastEnd with
    | none =>
        rfl
    | some e =>
        simpa using h.lastEnd e hend
  rcases hbetween with htext | htag | hclosing
  · rw [lookup_of_outside (.inl htext), hlast]
    rfl
  · have harea : pass.progress.state.inAttributes = true := by
      have hstate : pass.progress.state = .inTag := htag
      simp [hstate, State.inAttributes]
    obtain ⟨tag, hopen⟩ := h.sound.exists_openTag harea
    have hlt := h.within.openTag tag hopen
    rw [lookup_of_openTag harea hopen, if_neg (by omega)]
  · rw [lookup_of_outside (.inr hclosing), hlast]
    rfl

end ForwardPass

/-! ## Up to a position -/

def passTo (document : Document) (position : Position) : ForwardPass :=
  ForwardPass.run 0 .start (document.readUpTo position)

/-! ## Documents that can be read line by line -/

/-- An `=` and white space, if any, end the text. -/
def endsInAssign (cs : List Char) : Bool :=
  (Text.trimEnd cs).getLast? == some '='

/-- The characters after `<` for which there is a rule of their own. -/
def followsOpen (c : Char) : Bool :=
  isNameChar c || c == '/' || isAngle c

/-- A character that is read, and the one that is read after it. -/
structure Reading where
  position : Position
  char : Char
  next : Option Char
  deriving DecidableEq, Repr

def readings (line column : Nat) : List Char → List Reading
  | [] => []
  | c :: rest => ⟨⟨line, column⟩, c, rest.head?⟩ :: readings line (column + 1) rest

/-- All characters that are read on the way to a position. -/
def readingsTo (document : Document) (position : Position) : List Reading :=
  (List.range (position.line + 1)).flatMap fun n => readings n 0 (document.readOfLine position n)

structure Regular (document : Document) (position : Position) : Prop where
  /-- No value is open at a line break. -/
  values_closed : ∀ n < position.line,
    (passTo document ⟨n, (document.lineText n).length⟩).inValue = false
  /-- In a text or a closing tag no quote follows an `=`. -/
  loose_quotes : ∀ reading ∈ readingsTo document position, isQuote reading.char = true →
    (passTo document reading.position).state = .text ∨
      (passTo document reading.position).state = .closingTag →
    endsInAssign (document.textBefore reading.position) = false
  /-- Among attributes on a later line than their tag's `<`, a quote follows an `=`. -/
  value_quotes : ∀ reading ∈ readingsTo document position, isQuote reading.char = true →
    (passTo document reading.position).state = .inTag →
    ((passTo document reading.position).openTag.any fun tag =>
      tag.column < document.offsetAt ⟨reading.position.line, 0⟩) = true →
    endsInAssign (document.textBefore reading.position) = true
  /-- Outside of values, a `<` that begins nothing stands in a text. -/
  loose_opens : ∀ reading ∈ readingsTo document position, reading.char = '<' →
    (passTo document reading.position).inValue = false →
    (reading.next.all followsOpen) = false →
    (passTo document reading.position).state = .text

end Markup
end MarkupAssist
