import MarkupAssist.Catalogue.Outline
import MarkupAssist.Markup.Line

/-!
# A reader of markup

A reader goes through markup from character to character. It keeps a stack of the tags that are
open, and it fails where a tag is closed that is not the innermost one.

- `Reader.run?` : the reading of a text
- `Reads`       : a stretch of text in which so many tags stay open
- `Indented`    : a line that stands as far in as tags are open
- `ReadsLines`  : such lines, read one after the other

Stretches and lines are put together with `Reads.append` and `ReadsLines.append`. Before any line
the reader has come to a point that says how far the line is indented (`ReadsLines.exists_start`).
-/

namespace MarkupAssist
namespace Catalogue

open Markup (isNameChar)
open Outline (closeTag indentation)

/-! ## The reader -/

/-- A tag that is open, with the trees that have been read inside it. -/
structure Frame where
  name : String
  attributes : List String
  children : List Outline := []
  deriving Repr

def Frame.outline (frame : Frame) : Outline :=
  .node frame.name frame.attributes frame.children

structure Reader where
  /-- The tags that are open, the innermost one first. -/
  stack : List Frame := []
  /-- The trees that stand in no tag. -/
  trees : List Outline := []
  /-- What has been read behind a `<` until its `>` comes. -/
  pending : Option (List Char) := none
  deriving Repr

/-- The names in the text of attributes that has been cut at its quotes. Every other part is a
value; the others are names between a blank and `=`. -/
def attributeNames : List (List Char) → List String
  | assigned :: _value :: rest =>
      String.ofList (assigned.drop 1).dropLast :: attributeNames rest
  | _ => []

namespace Reader

def push (reader : Reader) (frame : Frame) : Reader :=
  { reader with stack := frame :: reader.stack }

/-- Put a tree into the innermost tag that is open. -/
def attach (reader : Reader) (outline : Outline) : Reader :=
  match reader.stack with
  | [] => { reader with trees := reader.trees ++ [outline] }
  | frame :: outer =>
      { reader with stack := { frame with children := frame.children ++ [outline] } :: outer }

/-- Only the innermost tag can be closed, and only by its own name. -/
def pop? (reader : Reader) (name : String) : Option Reader :=
  match reader.stack with
  | [] => none
  | frame :: outer =>
      if frame.name = name then
        some ({ reader with stack := outer }.attach frame.outline)
      else
        none

/-- What stands between `<` and `>` closes a tag or opens one. -/
def endTag? (reader : Reader) (content : List Char) : Option Reader :=
  match content with
  | '/' :: name => reader.pop? (String.ofList name)
  | _ =>
      let name := content.takeWhile isNameChar
      let attributes := attributeNames ((content.dropWhile isNameChar).splitOn '"')
      if name = [] then none else some (reader.push { name := String.ofList name, attributes })

def step? (reader : Reader) (c : Char) : Option Reader :=
  match reader.pending with
  | none => some (if c = '<' then { reader with pending := some [] } else reader)
  | some content =>
      if c = '>' then
        { reader with pending := none }.endTag? content
      else
        some { reader with pending := some (content ++ [c]) }

def run? (reader : Reader) (text : List Char) : Option Reader :=
  text.foldlM step? reader

theorem run?_append (reader : Reader) (front back : List Char) :
    reader.run? (front ++ back) = (reader.run? front).bind fun next => next.run? back :=
  List.foldlM_append

/-! ## Trees inside an open tag -/

@[simp] theorem length_stack_attach (reader : Reader) (outline : Outline) :
    (reader.attach outline).stack.length = reader.stack.length := by
  unfold attach
  split
  · rfl
  · next hstack =>
      simp [hstack]

@[simp] theorem pending_attach (reader : Reader) (outline : Outline) :
    (reader.attach outline).pending = reader.pending := by
  unfold attach
  split <;> rfl

theorem foldl_attach_push (reader : Reader) (frame : Frame) (outlines : List Outline) :
    outlines.foldl attach (reader.push frame) =
      reader.push { frame with children := frame.children ++ outlines } := by
  induction outlines generalizing frame with
  | nil =>
      simp
  | cons outline rest ih =>
      have hfirst : (reader.push frame).attach outline =
          reader.push { frame with children := frame.children ++ [outline] } := rfl
      rw [List.foldl_cons, hfirst, ih]
      simp

theorem pop?_push (reader : Reader) (frame : Frame) :
    (reader.push frame).pop? frame.name = some (reader.attach frame.outline) :=
  if_pos rfl

end Reader

/-! ## Stretches of text -/

/-- The reading of a text leads from one reader to another, and everywhere on the way at least so
many tags are open. -/
inductive Reads (height : Nat) : Reader → List Char → Reader → Prop
  | nil (reader : Reader) : height ≤ reader.stack.length → Reads height reader [] reader
  | cons {reader next last : Reader} {c : Char} {rest : List Char} :
      height ≤ reader.stack.length → reader.step? c = some next → Reads height next rest last →
      Reads height reader (c :: rest) last

variable {height : Nat} {reader next last : Reader}

namespace Reads

theorem append {front back : List Char} (hfront : Reads height reader front next)
    (hback : Reads height next back last) : Reads height reader (front ++ back) last := by
  induction hfront with
  | nil =>
      exact hback
  | cons hheight hstep _ ih =>
      exact .cons hheight hstep (ih hback)

theorem mono {lower : Nat} (hlower : lower ≤ height) {text : List Char}
    (h : Reads height reader text last) : Reads lower reader text last := by
  induction h with
  | nil reader hheight =>
      exact .nil reader (Nat.le_trans hlower hheight)
  | cons hheight hstep _ ih =>
      exact .cons (Nat.le_trans hlower hheight) hstep ih

/-- After any part of the text the reading has come to some point, with the tags open. -/
theorem exists_run? {front back : List Char} (h : Reads height reader (front ++ back) last) :
    ∃ here, reader.run? front = some here ∧ height ≤ here.stack.length := by
  induction front generalizing reader with
  | nil =>
      have hheight : height ≤ reader.stack.length := by
        cases h <;> assumption
      exact ⟨reader, rfl, hheight⟩
  | cons c rest ih =>
      cases h with
      | cons _ hstep hrest =>
          obtain ⟨here, hrun, hheight⟩ := ih hrest
          refine ⟨here, ?_, hheight⟩
          simpa [Reader.run?, hstep] using hrun

theorem run?_eq {text : List Char} (h : Reads height reader text last) :
    reader.run? text = some last := by
  induction h with
  | nil reader _ =>
      rfl
  | cons _ hstep _ ih =>
      simpa [Reader.run?, hstep] using ih

theorem le_length_stack {text : List Char} (h : Reads height reader text last) :
    height ≤ last.stack.length := by
  induction h with
  | nil _ hheight =>
      exact hheight
  | cons _ _ _ ih =>
      exact ih

end Reads

/-- Between tags nothing but a `<` is noticed. -/
theorem reads_between (reader : Reader) {text : List Char} (hpending : reader.pending = none)
    (htext : '<' ∉ text) : Reads reader.stack.length reader text reader := by
  induction text with
  | nil =>
      exact .nil reader (Nat.le_refl _)
  | cons c rest ih =>
      have hc : c ≠ '<' := by
        rintro rfl
        exact htext (by simp)
      have hstep : reader.step? c = some reader := by
        simp [Reader.step?, hpending, hc]
      exact .cons (Nat.le_refl _) hstep (ih fun hmem => htext (by simp [hmem]))

theorem reads_content (reader : Reader) {content text : List Char}
    (hpending : reader.pending = some content) (htext : '>' ∉ text) :
    Reads reader.stack.length reader text { reader with pending := some (content ++ text) } := by
  induction text generalizing reader content with
  | nil =>
      rw [List.append_nil, ← hpending]
      exact .nil reader (Nat.le_refl _)
  | cons c rest ih =>
      have hc : c ≠ '>' := by
        rintro rfl
        exact htext (by simp)
      have hstep : reader.step? c = some { reader with pending := some (content ++ [c]) } := by
        simp [Reader.step?, hpending, hc]
      have hrest := ih { reader with pending := some (content ++ [c]) } rfl
        (fun hmem => htext (by simp [hmem]))
      rw [List.append_assoc] at hrest
      exact .cons (Nat.le_refl _) hstep hrest

/-- A tag up to its last character. -/
theorem reads_tag_start (reader : Reader) {content : List Char}
    (hpending : reader.pending = none) (hcontent : '>' ∉ content) :
    Reads reader.stack.length reader ('<' :: content)
      { reader with pending := some content } := by
  have hstep : reader.step? '<' = some { reader with pending := some [] } := by
    simp [Reader.step?, hpending]
  exact .cons (Nat.le_refl _) hstep
    (reads_content { reader with pending := some [] } rfl hcontent)

theorem step?_tag_end (content : List Char) (hpending : reader.pending = none) :
    Reader.step? { reader with pending := some content } '>' = reader.endTag? content := by
  obtain ⟨stack, trees, pending⟩ := reader
  obtain rfl : pending = none := hpending
  rfl

theorem reads_tag {content : List Char} (hpending : reader.pending = none)
    (hcontent : '>' ∉ content) (hend : reader.endTag? content = some next)
    (hreader : height ≤ reader.stack.length) (hnext : height ≤ next.stack.length) :
    Reads height reader ('<' :: (content ++ ['>'])) next := by
  have hstart := (reads_tag_start reader hpending hcontent).mono hreader
  have hlast := (step?_tag_end content hpending).trans hend
  exact hstart.append (.cons hreader hlast (.nil next hnext))

/-! ## Lines -/

/-- The line stands as far in as tags are open, and one level less when it closes the innermost of
them and does nothing else. -/
inductive Indented : List Frame → List Char → Prop
  | opening (stack : List Frame) (rest : List Char) :
      rest.head? ≠ some '/' → Indented stack (indentation stack.length ++ '<' :: rest)
  | closing (frame : Frame) (outer : List Frame) :
      Indented (frame :: outer) (indentation outer.length ++ closeTag frame.name)

/-- Lines are read one after the other. Each one is indented by the tags that are open where it
starts, and ends between tags. -/
inductive ReadsLines (height : Nat) : Reader → List (List Char) → Reader → Prop
  | nil (reader : Reader) : ReadsLines height reader [] reader
  | cons {reader next last : Reader} {line : List Char} {rest : List (List Char)} :
      Indented reader.stack line → '\n' ∉ line → Reads height reader line next →
      next.pending = none → ReadsLines height next rest last →
      ReadsLines height reader (line :: rest) last

namespace ReadsLines

variable {lines : List (List Char)}

theorem append {front back : List (List Char)} (hfront : ReadsLines height reader front next)
    (hback : ReadsLines height next back last) :
    ReadsLines height reader (front ++ back) last := by
  induction hfront with
  | nil =>
      exact hback
  | cons hindented hbreak hline hpending _ ih =>
      exact .cons hindented hbreak hline hpending (ih hback)

theorem mono {lower : Nat} (hlower : lower ≤ height) (h : ReadsLines height reader lines last) :
    ReadsLines lower reader lines last := by
  induction h with
  | nil reader =>
      exact .nil reader
  | cons hindented hbreak hline hpending _ ih =>
      exact .cons hindented hbreak (hline.mono hlower) hpending ih

theorem break_not_mem (h : ReadsLines height reader lines last) :
    ∀ line ∈ lines, '\n' ∉ line := by
  induction h with
  | nil =>
      simp
  | cons _ hbreak _ _ _ ih =>
      simpa [hbreak] using ih

theorem reads_line_break (hpending : reader.pending = none) {line : List Char}
    (h : Reads height next line reader) : Reads height next (line ++ ['\n']) reader := by
  have hbreak : Reads reader.stack.length reader ['\n'] reader :=
    reads_between reader hpending (by decide)
  exact h.append (hbreak.mono h.le_length_stack)

theorem reads_breaks (h : ReadsLines height reader lines last)
    (hheight : height ≤ reader.stack.length) :
    Reads height reader (lines.flatMap (· ++ ['\n'])) last := by
  induction h with
  | nil reader =>
      exact .nil reader hheight
  | cons _ _ hline hpending _ ih =>
      have hhere := reads_line_break hpending hline
      exact hhere.append (ih hline.le_length_stack)

/-- Where a line starts, the lines above have been read and it is indented by what is open. -/
theorem exists_start {above below : List (List Char)} {line : List Char}
    (h : ReadsLines height reader (above ++ line :: below) last)
    (hpending : reader.pending = none) :
    ∃ here, reader.run? (above.flatMap (· ++ ['\n'])) = some here ∧ here.pending = none ∧
      Indented here.stack line := by
  induction above generalizing reader with
  | nil =>
      cases h with
      | cons hindented =>
          exact ⟨reader, rfl, hpending, hindented⟩
  | cons first rest ih =>
      cases h with
      | cons _ _ hline hnext hrest =>
          obtain ⟨here, hrun, hbetween, hindented⟩ := ih hrest hnext
          have hfirst := (reads_line_break hnext hline).run?_eq
          refine ⟨here, ?_, hbetween, hindented⟩
          rw [List.flatMap_cons, Reader.run?_append, hfirst]
          exact hrun

end ReadsLines

theorem readsLines_singleton {line : List Char} (hindented : Indented reader.stack line)
    (hbreak : '\n' ∉ line) (hline : Reads height reader line next)
    (hpending : next.pending = none) : ReadsLines height reader [line] next :=
  .cons hindented hbreak hline hpending (.nil next)

end Catalogue
end MarkupAssist
