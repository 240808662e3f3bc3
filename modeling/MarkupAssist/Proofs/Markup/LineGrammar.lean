import MarkupAssist.Proofs.Markup.ReportedTag
import MarkupAssist.Proofs.Markup.TagStart

/-!
# The grammar of a line

What a line leaves open can be read off its text from the last `<` on that no value holds. Of the
text before that `<` nothing is left but the values, which decide where it is.

- `State.isLive`          : the automaton is not within a value
- `LiveAt`, `LastLive`    : a character that is read there, and the last `<` of that kind
- `TagRest`               : what may follow the name of a tag that is still open
- `LineSummary.Describes` : a summary says of a text that begins with `<` what it is: the beginning
  of a tag, of a closing tag, or a tag with attributes

The automaton is followed from that `<` on. No other `<` moves it then (`Quiet`), so every state
is left for good by one kind of text, and the states are taken in the order in which they are
reached: text, closing tags, attributes, names.
-/

namespace MarkupAssist
namespace Markup

/-! ## Live characters -/

def State.isLive : State → Bool
  | .quoted _ => false
  | .continuedValue _ => false
  | _ => true

/-- The character stands in this column, and it is read outside of values. -/
def LiveAt (text : List Char) (column : Nat) (c : Char) : Prop :=
  text[column]? = some c ∧ (run 0 .start (text.take column)).state.isLive = true

structure LastLive (line : List Char) (c : Char) (column : Nat) : Prop where
  live : LiveAt line column c
  last : ∀ other, LiveAt line other c → other ≤ column

theorem liveAt_append {front : List Char} {c : Char} {back : List Char} :
    LiveAt (front ++ c :: back) front.length c ↔
      (run 0 .start front).state.isLive = true := by
  simp [LiveAt]

theorem LiveAt.exists_split {line : List Char} {column : Nat} {c : Char}
    (h : LiveAt line column c) :
    ∃ front back, line = front ++ c :: back ∧ front.length = column ∧
      (run 0 .start front).state.isLive = true := by
  obtain ⟨hchar, hlive⟩ := h
  obtain ⟨hlt, hget⟩ := List.getElem?_eq_some_iff.1 hchar
  refine ⟨line.take column, line.drop (column + 1), ?_, ?_, hlive⟩
  · calc
      line = line.take column ++ line.drop column := (List.take_append_drop column line).symm
      _ = line.take column ++ c :: line.drop (column + 1) := by
        rw [List.drop_eq_getElem_cons hlt, hget]
  · simp [Nat.le_of_lt hlt]

/-! ## Boundaries -/

theorem boundary_step (column : Nat) (c : Char) (p : Progress) :
    (step column c p).boundary = true ↔ p.boundary = true ∨ c = '>' ∧ p.state.isLive = true := by
  have hclose : isNameChar '>' = false ∧ isQuote '>' = false := by decide
  -- outside of values every state takes `>` for the end of a tag, and nothing else for one
  obtain ⟨state, openTag, boundary⟩ := p
  cases state <;> simp only [step, State.isLive] <;>
    grind [Progress.moveTo, Progress.strayEnd, Progress.endTag, Progress.reopen, Progress.openWith]

theorem boundary_run_iff (cs : List Char) :
    (run 0 .start cs).boundary = true ↔
      ∃ front back, cs = front ++ '>' :: back ∧ (run 0 .start front).state.isLive = true := by
  induction cs using List.reverseRecOn with
  | nil =>
      simp [Progress.start]
  | append_singleton cs c ih =>
      rw [run_append, run_cons, run_nil, boundary_step, ih]
      constructor
      · rintro (⟨front, back, rfl, hlive⟩ | ⟨rfl, hlive⟩)
        · exact ⟨front, back ++ [c], by simp, hlive⟩
        · exact ⟨cs, [], rfl, hlive⟩
      · rintro ⟨front, back, hsplit, hlive⟩
        -- the `>` is the last character or stands before it
        rcases List.eq_nil_or_concat back with rfl | ⟨earlier, last, rfl⟩
        · obtain ⟨rfl, hc⟩ := List.append_inj' hsplit rfl
          exact .inr ⟨(List.cons.inj hc).1, hlive⟩
        · have hshape : cs ++ [c] = (front ++ '>' :: earlier) ++ [last] := by
            simpa using hsplit
          exact .inl ⟨front, earlier, (List.append_inj' hshape rfl).1, hlive⟩

theorem boundary_summary (p : Progress) : p.summary.boundary = p.boundary := by
  obtain ⟨state, openTag, boundary⟩ := p
  cases state <;> rfl

theorem boundary_scanLine_iff (line : List Char) :
    (scanLine line).boundary = true ↔ ∃ column, LiveAt line column '>' := by
  rw [scanLine, boundary_summary, boundary_run_iff]
  constructor
  · rintro ⟨front, back, rfl, hlive⟩
    exact ⟨front.length, liveAt_append.2 hlive⟩
  · rintro ⟨column, hlive⟩
    obtain ⟨front, back, rfl, _, hfront⟩ := hlive.exists_split
    exact ⟨front, back, rfl, hfront⟩

/-! ## What follows a tag name -/

/-- Characters other than angle brackets and quotes, and quoted strings, of which the last one
may be unfinished. -/
inductive TagRest : List Char → Prop
  | nil : TagRest []
  | char {c : Char} {rest : List Char} :
      isAngle c = false → isQuote c = false → TagRest rest → TagRest (c :: rest)
  | quoted {quote : Char} {value rest : List Char} :
      isQuote quote = true → quote ∉ value → TagRest rest →
      TagRest (quote :: (value ++ quote :: rest))
  | unfinished {quote : Char} {value : List Char} :
      isQuote quote = true → quote ∉ value → TagRest (quote :: value)

theorem not_tagRest_angle {c : Char} (hangle : isAngle c = true) (rest : List Char) :
    ¬ TagRest (c :: rest) := by
  have hquote : isQuote c = true → False := by
    intro hquote
    simp [isAngle_of_isQuote hquote] at hangle
  intro h
  cases h with
  | char hno _ _ =>
      simp [hno] at hangle
  | quoted hkind _ _ =>
      exact hquote hkind
  | unfinished hkind _ =>
      exact hquote hkind

theorem tagRest_char {c : Char} (hangle : isAngle c = false) (hquote : isQuote c = false)
    (rest : List Char) : TagRest (c :: rest) ↔ TagRest rest := by
  constructor
  · intro h
    cases h with
    | char _ _ hrest =>
        exact hrest
    | quoted hkind _ _ =>
        simp [hkind] at hquote
    | unfinished hkind _ =>
        simp [hkind] at hquote
  · intro h
    exact .char hangle hquote h

theorem tagRest_quote_iff {quote : Char} (hquote : isQuote quote = true) (cs : List Char) :
    TagRest (quote :: cs) ↔
      quote ∉ cs ∨ ∃ value rest, cs = value ++ quote :: rest ∧ quote ∉ value ∧ TagRest rest := by
  constructor
  · intro h
    cases h with
    | char _ hno _ =>
        simp [hno] at hquote
    | quoted _ hvalue hrest =>
        exact .inr ⟨_, _, rfl, hvalue, hrest⟩
    | unfinished _ hvalue =>
        exact .inl hvalue
  · rintro (hvalue | ⟨value, rest, rfl, hvalue, hrest⟩)
    · exact .unfinished hquote hvalue
    · exact .quoted hquote hvalue hrest

/-- The quote that ends a string is the first of its kind. -/
theorem tagRest_finished {quote : Char} (hquote : isQuote quote = true) (rest : List Char) :
    TagRest (quote :: quote :: rest) ↔ TagRest rest := by
  rw [tagRest_quote_iff hquote]
  constructor
  · rintro (hnone | ⟨value, others, hsplit, hvalue, hrest⟩)
    · simp at hnone
    · cases value with
      | nil =>
          exact (List.cons.inj hsplit).2 ▸ hrest
      | cons first value =>
          exact absurd (by simp [(List.cons.inj hsplit).1]) hvalue
  · intro h
    exact .inr ⟨[], rest, rfl, by simp, h⟩

theorem tagRest_within {quote c : Char} (hquote : isQuote quote = true) (hc : c ≠ quote)
    (rest : List Char) : TagRest (quote :: c :: rest) ↔ TagRest (quote :: rest) := by
  rw [tagRest_quote_iff hquote, tagRest_quote_iff hquote]
  constructor
  · rintro (hnone | ⟨value, others, hsplit, hvalue, hrest⟩)
    · exact .inl fun hmem => hnone (by simp [hmem])
    · cases value with
      | nil =>
          exact absurd (List.cons.inj hsplit).1 hc
      | cons first value =>
          exact .inr ⟨value, others, (List.cons.inj hsplit).2,
            fun hmem => hvalue (by simp [hmem]), hrest⟩
  · rintro (hnone | ⟨value, others, rfl, hvalue, hrest⟩)
    · exact .inl (by simp [hc.symm, hnone])
    · exact .inr ⟨c :: value, others, rfl, by simp [hc.symm, hvalue], hrest⟩

/-! ## Without another `<` -/

/-- Reading the text from here, no `<` is met outside of values. -/
def Quiet (column : Nat) (p : Progress) (cs : List Char) : Prop :=
  ∀ front back, cs = front ++ '<' :: back → (run column p front).state.isLive = false

theorem Quiet.first {column : Nat} {p : Progress} {c : Char} {rest : List Char}
    (h : Quiet column p (c :: rest)) (hlive : p.state.isLive = true) : c ≠ '<' := by
  rintro rfl
  have hvalue := h [] rest rfl
  rw [run_nil, hlive] at hvalue
  exact absurd hvalue (by decide)

theorem Quiet.rest {column : Nat} {p : Progress} {c : Char} {rest : List Char}
    (h : Quiet column p (c :: rest)) : Quiet (column + 1) (step column c p) rest := by
  intro front back hsplit
  exact h (c :: front) back (by rw [hsplit, List.cons_append])

/-- The states outside of tags, values among them. -/
def State.isOutside : State → Bool
  | .text => true
  | .assigned => true
  | .continuedValue _ => true
  | _ => false

/-- Nothing is open. -/
structure LineSummary.Closed (summary : LineSummary) : Prop where
  openTag : summary.openTag = none
  typingName : summary.typingName = false
  inClosingTag : summary.inClosingTag = false

theorem isOutside_step {column : Nat} {p : Progress} {c : Char} (h : p.state.isOutside = true)
    (hc : p.state.isLive = true → c ≠ '<') :
    (step column c p).state.isOutside = true ∧ (step column c p).openTag = p.openTag := by
  obtain ⟨state, openTag, boundary⟩ := p
  cases state <;> simp only [step, State.isOutside, State.isLive] at h hc ⊢ <;>
    grind [State.isOutside, Progress.moveTo, Progress.strayEnd]

/-- Outside of tags nothing but a `<` opens anything. -/
theorem closed_of_isOutside {column : Nat} {p : Progress} {cs : List Char}
    (h : p.state.isOutside = true) (hnone : p.openTag = none) (hquiet : Quiet column p cs) :
    (run column p cs).summary.Closed := by
  induction cs generalizing column p with
  | nil =>
      obtain ⟨state, openTag, boundary⟩ := p
      obtain rfl : openTag = none := hnone
      cases state <;> first | exact ⟨rfl, rfl, rfl⟩ | simp [State.isOutside] at h
  | cons c rest ih =>
      have hstep : (step column c p).state.isOutside = true ∧
          (step column c p).openTag = p.openTag := isOutside_step h hquiet.first
      exact ih hstep.1 (hstep.2.trans hnone) hquiet.rest

/-- A closing tag goes on to its `>`. -/
theorem inClosingTag_of_closingTag {column : Nat} {p : Progress} {cs : List Char}
    (h : p.state = .closingTag) (hnone : p.openTag = none) (hquiet : Quiet column p cs) :
    (run column p cs).summary.openTag = none ∧ (run column p cs).summary.typingName = false ∧
      ((run column p cs).summary.inClosingTag = true ↔ '>' ∉ cs) := by
  induction cs generalizing column p with
  | nil =>
      simp [Progress.summary, h, hnone]
  | cons c rest ih =>
      have hopen : c ≠ '<' := hquiet.first (by simp [h, State.isLive])
      by_cases hc : c = '>'
      · have hstep : step column c p = p.strayEnd := by
          simp [step, h, hc]
        have hclosed : (run (column + 1) p.strayEnd rest).summary.Closed :=
          closed_of_isOutside rfl hnone (hstep ▸ hquiet.rest)
        rw [run_cons, hstep]
        exact ⟨hclosed.openTag, hclosed.typingName, by simp [hclosed.inClosingTag, hc]⟩
      · have hstep : step column c p = p := by
          simp [step, h, hc, hopen]
        have hrest := ih h hnone (hstep ▸ hquiet.rest)
        rw [run_cons, hstep]
        exact ⟨hrest.1, hrest.2.1, by simp [hrest.2.2, Ne.symm hc]⟩

/-! ## Attributes -/

/-- The states between the name of a tag and its end. -/
inductive State.WithinTag : State → Prop
  | inTag : WithinTag .inTag
  | quoted {quote : Char} : isQuote quote = true → WithinTag (.quoted quote)

/-- The state in which a character behind a tag name leaves the automaton. -/
def State.entering (c : Char) : State :=
  if isQuote c then .quoted c else .inTag

/-- The text that follows leaves the tag open in whose attributes the automaton stands. -/
def State.LeavesOpen : State → List Char → Prop
  | .inTag, cs => TagRest cs
  | .quoted quote, cs => TagRest (quote :: cs)
  | _, _ => False

theorem withinTag_entering (c : Char) : (State.entering c).WithinTag := by
  unfold State.entering
  split
  · next hquote => exact .quoted hquote
  · exact .inTag

theorem leavesOpen_entering {c : Char} (hangle : isAngle c = false) (rest : List Char) :
    (State.entering c).LeavesOpen rest ↔ TagRest (c :: rest) := by
  unfold State.entering
  split
  · rfl
  · next hquote =>
      exact (tagRest_char hangle (Bool.eq_false_iff.2 hquote) rest).symm

theorem step_inTag {p : Progress} (h : p.state = .inTag) {c : Char} (hangle : isAngle c = false)
    (column : Nat) : step column c p = p.moveTo (State.entering c) := by
  obtain ⟨hopen, hclose⟩ := ne_of_isAngle hangle
  obtain ⟨state, openTag, boundary⟩ := p
  obtain rfl : state = .inTag := h
  cases hquote : isQuote c <;>
    simp [step, hquote, hopen, hclose, State.entering, Progress.moveTo]

theorem step_quoted {p : Progress} {quote : Char} (h : p.state = .quoted quote) (c : Char)
    (column : Nat) :
    step column c p = p.moveTo (if c = quote then .inTag else .quoted quote) := by
  obtain ⟨state, openTag, boundary⟩ := p
  obtain rfl : state = .quoted quote := h
  by_cases hc : c = quote <;> simp [step, hc, Progress.moveTo]

/-- A character that does not end the tag stays in its attributes, and what follows decides on the
tag as before. -/
theorem leavesOpen_step (column : Nat) {p : Progress} {c : Char} (h : p.state.WithinTag)
    (hangle : p.state = .inTag → isAngle c = false) (rest : List Char) :
    (step column c p).state.WithinTag ∧ (step column c p).openTag = p.openTag ∧
      ((step column c p).state.LeavesOpen rest ↔ p.state.LeavesOpen (c :: rest)) := by
  generalize hstate : p.state = state at h hangle
  cases h with
  | inTag =>
      rw [step_inTag hstate (hangle rfl)]
      exact ⟨withinTag_entering c, rfl, leavesOpen_entering (hangle rfl) rest⟩
  | quoted hquote =>
      rw [step_quoted hstate]
      split
      · next hc =>
          exact ⟨.inTag, rfl, hc ▸ (tagRest_finished hquote rest).symm⟩
      · next hc =>
          exact ⟨.quoted hquote, rfl, (tagRest_within hquote hc rest).symm⟩

/-- Within the attributes of a tag the text decides whether it stays open. -/
theorem openTag_of_attributes {column : Nat} {p : Progress} {tag : OpenTag} {cs : List Char}
    (h : p.state.WithinTag) (htag : p.openTag = some tag) (hquiet : Quiet column p cs) :
    (∀ other, (run column p cs).summary.openTag = some other ↔
        other = tag ∧ p.state.LeavesOpen cs) ∧
      (run column p cs).summary.typingName = false ∧
      (run column p cs).summary.inClosingTag = false := by
  induction cs generalizing column p with
  | nil =>
      generalize hstate : p.state = state at h
      cases h with
      | inTag =>
          simp [Progress.summary, hstate, htag, State.LeavesOpen, TagRest.nil, eq_comm]
      | @quoted quote hquote =>
          have hrest : TagRest [quote] := .unfinished hquote (by simp)
          simp [Progress.summary, hstate, htag, State.LeavesOpen, hrest, eq_comm]
  | cons c rest ih =>
      rw [run_cons]
      by_cases hend : p.state = .inTag ∧ c = '>'
      · obtain ⟨hstate, rfl⟩ := hend
        have hstep : step column '>' p = p.endTag := by
          have hquote : isQuote '>' = false := by decide
          simp [step, hstate, hquote]
        have hclosed : (run (column + 1) p.endTag rest).summary.Closed :=
          closed_of_isOutside rfl rfl (hstep ▸ hquiet.rest)
        have hnot : ¬ TagRest ('>' :: rest) := not_tagRest_angle rfl rest
        rw [hstep, hstate]
        refine ⟨?_, hclosed.typingName, hclosed.inClosingTag⟩
        intro other
        simp [hclosed.openTag, State.LeavesOpen, hnot]
      · have hangle : p.state = .inTag → isAngle c = false := by
          intro hstate
          have hopen : c ≠ '<' := hquiet.first (by simp [hstate, State.isLive])
          have hclose : c ≠ '>' := fun hc => hend ⟨hstate, hc⟩
          simp [isAngle, hopen, hclose]
        obtain ⟨hwithin, hsame, hleaves⟩ := leavesOpen_step column h hangle rest
        obtain ⟨hrest, htyping, hclosing⟩ := ih hwithin (hsame.trans htag) hquiet.rest
        exact ⟨fun other => (hrest other).trans (and_congr_right fun _ => hleaves),
          htyping, hclosing⟩

/-! ## Names -/

/-- No character of a name comes next. -/
def EndsName (cs : List Char) : Prop :=
  ∀ c ∈ cs.head?, isNameChar c = false

/-- The text is a tag that is still open: a name, which goes as far as it can, and what may follow
it. -/
structure OpensTag (name : String) (text : List Char) : Prop where
  isName : IsName name
  exists_rest : ∃ rest, text = '<' :: (name.toList ++ rest) ∧ EndsName rest ∧ TagRest rest

/-- What the summary of a line says when its last `<` outside of values stands in this column and
begins this text. -/
structure LineSummary.Describes (summary : LineSummary) (column : Nat) (text : List Char) :
    Prop where
  typingName : summary.typingName = true ↔
    ∃ letters, text = '<' :: letters ∧ ∀ c ∈ letters, isNameChar c = true
  inClosingTag : summary.inClosingTag = true ↔
    (∃ rest, text = '<' :: '/' :: rest) ∧ '>' ∉ text
  openTag : ∀ tag, summary.openTag = some tag ↔ tag.column = column ∧ OpensTag tag.name text

theorem takeWhile_of_endsName {name rest : List Char} (hname : ∀ c ∈ name, isNameChar c = true)
    (hrest : EndsName rest) : (name ++ rest).takeWhile isNameChar = name := by
  rw [List.takeWhile_append_of_pos hname]
  cases rest with
  | nil =>
      simp
  | cons c others =>
      have hc : isNameChar c = false := hrest c (by simp)
      simp [hc]

/-- A text says where its name ends. -/
theorem opensTag_iff {name own : String} {rest : List Char} (hname : IsName name)
    (hends : EndsName rest) :
    OpensTag own ('<' :: (name.toList ++ rest)) ↔ own = name ∧ TagRest rest := by
  constructor
  · rintro ⟨hown, others, htext, hothers, htail⟩
    have hsame : name.toList ++ rest = own.toList ++ others := (List.cons.inj htext).2
    have hletters : own.toList = name.toList := by
      calc
        own.toList = (own.toList ++ others).takeWhile isNameChar :=
          (takeWhile_of_endsName hown.2 hothers).symm
        _ = (name.toList ++ rest).takeWhile isNameChar := by rw [hsame]
        _ = name.toList := takeWhile_of_endsName hname.2 hends
    have hrest : rest = others := by
      rw [hletters] at hsame
      exact List.append_cancel_left hsame
    exact ⟨String.toList_inj.1 hletters, hrest ▸ htail⟩
  · rintro ⟨rfl, htail⟩
    exact ⟨hname, rest, rfl, hends, htail⟩

theorem IsName.exists_cons {name : String} (h : IsName name) :
    ∃ c rest, name.toList = c :: rest ∧ isNameChar c = true ∧ ∀ d ∈ rest, isNameChar d = true := by
  obtain ⟨c, rest, hcs⟩ := List.exists_cons_of_ne_nil h.1
  refine ⟨c, rest, hcs, h.2 c (by simp [hcs]), ?_⟩
  intro d hd
  exact h.2 d (by simp [hcs, hd])

/-- Behind a name that has ended, only an open tag is left to be told. -/
theorem describes_of_ended {summary : LineSummary} {column : Nat} {name : String} {c : Char}
    {rest : List Char} (hname : IsName name) (hc : isNameChar c = false)
    (htag : ∀ tag, summary.openTag = some tag ↔ tag = ⟨name, column⟩ ∧ TagRest (c :: rest))
    (htyping : summary.typingName = false) (hclosing : summary.inClosingTag = false) :
    summary.Describes column ('<' :: (name.toList ++ c :: rest)) where
  typingName := by
    refine iff_of_false (by simp [htyping]) ?_
    rintro ⟨letters, htext, hletters⟩
    have hmem : c ∈ letters := by
      simp [← (List.cons.inj htext).2]
    simp [hletters c hmem] at hc
  inClosingTag := by
    refine iff_of_false (by simp [hclosing]) ?_
    rintro ⟨⟨others, htext⟩, _⟩
    obtain ⟨first, letters, hletters, hfirst, _⟩ := hname.exists_cons
    rw [hletters, List.cons_append] at htext
    obtain rfl : first = '/' := (List.cons.inj (List.cons.inj htext).2).1
    exact absurd hfirst (by decide)
  openTag := by
    have hends : EndsName (c :: rest) := by
      intro d hd
      obtain rfl : c = d := by simpa using hd
      exact hc
    rintro ⟨own, place⟩
    rw [htag, opensTag_iff hname hends]
    constructor
    · rintro ⟨hsame, htail⟩
      cases hsame
      exact ⟨rfl, rfl, htail⟩
    · rintro ⟨rfl, rfl, htail⟩
      exact ⟨rfl, htail⟩

/-- A name that goes to the end of the line. -/
theorem describes_of_name (boundary : Bool) (column : Nat) {name : String} (hname : IsName name) :
    LineSummary.Describes ⟨some ⟨name, column⟩, true, boundary, false⟩ column
      ('<' :: name.toList) where
  typingName := iff_of_true rfl ⟨name.toList, rfl, hname.2⟩
  inClosingTag := by
    refine iff_of_false (by simp) ?_
    rintro ⟨⟨others, htext⟩, _⟩
    exact hname.slash_not_mem (by simp [(List.cons.inj htext).2])
  openTag := by
    have hends : EndsName [] := by
      simp [EndsName]
    rintro ⟨own, place⟩
    have hopens : OpensTag own ('<' :: name.toList) ↔ own = name := by
      have hsplit : OpensTag own ('<' :: (name.toList ++ [])) ↔ own = name ∧ TagRest [] :=
        opensTag_iff hname hends
      simpa [TagRest.nil] using hsplit
    simp only [hopens, Option.some.injEq, OpenTag.mk.injEq, eq_comm, and_comm]

theorem describes_of_tagName {column start : Nat} {p : Progress} {name : String} {cs : List Char}
    (h : p.state = .tagName start name) (hname : IsName name) (hnone : p.openTag = none)
    (hquiet : Quiet column p cs) :
    (run column p cs).summary.Describes start ('<' :: (name.toList ++ cs)) := by
  induction cs generalizing column p name with
  | nil =>
      have hsummary : p.summary = ⟨some ⟨name, start⟩, true, p.boundary, false⟩ := by
        simp [Progress.summary, h]
      rw [run_nil, hsummary, List.append_nil]
      exact describes_of_name p.boundary start hname
  | cons c rest ih =>
      have hopen : c ≠ '<' := hquiet.first (by simp [h, State.isLive])
      rw [run_cons]
      cases hc : isNameChar c with
      | true =>
          -- the name goes on
          have hstep : step column c p = p.moveTo (.tagName start (name.push c)) := by
            simp [step, h, hc]
          have hrest := ih (p := p.moveTo (.tagName start (name.push c))) rfl (hname.push hc) hnone
            (hstep ▸ hquiet.rest)
          rw [hstep]
          simpa using hrest
      | false =>
          by_cases hclose : c = '>'
          · obtain rfl := hclose
            have hstep : step column '>' p = p.endTag := by
              simp [step, h, hc]
            have hclosed : (run (column + 1) p.endTag rest).summary.Closed :=
              closed_of_isOutside rfl rfl (hstep ▸ hquiet.rest)
            have hnot : ¬ TagRest ('>' :: rest) := not_tagRest_angle rfl rest
            rw [hstep]
            refine describes_of_ended hname hc ?_ hclosed.typingName hclosed.inClosingTag
            intro tag
            simp [hclosed.openTag, hnot]
          · have hangle : isAngle c = false := by
              simp [isAngle, hclose, hopen]
            have hstep : step column c p = p.openWith name start (State.entering c) := by
              cases hquote : isQuote c <;>
                simp [step, h, hc, hclose, hopen, hquote, State.entering]
            obtain ⟨htag, htyping, hclosing⟩ := openTag_of_attributes
              (p := p.openWith name start (State.entering c)) (withinTag_entering c) rfl
              (hstep ▸ hquiet.rest)
            rw [hstep]
            refine describes_of_ended hname hc ?_ htyping hclosing
            intro tag
            exact (htag tag).trans (and_congr_right fun _ => leavesOpen_entering hangle rest)

/-! ## From the last `<` on -/

/-- A `<` that neither a name nor a slash follows opens nothing. -/
theorem describes_of_closed {summary : LineSummary} {column : Nat} {c : Char} {rest : List Char}
    (hclosed : summary.Closed) (hname : isNameChar c = false) (hslash : c ≠ '/') :
    summary.Describes column ('<' :: c :: rest) where
  typingName := by
    refine iff_of_false (by simp [hclosed.typingName]) ?_
    rintro ⟨letters, htext, hletters⟩
    simp [hletters c (by simp [← (List.cons.inj htext).2])] at hname
  inClosingTag := by
    refine iff_of_false (by simp [hclosed.inClosingTag]) ?_
    rintro ⟨⟨others, htext⟩, _⟩
    exact hslash (List.cons.inj (List.cons.inj htext).2).1
  openTag := by
    intro tag
    refine iff_of_false (by simp [hclosed.openTag]) ?_
    rintro ⟨_, hown, others, htext, _⟩
    obtain ⟨first, letters, hletters, hfirst, _⟩ := hown.exists_cons
    rw [hletters, List.cons_append] at htext
    rw [(List.cons.inj (List.cons.inj htext).2).1, hfirst] at hname
    exact absurd hname (by decide)

/-- A closing tag is told by its `>`. -/
theorem describes_of_slash {summary : LineSummary} {column : Nat} {rest : List Char}
    (htag : summary.openTag = none) (htyping : summary.typingName = false)
    (hclosing : summary.inClosingTag = true ↔ '>' ∉ rest) :
    summary.Describes column ('<' :: '/' :: rest) where
  typingName := by
    refine iff_of_false (by simp [htyping]) ?_
    rintro ⟨letters, htext, hletters⟩
    have hslash : isNameChar '/' = true := hletters '/' (by simp [← (List.cons.inj htext).2])
    exact absurd hslash (by decide)
  inClosingTag := by
    rw [hclosing]
    simp
  openTag := by
    intro tag
    refine iff_of_false (by simp [htag]) ?_
    rintro ⟨_, hown, others, htext, _⟩
    obtain ⟨first, letters, hletters, hfirst, _⟩ := hown.exists_cons
    rw [hletters, List.cons_append] at htext
    rw [← (List.cons.inj (List.cons.inj htext).2).1] at hfirst
    exact absurd hfirst (by decide)

theorem describes_of_opened {column start : Nat} {p : Progress} {cs : List Char}
    (h : p.state = .opened start) (hnone : p.openTag = none) (hquiet : Quiet column p cs) :
    (run column p cs).summary.Describes start ('<' :: cs) := by
  cases cs with
  | nil =>
      have hsummary : p.summary = ⟨none, true, p.boundary, false⟩ := by
        simp [Progress.summary, h, hnone]
      rw [run_nil, hsummary]
      refine ⟨iff_of_true rfl ⟨[], rfl, by simp⟩, by simp, ?_⟩
      intro tag
      refine iff_of_false (by simp) ?_
      rintro ⟨_, hown, others, htext, _⟩
      exact hown.1 (List.append_eq_nil_iff.1 (List.cons.inj htext).2.symm).1
  | cons c rest =>
      have hopen : c ≠ '<' := hquiet.first (by simp [h, State.isLive])
      rw [run_cons]
      cases hc : isNameChar c with
      | true =>
          have hstep : step column c p = p.moveTo (.tagName start (String.singleton c)) := by
            simp [step, h, hc]
          have hrest := describes_of_tagName (p := p.moveTo (.tagName start (String.singleton c)))
            rfl (.singleton hc) hnone (hstep ▸ hquiet.rest)
          rw [hstep]
          simpa using hrest
      | false =>
          by_cases hslash : c = '/'
          · obtain rfl := hslash
            have hstep : step column '/' p = p.moveTo .closingTag := by
              simp [step, h, hc]
            obtain ⟨htag, htyping, hclosing⟩ := inClosingTag_of_closingTag
              (p := p.moveTo .closingTag) rfl hnone (hstep ▸ hquiet.rest)
            rw [hstep]
            exact describes_of_slash htag htyping hclosing
          · -- `<!--`, `< ` and `<>` are not tags
            have houtside : (step column c p).state.isOutside = true ∧
                (step column c p).openTag = none := by
              simp only [step, h, hc, hslash, hopen, Bool.false_eq_true, if_false]
              split <;> exact ⟨rfl, hnone⟩
            exact describes_of_closed
              (closed_of_isOutside houtside.1 houtside.2 hquiet.rest) hc hslash

/-! ## Whole lines -/

/-- A `<` outside of values leaves every other tag behind. -/
theorem step_open_of_isLive {p : Progress} (hsound : p.Sound) (hlive : p.state.isLive = true)
    (column : Nat) :
    (step column '<' p).state = .opened column ∧ (step column '<' p).openTag = none := by
  have hopen : isNameChar '<' = false ∧ isQuote '<' = false := by decide
  obtain ⟨state, openTag, boundary⟩ := p
  cases state <;>
    simp_all [step, State.isLive, Progress.Sound, State.inAttributes, Progress.moveTo,
      Progress.reopen]

theorem quiet_of_none {line : List Char} (h : ¬ ∃ column, LiveAt line column '<') :
    Quiet 0 .start line := by
  rintro front back rfl
  exact Bool.eq_false_iff.2 fun hlive => h ⟨front.length, liveAt_append.2 hlive⟩

theorem LastLive.describes {line : List Char} {column : Nat} (h : LastLive line '<' column) :
    (scanLine line).Describes column (line.drop column) := by
  obtain ⟨front, back, rfl, rfl, hlive⟩ := h.live.exists_split
  obtain ⟨hstate, hnone⟩ := step_open_of_isLive (sound_run_start front) hlive (0 + front.length)
  -- another `<` outside of values would stand further right
  have hquiet : Quiet (0 + front.length + 1)
      (step (0 + front.length) '<' (run 0 .start front)) back := by
    rintro between after rfl
    refine Bool.eq_false_iff.2 ?_
    intro hagain
    have hshape : front ++ '<' :: (between ++ '<' :: after) =
        (front ++ '<' :: between) ++ '<' :: after := by
      simp
    have hrun : (run 0 .start (front ++ '<' :: between)).state.isLive = true := by
      rw [run_append, run_cons]
      exact hagain
    have hle := h.last _ (hshape ▸ liveAt_append.2 hrun)
    rw [List.length_append, List.length_cons] at hle
    omega
  have hdescribes := describes_of_opened hstate hnone hquiet
  rw [scanLine, run_append, run_cons]
  simpa using hdescribes

theorem not_open_and_closing (line : List Char) :
    (scanLine line).openTag = none ∨ (scanLine line).inClosingTag = false := by
  rw [scanLine]
  have hsound := sound_run_start line
  cases hstate : (run 0 .start line).state with
  | closingTag =>
      have hnone := hsound.openTag_eq_none (by simp [hstate, State.inAttributes])
      exact .inl (by simp [Progress.summary, hstate, hnone])
  | _ =>
      exact .inr (by simp [Progress.summary, hstate])

/-- The summary of a line, whatever the line is: a boundary is a `>` outside of values, and the rest
is told by the last `<` outside of values, if there is one. -/
theorem scanLine_describes (line : List Char) :
    ((scanLine line).boundary = true ↔ ∃ column, LiveAt line column '>') ∧
      ((¬ ∃ column, LiveAt line column '<') → (scanLine line).Closed) ∧
      (∀ column, LastLive line '<' column →
        (scanLine line).Describes column (line.drop column)) ∧
      ((scanLine line).openTag = none ∨ (scanLine line).inClosingTag = false) := by
  refine ⟨boundary_scanLine_iff line, ?_, ?_, not_open_and_closing line⟩
  · intro hnone
    exact closed_of_isOutside rfl rfl (quiet_of_none hnone)
  · intro column hlast
    exact hlast.describes

/-- The `<` and the `>` of the first value count as little as the `>` of the second one. -/
theorem scanLine_describes_tag_behind_value :
    LastLive "title=\"a <b>\" <el-col c='>' d=\"x".toList '<' 14 ∧
      OpensTag "el-col" "<el-col c='>' d=\"x".toList ∧
      ¬ ∃ column, LiveAt "title=\"a <b>\" <el-col c='>' d=\"x".toList column '>' := by
  have hlive : LiveAt "title=\"a <b>\" <el-col c='>' d=\"x".toList 14 '<' := ⟨by decide, by decide⟩
  have hnone : ∀ column < 32, 14 < column →
      ("title=\"a <b>\" <el-col c='>' d=\"x".toList)[column]? ≠ some '<' := by decide
  have hlast : LastLive "title=\"a <b>\" <el-col c='>' d=\"x".toList '<' 14 := by
    refine ⟨hlive, ?_⟩
    intro other hother
    obtain ⟨hlt, _⟩ := List.getElem?_eq_some_iff.1 hother.1
    by_contra hgt
    exact hnone other hlt (Nat.lt_of_not_le hgt) hother.1
  have htag : (scanLine "title=\"a <b>\" <el-col c='>' d=\"x".toList).openTag =
      some ⟨"el-col", 14⟩ := by decide
  have hboundary : (scanLine "title=\"a <b>\" <el-col c='>' d=\"x".toList).boundary = false := by
    decide
  obtain ⟨hends, _, hdescribes, _⟩ :=
    scanLine_describes "title=\"a <b>\" <el-col c='>' d=\"x".toList
  refine ⟨hlast, (((hdescribes 14 hlast).openTag _).1 htag).2, ?_⟩
  rw [← hends, hboundary]
  decide

end Markup
end MarkupAssist
