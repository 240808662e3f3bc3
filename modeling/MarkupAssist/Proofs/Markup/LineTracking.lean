import MarkupAssist.Proofs.Markup.ForwardPass

/-!
# One line beside the whole pass

The pass and the automaton of a line read the same characters, but the latter begins each
line in a text. `Tracks` says how they stand to each other within a line, and `Tracks.step`
that they go on so through every character of a regular document.
-/

namespace MarkupAssist
namespace Markup

theorem endsInAssign_append (cs : List Char) (c : Char) :
    endsInAssign (cs ++ [c]) = if Text.isSpace c then endsInAssign cs else c == '=' := by
  cases h : Text.isSpace c <;> simp [endsInAssign, Text.trimEnd, h]

@[simp] theorem endsInAssign_nil : endsInAssign [] = false := rfl

/-! ## The automaton outside of tags -/

/-- No tag of the line is open, and at most an `=` is remembered. -/
structure Idle (front : List Char) (p : Progress) : Prop where
  openTag : p.openTag = none
  state : p.state = .text ∨ p.state = .assigned ∧ endsInAssign front = true

namespace Idle

variable {front : List Char} {p : Progress}

theorem summary (h : Idle front p) : p.summary = ⟨none, false, p.boundary, false⟩ := by
  rcases h.state with hstate | ⟨hstate, _⟩ <;> simp [Progress.summary, hstate, h.openTag]

theorem step_open (h : Idle front p) (column : Nat) :
    step column '<' p = ⟨.opened column, none, p.boundary⟩ := by
  obtain ⟨state, openTag, boundary⟩ := p
  obtain ⟨rfl, hstate⟩ := h
  have hquote : isQuote '<' = false := by decide
  rcases hstate with rfl | ⟨rfl, _⟩ <;> simp [step, Progress.moveTo, hquote]

theorem step_close (h : Idle front p) (column : Nat) :
    step column '>' p = ⟨.text, none, true⟩ := by
  obtain ⟨state, openTag, boundary⟩ := p
  obtain ⟨rfl, hstate⟩ := h
  have hquote : isQuote '>' = false := by decide
  rcases hstate with rfl | ⟨rfl, _⟩ <;> simp [step, Progress.strayEnd, hquote]

/-- Any other character leaves it so, but for the quote that begins a value. -/
theorem step_other (h : Idle front p) {c : Char} (hangle : isAngle c = false)
    (hquote : isQuote c = true → endsInAssign front = false) (column : Nat) :
    Idle (front ++ [c]) (step column c p) ∧ (step column c p).boundary = p.boundary := by
  rcases ne_of_isAngle hangle with ⟨hopen, hclose⟩
  have hassign : endsInAssign (front ++ ['=']) = true := by
    have hspace : Text.isSpace '=' = false := by decide
    simp [endsInAssign_append, hspace]
  obtain ⟨state, openTag, boundary⟩ := p
  obtain ⟨rfl, hstate⟩ := h
  rcases hstate with rfl | ⟨rfl, hfront⟩
  -- an `=` is remembered from here on
  · by_cases heq : c = '='
    · subst heq
      exact ⟨⟨rfl, .inr ⟨rfl, hassign⟩⟩, rfl⟩
    · have hstep : step column c ⟨.text, none, boundary⟩ = ⟨.text, none, boundary⟩ := by
        simp [step, hopen, hclose, heq]
      rw [hstep]
      exact ⟨⟨rfl, .inl rfl⟩, rfl⟩
  -- one that is remembered lasts through white space, and no quote follows it
  · have hnotQuote : isQuote c = false := by
      cases h : isQuote c with
      | false => rfl
      | true => exact absurd (hquote h) (by simp [hfront])
    simp only [step, hnotQuote, hopen, hclose, Bool.false_eq_true, if_false]
    split
    · next hkeeps =>
        refine ⟨⟨rfl, .inr ⟨rfl, ?_⟩⟩, rfl⟩
        rcases Bool.or_eq_true_iff.1 hkeeps with heq | hspace
        · rw [of_decide_eq_true heq, hassign]
        · simp [endsInAssign_append, hspace, hfront]
    · exact ⟨⟨rfl, .inl rfl⟩, rfl⟩

end Idle

/-- An `=` at the end of what has been read is remembered. -/
def Sharp (front : List Char) (p : Progress) : Prop :=
  endsInAssign front = true → p.state = .assigned

theorem Sharp.step {front : List Char} {p : Progress} (h : Sharp front p) (hidle : Idle front p)
    {c : Char} (hangle : isAngle c = false) (hquote : isQuote c = false) (column : Nat) :
    Sharp (front ++ [c]) (step column c p) := by
  rcases ne_of_isAngle hangle with ⟨hopen, hclose⟩
  intro hends
  rw [endsInAssign_append] at hends
  split at hends
  · next hspace =>
      have hstate := h hends
      simp [Markup.step, hstate, hquote, hopen, hclose, hspace]
  · have heq : c = '=' := by
      simpa using hends
    subst heq
    rcases hidle.state with hstate | ⟨hstate, _⟩ <;>
      simp [Markup.step, hstate, hquote, Progress.moveTo]

/-- A quote straight after an `=` begins a value of a tag of an earlier line. -/
theorem Sharp.step_quote {front : List Char} {p : Progress} (h : Sharp front p)
    (hends : endsInAssign front = true) {c : Char} (hquote : isQuote c = true) (column : Nat) :
    Markup.step column c p = p.moveTo (.continuedValue c) := by
  simp [Markup.step, h hends, hquote]

/-! ## The pass and the line together -/

/-- A tag ended on the line, or the pass has been in text since the line above. -/
def Settled (start : Nat) (above pass : ForwardPass) : Bool → Prop
  | true => ∃ place, pass.lastEnd = some place ∧ start ≤ place
  | false => above.state = .text ∧ pass.lastEnd = above.lastEnd

/-- How the pass stands to the automaton of a line that begins at `start`, below `above`, when
both have read `front` of it. What began on an earlier line is carried on by the pass while the
automaton knows of no tag. -/
inductive Tracks (start : Nat) (above : ForwardPass) (front : List Char) (pass : ForwardPass)
    (p : Progress) : Prop
  | text (hstate : pass.state = .text) (hidle : Idle front p)
      (hsettled : Settled start above pass p.boundary)
  | opened (column : Nat) (earlier : List Char) (hstate : pass.state = .opened (start + column))
      (hp : p = ⟨.opened column, none, p.boundary⟩) (hfront : front = earlier ++ ['<'])
      (hvalue : (ForwardPass.run start above earlier).inValue = false)
      (hsettled : (ForwardPass.run start above earlier).state = .text →
        Settled start above pass p.boundary)
  | tagName (column : Nat) (name : String) (hstate : pass.state = .tagName (start + column) name)
      (hp : p.state = .tagName column name)
  | ownTag (column : Nat) (name : String) (hstate : pass.state = p.state)
      (harea : p.state.inAttributes = true) (htag : pass.openTag = some ⟨name, start + column⟩)
      (hp : p.openTag = some ⟨name, column⟩)
  | ownClosing (hstate : pass.state = .closingTag) (hp : p.state = .closingTag)
      (htag : p.openTag = none) (hend : Settled start above pass true)
  | carriedTag (hstate : pass.state = .inTag) (habove : above.state = .inTag)
      (htag : pass.openTag = above.openTag) (hidle : Idle front p) (hsharp : Sharp front p)
      (hboundary : p.boundary = false)
  | carriedValue (quote : Char) (hquote : isQuote quote = true)
      (hstate : pass.state = .quoted quote) (habove : above.state = .inTag)
      (htag : pass.openTag = above.openTag) (hp : p = ⟨.continuedValue quote, none, false⟩)
  | carriedClosing (hpass : pass = above) (habove : above.state = .closingTag)
      (hidle : Idle front p) (hboundary : p.boundary = false)

/-- What a regular document grants for the character after `front`. -/
structure Allowed (start : Nat) (above : ForwardPass) (front : List Char) (c : Char) : Prop where
  loose_quote : isQuote c = true →
    (ForwardPass.run start above front).state = .text ∨
      (ForwardPass.run start above front).state = .closingTag → endsInAssign front = false
  value_quote : isQuote c = true → (ForwardPass.run start above front).state = .inTag →
    ((ForwardPass.run start above front).openTag.any (·.column < start)) = true →
    endsInAssign front = true
  loose_open : ∀ earlier, front = earlier ++ ['<'] → followsOpen c = false →
    (ForwardPass.run start above earlier).inValue = false →
    (ForwardPass.run start above earlier).state = .text

namespace Tracks

open ForwardPass (endsTag)

variable {start : Nat} {above pass : ForwardPass} {front : List Char} {p : Progress} {c : Char}

/-- Where the line begins: its automaton starts in a text, the pass goes on. -/
theorem nil (h : above.BetweenLines) :
    Tracks start above [] above .start := by
  have hidle : Idle [] .start := ⟨rfl, .inl rfl⟩
  rcases h with htext | htag | hclosing
  · exact .text htext hidle ⟨htext, rfl⟩
  · exact .carriedTag htag htag rfl hidle (by simp [Sharp]) rfl
  · exact .carriedClosing rfl hclosing hidle rfl

/-- A `<` that is read outside of a value. -/
theorem of_open (hrun : ForwardPass.run start above front = pass) (hvalue : pass.inValue = false)
    (hstate : (pass.step (start + front.length) '<').state = .opened (start + front.length))
    (hlast : (pass.step (start + front.length) '<').lastEnd = pass.lastEnd)
    (hp : step front.length '<' p = ⟨.opened front.length, none, p.boundary⟩)
    (hsettled : pass.state = .text → Settled start above pass p.boundary) :
    Tracks start above (front ++ ['<']) (pass.step (start + front.length) '<')
      (step front.length '<' p) := by
  refine .opened front.length front hstate ?_ rfl (hrun ▸ hvalue) ?_
  · rw [hp]
  · intro htext
    have hbefore := hsettled (hrun ▸ htext)
    rw [hp]
    cases hboundary : p.boundary <;> simpa [Settled, hboundary, hlast] using hbefore

/-- A `>` that is read outside of a value. -/
theorem of_close (hstate : (pass.step (start + front.length) '>').state = .text)
    (hlast : (pass.step (start + front.length) '>').lastEnd = some (start + front.length))
    (hp : step front.length '>' p = ⟨.text, none, true⟩) :
    Tracks start above (front ++ ['>']) (pass.step (start + front.length) '>')
      (step front.length '>' p) := by
  refine .text hstate ?_ ?_
  · rw [hp]
    exact ⟨rfl, .inl rfl⟩
  · rw [hp]
    exact ⟨_, hlast, Nat.le_add_right start front.length⟩

/-! ### One character -/

theorem step_text (hrun : ForwardPass.run start above front = pass)
    (hallowed : Allowed start above front c) (hstate : pass.state = .text) (hidle : Idle front p)
    (hsettled : Settled start above pass p.boundary) :
    Tracks start above (front ++ [c]) (pass.step (start + front.length) c)
      (step front.length c p) := by
  obtain ⟨⟨state, openTag, boundary⟩, lastEnd⟩ := pass
  obtain rfl : state = .text := hstate
  by_cases hopen : c = '<'
  · subst hopen
    exact of_open hrun rfl rfl rfl (hidle.step_open _) fun _ => hsettled
  by_cases hclose : c = '>'
  · subst hclose
    exact of_close rfl rfl (hidle.step_close _)
  -- the pass stays where it is, and the line may at most remember an `=`
  have hangle : isAngle c = false := by
    simp [isAngle, hopen, hclose]
  obtain ⟨hnext, hboundary⟩ := hidle.step_other hangle
    (fun hquote => hallowed.loose_quote hquote (.inl (by rw [hrun]; rfl))) front.length
  rw [ForwardPass.step_of_no_angle (.inl rfl) hangle]
  exact .text rfl hnext (hboundary ▸ hsettled)

theorem step_opened (hrun : ForwardPass.run start above front = pass)
    (hallowed : Allowed start above front c) {column : Nat} {earlier : List Char}
    (hstate : pass.state = .opened (start + column))
    (hp : p = ⟨.opened column, none, p.boundary⟩) (hfront : front = earlier ++ ['<'])
    (hvalue : (ForwardPass.run start above earlier).inValue = false)
    (hsettled : (ForwardPass.run start above earlier).state = .text →
      Settled start above pass p.boundary) :
    Tracks start above (front ++ [c]) (pass.step (start + front.length) c)
      (step front.length c p) := by
  obtain ⟨⟨state, openTag, boundary⟩, lastEnd⟩ := pass
  obtain rfl : state = .opened (start + column) := hstate
  obtain ⟨pstate, ptag, pboundary⟩ := p
  obtain ⟨rfl, rfl⟩ : pstate = .opened column ∧ ptag = none := by
    simpa using hp
  by_cases hname : isNameChar c = true
  · refine .tagName column (String.singleton c) ?_ ?_ <;>
      simp [ForwardPass.step, ForwardPass.state, Markup.step, Progress.moveTo, hname]
  by_cases hslash : c = '/'
  · subst hslash
    exact .ownClosing rfl rfl rfl ⟨_, rfl, Nat.le_add_right start front.length⟩
  by_cases hopen : c = '<'
  · subst hopen
    exact of_open hrun rfl rfl rfl rfl (by simp [ForwardPass.state])
  by_cases hclose : c = '>'
  · subst hclose
    exact of_close rfl rfl rfl
  -- a loose `<`: both fall back into the text, in which the pass was before it
  have hloose : followsOpen c = false := by
    simp [followsOpen, isAngle, hname, hslash, hopen, hclose]
  have hbefore := hsettled (hallowed.loose_open earlier hfront hloose hvalue)
  refine .text ?_ ?_ ?_
  · simp [ForwardPass.step, ForwardPass.state, Markup.step, Progress.moveTo, hname, hslash, hopen,
      hclose]
  · constructor <;> simp [Markup.step, Progress.moveTo, hname, hslash, hopen, hclose]
  · cases pboundary <;>
      simpa [Settled, ForwardPass.step, ForwardPass.state, Markup.step, Progress.moveTo, endsTag, hname,
        hslash, hopen, hclose] using hbefore

theorem step_tagName (hrun : ForwardPass.run start above front = pass) {column : Nat}
    {name : String} (hstate : pass.state = .tagName (start + column) name)
    (hp : p.state = .tagName column name) :
    Tracks start above (front ++ [c]) (pass.step (start + front.length) c)
      (step front.length c p) := by
  obtain ⟨⟨state, openTag, boundary⟩, lastEnd⟩ := pass
  obtain rfl : state = .tagName (start + column) name := hstate
  obtain ⟨pstate, ptag, pboundary⟩ := p
  obtain rfl : pstate = .tagName column name := hp
  by_cases hname : isNameChar c = true
  · refine .tagName column (name.push c) ?_ ?_ <;>
      simp [ForwardPass.step, ForwardPass.state, Markup.step, Progress.moveTo, hname]
  by_cases hopen : c = '<'
  · subst hopen
    exact of_open hrun rfl rfl rfl rfl (by simp [ForwardPass.state])
  by_cases hclose : c = '>'
  · subst hclose
    exact of_close rfl rfl rfl
  -- the name ends and its attributes begin, with a value if it is a quote
  by_cases hquote : isQuote c = true
  all_goals
    refine .ownTag column name ?_ ?_ ?_ ?_ <;>
      simp [ForwardPass.step, ForwardPass.state, ForwardPass.openTag, Markup.step,
        Progress.openWith, State.inAttributes, hname, hopen, hclose, hquote]

theorem step_ownTag (hrun : ForwardPass.run start above front = pass) {column : Nat}
    {name : String} (hstate : pass.state = p.state) (harea : p.state.inAttributes = true)
    (htag : pass.openTag = some ⟨name, start + column⟩) (hp : p.openTag = some ⟨name, column⟩) :
    Tracks start above (front ++ [c]) (pass.step (start + front.length) c)
      (step front.length c p) := by
  obtain ⟨⟨state, openTag, boundary⟩, lastEnd⟩ := pass
  obtain ⟨pstate, ptag, pboundary⟩ := p
  obtain rfl : state = pstate := hstate
  obtain rfl : openTag = some ⟨name, start + column⟩ := htag
  obtain rfl : ptag = some ⟨name, column⟩ := hp
  cases state with
  | inTag =>
      by_cases hopen : c = '<'
      · subst hopen
        exact of_open hrun rfl rfl rfl rfl (by simp [ForwardPass.state])
      by_cases hclose : c = '>'
      · subst hclose
        exact of_close rfl rfl rfl
      by_cases hquote : isQuote c = true
      all_goals
        refine .ownTag column name ?_ ?_ ?_ ?_ <;>
          simp [ForwardPass.step, ForwardPass.state, ForwardPass.openTag, Markup.step,
            Progress.moveTo, State.inAttributes, hopen, hclose, hquote]
  | quoted quote =>
      by_cases hquote : c = quote
      all_goals
        refine .ownTag column name ?_ ?_ ?_ ?_ <;>
          simp [ForwardPass.step, ForwardPass.state, ForwardPass.openTag, Markup.step,
            Progress.moveTo, State.inAttributes, hquote]
  | _ =>
      simp [State.inAttributes] at harea

theorem step_ownClosing (hrun : ForwardPass.run start above front = pass)
    (hstate : pass.state = .closingTag) (hp : p.state = .closingTag) (htag : p.openTag = none)
    (hend : Settled start above pass true) :
    Tracks start above (front ++ [c]) (pass.step (start + front.length) c)
      (step front.length c p) := by
  obtain ⟨⟨state, openTag, boundary⟩, lastEnd⟩ := pass
  obtain rfl : state = .closingTag := hstate
  obtain ⟨pstate, ptag, pboundary⟩ := p
  obtain rfl : pstate = .closingTag := hp
  obtain rfl : ptag = none := htag
  by_cases hopen : c = '<'
  · subst hopen
    exact of_open hrun rfl rfl rfl rfl (by simp [ForwardPass.state])
  by_cases hclose : c = '>'
  · subst hclose
    exact of_close rfl rfl rfl
  refine .ownClosing ?_ ?_ ?_ ?_
  · simp [ForwardPass.step, ForwardPass.state, Markup.step, hopen, hclose]
  · simp [Markup.step, hopen, hclose]
  · simp [Markup.step, hopen, hclose]
  · simpa [Settled, ForwardPass.step, ForwardPass.state, endsTag, hclose] using hend

/-- A tag that goes on from an earlier line lies before this one. -/
theorem openTag_above (habove : above.Proper start) (hstate : above.state = .inTag) :
    above.openTag.any (·.column < start) = true := by
  obtain ⟨tag, htag⟩ := habove.sound.exists_openTag (by
    have harea : above.progress.state = .inTag := hstate
    simp [harea, State.inAttributes])
  have hlt := habove.within.openTag tag htag
  simp [ForwardPass.openTag, htag, hlt]

theorem step_carriedTag (hrun : ForwardPass.run start above front = pass)
    (hallowed : Allowed start above front c) (hproper : above.Proper start)
    (hstate : pass.state = .inTag) (habove : above.state = .inTag)
    (htag : pass.openTag = above.openTag) (hidle : Idle front p) (hsharp : Sharp front p)
    (hboundary : p.boundary = false) :
    Tracks start above (front ++ [c]) (pass.step (start + front.length) c)
      (step front.length c p) := by
  have hbegan := openTag_above hproper habove
  obtain ⟨⟨state, openTag, boundary⟩, lastEnd⟩ := pass
  obtain rfl : state = .inTag := hstate
  obtain rfl : openTag = above.openTag := htag
  by_cases hopen : c = '<'
  · subst hopen
    exact of_open hrun rfl rfl rfl (hidle.step_open _) (by simp [ForwardPass.state])
  by_cases hclose : c = '>'
  · subst hclose
    exact of_close rfl rfl (hidle.step_close _)
  have hangle : isAngle c = false := by
    simp [isAngle, hopen, hclose]
  cases hquote : isQuote c with
  | true =>
      -- the line must have kept the `=` in order to take the quote for a value
      have hends := hallowed.value_quote hquote (by rw [hrun]; rfl)
        (by rw [hrun]; exact hbegan)
      refine .carriedValue c hquote ?_ habove ?_ ?_
      · simp [ForwardPass.step, ForwardPass.state, Markup.step, Progress.moveTo, hquote]
      · simp [ForwardPass.step, ForwardPass.state, ForwardPass.openTag, Markup.step, Progress.moveTo,
          hquote]
      · rw [hsharp.step_quote hends hquote]
        obtain ⟨pstate, ptag, pboundary⟩ := p
        obtain rfl : ptag = none := hidle.openTag
        obtain rfl : pboundary = false := hboundary
        rfl
  | false =>
      obtain ⟨hnext, hkept⟩ := hidle.step_other hangle (by simp [hquote]) front.length
      refine .carriedTag ?_ habove ?_ hnext ?_ (hkept.trans hboundary)
      · simp [ForwardPass.step, ForwardPass.state, Markup.step, hquote, hopen, hclose]
      · simp [ForwardPass.step, ForwardPass.state, ForwardPass.openTag, Markup.step, hquote, hopen,
          hclose]
      · exact hsharp.step hidle hangle hquote front.length

theorem step_carriedValue {quote : Char} (hquote : isQuote quote = true)
    (hstate : pass.state = .quoted quote) (habove : above.state = .inTag)
    (htag : pass.openTag = above.openTag) (hp : p = ⟨.continuedValue quote, none, false⟩) :
    Tracks start above (front ++ [c]) (pass.step (start + front.length) c)
      (step front.length c p) := by
  obtain ⟨⟨state, openTag, boundary⟩, lastEnd⟩ := pass
  obtain rfl : state = .quoted quote := hstate
  obtain rfl : openTag = above.openTag := htag
  subst hp
  by_cases hclose : c = quote
  -- a quote is no `=`, so nothing is remembered behind the value
  · subst hclose
    have hends : endsInAssign (front ++ [c]) = false := by
      rcases isQuote_iff.1 hquote with rfl | rfl
      all_goals
        rw [endsInAssign_append]
        rfl
    refine .carriedTag ?_ habove ?_ ⟨?_, .inl ?_⟩ ?_ ?_
    · simp [ForwardPass.step, ForwardPass.state, Markup.step, Progress.moveTo]
    · simp [ForwardPass.step, ForwardPass.state, ForwardPass.openTag, Markup.step, Progress.moveTo]
    · simp [Markup.step, Progress.moveTo]
    · simp [Markup.step, Progress.moveTo]
    · simp [Sharp, hends]
    · simp [Markup.step, Progress.moveTo]
  · refine .carriedValue quote hquote ?_ habove ?_ ?_
    · simp [ForwardPass.step, ForwardPass.state, Markup.step, hclose]
    · simp [ForwardPass.step, ForwardPass.state, ForwardPass.openTag, Markup.step, hclose]
    · simp [Markup.step, hclose]

theorem step_carriedClosing (hrun : ForwardPass.run start above front = pass)
    (hallowed : Allowed start above front c) (hpass : pass = above)
    (habove : above.state = .closingTag) (hidle : Idle front p) (hboundary : p.boundary = false) :
    Tracks start above (front ++ [c]) (pass.step (start + front.length) c)
      (step front.length c p) := by
  have hstate : pass.progress.state = .closingTag := hpass ▸ habove
  by_cases hopen : c = '<'
  · subst hopen
    refine of_open hrun ?_ ?_ ?_ (hidle.step_open _) ?_ <;>
      simp [ForwardPass.inValue, ForwardPass.step, ForwardPass.state, Markup.step, Progress.moveTo,
        endsTag, hstate]
  by_cases hclose : c = '>'
  · subst hclose
    refine of_close ?_ ?_ (hidle.step_close _) <;>
      simp [ForwardPass.step, ForwardPass.state, Markup.step, Progress.strayEnd, endsTag, hstate]
  have hangle : isAngle c = false := by
    simp [isAngle, hopen, hclose]
  obtain ⟨hnext, hkept⟩ := hidle.step_other hangle
    (fun hquote => hallowed.loose_quote hquote (.inr (by rw [hrun]; exact hstate))) front.length
  rw [ForwardPass.step_of_no_angle (.inr hstate) hangle]
  exact .carriedClosing hpass habove hnext (hkept.trans hboundary)

theorem step (h : Tracks start above front pass p)
    (hrun : ForwardPass.run start above front = pass) (hallowed : Allowed start above front c)
    (hproper : above.Proper start) :
    Tracks start above (front ++ [c]) (pass.step (start + front.length) c)
      (step front.length c p) := by
  cases h with
  | text hstate hidle hsettled =>
      exact step_text hrun hallowed hstate hidle hsettled
  | opened column earlier hstate hp hfront hvalue hsettled =>
      exact step_opened hrun hallowed hstate hp hfront hvalue hsettled
  | tagName column name hstate hp =>
      exact step_tagName hrun hstate hp
  | ownTag column name hstate harea htag hp =>
      exact step_ownTag hrun hstate harea htag hp
  | ownClosing hstate hp htag hend =>
      exact step_ownClosing hrun hstate hp htag hend
  | carriedTag hstate habove htag hidle hsharp hboundary =>
      exact step_carriedTag hrun hallowed hproper hstate habove htag hidle hsharp hboundary
  | carriedValue quote hquote hstate habove htag hp =>
      exact step_carriedValue hquote hstate habove htag hp
  | carriedClosing hpass habove hidle hboundary =>
      exact step_carriedClosing hrun hallowed hpass habove hidle hboundary

/-- The relation goes on through characters that are all allowed. -/
theorem run (hproper : above.Proper start) {line : List Char}
    (hallowed : ∀ front c back, line = front ++ c :: back → Allowed start above front c) :
    ∀ back front, line = front ++ back →
      Tracks start above front (ForwardPass.run start above front) (run 0 .start front) →
      Tracks start above line (ForwardPass.run start above line) (run 0 .start line) := by
  -- on what is still to be read, for what has been read is what the relation speaks of
  intro back
  induction back with
  | nil =>
      intro front hline hfront
      rw [List.append_nil] at hline
      exact hline ▸ hfront
  | cons c rest ih =>
      intro front hline hfront
      refine ih (front ++ [c]) (by simp [hline]) ?_
      have hnext := hfront.step rfl (hallowed front c rest hline) hproper
      rw [ForwardPass.run_append, run_append]
      simpa using hnext

theorem run_line (hproper : above.Proper start) (habove : above.BetweenLines) {line : List Char}
    (hallowed : ∀ front c back, line = front ++ c :: back → Allowed start above front c) :
    Tracks start above line (ForwardPass.run start above line) (Markup.run 0 .start line) :=
  run hproper hallowed line [] rfl (nil habove)

/-! ### What the end of the line decides -/

/-- Where a name is being typed, the pass knows it too. -/
theorem lookup_of_typing (h : Tracks start above front pass p)
    (htyping : p.summary.typingName = true) (first : Nat) : pass.lookup first = .typingName := by
  cases h with
  | opened column earlier hstate hp hfront hvalue hsettled =>
      simp [ForwardPass.lookup, hstate]
  | tagName column name hstate hp =>
      simp [ForwardPass.lookup, hstate]
  | text hstate hidle hsettled =>
      simp [hidle.summary] at htyping
  | ownTag column name hstate harea htag hp =>
      cases hp : p.state <;> simp_all [Progress.summary, State.inAttributes]
  | ownClosing hstate hp htag hend =>
      simp [Progress.summary, hp] at htyping
  | carriedTag hstate habove htag hidle hsharp hboundary =>
      simp [hidle.summary] at htyping
  | carriedValue quote hquote hstate habove htag hp =>
      simp [Progress.summary, hp] at htyping
  | carriedClosing hpass habove hidle hboundary =>
      simp [hidle.summary] at htyping

/-- Otherwise the line decides for the pass, or leaves the answer to the lines above. -/
theorem lookup_eq (h : Tracks start above front pass p) {document : Document} {n first : Nat}
    (hstart : document.offsetAt ⟨n, 0⟩ = start) (hfirst : first ≤ start)
    (hcolumn : ∀ tag, p.openTag = some tag → tag.column ≤ (document.lineText n).length)
    (htyping : p.summary.typingName = false) :
    pass.lookup first = (verdict? document n p.summary).getD (above.lookup first) := by
  cases h with
  | opened column earlier hstate hp hfront hvalue hsettled =>
      rw [hp] at htyping
      simp [Progress.summary] at htyping
  | tagName column name hstate hp =>
      simp [Progress.summary, hp] at htyping
  | text hstate hidle hsettled =>
      rw [ForwardPass.lookup_of_outside (.inl hstate), hidle.summary]
      cases hboundary : p.boundary with
      | true =>
          rw [hboundary] at hsettled
          rcases hsettled with ⟨place, hlast, hle⟩
          have hin : first ≤ place := Nat.le_trans hfirst hle
          simp [verdict?, hlast, hin]
      | false =>
          rw [hboundary] at hsettled
          rcases hsettled with ⟨habove, hlast⟩
          simp [verdict?, ForwardPass.lookup_of_outside (.inl habove), hlast]
  | ownTag column name hstate harea htag hp =>
      have hoffset : document.offsetAt ⟨n, column⟩ = start + column := by
        have hle := hcolumn _ hp
        simp [Document.offsetAt, Nat.min_eq_left hle] at hstart ⊢
        omega
      have hin : first ≤ start + column := by
        omega
      have hsummary : p.summary.openTag = some ⟨name, column⟩ := by
        cases hpstate : p.state <;> simp_all [Progress.summary, State.inAttributes]
      rw [ForwardPass.lookup_of_openTag (hstate ▸ harea) htag, if_pos hin]
      simp [verdict?, hsummary, hoffset]
  | ownClosing hstate hp htag hend =>
      rcases hend with ⟨place, hlast, hle⟩
      have hin : first ≤ place := Nat.le_trans hfirst hle
      rw [ForwardPass.lookup_of_outside (.inr hstate)]
      simp [verdict?, Progress.summary, hp, htag, hlast, hin]
  | carriedTag hstate habove htag hidle hsharp hboundary =>
      rw [hidle.summary, hboundary]
      simp [verdict?, ForwardPass.lookup, hstate, habove, htag]
  | carriedValue quote hquote hstate habove htag hp =>
      simp [verdict?, hp, Progress.summary, ForwardPass.lookup, hstate, habove, htag]
  | carriedClosing hpass habove hidle hboundary =>
      rw [hidle.summary, hboundary, hpass]
      simp [verdict?]

end Tracks

end Markup
end MarkupAssist
