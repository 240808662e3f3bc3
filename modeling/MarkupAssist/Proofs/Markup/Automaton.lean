import MarkupAssist.Markup.Line

/-!
# Laws of the line automaton

What a reading keeps, whatever is read.

- `isPlain`          : the characters that mean nothing to the automaton outside a name
- `Progress.Sound`   : a tag is remembered exactly while its attributes are read
- `Progress.Within`  : remembered columns lie within what has been read
- `State.rests`      : neither a name nor a closing tag is being read
- `State.awaits`     : an attribute may begin here
- `State.holds`      : a value is being read that this quote closes

Without an angle bracket a resting automaton shows the same summary again
(`summary_run_of_no_angle`), and so it does after a value that is written where an
attribute may begin, whatever the value holds (`run_value`, `summary_run_completed`).
-/

namespace MarkupAssist
namespace Markup

/-! ## Characters -/

theorem isQuote_iff {c : Char} : isQuote c = true ↔ c = '"' ∨ c = '\'' := by
  simp [isQuote]

theorem isSpace_of_isQuote {c : Char} (h : isQuote c = true) : Text.isSpace c = false := by
  rcases isQuote_iff.1 h with rfl | rfl <;> decide

theorem not_mem_of_no_quote {value : List Char} {quote : Char} (hquote : isQuote quote = true)
    (hvalue : ∀ c ∈ value, isQuote c = false) : quote ∉ value := by
  intro hmem
  simp [hvalue quote hmem] at hquote

def isAngle (c : Char) : Bool :=
  c == '<' || c == '>'

theorem ne_of_isAngle {c : Char} (h : isAngle c = false) : c ≠ '<' ∧ c ≠ '>' := by
  simpa [isAngle] using h

/-- Neither white space nor a quote, `=`, `<` or `>`. -/
def isPlain (c : Char) : Bool :=
  !Text.isSpace c && !isQuote c && c != '=' && !isAngle c

theorem isPlain_iff {c : Char} :
    isPlain c = true ↔
      Text.isSpace c = false ∧ isQuote c = false ∧ c ≠ '=' ∧ isAngle c = false := by
  simp [isPlain, and_assoc]

theorem isAngle_of_isQuote {c : Char} (h : isQuote c = true) : isAngle c = false := by
  rcases isQuote_iff.1 h with rfl | rfl <;> rfl

theorem isAngle_of_isSpace {c : Char} (h : Text.isSpace c = true) : isAngle c = false := by
  have hopen : c ≠ '<' := by
    rintro rfl
    exact absurd h (by decide)
  have hclose : c ≠ '>' := by
    rintro rfl
    exact absurd h (by decide)
  simp [isAngle, hopen, hclose]

theorem isNameChar_toNat {c : Char} (h : isNameChar c = true) :
    (48 ≤ c.toNat ∧ c.toNat ≤ 57) ∨ (65 ≤ c.toNat ∧ c.toNat ≤ 90) ∨
      (97 ≤ c.toNat ∧ c.toNat ≤ 122) ∨ c.toNat = 45 ∨ c.toNat = 95 := by
  delta isNameChar Char.isAlphanum Char.isAlpha Char.isUpper Char.isLower Char.isDigit at h
  simp only [Bool.or_eq_true, Bool.and_eq_true, decide_eq_true_eq, beq_iff_eq, ge_iff_le,
    UInt32.le_iff_toNat_le] at h
  rcases h with (((upper | lower) | digit) | rfl) | rfl
  · exact .inr (.inl upper)
  · exact .inr (.inr (.inl lower))
  · exact .inl digit
  · decide
  · decide

theorem isPlain_of_isNameChar {c : Char} (h : isNameChar c = true) : isPlain c = true := by
  have hn := isNameChar_toNat h
  have hspace : Text.isSpace c = false := by
    simp only [Text.isSpace, Bool.or_eq_false_iff, Bool.and_eq_false_iff, decide_eq_false_iff_not,
      beq_eq_false_iff_ne]
    omega
  have hne : ∀ d : Char, isNameChar d = false → c ≠ d := by
    rintro d hd rfl
    simp [hd] at h
  have hquote : isQuote c = false := by
    simp [isQuote, hne '"' (by decide), hne '\'' (by decide)]
  simp [isPlain, isAngle, hspace, hquote, hne '=' (by decide), hne '<' (by decide),
    hne '>' (by decide)]

/-! ## The remembered tag -/

/-- The states in the attribute area of a tag of this line. -/
def State.inAttributes : State → Bool
  | .inTag => true
  | .quoted _ => true
  | _ => false

def Progress.Sound (p : Progress) : Prop :=
  p.openTag.isSome = p.state.inAttributes

theorem Progress.sound_start : Progress.start.Sound := rfl

theorem Progress.Sound.step {p : Progress} (h : p.Sound) (column : Nat) (c : Char) :
    (step column c p).Sound := by
  -- `openWith` alone remembers a tag, where its attributes begin; `endTag` and `reopen` forget it
  obtain ⟨state, openTag, boundary⟩ := p
  cases state <;> simp only [Sound, State.inAttributes, Markup.step] at h ⊢ <;>
    grind [Progress.moveTo, Progress.strayEnd, Progress.endTag, Progress.reopen, Progress.openWith]

theorem Progress.Sound.run {p : Progress} (h : p.Sound) (column : Nat) (cs : List Char) :
    (run column p cs).Sound := by
  induction cs generalizing column p with
  | nil =>
      exact h
  | cons c rest ih =>
      exact ih (h.step column c) (column + 1)

theorem sound_run_start (cs : List Char) : (run 0 .start cs).Sound :=
  Progress.sound_start.run 0 cs

theorem Progress.Sound.openTag_eq_none {p : Progress} (h : p.Sound)
    (hstate : p.state.inAttributes = false) : p.openTag = none := by
  simpa [Sound, hstate] using h

theorem Progress.Sound.exists_openTag {p : Progress} (h : p.Sound)
    (hstate : p.state.inAttributes = true) : ∃ tag, p.openTag = some tag := by
  simpa [Sound, hstate, Option.isSome_iff_exists] using h

/-! ## Columns -/

/-- Every column that is remembered is one of the first `k`. -/
structure Progress.Within (k : Nat) (p : Progress) : Prop where
  openTag : ∀ tag, p.openTag = some tag → tag.column < k
  opened : ∀ column, p.state = .opened column → column < k
  tagName : ∀ column name, p.state = .tagName column name → column < k

theorem Progress.within_start (k : Nat) : Progress.start.Within k where
  openTag := by simp [Progress.start]
  opened := by simp [Progress.start]
  tagName := by simp [Progress.start]

theorem Progress.Within.mono {k l : Nat} {p : Progress} (h : p.Within k) (hle : k ≤ l) :
    p.Within l where
  openTag tag htag := Nat.lt_of_lt_of_le (h.openTag tag htag) hle
  opened column hstate := Nat.lt_of_lt_of_le (h.opened column hstate) hle
  tagName column name hstate := Nat.lt_of_lt_of_le (h.tagName column name hstate) hle

theorem Progress.Within.step {k : Nat} {p : Progress} (h : p.Within k) (c : Char) :
    (step k c p).Within (k + 1) := by
  -- no column comes in but `k`, that of the character itself
  obtain ⟨htag, hopened, hname⟩ := h
  obtain ⟨state, openTag, boundary⟩ := p
  constructor <;> cases state <;> simp only [Markup.step] at htag hopened hname ⊢ <;>
    grind [Progress.moveTo, Progress.strayEnd, Progress.endTag, Progress.reopen, Progress.openWith]

theorem Progress.Within.run {k : Nat} {p : Progress} (h : p.Within k) (cs : List Char) :
    (run k p cs).Within (k + cs.length) := by
  induction cs generalizing k p with
  | nil =>
      exact h
  | cons c rest ih =>
      have hrest := ih (h.step c)
      rwa [run_cons, List.length_cons, Nat.add_comm rest.length, ← Nat.add_assoc]

theorem within_run_start (cs : List Char) : (run 0 .start cs).Within cs.length := by
  simpa using (Progress.within_start 0).run cs

/-! ## Between angle brackets -/

/-- Characters none of which moves the automaton do not move it together. -/
theorem run_of_unmoved {p : Progress} {cs : List Char}
    (h : ∀ c ∈ cs, ∀ column, step column c p = p) (column : Nat) :
    run column p cs = p := by
  induction cs generalizing column with
  | nil =>
      rfl
  | cons c rest ih =>
      rw [run_cons, h c (by simp) column]
      exact ih (fun d hd => h d (by simp [hd])) (column + 1)

def State.rests : State → Bool
  | .opened _ => false
  | .tagName _ _ => false
  | .closingTag => false
  | _ => true

theorem Progress.summary_of_rests {p : Progress} (h : p.state.rests = true) :
    p.summary = ⟨p.openTag, false, p.boundary, false⟩ := by
  obtain ⟨state, openTag, boundary⟩ := p
  cases state <;> first | rfl | simp [State.rests] at h

theorem rests_step_of_no_angle {p : Progress} (h : p.state.rests = true) {c : Char}
    (hc : isAngle c = false) (column : Nat) :
    (step column c p).state.rests = true ∧ (step column c p).summary = p.summary := by
  rcases ne_of_isAngle hc with ⟨hopen, hclose⟩
  obtain ⟨state, openTag, boundary⟩ := p
  cases state with
  | opened start =>
      simp [State.rests] at h
  | tagName start name =>
      simp [State.rests] at h
  | closingTag =>
      simp [State.rests] at h
  | _ =>
      -- without an angle bracket only quotes, `=` and white space are told apart
      simp only [step, hopen, hclose, if_false]
      repeat' split
      all_goals simp [Progress.moveTo, Progress.summary, State.rests]

theorem summary_run_of_no_angle {p : Progress} (h : p.state.rests = true) {cs : List Char}
    (hcs : ∀ c ∈ cs, isAngle c = false) (column : Nat) :
    (run column p cs).state.rests = true ∧ (run column p cs).summary = p.summary := by
  induction cs generalizing column p with
  | nil =>
      exact ⟨h, rfl⟩
  | cons c rest ih =>
      obtain ⟨hrests, hsummary⟩ := rests_step_of_no_angle h (hcs c (by simp)) column
      have hrest := ih hrests (fun d hd => hcs d (by simp [hd])) (column + 1)
      rwa [hsummary] at hrest

/-! ## Values -/

/-- An attribute may begin here: no value is open. -/
def State.awaits : State → Bool
  | .text => true
  | .assigned => true
  | .inTag => true
  | _ => false

/-- Within a value, of this line's tag or of an earlier one, that the quote will close. -/
def State.holds (quote : Char) (state : State) : Prop :=
  state = .quoted quote ∨ state = .continuedValue quote

theorem State.rests_of_awaits {state : State} (h : state.awaits = true) : state.rests = true := by
  cases state <;> simp_all [State.awaits, State.rests]

theorem State.rests_of_holds {quote : Char} {state : State} (h : state.holds quote) :
    state.rests = true := by
  rcases h with rfl | rfl <;> rfl

/-- Of the states that rest, two are within a value. -/
theorem State.awaits_of_rests {state : State} (h : state.rests = true)
    (hclosed : ∀ quote, ¬ state.holds quote) : state.awaits = true := by
  cases state with
  | quoted quote =>
      exact absurd (.inl rfl) (hclosed quote)
  | continuedValue quote =>
      exact absurd (.inr rfl) (hclosed quote)
  | text =>
      rfl
  | assigned =>
      rfl
  | inTag =>
      rfl
  | _ =>
      simp [State.rests] at h

theorem run_of_holds {p : Progress} {quote : Char} (h : p.state.holds quote) {value : List Char}
    (hvalue : quote ∉ value) (column : Nat) :
    run column p value = p := by
  refine run_of_unmoved ?_ column
  intro c hmem k
  have hc : c ≠ quote := by
    rintro rfl
    exact hvalue hmem
  rcases h with h | h <;> simp [step, h, hc]

/-- Where plain characters lead from a state in which an attribute may begin. -/
def State.afterWord : State → State
  | .inTag => .inTag
  | _ => .text

@[simp] theorem State.awaits_afterWord (state : State) : state.afterWord.awaits = true := by
  cases state <;> rfl

@[simp] theorem State.afterWord_afterWord (state : State) :
    state.afterWord.afterWord = state.afterWord := by
  cases state <;> rfl

theorem step_of_awaits {p : Progress} (h : p.state.awaits = true) {c : Char}
    (hc : isPlain c = true) (column : Nat) :
    (step column c p).state = p.state.afterWord := by
  obtain ⟨hspace, hquote, hassign, hangle⟩ := isPlain_iff.1 hc
  rcases ne_of_isAngle hangle with ⟨hopen, hclose⟩
  obtain ⟨state, openTag, boundary⟩ := p
  cases state with
  | text =>
      simp [step, State.afterWord, hopen, hclose, hassign]
  | assigned =>
      simp [step, State.afterWord, hopen, hclose, hassign, hspace, hquote, Progress.moveTo]
  | inTag =>
      simp [step, State.afterWord, hopen, hclose, hquote]
  | _ =>
      simp [State.awaits] at h

theorem run_plain {p : Progress} (h : p.state.awaits = true) {word : List Char}
    (hne : word ≠ []) (hword : ∀ c ∈ word, isPlain c = true) (column : Nat) :
    (run column p word).state = p.state.afterWord := by
  induction word generalizing column p with
  | nil =>
      exact absurd rfl hne
  | cons c rest ih =>
      -- the first character settles the state and the others keep it
      have hstep := step_of_awaits h (hword c (by simp)) column
      by_cases hrest : rest = []
      · simpa [hrest] using hstep
      · have hawaits : (step column c p).state.awaits = true := by
          simp [hstep]
        rw [run_cons, ih hawaits hrest (fun d hd => hword d (by simp [hd])), hstep,
          State.afterWord_afterWord]

/-- White space between `=` and a value is passed over. -/
theorem run_blanks {p : Progress} (h : p.state = .inTag ∨ p.state = .assigned)
    {blanks : List Char} (hblanks : ∀ c ∈ blanks, Text.isSpace c = true) (column : Nat) :
    run column p blanks = p := by
  apply run_of_unmoved
  intro c hmem k
  have hspace := hblanks c hmem
  have hne : ∀ d : Char, Text.isSpace d = false → c ≠ d := by
    rintro d hd rfl
    simp [hd] at hspace
  have hquote : isQuote c = false := by
    simp [isQuote, hne '"' (by decide), hne '\'' (by decide)]
  rcases h with h | h
  · simp [step, h, hquote, hne '<' (by decide), hne '>' (by decide)]
  · simp [step, h, hquote, hspace, hne '<' (by decide), hne '>' (by decide)]

/-- A quote begins a value there. -/
theorem holds_step_quote {p : Progress} (h : p.state = .inTag ∨ p.state = .assigned)
    {quote : Char} (hquote : isQuote quote = true) (column : Nat) :
    (step column quote p).state.holds quote := by
  rcases h with h | h
  · exact .inl (by simp [step, h, hquote, Progress.moveTo])
  · exact .inr (by simp [step, h, hquote, Progress.moveTo])

/-- `name="` opens a value wherever an attribute may begin, also with white space before the
quote. -/
theorem holds_run_assignment {p : Progress} (h : p.state.awaits = true) {word blanks : List Char}
    (hne : word ≠ []) (hword : ∀ c ∈ word, isPlain c = true)
    (hblanks : ∀ c ∈ blanks, Text.isSpace c = true) {quote : Char}
    (hquote : isQuote quote = true) (column : Nat) :
    (run column p (word ++ '=' :: (blanks ++ [quote]))).state.holds quote := by
  have hrun := run_plain h hne hword column
  have hcase : p.state.afterWord = .inTag ∨ p.state.afterWord = .text := by
    cases p.state <;> simp [State.afterWord]
  -- within a tag the `=` means nothing, outside of tags it lets the quote begin a value
  have hassigned : (step (column + word.length) '=' (run column p word)).state = .inTag ∨
      (step (column + word.length) '=' (run column p word)).state = .assigned := by
    rcases hcase with htag | htext
    · have hassign : isQuote '=' = false := by decide
      exact .inl (by simp [step, hrun, htag, hassign])
    · exact .inr (by simp [step, hrun, htext, Progress.moveTo])
  rw [run_append, run_cons, run_append, run_blanks hassigned hblanks]
  exact holds_step_quote hassigned hquote _

/-- Up to its quote a value has no angle brackets, and from there on the quote holds them off:
the summary stays as it was, and the value is open. -/
theorem run_value {p : Progress} (h : p.state.awaits = true) {word blanks : List Char}
    (hne : word ≠ []) (hword : ∀ c ∈ word, isPlain c = true)
    (hblanks : ∀ c ∈ blanks, Text.isSpace c = true) {quote : Char}
    (hquote : isQuote quote = true) {value : List Char} (hvalue : quote ∉ value) (column : Nat) :
    (run column p (word ++ '=' :: (blanks ++ quote :: value))).state.holds quote ∧
      (run column p (word ++ '=' :: (blanks ++ quote :: value))).summary = p.summary := by
  have hsplit : word ++ '=' :: (blanks ++ quote :: value) =
      (word ++ '=' :: (blanks ++ [quote])) ++ value := by
    simp
  have hangle : ∀ c ∈ word ++ '=' :: (blanks ++ [quote]), isAngle c = false := by
    intro c hc
    simp only [List.mem_append, List.mem_cons, List.not_mem_nil, or_false] at hc
    rcases hc with hc | rfl | hc | rfl
    · exact (isPlain_iff.1 (hword c hc)).2.2.2
    · rfl
    · exact isAngle_of_isSpace (hblanks c hc)
    · exact isAngle_of_isQuote hquote
  have hopens := holds_run_assignment h hne hword hblanks hquote column
  rw [hsplit, run_append, run_of_holds hopens hvalue]
  exact ⟨hopens, (summary_run_of_no_angle (State.rests_of_awaits h) hangle column).2⟩

/-- The quote that ends the value leaves the summary as it is, and so does white space then. -/
theorem summary_run_completed {p : Progress} (h : p.state.awaits = true) {word : List Char}
    (hne : word ≠ []) (hword : ∀ c ∈ word, isPlain c = true) {quote : Char}
    (hquote : isQuote quote = true) {value blanks : List Char} (hvalue : quote ∉ value)
    (hblanks : ∀ c ∈ blanks, Text.isSpace c = true) (column : Nat) :
    (run column p (word ++ '=' :: quote :: (value ++ quote :: blanks))).summary = p.summary := by
  have hsplit : word ++ '=' :: quote :: (value ++ quote :: blanks) =
      (word ++ '=' :: ([] ++ quote :: value)) ++ quote :: blanks := by
    simp
  have hangle : ∀ c ∈ quote :: blanks, isAngle c = false := by
    intro c hc
    rcases List.mem_cons.1 hc with rfl | hc
    · exact isAngle_of_isQuote hquote
    · exact isAngle_of_isSpace (hblanks c hc)
  obtain ⟨hopen, hsummary⟩ :=
    run_value h hne hword (List.forall_mem_nil (Text.isSpace · = true)) hquote hvalue column
  rw [hsplit, run_append, ← hsummary]
  exact (summary_run_of_no_angle (State.rests_of_holds hopen) hangle _).2

end Markup
end MarkupAssist
