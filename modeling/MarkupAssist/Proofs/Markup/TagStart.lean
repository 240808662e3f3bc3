import Mathlib.Data.List.Induction
import MarkupAssist.Proofs.Markup.Search
import MarkupAssist.Proofs.Markup.Spelling

/-!
# Where tags begin

A tag begins where its `<` has just been read and where its name is being typed. The automaton
sees it in every `<` that no value holds, whatever tag or text that `<` leaves behind.

- `State.names`    : a `<` has been read, and name characters since then
- `EndsInTagStart` : the same of a text, with the automaton asked about values alone
- `BeginsTag`      : what makes a position one of a tag name where no tag encloses it, for the
  last character before the position counts there as well, and counts within values too

So a value without a tag has no context, but for the values that end in the beginning of a tag
(`nothing_of_value_without_tag_iff`).
-/

namespace MarkupAssist
namespace Markup

/-! ## Names that are being typed -/

def State.names : State → Bool
  | .opened _ => true
  | .tagName _ _ => true
  | _ => false

theorem typingName_summary (p : Progress) : p.summary.typingName = p.state.names := by
  obtain ⟨state, openTag, boundary⟩ := p
  cases state <;> rfl

theorem names_step (column : Nat) (c : Char) (p : Progress) :
    (step column c p).state.names = true ↔
      c = '<' ∧ (∀ q, ¬ p.state.holds q) ∨ isNameChar c = true ∧ p.state.names = true := by
  have hopen : isNameChar '<' = false ∧ isQuote '<' = false := by decide
  -- only a value keeps `<` from opening, and only a character of the name keeps the name going
  obtain ⟨state, openTag, boundary⟩ := p
  cases state <;> simp only [step, State.holds] <;>
    grind [State.names, Progress.moveTo, Progress.strayEnd, Progress.endTag, Progress.reopen,
      Progress.openWith]

/-- The text ends in a `<` that no value holds, and name characters behind it. -/
def EndsInTagStart (cs : List Char) : Prop :=
  ∃ front letters, cs = front ++ '<' :: letters ∧ (∀ c ∈ letters, isNameChar c = true) ∧
    ∀ q, ¬ (run 0 .start front).state.holds q

theorem not_endsInTagStart_nil : ¬ EndsInTagStart [] := by
  rintro ⟨front, letters, h, _⟩
  simp at h

theorem endsInTagStart_concat (cs : List Char) (c : Char) :
    EndsInTagStart (cs ++ [c]) ↔
      c = '<' ∧ (∀ q, ¬ (run 0 .start cs).state.holds q) ∨
        isNameChar c = true ∧ EndsInTagStart cs := by
  constructor
  -- the last character is the `<` itself or the last letter behind it
  · rintro ⟨front, letters, htext, hletters, hfree⟩
    rcases List.eq_nil_or_concat letters with rfl | ⟨earlier, last, rfl⟩
    · obtain ⟨rfl, hc⟩ := List.append_inj' htext rfl
      exact .inl ⟨(List.cons.inj hc).1, hfree⟩
    · have hsplit : cs ++ [c] = (front ++ '<' :: earlier) ++ [last] := by
        simpa using htext
      obtain ⟨rfl, hc⟩ := List.append_inj' hsplit rfl
      obtain rfl := (List.cons.inj hc).1
      refine .inr ⟨hletters c (by simp), front, earlier, rfl, ?_, hfree⟩
      intro d hd
      exact hletters d (by simp [hd])
  · rintro (⟨rfl, hfree⟩ | ⟨hc, front, letters, rfl, hletters, hfree⟩)
    · exact ⟨cs, [], rfl, by simp, hfree⟩
    · refine ⟨front, letters ++ [c], by simp, ?_, hfree⟩
      intro d hd
      rcases List.mem_append.1 hd with hd | hd
      · exact hletters d hd
      · rwa [List.mem_singleton.1 hd]

theorem names_run_iff (cs : List Char) :
    (run 0 .start cs).state.names = true ↔ EndsInTagStart cs := by
  -- from the end of the text, for its last character decides
  induction cs using List.reverseRecOn with
  | nil =>
      exact iff_of_false (by simp [Progress.start, State.names]) not_endsInTagStart_nil
  | append_singleton cs c ih =>
      rw [run_append, run_cons, run_nil, names_step, endsInTagStart_concat, ih]

theorem typingName_scanLine_iff (line : List Char) :
    (scanLine line).typingName = true ↔ EndsInTagStart line := by
  rw [scanLine, typingName_summary, names_run_iff]

/-! ## Positions of tag names -/

theorem verdict?_ne_typingName (document : Document) (n : Nat) (summary : LineSummary) :
    verdict? document n summary ≠ some .typingName := by
  unfold verdict?
  split
  · simp
  · split <;> simp

theorem getD_ne_typingName {verdict : Option TagLookup} {answer : TagLookup}
    (hverdict : verdict ≠ some .typingName) (hanswer : answer ≠ .typingName) :
    verdict.getD answer ≠ .typingName := by
  cases verdict with
  | none =>
      exact hanswer
  | some own =>
      rintro rfl
      exact hverdict rfl

theorem searchAbove_ne_typingName (document : Document) (window n : Nat) :
    searchAbove document window n ≠ .typingName := by
  -- of the lines above only what they leave open is asked
  induction n generalizing window with
  | zero =>
      simp [searchAbove]
  | succ n ih =>
      cases window with
      | zero =>
          simp [searchAbove]
      | succ window =>
          rw [searchAbove_succ]
          exact getD_ne_typingName (verdict?_ne_typingName _ _ _) (ih window)

/-- Only the line of the position is asked whether a name is being typed. -/
theorem scanTag_eq_typingName_iff {document : Document} {position : Position}
    {settings : CompletionSettings} (hcontains : document.Contains position) :
    scanTag document position settings = .typingName ↔
      1 ≤ settings.lookbackLines ∧ EndsInTagStart (document.textBefore position) := by
  by_cases hwindow : 1 ≤ settings.lookbackLines
  · have habove := getD_ne_typingName
      (verdict?_ne_typingName document position.line (scanLine (document.textBefore position)))
      (searchAbove_ne_typingName document (settings.lookbackLines - 1) position.line)
    rw [scanTag, enclosingTag_of_window hcontains hwindow, ← typingName_scanLine_iff]
    cases (scanLine (document.textBefore position)).typingName with
    | true =>
        simp [hwindow]
    | false =>
        simp [habove]
  · have hzero : settings.lookbackLines = 0 := Nat.eq_zero_of_not_pos hwindow
    simp [scanTag, hzero, enclosingTag_zero]

/-- Where no tag encloses a position, a tag name is asked for behind `<` and behind the beginning
of a tag. -/
theorem startsTag_iff {document : Document} {position : Position}
    {settings : CompletionSettings} (hcontains : document.Contains position) :
    startsTag document position (scanTag document position settings) = true ↔
      (∃ front, document.textBefore position = front ++ ['<']) ∨
        1 ≤ settings.lookbackLines ∧ EndsInTagStart (document.textBefore position) := by
  rw [startsTag, Bool.or_eq_true, beq_iff_eq, beq_iff_eq, scanTag_eq_typingName_iff hcontains,
    Document.charBefore?, List.getLast?_eq_some_iff, or_comm]

/-! ## Values without a tag -/

theorem exists_quote_of_parseProbe? {cs : List Char} {name : String}
    (h : parseProbe? cs = some name) : ∃ c ∈ cs, isQuote c = true := by
  obtain ⟨spelling, value, rfl, _, hopen, _⟩ := parseProbe?_eq_some_iff.1 h
  by_contra hnone
  have hvalue : ∀ c ∈ value, isQuote c = false := by
    intro c hc
    exact Bool.eq_false_iff.2 fun hquote => hnone ⟨c, by simp [hc], hquote⟩
  simp [opensValue_of_no_quote hvalue] at hopen

theorem exists_quote_of_valuedAttribute? {document : Document} {position : Position}
    {name : String} (h : valuedAttribute? document position = some name) :
    ∃ c ∈ document.textBefore position, isQuote c = true := by
  obtain ⟨c, hc, hquote⟩ := exists_quote_of_parseProbe? h
  exact ⟨c, List.mem_of_mem_drop hc, hquote⟩

theorem contains_of_valuedAttribute? {document : Document} {position : Position} {name : String}
    (h : valuedAttribute? document position = some name) : document.Contains position := by
  obtain ⟨c, hc, _⟩ := exists_quote_of_valuedAttribute? h
  have hline : c ∈ document.lineText position.line := List.mem_of_mem_take hc
  by_contra hnot
  -- a line that is not there reads as the empty one
  have hnone : document.lines[position.line]? = none :=
    List.getElem?_eq_none (Nat.le_of_not_lt hnot)
  simp [Document.lineText, Document.line?, hnone] at hline

/-- What stands behind the last quote ends in `<`, or in the beginning of a tag: a `<` that no
value holds, and name characters. -/
def ValueEndsInTag (window : Nat) (before : List Char) : Prop :=
  ∃ outer quote value letters, before = outer ++ quote :: (value ++ '<' :: letters) ∧
    isQuote quote = true ∧ (∀ c ∈ value, isQuote c = false) ∧
      (∀ c ∈ letters, isNameChar c = true) ∧
        (letters = [] ∨ 1 ≤ window ∧ ∀ q, ¬ (run 0 .start (outer ++ quote :: value)).state.holds q)

/-- Neither `<` nor the characters of a name are quotes. -/
theorem exists_last_quote {front letters : List Char}
    (hletters : ∀ c ∈ letters, isNameChar c = true)
    (hquote : ∃ c ∈ front ++ '<' :: letters, isQuote c = true) :
    ∃ outer quote value, front = outer ++ quote :: value ∧ isQuote quote = true ∧
      ∀ c ∈ value, isQuote c = false := by
  obtain ⟨c, hc, hkind⟩ := hquote
  apply Text.exists_last
  refine ⟨c, ?_, hkind⟩
  rcases List.mem_append.1 hc with hfront | hend
  · exact hfront
  rcases List.mem_cons.1 hend with rfl | hletter
  · exact absurd hkind (by decide)
  · have hplain := isPlain_iff.1 (isPlain_of_isNameChar (hletters c hletter))
    simp [hplain.2.1] at hkind

/-- Behind a quote the beginning of a tag lies within the value. -/
theorem valueEndsInTag_iff {window : Nat} {before : List Char}
    (hquote : ∃ c ∈ before, isQuote c = true) :
    ValueEndsInTag window before ↔
      (∃ front, before = front ++ ['<']) ∨ 1 ≤ window ∧ EndsInTagStart before := by
  constructor
  · rintro ⟨outer, quote, value, letters, rfl, _, _, hletters, rfl | ⟨hwindow, hfree⟩⟩
    · exact .inl ⟨outer ++ quote :: value, by simp⟩
    · exact .inr ⟨hwindow, outer ++ quote :: value, letters, by simp, hletters, hfree⟩
  -- no quote follows the `<`, so the last one stands before it
  · rintro (⟨front, rfl⟩ | ⟨hwindow, front, letters, rfl, hletters, hfree⟩)
    · have hnone : ∀ c ∈ ([] : List Char), isNameChar c = true := by simp
      obtain ⟨outer, quote, value, rfl, hkind, hvalue⟩ := exists_last_quote hnone hquote
      exact ⟨outer, quote, value, [], by simp, hkind, hvalue, hnone, .inl rfl⟩
    · obtain ⟨outer, quote, value, rfl, hkind, hvalue⟩ := exists_last_quote hletters hquote
      exact ⟨outer, quote, value, letters, by simp, hkind, hvalue, hletters, .inr ⟨hwindow, hfree⟩⟩

/-- The value of an attribute that belongs to no tag has no context, in a script or outside, but
where it ends in the beginning of a tag. -/
theorem nothing_of_value_without_tag_iff {document : Document} {position : Position}
    {settings : CompletionSettings} {name : String}
    (hvalued : valuedAttribute? document position = some name)
    (hnot : ∀ tag, scanTag document position settings ≠ .found tag) :
    classify document position settings = .nothing ↔
      underScript document position settings = true ∨
        ¬ ValueEndsInTag settings.lookbackLines (document.textBefore position) := by
  have hcontains := contains_of_valuedAttribute? hvalued
  rw [classify_of_not_found hcontains hnot,
    valueEndsInTag_iff (exists_quote_of_valuedAttribute? hvalued), ← startsTag_iff hcontains]
  cases startsTag document position (scanTag document position settings) <;>
    cases underScript document position settings <;> simp

/-- A `<` within the value makes no difference when other characters than those of a name follow. -/
theorem nothing_of_comparison_without_tag :
    classify (.ofText "<el-button\n  size=\"small\">\n  type=\"a < b") ⟨2, 13⟩ {} = .nothing ∧
      ¬ ValueEndsInTag 10 "  type=\"a < b".toList := by
  have hvalued : valuedAttribute? (.ofText "<el-button\n  size=\"small\">\n  type=\"a < b") ⟨2, 13⟩ =
      some "type" := by decide
  have hlookup : scanTag (.ofText "<el-button\n  size=\"small\">\n  type=\"a < b") ⟨2, 13⟩ {} =
      .outside := by decide
  have hcontext : classify (.ofText "<el-button\n  size=\"small\">\n  type=\"a < b") ⟨2, 13⟩ {} =
      .nothing := by decide
  have hscript : underScript (.ofText "<el-button\n  size=\"small\">\n  type=\"a < b") ⟨2, 13⟩ {} =
      false := by decide
  have hends := (nothing_of_value_without_tag_iff hvalued (by simp [hlookup])).1 hcontext
  exact ⟨hcontext, hends.resolve_left (by simp [hscript])⟩

/-- Right behind the `<` of `type="<` a tag name is asked for, though no tag is open. -/
theorem tagName_in_value_without_tag :
    valuedAttribute? (.ofText "<el-button\n  size=\"small\">\n  type=\"<") ⟨2, 9⟩ = some "type" ∧
      scanTag (.ofText "<el-button\n  size=\"small\">\n  type=\"<") ⟨2, 9⟩ {} = .outside ∧
      classify (.ofText "<el-button\n  size=\"small\">\n  type=\"<") ⟨2, 9⟩ {} = .tagName := by
  decide

end Markup
end MarkupAssist
