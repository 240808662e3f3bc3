import MarkupAssist.Proofs.Markup.LineTracking
import MarkupAssist.Proofs.Markup.Search

/-!
# The search agrees with one pass

In a regular document the search upward, line by line and within its window, answers what a
single pass from the start of the document knows (`scanTag_eq_lookup`).
-/

namespace MarkupAssist
namespace Markup

open ForwardPass (proper_start)

variable {document : Document} {position : Position} {n : Nat}

/-! ## The pass line by line -/

theorem passTo_proper (document : Document) (position : Position) :
    (passTo document position).Proper (document.offsetAt position) := by
  have h := proper_start.run (document.readUpTo position)
  rwa [Nat.zero_add, Document.length_readUpTo] at h

theorem passTo_eq_run (document : Document) (n k : Nat) :
    passTo document ⟨n, k⟩ = ForwardPass.run (document.offsetAt ⟨n, 0⟩) (passTo document ⟨n, 0⟩)
      (document.textBefore ⟨n, k⟩) := by
  rw [passTo, Document.readUpTo_eq_append, ForwardPass.run_append, Document.length_readUpTo,
    Nat.zero_add]
  rfl

theorem passTo_succ (h : n < document.lineCount) :
    passTo document ⟨n + 1, 0⟩ = ForwardPass.run (document.offsetAt ⟨n, 0⟩)
      (passTo document ⟨n, 0⟩) (document.lineText n ++ ['\n']) := by
  rw [passTo, Document.readUpTo_succ h, ForwardPass.run_append, Document.length_readUpTo,
    Nat.zero_add]
  rfl

/-! ## What regularity grants -/

theorem mem_readings (n : Nat) (front back : List Char) (c : Char) (column : Nat) :
    ⟨⟨n, column + front.length⟩, c, back.head?⟩ ∈ readings n column (front ++ c :: back) := by
  induction front generalizing column with
  | nil =>
      simp [readings]
  | cons d front ih =>
      have hrest := ih (column + 1)
      simp only [List.cons_append, readings, List.length_cons, List.mem_cons]
      right
      rwa [Nat.add_right_comm] at hrest

theorem mem_readingsTo {front back : List Char} {c : Char} (hn : n ≤ position.line)
    (h : document.readOfLine position n = front ++ c :: back) :
    ⟨⟨n, front.length⟩, c, back.head?⟩ ∈ readingsTo document position := by
  refine List.mem_flatMap.2 ⟨n, List.mem_range.2 (Nat.lt_succ_of_le hn), ?_⟩
  rw [h]
  simpa using mem_readings n front back c 0

theorem Regular.allowed (hregular : Regular document position) (hn : n ≤ position.line)
    {front back : List Char} {c : Char}
    (h : document.readOfLine position n = front ++ c :: back) :
    Allowed (document.offsetAt ⟨n, 0⟩) (passTo document ⟨n, 0⟩) front c := by
  have hmem := mem_readingsTo hn h
  have hbefore := Document.textBefore_of_readOfLine h hn
  have hpass : ForwardPass.run (document.offsetAt ⟨n, 0⟩) (passTo document ⟨n, 0⟩) front =
      passTo document ⟨n, front.length⟩ := by
    rw [passTo_eq_run document n front.length, hbefore]
  refine ⟨?_, ?_, ?_⟩
  · intro hquote hstate
    have hends := hregular.loose_quotes _ hmem hquote (by rwa [hpass] at hstate)
    rwa [hbefore] at hends
  · intro hquote hstate hbegan
    have hends := hregular.value_quotes _ hmem hquote (by rwa [hpass] at hstate)
      (by rwa [hpass] at hbegan)
    rwa [hbefore] at hends
  · intro earlier hfront hloose hvalue
    have hsplit : document.readOfLine position n = earlier ++ '<' :: (c :: back) := by
      simp [h, hfront]
    have hpass' : ForwardPass.run (document.offsetAt ⟨n, 0⟩) (passTo document ⟨n, 0⟩) earlier =
        passTo document ⟨n, earlier.length⟩ := by
      rw [passTo_eq_run document n earlier.length, Document.textBefore_of_readOfLine hsplit hn]
    rw [hpass'] at hvalue ⊢
    exact hregular.loose_opens _ (mem_readingsTo hn hsplit) rfl hvalue (by simp [hloose])

theorem Regular.tracks (hregular : Regular document position) (hn : n ≤ position.line)
    (hbetween : (passTo document ⟨n, 0⟩).BetweenLines) {line back : List Char}
    (hline : document.readOfLine position n = line ++ back) :
    Tracks (document.offsetAt ⟨n, 0⟩) (passTo document ⟨n, 0⟩) line
      (ForwardPass.run (document.offsetAt ⟨n, 0⟩) (passTo document ⟨n, 0⟩) line)
      (run 0 .start line) := by
  refine Tracks.run_line (passTo_proper document ⟨n, 0⟩) hbetween ?_
  intro front c rest hsplit
  have hread : document.readOfLine position n = front ++ c :: (rest ++ back) := by
    simp [hline, hsplit]
  exact hregular.allowed hn hread

/-- The line break ends a name that is being typed and changes nothing else. -/
theorem verdict?_append_break (document : Document) (n : Nat) (line : List Char) :
    (scanLine (line ++ ['\n'])).typingName = false ∧
      verdict? document n (scanLine (line ++ ['\n'])) = verdict? document n (scanLine line) := by
  have hname : isNameChar '\n' = false := by decide
  have hquote : isQuote '\n' = false := by decide
  simp only [scanLine, run_append, run_cons, run_nil]
  cases hrests : (run 0 .start line).state.rests with
  | true =>
      obtain ⟨_, hsummary⟩ := rests_step_of_no_angle hrests (c := '\n') rfl (0 + line.length)
      rw [hsummary]
      exact ⟨by rw [Progress.summary_of_rests hrests], rfl⟩
  | false =>
      generalize run 0 .start line = p at hrests
      obtain ⟨state, openTag, boundary⟩ := p
      cases state with
      | opened column =>
          simp [step, Progress.moveTo, Progress.summary, verdict?, hname]
      | tagName column name =>
          simp [step, Progress.openWith, Progress.summary, verdict?, hname, hquote]
      | closingTag =>
          simp [step, Progress.summary]
      | _ =>
          simp [State.rests] at hrests

/-! ## From line to line -/

theorem Regular.readOfLine_eq (hn : n < position.line) :
    document.readOfLine position n = document.lineText n ++ ['\n'] := by
  simp [Document.readOfLine, hn]

/-- Before every line the pass is in a text, among attributes or in a closing tag. -/
theorem Regular.betweenLines (hregular : Regular document position)
    (hcontains : document.Contains position) (hn : n ≤ position.line) :
    (passTo document ⟨n, 0⟩).BetweenLines := by
  cases n with
  | zero =>
      exact .inl rfl
  | succ n =>
      have hlt : n < document.lineCount := Nat.lt_of_lt_of_le hn (Nat.le_of_lt hcontains)
      have hline : document.textBefore ⟨n, (document.lineText n).length⟩ = document.lineText n :=
        Document.textBefore_of_length_le (Nat.le_refl _)
      have hclosed := hregular.values_closed n hn
      have hproper := (passTo_proper document ⟨n, 0⟩).run (document.lineText n)
      rw [passTo_eq_run, hline] at hclosed
      rw [passTo_succ hlt, ForwardPass.run_append]
      exact hproper.betweenLines_step hclosed

/-- The search above a line answers what the pass knows before it. -/
theorem Regular.searchAbove_eq_lookup (hregular : Regular document position)
    (hcontains : document.Contains position) (hn : n ≤ position.line) (window : Nat) :
    searchAbove document window n =
      (passTo document ⟨n, 0⟩).lookup (document.offsetAt ⟨n - window, 0⟩) := by
  induction n generalizing window with
  | zero =>
      rw [searchAbove, Nat.zero_sub]
      exact ((passTo_proper document ⟨0, 0⟩).lookup_eq_exhausted (.inl rfl)).symm
  | succ n ih =>
      cases window with
      | zero =>
          have hproper := passTo_proper document ⟨n + 1, 0⟩
          exact (hproper.lookup_eq_exhausted (hregular.betweenLines hcontains hn)).symm
      | succ window =>
          have hlt : n < document.lineCount := Nat.lt_of_lt_of_le hn (Nat.le_of_lt hcontains)
          have hle : n ≤ position.line := Nat.le_of_succ_le hn
          have hread : document.readOfLine position n = (document.lineText n ++ ['\n']) ++ [] := by
            rw [List.append_nil]
            exact readOfLine_eq hn
          -- line `n` with its break decides, or the answer is that of the lines above it
          have htracks := hregular.tracks hle (hregular.betweenLines hcontains hle) hread
          obtain ⟨htyping, hverdict⟩ := verdict?_append_break document n (document.lineText n)
          have hcolumn : ∀ tag, (run 0 .start (document.lineText n ++ ['\n'])).openTag = some tag →
              tag.column ≤ (document.lineText n).length := by
            intro tag htag
            have hlt := (within_run_start _).openTag tag htag
            simp at hlt
            omega
          have hlookup := htracks.lookup_eq rfl
            (Document.offsetAt_mono (Nat.sub_le n window) (Nat.le_of_lt hlt)) hcolumn htyping
          rw [← passTo_succ hlt, ← scanLine, hverdict] at hlookup
          rw [Nat.succ_sub_succ, hlookup, ← ih hle window, searchAbove_succ]

/-- The bounded search from a position upward and the pass from the start of the document give
the same answer: a name that is being typed, the enclosing tag if it begins within the window,
and outside of tags whether one has ended there. -/
theorem scanTag_eq_lookup {settings : CompletionSettings}
    (hcontains : document.Contains position) (hregular : Regular document position)
    (hwindow : 1 ≤ settings.lookbackLines) :
    scanTag document position settings =
      (passTo document position).lookup
        (document.offsetAt ⟨position.line + 1 - settings.lookbackLines, 0⟩) := by
  obtain ⟨n, k⟩ := position
  have hread : document.readOfLine ⟨n, k⟩ n = document.textBefore ⟨n, k⟩ ++ [] := by
    simp [Document.readOfLine]
  -- of the cursor's line only the text before the cursor is read, without a break
  have htracks := hregular.tracks (Nat.le_refl n) (hregular.betweenLines hcontains (Nat.le_refl n))
    hread
  rw [← passTo_eq_run] at htracks
  have hfirst : n + 1 - settings.lookbackLines = n - (settings.lookbackLines - 1) := by
    omega
  rw [scanTag, enclosingTag_of_window hcontains hwindow, hfirst]
  split
  · next htyping =>
      exact (htracks.lookup_of_typing htyping _).symm
  · next htyping =>
      have hcolumn : ∀ tag, (run 0 .start (document.textBefore ⟨n, k⟩)).openTag = some tag →
          tag.column ≤ (document.lineText n).length := by
        intro tag htag
        exact Nat.le_trans (Nat.le_of_lt ((within_run_start _).openTag tag htag))
          (document.length_textBefore_le ⟨n, k⟩)
      have hlookup := htracks.lookup_eq rfl
        (Document.offsetAt_mono (Nat.sub_le n (settings.lookbackLines - 1))
          (Nat.le_of_lt hcontains)) hcolumn (Bool.eq_false_iff.2 htyping)
      rw [hlookup, ← hregular.searchAbove_eq_lookup hcontains (Nat.le_refl n), ← scanLine]

theorem scanTag_continued_tag :
    scanTag (.ofText "<p>It's</p>\n<el-row\n  :gutter=\"a > b\"\n  ") ⟨3, 2⟩ {} =
      .found ⟨"el-row", 12⟩ := by
  have hregular : Regular (.ofText "<p>It's</p>\n<el-row\n  :gutter=\"a > b\"\n  ") ⟨3, 2⟩ :=
    ⟨by decide, by decide, by decide, by decide⟩
  calc
    scanTag (.ofText "<p>It's</p>\n<el-row\n  :gutter=\"a > b\"\n  ") ⟨3, 2⟩ {} = _ :=
      scanTag_eq_lookup (by decide) hregular (by decide)
    _ = .found ⟨"el-row", 12⟩ := by decide +kernel

end Markup
end MarkupAssist
