import MarkupAssist.Markup.Context
import MarkupAssist.Proofs.Markup.Automaton

/-!
# Laws of the search for the enclosing tag

The answer rests on the lines above and on the summary of the text before the cursor, and
a tag is found only where the automaton rests.
-/

namespace MarkupAssist

namespace Document

theorem length_textBefore_le (document : Document) (position : Position) :
    (document.textBefore position).length ≤ (document.lineText position.line).length := by
  rw [textBefore, List.length_take]
  exact Nat.min_le_right _ _

theorem contains_of_line? {document : Document} {position : Position} {line : List Char}
    (h : document.line? position.line = some line) : document.Contains position :=
  (List.getElem?_eq_some_iff.1 h).1

theorem textBefore_of_line? {document : Document} {n : Nat} {front back : List Char}
    (h : document.line? n = some (front ++ back)) :
    document.textBefore ⟨n, front.length⟩ = front := by
  simp [textBefore, lineText, h]

/-- Where the lines above are the same, so are the offsets. -/
theorem offsetAt_congr {d e : Document} {n column : Nat} (h : d.lines.take n = e.lines.take n)
    (hd : column ≤ (d.lineText n).length) (he : column ≤ (e.lineText n).length) :
    d.offsetAt ⟨n, column⟩ = e.offsetAt ⟨n, column⟩ := by
  simp only [offsetAt, h, Nat.min_eq_left hd, Nat.min_eq_left he]

end Document

namespace Markup

/-! ## Line by line -/

theorem enclosingTag_of_window {document : Document} {position : Position} {window : Nat}
    (hcontains : document.Contains position) (hwindow : 1 ≤ window) :
    enclosingTag document position window =
      if (scanLine (document.textBefore position)).typingName then .typingName
      else (verdict? document position.line (scanLine (document.textBefore position))).getD
        (searchAbove document (window - 1) position.line) := by
  cases window with
  | zero =>
      exact absurd hwindow (by decide)
  | succ window =>
      simp only [enclosingTag, hcontains, if_true, Nat.add_sub_cancel]
      cases verdict? document position.line (scanLine (document.textBefore position)) <;> rfl

theorem searchAbove_zero (document : Document) (n : Nat) :
    searchAbove document 0 n = .exhausted := by
  cases n <;> rfl

theorem searchAbove_top (document : Document) (window : Nat) :
    searchAbove document window 0 = .exhausted := by
  cases window <;> rfl

theorem searchAbove_succ (document : Document) (window n : Nat) :
    searchAbove document (window + 1) (n + 1) =
      (verdict? document n (scanLine (document.lineText n))).getD
        (searchAbove document window n) := by
  rw [searchAbove]
  cases verdict? document n (scanLine (document.lineText n)) <;> rfl

theorem column_lt_of_scanLine {cs : List Char} {tag : OpenTag}
    (h : (scanLine cs).openTag = some tag) : tag.column < cs.length := by
  have hwithin := within_run_start cs
  rw [scanLine, Progress.summary] at h
  split at h
  · exact hwithin.openTag tag h
  · next column name hstate =>
      cases h
      exact hwithin.tagName column name hstate
  · exact hwithin.openTag tag h
  · exact hwithin.openTag tag h

/-! ## What the answer rests on -/

theorem verdict?_congr {d e : Document} {n : Nat} {summary : LineSummary}
    (h : d.lines.take n = e.lines.take n)
    (hd : ∀ tag, summary.openTag = some tag → tag.column ≤ (d.lineText n).length)
    (he : ∀ tag, summary.openTag = some tag → tag.column ≤ (e.lineText n).length) :
    verdict? d n summary = verdict? e n summary := by
  cases htag : summary.openTag with
  | none =>
      simp [verdict?, htag]
  | some tag =>
      simp [verdict?, htag, Document.offsetAt_congr h (hd tag htag) (he tag htag)]

theorem searchAbove_congr {d e : Document} {n : Nat} (h : d.lines.take n = e.lines.take n)
    (window : Nat) : searchAbove d window n = searchAbove e window n := by
  induction n generalizing window with
  | zero =>
      rw [searchAbove_top, searchAbove_top]
  | succ n ih =>
      cases window with
      | zero =>
          rw [searchAbove_zero, searchAbove_zero]
      | succ window =>
          -- line `n` is the last of the lines that agree, and so are those above it
          have htake : d.lines.take n = e.lines.take n := by
            simpa [List.take_take] using congrArg (List.take n) h
          have hline : d.lineText n = e.lineText n := by
            have hget : d.lines[n]? = e.lines[n]? := by
              simpa [List.getElem?_take] using congrArg (·[n]?) h
            simp [Document.lineText, Document.line?, hget]
          have hcolumn : ∀ tag, (scanLine (e.lineText n)).openTag = some tag →
              tag.column ≤ (e.lineText n).length := by
            intro tag htag
            exact Nat.le_of_lt (column_lt_of_scanLine htag)
          have hverdict : verdict? d n (scanLine (e.lineText n)) =
              verdict? e n (scanLine (e.lineText n)) :=
            verdict?_congr htake (hline ▸ hcolumn) hcolumn
          rw [searchAbove_succ, searchAbove_succ, hline, hverdict, ih htake window]

/-- Two positions on the same line number whose lines above agree get the same answer when the
texts before them have the same summary. -/
theorem enclosingTag_congr {d e : Document} {n i j : Nat} (hd : d.Contains ⟨n, i⟩)
    (he : e.Contains ⟨n, j⟩) (h : d.lines.take n = e.lines.take n)
    (hsummary : scanLine (d.textBefore ⟨n, i⟩) = scanLine (e.textBefore ⟨n, j⟩)) (window : Nat) :
    enclosingTag d ⟨n, i⟩ window = enclosingTag e ⟨n, j⟩ window := by
  cases window with
  | zero =>
      simp [enclosingTag_zero]
  | succ window =>
      have hverdict : verdict? d n (scanLine (e.textBefore ⟨n, j⟩)) =
          verdict? e n (scanLine (e.textBefore ⟨n, j⟩)) := by
        refine verdict?_congr h ?_ ?_
        · intro tag htag
          exact Nat.le_trans (Nat.le_of_lt (column_lt_of_scanLine (hsummary ▸ htag)))
            (d.length_textBefore_le ⟨n, i⟩)
        · intro tag htag
          exact Nat.le_trans (Nat.le_of_lt (column_lt_of_scanLine htag))
            (e.length_textBefore_le ⟨n, j⟩)
      simp only [enclosingTag, hd, he, if_true, hsummary, hverdict, searchAbove_congr h window]

/-! ## Where a tag is found -/

theorem contains_of_found {document : Document} {position : Position} {window : Nat}
    {tag : EnclosingTag} (h : enclosingTag document position window = .found tag) :
    document.Contains position := by
  by_cases hcontains : document.Contains position
  · exact hcontains
  · simp [enclosingTag_of_not_contains hcontains] at h

theorem rests_of_found {document : Document} {position : Position} {window : Nat}
    {tag : EnclosingTag} (h : enclosingTag document position window = .found tag) :
    (run 0 .start (document.textBefore position)).state.rests = true := by
  have hcontains := contains_of_found h
  cases window with
  | zero =>
      simp [enclosingTag_zero] at h
  | succ window =>
      simp only [enclosingTag, hcontains, if_true, scanLine, Progress.summary] at h
      -- the three states that do not rest answer before any line above is looked at
      cases hstate : (run 0 .start (document.textBefore position)).state with
      | opened column =>
          simp [hstate] at h
      | tagName column name =>
          simp [hstate] at h
      | closingTag =>
          have hnone := (sound_run_start (document.textBefore position)).openTag_eq_none
            (by simp [hstate, State.inAttributes])
          simp [hstate, verdict?, hnone] at h
      | _ =>
          rfl

/-! ## Contexts -/

theorem classify_of_found {document : Document} {position : Position}
    {settings : CompletionSettings} {tag : EnclosingTag}
    (h : scanTag document position settings = .found tag) :
    classify document position settings =
      match valuedAttribute? document position with
      | some name => .attributeValue tag.name name
      | none => .attributeName tag.name tag.offset := by
  have hcontains : document.Contains position := contains_of_found h
  cases hvalued : valuedAttribute? document position with
  | some name =>
      simp only [classify, if_pos hcontains, h, hvalued]
  | none =>
      simp only [classify, if_pos hcontains, h, hvalued]

/-- Where a tag is found the probe alone tells the two contexts of attributes apart. -/
theorem classify_eq_attributeName_iff {document : Document} {position : Position}
    {settings : CompletionSettings} {tag : EnclosingTag}
    (h : scanTag document position settings = .found tag) :
    classify document position settings = .attributeName tag.name tag.offset ↔
      valuedAttribute? document position = none := by
  rw [classify_of_found h]
  cases valuedAttribute? document position <;> simp

theorem classify_eq_attributeValue_iff {document : Document} {position : Position}
    {settings : CompletionSettings} {tag : EnclosingTag} {name : String}
    (h : scanTag document position settings = .found tag) :
    classify document position settings = .attributeValue tag.name name ↔
      valuedAttribute? document position = some name := by
  rw [classify_of_found h]
  cases valuedAttribute? document position <;> simp

theorem classify_of_not_found {document : Document} {position : Position}
    {settings : CompletionSettings} (hcontains : document.Contains position)
    (h : ∀ tag, scanTag document position settings ≠ .found tag) :
    classify document position settings =
      if startsTag document position (scanTag document position settings) &&
          !underScript document position settings then .tagName
      else .nothing := by
  rw [classify, if_pos hcontains]
  split
  · next tag hfound =>
      exact absurd hfound (h tag)
  · rfl

/-! ## Contexts that name a tag -/

theorem found_of_attributeName {document : Document} {position : Position}
    {settings : CompletionSettings} {name : String} {offset : Nat}
    (h : classify document position settings = .attributeName name offset) :
    scanTag document position settings = .found ⟨name, offset⟩ := by
  unfold classify at h
  split at h
  · split at h
    · next tag hfound =>
        split at h
        · simp at h
        · cases h
          exact hfound
    · split at h <;> simp at h
  · simp at h

theorem found_of_attributeValue {document : Document} {position : Position}
    {settings : CompletionSettings} {tag name : String}
    (h : classify document position settings = .attributeValue tag name) :
    ∃ offset, scanTag document position settings = .found ⟨tag, offset⟩ ∧
      valuedAttribute? document position = some name := by
  unfold classify at h
  split at h
  · split at h
    · next tag hfound =>
        split at h
        · next name hname =>
            cases h
            exact ⟨tag.offset, hfound, hname⟩
        · simp at h
    · split at h <;> simp at h
  · simp at h

end Markup
end MarkupAssist
