import MarkupAssist.Proofs.Markup.Search

/-!
# Larger windows

A window of more lines is looked through in the same order, so that a search which came to an
answer comes to it again. Only a search that had run out of lines can come to another one.

- `CompletionSettings.withWindow` : settings with another number of lines to look at
- `TagLookup.Extends`             : an answer that keeps what has been found out already
- `searchAbove_extends`           : the search with more lines
- `context_of_larger_window`      : what that says about contexts
-/

namespace MarkupAssist

def CompletionSettings.withWindow (settings : CompletionSettings) (window : Nat) :
    CompletionSettings :=
  { settings with lookbackLines := window }

namespace Markup

/-! ## The search -/

/-- The same answer, or any where none had been found. -/
def TagLookup.Extends (lookup other : TagLookup) : Prop :=
  lookup ≠ .exhausted → other = lookup

theorem TagLookup.extends_getD (verdict : Option TagLookup) {rest other : TagLookup}
    (h : TagLookup.Extends rest other) :
    TagLookup.Extends (verdict.getD rest) (verdict.getD other) := by
  cases verdict with
  | some answer =>
      exact fun _ => rfl
  | none =>
      exact h

theorem searchAbove_extends (document : Document) {window wider : Nat} (h : window ≤ wider)
    (n : Nat) :
    TagLookup.Extends (searchAbove document window n) (searchAbove document wider n) := by
  induction n generalizing window wider with
  | zero =>
      exact fun _ => by rw [searchAbove_top, searchAbove_top]
  | succ n ih =>
      cases window with
      | zero =>
          exact fun hnot => absurd (searchAbove_zero document (n + 1)) hnot
      | succ window =>
          -- both windows have line `n`, and both are one line shorter above it
          obtain ⟨more, rfl⟩ : ∃ more, wider = more + 1 :=
            Nat.exists_eq_add_one.2 (Nat.lt_of_lt_of_le (Nat.succ_pos window) h)
          rw [searchAbove_succ, searchAbove_succ]
          exact TagLookup.extends_getD _ (ih (Nat.le_of_succ_le_succ h))

/-- There are no more than `n` lines above line `n`. -/
theorem searchAbove_of_le (document : Document) {window n : Nat} (h : n ≤ window) :
    searchAbove document window n = searchAbove document n n := by
  induction n generalizing window with
  | zero =>
      rw [searchAbove_top, searchAbove_top]
  | succ n ih =>
      obtain ⟨more, rfl⟩ : ∃ more, window = more + 1 :=
        Nat.exists_eq_add_one.2 (Nat.lt_of_lt_of_le (Nat.succ_pos n) h)
      rw [searchAbove_succ, searchAbove_succ, ih (Nat.le_of_succ_le_succ h)]

variable (document : Document) (position : Position)

theorem enclosingTag_extends {window wider : Nat} (h : window ≤ wider) :
    TagLookup.Extends (enclosingTag document position window)
      (enclosingTag document position wider) := by
  by_cases hcontains : document.Contains position
  · cases window with
    | zero =>
        exact fun hnot => absurd (enclosingTag_zero document position) hnot
    | succ window =>
        rw [enclosingTag_of_window hcontains (Nat.le_add_left 1 window),
          enclosingTag_of_window hcontains (Nat.le_trans (Nat.le_add_left 1 window) h)]
        -- a name that is being typed is seen on the position's own line, in any window
        split
        · exact fun _ => rfl
        · refine TagLookup.extends_getD _ (searchAbove_extends document ?_ position.line)
          exact Nat.sub_le_sub_right h 1
  · exact fun hnot => absurd (enclosingTag_of_not_contains hcontains window) hnot

theorem enclosingTag_of_lt {window : Nat} (h : position.line < window) :
    enclosingTag document position window =
      enclosingTag document position (position.line + 1) := by
  by_cases hcontains : document.Contains position
  · have hlines : position.line ≤ window - 1 := Nat.le_sub_one_of_lt h
    rw [enclosingTag_of_window hcontains (Nat.one_le_of_lt h),
      enclosingTag_of_window hcontains (Nat.le_add_left 1 position.line),
      searchAbove_of_le document hlines, Nat.add_sub_cancel]
  · rw [enclosingTag_of_not_contains hcontains, enclosingTag_of_not_contains hcontains]

/-! ## Contexts -/

/-- The window counts for a context only by the answer of the search. -/
theorem classify_congr {settings : CompletionSettings} {window wider : Nat}
    (h : scanTag document position (settings.withWindow window) =
      scanTag document position (settings.withWindow wider)) :
    classify document position (settings.withWindow window) =
      classify document position (settings.withWindow wider) := by
  have hscript : underScript document position (settings.withWindow window) =
      underScript document position (settings.withWindow wider) := rfl
  simp only [classify, h, hscript]

/-- What has been decided stays decided with more lines, and all windows from the top of the document
on are one. -/
theorem context_of_larger_window (settings : CompletionSettings) {window wider : Nat}
    (h : window ≤ wider) :
    let near := settings.withWindow window
    let far := settings.withWindow wider
    (scanTag document position near ≠ .exhausted →
      scanTag document position far = scanTag document position near) ∧
    (∀ tag offset, classify document position near = .attributeName tag offset →
      classify document position far = .attributeName tag offset) ∧
    (∀ tag name, classify document position near = .attributeValue tag name →
      classify document position far = .attributeValue tag name) ∧
    (classify document position far ≠ classify document position near →
      scanTag document position near = .exhausted ∧
        scanTag document position far ≠ .exhausted) ∧
    (position.line + 1 ≤ window →
      scanTag document position far = scanTag document position near ∧
        classify document position far = classify document position near) := by
  intro near far
  have hscan : TagLookup.Extends (scanTag document position near)
      (scanTag document position far) := enclosingTag_extends document position h
  have hcontext : scanTag document position near ≠ .exhausted →
      classify document position far = classify document position near := by
    intro hdecided
    exact classify_congr document position (hscan hdecided)
  refine ⟨hscan, ?_, ?_, ?_, ?_⟩
  · intro tag offset hname
    have hfound := found_of_attributeName hname
    exact (hcontext (by simp [hfound])).trans hname
  · intro tag name hvalue
    obtain ⟨offset, hfound, _⟩ := found_of_attributeValue hvalue
    exact (hcontext (by simp [hfound])).trans hvalue
  -- where neither search came to an answer the two are the same again
  · intro hother
    have hnear : scanTag document position near = .exhausted :=
      Classical.byContradiction fun hdecided => hother (hcontext hdecided)
    refine ⟨hnear, fun hfar => hother ?_⟩
    exact classify_congr document position (hfar.trans hnear.symm)
  · intro hline
    have hwhole : scanTag document position far = scanTag document position near :=
      (enclosingTag_of_lt document position (Nat.le_trans hline h)).trans
        (enclosingTag_of_lt document position hline).symm
    exact ⟨hwhole, classify_congr document position hwhole⟩

/-- A tag two lines above: three lines are enough to find it, and two are not. -/
theorem context_of_larger_window_below_tag :
    let document : Document := .ofText "<el-row\n\n  :gutter=\"a"
    let settings : CompletionSettings := {}
    scanTag document ⟨2, 12⟩ (settings.withWindow 10) = .found ⟨"el-row", 0⟩ ∧
      classify document ⟨2, 12⟩ (settings.withWindow 10) = .attributeValue "el-row" "gutter" ∧
      classify document ⟨2, 2⟩ (settings.withWindow 10) = .attributeName "el-row" 0 ∧
      scanTag document ⟨2, 12⟩ (settings.withWindow 2) = .exhausted := by
  intro document settings
  obtain ⟨hscan, _, hvalue, _, _⟩ :=
    context_of_larger_window document ⟨2, 12⟩ settings (show 3 ≤ 10 by decide)
  obtain ⟨_, hname, _, _, _⟩ :=
    context_of_larger_window document ⟨2, 2⟩ settings (show 3 ≤ 10 by decide)
  obtain ⟨_, _, _, hother, _⟩ :=
    context_of_larger_window document ⟨2, 12⟩ settings (show 2 ≤ 3 by decide)
  refine ⟨(hscan (by decide)).trans (by decide), hvalue _ _ (by decide), hname _ _ (by decide), ?_⟩
  exact (hother (by decide)).1

end Markup
end MarkupAssist
