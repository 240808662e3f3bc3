import Mathlib.Data.List.DropRight
import Mathlib.Data.List.Infix
import MarkupAssist.Proofs.Document.Reading
import MarkupAssist.Proofs.Markup.ScriptCode

/-!
# Scripts in one pass

Scripts are looked for upward, from the line of a position to the nearest line that opens or closes
one. A pass downward over the same lines, which remembers whether a script is open, comes to the
same answer.

- `scriptAfter`        : whether a script is open behind a line
- `scriptLines`        : the lines that count for a position
- `MarksScript`        : a line that says whether a script is open, whatever stands above it
- `underScript_eq_pass`: the search upward is the pass downward
-/

namespace MarkupAssist
namespace Markup

/-! ## One line -/

instance (line : List Char) : Decidable (ScriptOpener line) :=
  decidable_of_iff _ (opensScript_iff line)

/-- What closes a script comes first, even on a line that opens one as well. -/
def scriptAfter (inside : Bool) (line : List Char) : Bool :=
  if scriptEnd <:+: line then false
  else if ScriptOpener line then true
  else inside

def MarksScript (line : List Char) : Prop :=
  scriptEnd <:+: line ∨ ScriptOpener line

theorem marker?_eq (line : List Char) :
    marker? line =
      if scriptEnd <:+: line then some false
      else if ScriptOpener line then some true
      else none := by
  have hends : endsScript line = decide (scriptEnd <:+: line) :=
    Bool.eq_iff_iff.2 (by rw [decide_eq_true_iff]; exact occursIn_iff _ _)
  have hopens : opensScript line = decide (ScriptOpener line) :=
    Bool.eq_iff_iff.2 (by rw [decide_eq_true_iff]; exact opensScript_iff line)
  simp [marker?, hends, hopens]

theorem marker?_getD (line : List Char) (inside : Bool) :
    (marker? line).getD inside = scriptAfter inside line := by
  rw [marker?_eq, scriptAfter]
  split
  · rfl
  · split <;> rfl

theorem marker?_of_marksScript {line : List Char} (h : MarksScript line) :
    marker? line = some (decide (¬ scriptEnd <:+: line)) := by
  rw [marker?_eq]
  by_cases hends : scriptEnd <:+: line
  · simp [hends]
  · simp [hends, h.resolve_left hends]

theorem marker?_of_not_marksScript {line : List Char} (h : ¬ MarksScript line) :
    marker? line = none := by
  rw [MarksScript, not_or] at h
  exact marker?_of_neither h.2 h.1

/-! ## All of them -/

/-- The last lines down to the position's, as many as the limit says. Below the document the last
line counts. -/
def scriptLines (document : Document) (position : Position) (limit : Option Nat) :
    List (List Char) :=
  let lines := document.lines.take (min position.line document.lastLine + 1)
  match limit with
  | some count => lines.rtake count
  | none => lines

/-- The line that is looked at first on the way up is the last one on the way down. -/
theorem insideScript_eq_foldl {document : Document} {n : Nat} (hn : n ≤ document.lineCount)
    (limit : Nat) :
    insideScript document limit n =
      ((document.lines.take n).rtake limit).foldl scriptAfter false := by
  induction n generalizing limit with
  | zero =>
      simp [insideScript]
  | succ n ih =>
      cases limit with
      | zero =>
          simp [insideScript]
      | succ limit =>
          -- the last line is read with what the pass knows by then, and a marker overrides it
          have hrest := ih (Nat.le_of_succ_le hn) limit
          rw [Document.take_lines_succ hn, List.rtake_concat_succ, List.foldl_append, ← hrest,
            List.foldl_cons, List.foldl_nil, ← marker?_getD, insideScript]
          cases marker? (document.lineText n) <;> rfl

theorem lastConsidered_lt (document : Document) (position : Position) :
    min position.line document.lastLine < document.lineCount := by
  have hpos := document.lineCount_pos
  rw [Document.lastLine]
  omega

theorem inScriptRegion_eq_foldl (document : Document) (position : Position) (limit : Option Nat) :
    inScriptRegion document position limit =
      (scriptLines document position limit).foldl scriptAfter false := by
  have hlines : min position.line document.lastLine + 1 ≤ document.lineCount :=
    lastConsidered_lt document position
  rw [inScriptRegion, insideScript_eq_foldl hlines]
  cases limit with
  | some count =>
      rfl
  | none =>
      have hlength : (document.lines.take (min position.line document.lastLine + 1)).length =
          min position.line document.lastLine + 1 :=
        List.length_take_of_le hlines
      rw [Option.getD_none, List.rtake, hlength, Nat.sub_self, List.drop_zero]
      rfl

/-! ## The limit -/

/-- So many lines, counted upward from the last one, reach line `k`. -/
def Covers (limit : Option Nat) (last k : Nat) : Prop :=
  ∀ count ∈ limit, last < k + count

/-- Where the nearest line that marks a script is among those considered, it alone decides. -/
theorem inScriptRegion_of_covers {document : Document} {position : Position} {limit : Option Nat}
    {k : Nat} (hle : k ≤ min position.line document.lastLine)
    (hmarks : MarksScript (document.lineText k))
    (hbetween : ∀ n, k < n → n ≤ min position.line document.lastLine →
      ¬ MarksScript (document.lineText n))
    (hcovers : Covers limit (min position.line document.lastLine) k) :
    inScriptRegion document position limit = decide (¬ scriptEnd <:+: document.lineText k) := by
  -- a marker's verdict is its own: open unless something closes a script there
  have hnearest : NearestMarker document (min position.line document.lastLine + 1) k
      (decide (¬ scriptEnd <:+: document.lineText k)) := by
    refine ⟨Nat.lt_succ_of_le hle, marker?_of_marksScript hmarks, ?_⟩
    intro n hn hlast
    exact marker?_of_not_marksScript (hbetween n hn (Nat.le_of_lt_succ hlast))
  exact inScriptRegion_of_nearest hnearest hcovers

/-- The search upward from a position is the pass downward over the lines considered, and a limit
that covers the nearest line that marks a script is as good as any other that does. -/
theorem underScript_eq_pass (document : Document) (position : Position) :
    let last := min position.line document.lastLine
    (∀ settings : CompletionSettings, underScript document position settings =
      (scriptLines document position settings.scriptScanLines).foldl scriptAfter false) ∧
    ∀ k, k ≤ last → MarksScript (document.lineText k) →
      (∀ n, k < n → n ≤ last → ¬ MarksScript (document.lineText n)) →
      ∀ settings other : CompletionSettings,
        Covers settings.scriptScanLines last k → Covers other.scriptScanLines last k →
        underScript document position settings = underScript document position other := by
  intro last
  constructor
  · intro settings
    exact inScriptRegion_eq_foldl document position settings.scriptScanLines
  · intro k hle hmarks hbetween settings other hcovers hother
    have hanswer := inScriptRegion_of_covers hle hmarks hbetween hcovers
    exact hanswer.trans (inScriptRegion_of_covers hle hmarks hbetween hother).symm

/-- The opener of line 1 closes its script again, and the position is below the last line. -/
theorem underScript_eq_pass_below_opener :
    let document : Document := .ofText "<script>\n<script src></script>\n\n\ta <b"
    underScript document ⟨7, 0⟩ { scriptScanLines := some 3 } = false ∧
      underScript document ⟨7, 0⟩ { scriptScanLines := some 3 } =
        underScript document ⟨7, 0⟩ {} := by
  intro document
  obtain ⟨hpass, hlimits⟩ := underScript_eq_pass document ⟨7, 0⟩
  have hbetween : ∀ n, 1 < n → n ≤ 3 → ¬ MarksScript (document.lineText n) := by
    intro n hn hle
    obtain rfl | rfl : n = 2 ∨ n = 3 := by omega
    · exact not_or.2 ⟨by decide, by decide⟩
    · exact not_or.2 ⟨by decide, by decide⟩
  have hcovers : Covers (some 3) 3 1 := by
    intro count hcount
    cases hcount
    decide
  refine ⟨?_, hlimits 1 (by decide) (.inl (by decide)) hbetween _ _ hcovers ?_⟩
  · rw [hpass]
    decide
  -- without a limit every line is considered
  · exact fun count hcount => absurd hcount (by simp)

end Markup
end MarkupAssist
