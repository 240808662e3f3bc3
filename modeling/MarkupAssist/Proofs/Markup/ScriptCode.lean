import MarkupAssist.Engine.Request
import MarkupAssist.Proofs.Markup.Search
import MarkupAssist.Proofs.Text.Word

/-!
# Script code

A position lies in a script when the nearest line above it that says anything about scripts opens
one. No tag name is asked for there. A tag that is found there, in an open comparison as it may be
or on the opener itself, is one nevertheless, and its attributes are asked for.

- `ScriptOpener`    : a line that opens a script, as it is written
- `NearestMarker`   : the line above that decides
- `classify_script` : the contexts of script code
-/

namespace MarkupAssist
namespace Markup

/-! ## Lines that say something about scripts -/

theorem occursIn_iff (pattern line : List Char) :
    occursIn pattern line = true ↔ pattern <:+: line := by
  induction line with
  | nil =>
      rw [occursIn, List.isEmpty_iff, List.infix_nil]
  | cons c rest ih =>
      rw [occursIn, Bool.or_eq_true, List.isPrefixOf_iff_prefix, ih, List.infix_cons_iff]

/-- White space, `<script`, any text, `>`, and white space. -/
def ScriptOpener (line : List Char) : Prop :=
  ∃ before middle after, line = before ++ (scriptStart ++ (middle ++ '>' :: after)) ∧
    (∀ c ∈ before, Text.isSpace c = true) ∧ ∀ c ∈ after, Text.isSpace c = true

theorem opensScript_iff (line : List Char) : opensScript line = true ↔ ScriptOpener line := by
  rw [opensScript, Bool.and_eq_true, List.isPrefixOf_iff_prefix, beq_iff_eq]
  constructor
  · rintro ⟨⟨rest, hrest⟩, hlast⟩
    rw [← hrest, List.drop_left, List.getLast?_eq_some_iff] at hlast
    obtain ⟨middle, rfl⟩ := hlast
    obtain ⟨before, after, hline, hbefore, hafter⟩ := Text.exists_trim line
    refine ⟨before, middle, after, ?_, hbefore, hafter⟩
    rw [hline, ← hrest]
    simp
  -- neither `<` nor `>` is white space, so that trimming stops at them
  · rintro ⟨before, middle, after, rfl, hbefore, hafter⟩
    have htrim : Text.trim (before ++ (scriptStart ++ (middle ++ '>' :: after))) =
        scriptStart ++ (middle ++ ['>']) := by
      have hcut : Text.trim (before ++ ('<' :: ("script".toList ++ middle) ++ '>' :: after)) =
          '<' :: ("script".toList ++ middle) ++ ['>'] :=
        Text.trim_between hbefore hafter (by decide) (by decide)
      have hstart : scriptStart = '<' :: "script".toList := by decide
      rw [hstart]
      simpa only [List.cons_append, List.append_assoc] using hcut
    rw [htrim, List.drop_left]
    exact ⟨List.prefix_append _ _, by simp⟩

theorem marker?_of_opener {line : List Char} (hopens : ScriptOpener line)
    (hends : ¬ scriptEnd <:+: line) : marker? line = some true := by
  have hopen : opensScript line = true := (opensScript_iff line).2 hopens
  have hend : endsScript line = false := Bool.eq_false_iff.2 (mt (occursIn_iff _ _).1 hends)
  rw [marker?, hend, hopen]
  rfl

theorem marker?_of_neither {line : List Char} (hopens : ¬ ScriptOpener line)
    (hends : ¬ scriptEnd <:+: line) : marker? line = none := by
  have hopen : opensScript line = false := Bool.eq_false_iff.2 (mt (opensScript_iff line).1 hopens)
  have hend : endsScript line = false := Bool.eq_false_iff.2 (mt (occursIn_iff _ _).1 hends)
  rw [marker?, hend, hopen]
  rfl

/-! ## The nearest of them -/

/-- Of the lines above `n`, line `k` is the nearest that says anything about scripts. -/
structure NearestMarker (document : Document) (n k : Nat) (inside : Bool) : Prop where
  above : k < n
  marks : marker? (document.lineText k) = some inside
  between : ∀ m, k < m → m < n → marker? (document.lineText m) = none

/-- It decides, if so many lines are looked at. -/
theorem insideScript_of_nearest {document : Document} {n k limit : Nat} {inside : Bool}
    (h : NearestMarker document n k inside) (hlimit : n ≤ k + limit) :
    insideScript document limit n = inside := by
  induction n generalizing limit with
  | zero =>
      exact absurd h.above (Nat.not_lt_zero k)
  | succ n ih =>
      cases limit with
      | zero =>
          exact absurd h.above (Nat.not_lt_of_le hlimit)
      | succ limit =>
          rw [insideScript]
          rcases Nat.lt_or_eq_of_le (Nat.le_of_lt_succ h.above) with hlt | rfl
          -- the line below the nearest one says nothing, so it is passed
          · have hnearest : NearestMarker document n k inside :=
              ⟨hlt, h.marks, fun m hk hm => h.between m hk (Nat.lt_succ_of_lt hm)⟩
            rw [h.between n hlt (Nat.lt_succ_self n)]
            exact ih hnearest (by omega)
          · rw [h.marks]

theorem inScriptRegion_of_nearest {document : Document} {position : Position} {limit : Option Nat}
    {k : Nat} {inside : Bool}
    (h : NearestMarker document (min position.line document.lastLine + 1) k inside)
    (hlimit : ∀ count ∈ limit, min position.line document.lastLine + 1 ≤ k + count) :
    inScriptRegion document position limit = inside := by
  refine insideScript_of_nearest h ?_
  cases limit with
  | none =>
      exact Nat.le_add_left _ _
  | some count =>
      exact hlimit count rfl

theorem underScript_of_nearest {document : Document} {position : Position}
    {settings : CompletionSettings} {k : Nat} {inside : Bool}
    (hcontains : document.Contains position) (hlimit : settings.scriptScanLines = none)
    (h : NearestMarker document (position.line + 1) k inside) :
    underScript document position settings = inside := by
  have hlast : min position.line document.lastLine = position.line :=
    Nat.min_eq_left (Nat.le_sub_one_of_lt hcontains)
  refine inScriptRegion_of_nearest (by rwa [hlast]) ?_
  simp [hlimit]

/-! ## Contexts of script code -/

theorem classify_ne_of_found {document : Document} {position : Position}
    {settings : CompletionSettings} {tag : EnclosingTag}
    (h : scanTag document position settings = .found tag) :
    classify document position settings ≠ .nothing ∧
      classify document position settings ≠ .tagName := by
  rw [classify_of_found h]
  cases valuedAttribute? document position <;> simp

theorem classify_of_underScript {document : Document} {position : Position}
    {settings : CompletionSettings} {k : Nat} (hlimit : settings.scriptScanLines = none)
    (hmarker : NearestMarker document (position.line + 1) k true)
    (hnot : ∀ tag, scanTag document position settings ≠ .found tag) :
    classify document position settings = .nothing := by
  by_cases hcontains : document.Contains position
  · rw [classify_of_not_found hcontains hnot, underScript_of_nearest hcontains hlimit hmarker]
    simp
  · exact classify_of_not_contains hcontains settings

theorem complete_of_nothing {engine : Engine} {request : Request}
    (h : engine.classify request.document request.position = .nothing) (cancelled : Bool) :
    engine.complete request cancelled = [] := by
  cases cancelled with
  | true =>
      exact engine.complete_of_cancelled request
  | false =>
      rw [engine.complete_eq_suggest, h]
      rfl

/-- In a script no tag name is asked for, and nothing at all unless a tag is found there. -/
theorem classify_script {document : Document} {position : Position}
    {settings : CompletionSettings} {opener : Nat} (hlimit : settings.scriptScanLines = none)
    (habove : opener < position.line) (hopens : ScriptOpener (document.lineText opener))
    (hends : ¬ scriptEnd <:+: document.lineText opener)
    (hplain : ∀ n, opener < n → n ≤ position.line →
      ¬ ScriptOpener (document.lineText n) ∧ ¬ scriptEnd <:+: document.lineText n) :
    classify document position settings ≠ .tagName ∧
    (classify document position settings = .nothing ↔
      ∀ tag, scanTag document position settings ≠ .found tag) ∧
    ((∀ tag, scanTag document position settings ≠ .found tag) →
      ∀ catalogue language cancelled,
        Engine.complete ⟨catalogue, settings⟩ ⟨document, position, language⟩ cancelled = []) := by
  -- the line of the position is asked as well, which is why it must say nothing either
  have hmarker : NearestMarker document (position.line + 1) opener true := by
    refine ⟨Nat.lt_succ_of_lt habove, marker?_of_opener hopens hends, ?_⟩
    intro n hn hle
    obtain ⟨hopen, hend⟩ := hplain n hn (Nat.le_of_lt_succ hle)
    exact marker?_of_neither hopen hend
  have hnothing := classify_of_underScript hlimit hmarker
  refine ⟨?_, ⟨?_, hnothing⟩, ?_⟩
  · by_cases hfound : ∃ tag, scanTag document position settings = .found tag
    · obtain ⟨tag, htag⟩ := hfound
      exact (classify_ne_of_found htag).2
    · rw [hnothing fun tag htag => hfound ⟨tag, htag⟩]
      simp
  · intro hcontext tag htag
    exact (classify_ne_of_found htag).1 hcontext
  · intro hnot catalogue language cancelled
    apply complete_of_nothing
    exact hnothing hnot

/-- Behind a `<` that compares, in a catalogue that has a tag to suggest. -/
theorem complete_script_comparison :
    Engine.complete ⟨.ofLists [{ name := "el-row" }] [] [], {}⟩
      ⟨.ofText "<template>\n</template>\n<script>\n  if (a <", ⟨3, 9⟩, "vue"⟩ false = [] := by
  have hopens : ScriptOpener
      (Document.lineText (.ofText "<template>\n</template>\n<script>\n  if (a <") 2) :=
    (opensScript_iff _).1 (by decide)
  have hends : ¬ scriptEnd <:+:
      Document.lineText (.ofText "<template>\n</template>\n<script>\n  if (a <") 2 :=
    mt (occursIn_iff _ _).2 (by decide)
  have hplain : ∀ n, 2 < n → n ≤ 3 →
      ¬ ScriptOpener (Document.lineText (.ofText "<template>\n</template>\n<script>\n  if (a <") n) ∧
      ¬ scriptEnd <:+:
        Document.lineText (.ofText "<template>\n</template>\n<script>\n  if (a <") n := by
    intro n hn hle
    obtain rfl : n = 3 := by omega
    exact ⟨mt (opensScript_iff _).2 (by decide), mt (occursIn_iff _ _).2 (by decide)⟩
  have hlookup : scanTag (.ofText "<template>\n</template>\n<script>\n  if (a <") ⟨3, 9⟩ {} =
      .typingName := by decide
  exact (classify_script rfl (by decide) hopens hends hplain).2.2 (by simp [hlookup]) _ _ _

/-- `i <n;` reads as a tag that is open, and its attributes are asked for in a script as well. -/
theorem classify_script_loop :
    opensScript (Document.lineText (.ofText "<script>\nfor (let i = 0; i <n; i++") 0) = true ∧
      endsScript (Document.lineText (.ofText "<script>\nfor (let i = 0; i <n; i++") 0) = false ∧
      marker? (Document.lineText (.ofText "<script>\nfor (let i = 0; i <n; i++") 1) = none ∧
      classify (.ofText "<script>\nfor (let i = 0; i <n; i++") ⟨1, 25⟩ {} =
        .attributeName "n" 27 := by
  decide

end Markup
end MarkupAssist
