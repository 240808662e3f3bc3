import MarkupAssist.Proofs.Document.Reading
import MarkupAssist.Proofs.Markup.Search

/-!
# What a context rests on

Only the text before the cursor on its line and the lines of the window above it decide which
tag a position is in. Two positions that have these in common, in whatever documents and on
whatever lines, get the same answer; the places of tags differ as the starts of the two lines do.

- `Document.lineAbove?` : a line, counted upward from another one
- `AgreeWithin`         : two positions with the same text before them and the same lines above
- `TagLookup.Moved`, `Context.Moved` : the same answer, for a tag that stands so much further on

The search is followed in both documents at once (`searchAbove_moved`): a line that is looked at
is the same in both, so both searches stop at it or both go on, and the distance between the
starts of the lines stays what it was.
-/

namespace MarkupAssist

namespace Document

/-- The line that is `k` lines above line `n`. -/
def lineAbove? (document : Document) (n k : Nat) : Option (List Char) :=
  if k ≤ n then document.line? (n - k) else none

theorem lineAbove?_succ (document : Document) (n k : Nat) :
    document.lineAbove? (n + 1) (k + 1) = document.lineAbove? n k := by
  simp [lineAbove?]

theorem lineAbove?_one (document : Document) (n : Nat) :
    document.lineAbove? (n + 1) 1 = document.line? n := by
  simp [lineAbove?]

/-- A line that is the first one above another has its equal where that one is compared with. -/
theorem exists_line_of_lineAbove? {d e : Document} {m n : Nat} (hm : m < d.lineCount)
    (h : d.lineAbove? (m + 1) 1 = e.lineAbove? n 1) :
    ∃ k line, n = k + 1 ∧ d.lineText m = line ∧ e.lineText k = line := by
  have hline : d.line? m = some d.lines[m] := List.getElem?_eq_getElem hm
  rw [lineAbove?_one, hline] at h
  cases n with
  | zero =>
      simp [lineAbove?] at h
  | succ k =>
      rw [lineAbove?_one] at h
      exact ⟨k, d.lines[m], rfl, by simp [lineText, hline], by simp [lineText, ← h]⟩

/-- How much further the start of line `n` of `e` is from its beginning than that of line `m`
of `d`. -/
def distance (d : Document) (m : Nat) (e : Document) (n : Nat) : Int :=
  e.offsetAt ⟨n, 0⟩ - d.offsetAt ⟨m, 0⟩

theorem distance_succ {d e : Document} {m n : Nat} (hm : m < d.lineCount) (hn : n < e.lineCount)
    (hline : d.lineText m = e.lineText n) : distance d (m + 1) e (n + 1) = distance d m e n := by
  have hd : d.offsetAt ⟨m + 1, 0⟩ = d.offsetAt ⟨m, 0⟩ + (d.lineText m).length + 1 :=
    offsetAt_succ hm
  have he : e.offsetAt ⟨n + 1, 0⟩ = e.offsetAt ⟨n, 0⟩ + (e.lineText n).length + 1 :=
    offsetAt_succ hn
  rw [hline] at hd
  simp only [distance, hd, he]
  omega

end Document

namespace Markup

open Document (distance)

/-! ## Answers at two places -/

def TagLookup.Moved (distance : Int) : TagLookup → TagLookup → Prop
  | .found tag, .found other => other.name = tag.name ∧ (other.offset : Int) - tag.offset = distance
  | lookup, other => other = lookup

def Context.Moved (distance : Int) : Context → Context → Prop
  | .attributeName tag offset, .attributeName other place =>
      other = tag ∧ (place : Int) - offset = distance
  | context, other => other = context

/-- One is a tag name that is being typed, and the other calls for nothing. -/
def Context.Exchanged (context other : Context) : Prop :=
  context = .tagName ∧ other = .nothing ∨ context = .nothing ∧ other = .tagName

/-- Two positions inside their documents with the same text before them on their lines, and the
same lines above them as far as a window reaches. -/
structure AgreeWithin (window : Nat) (d : Document) (p : Position) (e : Document) (q : Position) :
    Prop where
  inside : d.Contains p
  insideOther : e.Contains q
  before : d.textBefore p = e.textBefore q
  above : ∀ k, 1 ≤ k → k < window → d.lineAbove? p.line k = e.lineAbove? q.line k

/-! ## The search in both documents -/

variable {d e : Document} {m n : Nat}

theorem verdict?_moved {summary : LineSummary}
    (hd : ∀ tag, summary.openTag = some tag → tag.column ≤ (d.lineText m).length)
    (he : ∀ tag, summary.openTag = some tag → tag.column ≤ (e.lineText n).length) :
    Option.Rel (TagLookup.Moved (distance d m e n)) (verdict? d m summary)
      (verdict? e n summary) := by
  cases htag : summary.openTag with
  | some tag =>
      have hoffset : d.offsetAt ⟨m, tag.column⟩ = d.offsetAt ⟨m, 0⟩ + tag.column :=
        Document.offsetAt_eq_add (hd tag htag)
      have hother : e.offsetAt ⟨n, tag.column⟩ = e.offsetAt ⟨n, 0⟩ + tag.column :=
        Document.offsetAt_eq_add (he tag htag)
      simp only [verdict?, htag]
      refine .some ⟨rfl, ?_⟩
      simp only [hoffset, hother, distance]
      omega
  | none =>
      simp only [verdict?, htag]
      split
      · exact .some rfl
      · exact .none

/-- Both searches stop at a line, or both go on. -/
theorem TagLookup.moved_getD {distance : Int} {verdict other : Option TagLookup}
    {rest otherRest : TagLookup} (h : Option.Rel (TagLookup.Moved distance) verdict other)
    (hrest : TagLookup.Moved distance rest otherRest) :
    TagLookup.Moved distance (verdict.getD rest) (other.getD otherRest) := by
  cases h with
  | some hanswer =>
      exact hanswer
  | none =>
      exact hrest

theorem searchAbove_moved {window : Nat} (hm : m ≤ d.lineCount) (hn : n ≤ e.lineCount)
    (h : ∀ k, 1 ≤ k → k ≤ window → d.lineAbove? m k = e.lineAbove? n k) :
    TagLookup.Moved (distance d m e n) (searchAbove d window m) (searchAbove e window n) := by
  induction window generalizing m n with
  | zero =>
      rw [searchAbove_zero, searchAbove_zero]
      rfl
  | succ window ih =>
      have hfirst := h 1 (Nat.le_refl 1) (Nat.le_add_left 1 window)
      cases m with
      | zero =>
          cases n with
          | zero =>
              rfl
          | succ n =>
              -- one document has a line here, and the other one does not
              rcases Document.exists_line_of_lineAbove? hn hfirst.symm with ⟨k, line, hk, _⟩
              cases hk
      | succ m =>
          rcases Document.exists_line_of_lineAbove? hm hfirst with ⟨n, line, rfl, hd, he⟩
          have hcolumn : ∀ tag, (scanLine line).openTag = some tag → tag.column ≤ line.length := by
            intro tag htag
            exact Nat.le_of_lt (column_lt_of_scanLine htag)
          have hverdict : Option.Rel (TagLookup.Moved (distance d m e n))
              (verdict? d m (scanLine line)) (verdict? e n (scanLine line)) :=
            verdict?_moved (by rwa [hd]) (by rwa [he])
          have hrest : TagLookup.Moved (distance d m e n) (searchAbove d window m)
              (searchAbove e window n) := by
            refine ih (Nat.le_of_succ_le hm) (Nat.le_of_succ_le hn) ?_
            intro k hk hwindow
            have habove := h (k + 1) (Nat.le_add_left 1 k) (Nat.succ_le_succ hwindow)
            rwa [Document.lineAbove?_succ, Document.lineAbove?_succ] at habove
          -- the line itself is as long in both documents, so their distance is the same above it
          rw [Document.distance_succ hm hn (hd.trans he.symm), searchAbove_succ,
            searchAbove_succ, hd, he]
          exact TagLookup.moved_getD hverdict hrest

theorem scanTag_moved {p q : Position} {settings : CompletionSettings}
    (h : AgreeWithin settings.lookbackLines d p e q) :
    TagLookup.Moved (distance d p.line e q.line) (scanTag d p settings) (scanTag e q settings) := by
  rw [scanTag, scanTag]
  cases hwindow : settings.lookbackLines with
  | zero =>
      rw [enclosingTag_zero, enclosingTag_zero]
      rfl
  | succ window =>
      have hpositive : 1 ≤ window + 1 := Nat.le_add_left 1 window
      have hcolumn : ∀ tag, (scanLine (e.textBefore q)).openTag = some tag →
          tag.column ≤ (e.textBefore q).length := by
        intro tag htag
        exact Nat.le_of_lt (column_lt_of_scanLine htag)
      have hverdict : Option.Rel (TagLookup.Moved (distance d p.line e q.line))
          (verdict? d p.line (scanLine (e.textBefore q)))
          (verdict? e q.line (scanLine (e.textBefore q))) := by
        refine verdict?_moved ?_ ?_
        · intro tag htag
          exact Nat.le_trans (h.before ▸ hcolumn tag htag) (d.length_textBefore_le p)
        · intro tag htag
          exact Nat.le_trans (hcolumn tag htag) (e.length_textBefore_le q)
      have hrest : TagLookup.Moved (distance d p.line e q.line) (searchAbove d window p.line)
          (searchAbove e window q.line) := by
        refine searchAbove_moved (Nat.le_of_lt h.inside) (Nat.le_of_lt h.insideOther) ?_
        intro k hk hle
        exact h.above k hk (hwindow ▸ Nat.lt_succ_of_le hle)
      rw [enclosingTag_of_window h.inside hpositive, enclosingTag_of_window h.insideOther hpositive,
        h.before]
      split
      · rfl
      · exact TagLookup.moved_getD hverdict hrest

/-! ## Contexts -/

theorem TagLookup.Moved.exists_found {distance : Int} {tag : EnclosingTag} {other : TagLookup}
    (h : TagLookup.Moved distance (.found tag) other) :
    ∃ place : Nat, other = .found ⟨tag.name, place⟩ ∧ (place : Int) - tag.offset = distance := by
  cases other with
  | found found =>
      rcases h with ⟨hname, hplace⟩
      exact ⟨found.offset, by rw [← hname], hplace⟩
  | _ =>
      cases h

theorem TagLookup.Moved.eq_of_not_found {distance : Int} {lookup other : TagLookup}
    (h : TagLookup.Moved distance lookup other) (hlookup : ∀ tag, lookup ≠ .found tag) :
    other = lookup := by
  cases lookup with
  | found tag =>
      exact absurd rfl (hlookup tag)
  | _ =>
      exact h

theorem Context.Moved.exists_attributeName {distance : Int} {tag : String} {offset : Nat}
    {other : Context} (h : Context.Moved distance (.attributeName tag offset) other) :
    ∃ place : Nat, other = .attributeName tag place ∧ (place : Int) - offset = distance := by
  cases other with
  | attributeName found place =>
      rcases h with ⟨rfl, hplace⟩
      exact ⟨place, rfl, hplace⟩
  | _ =>
      cases h

section Contexts

variable {p q : Position} {settings : CompletionSettings}

theorem classify_moved_of_found (h : AgreeWithin settings.lookbackLines d p e q)
    {tag : EnclosingTag} (hfound : scanTag d p settings = .found tag) :
    Context.Moved (distance d p.line e q.line) (classify d p settings)
      (classify e q settings) := by
  have hvalued : valuedAttribute? d p = valuedAttribute? e q :=
    congrArg (fun before => parseProbe? (probe before)) h.before
  have hmoved := scanTag_moved h
  rw [hfound] at hmoved
  rcases hmoved.exists_found with ⟨place, hother, hplace⟩
  rw [classify_of_found hfound, classify_of_found hother, hvalued]
  cases valuedAttribute? e q with
  | some name =>
      rfl
  | none =>
      exact ⟨rfl, hplace⟩

/-- Without a tag the lines of scripts count as well, and they may lie outside the window. -/
theorem classify_moved_of_not_found (h : AgreeWithin settings.lookbackLines d p e q)
    (hlookup : ∀ tag, scanTag d p settings ≠ .found tag) (distance : Int) :
    Context.Moved distance (classify d p settings) (classify e q settings) ∨
      Context.Exchanged (classify d p settings) (classify e q settings) ∧
        underScript d p settings ≠ underScript e q settings := by
  have hsame : scanTag e q settings = scanTag d p settings :=
    (scanTag_moved h).eq_of_not_found hlookup
  have hstarts : startsTag d p (scanTag d p settings) = startsTag e q (scanTag d p settings) := by
    simp only [startsTag, Document.charBefore?, h.before]
  rw [classify_of_not_found h.inside hlookup,
    classify_of_not_found h.insideOther (hsame ▸ hlookup), hsame, hstarts]
  cases startsTag e q (scanTag d p settings) with
  | false =>
      exact .inl rfl
  | true =>
      cases underScript d p settings <;> cases underScript e q settings <;>
        simp [Context.Moved, Context.Exchanged]

/-- The text before the cursor and the lines of the window are all that counts for the tag a
position is in, and so for the contexts of attributes; whether a tag name may be typed also
depends on the scripts above. -/
theorem context_of_agreeWithin (h : AgreeWithin settings.lookbackLines d p e q) :
    TagLookup.Moved (distance d p.line e q.line) (scanTag d p settings) (scanTag e q settings) ∧
    (Context.Moved (distance d p.line e q.line) (classify d p settings) (classify e q settings) ∨
      Context.Exchanged (classify d p settings) (classify e q settings) ∧
        underScript d p settings ≠ underScript e q settings) ∧
    (∀ tag offset, classify d p settings = .attributeName tag offset →
      ∃ place : Nat, classify e q settings = .attributeName tag place ∧
        (place : Int) - offset = distance d p.line e q.line) ∧
    (∀ tag name, classify d p settings = .attributeValue tag name →
      classify e q settings = .attributeValue tag name) := by
  refine ⟨scanTag_moved h, ?_, ?_, ?_⟩
  · by_cases hfound : ∃ tag, scanTag d p settings = .found tag
    · rcases hfound with ⟨tag, htag⟩
      exact .inl (classify_moved_of_found h htag)
    · exact classify_moved_of_not_found h (fun tag htag => hfound ⟨tag, htag⟩) _
  · intro tag offset hcontext
    have hmoved := classify_moved_of_found h (found_of_attributeName hcontext)
    rw [hcontext] at hmoved
    exact hmoved.exists_attributeName
  · intro tag name hcontext
    rcases found_of_attributeValue hcontext with ⟨offset, hfound, _⟩
    have hmoved := classify_moved_of_found h hfound
    rw [hcontext] at hmoved
    exact hmoved

/-- What stands above the window, right of the cursor and below it may be anything. -/
theorem agreeWithin_of_edit {above above' window below below' : List (List Char)}
    {before right right' : List Char} {reach : Nat}
    (hd : d.lines = above ++ window ++ (before ++ right) :: below)
    (he : e.lines = above' ++ window ++ (before ++ right') :: below')
    (hreach : reach ≤ window.length + 1) :
    AgreeWithin reach d ⟨above.length + window.length, before.length⟩
      e ⟨above'.length + window.length, before.length⟩ := by
  have hline : d.line? (above.length + window.length) = some (before ++ right) := by
    simp [Document.line?, hd]
  have hother : e.line? (above'.length + window.length) = some (before ++ right') := by
    simp [Document.line?, he]
  refine ⟨Document.contains_of_line? hline, Document.contains_of_line? hother, ?_, ?_⟩
  · rw [Document.textBefore_of_line? hline, Document.textBefore_of_line? hother]
  · intro k hk hwindow
    have hle : k ≤ window.length := Nat.le_of_lt_succ (Nat.lt_of_lt_of_le hwindow hreach)
    have hwithin : ∀ (front : List (List Char)) (rest : List (List Char)),
        (front ++ window ++ rest)[front.length + window.length - k]? =
          window[window.length - k]? := by
      intro front rest
      rw [List.append_assoc, Nat.add_sub_assoc hle, List.getElem?_append_right (by omega),
        Nat.add_sub_cancel_left, List.getElem?_append_left (by omega)]
    simp only [Document.lineAbove?, Document.line?, hd, he, hwithin]
    rw [if_pos (by omega), if_pos (by omega)]

/-- A line more above the window, another rest of the line, nothing below any more. -/
theorem context_of_edited_rows :
    classify (.ofText "<script>\n</script>\n\n<el-row\n  :gutter=\"20") ⟨4, 11⟩ { lookbackLines := 2 } =
      .attributeValue "el-row" "gutter" := by
  have hrows : (Document.ofText "<p>\n<el-row\n  :gutter=\"10\">\n</el-row>").lines =
      ["<p>".toList] ++ ["<el-row".toList] ++
        ("  :gutter=\"".toList ++ "10\">".toList) :: ["</el-row>".toList] := by rfl
  have hedited :
      (Document.ofText "<script>\n</script>\n\n<el-row\n  :gutter=\"20").lines =
        ["<script>".toList, "</script>".toList, []] ++ ["<el-row".toList] ++
          ("  :gutter=\"".toList ++ "20".toList) :: [] := by rfl
  have hagree := agreeWithin_of_edit hrows hedited (Nat.le_refl 2)
  have hvalue : classify (.ofText "<p>\n<el-row\n  :gutter=\"10\">\n</el-row>") ⟨2, 11⟩
      { lookbackLines := 2 } = .attributeValue "el-row" "gutter" := by decide
  exact (context_of_agreeWithin hagree).2.2.2 _ _ hvalue

end Contexts

end Markup
end MarkupAssist
