import MarkupAssist.Catalogue.Basic
import MarkupAssist.Markup.Context
import MarkupAssist.Proofs.Document.Reading
import MarkupAssist.Proofs.Markup.Search

/-!
# Tags that are reported

Whatever the text is like, a tag that is found stands in it: its `<`, its name, and a
character that ends the name, all of it before the cursor and within the window.

- `IsName`           : a text made of name characters
- `OpenTag.WrittenIn` : a tag stands in a text, in its column
- `Progress.Located` : what the automaton remembers stands in what it has read
- `Reported`         : where in a document a tag stands that was found from a position

The place of a tag in its line is kept by every step of the automaton (`Progress.Located.step`),
and the lines are put together by `Document.readUpTo_prefix_joined`.
-/

namespace MarkupAssist
namespace Markup

/-! ## Names -/

def IsName (name : String) : Prop :=
  name.toList ≠ [] ∧ ∀ c ∈ name.toList, isNameChar c = true

theorem IsName.singleton {c : Char} (h : isNameChar c = true) : IsName (String.singleton c) := by
  simp [IsName, h]

theorem IsName.push {name : String} (hname : IsName name) {c : Char} (h : isNameChar c = true) :
    IsName (name.push c) := by
  refine ⟨by simp, ?_⟩
  intro d hd
  rw [String.toList_push, List.mem_append, List.mem_singleton] at hd
  rcases hd with hd | rfl
  · exact hname.2 d hd
  · exact h

theorem IsName.slash_not_mem {name : String} (h : IsName name) : '/' ∉ name.toList := by
  intro hmem
  exact absurd (h.2 '/' hmem) (by decide)

/-- The key of an attribute for one tag alone is no name. -/
theorem IsName.ne_scopedKey {name : String} (h : IsName name) (tag own : String) :
    name ≠ Catalogue.scopedKey tag own := by
  rintro rfl
  exact h.slash_not_mem (by simp [Catalogue.scopedKey])

/-! ## What a step remembers -/

/-- A tag is remembered when a character ends its name, and kept from then on. -/
theorem openTag_step {column : Nat} {c : Char} {p : Progress} {tag : OpenTag}
    (h : (step column c p).openTag = some tag) :
    p.openTag = some tag ∨ p.state = .tagName tag.column tag.name ∧ isNameChar c = false := by
  obtain ⟨state, openTag, boundary⟩ := p
  cases state <;> simp only [step] at h ⊢ <;>
    grind [Progress.moveTo, Progress.strayEnd, Progress.endTag, Progress.reopen, Progress.openWith]

theorem opened_step {column start : Nat} {c : Char} {p : Progress}
    (h : (step column c p).state = .opened start) : c = '<' ∧ start = column := by
  obtain ⟨state, openTag, boundary⟩ := p
  cases state <;> simp only [step] at h <;>
    grind [Progress.moveTo, Progress.strayEnd, Progress.endTag, Progress.reopen, Progress.openWith]

theorem tagName_step {column start : Nat} {c : Char} {p : Progress} {name : String}
    (h : (step column c p).state = .tagName start name) :
    isNameChar c = true ∧
      (p.state = .opened start ∧ name = String.singleton c ∨
        ∃ begun, p.state = .tagName start begun ∧ name = begun.push c) := by
  obtain ⟨state, openTag, boundary⟩ := p
  cases state <;> simp only [step] at h ⊢ <;>
    grind [Progress.moveTo, Progress.strayEnd, Progress.endTag, Progress.reopen, Progress.openWith]

/-! ## Tags in a text -/

/-- In its column the `<`, then the name, then a character that is no part of it. -/
def OpenTag.WrittenIn (tag : OpenTag) (text : List Char) : Prop :=
  IsName tag.name ∧
    ∃ c, isNameChar c = false ∧ '<' :: (tag.name.toList ++ [c]) <+: text.drop tag.column

theorem OpenTag.WrittenIn.append {tag : OpenTag} {text : List Char} (h : tag.WrittenIn text)
    (more : List Char) : tag.WrittenIn (text ++ more) := by
  obtain ⟨hname, c, hc, hbegins⟩ := h
  refine ⟨hname, c, hc, ?_⟩
  rw [List.drop_append]
  exact hbegins.trans (List.prefix_append _ _)

theorem drop_concat {text word : List Char} {k : Nat} (h : text.drop k = word) (hne : word ≠ [])
    (c : Char) : (text ++ [c]).drop k = word ++ [c] := by
  have hk : k ≤ text.length := by
    rcases Nat.le_total k text.length with hle | hle
    · exact hle
    · exact absurd (h.symm.trans (List.drop_of_length_le hle)) hne
  rw [List.drop_append_of_le_length hk, h]

structure Progress.Located (text : List Char) (p : Progress) : Prop where
  openTag : ∀ tag, p.openTag = some tag → tag.WrittenIn text
  opened : ∀ column, p.state = .opened column → text.drop column = ['<']
  tagName : ∀ column name, p.state = .tagName column name →
    IsName name ∧ text.drop column = '<' :: name.toList

theorem Progress.located_start : Progress.start.Located [] where
  openTag := by simp [Progress.start]
  opened := by simp [Progress.start]
  tagName := by simp [Progress.start]

theorem Progress.Located.step {text : List Char} {p : Progress} (h : p.Located text) (c : Char) :
    (step text.length c p).Located (text ++ [c]) where
  openTag := by
    intro tag htag
    -- a tag that is remembered stays where it is; one that has just ended has `c` behind its name
    rcases openTag_step htag with hbefore | ⟨hstate, hc⟩
    · exact (h.openTag tag hbefore).append [c]
    · obtain ⟨hname, hdrop⟩ := h.tagName _ _ hstate
      have hended : (text ++ [c]).drop tag.column = '<' :: (tag.name.toList ++ [c]) :=
        drop_concat hdrop (by simp) c
      exact ⟨hname, c, hc, hended ▸ List.prefix_refl _⟩
  opened := by
    intro column hstate
    obtain ⟨rfl, rfl⟩ := opened_step hstate
    exact List.drop_left
  tagName := by
    intro column name hstate
    obtain ⟨hc, hfirst | hlater⟩ := tagName_step hstate
    · obtain ⟨hopened, rfl⟩ := hfirst
      refine ⟨.singleton hc, ?_⟩
      rw [drop_concat (h.opened column hopened) (by simp) c]
      simp
    · obtain ⟨begun, hbegun, rfl⟩ := hlater
      obtain ⟨hname, hdrop⟩ := h.tagName column begun hbegun
      refine ⟨hname.push hc, ?_⟩
      rw [drop_concat hdrop (by simp) c]
      simp

theorem Progress.Located.run {text : List Char} {p : Progress} (h : p.Located text)
    (cs : List Char) : (run text.length p cs).Located (text ++ cs) := by
  induction cs generalizing text p with
  | nil =>
      simpa using h
  | cons c rest ih =>
      have hrest := ih (h.step c)
      simpa using hrest

theorem located_run_start (line : List Char) : (Markup.run 0 .start line).Located line :=
  Progress.located_start.run line

/-! ## Tags of a line -/

/-- A name that reaches to the end of the line is ended by the line break. -/
theorem writtenIn_of_scanLine {line : List Char} {tag : OpenTag}
    (h : (scanLine line).openTag = some tag) : tag.WrittenIn (line ++ ['\n']) := by
  have hlocated := located_run_start line
  rw [scanLine, Progress.summary] at h
  split at h
  · exact (hlocated.openTag tag h).append _
  · next column name hstate =>
      cases h
      obtain ⟨hname, hdrop⟩ := hlocated.tagName column name hstate
      have hended : (line ++ ['\n']).drop column = '<' :: (name.toList ++ ['\n']) :=
        drop_concat hdrop (by simp) '\n'
      exact ⟨hname, '\n', by decide, hended ▸ List.prefix_refl _⟩
  · exact (hlocated.openTag tag h).append _
  · exact (hlocated.openTag tag h).append _

theorem writtenIn_of_not_typing {line : List Char} {tag : OpenTag}
    (htyping : (scanLine line).typingName = false) (h : (scanLine line).openTag = some tag) :
    tag.WrittenIn line := by
  have hlocated := located_run_start line
  rw [scanLine, Progress.summary] at h htyping
  split at h <;> simp_all
  · exact hlocated.openTag tag h
  · exact hlocated.openTag tag h

/-! ## Tags of a document -/

theorem OpenTag.WrittenIn.lt_length {tag : OpenTag} {text : List Char} (h : tag.WrittenIn text) :
    tag.column + 1 + tag.name.toList.length < text.length := by
  obtain ⟨_, c, _, hbegins⟩ := h
  have hlength := hbegins.length_le
  simp only [List.length_cons, List.length_append, List.length_nil, List.length_drop] at hlength
  omega

theorem OpenTag.WrittenIn.shift {tag : OpenTag} {text : List Char} (h : tag.WrittenIn text)
    (front : List Char) :
    OpenTag.WrittenIn ⟨tag.name, front.length + tag.column⟩ (front ++ text) := by
  obtain ⟨hname, c, hc, hbegins⟩ := h
  refine ⟨hname, c, hc, ?_⟩
  rwa [List.drop_length_add_append]

theorem OpenTag.WrittenIn.of_prefix {tag : OpenTag} {text whole : List Char}
    (h : tag.WrittenIn text) (hbegins : text <+: whole) : tag.WrittenIn whole := by
  obtain ⟨more, rfl⟩ := hbegins
  exact h.append more

/-- The tag whose attributes a line leaves open, in the whole text. -/
def OpenTag.inDocument (document : Document) (n : Nat) (tag : OpenTag) : EnclosingTag :=
  ⟨tag.name, document.offsetAt ⟨n, tag.column⟩⟩

theorem exists_openTag_of_verdict? {document : Document} {n : Nat} {summary : LineSummary}
    {tag : EnclosingTag} (h : verdict? document n summary = some (.found tag)) :
    ∃ openTag, summary.openTag = some openTag ∧ tag = openTag.inDocument document n := by
  unfold verdict? at h
  split at h
  · next openTag hopen =>
      cases h
      exact ⟨openTag, hopen, rfl⟩
  · split at h <;> simp at h

theorem exists_line_of_searchAbove {document : Document} {window n : Nat} {tag : EnclosingTag}
    (h : searchAbove document window n = .found tag) :
    ∃ m openTag, m < n ∧ n ≤ m + window ∧
      (scanLine (document.lineText m)).openTag = some openTag ∧
      tag = openTag.inDocument document m := by
  induction n generalizing window with
  | zero =>
      simp [searchAbove] at h
  | succ n ih =>
      cases window with
      | zero =>
          simp [searchAbove] at h
      | succ window =>
          rw [searchAbove_succ] at h
          cases hverdict : verdict? document n (scanLine (document.lineText n)) with
          | some answer =>
              obtain rfl : answer = .found tag := by simpa [hverdict] using h
              obtain ⟨openTag, hopen, htag⟩ := exists_openTag_of_verdict? hverdict
              exact ⟨n, openTag, by omega, by omega, hopen, htag⟩
          | none =>
              obtain ⟨m, openTag, hm, hwindow, hopen, htag⟩ := ih (by simpa [hverdict] using h)
              exact ⟨m, openTag, by omega, by omega, hopen, htag⟩

/-- A tag that stands in line `n`, seen from a position on that line or below it. -/
structure Reported (document : Document) (position : Position) (window : Nat)
    (tag : EnclosingTag) (n : Nat) : Prop where
  /-- The `<` is in the line. -/
  place : ∃ column < (document.lineText n).length, tag.offset = document.offsetAt ⟨n, column⟩
  below : n ≤ position.line
  near : position.line - n < window
  name : IsName tag.name
  /-- In the whole text the `<` is followed by the name, and the name by another character. -/
  written : ∃ c, isNameChar c = false ∧
    '<' :: (tag.name.toList ++ [c]) <+: document.joined.drop tag.offset
  before : n = position.line →
    tag.offset + 1 + tag.name.toList.length < document.offsetAt position
  above : n < position.line →
    tag.offset + 1 + tag.name.toList.length ≤ document.offsetAt ⟨position.line, 0⟩ - 1

/-- What stands in a part of line `n` that the whole text begins with is reported there. -/
theorem written_of_writtenIn {document : Document} {n : Nat} {openTag : OpenTag}
    {text : List Char} (h : openTag.WrittenIn text)
    (hcolumn : openTag.column < (document.lineText n).length)
    (hbegins : document.readUpTo ⟨n, 0⟩ ++ text <+: document.joined) :
    OpenTag.WrittenIn ⟨openTag.name, (openTag.inDocument document n).offset⟩ document.joined ∧
      (openTag.inDocument document n).offset + 1 + openTag.name.toList.length <
        document.offsetAt ⟨n, 0⟩ + text.length := by
  have hoffset : (openTag.inDocument document n).offset =
      document.offsetAt ⟨n, 0⟩ + openTag.column :=
    Document.offsetAt_eq_add (Nat.le_of_lt hcolumn)
  have hlt := h.lt_length
  refine ⟨?_, by omega⟩
  have hshift := h.shift (document.readUpTo ⟨n, 0⟩)
  rw [Document.length_readUpTo, ← hoffset] at hshift
  exact hshift.of_prefix hbegins

theorem reported_on_line {document : Document} {position : Position} {window : Nat}
    {openTag : OpenTag} (hcontains : document.Contains position) (hwindow : 0 < window)
    (htyping : (scanLine (document.textBefore position)).typingName = false)
    (hopen : (scanLine (document.textBefore position)).openTag = some openTag) :
    Reported document position window (openTag.inDocument document position.line)
      position.line := by
  have hwritten := writtenIn_of_not_typing htyping hopen
  have hcolumn : openTag.column < (document.lineText position.line).length :=
    Nat.lt_of_lt_of_le (column_lt_of_scanLine hopen) (document.length_textBefore_le position)
  have hread : document.readUpTo position =
      document.readUpTo ⟨position.line, 0⟩ ++ document.textBefore position :=
    document.readUpTo_eq_append position.line position.character
  obtain ⟨⟨hname, hfollowed⟩, hlt⟩ := written_of_writtenIn hwritten hcolumn
    (hread ▸ Document.readUpTo_prefix_joined hcontains)
  refine ⟨⟨openTag.column, hcolumn, rfl⟩, Nat.le_refl _, by omega, hname, hfollowed, ?_, ?_⟩
  · intro _
    rwa [← Document.length_readUpTo document position, hread, List.length_append,
      Document.length_readUpTo]
  · intro hlt
    exact absurd hlt (Nat.lt_irrefl _)

theorem reported_above {document : Document} {position : Position} {window n : Nat}
    {openTag : OpenTag} (hcontains : document.Contains position) (hn : n < position.line)
    (hwindow : position.line - n < window)
    (hopen : (scanLine (document.lineText n)).openTag = some openTag) :
    Reported document position window (openTag.inDocument document n) n := by
  have hline : n + 1 < document.lineCount := Nat.lt_of_le_of_lt hn hcontains
  have hread : document.readUpTo ⟨n + 1, 0⟩ =
      document.readUpTo ⟨n, 0⟩ ++ (document.lineText n ++ ['\n']) :=
    Document.readUpTo_succ (Nat.lt_of_succ_lt hline)
  -- the line break belongs to the line, for it may be what ends the name
  obtain ⟨⟨hname, hfollowed⟩, hlt⟩ := written_of_writtenIn (writtenIn_of_scanLine hopen)
    (column_lt_of_scanLine hopen) (hread ▸ Document.readUpTo_prefix_joined hline)
  refine ⟨⟨openTag.column, column_lt_of_scanLine hopen, rfl⟩, Nat.le_of_lt hn, hwindow, hname,
    hfollowed, ?_, ?_⟩
  · intro heq
    omega
  · intro _
    have hnext : document.offsetAt ⟨n + 1, 0⟩ =
        document.offsetAt ⟨n, 0⟩ + (document.lineText n ++ ['\n']).length := by
      rw [← Document.length_readUpTo, hread, List.length_append, Document.length_readUpTo]
    have hmono : document.offsetAt ⟨n + 1, 0⟩ ≤ document.offsetAt ⟨position.line, 0⟩ :=
      Document.offsetAt_mono hn (Nat.le_of_lt hcontains)
    exact Nat.le_sub_one_of_lt (Nat.lt_of_lt_of_le hlt (hnext ▸ hmono))

theorem exists_reported_of_found {document : Document} {position : Position} {window : Nat}
    {tag : EnclosingTag} (h : enclosingTag document position window = .found tag) :
    ∃ n, Reported document position window tag n := by
  have hcontains := contains_of_found h
  have hwindow : 1 ≤ window := by
    cases window with
    | zero =>
        simp [enclosingTag_zero] at h
    | succ window =>
        exact Nat.le_add_left 1 window
  rw [enclosingTag_of_window hcontains hwindow] at h
  split at h
  · simp at h
  · next htyping =>
      cases hverdict : verdict? document position.line
          (scanLine (document.textBefore position)) with
      | some answer =>
          obtain rfl : answer = .found tag := by simpa [hverdict] using h
          obtain ⟨openTag, hopen, rfl⟩ := exists_openTag_of_verdict? hverdict
          exact ⟨_, reported_on_line hcontains hwindow (Bool.eq_false_iff.2 htyping) hopen⟩
      | none =>
          obtain ⟨n, openTag, hn, hnear, hopen, rfl⟩ :=
            exists_line_of_searchAbove (by simpa [hverdict] using h)
          exact ⟨n, reported_above hcontains hn (by omega) hopen⟩

/-! ## Names in contexts -/

theorem isName_of_attributeName? {spelling : List Char} {name : String}
    (h : attributeName? spelling = some name) : IsName name := by
  simp only [attributeName?] at h
  split at h
  · next hcond =>
      cases h
      simpa [IsName] using hcond
  · simp at h

theorem isName_of_valuedAttribute? {document : Document} {position : Position} {name : String}
    (h : valuedAttribute? document position = some name) : IsName name := by
  unfold valuedAttribute? parseProbe? at h
  split at h
  · simp at h
  · split at h
    · exact isName_of_attributeName? h
    · simp at h

/-- No slash is in the name, so it is not the key of an attribute for one tag alone. -/
def IsUnscoped (name : String) : Prop :=
  IsName name ∧ '/' ∉ name.toList ∧ ∀ tag own, name ≠ Catalogue.scopedKey tag own

theorem IsName.isUnscoped {name : String} (h : IsName name) : IsUnscoped name :=
  ⟨h, h.slash_not_mem, h.ne_scopedKey⟩

/-- A tag that is found stands in the document, and the names of a context are names. -/
theorem found_tag_is_written (document : Document) (position : Position)
    (settings : CompletionSettings) :
    (∀ tag, scanTag document position settings = .found tag →
      ∃ n, Reported document position settings.lookbackLines tag n) ∧
    (∀ tag offset, classify document position settings = .attributeName tag offset →
      IsUnscoped tag) ∧
    (∀ tag name, classify document position settings = .attributeValue tag name →
      IsUnscoped tag ∧ IsUnscoped name) := by
  refine ⟨?_, ?_, ?_⟩
  · intro tag hfound
    exact exists_reported_of_found hfound
  · intro tag offset hcontext
    obtain ⟨n, hreported⟩ := exists_reported_of_found (found_of_attributeName hcontext)
    exact hreported.name.isUnscoped
  · intro tag name hcontext
    obtain ⟨offset, hfound, hname⟩ := found_of_attributeValue hcontext
    obtain ⟨n, hreported⟩ := exists_reported_of_found hfound
    exact ⟨hreported.name.isUnscoped, (isName_of_valuedAttribute? hname).isUnscoped⟩

theorem found_tag_is_written_above :
    (∃ n, Reported (.ofText "<p>\n<el-row\n  :gutter=\"") ⟨2, 11⟩ 10 ⟨"el-row", 4⟩ n) ∧
      IsUnscoped "el-row" ∧ IsUnscoped "gutter" := by
  have hfound : scanTag (.ofText "<p>\n<el-row\n  :gutter=\"") ⟨2, 11⟩ {} =
      .found ⟨"el-row", 4⟩ := by decide
  have hname : classify (.ofText "<p>\n<el-row\n  :gutter=\"") ⟨2, 2⟩ {} =
      .attributeName "el-row" 4 := by decide
  have hvalue : classify (.ofText "<p>\n<el-row\n  :gutter=\"") ⟨2, 11⟩ {} =
      .attributeValue "el-row" "gutter" := by decide
  refine ⟨(found_tag_is_written _ _ _).1 _ hfound, (found_tag_is_written _ _ _).2.1 _ _ hname, ?_⟩
  exact ((found_tag_is_written _ _ _).2.2 _ _ hvalue).2

end Markup
end MarkupAssist
