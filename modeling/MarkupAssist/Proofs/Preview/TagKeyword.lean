import MarkupAssist.Proofs.Document.Offsets
import MarkupAssist.Proofs.Markup.ReportedTag
import MarkupAssist.Proofs.Preview.WordCover

/-!
# Tag names as keywords

The name of a tag that is found is a keyword: where a separator follows it on its line, the name
and nothing else is found at each of its columns.

- `Word.StandsAlone` : plain characters with nothing that is covered on either side
- `EndsTagName`      : what may follow a name
-/

namespace MarkupAssist
namespace Preview

open Markup (isNameChar)

/-! ## Words between separators -/

structure Word.StandsAlone (word : Word) (line : List Char) : Prop where
  chars : word.chars <+: line.drop word.column
  ne_nil : word.chars ≠ []
  plain : ∀ c ∈ word.chars, isPlain c = true
  before : ∀ i, i + 1 = word.column → isCovered line i = false
  after : isCovered line word.endColumn = false

namespace Word.StandsAlone

variable {word other : Word} {line : List Char} {column : Nat}

theorem getElem?_of_lt {cs : List Char} (h : word.StandsAlone cs) {i : Nat}
    (hi : i < word.chars.length) : cs[word.column + i]? = some word.chars[i] := by
  rw [← List.getElem?_drop]
  exact List.prefix_iff_getElem?.1 h.chars i hi

theorem column_lt (h : word.StandsAlone line) : word.column < word.endColumn :=
  Nat.lt_add_of_pos_right (List.length_pos_iff.2 h.ne_nil)

/-- A word that has its first character is the word: it cannot begin earlier or end later, and
as it has no point it does not end earlier. -/
theorem eq_of_standsIn (h : word.StandsAlone line) (hother : other.StandsIn line)
    (hle : other.column ≤ word.column) (hlt : word.column < other.endColumn) : other = word := by
  have hcolumn : other.column = word.column := by
    rcases Nat.eq_or_lt_of_le hle with heq | hbefore
    · exact heq
    · have hcovered := hother.covered (word.column - 1) (by omega) (by omega)
      simp [h.before (word.column - 1) (by omega)] at hcovered
  have hend : other.endColumn ≤ word.endColumn := by
    rcases Nat.lt_or_ge word.endColumn other.endColumn with hafter | hend
    · have hcovered := hother.covered word.endColumn (hcolumn ▸ Nat.le_add_right _ _) hafter
      simp [h.after] at hcovered
    · exact hend
  have hlength : other.chars.length ≤ word.chars.length := by
    simp only [Word.endColumn, hcolumn] at hend
    exact Nat.le_of_add_le_add_left hend
  have hbegins : other.chars <+: word.chars := by
    have hline : other.chars <+: line.drop word.column := by
      rw [← hcolumn, hother.chars]
      exact List.prefix_append _ _
    exact List.prefix_of_prefix_length_le hline h.chars hlength
  have hchars : other.chars = word.chars := by
    refine hbegins.eq_of_length (Nat.le_antisymm hlength (Nat.le_of_not_lt fun hshort => ?_))
    rcases hother.first with ⟨hpoint, _⟩ | ⟨_, hstops, _⟩
    · exact absurd (h.plain '.' (hbegins.mem hpoint)) (by decide)
    · have hnext : (line.drop other.endColumn).head? = some word.chars[other.chars.length] := by
        rw [List.head?_drop, Word.endColumn, hcolumn]
        exact h.getElem?_of_lt hshort
      have hplain := h.plain _ (List.getElem_mem hshort)
      simp [hstops _ hnext] at hplain
  cases other
  cases word
  simp_all

theorem mem_words (h : word.StandsAlone line) : word ∈ words 0 0 line := by
  have hpos : 0 < word.chars.length := List.length_pos_iff.2 h.ne_nil
  have hcovered : isCovered line word.column = true :=
    isCovered_of_plain (h.getElem?_of_lt hpos) (h.plain _ (List.getElem_mem hpos))
  obtain ⟨other, hmem, hle, hlt⟩ := (tiles_line line).exists_word (Nat.zero_le _) hcovered
  rwa [← h.eq_of_standsIn ((tiles_line line).standsIn other hmem) hle hlt]

/-- No other word touches it, so it is found at both its ends. -/
theorem wordAt?_eq (h : word.StandsAlone line) (hle : word.column ≤ column)
    (hge : column ≤ word.endColumn) : wordAt? line column = some word := by
  have htouches : word.touches column = true := Word.touches_iff.2 ⟨hle, hge⟩
  cases hfound : wordAt? line column with
  | none =>
      rw [wordAt?, List.find?_eq_none] at hfound
      exact absurd htouches (hfound word h.mem_words)
  | some other =>
      have hmem := mem_words_of_wordAt? hfound
      have hstands := (tiles_line line).standsIn other hmem
      have hother := hstands.column_lt
      obtain ⟨hbegins, hends⟩ := touches_of_wordAt? hfound
      rcases disjoint_of_mem_words h.mem_words hmem with rfl | hafter | hbefore
      · rfl
      · have hcovered := hstands.covered word.endColumn (by omega) (by omega)
        simp [h.after] at hcovered
      · have hcovered := hstands.covered (word.column - 1) (by omega) (by omega)
        simp [h.before (word.column - 1) (by omega)] at hcovered

end Word.StandsAlone

/-! ## Names of tags -/

theorem isPlain_of_nameChar {c : Char} (h : isNameChar c = true) : isPlain c = true := by
  have hcodes : separatorCodes.all (fun n =>
      !(48 ≤ n && n ≤ 57 || 65 ≤ n && n ≤ 90 || 97 ≤ n && n ≤ 122 || n == 45 || n == 95)) = true := by
    decide +kernel
  cases hplain : isPlain c with
  | true =>
      rfl
  | false =>
      have hnot := List.all_eq_true.1 hcodes _ (mem_separatorCodes hplain)
      have hcode := Markup.isNameChar_toNat h
      simp at hnot
      omega

/-- What a text begins with is found in its front, if it holds none of what may follow that. -/
theorem prefix_of_prefix_append {word front rest : List Char} (h : word <+: front ++ rest)
    (hrest : ∀ c, rest.head? = some c → c ∉ word) : word <+: front := by
  rcases List.prefix_or_prefix_of_prefix h (List.prefix_append front rest) with hword | hfront
  · exact hword
  · obtain ⟨more, rfl⟩ := hfront
    cases more with
    | nil =>
        simp
    | cons c more =>
        have hmore : c :: more <+: rest := (List.prefix_append_right_inj front).1 h
        obtain ⟨back, rfl⟩ := hmore
        exact absurd (by simp) (hrest c rfl)

/-- White space, or a character that ends a name for the scan and for a keyword alike. -/
def EndsTagName (c : Char) : Prop :=
  Text.isSpace c = true ∨ c ∈ ['>', '/', '=', '"', '\'']

theorem EndsTagName.not_covered {line rest : List Char} {column : Nat} {c : Char}
    (h : EndsTagName c) (hline : line.drop column = c :: rest) : isCovered line column = false := by
  have hc : isPlain c = false ∧ c ≠ '.' := by
    rcases h with hspace | hmark
    · refine ⟨by simp [isPlain, hspace], ?_⟩
      rintro rfl
      exact absurd hspace (by decide)
    · simp only [List.mem_cons, List.not_mem_nil, or_false] at hmark
      rcases hmark with rfl | rfl | rfl | rfl | rfl <;> decide
  rw [isCovered_of_drop hline, hc.1, beq_false_of_ne hc.2]
  rfl

variable {document : Document} {position : Position} {settings : CompletionSettings}
  {tag : Markup.EnclosingTag} {n k : Nat}

/-- A tag that is found stands on one line, its name being without line feeds. -/
theorem exists_drop_of_found (h : Markup.scanTag document position settings = .found tag)
    (hplace : ⟨n, k⟩ ∈ document.places) (hoffset : document.offsetAt ⟨n, k⟩ = tag.offset) :
    ∃ more, (document.lineText n).drop k = '<' :: (tag.name.toList ++ more) := by
  obtain ⟨_, hreported⟩ := Markup.exists_reported_of_found h
  obtain ⟨c, _, hwritten⟩ := hreported.written
  obtain ⟨rest, hdrop, hbreak⟩ := Document.exists_drop_joined hplace.1 hplace.2
  have hjoined : '<' :: tag.name.toList <+: (document.lineText n).drop k ++ rest := by
    rw [← hdrop, hoffset]
    exact List.IsPrefix.trans (by simp) hwritten
  have hline : '<' :: tag.name.toList <+: (document.lineText n).drop k := by
    refine prefix_of_prefix_append hjoined ?_
    intro d hd hmem
    obtain rfl := hbreak d hd
    have hchar : isNameChar '\n' = true := hreported.name.2 '\n' (by simpa using hmem)
    exact absurd hchar (by decide)
  obtain ⟨more, hmore⟩ := hline
  exact ⟨more, hmore.symm⟩

theorem standsAlone_of_found (h : Markup.scanTag document position settings = .found tag)
    (hplace : ⟨n, k⟩ ∈ document.places) (hoffset : document.offsetAt ⟨n, k⟩ = tag.offset)
    (hends : ∀ c, (document.lineText n)[k + 1 + tag.name.toList.length]? = some c →
      EndsTagName c) :
    Word.StandsAlone ⟨k + 1, tag.name.toList⟩ (document.lineText n) := by
  obtain ⟨_, hreported⟩ := Markup.exists_reported_of_found h
  obtain ⟨more, hdrop⟩ := exists_drop_of_found h hplace hoffset
  have hname : (document.lineText n).drop (k + 1) = tag.name.toList ++ more := by
    rw [← List.drop_drop, hdrop, List.drop_one, List.tail_cons]
  have hafter : (document.lineText n).drop (k + 1 + tag.name.toList.length) = more := by
    rw [← List.drop_drop, hname, List.drop_left]
  refine ⟨⟨more, hname.symm⟩, hreported.name.1, ?_, ?_, ?_⟩
  · intro c hc
    exact isPlain_of_nameChar (hreported.name.2 c hc)
  · intro i hi
    obtain rfl : i = k := Nat.succ.inj hi
    have hopen : isPlain '<' = false := by
      decide
    rw [isCovered_of_drop hdrop, hopen]
    rfl
  · cases more with
    | nil =>
        rw [isCovered, Word.endColumn, hafter]
    | cons c rest =>
        refine (hends c ?_).not_covered hafter
        rw [← List.head?_drop, hafter, List.head?_cons]

/-- The scan and the words of a line agree on the name of a tag, at each of its columns. -/
theorem keyword_of_found_tag (h : Markup.scanTag document position settings = .found tag) :
    (∃ n k, ⟨n, k⟩ ∈ document.places ∧ document.offsetAt ⟨n, k⟩ = tag.offset ∧
      (document.lineText n)[k]? = some '<') ∧
    ∀ n k, ⟨n, k⟩ ∈ document.places → document.offsetAt ⟨n, k⟩ = tag.offset →
      (∀ c, (document.lineText n)[k + 1 + tag.name.toList.length]? = some c → EndsTagName c) →
      ∀ column, k + 1 ≤ column → column ≤ k + 1 + tag.name.toList.length →
        keywordAt? document ⟨n, column⟩ = some tag.name.toList := by
  constructor
  · obtain ⟨n, hreported⟩ := Markup.exists_reported_of_found h
    obtain ⟨k, hk, hoffset⟩ := hreported.place
    have hplace : ⟨n, k⟩ ∈ document.places :=
      ⟨Nat.lt_of_le_of_lt hreported.below (Markup.contains_of_found h), Nat.le_of_lt hk⟩
    obtain ⟨more, hdrop⟩ := exists_drop_of_found h hplace hoffset.symm
    refine ⟨n, k, hplace, hoffset.symm, ?_⟩
    rw [← List.head?_drop, hdrop, List.head?_cons]
  · intro n k hplace hoffset hends column hle hge
    have hstands := standsAlone_of_found h hplace hoffset hends
    have hline : document.line? n = some (document.lineText n) := by
      have hn : n < document.lines.length := hplace.1
      simp [Document.lineText, Document.line?, hn]
    have hcolumn : min column (document.lineText n).length = column := by
      have hlength := ((tiles_line _).standsIn _ hstands.mem_words).endColumn_le
      exact Nat.min_eq_left (Nat.le_trans hge hlength)
    rw [keywordAt?_eq, hline, Option.bind_some, hcolumn, hstands.wordAt?_eq hle hge]
    rfl

/-- A name that begins like a number, behind a number. -/
theorem keyword_of_found_tag_like_number :
    Markup.scanTag (.ofText "a.5<-1=") ⟨0, 7⟩ {} = .found ⟨"-1", 3⟩ ∧
      ∀ column, 4 ≤ column → column ≤ 6 →
        keywordAt? (.ofText "a.5<-1=") ⟨0, column⟩ = some "-1".toList := by
  have hfound : Markup.scanTag (.ofText "a.5<-1=") ⟨0, 7⟩ {} = .found ⟨"-1", 3⟩ := by
    decide
  refine ⟨hfound, (keyword_of_found_tag hfound).2 0 3 ?_ (by decide) ?_⟩
  · exact ⟨by decide, by decide⟩
  · intro c hc
    obtain rfl : '=' = c := Option.some.inj hc
    exact .inr (by decide)

end Preview
end MarkupAssist
