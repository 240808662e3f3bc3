import MarkupAssist.Document
import MarkupAssist.Proofs.Catalogue.SkeletonWriting
import MarkupAssist.Proofs.Markup.Spelling

/-!
# The lines of a skeleton

What a skeleton writes on each of its lines, whatever the tags refer to and however deep it
goes: one tag is opened, opened and closed, or closed, behind blanks.

- `Catalogue.WellNamed` : every name and every default attribute can be read back
- `TagLine`             : a line without the blanks before it
- `BeforePlaceholder`   : what stands on a line before the quote that opens a placeholder

The last line closes a tag (`Outline.exists_lines_eq_concat`), and every placeholder belongs
to a default attribute of the tag that is opened on its line
(`TagLine.beforePlaceholder`).
-/

namespace MarkupAssist

/-- Cutting at line feeds is the library's cutting of lists. -/
theorem splitLines_eq_splitOn (cs : List Char) : splitLines cs = cs.splitOn '\n' := by
  induction cs with
  | nil =>
      rfl
  | cons c rest ih =>
      rw [List.splitOn_cons_eq_if_modifyHead, ← ih]
      by_cases hc : c = '\n'
      · simp [splitLines, hc]
      · cases hrest : splitLines rest with
        | nil =>
            exact absurd hrest (splitLines_ne_nil rest)
        | cons line lines =>
            simp [splitLines, hc, hrest]

namespace Catalogue

open Markup (Spelling isNameChar isPlain isPlain_of_isNameChar)

/-! ## Characters that a part does not hold -/

theorem not_mem_of_isPlain {cs : List Char} {d : Char} (h : ∀ c ∈ cs, isPlain c = true)
    (hd : isPlain d = false) : d ∉ cs := by
  intro hmem
  simp [h d hmem] at hd

theorem not_mem_of_isNameChar {cs : List Char} {d : Char} (h : ∀ c ∈ cs, isNameChar c = true)
    (hd : isPlain d = false) : d ∉ cs := by
  refine not_mem_of_isPlain ?_ hd
  intro c hc
  exact isPlain_of_isNameChar (h c hc)

theorem not_mem_toDigits (n : Nat) {d : Char} (hd : isPlain d = false) :
    d ∉ Nat.toDigits 10 n := by
  refine not_mem_of_isPlain ?_ hd
  intro c hc
  have hdigit : c.isDigit = true := Nat.isDigit_of_mem_toDigits (by decide) (by decide) hc
  exact isPlain_of_isNameChar (by simp [isNameChar, Char.isAlphanum, hdigit])

/-! ## Names that can be read back -/

structure Tag.WellNamed (tag : Tag) : Prop where
  name_ne_nil : tag.name.toList ≠ []
  name_chars : ∀ c ∈ tag.name.toList, isNameChar c = true
  defaults_spelled : ∀ name ∈ tag.defaultAttributes,
    ∃ spelling : Spelling, spelling.text = name.toList

def WellNamed (catalogue : Catalogue) : Prop :=
  ∀ tag ∈ catalogue.tags.entries, tag.WellNamed

theorem Tag.WellNamed.defaults_plain {tag : Tag} (h : tag.WellNamed) :
    ∀ name ∈ tag.defaultAttributes, ∀ c ∈ name.toList, isPlain c = true := by
  intro name hmem c hc
  rcases h.defaults_spelled name hmem with ⟨spelling, htext⟩
  exact spelling.isPlain_of_mem c (htext ▸ hc)

theorem Tag.WellNamed.not_mem_name {tag : Tag} (h : tag.WellNamed) {d : Char}
    (hd : isPlain d = false) : d ∉ tag.name.toList :=
  not_mem_of_isNameChar h.name_chars hd

namespace Outline

/-! ## Which lines there are -/

theorem mem_linesOfAll {level first : Nat} {outlines : List Outline} {line : List Char}
    (h : line ∈ linesOfAll level first outlines) :
    ∃ outline ∈ outlines, ∃ inner, line ∈ outline.lines level inner := by
  induction outlines generalizing first with
  | nil =>
      simp [linesOfAll] at h
  | cons outline rest ih =>
      rw [linesOfAll] at h
      rcases List.mem_append.1 h with hhere | hrest
      · exact ⟨outline, by simp, first, hhere⟩
      · obtain ⟨other, hmem, inner, hline⟩ := ih hrest
        exact ⟨other, by simp [hmem], inner, hline⟩

theorem exists_lines_eq_concat (level first : Nat) (name : String) (attributes : List String)
    (children : List Outline) :
    ∃ front opened, (Outline.node name attributes children).lines level first =
        front ++ [indentation level ++ (opened ++ closeTag name)] ∧
      (opened = [] ∨ opened = openTag name first attributes) := by
  -- a tag without children is closed where it is opened
  by_cases hchildren : children = []
  · refine ⟨[], openTag name first attributes, ?_, .inr rfl⟩
    rw [hchildren, lines_of_no_children]
    rfl
  · refine ⟨(indentation level ++ openTag name first attributes) ::
      linesOfAll (level + 1) (first + attributes.length) children, [], ?_, .inl rfl⟩
    simp [lines_of_children level first name attributes hchildren]

end Outline

open Outline (attributesText attributeText openTag closeTag indentation)

/-- A line of a skeleton without the blanks before it. -/
inductive TagLine (catalogue : Catalogue) : List Char → Prop
  | opening (tag : Tag) (first : Nat) :
      tag ∈ catalogue.tags.entries →
      TagLine catalogue (openTag tag.name first tag.defaultAttributes)
  | whole (tag : Tag) (first : Nat) :
      tag ∈ catalogue.tags.entries →
      TagLine catalogue (openTag tag.name first tag.defaultAttributes ++ closeTag tag.name)
  | closing (tag : Tag) :
      tag ∈ catalogue.tags.entries →
      TagLine catalogue (closeTag tag.name)

variable {catalogue : Catalogue}

theorem mem_entries_of_tag? {name : String} {tag : Tag} (h : catalogue.tag? name = some tag) :
    tag ∈ catalogue.tags.entries := by
  rw [Catalogue.tag?, Data.Table.get?_eq_find?] at h
  exact List.mem_of_find?_eq_some h

theorem expand_eq_node (catalogue : Catalogue) (below : Nat) (tag : Tag) :
    ∃ children, catalogue.expand below tag = .node tag.name tag.defaultAttributes children := by
  cases below with
  | zero =>
      exact ⟨[], rfl⟩
  | succ below =>
      exact ⟨_, rfl⟩

theorem tagLine_of_mem_lines (below : Nat) {tag : Tag} (htag : tag ∈ catalogue.tags.entries)
    {level first : Nat} {line : List Char}
    (h : line ∈ (catalogue.expand below tag).lines level first) :
    ∃ depth markup, line = indentation depth ++ markup ∧ TagLine catalogue markup := by
  induction below generalizing tag level first with
  | zero =>
      rw [expand, Outline.lines_of_no_children] at h
      exact ⟨level, _, List.mem_singleton.1 h, .whole tag first htag⟩
  | succ below ih =>
      by_cases hchildren : tag.childTags.filterMap catalogue.tag? = []
      · rw [expand, hchildren, List.map_nil, Outline.lines_of_no_children] at h
        exact ⟨level, _, List.mem_singleton.1 h, .whole tag first htag⟩
      · rw [expand, Outline.lines_of_children _ _ _ _ (by simpa using hchildren)] at h
        rcases List.mem_cons.1 h with hopening | h
        · exact ⟨level, _, hopening, .opening tag first htag⟩
        · rcases List.mem_append.1 h with hinner | hclosing
          -- a line of a child, which is in the catalogue too and goes one level less deep
          · rcases Outline.mem_linesOfAll hinner with ⟨outline, hmem, inner, hline⟩
            rcases List.mem_map.1 hmem with ⟨child, hchild, rfl⟩
            rcases List.mem_filterMap.1 hchild with ⟨name, _, hname⟩
            exact ih (mem_entries_of_tag? hname) hline
          · exact ⟨level, _, List.mem_singleton.1 hclosing, .closing tag htag⟩

/-- Besides the names only blanks, `=`, quotes and placeholders stand there. -/
theorem not_mem_attributesText {names : List String} {d : Char} (hd : isPlain d = false)
    (hframe : d ∉ [' ', '=', '"']) (hnames : ∀ name ∈ names, d ∉ name.toList) (first : Nat) :
    d ∉ attributesText first names := by
  induction names generalizing first with
  | nil =>
      simp [attributesText]
  | cons name rest ih =>
      have hname : d ∉ name.toList := hnames name (by simp)
      have hdollar : d ≠ '$' := by
        rintro rfl
        exact absurd hd (by decide)
      have hdigits : d ∉ Nat.toDigits 10 first := not_mem_toDigits first hd
      have hrest : d ∉ attributesText (first + 1) rest := by
        refine ih ?_ (first + 1)
        intro other hmem
        exact hnames other (by simp [hmem])
      simp only [List.mem_cons, List.not_mem_nil, or_false, not_or] at hframe
      simp [attributesText, attributeText, hname, hdollar, hdigits, hrest, hframe]

/-! ## Line feeds -/

theorem TagLine.newline_not_mem (hnamed : catalogue.WellNamed) {markup : List Char}
    (h : TagLine catalogue markup) : '\n' ∉ markup := by
  have hplain : isPlain '\n' = false := by decide
  have hname : ∀ tag ∈ catalogue.tags.entries, '\n' ∉ tag.name.toList := by
    intro tag htag
    exact (hnamed tag htag).not_mem_name hplain
  have hattributes : ∀ tag ∈ catalogue.tags.entries, ∀ first,
      '\n' ∉ attributesText first tag.defaultAttributes := by
    intro tag htag first
    refine not_mem_attributesText hplain (by decide) ?_ first
    intro name hmem
    exact not_mem_of_isPlain ((hnamed tag htag).defaults_plain name hmem) hplain
  cases h with
  | opening tag first htag =>
      simp [openTag, hname tag htag, hattributes tag htag first]
  | whole tag first htag =>
      simp [openTag, closeTag, hname tag htag, hattributes tag htag first]
  | closing tag htag =>
      simp [closeTag, hname tag htag]

/-- A line feed of its own would make two lines of one. -/
theorem Outline.splitLines_text {outline : Outline}
    (h : ∀ line ∈ outline.lines 0 1, '\n' ∉ line) :
    splitLines outline.text = outline.lines 0 1 := by
  obtain ⟨name, attributes, children⟩ := outline
  have hne : (Outline.node name attributes children).lines 0 1 ≠ [] := by
    rcases Outline.exists_lines_eq_concat 0 1 name attributes children with
      ⟨front, opened, hlines, _⟩
    simp [hlines]
  rw [splitLines_eq_splitOn, Outline.text]
  exact List.splitOn_intercalate '\n' h hne

/-- Behind a `<` the inserted text is cut into the lines that were written. -/
theorem splitLines_skeleton (hnamed : catalogue.WellNamed) {tag : Tag}
    (htag : tag ∈ catalogue.tags.entries) (maxDepth : Nat) :
    splitLines ('<' :: (catalogue.skeleton tag maxDepth).toList) =
      (catalogue.expand (maxDepth - 1) tag).lines 0 1 := by
  have hnewline : ∀ line ∈ (catalogue.expand (maxDepth - 1) tag).lines 0 1, '\n' ∉ line := by
    intro line hline
    rcases tagLine_of_mem_lines _ htag hline with ⟨depth, markup, rfl, hmarkup⟩
    simp [indentation, hmarkup.newline_not_mem hnamed]
  rw [open_cons_skeleton, Outline.splitLines_text hnewline]

/-! ## Placeholders -/

/-- A text that is cut at a character is cut behind every part that does not hold it. -/
theorem exists_eq_append_of_not_mem {d : Char} {part rest front back : List Char}
    (h : front ++ d :: back = part ++ rest) (hpart : d ∉ part) :
    ∃ between, front = part ++ between ∧ between ++ d :: back = rest := by
  rcases List.append_eq_append_iff.1 h with ⟨tail, hfront, hrest⟩ | ⟨between, hfront, hrest⟩
  · cases tail with
    | nil =>
        exact ⟨[], by simpa using hfront.symm, by simpa using hrest⟩
    | cons c tail =>
        cases hrest
        exact absurd (by simp [hfront]) hpart
  · exact ⟨between, hfront, hrest.symm⟩

/-- A text that is cut behind a character is cut behind the first one. -/
theorem exists_eq_append_cons_of_mem {d : Char} {part rest front back : List Char}
    (h : front ++ back = part ++ d :: rest) (hfront : d ∈ front) (hpart : d ∉ part) :
    ∃ between, front = part ++ d :: between ∧ between ++ back = rest := by
  rcases List.append_eq_append_iff.1 h with ⟨tail, rfl, _⟩ | ⟨tail, rfl, hrest⟩
  · exact absurd (by simp [hfront]) hpart
  · cases tail with
    | nil =>
        exact absurd (by simpa using hfront) hpart
    | cons c between =>
        obtain ⟨rfl, rfl⟩ := List.cons.inj hrest
        exact ⟨between, rfl, rfl⟩

/-- Only placeholders have a `$` after a quote. -/
theorem exists_default_of_placeholder {names : List String}
    (hnames : ∀ name ∈ names, ∀ c ∈ name.toList, isPlain c = true) {tail : List Char}
    (htail : '"' ∉ tail) {first : Nat} {front back : List Char}
    (h : front ++ '"' :: '$' :: back = attributesText first names ++ '>' :: tail) :
    ∃ earlier name later, names = earlier ++ name :: later ∧
      front = attributesText first earlier ++ ' ' :: (name.toList ++ ['=']) := by
  have hplain : isPlain '"' = false := by decide
  induction names generalizing first front with
  | nil =>
      have hmem : '"' ∈ attributesText first [] ++ '>' :: tail := by
        simp [← h]
      simp [attributesText, htail] at hmem
  | cons name rest ih =>
      have hword : '"' ∉ ' ' :: (name.toList ++ ['=']) := by
        simp [not_mem_of_isPlain (hnames name (by simp)) hplain]
      have hdigits : '"' ∉ '$' :: Nat.toDigits 10 first := by
        simp [not_mem_toDigits first hplain]
      have hshape : attributesText first (name :: rest) ++ '>' :: tail =
          ' ' :: (name.toList ++ ['=']) ++ '"' :: ('$' :: Nat.toDigits 10 first ++
            '"' :: (attributesText (first + 1) rest ++ '>' :: tail)) := by
        simp [attributesText, attributeText]
      rw [hshape] at h
      -- the quote is the opening one of this attribute, its closing one, or comes later
      rcases exists_eq_append_of_not_mem h hword with ⟨afterWord, hfront, h⟩
      cases afterWord with
      | nil =>
          exact ⟨[], name, rest, rfl, by simpa [attributesText] using hfront⟩
      | cons c afterQuote =>
          injection h with hc h
          rcases exists_eq_append_of_not_mem h hdigits with ⟨afterValue, hvalue, h⟩
          cases afterValue with
          | nil =>
              -- no `$` follows the closing quote
              cases rest <;> simp [attributesText, attributeText] at h
          | cons d others =>
              injection h with hd h
              have hrest : ∀ other ∈ rest, ∀ c ∈ other.toList, isPlain c = true := by
                intro other hmem
                exact hnames other (by simp [hmem])
              rcases ih hrest h with ⟨earlier, other, later, hsplit, hothers⟩
              refine ⟨name :: earlier, other, later, by simp [hsplit], ?_⟩
              simp [hfront, hvalue, hothers, hc, hd, attributesText, attributeText]

/-- What stands on a line before the quote that opens the value of a default attribute: margin,
tag, and the default attributes that come earlier. -/
inductive BeforePlaceholder (tag : Tag) (spelling : Spelling) : List Char → Prop
  | intro (margin : List Char) (first : Nat) (earlier later : List String) :
      (∀ c ∈ margin, Text.isSpace c = true) →
      tag.defaultAttributes = earlier ++ String.ofList spelling.text :: later →
      BeforePlaceholder tag spelling (margin ++ '<' :: (tag.name.toList ++
        (attributesText first earlier ++ ' ' :: (spelling.text ++ ['=']))))

theorem TagLine.beforePlaceholder (hnamed : catalogue.WellNamed) {markup : List Char}
    (h : TagLine catalogue markup) {margin front back : List Char}
    (hmargin : ∀ c ∈ margin, Text.isSpace c = true)
    (hline : margin ++ markup = front ++ '"' :: '$' :: back) :
    ∃ tag ∈ catalogue.tags.entries, ∃ spelling, BeforePlaceholder tag spelling front := by
  have hplain : isPlain '"' = false := by decide
  have hquote : '"' ∉ margin := by
    intro hmem
    exact absurd (hmargin '"' hmem) (by decide)
  have hname : ∀ tag ∈ catalogue.tags.entries, '"' ∉ tag.name.toList := by
    intro tag htag
    exact (hnamed tag htag).not_mem_name hplain
  rcases exists_eq_append_of_not_mem hline.symm hquote with ⟨written, rfl, hmarkup⟩
  -- both kinds of lines that open a tag, with what stands behind the tag
  have hopened : ∀ tag ∈ catalogue.tags.entries, ∀ first tail, '"' ∉ tail →
      markup = openTag tag.name first tag.defaultAttributes ++ tail →
      ∃ spelling, BeforePlaceholder tag spelling (margin ++ written) := by
    intro tag htag first tail htail hopen
    have hsplit : written ++ '"' :: '$' :: back = ('<' :: tag.name.toList) ++
        (attributesText first tag.defaultAttributes ++ '>' :: tail) := by
      simp [hmarkup, hopen, openTag]
    rcases exists_eq_append_of_not_mem hsplit (by simp [hname tag htag]) with
      ⟨values, hwritten, hvalues⟩
    rcases exists_default_of_placeholder (hnamed tag htag).defaults_plain htail hvalues with
      ⟨earlier, name, later, hdefaults, hfront⟩
    rcases (hnamed tag htag).defaults_spelled name (by simp [hdefaults]) with
      ⟨spelling, hspelling⟩
    have hplaceholder : BeforePlaceholder tag spelling _ :=
      .intro margin first earlier later hmargin (by simp [hspelling, hdefaults])
    refine ⟨spelling, ?_⟩
    simpa [hwritten, hfront, hspelling] using hplaceholder
  cases h with
  | opening tag first htag =>
      exact ⟨tag, htag, hopened tag htag first [] (by simp) (by simp)⟩
  | whole tag first htag =>
      exact ⟨tag, htag, hopened tag htag first _ (by simp [closeTag, hname tag htag]) rfl⟩
  | closing tag htag =>
      have hmem : '"' ∈ closeTag tag.name := by
        simp [← hmarkup]
      simp [closeTag, hname tag htag] at hmem

end Catalogue
end MarkupAssist
