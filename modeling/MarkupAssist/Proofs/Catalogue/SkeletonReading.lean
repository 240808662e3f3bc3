import MarkupAssist.Proofs.Catalogue.SkeletonLines
import MarkupAssist.Proofs.Catalogue.SkeletonOrder
import MarkupAssist.Proofs.Catalogue.StackReader
import MarkupAssist.Proofs.Document.Reading

/-!
# Reading a skeleton back

The text of a tree is read without a failure, and the tree is what the reading leaves behind.

- `Legible`                  : a tag whose name and default attributes can be told from its markup
- `Outline.readsLines_lines` : the lines of a legible tree, whatever tags are open around it
- `Outline.exists_inside`    : the tag of the tree is open up to the last character of the text

A skeleton is the text of a tree whose tags come from the catalogue, so all of this holds of it
when the tags of the catalogue are legible (`skeleton_reads_back`).
-/

namespace MarkupAssist
namespace Catalogue

open Markup (isAngle isNameChar isPlain isQuote)
open Outline (attributeText attributesText closeTag indentation openTag)

/-! ## Tags that can be read -/

/-- Blanks and `=` may stand in a default attribute. -/
structure Legible (name : String) (attributes : List String) : Prop where
  name_ne_nil : name.toList ≠ []
  name_chars : ∀ c ∈ name.toList, isNameChar c = true
  attributes_chars : ∀ key ∈ attributes, ∀ c ∈ key.toList,
    isAngle c = false ∧ isQuote c = false ∧ c ≠ '\n'

variable {name : String} {attributes : List String}

theorem Legible.not_mem_name (h : Legible name attributes) {d : Char} (hd : isPlain d = false) :
    d ∉ name.toList :=
  not_mem_of_isNameChar h.name_chars hd

theorem Legible.not_mem_attribute (h : Legible name attributes) {d : Char}
    (hd : isAngle d = true ∨ isQuote d = true ∨ d = '\n') :
    ∀ key ∈ attributes, d ∉ key.toList := by
  intro key hkey hmem
  rcases h.attributes_chars key hkey d hmem with ⟨hangle, hquote, hbreak⟩
  simp [hangle, hquote, hbreak] at hd

/-- Angle brackets and line feeds stand only around what is between the brackets. -/
theorem Legible.not_mem_content (h : Legible name attributes) {d : Char}
    (hd : isAngle d = true ∨ d = '\n') (first : Nat) :
    d ∉ name.toList ++ attributesText first attributes := by
  have hplain : isPlain d = false := by
    rcases hd with hangle | rfl
    · simp [isPlain, hangle]
    · decide
  have hframe : d ∉ [' ', '=', '"'] := by
    intro hmem
    have hc : d = ' ' ∨ d = '=' ∨ d = '"' := by simpa using hmem
    rcases hc with rfl | rfl | rfl <;> exact absurd hd (by decide)
  have hattributes : d ∉ attributesText first attributes := by
    refine not_mem_attributesText hplain hframe ?_ first
    exact h.not_mem_attribute (hd.imp_right .inr)
  simp [h.not_mem_name hplain, hattributes]

theorem attributeNames_attributesText
    (h : ∀ key ∈ attributes, '"' ∉ key.toList) (first : Nat) :
    attributeNames ((attributesText first attributes).splitOn '"') = attributes := by
  induction attributes generalizing first with
  | nil =>
      rfl
  | cons key rest ih =>
      have hassigned : '"' ∉ ' ' :: (key.toList ++ ['=']) := by
        simp [h key (by simp)]
      have hvalue : '"' ∉ '$' :: Nat.toDigits 10 first := by
        simp [not_mem_toDigits first (show isPlain '"' = false by decide)]
      have hshape : attributesText first (key :: rest) =
          (' ' :: (key.toList ++ ['='])) ++ '"' :: (('$' :: Nat.toDigits 10 first) ++
            '"' :: attributesText (first + 1) rest) := by
        simp [attributesText, attributeText]
      have hrest := ih (fun other hmem => h other (by simp [hmem])) (first + 1)
      rw [hshape, List.splitOn_append_cons_self, List.splitOn_append_cons_self,
        List.splitOn_eq_singleton hassigned, List.splitOn_eq_singleton hvalue]
      simp [attributeNames, hrest]

theorem Reader.endTag?_of_legible (h : Legible name attributes) (reader : Reader) (first : Nat) :
    reader.endTag? (name.toList ++ attributesText first attributes) =
      some (reader.push { name, attributes }) := by
  have hstart : (attributesText first attributes).takeWhile isNameChar = [] ∧
      (attributesText first attributes).dropWhile isNameChar =
        attributesText first attributes := by
    have hblank : isNameChar ' ' = false := by decide
    cases attributes <;> simp [attributesText, attributeText, hblank]
  have hnames : attributeNames ((attributesText first attributes).splitOn '"') = attributes :=
    attributeNames_attributesText (h.not_mem_attribute (by decide)) first
  have hslash : ∀ rest, name.toList ++ attributesText first attributes ≠ '/' :: rest := by
    intro rest hrest
    obtain ⟨c, letters, hletters⟩ := List.exists_cons_of_ne_nil h.name_ne_nil
    have hc : isNameChar c = true := h.name_chars c (by simp [hletters])
    rw [hletters] at hrest
    obtain rfl : c = '/' := (List.cons.inj hrest).1
    exact absurd hc (by decide)
  unfold endTag?
  split
  · next rest hrest =>
      exact absurd hrest (hslash rest)
  · simp [List.takeWhile_append_of_pos h.name_chars, List.dropWhile_append_of_pos h.name_chars,
      hstart, hnames, h.name_ne_nil]

/-! ## The lines of a tag -/

variable {reader : Reader}

theorem reads_openTag (h : Legible name attributes) (reader : Reader)
    (hpending : reader.pending = none) (first : Nat) :
    Reads reader.stack.length reader (openTag name first attributes)
      (reader.push { name, attributes }) := by
  have hcontent : '>' ∉ name.toList ++ attributesText first attributes :=
    h.not_mem_content (by decide) first
  exact reads_tag hpending hcontent (Reader.endTag?_of_legible h reader first) le_rfl
    (Nat.le_succ _)

theorem reads_closeTag (frame : Frame) (hname : '>' ∉ frame.name.toList)
    (hpending : reader.pending = none) :
    Reads reader.stack.length (reader.push frame) (closeTag frame.name)
      (reader.attach frame.outline) := by
  have hinside : (reader.push frame).pending = none := hpending
  have hend : (reader.push frame).endTag? ('/' :: frame.name.toList) =
      some (reader.attach frame.outline) := by
    simp [Reader.endTag?, Reader.pop?_push]
  exact reads_tag hinside (by simp [hname]) hend (Nat.le_succ _) (by simp)

theorem indentation_not_mem {level : Nat} {d : Char} (hd : d ≠ ' ') : d ∉ indentation level := by
  simp [indentation, hd]

theorem reads_indentation (hpending : reader.pending = none) (level : Nat) :
    Reads reader.stack.length reader (indentation level) reader :=
  reads_between reader hpending (indentation_not_mem (by decide))

theorem Legible.break_not_mem_openTag (h : Legible name attributes) (first : Nat) :
    '\n' ∉ openTag name first attributes := by
  have hcontent : '\n' ∉ name.toList ++ attributesText first attributes :=
    h.not_mem_content (by decide) first
  simpa [openTag] using hcontent

theorem Legible.break_not_mem_closeTag (h : Legible name attributes) :
    '\n' ∉ closeTag name := by
  have hname : '\n' ∉ name.toList := h.not_mem_name (by decide)
  simp [closeTag, hname]

theorem Legible.indented_openTag (h : Legible name attributes) (stack : List Frame)
    (first : Nat) (tail : List Char) :
    Indented stack (indentation stack.length ++ (openTag name first attributes ++ tail)) := by
  obtain ⟨c, letters, hletters⟩ := List.exists_cons_of_ne_nil h.name_ne_nil
  have hc : isNameChar c = true := h.name_chars c (by simp [hletters])
  have hslash : c ≠ '/' := by
    rintro rfl
    exact absurd hc (by decide)
  rw [openTag, List.cons_append]
  refine .opening stack _ ?_
  simp [hletters, hslash]

theorem readsLines_opening (h : Legible name attributes) (hpending : reader.pending = none)
    (first : Nat) :
    ReadsLines reader.stack.length reader
      [indentation reader.stack.length ++ openTag name first attributes]
      (reader.push { name, attributes }) := by
  have hindented := h.indented_openTag reader.stack first []
  have hline := (reads_indentation hpending reader.stack.length).append
    (reads_openTag h reader hpending first)
  refine readsLines_singleton (by simpa using hindented) ?_ hline hpending
  simp [indentation_not_mem, h.break_not_mem_openTag first]

theorem readsLines_closing (frame : Frame) (h : Legible frame.name frame.attributes)
    (hpending : reader.pending = none) :
    ReadsLines reader.stack.length (reader.push frame)
      [indentation reader.stack.length ++ closeTag frame.name]
      (reader.attach frame.outline) := by
  have hinside : (reader.push frame).pending = none := hpending
  have hname : '>' ∉ frame.name.toList := h.not_mem_name (by decide)
  have hblanks := (reads_indentation hinside reader.stack.length).mono (Nat.le_succ _)
  have hline := hblanks.append (reads_closeTag frame hname hpending)
  refine readsLines_singleton (.closing frame reader.stack) ?_ hline (by simp [hpending])
  simp [indentation_not_mem, h.break_not_mem_closeTag]

theorem readsLines_whole (h : Legible name attributes) (hpending : reader.pending = none)
    (first : Nat) :
    ReadsLines reader.stack.length reader
      [indentation reader.stack.length ++ (openTag name first attributes ++ closeTag name)]
      (reader.attach (.node name attributes [])) := by
  have hname : '>' ∉ name.toList := h.not_mem_name (by decide)
  have hclose := reads_closeTag { name, attributes } hname hpending
  have htag := (reads_openTag h reader hpending first).append hclose
  have hline := (reads_indentation hpending reader.stack.length).append htag
  refine readsLines_singleton (h.indented_openTag _ first _) ?_ hline (by simp [hpending])
  simp [indentation_not_mem, h.break_not_mem_openTag first, h.break_not_mem_closeTag]

/-! ## Trees -/

namespace Outline

/-- All tags of the tree can be told from their markup. -/
def Readable (outline : Outline) : Prop :=
  ∀ opened ∈ outline.preorder, Legible opened.1 opened.2

theorem readable_node {children : List Outline} :
    (Outline.node name attributes children).Readable ↔
      Legible name attributes ∧ ∀ child ∈ children, child.Readable := by
  simp only [Readable, preorder, List.forall_mem_cons, mem_preorderOfAll]
  refine and_congr_right' ⟨?_, ?_⟩
  · intro h child hchild opened hopened
    exact h opened ⟨child, hchild, hopened⟩
  · rintro h opened ⟨child, hchild, hopened⟩
    exact h child hchild opened hopened

mutual

/-- A tree is put into the innermost tag that is open, and all that stood open before does so
behind its lines. -/
theorem readsLines_lines : ∀ (outline : Outline) (reader : Reader) (first : Nat),
    outline.Readable → reader.pending = none →
    ReadsLines reader.stack.length reader (outline.lines reader.stack.length first)
      (reader.attach outline)
  | .node name attributes children, reader, first, h, hpending => by
      obtain ⟨htag, hchildren⟩ := readable_node.1 h
      by_cases hnone : children = []
      · subst hnone
        rw [lines_of_no_children]
        exact readsLines_whole htag hpending first
      · have hopen := readsLines_opening htag hpending first
        have hinside := readsLines_linesOfAll children (reader.push { name, attributes })
          (first + attributes.length) hchildren hpending
        rw [Reader.foldl_attach_push] at hinside
        have hclose := readsLines_closing { name, attributes, children } htag hpending
        rw [lines_of_children _ _ _ _ hnone]
        exact hopen.append ((hinside.mono (Nat.le_succ _)).append hclose)

theorem readsLines_linesOfAll : ∀ (outlines : List Outline) (reader : Reader) (first : Nat),
    (∀ outline ∈ outlines, outline.Readable) → reader.pending = none →
    ReadsLines reader.stack.length reader (linesOfAll reader.stack.length first outlines)
      (outlines.foldl Reader.attach reader)
  | [], reader, _, _, _ => .nil reader
  | outline :: rest, reader, first, h, hpending => by
      obtain ⟨houtline, hothers⟩ := List.forall_mem_cons.1 h
      have hhere := readsLines_lines outline reader first houtline hpending
      have hrest := readsLines_linesOfAll rest (reader.attach outline)
        (first + outline.placeholders) hothers (by simp [hpending])
      rw [Reader.length_stack_attach] at hrest
      exact hhere.append hrest

end

/-- Between the opening and the closing tag of a tree its tag stays open. -/
theorem exists_between {children : List Outline}
    (h : (Outline.node name attributes children).Readable) :
    ∃ between,
      (Outline.node name attributes children).text =
        openTag name 1 attributes ++ (between ++ closeTag name) ∧
      Reads 1 (Reader.push {} { name, attributes }) between
        (Reader.push {} { name, attributes, children }) := by
  by_cases hnone : children = []
  · subst hnone
    refine ⟨[], ?_, .nil _ le_rfl⟩
    simp [text, lines_of_no_children, indentation]
  · have hbreak : Reads 1 (Reader.push {} { name, attributes }) ['\n']
        (Reader.push {} { name, attributes }) :=
      reads_between (Reader.push {} { name, attributes }) rfl (by decide)
    have hlines := readsLines_linesOfAll children (Reader.push {} { name, attributes })
      (1 + attributes.length) (readable_node.1 h).2 rfl
    rw [Reader.foldl_attach_push] at hlines
    refine ⟨_, ?_, hbreak.append (hlines.reads_breaks le_rfl)⟩
    rw [text, lines_of_children _ _ _ _ hnone, ← List.cons_append,
      Document.intercalate_break_append]
    simp [indentation, Reader.push]

variable {outline : Outline}

/-- The text of a tree begins with an opening tag, whose last character is the first `>`, and the
tag is closed with the last character of the text. -/
theorem exists_inside (h : outline.Readable) :
    ∃ opening opened inside last,
      outline.text = opening ++ '>' :: (inside ++ ['>']) ∧ '>' ∉ opening ∧
      Reads 0 {} (opening ++ ['>']) opened ∧ Reads 1 opened inside last ∧
      last.step? '>' = some { trees := [outline] } := by
  obtain ⟨name, attributes, children⟩ := outline
  have htag : Legible name attributes := (readable_node.1 h).1
  obtain ⟨between, htext, hbetween⟩ := exists_between h
  have hopening : '>' ∉ '<' :: (name.toList ++ attributesText 1 attributes) := by
    have hcontent : '>' ∉ name.toList ++ attributesText 1 attributes :=
      htag.not_mem_content (by decide) 1
    simpa using hcontent
  have hopen := reads_openTag htag {} rfl 1
  have hslash : '>' ∉ '/' :: name.toList := by
    have hname : '>' ∉ name.toList := htag.not_mem_name (by decide)
    simp [hname]
  have hclose := reads_tag_start (Reader.push {} { name, attributes, children }) rfl hslash
  refine ⟨_, _, between ++ '<' :: '/' :: name.toList, _, ?_, hopening, hopen,
    hbetween.append hclose, ?_⟩
  · simp [htext, openTag, closeTag]
  · rw [step?_tag_end _ rfl]
    simp [Reader.endTag?, Reader.pop?, Reader.push, Reader.attach, Frame.outline]

theorem run?_text (h : outline.Readable) :
    Reader.run? {} outline.text = some { trees := [outline] } := by
  obtain ⟨opening, opened, inside, last, htext, _, hopen, hinside, hend⟩ := exists_inside h
  have hsplit : outline.text = (opening ++ ['>']) ++ (inside ++ ['>']) := by
    simp [htext]
  rw [hsplit, Reader.run?_append, hopen.run?_eq, Option.bind_some, Reader.run?_append,
    hinside.run?_eq, Option.bind_some]
  simp [Reader.run?, hend]

/-- Once a tag has been read, no tag is open at the end of the text and only there. -/
theorem exists_run?_of_front (h : outline.Readable) {front back : List Char}
    (htext : outline.text = front ++ back) (hfront : '>' ∈ front) :
    ∃ here, Reader.run? {} front = some here ∧ (here.stack = [] ↔ back = []) := by
  rcases List.eq_nil_or_concat back with rfl | ⟨early, c, rfl⟩
  · refine ⟨{ trees := [outline] }, ?_, by simp⟩
    rw [← List.append_nil front, ← htext]
    exact run?_text h
  · obtain ⟨opening, opened, inside, last, hwhole, hopening, hopen, hinside, _⟩ :=
      exists_inside h
    -- the tag is open here, for what is left out holds the last character
    obtain ⟨between, rfl, hbetween⟩ :=
      exists_eq_append_cons_of_mem (htext.symm.trans hwhole) hfront hopening
    have hpart : between ++ early = inside := by
      rw [List.concat_eq_append, ← List.append_assoc] at hbetween
      exact (List.append_inj' hbetween rfl).1
    obtain ⟨here, hrun, hheight⟩ := (hpart ▸ hinside).exists_run?
    have hopened : here.stack ≠ [] := by
      intro hnone
      simp [hnone] at hheight
    refine ⟨here, ?_, by simp [hopened]⟩
    have hsplit : opening ++ '>' :: between = (opening ++ ['>']) ++ between := by
      simp
    rw [hsplit, Reader.run?_append, hopen.run?_eq]
    exact hrun

end Outline

/-! ## Skeletons -/

variable {catalogue : Catalogue}

theorem readable_expand
    (hcatalogue : ∀ tag ∈ catalogue.tags.entries, Legible tag.name tag.defaultAttributes)
    (below : Nat) {tag : Tag} (htag : Legible tag.name tag.defaultAttributes) :
    (catalogue.expand below tag).Readable := by
  induction below generalizing tag with
  | zero =>
      exact Outline.readable_node.2 ⟨htag, by simp⟩
  | succ below ih =>
      refine Outline.readable_node.2 ⟨htag, ?_⟩
      intro outline houtline
      -- children are found in the catalogue
      obtain ⟨child, hchild, rfl⟩ := List.mem_map.1 houtline
      obtain ⟨name, _, hname⟩ := List.mem_filterMap.1 hchild
      exact ih (hcatalogue child (mem_entries_of_tag? hname))

/-- The inserted text is read without a failure and leaves the tree of the tag behind. No tag is
open at its end, and only there once a tag has been read; and every line is indented by the tags
that are open where it starts. -/
theorem skeleton_reads_back
    (hcatalogue : ∀ tag ∈ catalogue.tags.entries, Legible tag.name tag.defaultAttributes)
    {tag : Tag} (htag : Legible tag.name tag.defaultAttributes) (maxDepth : Nat) :
    let text := '<' :: (catalogue.skeleton tag maxDepth).toList
    Reader.run? {} text = some { trees := [catalogue.expand (max maxDepth 1 - 1) tag] } ∧
      (∀ front back, text = front ++ back → '>' ∈ front →
        ∃ here, Reader.run? {} front = some here ∧ (here.stack = [] ↔ back = [])) ∧
      (∀ above line below, splitLines text = above ++ line :: below →
        ∃ here, Reader.run? {} (above.flatMap (· ++ ['\n'])) = some here ∧
          here.pending = none ∧ Indented here.stack line) := by
  intro text
  have hbelow : max maxDepth 1 - 1 = maxDepth - 1 := by omega
  have htext : text = (catalogue.expand (maxDepth - 1) tag).text :=
    open_cons_skeleton catalogue tag maxDepth
  have htree := readable_expand hcatalogue (maxDepth - 1) htag
  have hlines := Outline.readsLines_lines _ {} 1 htree rfl
  rw [hbelow, htext]
  refine ⟨Outline.run?_text htree, ?_, ?_⟩
  · intro front back hcut hfront
    exact Outline.exists_run?_of_front htree hcut hfront
  · intro above line below hsplit
    have hwritten : (catalogue.expand (maxDepth - 1) tag).lines 0 1 = above ++ line :: below := by
      rw [← hsplit, Outline.splitLines_text hlines.break_not_mem]
    exact (hwritten ▸ hlines).exists_start rfl

/-- Two tags that refer to each other, one of them to an unknown tag as well. -/
theorem skeleton_reads_back_of_cycle :
    Reader.run? {} ("<el-row :gutter=\"$1\">\n  <el-col a b=\"$2\"></el-col>\n</el-row>").toList =
        some { trees := [.node "el-row" [":gutter"] [.node "el-col" ["a b"] []]] } ∧
      (∃ here, Reader.run? {} "<el-row :gutter=\"$1\">\n  <el-col a b=\"$2\"></el-col>".toList =
        some here ∧ here.stack ≠ []) ∧
      ∃ here, Reader.run? {} "<el-row :gutter=\"$1\">\n".toList = some here ∧
        here.pending = none ∧ Indented here.stack "  <el-col a b=\"$2\"></el-col>".toList := by
  have hrow : Legible "el-row" [":gutter"] :=
    ⟨by decide, List.all_eq_true.1 (by decide), by simp [isAngle, isQuote]⟩
  have hcol : Legible "el-col" ["a b"] :=
    ⟨by decide, List.all_eq_true.1 (by decide), by simp [isAngle, isQuote]⟩
  have hcatalogue : ∀ tag ∈ (Catalogue.ofLists
      [⟨"el-row", ["el-col", "el-gap"], [":gutter"], [], ""⟩,
        ⟨"el-col", ["el-row"], ["a b"], [], ""⟩] [] []).tags.entries,
      Legible tag.name tag.defaultAttributes := by
    intro tag htag
    rcases List.mem_cons.1 htag with rfl | htag
    · exact hrow
    · rw [List.mem_singleton.1 htag]
      exact hcol
  have htext : '<' :: (Catalogue.skeleton (.ofLists
        [⟨"el-row", ["el-col", "el-gap"], [":gutter"], [], ""⟩,
          ⟨"el-col", ["el-row"], ["a b"], [], ""⟩] [] [])
      ⟨"el-row", ["el-col", "el-gap"], [":gutter"], [], ""⟩ 2).toList =
      "<el-row :gutter=\"$1\">\n  <el-col a b=\"$2\"></el-col>\n</el-row>".toList := by
    rw [open_cons_skeleton]
    decide
  have hreads := skeleton_reads_back hcatalogue
    (show Legible (Tag.mk "el-row" ["el-col", "el-gap"] [":gutter"] [] "").name _ from hrow) 2
  simp only [htext] at hreads
  obtain ⟨hrun, hfronts, hlines⟩ := hreads
  refine ⟨hrun, ?_, ?_⟩
  · obtain ⟨here, hfront, hempty⟩ := hfronts
      "<el-row :gutter=\"$1\">\n  <el-col a b=\"$2\"></el-col>".toList "\n</el-row>".toList
      (by decide) (by decide)
    exact ⟨here, hfront, fun hnone => absurd (hempty.1 hnone) (by decide)⟩
  · exact hlines ["<el-row :gutter=\"$1\">".toList] "  <el-col a b=\"$2\"></el-col>".toList
      ["</el-row>".toList] (by decide)

end Catalogue
end MarkupAssist
