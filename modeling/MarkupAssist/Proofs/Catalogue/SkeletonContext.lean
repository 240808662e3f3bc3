import MarkupAssist.Proofs.Catalogue.SkeletonLines
import MarkupAssist.Proofs.Markup.TypedValue

/-!
# Skeletons in a document

A skeleton that has been inserted into a document is understood there. The automaton is
followed through the parts of a line in the order in which they are written.

- `insertedLines`                 : the lines of a skeleton that stands behind a margin
- `classify_of_beforePlaceholder` : in a placeholder the value of its attribute is asked for
- `classify_of_closing`           : behind the last line nothing is
- `classify_skeleton`             : both, for every line of an inserted skeleton
-/

namespace MarkupAssist

namespace Markup

open Catalogue.Outline (attributeText attributesText openTag closeTag)

variable {p : Progress}

/-! ## Reading what is written for a tag -/

theorem run_space (h : p.state = .text) {cs : List Char}
    (hcs : ∀ c ∈ cs, Text.isSpace c = true) (column : Nat) :
    run column p cs = p := by
  refine run_of_unmoved ?_ column
  intro c hc k
  have hspace := hcs c hc
  have hne : ∀ d, Text.isSpace d = false → c ≠ d := by
    rintro d hd rfl
    simp [hd] at hspace
  simp [step, h, hne '<' (by decide), hne '>' (by decide), hne '=' (by decide)]

theorem run_tagName {start : Nat} {name : String} (h : p.state = .tagName start name)
    {cs : List Char} (hcs : ∀ c ∈ cs, isNameChar c = true) (column : Nat) :
    run column p cs = p.moveTo (.tagName start (String.ofList (name.toList ++ cs))) := by
  induction cs generalizing column p name with
  | nil =>
      simp [Progress.moveTo, ← h]
  | cons c rest ih =>
      have hstep : step column c p = p.moveTo (.tagName start (name.push c)) := by
        simp [step, h, hcs c (by simp)]
      rw [run_cons, hstep, ih rfl (fun d hd => hcs d (by simp [hd]))]
      simp [Progress.moveTo]

theorem run_opened_name (h : p.state = .text) {name : String} (hne : name.toList ≠ [])
    (hname : ∀ c ∈ name.toList, isNameChar c = true) (column : Nat) :
    run column p ('<' :: name.toList) = p.moveTo (.tagName column name) := by
  obtain ⟨c, rest, hcs⟩ := List.exists_cons_of_ne_nil hne
  rw [hcs] at hname
  have hopened : step column '<' p = p.moveTo (.opened column) := by
    simp [step, h]
  have hfirst : step (column + 1) c (p.moveTo (.opened column)) =
      p.moveTo (.tagName column (String.singleton c)) := by
    simp [step, Progress.moveTo, hname c (by simp)]
  have hofList : String.ofList (c :: rest) = name := by
    rw [← hcs, String.ofList_toList]
  rw [hcs, run_cons, hopened, run_cons, hfirst, run_tagName rfl fun d hd => hname d (by simp [hd])]
  simp [Progress.moveTo, hofList]

theorem run_of_inTag (h : p.state = .inTag) {cs : List Char}
    (hcs : ∀ c ∈ cs, isQuote c = false ∧ isAngle c = false) (column : Nat) :
    run column p cs = p := by
  refine run_of_unmoved ?_ column
  intro c hc k
  rcases hcs c hc with ⟨hquote, hangle⟩
  rcases ne_of_isAngle hangle with ⟨hopen, hclose⟩
  simp [step, h, hquote, hopen, hclose]

theorem run_of_closingTag (h : p.state = .closingTag) {cs : List Char}
    (hcs : ∀ c ∈ cs, isAngle c = false) (column : Nat) :
    run column p cs = p := by
  refine run_of_unmoved ?_ column
  intro c hc k
  rcases ne_of_isAngle (hcs c hc) with ⟨hopen, hclose⟩
  simp [step, h, hopen, hclose]

theorem run_quoted (h : p.state = .inTag) {quote : Char} (hquote : isQuote quote = true)
    {value : List Char} (hvalue : quote ∉ value) (column : Nat) :
    run column p (quote :: (value ++ [quote])) = p := by
  have hopen : step column quote p = p.moveTo (.quoted quote) := by
    simp [step, h, hquote]
  have hstay : ∀ k, run k (p.moveTo (.quoted quote)) value = p.moveTo (.quoted quote) := by
    intro k
    exact run_of_holds (.inl rfl) hvalue k
  rw [run_cons, hopen, run_append, hstay]
  simp [step, Progress.moveTo, ← h]

/-- A default attribute and its placeholder leave the automaton where it was. -/
theorem run_attributesText (h : p.state = .inTag) {names : List String}
    (hnames : ∀ name ∈ names, ∀ c ∈ name.toList, isPlain c = true) (first column : Nat) :
    run column p (attributesText first names) = p := by
  induction names generalizing first column with
  | nil =>
      rfl
  | cons name rest ih =>
      have hword : ∀ c ∈ ' ' :: (name.toList ++ ['=']), isQuote c = false ∧ isAngle c = false := by
        intro c hc
        simp only [List.mem_cons, List.mem_append, List.not_mem_nil, or_false] at hc
        rcases hc with rfl | hc | rfl
        · decide
        · rcases isPlain_iff.1 (hnames name (by simp) c hc) with ⟨_, hquote, _, hangle⟩
          exact ⟨hquote, hangle⟩
        · decide
      have hvalue : '"' ∉ '$' :: Nat.toDigits 10 first := by
        simp [Catalogue.not_mem_toDigits first (by decide : isPlain '"' = false)]
      have hrest : ∀ other ∈ rest, ∀ c ∈ other.toList, isPlain c = true := by
        intro other hmem
        exact hnames other (by simp [hmem])
      -- up to its `=`, then the placeholder within its quotes, then the other attributes
      have hshape : attributesText first (name :: rest) = (' ' :: (name.toList ++ ['='])) ++
          ('"' :: ('$' :: Nat.toDigits 10 first ++ ['"']) ++ attributesText (first + 1) rest) := by
        simp [attributesText, attributeText]
      rw [hshape, run_append, run_of_inTag h hword, run_append, run_quoted h (by decide) hvalue]
      exact ih hrest _ _

/-- Right after a name the first default attribute begins the attributes of the tag. -/
theorem run_attributesText_of_tagName {start : Nat} {name : String}
    (h : p.state = .tagName start name) {names : List String}
    (hnames : ∀ name ∈ names, ∀ c ∈ name.toList, isPlain c = true) (first column : Nat) :
    run column p (attributesText first names) = p ∨
      run column p (attributesText first names) = p.openWith name start .inTag := by
  cases names with
  | nil =>
      exact .inl rfl
  | cons attributeName rest =>
      have hname : isNameChar ' ' = false := by decide
      have hquote : isQuote ' ' = false := by decide
      have hfirst : step column ' ' p = p.openWith name start .inTag := by
        simp [step, h, hname, hquote]
      have hagain : step column ' ' (p.openWith name start .inTag) =
          p.openWith name start .inTag := by
        simp [step, Progress.openWith, hquote]
      -- the same blank would leave the automaton among the attributes if it were there already
      have hblank : ∀ cs, run column p (' ' :: cs) =
          run column (p.openWith name start .inTag) (' ' :: cs) := by
        intro cs
        rw [run_cons, run_cons, hfirst, hagain]
      right
      calc
        run column p (attributesText first (attributeName :: rest))
            = run column (p.openWith name start .inTag)
                (attributesText first (attributeName :: rest)) := hblank _
        _ = p.openWith name start .inTag := run_attributesText rfl hnames first column

section Tags

variable {tag : Catalogue.Tag} (hnamed : tag.WellNamed)
include hnamed

/-- Behind the tag's name and some attributes: still within the name when there are none. -/
theorem run_name_attributesText (h : p.state = .text) {names : List String}
    (hnames : ∀ name ∈ names, ∀ c ∈ name.toList, isPlain c = true) (first column : Nat) :
    run column p (('<' :: tag.name.toList) ++ attributesText first names) =
        p.moveTo (.tagName column tag.name) ∨
      run column p (('<' :: tag.name.toList) ++ attributesText first names) =
        p.openWith tag.name column .inTag := by
  have hopened := run_opened_name h hnamed.name_ne_nil hnamed.name_chars column
  have hstate : (p.moveTo (.tagName column tag.name)).state = .tagName column tag.name := rfl
  rw [run_append, hopened]
  exact run_attributesText_of_tagName hstate hnames first _

/-- Before each default attribute the tag is open. -/
theorem run_beforeDefault (h : p.state = .text) {earlier : List String}
    (hearlier : ∀ name ∈ earlier, name ∈ tag.defaultAttributes) (first column : Nat) :
    run column p (('<' :: tag.name.toList) ++ attributesText first earlier ++ [' ']) =
      p.openWith tag.name column .inTag := by
  have hplain : ∀ name ∈ earlier, ∀ c ∈ name.toList, isPlain c = true := by
    intro name hmem
    exact hnamed.defaults_plain name (hearlier name hmem)
  have hname : isNameChar ' ' = false := by decide
  have hquote : isQuote ' ' = false := by decide
  rw [run_append]
  rcases run_name_attributesText hnamed h hplain first column with hread | hread
  · rw [hread]
    simp [step, Progress.moveTo, Progress.openWith, hname, hquote]
  · rw [hread]
    simp [step, Progress.openWith, hquote]

theorem run_openTag (h : p.state = .text) (first column : Nat) :
    run column p (openTag tag.name first tag.defaultAttributes) = p.endTag := by
  have hname : isNameChar '>' = false := by decide
  have hquote : isQuote '>' = false := by decide
  have hshape : openTag tag.name first tag.defaultAttributes =
      (('<' :: tag.name.toList) ++ attributesText first tag.defaultAttributes) ++ ['>'] := by
    simp [openTag]
  rw [hshape, run_append]
  rcases run_name_attributesText hnamed h hnamed.defaults_plain first column with hread | hread
  · rw [hread]
    simp [step, Progress.moveTo, Progress.endTag, hname]
  · rw [hread]
    simp [step, Progress.openWith, Progress.endTag, hquote]

theorem run_closeTag (h : p.state = .text) (column : Nat) :
    run column p (closeTag tag.name) = p.strayEnd := by
  have hslash : isNameChar '/' = false := by decide
  have hbegun : run column p ['<', '/'] = p.moveTo .closingTag := by
    simp [step, h, Progress.moveTo, hslash]
  have hangle : ∀ c ∈ tag.name.toList, isAngle c = false := by
    intro c hc
    exact (isPlain_iff.1 (isPlain_of_isNameChar (hnamed.name_chars c hc))).2.2.2
  have hstay : ∀ k, run k (p.moveTo .closingTag) tag.name.toList = p.moveTo .closingTag := by
    intro k
    exact run_of_closingTag rfl hangle k
  calc
    run column p (closeTag tag.name)
        = run column p (['<', '/'] ++ (tag.name.toList ++ ['>'])) := by
          simp [closeTag]
    _ = run (column + 2 + tag.name.toList.length) (p.moveTo .closingTag) ['>'] := by
          rw [run_append, hbegun, run_append, hstay]
          rfl
    _ = p.strayEnd := by
          simp [step, Progress.moveTo, Progress.strayEnd]

end Tags

/-- A line that closes a tag leaves nothing open, whether it opens the tag too or not. -/
theorem scanLine_closing {tag : Catalogue.Tag} (hnamed : tag.WellNamed) {first : Nat}
    {margin opened : List Char} (hmargin : ∀ c ∈ margin, Text.isSpace c = true)
    (hopened : opened = [] ∨ opened = openTag tag.name first tag.defaultAttributes) :
    scanLine (margin ++ (opened ++ closeTag tag.name)) = ⟨none, false, true, false⟩ := by
  rw [scanLine, run_append, run_space rfl hmargin, run_append]
  rcases hopened with rfl | rfl
  · rw [run_nil, run_closeTag hnamed rfl]
    rfl
  · rw [run_openTag hnamed rfl, run_closeTag hnamed rfl]
    rfl

/-! ## Answers on a line -/

variable {document : Document} {n : Nat} {settings : CompletionSettings}

theorem scanTag_of_openTag {tag : OpenTag} {front back : List Char}
    (hline : document.line? n = some (front ++ back))
    (hscan : scanLine front = ⟨some tag, false, false, false⟩)
    (hwindow : 1 ≤ settings.lookbackLines) :
    scanTag document ⟨n, front.length⟩ settings =
      .found ⟨tag.name, document.offsetAt ⟨n, tag.column⟩⟩ := by
  have hcontains : document.Contains ⟨n, front.length⟩ := Document.contains_of_line? hline
  rw [scanTag, enclosingTag_of_window hcontains hwindow, Document.textBefore_of_line? hline, hscan]
  rfl

theorem classify_of_closed {line : List Char} (hline : document.line? n = some line)
    (hscan : scanLine line = ⟨none, false, true, false⟩) (hlast : line.getLast? ≠ some '<')
    (hwindow : 1 ≤ settings.lookbackLines) :
    classify document ⟨n, line.length⟩ settings = .nothing := by
  have hcontains : document.Contains ⟨n, line.length⟩ := Document.contains_of_line? hline
  have hbefore : document.textBefore ⟨n, line.length⟩ = line := by
    rw [← List.append_nil line] at hline
    exact Document.textBefore_of_line? hline
  have hlookup : scanTag document ⟨n, line.length⟩ settings = .outside := by
    rw [scanTag, enclosingTag_of_window hcontains hwindow, hbefore, hscan]
    rfl
  have hstarts : startsTag document ⟨n, line.length⟩ .outside = false := by
    simp [startsTag, Document.charBefore?, hbefore, hlast]
  simp [classify, hcontains, hlookup, hstarts]

end Markup

namespace Catalogue

open Markup (Spelling classify)
open Outline (closeTag)

variable {catalogue : Catalogue} {document : Document} {n : Nat} {settings : CompletionSettings}

/-- Before a placeholder's attribute its tag is open and a word may begin. -/
theorem BeforePlaceholder.exists_opened {tag : Tag} (hnamed : tag.WellNamed)
    {spelling : Spelling} {front : List Char} (h : BeforePlaceholder tag spelling front) :
    ∃ opened column, front = opened ++ (spelling.text ++ ['=']) ∧
      Text.startsWord opened = true ∧
      Markup.run 0 .start opened = Markup.Progress.openWith tag.name column .inTag .start := by
  rcases h with ⟨margin, first, earlier, later, hmargin, hdefaults⟩
  have hearlier : ∀ name ∈ earlier, name ∈ tag.defaultAttributes := by
    intro name hmem
    simp [hdefaults, hmem]
  refine ⟨margin ++ (('<' :: tag.name.toList) ++ Outline.attributesText first earlier ++ [' ']),
    0 + margin.length, by simp, ?_, ?_⟩
  · rw [← List.append_assoc]
    exact Text.startsWord_append_space _ (by decide)
  · have hstart : Markup.Progress.start.state = .text := rfl
    rw [Markup.run_append, Markup.run_space hstart hmargin]
    exact Markup.run_beforeDefault hnamed hstart hearlier first _

/-- In a placeholder the value of its attribute is asked for. -/
theorem classify_of_beforePlaceholder {tag : Tag} (hnamed : tag.WellNamed) {spelling : Spelling}
    {front back : List Char} (h : BeforePlaceholder tag spelling front)
    (hline : document.line? n = some (front ++ '"' :: back))
    (hwindow : 1 ≤ settings.lookbackLines) :
    classify document ⟨n, front.length + 1⟩ settings =
      .attributeValue tag.name (String.ofList spelling.name) := by
  rcases h.exists_opened hnamed with ⟨opened, column, rfl, hword, hrun⟩
  have hshape : document.line? n =
      some (opened ++ (spelling.text ++ '=' :: '"' :: []) ++ back) := by
    rw [hline]
    simp
  have hopened : document.line? n =
      some (opened ++ (spelling.text ++ '=' :: '"' :: back)) := by
    rw [hline]
    simp
  have hfound := Markup.scanTag_of_openTag hopened (congrArg Markup.Progress.summary hrun) hwindow
  have hclosed : ∀ q, ¬ (Markup.run 0 .start opened).state.holds q := by
    intro q
    simp [hrun, Markup.State.holds, Markup.Progress.openWith]
  -- the automaton and the probe read the text up to the quote apart from each other
  have htag := Markup.lookup_of_typed_value hshape hfound hclosed spelling.text_ne_nil
    spelling.isPlain_of_mem (by decide) (by simp)
  have hname := Markup.valuedAttribute?_of_text spelling (Document.textBefore_of_line? hshape)
    hword (by decide) (by simp)
  have hcolumn : (opened ++ (spelling.text ++ ['='])).length + 1 =
      (opened ++ (spelling.text ++ '=' :: '"' :: [])).length := by
    simp [Nat.add_assoc]
  rw [hcolumn]
  exact Markup.classify_eq_attributeValue htag hname

/-- After the last line of a skeleton nothing is asked for. -/
theorem classify_of_closing {tag : Tag} (hnamed : tag.WellNamed) {first : Nat}
    {margin opened : List Char} (hmargin : ∀ c ∈ margin, Text.isSpace c = true)
    (hopened : opened = [] ∨ opened = Outline.openTag tag.name first tag.defaultAttributes)
    (hline : document.line? n = some (margin ++ (opened ++ closeTag tag.name)))
    (hwindow : 1 ≤ settings.lookbackLines) :
    classify document ⟨n, (margin ++ (opened ++ closeTag tag.name)).length⟩ settings =
      .nothing := by
  refine Markup.classify_of_closed hline (Markup.scanLine_closing hnamed hmargin hopened) ?_ hwindow
  have hend : margin ++ (opened ++ closeTag tag.name) =
      (margin ++ (opened ++ ('<' :: '/' :: tag.name.toList))) ++ ['>'] := by
    simp [closeTag]
  rw [hend, List.getLast?_concat]
  decide

/-! ## Inserted skeletons -/

/-- The lines of a skeleton that stands behind a margin, with its `<`. -/
def insertedLines (catalogue : Catalogue) (tag : Tag) (maxDepth : Nat) (margin : List Char) :
    List (List Char) :=
  (splitLines ('<' :: (catalogue.skeleton tag maxDepth).toList)).modifyHead (margin ++ ·)

section Inserted

variable {tag : Tag} {maxDepth : Nat} {margin : List Char} (hnamed : catalogue.WellNamed)
  (htag : tag ∈ catalogue.tags.entries) (hmargin : ∀ c ∈ margin, Text.isSpace c = true)
include hnamed htag hmargin

theorem tagLine_of_mem_insertedLines {line : List Char}
    (h : line ∈ catalogue.insertedLines tag maxDepth margin) :
    ∃ blanks markup, (∀ c ∈ blanks, Text.isSpace c = true) ∧ line = blanks ++ markup ∧
      TagLine catalogue markup := by
  have hindentation : ∀ depth, ∀ c ∈ Outline.indentation depth, Text.isSpace c = true := by
    intro depth c hc
    rw [List.eq_of_mem_replicate hc]
    decide
  have hwritten : ∀ line ∈ (catalogue.expand (maxDepth - 1) tag).lines 0 1,
      ∃ depth markup, line = Outline.indentation depth ++ markup ∧ TagLine catalogue markup := by
    intro line hline
    exact tagLine_of_mem_lines _ htag hline
  rw [insertedLines, splitLines_skeleton hnamed htag] at h
  cases hlines : (catalogue.expand (maxDepth - 1) tag).lines 0 1 with
  | nil =>
      simp [hlines] at h
  | cons head rest =>
      rw [hlines] at h hwritten
      -- the margin stands before the first line only
      rcases List.mem_cons.1 h with rfl | hrest
      · rcases hwritten head (by simp) with ⟨depth, markup, rfl, hmarkup⟩
        refine ⟨margin ++ Outline.indentation depth, markup, ?_, by simp, hmarkup⟩
        intro c hc
        rcases List.mem_append.1 hc with hc | hc
        · exact hmargin c hc
        · exact hindentation depth c hc
      · rcases hwritten line (by simp [hrest]) with ⟨depth, markup, rfl, hmarkup⟩
        exact ⟨Outline.indentation depth, markup, hindentation depth, rfl, hmarkup⟩

theorem closing_of_insertedLines_eq {above : List (List Char)} {line : List Char}
    (h : catalogue.insertedLines tag maxDepth margin = above ++ [line]) :
    ∃ blanks opened, (∀ c ∈ blanks, Text.isSpace c = true) ∧
      line = blanks ++ (opened ++ closeTag tag.name) ∧
      (opened = [] ∨ opened = Outline.openTag tag.name 1 tag.defaultAttributes) := by
  rcases expand_eq_node catalogue (maxDepth - 1) tag with ⟨children, hnode⟩
  rcases Outline.exists_lines_eq_concat 0 1 tag.name tag.defaultAttributes children with
    ⟨front, opened, hlines, hopened⟩
  rw [insertedLines, splitLines_skeleton hnamed htag, hnode, hlines] at h
  -- the last line is the first one too when the tag has no children
  cases front with
  | nil =>
      refine ⟨margin, opened, hmargin, ?_, hopened⟩
      have hlast := congrArg List.getLast? h
      simpa [Outline.indentation] using hlast.symm
  | cons head rest =>
      refine ⟨[], opened, by simp, ?_, hopened⟩
      rw [List.cons_append, List.modifyHead_cons, ← List.cons_append] at h
      have hlast := congrArg List.getLast? h
      rw [List.getLast?_concat, List.getLast?_concat] at hlast
      simpa [Outline.indentation] using hlast.symm

end Inserted

/-- A skeleton that has been inserted is understood: in each of its placeholders the value of
the default attribute written there is asked for, on behalf of the tag of that line, and after
its last line nothing is. -/
theorem classify_skeleton {tag : Tag} {maxDepth : Nat} {before after : List (List Char)}
    {margin : List Char} (hnamed : catalogue.WellNamed) (htag : tag ∈ catalogue.tags.entries)
    (hmargin : ∀ c ∈ margin, Text.isSpace c = true)
    (hlines : document.lines = before ++ catalogue.insertedLines tag maxDepth margin ++ after)
    (hwindow : 1 ≤ settings.lookbackLines) :
    (∀ above front back below,
      catalogue.insertedLines tag maxDepth margin =
        above ++ (front ++ '"' :: '$' :: back) :: below →
      ∃ owner ∈ catalogue.tags.entries, ∃ spelling, BeforePlaceholder owner spelling front ∧
        classify document ⟨before.length + above.length, front.length + 1⟩ settings =
          .attributeValue owner.name (String.ofList spelling.name)) ∧
    (∀ above line, catalogue.insertedLines tag maxDepth margin = above ++ [line] →
      classify document ⟨before.length + above.length, line.length⟩ settings = .nothing) := by
  have hline : ∀ above line below,
      catalogue.insertedLines tag maxDepth margin = above ++ line :: below →
      document.line? (before.length + above.length) = some line := by
    intro above line below hsplit
    simp [Document.line?, hlines, hsplit]
  refine ⟨?_, ?_⟩
  · intro above front back below hsplit
    have hmem : front ++ '"' :: '$' :: back ∈ catalogue.insertedLines tag maxDepth margin := by
      simp [hsplit]
    rcases tagLine_of_mem_insertedLines hnamed htag hmargin hmem with
      ⟨blanks, markup, hblanks, hshape, hmarkup⟩
    rcases hmarkup.beforePlaceholder hnamed hblanks hshape.symm with
      ⟨owner, howner, spelling, hplaceholder⟩
    refine ⟨owner, howner, spelling, hplaceholder, ?_⟩
    exact classify_of_beforePlaceholder (hnamed owner howner) hplaceholder
      (hline above _ below hsplit) hwindow
  · intro above line hsplit
    rcases closing_of_insertedLines_eq hnamed htag hmargin hsplit with
      ⟨blanks, opened, hblanks, hshape, hopened⟩
    have hat := hline above line [] hsplit
    rw [hshape] at hat ⊢
    exact classify_of_closing (hnamed tag htag) hblanks hopened hat hwindow

theorem classify_skeleton_of_cycle :
    (∃ owner ∈ ([⟨"el-row", ["el-col"], [":gutter.sync"], [], ""⟩,
          ⟨"el-col", ["el-row"], ["span"], [], ""⟩] : List Tag),
      ∃ spelling, BeforePlaceholder owner spelling "  <el-col span=".toList ∧
        classify (.ofText ("<div>\n  <el-row :gutter.sync=\"$1\">\n" ++
            "  <el-col span=\"$2\"></el-col>\n</el-row>\n</div>")) ⟨2, 16⟩ {} =
          .attributeValue owner.name (String.ofList spelling.name)) ∧
    classify (.ofText ("<div>\n  <el-row :gutter.sync=\"$1\">\n" ++
        "  <el-col span=\"$2\"></el-col>\n</el-row>\n</div>")) ⟨3, 9⟩ {} = .nothing := by
  have hnamed : WellNamed (.ofLists [⟨"el-row", ["el-col"], [":gutter.sync"], [], ""⟩,
      ⟨"el-col", ["el-row"], ["span"], [], ""⟩] [] []) := by
    intro tag htag
    rcases List.mem_cons.1 htag with rfl | htag
    · refine ⟨by decide, List.all_eq_true.1 (by decide), ?_⟩
      intro name hname
      rw [List.mem_singleton.1 hname]
      exact ⟨⟨[':'], "gutter".toList, ".sync".toList, by decide, by decide,
        List.all_eq_true.1 (by decide), .inr ⟨_, rfl⟩, List.all_eq_true.1 (by decide)⟩, by decide⟩
    · rw [List.mem_singleton.1 htag]
      refine ⟨by decide, List.all_eq_true.1 (by decide), ?_⟩
      intro name hname
      rw [List.mem_singleton.1 hname]
      exact ⟨.ofName "span".toList (by decide) (List.all_eq_true.1 (by decide)), by decide⟩
  have hinserted : insertedLines (.ofLists [⟨"el-row", ["el-col"], [":gutter.sync"], [], ""⟩,
        ⟨"el-col", ["el-row"], ["span"], [], ""⟩] [] [])
      ⟨"el-row", ["el-col"], [":gutter.sync"], [], ""⟩ 2 [' ', ' '] =
      ["  <el-row :gutter.sync=\"$1\">".toList, "  <el-col span=\"$2\"></el-col>".toList,
        "</el-row>".toList] := by
    rw [insertedLines, splitLines_skeleton hnamed (.head _)]
    decide
  have hlines : Document.lines (.ofText ("<div>\n  <el-row :gutter.sync=\"$1\">\n" ++
        "  <el-col span=\"$2\"></el-col>\n</el-row>\n</div>")) =
      ["<div>".toList] ++
        insertedLines (.ofLists [⟨"el-row", ["el-col"], [":gutter.sync"], [], ""⟩,
            ⟨"el-col", ["el-row"], ["span"], [], ""⟩] [] [])
          ⟨"el-row", ["el-col"], [":gutter.sync"], [], ""⟩ 2 [' ', ' '] ++
        ["</div>".toList] := by
    rw [hinserted]
    decide
  have hwindow : 1 ≤ ({} : CompletionSettings).lookbackLines := by decide
  have hmargin : ∀ c ∈ [' ', ' '], Text.isSpace c = true := List.all_eq_true.1 (by decide)
  rcases classify_skeleton hnamed (.head _) hmargin hlines hwindow with ⟨hplaceholders, hend⟩
  refine ⟨?_, ?_⟩
  · exact hplaceholders ["  <el-row :gutter.sync=\"$1\">".toList] "  <el-col span=".toList
      "2\"></el-col>".toList ["</el-row>".toList] hinserted
  · exact hend ["  <el-row :gutter.sync=\"$1\">".toList, "  <el-col span=\"$2\"></el-col>".toList]
      "</el-row>".toList hinserted

end Catalogue
end MarkupAssist
