import MarkupAssist.Preview.Page
import MarkupAssist.Proofs.Document.Reading

/-!
# The structure of a page

Keywords and settings are text on a page and nothing else: they neither add nor take away a
tag or a quote, and both addresses come out of the page as they are meant.

- `structureOf`  : the characters that make up the tags of a page
- `unescaped`    : text as it is meant inside markup
- `linkAddress?`, `frameAddress?` : the addresses as somebody reads them off a page

A page is put together once (`exists_toList_page`), and both results are read off its parts.
-/

namespace MarkupAssist
namespace Preview

/-! ## Structure -/

def isMarkup (c : Char) : Bool :=
  c == '<' || c == '>' || c == '"'

def structureOf (cs : List Char) : List Char :=
  cs.filter isMarkup

@[simp] theorem structureOf_append (front back : List Char) :
    structureOf (front ++ back) = structureOf front ++ structureOf back :=
  List.filter_append ..

theorem not_mem_of_structureOf_eq_nil {cs : List Char} (h : structureOf cs = []) {c : Char}
    (hc : isMarkup c = true) : c ∉ cs := by
  intro hmem
  exact List.filter_eq_nil_iff.1 h c hmem hc

/-! ## Escaped text -/

theorem structureOf_escapedChar (c : Char) : structureOf (escapedChar c) = [] := by
  fun_cases escapedChar c with
  | case1 => decide
  | case2 => decide
  | case3 => decide
  | case4 => decide
  | case5 hand hless hgreater hquote => simp [structureOf, isMarkup, hless, hgreater, hquote]

theorem structureOf_escaped (text : String) : structureOf (escaped text).toList = [] := by
  rw [escaped, String.toList_ofList, structureOf, List.filter_flatMap, List.flatMap_eq_nil_iff]
  intro c _
  exact structureOf_escapedChar c

/-- Each entity stands for its character, and any other character for itself. -/
def unescaped : List Char → List Char
  | '&' :: 'a' :: 'm' :: 'p' :: ';' :: rest => '&' :: unescaped rest
  | '&' :: 'l' :: 't' :: ';' :: rest => '<' :: unescaped rest
  | '&' :: 'g' :: 't' :: ';' :: rest => '>' :: unescaped rest
  | '&' :: 'q' :: 'u' :: 'o' :: 't' :: ';' :: rest => '"' :: unescaped rest
  | c :: rest => c :: unescaped rest
  | [] => []

theorem unescaped_escapedChar_append (c : Char) (rest : List Char) :
    unescaped (escapedChar c ++ rest) = c :: unescaped rest := by
  fun_cases escapedChar c with
  | case1 hand => rw [hand]; rfl
  | case2 _ hless => rw [hless]; rfl
  | case3 _ _ hgreater => rw [hgreater]; rfl
  | case4 _ _ _ hquote => rw [hquote]; rfl
  | case5 hand =>
      rw [List.singleton_append, unescaped.eq_def]
      simp [hand]

theorem unescaped_flatMap_escapedChar (cs : List Char) :
    unescaped (cs.flatMap escapedChar) = cs := by
  induction cs with
  | nil =>
      rfl
  | cons c rest ih =>
      rw [List.flatMap_cons, unescaped_escapedChar_append, ih]

/-! ## Addresses on a page -/

/-- What the first quoted text holds of the last tag that begins like this. -/
def lastValue? (beginning : String) (page : List Char) : Option (List Char) :=
  let tag? := (page.splitOn '<').reverse.find? beginning.toList.isPrefixOf
  tag?.map fun tag => (tag.drop beginning.toList.length).takeWhile (· ≠ '"')

def linkBeginning : String := "a href=\""

def frameBeginning : String := "iframe id=\"doc-frame\" src=\""

/-- Where the link of a page leads; a stylesheet before it may look like a link as well. -/
def linkAddress? (page : List Char) : Option (List Char) :=
  lastValue? linkBeginning page

/-- What a page shows in its frame. -/
def frameAddress? (page : List Char) : Option (List Char) :=
  lastValue? frameBeginning page

theorem lastValue?_of_last {beginning : String} {value behind : List Char}
    (before label : List Char) (hbeginning : '<' ∉ beginning.toList)
    (hvalue : structureOf value = []) (hlabel : '<' ∉ label)
    (hbehind : ∀ tag ∈ behind.splitOn '<', beginning.toList.isPrefixOf tag = false) :
    lastValue? beginning
        (before ++ '<' :: (beginning.toList ++ value ++ '"' :: label ++ '<' :: behind)) =
      some value := by
  have hless : '<' ∉ value := not_mem_of_structureOf_eq_nil hvalue (by decide)
  have hquote : '"' ∉ value := not_mem_of_structureOf_eq_nil hvalue (by decide)
  have htag : '<' ∉ beginning.toList ++ value ++ '"' :: label := by
    simp [hbeginning, hless, hlabel]
  have htags :
      (before ++ '<' :: (beginning.toList ++ value ++ '"' :: label ++ '<' :: behind)).splitOn '<' =
      before.splitOn '<' ++ (beginning.toList ++ value ++ '"' :: label) :: behind.splitOn '<' := by
    rw [List.splitOn_append_cons_self, List.splitOn_append_cons_self_of_not_mem htag]
  -- the tags are looked through from the end
  have hlater : (behind.splitOn '<').reverse.find? beginning.toList.isPrefixOf = none := by
    rw [List.find?_eq_none]
    intro tag htag
    rw [hbehind tag (List.mem_reverse.1 htag)]
    decide
  have hfound : beginning.toList.isPrefixOf (beginning.toList ++ value ++ '"' :: label) = true := by
    rw [List.append_assoc, List.isPrefixOf_iff_prefix]
    exact List.prefix_append _ _
  have hwithin : ∀ c ∈ value, decide (c ≠ '"') = true := by
    intro c hc
    simpa using ne_of_mem_of_not_mem hc hquote
  rw [lastValue?, htags, List.reverse_append, List.reverse_cons, List.append_assoc,
    List.find?_append, hlater, Option.none_or, List.singleton_append,
    List.find?_cons_of_pos hfound, Option.map_some, List.append_assoc, List.drop_left,
    List.takeWhile_append_of_pos hwithin]
  simp

/-! ## The parts of a page -/

/-- A notice has a link in it, with text before and inside. -/
theorem exists_toList_notice (settings : PreviewSettings) (href : String) :
    ∃ lead label, structureOf lead = [] ∧ structureOf label = [] ∧
      (notice settings href).toList = lead ++ '<' ::
        (linkBeginning.toList ++ href.toList ++ '"' :: ('>' :: label) ++ '<' :: "/a>".toList) := by
  have hversion := structureOf_escaped settings.version
  by_cases hlanguage : settings.language = "zh-CN"
  · refine ⟨"版本：".toList ++ (escaped settings.version).toList ++ "，在线示例请在浏览器中".toList,
      "查看".toList, ?_, by decide, ?_⟩
    · rw [structureOf_append, structureOf_append, hversion]
      decide
    · simp [notice, hlanguage, linkBeginning]
  · refine ⟨"Version: ".toList ++ (escaped settings.version).toList ++
      ", view online examples in ".toList, "browser".toList, ?_, by decide, ?_⟩
    · rw [structureOf_append, structureOf_append, hversion]
      decide
    · simp [notice, hlanguage, linkBeginning]

/-- A page up to the text of its notice. -/
def above (stylesheet : String) : List Char :=
  ((linesAbove stylesheet).map String.toList).flatMap (· ++ ['\n']) ++
    "    <div class=\"docs-notice\">".toList

/-- What follows the tag of the frame. -/
def below : List Char :=
  "/iframe>\n".toList ++ ['\n'].intercalate (linesBelow.map String.toList)

theorem toList_page (settings : PreviewSettings) (stylesheet : String) (query : Query) :
    (page settings stylesheet query).toList =
      ((linesAbove stylesheet).map String.toList).flatMap (· ++ ['\n']) ++
        ((noticeLine settings query.keyword).toList ++ '\n' ::
          ((frameLine settings query.keyword).toList ++ '\n' ::
            ['\n'].intercalate (linesBelow.map String.toList))) := by
  have hlines : (pageLines settings stylesheet query.keyword).map String.toList =
      (linesAbove stylesheet).map String.toList ++ (noticeLine settings query.keyword).toList ::
        (frameLine settings query.keyword).toList :: linesBelow.map String.toList := by
    rw [pageLines, List.map_append, List.map_cons, List.map_cons]
  have hbreak : "\n".toList = ['\n'] := by decide
  have hbelow : linesBelow.map String.toList ≠ [] := List.cons_ne_nil _ _
  unfold page
  rw [String.toList_intercalate, hlines, hbreak, Document.intercalate_break_append,
    List.intercalate_cons_cons, List.intercalate_cons_of_ne_nil hbelow]
  simp only [List.append_assoc, List.singleton_append]

/-- Both tags with an address in them, and what stands around them. -/
theorem exists_toList_page (settings : PreviewSettings) (stylesheet : String) (query : Query) :
    ∃ lead label, structureOf lead = [] ∧ structureOf label = [] ∧
      (page settings stylesheet query).toList =
        above stylesheet ++ lead ++ '<' ::
          (linkBeginning.toList ++ (escaped (onlineUrl settings query.keyword)).toList ++
            '"' :: ('>' :: label) ++ '<' :: ("/a></div>\n    ".toList ++ '<' ::
              (frameBeginning.toList ++ (escaped (localUrl settings query.keyword)).toList ++
                '"' :: ['>'] ++ '<' :: below))) := by
  obtain ⟨lead, label, hlead, hlabel, hnotice⟩ :=
    exists_toList_notice settings (escaped (onlineUrl settings query.keyword))
  refine ⟨lead, label, hlead, hlabel, ?_⟩
  -- two fixed texts are cut at their tags, whatever follows them
  have hbetween : ∀ rest, "/a>".toList ++ ("</div>".toList ++ '\n' ::
        ("    <iframe id=\"doc-frame\" src=\"".toList ++ rest)) =
      "/a></div>\n    ".toList ++ '<' :: (frameBeginning.toList ++ rest) :=
    fun _ => rfl
  have hafter : ∀ rest, "\"></iframe>".toList ++ '\n' :: rest =
      '"' :: '>' :: '<' :: ("/iframe>\n".toList ++ rest) :=
    fun _ => rfl
  rw [toList_page]
  unfold noticeLine frameLine
  simp only [String.toList_append, hnotice, List.append_assoc, List.cons_append, List.nil_append]
  rw [hafter, hbetween]
  unfold above below
  rw [List.append_assoc]

/-! ## What is read off a page -/

/-- Only the stylesheet has a say in the structure of a page. -/
theorem structureOf_page (settings : PreviewSettings) (stylesheet : String) (query : Query) :
    structureOf (page settings stylesheet query).toList =
      structureOf (above stylesheet) ++ ("<\"\"><><><\"\"\"\"><".toList ++ structureOf below) := by
  obtain ⟨lead, label, hlead, hlabel, hpage⟩ := exists_toList_page settings stylesheet query
  have hcons : ∀ {c : Char} (_ : isMarkup c = true) (cs : List Char),
      structureOf (c :: cs) = c :: structureOf cs :=
    fun hc _ => List.filter_cons_of_pos hc
  have hless : isMarkup '<' = true := rfl
  have hgreater : isMarkup '>' = true := rfl
  have hquote : isMarkup '"' = true := rfl
  have hlink : structureOf linkBeginning.toList = ['"'] := by decide
  have hbetween : structureOf "/a></div>\n    ".toList = ['>', '<', '>'] := by decide
  have hframe : structureOf frameBeginning.toList = ['"', '"', '"'] := by decide
  rw [hpage]
  simp only [structureOf_append, hcons hless, hcons hgreater, hcons hquote, hlead, hlabel,
    structureOf_escaped, hlink, hbetween, hframe, List.append_assoc, List.cons_append,
    List.nil_append]
  rfl

theorem not_opens_below :
    ∀ beginning ∈ [linkBeginning, frameBeginning], ∀ tag ∈ below.splitOn '<',
      beginning.toList.isPrefixOf tag = false := by
  decide +kernel

theorem linkAddress?_page (settings : PreviewSettings) (stylesheet : String) (query : Query) :
    linkAddress? (page settings stylesheet query).toList =
      some (escaped (onlineUrl settings query.keyword)).toList := by
  obtain ⟨lead, label, hlead, hlabel, hpage⟩ := exists_toList_page settings stylesheet query
  -- the frame stands behind the link, so its address must not hold a tag that looks like one
  have hsrc : '<' ∉ (escaped (localUrl settings query.keyword)).toList :=
    not_mem_of_structureOf_eq_nil (structureOf_escaped _) rfl
  have hframe : '<' ∉ frameBeginning.toList ++
      (escaped (localUrl settings query.keyword)).toList ++ '"' :: ['>'] := by
    simp [hsrc, frameBeginning]
  rw [hpage, linkAddress?]
  refine lastValue?_of_last _ _ (by decide) (structureOf_escaped _) ?_ ?_
  · simpa using not_mem_of_structureOf_eq_nil hlabel rfl
  · intro tag htag
    rw [List.splitOn_append_cons_self, List.splitOn_append_cons_self_of_not_mem hframe,
      List.mem_append, List.mem_cons] at htag
    have hbetween : ∀ tag ∈ "/a></div>\n    ".toList.splitOn '<',
        linkBeginning.toList.isPrefixOf tag = false := by decide
    rcases htag with htag | rfl | htag
    · exact hbetween tag htag
    · rfl
    · exact not_opens_below linkBeginning (by simp) tag htag

theorem frameAddress?_page (settings : PreviewSettings) (stylesheet : String) (query : Query) :
    frameAddress? (page settings stylesheet query).toList =
      some (escaped (localUrl settings query.keyword)).toList := by
  obtain ⟨lead, label, hlead, hlabel, hpage⟩ := exists_toList_page settings stylesheet query
  have hlast := lastValue?_of_last
    (above stylesheet ++ lead ++ '<' ::
      (linkBeginning.toList ++ (escaped (onlineUrl settings query.keyword)).toList ++
        '"' :: ('>' :: label) ++ '<' :: "/a></div>\n    ".toList))
    ['>'] (by decide) (structureOf_escaped (localUrl settings query.keyword)) (by decide)
    (not_opens_below frameBeginning (by simp))
  rw [hpage, frameAddress?, ← hlast]
  simp only [List.append_assoc, List.cons_append]

/-! ## Addresses as they are meant -/

theorem unescaped_escaped (text : String) : unescaped (escaped text).toList = text.toList := by
  rw [escaped, String.toList_ofList, unescaped_flatMap_escapedChar]

theorem exists_slashes (path : String) :
    ∃ slashes, path.toList = (withoutSlashesAtEnd path).toList ++ slashes ∧
      (∀ c ∈ slashes, c = '/') ∧ (withoutSlashesAtEnd path).toList.getLast? ≠ some '/' := by
  refine ⟨(path.toList.reverse.takeWhile (· == '/')).reverse, ?_, ?_, ?_⟩
  · rw [withoutSlashesAtEnd, String.toList_ofList, ← List.reverse_append,
      List.takeWhile_append_dropWhile, List.reverse_reverse]
  · intro c hc
    simpa using List.all_eq_true.1 List.all_takeWhile c (List.mem_reverse.1 hc)
  · rw [withoutSlashesAtEnd, String.toList_ofList, List.getLast?_reverse]
    intro hhead
    have hnot := List.head?_dropWhile_not (· == '/') path.toList.reverse
    rw [hhead] at hnot
    simp at hnot

theorem onlineUrl_eq (settings : PreviewSettings) (keyword : String) :
    onlineUrl settings keyword = settings.homeUrl ++ settings.version ++ "/index.html#/" ++
      settings.language ++ "/component/" ++ keyword := by
  simp only [onlineUrl, componentPath, String.append_assoc]
  rfl

theorem escaped_localUrl (settings : PreviewSettings) (keyword : String) :
    (escaped (localUrl settings keyword)).toList = "file://".toList ++
      (escaped (withoutSlashesAtEnd settings.docsPath ++ "/" ++
        componentPath settings keyword "main.html")).toList := by
  simp only [localUrl, escaped, String.toList_append, String.toList_ofList, List.flatMap_append,
    List.append_assoc]
  rfl

/-- Two pages with one stylesheet differ in no tag and no quote. The link of a page leads to the
site, and the frame shows the local copy, with every character of the keyword and the settings as
it was. -/
theorem page_keeps_structure_and_addresses (stylesheet : String) :
    (∀ (settings settings' : PreviewSettings) (query query' : Query),
      structureOf (page settings stylesheet query).toList =
        structureOf (page settings' stylesheet query').toList) ∧
    ∀ (settings : PreviewSettings) (query : Query), ∃ href src root slashes,
      linkAddress? (page settings stylesheet query).toList = some href ∧
      unescaped href = (onlineUrl settings query.keyword).toList ∧
      onlineUrl settings query.keyword = settings.homeUrl ++ settings.version ++
        "/index.html#/" ++ settings.language ++ "/component/" ++ query.keyword ∧
      frameAddress? (page settings stylesheet query).toList = some ("file://".toList ++ src) ∧
      settings.docsPath.toList = root ++ slashes ∧ (∀ c ∈ slashes, c = '/') ∧
      root.getLast? ≠ some '/' ∧
      unescaped src = root ++ ("/" ++ settings.version ++ "/main.html#/" ++ settings.language ++
        "/component/" ++ query.keyword).toList := by
  refine ⟨?_, ?_⟩
  · intro settings settings' query query'
    rw [structureOf_page, structureOf_page]
  · intro settings query
    obtain ⟨slashes, hpath, hslashes, hroot⟩ := exists_slashes settings.docsPath
    have hframe := frameAddress?_page settings stylesheet query
    rw [escaped_localUrl] at hframe
    refine ⟨_, _, _, slashes, linkAddress?_page .., unescaped_escaped _, onlineUrl_eq .., hframe,
      hpath, hslashes, hroot, ?_⟩
    rw [unescaped_escaped]
    simp only [componentPath, String.toList_append, List.append_assoc]
    rfl

end Preview
end MarkupAssist
