import MarkupAssist.Proofs.Markup.TypedValue

/-!
# Values behind their closing quote, and values after white space

The automaton knows where a value ends, and it passes over white space between `=` and the
quote. The probe goes by the last quote of the text alone, whether it opens a value or closes
one, and cuts what stands before it at its last white space. So two things decide what it reads:

- `EndsInAssignment` : a value that ends in white space, a spelling and `=` makes its own closing
  quote look like the beginning of another value, and no other value does
  (`classify_completed_value`)
- white space behind `=` is where the probe begins, so that the name before it is not read
  (`classify_spaced_value`)
-/

namespace MarkupAssist
namespace Markup

/-! ## Words before the last quote -/

theorem not_mem_blanks {blanks : List Char} (hblanks : ∀ c ∈ blanks, Text.isSpace c = true)
    {d : Char} (hd : Text.isSpace d = false) : d ∉ blanks := by
  intro hmem
  simp [hblanks d hmem] at hd

theorem assign_not_mem_quote_blanks {blanks : List Char} {quote : Char}
    (hquote : isQuote quote = true) (hblanks : ∀ c ∈ blanks, Text.isSpace c = true) :
    '=' ∉ quote :: blanks := by
  intro hmem
  rcases List.mem_cons.1 hmem with rfl | hmem
  · exact absurd hquote (by decide)
  · exact not_mem_blanks hblanks (by decide) hmem

/-- Of a word that the last quote follows only a spelling with `=` at its end names anything. -/
theorem exists_spelling_of_parseProbe? {word blanks : List Char} {quote : Char} {name : String}
    (hspace : ∀ c ∈ word, Text.isSpace c = false) (hword : ∀ c ∈ word, isQuote c = false)
    (hquote : isQuote quote = true) (hblanks : ∀ c ∈ blanks, Text.isSpace c = true)
    (h : parseProbe? (word ++ quote :: blanks) = some name) :
    ∃ spelling, word = spelling ++ ['='] ∧ '=' ∉ spelling ∧
      attributeName? spelling = some name := by
  have hends := assign_not_mem_quote_blanks hquote hblanks
  obtain ⟨spelling, value, hcut, hfirst, hopen, hname⟩ := parseProbe?_eq_some_iff.1 h
  rcases List.append_eq_append_iff.1 hcut with ⟨other, _, hother⟩ | ⟨other, rfl, hother⟩
  -- the `=` does not stand behind the word
  · exact absurd (by simp [hother]) hends
  cases other with
  | nil =>
      rw [List.nil_append] at hother
      exact absurd (by simp [← hother]) hends
  | cons assign rest =>
      obtain ⟨rfl, rfl⟩ := List.cons.inj hother
      cases rest with
      | nil =>
          exact ⟨spelling, rfl, hfirst, hname⟩
      | cons c rest =>
          -- what comes right after `=` is neither a quote nor white space
          have hmem : c ∈ spelling ++ '=' :: c :: rest := by simp
          simp [Text.trimStart, hspace c hmem, opensValue, hword c hmem] at hopen

/-! ## Completed values -/

/-- The value ends in white space, a spelling of the name, and `=`. -/
def EndsInAssignment (value : List Char) (name : String) : Prop :=
  ∃ earlier space spelling, value = earlier ++ space :: (spelling ++ ['=']) ∧
    Text.isSpace space = true ∧ (∀ c ∈ spelling, Text.isSpace c = false ∧ c ≠ '=') ∧
      attributeName? spelling = some name

theorem EndsInAssignment.lastWord {value : List Char} {name : String}
    (h : EndsInAssignment value name) :
    ∃ spelling, Text.lastWord value = spelling ++ ['='] ∧ '=' ∉ spelling ∧
      attributeName? spelling = some name := by
  obtain ⟨earlier, space, spelling, rfl, hspace, hspelling, hname⟩ := h
  have hword : ∀ c ∈ spelling ++ ['='], Text.isSpace c = false := by
    intro c hc
    rcases List.mem_append.1 hc with hc | hc
    · exact (hspelling c hc).1
    · rw [List.mem_singleton.1 hc]
      decide
  have hfirst : '=' ∉ spelling := fun hmem => (hspelling _ hmem).2 rfl
  exact ⟨spelling, Text.lastWord_after_space earlier hspace hword, hfirst, hname⟩

theorem parseProbe?_closed {spelling value blanks : List Char} {quote : Char}
    (h : '=' ∉ spelling) (hquote : isQuote quote = true) :
    parseProbe? (spelling ++ '=' :: quote :: (value ++ quote :: blanks)) = none := by
  have hclosed : opensValue (Text.trimStart (quote :: (value ++ quote :: blanks))) = false := by
    simp [Text.trimStart, isSpace_of_isQuote hquote, opensValue]
  rw [parseProbe?_assignment h, hclosed]
  simp

/-- Behind its closing quote a value names an attribute only by an assignment at its own end. -/
theorem parseProbe?_probe_completed {spelling : Spelling} {front value blanks : List Char}
    {quote : Char} {name : String} (hfront : Text.startsWord front = true)
    (hquote : isQuote quote = true) (hvalue : ∀ c ∈ value, isQuote c = false)
    (hblanks : ∀ c ∈ blanks, Text.isSpace c = true) :
    parseProbe? (probe (front ++ (spelling.text ++ '=' :: quote :: (value ++ quote :: blanks)))) =
      some name ↔ EndsInAssignment value name := by
  have hends : ∀ c ∈ blanks, isQuote c = false := by
    intro c hc
    apply Bool.eq_false_iff.2
    intro hq
    exact not_mem_blanks hblanks (isSpace_of_isQuote hq) hc
  by_cases hspace : ∃ c ∈ value, Text.isSpace c = true
  -- the probe begins within the value, at its last word
  · obtain ⟨earlier, space, word, rfl, hsp, hword⟩ := Text.exists_last hspace
    have hshape : front ++ (spelling.text ++ '=' :: quote ::
          ((earlier ++ space :: word) ++ quote :: blanks)) =
        ((front ++ (spelling.text ++ '=' :: quote :: earlier)) ++ [space]) ++
          (word ++ quote :: blanks) := by
      simp
    have hprobe := probe_append (Text.startsWord_append_space
      (front ++ (spelling.text ++ '=' :: quote :: earlier)) hsp) hword hquote hends
    rw [hshape, hprobe]
    constructor
    · intro hname
      have hplain : ∀ c ∈ word, isQuote c = false := fun c hc => hvalue c (by simp [hc])
      obtain ⟨other, rfl, hfirst, hother⟩ :=
        exists_spelling_of_parseProbe? hword hplain hquote hblanks hname
      refine ⟨earlier, space, other, rfl, hsp, ?_, hother⟩
      intro c hc
      exact ⟨hword c (by simp [hc]), fun heq => hfirst (heq ▸ hc)⟩
    · intro hassign
      obtain ⟨other, hlast, hfirst, hother⟩ := hassign.lastWord
      have hword' : word = other ++ ['='] :=
        (Text.lastWord_after_space earlier hsp hword).symm.trans hlast
      have hnotMem := not_mem_blanks hblanks (isSpace_of_isQuote hquote)
      rw [hword', List.append_assoc]
      exact (parseProbe?_open hfirst hquote hnotMem).trans hother
  -- the probe is the attribute itself, with both quotes of its value
  · have hword : ∀ c ∈ spelling.text ++ '=' :: quote :: value, Text.isSpace c = false := by
      intro c hc
      simp only [List.mem_append, List.mem_cons] at hc
      rcases hc with hc | rfl | rfl | hc
      · exact spelling.not_isSpace_of_mem hc
      · decide
      · exact isSpace_of_isQuote hquote
      · exact Bool.eq_false_iff.2 fun hsp => hspace ⟨c, hc, hsp⟩
    have hshape : spelling.text ++ '=' :: quote :: (value ++ quote :: blanks) =
        (spelling.text ++ '=' :: quote :: value) ++ quote :: blanks := by
      simp
    rw [hshape, probe_append hfront hword hquote hends, ← hshape,
      parseProbe?_closed spelling.assign_not_mem hquote]
    constructor
    · intro hname
      simp at hname
    · rintro ⟨earlier, space, other, rfl, hsp, _⟩
      exact absurd ⟨space, by simp, hsp⟩ hspace

theorem valuedAttribute?_of_completed {document : Document} {position : Position}
    (spelling : Spelling) {front value blanks : List Char} {quote : Char} {name : String}
    (htext : document.textBefore position =
      front ++ (spelling.text ++ '=' :: quote :: (value ++ quote :: blanks)))
    (hfront : Text.startsWord front = true) (hquote : isQuote quote = true)
    (hvalue : ∀ c ∈ value, isQuote c = false)
    (hblanks : ∀ c ∈ blanks, Text.isSpace c = true) :
    valuedAttribute? document position = some name ↔ EndsInAssignment value name := by
  rw [valuedAttribute?, htext]
  exact parseProbe?_probe_completed hfront hquote hvalue hblanks

/-- What is found before an attribute is found behind its value too. -/
theorem lookup_of_completed_value {document : Document} {n : Nat} {settings : CompletionSettings}
    {tag : EnclosingTag} {front word value blanks back : List Char} {quote : Char}
    (hline : document.line? n =
      some (front ++ (word ++ '=' :: quote :: (value ++ quote :: blanks)) ++ back))
    (hfound : scanTag document ⟨n, front.length⟩ settings = .found tag)
    (hclosed : ∀ q, ¬ (run 0 .start front).state.holds q)
    (hne : word ≠ []) (hword : ∀ c ∈ word, isPlain c = true)
    (hquote : isQuote quote = true) (hvalue : quote ∉ value)
    (hblanks : ∀ c ∈ blanks, Text.isSpace c = true) :
    scanTag document
        ⟨n, (front ++ (word ++ '=' :: quote :: (value ++ quote :: blanks))).length⟩ settings =
      .found tag := by
  have hawaits := awaits_of_found hline hfound hclosed
  apply scanTag_of_summary hline hfound
  exact summary_run_completed hawaits hne hword hquote hvalue hblanks front.length

/-- Behind a value the names of attributes are asked for again, unless the value itself ends as
if another one were to follow: then the values of that attribute are. -/
theorem classify_completed_value {document : Document} {n : Nat} {settings : CompletionSettings}
    {tag : EnclosingTag} {front value blanks back : List Char} {quote : Char}
    (spelling : Spelling)
    (hline : document.line? n =
      some (front ++ (spelling.text ++ '=' :: quote :: (value ++ quote :: blanks)) ++ back))
    (hfound : scanTag document ⟨n, front.length⟩ settings = .found tag)
    (hfront : Text.startsWord front = true)
    (hclosed : ∀ q, ¬ (run 0 .start front).state.holds q)
    (hquote : isQuote quote = true) (hvalue : ∀ c ∈ value, isQuote c = false)
    (hblanks : ∀ c ∈ blanks, Text.isSpace c = true) :
    (classify document
        ⟨n, (front ++ (spelling.text ++ '=' :: quote :: (value ++ quote :: blanks))).length⟩
        settings = .attributeName tag.name tag.offset ↔ ∀ name, ¬ EndsInAssignment value name) ∧
    ∀ name, classify document
        ⟨n, (front ++ (spelling.text ++ '=' :: quote :: (value ++ quote :: blanks))).length⟩
        settings = .attributeValue tag.name name ↔ EndsInAssignment value name := by
  have hnotMem := not_mem_of_no_quote hquote hvalue
  have htag := lookup_of_completed_value hline hfound hclosed spelling.text_ne_nil
    spelling.isPlain_of_mem hquote hnotMem hblanks
  have hvalued : ∀ name, valuedAttribute? document
      ⟨n, (front ++ (spelling.text ++ '=' :: quote :: (value ++ quote :: blanks))).length⟩ =
        some name ↔ EndsInAssignment value name := by
    intro name
    exact valuedAttribute?_of_completed spelling (Document.textBefore_of_line? hline) hfront hquote
      hvalue hblanks
  constructor
  · rw [classify_eq_attributeName_iff htag, Option.eq_none_iff_forall_ne_some]
    exact forall_congr' fun name => not_congr (hvalued name)
  · intro name
    rw [classify_eq_attributeValue_iff htag]
    exact hvalued name

/-- White space, `=` and `>` within the value, on a later line than the tag's `<`. -/
theorem classify_completed_expression :
    classify (.ofText "<el-table\n  :data='a = b > c' ") ⟨1, 20⟩ {} =
      .attributeName "el-table" 0 := by
  have hspelling : ∃ spelling : Spelling, spelling.text = ":data".toList :=
    ⟨⟨[':'], "data".toList, [], by decide, by decide, List.all_eq_true.1 (by decide), .inl rfl,
      by simp⟩, by decide⟩
  obtain ⟨spelling, htext⟩ := hspelling
  have hline : Document.line? (.ofText "<el-table\n  :data='a = b > c' ") 1 =
      some ([' ', ' '] ++ (spelling.text ++ '=' :: '\'' :: ("a = b > c".toList ++ '\'' :: [' '])) ++
        []) := by
    rw [htext]
    decide
  have hfound : scanTag (.ofText "<el-table\n  :data='a = b > c' ") ⟨1, 2⟩ {} =
      .found ⟨"el-table", 0⟩ := by decide
  have hclosed : ∀ q, ¬ (run 0 .start [' ', ' ']).state.holds q := by
    rintro q (h | h) <;> exact absurd h (by simp [step, Progress.start])
  have hvalue : ∀ c ∈ "a = b > c".toList, isQuote c = false := by
    simp [isQuote]
  have hblanks : ∀ c ∈ [' '], Text.isSpace c = true := List.all_eq_true.1 (by decide)
  have hends : ∀ name, ¬ EndsInAssignment "a = b > c".toList name := by
    intro name hassign
    obtain ⟨other, hlast, _⟩ := hassign.lastWord
    have hword : Text.lastWord "a = b > c".toList = [] ++ ['c'] := by decide
    exact absurd (List.append_inj' (hword.symm.trans hlast) rfl).2 (by decide)
  have hcontext := (classify_completed_value spelling hline hfound (by decide) hclosed (by decide)
    hvalue hblanks).1.2 hends
  rwa [htext] at hcontext

/-- Behind `placeholder="e.g. size="` the values of `size` are asked for. -/
theorem classify_behind_lookalike :
    scanTag (.ofText "<el-input placeholder=\"e.g. size=\" ") ⟨0, 10⟩ {} =
        .found ⟨"el-input", 0⟩ ∧
      classify (.ofText "<el-input placeholder=\"e.g. size=\" ") ⟨0, 35⟩ {} =
        .attributeValue "el-input" "size" := by
  decide

/-! ## Values after white space -/

theorem parseProbe?_of_quote {quote : Char} {value : List Char} (hquote : isQuote quote = true)
    (hvalue : ∀ c ∈ value, isQuote c = false) : parseProbe? (quote :: value) = none := by
  -- what comes behind the first `=`, if there is one, lies within the value
  rw [Option.eq_none_iff_forall_ne_some]
  intro name h
  obtain ⟨spelling, rest, hcut, _, hopen, _⟩ := parseProbe?_eq_some_iff.1 h
  cases spelling with
  | nil =>
      obtain ⟨rfl, _⟩ := List.cons.inj hcut
      exact absurd hquote (by decide)
  | cons c spelling =>
      obtain ⟨rfl, rfl⟩ := List.cons.inj hcut
      have hrest : ∀ c ∈ rest, isQuote c = false := by
        intro c hc
        exact hvalue c (by simp [hc])
      simp [opensValue_of_no_quote hrest] at hopen

/-- White space behind `=` is the last before the quote, and the probe begins after it. -/
theorem parseProbe?_probe_spaced {front word blanks value : List Char} {quote : Char}
    (hne : blanks ≠ []) (hblanks : ∀ c ∈ blanks, Text.isSpace c = true)
    (hquote : isQuote quote = true) (hvalue : ∀ c ∈ value, isQuote c = false) :
    parseProbe? (probe (front ++ (word ++ '=' :: (blanks ++ quote :: value)))) = none := by
  have hshape : front ++ (word ++ '=' :: (blanks ++ quote :: value)) =
      ((front ++ (word ++ ['='])) ++ blanks) ++ ([] ++ quote :: value) := by
    simp
  have hstarts := Text.startsWord_append_blanks (front ++ (word ++ ['='])) hne hblanks
  have hnone : ∀ c ∈ ([] : List Char), Text.isSpace c = false := by simp
  rw [hshape, probe_append hstarts hnone hquote hvalue]
  exact parseProbe?_of_quote hquote hvalue

/-- The value that white space separates from its `=` is one for the automaton and none for the
probe: the tag is still the one before it, but the names of attributes are asked for. -/
theorem classify_spaced_value {document : Document} {n : Nat} {settings : CompletionSettings}
    {tag : EnclosingTag} {front blanks value back : List Char} {quote : Char}
    (spelling : Spelling)
    (hline : document.line? n =
      some (front ++ (spelling.text ++ '=' :: (blanks ++ quote :: value)) ++ back))
    (hfound : scanTag document ⟨n, front.length⟩ settings = .found tag)
    (hfront : Text.startsWord front = true)
    (hclosed : ∀ q, ¬ (run 0 .start front).state.holds q)
    (hblanks : ∀ c ∈ blanks, Text.isSpace c = true)
    (hquote : isQuote quote = true) (hvalue : ∀ c ∈ value, isQuote c = false) :
    classify document
        ⟨n, (front ++ (spelling.text ++ '=' :: (blanks ++ quote :: value))).length⟩ settings =
      if blanks = [] then .attributeValue tag.name (String.ofList spelling.name)
      else .attributeName tag.name tag.offset := by
  have hnotMem := not_mem_of_no_quote hquote hvalue
  have htag := lookup_of_spaced_value hline hfound hclosed spelling.text_ne_nil
    spelling.isPlain_of_mem hblanks hquote hnotMem
  have hbefore := Document.textBefore_of_line? hline
  split
  · next hnil =>
      subst hnil
      rw [classify_eq_attributeValue_iff htag]
      exact valuedAttribute?_of_text spelling hbefore hfront hquote hvalue
  · next hne =>
      rw [classify_eq_attributeName_iff htag, valuedAttribute?, hbefore]
      exact parseProbe?_probe_spaced hne hblanks hquote hvalue

theorem classify_spaced_gutter :
    classify (.ofText "<el-row\n  gutter= \"10") ⟨1, 13⟩ {} = .attributeName "el-row" 0 := by
  have hname : ∀ c ∈ "gutter".toList, isNameChar c = true := List.all_eq_true.1 (by decide)
  have htext : (Spelling.ofName "gutter".toList (by decide) hname).text = "gutter".toList :=
    Spelling.text_ofName _ _ _
  have hline : Document.line? (.ofText "<el-row\n  gutter= \"10") 1 =
      some ([' ', ' '] ++ ((Spelling.ofName "gutter".toList (by decide) hname).text ++
        '=' :: ([' '] ++ '"' :: "10".toList)) ++ []) := by
    rw [htext]
    decide
  have hfound : scanTag (.ofText "<el-row\n  gutter= \"10") ⟨1, 2⟩ {} = .found ⟨"el-row", 0⟩ := by
    decide
  have hclosed : ∀ q, ¬ (run 0 .start [' ', ' ']).state.holds q := by
    rintro q (h | h) <;> exact absurd h (by simp [step, Progress.start])
  have hblanks : ∀ c ∈ [' '], Text.isSpace c = true := List.all_eq_true.1 (by decide)
  have hvalue : ∀ c ∈ "10".toList, isQuote c = false := by
    simp [isQuote]
  have hcontext := classify_spaced_value _ hline hfound (by decide) hclosed hblanks (by decide)
    hvalue
  rwa [htext, if_neg (by simp)] at hcontext

/-- A blank behind `type=` is enough for the values of `type` not to be asked for. -/
theorem classify_before_spaced_quote :
    scanTag (.ofText "<el-button type= \"") ⟨0, 11⟩ {} = .found ⟨"el-button", 0⟩ ∧
      classify (.ofText "<el-button type= \"") ⟨0, 18⟩ {} = .attributeName "el-button" 0 ∧
      classify (.ofText "<el-button type=\"") ⟨0, 17⟩ {} = .attributeValue "el-button" "type" := by
  decide

end Markup
end MarkupAssist
