import MarkupAssist.Proofs.Markup.ReportedTag
import MarkupAssist.Proofs.Markup.TagStart

/-!
# The grammar of the probe

The attribute whose value is being typed is found by cutting the text twice from its end, at the
last quote and at the last white space before that, and by searching what is left from its start.
What comes out of it is one grammar, in which no cut is spoken of.

- `Unbound`      : a spelling without the first binding that fits
- `Names`        : the name in a spelling
- `BeginsValue`  : a text that ends in `spelling="value`, with the value still open

The value may hold quotes of the other kind. The last of them is where the first cut is made, and
so no white space may stand between the quote that opens the value and that one.
-/

namespace MarkupAssist
namespace Markup

/-! ## Names in spellings -/

/-- The first binding that fits is taken off; where none fits, nothing is. -/
inductive Unbound (spelling : List Char) : List Char → Prop
  | bound (earlier : List (List Char)) (mark : List Char) (later : List (List Char))
      (body : List Char) :
      bindingMarks = earlier ++ mark :: later → spelling = mark ++ body →
      (∀ other ∈ earlier, ¬ other <+: spelling) → Unbound spelling body
  | free : (∀ mark ∈ bindingMarks, ¬ mark <+: spelling) → Unbound spelling spelling

theorem unbound_withoutBinding (spelling : List Char) :
    Unbound spelling (withoutBinding spelling) := by
  rw [withoutBinding]
  cases hfind : bindingMarks.find? fun mark => mark.isPrefixOf spelling with
  | none =>
      refine .free ?_
      intro mark hmem hprefix
      exact List.find?_eq_none.1 hfind mark hmem (List.isPrefixOf_iff_prefix.2 hprefix)
  | some mark =>
      obtain ⟨hfits, earlier, later, hmarks, hearlier⟩ := List.find?_eq_some_iff_append.1 hfind
      obtain ⟨body, rfl⟩ := List.isPrefixOf_iff_prefix.1 hfits
      refine .bound earlier mark later _ hmarks (by simp) ?_
      intro other hmem hprefix
      simpa [List.isPrefixOf_iff_prefix.2 hprefix] using hearlier other hmem

theorem Unbound.eq_withoutBinding {spelling body : List Char} (h : Unbound spelling body) :
    body = withoutBinding spelling := by
  rw [withoutBinding]
  cases h with
  | bound earlier mark later _ hmarks hspelling hearlier =>
      have hfind : (bindingMarks.find? fun mark => mark.isPrefixOf spelling) = some mark := by
        refine List.find?_eq_some_iff_append.2 ⟨?_, earlier, later, hmarks, ?_⟩
        · exact List.isPrefixOf_iff_prefix.2 ⟨body, hspelling.symm⟩
        · intro other hmem
          have hnot := hearlier other hmem
          simpa [← List.isPrefixOf_iff_prefix] using hnot
      rw [hfind, hspelling]
      exact List.drop_left.symm
  | free hnone =>
      have hfind : (bindingMarks.find? fun mark => mark.isPrefixOf spelling) = none := by
        refine List.find?_eq_none.2 ?_
        intro mark hmem hprefix
        exact hnone mark hmem (List.isPrefixOf_iff_prefix.1 hprefix)
      simp [hfind]

/-- Without its binding the spelling is a name, alone or with a dot behind it. -/
def Names (spelling : List Char) (name : String) : Prop :=
  IsName name ∧ ∃ modifiers, Unbound spelling (name.toList ++ modifiers) ∧
    ∀ c ∈ modifiers.head?, c = '.'

theorem IsName.dot_not_mem {name : String} (h : IsName name) : '.' ∉ name.toList := by
  intro hmem
  exact absurd (h.2 '.' hmem) (by decide)

/-- A text is cut before its first dot. -/
theorem takeWhile_ne_dot_eq_iff {body : List Char} {name : List Char} (hdot : '.' ∉ name) :
    body.takeWhile (· ≠ '.') = name ↔
      ∃ modifiers, body = name ++ modifiers ∧ ∀ c ∈ modifiers.head?, c = '.' := by
  constructor
  · rintro rfl
    refine ⟨body.dropWhile (· ≠ '.'), List.takeWhile_append_dropWhile.symm, ?_⟩
    intro c hc
    have hstop := List.head?_dropWhile_not (· ≠ '.') body
    rw [Option.mem_def.1 hc] at hstop
    simpa using hstop
  · rintro ⟨modifiers, rfl, hmodifiers⟩
    have hname : ∀ c ∈ name, decide (c ≠ '.') = true := by
      intro c hc
      exact decide_eq_true fun heq => hdot (heq ▸ hc)
    rw [List.takeWhile_append_of_pos hname]
    cases modifiers with
    | nil =>
        simp
    | cons c rest =>
        obtain rfl : c = '.' := hmodifiers c (by simp)
        simp

theorem attributeName?_eq_some_iff {spelling : List Char} {name : String}
    (hspace : ∀ c ∈ spelling, Text.isSpace c = false) :
    attributeName? spelling = some name ↔ Names spelling name := by
  have hcut : attributeName? spelling = some name ↔
      IsName name ∧ (withoutBinding spelling).takeWhile (· ≠ '.') = name.toList := by
    simp only [attributeName?, Text.trim_of_no_space hspace]
    constructor
    · intro h
      split at h
      · next hcond =>
          cases h
          simpa [IsName] using hcond
      · simp at h
    · rintro ⟨hname, hbody⟩
      have hcond : (!name.toList.isEmpty && name.toList.all isNameChar) = true := by
        simpa [IsName] using hname
      rw [hbody, if_pos hcond, String.ofList_toList]
  rw [hcut]
  refine and_congr_right ?_
  intro hname
  rw [takeWhile_ne_dot_eq_iff hname.dot_not_mem]
  constructor
  · rintro ⟨modifiers, hbody, hdot⟩
    exact ⟨modifiers, hbody ▸ unbound_withoutBinding spelling, hdot⟩
  · rintro ⟨modifiers, hbody, hdot⟩
    exact ⟨modifiers, hbody.eq_withoutBinding.symm, hdot⟩

/-! ## Values that are open -/

/-- No white space stands in the value before its last quote. A value that is open has quotes of
the other kind only. -/
def UnbrokenToQuote (value : List Char) : Prop :=
  ∀ front other back, value = front ++ other :: back → isQuote other = true →
    other ∉ back → ∀ c ∈ front, Text.isSpace c = false

inductive BeginsValue (name : String) : List Char → Prop
  | intro (earlier spelling : List Char) (quote : Char) (value : List Char) :
      Text.startsWord earlier = true →
      (∀ c ∈ spelling, Text.isSpace c = false ∧ c ≠ '=') →
      isQuote quote = true → quote ∉ value → UnbrokenToQuote value →
      Names spelling name →
      BeginsValue name (earlier ++ (spelling ++ '=' :: quote :: value))

/-- The probe of a text with a quote in it: the word before the last quote, and all behind it. -/
theorem exists_probe_eq {before : List Char} (hquote : ∃ c ∈ before, isQuote c = true) :
    ∃ earlier word quote after, before = earlier ++ (word ++ quote :: after) ∧
      probe before = word ++ quote :: after ∧ Text.startsWord earlier = true ∧
      (∀ c ∈ word, Text.isSpace c = false) ∧ isQuote quote = true ∧
      ∀ c ∈ after, isQuote c = false := by
  obtain ⟨outer, quote, after, rfl, hkind, hafter⟩ := Text.exists_last hquote
  obtain ⟨earlier, houter, hstarts⟩ := Text.exists_append_lastWord outer
  have hword : ∀ c ∈ Text.lastWord outer, Text.isSpace c = false := by
    intro c hc
    exact Text.not_isSpace_of_mem_lastWord hc
  have hshape : outer ++ quote :: after =
      earlier ++ (Text.lastWord outer ++ quote :: after) := by
    rw [← List.append_assoc, ← houter]
  refine ⟨earlier, Text.lastWord outer, quote, after, hshape, ?_, hstarts, hword, hkind, hafter⟩
  rw [hshape]
  exact probe_append hstarts hword hkind hafter

/-- What a value begins with when it is open. -/
theorem exists_quote_of_opensValue {value : List Char}
    (h : opensValue (Text.trimStart value) = true) :
    ∃ blanks quote typed, value = blanks ++ quote :: typed ∧
      (∀ c ∈ blanks, Text.isSpace c = true) ∧ isQuote quote = true ∧ quote ∉ typed := by
  cases hstart : Text.trimStart value with
  | nil =>
      simp [hstart, opensValue] at h
  | cons quote typed =>
      have hsplit : value.takeWhile Text.isSpace ++ quote :: typed = value := by
        rw [← hstart]
        exact List.takeWhile_append_dropWhile
      refine ⟨value.takeWhile Text.isSpace, quote, typed, hsplit.symm, ?_, ?_⟩
      · intro c hc
        exact List.all_eq_true.1 List.all_takeWhile c hc
      · simpa [hstart, opensValue] using h

/-- A quote of the text stands before the last one or is the last one. -/
theorem eq_or_exists_of_quote_split {front rest word after : List Char} {quote last : Char}
    (h : front ++ quote :: rest = word ++ last :: after) (hquote : isQuote quote = true)
    (hafter : ∀ c ∈ after, isQuote c = false) :
    (front = word ∧ quote = last ∧ rest = after) ∨
      ∃ between, word = front ++ quote :: between ∧ rest = between ++ last :: after := by
  rcases List.append_eq_append_iff.1 h with ⟨between, hword, hrest⟩ | ⟨between, hfront, hrest⟩
  · cases between with
    | nil =>
        obtain ⟨rfl, rfl⟩ := List.cons.inj hrest
        exact .inl ⟨by simpa using hword.symm, rfl, rfl⟩
    | cons c between =>
        obtain ⟨rfl, rfl⟩ := List.cons.inj hrest
        exact .inr ⟨between, hword, rfl⟩
  · cases between with
    | nil =>
        obtain ⟨rfl, rfl⟩ := List.cons.inj hrest
        exact .inl ⟨by simpa using hfront, rfl, rfl⟩
    | cons c between =>
        -- the quote would stand behind the last one
        obtain ⟨_, rfl⟩ := List.cons.inj hrest
        have hmem := hafter quote (by simp)
        simp [hquote] at hmem

/-- White space in front of the quote would be the last one before it. -/
theorem eq_nil_of_blanks {word blanks front back : List Char}
    (hword : ∀ c ∈ word, Text.isSpace c = false) (hsplit : word = front ++ (blanks ++ back))
    (hblanks : ∀ c ∈ blanks, Text.isSpace c = true) : blanks = [] := by
  apply List.eq_nil_iff_forall_not_mem.2
  intro c hc
  have hmem : c ∈ word := by
    simp [hsplit, hc]
  simpa [hblanks c hc] using hword c hmem

theorem unbrokenToQuote_of_no_quote {value : List Char} (h : ∀ c ∈ value, isQuote c = false) :
    UnbrokenToQuote value := by
  intro front other back hsplit hother _
  have hmem : other ∈ value := by
    simp [hsplit]
  simp [h other hmem] at hother

theorem unbrokenToQuote_append {front back : List Char} {last : Char}
    (hfront : ∀ c ∈ front, Text.isSpace c = false) (hback : ∀ c ∈ back, isQuote c = false) :
    UnbrokenToQuote (front ++ last :: back) := by
  intro earlier other later hsplit hother _ c hc
  apply hfront c
  rcases eq_or_exists_of_quote_split hsplit.symm hother hback with ⟨rfl, _, _⟩ | ⟨_, rfl, _⟩
  · exact hc
  · exact List.mem_append_left _ hc

theorem beginsValue_of_parseProbe? {before : List Char} {name : String}
    (h : parseProbe? (probe before) = some name) : BeginsValue name before := by
  have hquote : ∃ c ∈ before, isQuote c = true := by
    obtain ⟨c, hc, hkind⟩ := exists_quote_of_parseProbe? h
    exact ⟨c, List.mem_of_mem_drop hc, hkind⟩
  obtain ⟨earlier, word, last, after, rfl, hprobe, hstarts, hword, _, hafter⟩ :=
    exists_probe_eq hquote
  rw [hprobe] at h
  obtain ⟨spelling, value, hcut, hfirst, hopen, hname⟩ := parseProbe?_eq_some_iff.1 h
  obtain ⟨blanks, quote, typed, rfl, hblanks, hkind, htyped⟩ := exists_quote_of_opensValue hopen
  have hsplit : (spelling ++ '=' :: blanks) ++ quote :: typed = word ++ last :: after := by
    simp [hcut]
  -- the quote that opens the value is the last one of all, or stands in the word before that
  have hcases : (∃ tail, word = (spelling ++ ['=']) ++ (blanks ++ tail)) ∧
      UnbrokenToQuote typed := by
    rcases eq_or_exists_of_quote_split hsplit hkind hafter with
      ⟨hfront, _, rfl⟩ | ⟨between, hfront, rfl⟩
    · exact ⟨⟨[], by simp [← hfront]⟩, unbrokenToQuote_of_no_quote hafter⟩
    · refine ⟨⟨quote :: between, by simp [hfront]⟩, unbrokenToQuote_append ?_ hafter⟩
      intro c hc
      exact hword c (by simp [hfront, hc])
  obtain ⟨⟨tail, hfront⟩, hunbroken⟩ := hcases
  obtain rfl : blanks = [] := eq_nil_of_blanks hword hfront hblanks
  have hspelling : ∀ c ∈ spelling, Text.isSpace c = false ∧ c ≠ '=' := by
    intro c hc
    exact ⟨hword c (by simp [hfront, hc]), fun heq => hfirst (heq ▸ hc)⟩
  have hnames := (attributeName?_eq_some_iff fun c hc => (hspelling c hc).1).1 hname
  rw [hcut]
  exact .intro earlier spelling quote typed hstarts hspelling hkind htyped hunbroken hnames

theorem parseProbe?_of_beginsValue {before : List Char} {name : String}
    (h : BeginsValue name before) : parseProbe? (probe before) = some name := by
  obtain ⟨earlier, spelling, quote, value, hstarts, hspelling, hquote, hopen, hunbroken, hnames⟩ := h
  have hfirst : '=' ∉ spelling := fun hmem => (hspelling '=' hmem).2 rfl
  have hname : attributeName? spelling = some name :=
    (attributeName?_eq_some_iff fun c hc => (hspelling c hc).1).2 hnames
  have hprobe : probe (earlier ++ (spelling ++ '=' :: quote :: value)) =
      spelling ++ '=' :: quote :: value := by
    by_cases hother : ∃ c ∈ value, isQuote c = true
    -- the cut is made within the value, and what stands before it there is one word
    · obtain ⟨front, last, back, rfl, hlast, hback⟩ := Text.exists_last hother
      have hfront := hunbroken front last back rfl hlast (not_mem_of_no_quote hlast hback)
      have hword : ∀ c ∈ spelling ++ '=' :: quote :: front, Text.isSpace c = false := by
        intro c hc
        simp only [List.mem_append, List.mem_cons] at hc
        rcases hc with hc | rfl | rfl | hc
        · exact (hspelling c hc).1
        · decide
        · exact isSpace_of_isQuote hquote
        · exact hfront c hc
      simpa using probe_append hstarts hword hlast hback
    · have hvalue : ∀ c ∈ value, isQuote c = false := by
        intro c hc
        exact Bool.eq_false_iff.2 fun hkind => hother ⟨c, hc, hkind⟩
      have hword : ∀ c ∈ spelling ++ ['='], Text.isSpace c = false := by
        intro c hc
        rcases List.mem_append.1 hc with hc | hc
        · exact (hspelling c hc).1
        · rw [List.mem_singleton.1 hc]
          decide
      simpa using probe_append hstarts hword hquote hvalue
  calc
    parseProbe? (probe (earlier ++ (spelling ++ '=' :: quote :: value)))
        = parseProbe? (spelling ++ '=' :: quote :: value) := by rw [hprobe]
    _ = attributeName? spelling := parseProbe?_open hfirst hquote hopen
    _ = some name := hname

/-- The attribute at a position is the one whose value begins in the text before it, and no text
begins the values of two attributes. -/
theorem valuedAttribute?_eq_some_iff (document : Document) (position : Position) :
    (∀ name, valuedAttribute? document position = some name ↔
      BeginsValue name (document.textBefore position)) ∧
    ∀ name other, BeginsValue name (document.textBefore position) →
      BeginsValue other (document.textBefore position) → name = other := by
  have hgrammar : ∀ name, valuedAttribute? document position = some name ↔
      BeginsValue name (document.textBefore position) := by
    intro name
    exact ⟨beginsValue_of_parseProbe?, parseProbe?_of_beginsValue⟩
  refine ⟨hgrammar, ?_⟩
  intro name other hname hother
  have hsame := ((hgrammar name).2 hname).symm.trans ((hgrammar other).2 hother)
  exact Option.some.inj hsame

/-- An apostrophe in the value leaves it open, for the word before it goes back to the quote. -/
theorem valuedAttribute?_of_apostrophe :
    BeginsValue "title" "<p id='a' :title.sync=\"it's a".toList ∧
      ∀ other, BeginsValue other "<p id='a' :title.sync=\"it's a".toList → other = "title" := by
  have hvalued : valuedAttribute? (.ofText "<p id='a' :title.sync=\"it's a") ⟨0, 29⟩ =
      some "title" := by decide
  obtain ⟨hgrammar, hunique⟩ :=
    valuedAttribute?_eq_some_iff (.ofText "<p id='a' :title.sync=\"it's a") ⟨0, 29⟩
  have hbegins := (hgrammar "title").1 hvalued
  refine ⟨hbegins, ?_⟩
  intro other hother
  exact hunique other "title" hother hbegins

end Markup
end MarkupAssist
