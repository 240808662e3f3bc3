import Mathlib.Data.List.TakeWhile
import MarkupAssist.Markup.AttributeProbe
import MarkupAssist.Proofs.Markup.Automaton
import MarkupAssist.Proofs.Text.Word

/-!
# Spellings of attributes

An attribute is written with a binding in front of its name and modifiers behind it. However
it is spelled, the probe before the cursor reads its name off the last value that is open.

- `Spelling`                 : a binding, a name and modifiers
- `attributeName?_text`      : what a spelling names
- `parseProbe?_eq_some_iff`  : what the probe is read as
- `valuedAttribute?_of_text` : the probe on `spelling="value`
-/

namespace MarkupAssist
namespace Markup

structure Spelling where
  binding : List Char
  name : List Char
  modifiers : List Char
  binding_known : binding = [] ∨ binding ∈ bindingMarks
  name_ne_nil : name ≠ []
  name_chars : ∀ c ∈ name, isNameChar c = true
  modifiers_dotted : modifiers = [] ∨ ∃ rest, modifiers = '.' :: rest
  modifiers_plain : ∀ c ∈ modifiers, isPlain c = true

namespace Spelling

def text (spelling : Spelling) : List Char :=
  spelling.binding ++ (spelling.name ++ spelling.modifiers)

/-- The name alone. -/
def ofName (name : List Char) (hne : name ≠ []) (hname : ∀ c ∈ name, isNameChar c = true) :
    Spelling where
  binding := []
  name
  modifiers := []
  binding_known := .inl rfl
  name_ne_nil := hne
  name_chars := hname
  modifiers_dotted := .inl rfl
  modifiers_plain := by simp

@[simp] theorem text_ofName (name : List Char) (hne : name ≠ [])
    (hname : ∀ c ∈ name, isNameChar c = true) : (ofName name hne hname).text = name := by
  simp [text, ofName]

theorem text_ne_nil (spelling : Spelling) : spelling.text ≠ [] := by
  simp [text, spelling.name_ne_nil]

theorem isPlain_of_mem (spelling : Spelling) : ∀ c ∈ spelling.text, isPlain c = true := by
  intro c hc
  rcases List.mem_append.1 hc with hbinding | hrest
  · have hmarks : ∀ mark ∈ bindingMarks, mark.all isPlain = true := by decide
    rcases spelling.binding_known with hnone | hknown
    · simp [hnone] at hbinding
    · exact List.all_eq_true.1 (hmarks _ hknown) c hbinding
  · rcases List.mem_append.1 hrest with hname | hmodifiers
    · exact isPlain_of_isNameChar (spelling.name_chars c hname)
    · exact spelling.modifiers_plain c hmodifiers

theorem not_isSpace_of_mem (spelling : Spelling) {c : Char} (hc : c ∈ spelling.text) :
    Text.isSpace c = false :=
  (isPlain_iff.1 (spelling.isPlain_of_mem c hc)).1

theorem assign_not_mem (spelling : Spelling) : '=' ∉ spelling.text := by
  intro hmem
  exact (isPlain_iff.1 (spelling.isPlain_of_mem _ hmem)).2.2.1 rfl

/-! ## The name of a spelling -/

theorem takeWhile_isNameChar (spelling : Spelling) :
    (spelling.name ++ spelling.modifiers).takeWhile isNameChar = spelling.name := by
  rw [List.takeWhile_append_of_pos spelling.name_chars]
  rcases spelling.modifiers_dotted with hnone | ⟨rest, hdot⟩
  · simp [hnone]
  · have hchar : isNameChar '.' = false := by decide
    simp [hdot, hchar]

/-- Name characters up to one that is neither of them nor a dot do not begin the name. -/
theorem not_prefix_name (spelling : Spelling) (word : List Char) (stop : Char)
    (hword : word.all isNameChar = true) (hstop : isNameChar stop = false)
    (hdot : stop ≠ '.') : ¬ (word ++ [stop]) <+: spelling.name ++ spelling.modifiers := by
  rintro ⟨rest, hrest⟩
  have hname : spelling.name = word := by
    rw [← spelling.takeWhile_isNameChar, ← hrest, List.append_assoc,
      List.takeWhile_append_of_pos (List.all_eq_true.1 hword)]
    simp [hstop]
  rw [hname, List.append_assoc, List.append_cancel_left_eq] at hrest
  rcases spelling.modifiers_dotted with hnone | ⟨tail, htail⟩
  · simp [hnone] at hrest
  · rw [htail] at hrest
    exact hdot (List.cons.inj hrest).1

theorem withoutBinding_text (spelling : Spelling) :
    withoutBinding spelling.text = spelling.name ++ spelling.modifiers := by
  rcases spelling.binding_known with hnone | hknown
  · have hmark : ∀ mark ∈ bindingMarks, ¬ mark <+: spelling.name ++ spelling.modifiers := by
      -- every mark ends in a character that neither a name nor a modifier begins with
      intro mark hmem
      simp only [bindingMarks, List.mem_cons, List.not_mem_nil, or_false] at hmem
      rcases hmem with rfl | rfl | rfl | rfl
      · exact spelling.not_prefix_name "v-bind".toList ':' (by decide) (by decide) (by decide)
      · exact spelling.not_prefix_name "v-on".toList ':' (by decide) (by decide) (by decide)
      · exact spelling.not_prefix_name [] ':' (by decide) (by decide) (by decide)
      · exact spelling.not_prefix_name [] '@' (by decide) (by decide) (by decide)
    have hfind : (bindingMarks.find? fun mark => mark.isPrefixOf spelling.text) = none := by
      rw [List.find?_eq_none]
      intro mark hmem hprefix
      have hprefix' := List.isPrefixOf_iff_prefix.1 hprefix
      rw [text, hnone, List.nil_append] at hprefix'
      exact hmark mark hmem hprefix'
    rw [withoutBinding, hfind]
    simp [text, hnone]
  · simp only [bindingMarks, List.mem_cons, List.not_mem_nil, or_false] at hknown
    rcases hknown with h | h | h | h <;> rw [text, h] <;> rfl

theorem attributeName?_text (spelling : Spelling) :
    attributeName? spelling.text = some (String.ofList spelling.name) := by
  have htrim : Text.trim spelling.text = spelling.text :=
    Text.trim_of_no_space fun c hc => spelling.not_isSpace_of_mem hc
  have hnot : ∀ c ∈ spelling.name, (decide (c ≠ '.')) = true := by
    intro c hc
    have hdot : c ≠ '.' := by
      rintro rfl
      exact absurd (spelling.name_chars '.' hc) (by decide)
    simpa using hdot
  have hcut : (spelling.name ++ spelling.modifiers).takeWhile (· ≠ '.') = spelling.name := by
    rw [List.takeWhile_append_of_pos hnot]
    rcases spelling.modifiers_dotted with hnone | ⟨rest, hdot⟩
    · simp [hnone]
    · simp [hdot]
  have hall : spelling.name.all isNameChar = true := List.all_eq_true.2 spelling.name_chars
  have hne : spelling.name.isEmpty = false := by
    simp [spelling.name_ne_nil]
  simp only [attributeName?, htrim, withoutBinding_text, hcut, hall, hne, Bool.not_false,
    Bool.and_self, if_true]

end Spelling

/-! ## The probe -/

theorem beforeLastQuote_append {front value : List Char} {quote : Char}
    (hquote : isQuote quote = true) (hvalue : ∀ c ∈ value, isQuote c = false) :
    beforeLastQuote (front ++ quote :: value) = front := by
  have hrev : (front ++ quote :: value).reverse = value.reverse ++ quote :: front.reverse := by
    simp
  have hpass : ∀ c ∈ value.reverse, (!isQuote c) = true := by
    intro c hc
    simpa using hvalue c (List.mem_reverse.1 hc)
  rw [beforeLastQuote, hrev, List.dropWhile_append_of_pos hpass]
  simp [hquote]

theorem probe_append {front word value : List Char} {quote : Char}
    (hfront : Text.startsWord front = true) (hword : ∀ c ∈ word, Text.isSpace c = false)
    (hquote : isQuote quote = true) (hvalue : ∀ c ∈ value, isQuote c = false) :
    probe (front ++ (word ++ quote :: value)) = word ++ quote :: value := by
  have houter : beforeLastQuote (front ++ (word ++ quote :: value)) = front ++ word := by
    rw [← List.append_assoc]
    exact beforeLastQuote_append hquote hvalue
  simp [probe, houter, Text.lastWord_append hfront hword]

theorem opensValue_of_no_quote {value : List Char} (hvalue : ∀ c ∈ value, isQuote c = false) :
    opensValue (Text.trimStart value) = false := by
  have hsub : ∀ c ∈ Text.trimStart value, isQuote c = false := by
    intro c hc
    exact hvalue c ((List.dropWhile_sublist _).subset hc)
  cases hstart : Text.trimStart value with
  | nil =>
      rfl
  | cons c rest =>
      simp [opensValue, hsub c (by simp [hstart])]

theorem parseProbe?_assignment {spelling value : List Char} (h : '=' ∉ spelling) :
    parseProbe? (spelling ++ '=' :: value) =
      if opensValue (Text.trimStart value) then attributeName? spelling else none := by
  have hassign : ∀ c ∈ spelling, decide (c ≠ '=') = true := by
    intro c hc
    exact decide_eq_true fun heq => h (heq ▸ hc)
  rw [parseProbe?, List.dropWhile_append_of_pos hassign, List.takeWhile_append_of_pos hassign]
  simp

theorem parseProbe?_open {spelling value : List Char} {quote : Char} (h : '=' ∉ spelling)
    (hquote : isQuote quote = true) (hvalue : quote ∉ value) :
    parseProbe? (spelling ++ '=' :: quote :: value) = attributeName? spelling := by
  have hstart : Text.trimStart (quote :: value) = quote :: value := by
    simp [Text.trimStart, isSpace_of_isQuote hquote]
  have hopen : opensValue (quote :: value) = true := by
    simp [opensValue, hquote, hvalue]
  rw [parseProbe?_assignment h, hstart, if_pos hopen]

/-- What is read is a spelling up to the first `=`, and a value that is open behind it. -/
theorem parseProbe?_eq_some_iff {cs : List Char} {name : String} :
    parseProbe? cs = some name ↔
      ∃ spelling value, cs = spelling ++ '=' :: value ∧ '=' ∉ spelling ∧
        opensValue (Text.trimStart value) = true ∧ attributeName? spelling = some name := by
  constructor
  · intro h
    by_cases hmem : '=' ∈ cs
    · obtain ⟨spelling, value, rfl, hfirst⟩ := List.eq_append_cons_of_mem hmem
      rw [parseProbe?_assignment hfirst] at h
      split at h
      · next hopen =>
          exact ⟨spelling, value, rfl, hfirst, hopen, h⟩
      · simp at h
    · have hassign : ∀ c ∈ cs, decide (c ≠ '=') = true := by
        intro c hc
        exact decide_eq_true fun heq => hmem (heq ▸ hc)
      rw [parseProbe?, List.dropWhile_eq_nil_iff.2 hassign] at h
      simp at h
  · rintro ⟨spelling, value, rfl, hfirst, hopen, hname⟩
    rw [parseProbe?_assignment hfirst, if_pos hopen, hname]

/-- The probe reads `spelling="value` whatever stands before it on the line. -/
theorem parseProbe?_probe_text (spelling : Spelling) {front value : List Char} {quote : Char}
    (hfront : Text.startsWord front = true) (hquote : isQuote quote = true)
    (hvalue : ∀ c ∈ value, isQuote c = false) :
    parseProbe? (probe (front ++ (spelling.text ++ '=' :: quote :: value))) =
      some (String.ofList spelling.name) := by
  -- the spelling, its `=` and the quote are one word, and the value is what follows the quote
  have hword : ∀ c ∈ spelling.text ++ ['='], Text.isSpace c = false := by
    intro c hc
    rcases List.mem_append.1 hc with htext | hassign
    · exact spelling.not_isSpace_of_mem htext
    · rw [List.mem_singleton.1 hassign]
      decide
  have hshape : spelling.text ++ '=' :: quote :: value =
      (spelling.text ++ ['=']) ++ quote :: value := by
    simp
  rw [hshape, probe_append hfront hword hquote hvalue, ← hshape,
    parseProbe?_open spelling.assign_not_mem hquote (not_mem_of_no_quote hquote hvalue),
    spelling.attributeName?_text]

theorem valuedAttribute?_of_text {document : Document} {position : Position}
    (spelling : Spelling) {front value : List Char} {quote : Char}
    (htext : document.textBefore position = front ++ (spelling.text ++ '=' :: quote :: value))
    (hfront : Text.startsWord front = true) (hquote : isQuote quote = true)
    (hvalue : ∀ c ∈ value, isQuote c = false) :
    valuedAttribute? document position = some (String.ofList spelling.name) := by
  rw [valuedAttribute?, htext, parseProbe?_probe_text spelling hfront hquote hvalue]

end Markup
end MarkupAssist
