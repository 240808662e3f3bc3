import MarkupAssist.Markup.Context
import MarkupAssist.Proofs.Markup.Search
import MarkupAssist.Proofs.Markup.Spelling

/-!
# Values that are being typed

Where an attribute may begin, `spelling="value` with the quote still open is the value of
that attribute, for the tag that was found there. The automaton and the probe read the same
characters apart from each other; `lookup_of_typed_value` is what the former says of them and
`valuedAttribute?_of_text` what the latter does.
-/

namespace MarkupAssist
namespace Markup

theorem classify_eq_attributeValue {document : Document} {position : Position}
    {settings : CompletionSettings} {tag : EnclosingTag} {name : String}
    (hfound : scanTag document position settings = .found tag)
    (hname : valuedAttribute? document position = some name) :
    classify document position settings = .attributeValue tag.name name := by
  exact (classify_eq_attributeValue_iff hfound).2 hname

/-- Where a tag is found outside of values, an attribute of it may begin. -/
theorem awaits_of_found {document : Document} {n : Nat} {settings : CompletionSettings}
    {tag : EnclosingTag} {front more back : List Char}
    (hline : document.line? n = some (front ++ more ++ back))
    (hfound : scanTag document ⟨n, front.length⟩ settings = .found tag)
    (hclosed : ∀ q, ¬ (run 0 .start front).state.holds q) :
    (run 0 .start front).state.awaits = true := by
  have hrests := rests_of_found hfound
  rw [List.append_assoc] at hline
  rw [Document.textBefore_of_line? hline] at hrests
  exact State.awaits_of_rests hrests hclosed

/-- Text that leaves the summary of the line as it is leaves the tag as it is. -/
theorem scanTag_of_summary {document : Document} {n : Nat} {settings : CompletionSettings}
    {tag : EnclosingTag} {front more back : List Char}
    (hline : document.line? n = some (front ++ more ++ back))
    (hfound : scanTag document ⟨n, front.length⟩ settings = .found tag)
    (hsummary : (run front.length (run 0 .start front) more).summary =
      (run 0 .start front).summary) :
    scanTag document ⟨n, (front ++ more).length⟩ settings = .found tag := by
  have hbefore : document.textBefore ⟨n, front.length⟩ = front := by
    rw [List.append_assoc] at hline
    exact Document.textBefore_of_line? hline
  have hafter := Document.textBefore_of_line? hline
  have hsame : scanLine (front ++ more) = scanLine front := by
    rw [scanLine, run_append, Nat.zero_add]
    exact hsummary
  have hcontains : ∀ k, document.Contains ⟨n, k⟩ := fun k => Document.contains_of_line? hline
  calc
    scanTag document ⟨n, (front ++ more).length⟩ settings
        = scanTag document ⟨n, front.length⟩ settings := by
          refine enclosingTag_congr (hcontains _) (hcontains _) rfl ?_ settings.lookbackLines
          rw [hafter, hbefore, hsame]
    _ = .found tag := hfound

/-- What is found before an attribute is found within its value too: no quote, `<` or `>` of
the value makes a difference, and no white space before it. -/
theorem lookup_of_spaced_value {document : Document} {n : Nat} {settings : CompletionSettings}
    {tag : EnclosingTag} {front word blanks value back : List Char} {quote : Char}
    (hline : document.line? n =
      some (front ++ (word ++ '=' :: (blanks ++ quote :: value)) ++ back))
    (hfound : scanTag document ⟨n, front.length⟩ settings = .found tag)
    (hclosed : ∀ q, ¬ (run 0 .start front).state.holds q)
    (hne : word ≠ []) (hword : ∀ c ∈ word, isPlain c = true)
    (hblanks : ∀ c ∈ blanks, Text.isSpace c = true)
    (hquote : isQuote quote = true) (hvalue : quote ∉ value) :
    scanTag document ⟨n, (front ++ (word ++ '=' :: (blanks ++ quote :: value))).length⟩ settings =
      .found tag := by
  have hawaits := awaits_of_found hline hfound hclosed
  apply scanTag_of_summary hline hfound
  exact (run_value hawaits hne hword hblanks hquote hvalue front.length).2

theorem lookup_of_typed_value {document : Document} {n : Nat} {settings : CompletionSettings}
    {tag : EnclosingTag} {front word value back : List Char} {quote : Char}
    (hline : document.line? n = some (front ++ (word ++ '=' :: quote :: value) ++ back))
    (hfound : scanTag document ⟨n, front.length⟩ settings = .found tag)
    (hclosed : ∀ q, ¬ (run 0 .start front).state.holds q)
    (hne : word ≠ []) (hword : ∀ c ∈ word, isPlain c = true)
    (hquote : isQuote quote = true) (hvalue : quote ∉ value) :
    scanTag document ⟨n, (front ++ (word ++ '=' :: quote :: value)).length⟩ settings =
      .found tag := by
  have hspaced : document.line? n =
      some (front ++ (word ++ '=' :: ([] ++ quote :: value)) ++ back) := hline
  exact lookup_of_spaced_value hspaced hfound hclosed hne hword
    (List.forall_mem_nil (Text.isSpace · = true)) hquote hvalue

/-- The attribute whose value is open is recognised on the tag's own line and on later ones,
with any spelling of its name and any value. -/
theorem classify_typed_value {document : Document} {n : Nat} {settings : CompletionSettings}
    {tag : EnclosingTag} {front value back : List Char} {quote : Char} (spelling : Spelling)
    (hline : document.line? n = some (front ++ (spelling.text ++ '=' :: quote :: value) ++ back))
    (hfound : scanTag document ⟨n, front.length⟩ settings = .found tag)
    (hfront : Text.startsWord front = true)
    (hclosed : ∀ q, ¬ (run 0 .start front).state.holds q)
    (hquote : isQuote quote = true) (hvalue : ∀ c ∈ value, isQuote c = false) :
    classify document ⟨n, (front ++ (spelling.text ++ '=' :: quote :: value)).length⟩ settings =
      .attributeValue tag.name (String.ofList spelling.name) := by
  have hnotMem : quote ∉ value := by
    intro hmem
    simp [hvalue quote hmem] at hquote
  have htag := lookup_of_typed_value hline hfound hclosed spelling.text_ne_nil
    spelling.isPlain_of_mem hquote hnotMem
  have hname := valuedAttribute?_of_text spelling (Document.textBefore_of_line? hline) hfront
    hquote hvalue
  exact classify_eq_attributeValue htag hname

theorem classify_typed_expression :
    classify (.ofText "<el-table\n  :data.sync=\"a > b") ⟨1, 19⟩ {} =
      .attributeValue "el-table" "data" := by
  have hspelling : ∃ spelling : Spelling,
      spelling.text = ":data.sync".toList ∧ spelling.name = "data".toList :=
    ⟨⟨[':'], "data".toList, ".sync".toList, by decide, by decide,
      List.all_eq_true.1 (by decide), .inr ⟨_, rfl⟩, List.all_eq_true.1 (by decide)⟩,
      by decide, rfl⟩
  rcases hspelling with ⟨spelling, htext, hname⟩
  have hline : Document.line? (.ofText "<el-table\n  :data.sync=\"a > b") 1 =
      some ([' ', ' '] ++ (spelling.text ++ '=' :: '"' :: "a > b".toList) ++ []) := by
    rw [htext]
    decide
  have hfound : scanTag (.ofText "<el-table\n  :data.sync=\"a > b") ⟨1, 2⟩ {} =
      .found ⟨"el-table", 0⟩ := by decide
  have hclosed : ∀ q, ¬ (run 0 .start [' ', ' ']).state.holds q := by
    rintro q (h | h) <;> exact absurd h (by simp [step, Progress.start])
  have hvalue : ∀ c ∈ "a > b".toList, isQuote c = false := by
    simp [isQuote]
  have hcontext := classify_typed_value spelling hline hfound (by decide) hclosed (by decide) hvalue
  rwa [htext, hname] at hcontext

end Markup
end MarkupAssist
