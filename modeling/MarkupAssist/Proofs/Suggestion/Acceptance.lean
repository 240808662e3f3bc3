import MarkupAssist.Engine.Request
import MarkupAssist.Proofs.Document.Insert
import MarkupAssist.Proofs.Markup.TypedValue
import MarkupAssist.Proofs.Suggestion.AttributeLists

/-!
# From an accepted attribute to its values

An attribute that was suggested for a tag and is then written with a quote after it is
completed by the values of the very entry the suggestion was built from.
-/

namespace MarkupAssist

namespace Markup

/-- Text without angle brackets is put in within the same tag, also where a value is open. -/
theorem scanTag_insert {document : Document} {position : Position}
    {settings : CompletionSettings} {tag : EnclosingTag} {text : List Char}
    (hfound : scanTag document position settings = .found tag)
    (hinside : position.character ≤ (document.lineText position.line).length)
    (htext : ∀ c ∈ text, isAngle c = false) :
    scanTag (document.insert position text) (position.onward text.length) settings =
      .found tag := by
  have hcontains : document.Contains position := contains_of_found hfound
  have hsummary : scanLine (document.textBefore position ++ text) =
      scanLine (document.textBefore position) := by
    rw [scanLine, run_append]
    exact (summary_run_of_no_angle (rests_of_found hfound) htext _).2
  have hbefore := Document.textBefore_insert hcontains hinside text
  calc
    scanTag (document.insert position text) (position.onward text.length) settings
        = scanTag document position settings := by
          refine enclosingTag_congr (Document.contains_insert hcontains text text.length) hcontains
            (document.take_lines_insert position text) ?_ settings.lookbackLines
          exact (congrArg scanLine hbefore).trans hsummary
    _ = .found tag := hfound

end Markup

namespace Suggestion

open Catalogue (Attribute)

/-! ## What a suggested attribute is built from -/

theorem exists_entry_of_mem_forAttributes {catalogue : Catalogue} {tag : String}
    {typed : List Char} {settings : CompletionSettings} {suggestion : Suggestion}
    (h : suggestion ∈ forAttributes catalogue tag typed settings) :
    ∃ detail entry, catalogue.attribute? (some tag) suggestion.label = some entry ∧
      suggestion = ofAttribute detail suggestion.label entry := by
  obtain ⟨known, hknown, _, rfl⟩ := exists_known_of_mem_forAttributes h
  exact ⟨_, known.2, attribute?_of_mem_knownAttributes hknown, rfl⟩

theorem forValues_of_attribute? {catalogue : Catalogue} {tag name : String} {entry : Attribute}
    (h : catalogue.attribute? (some tag) name = some entry) (settings : CompletionSettings) :
    forValues catalogue tag name settings =
      (valuesOf catalogue settings entry).map (ofLabel · .value) := by
  simp [forValues, h]

/-! ## Acceptance -/

/-- What stands in the document when the attribute is written and its value begins. -/
def valueStart (suggestion : Suggestion) : List Char :=
  suggestion.label.toList ++ ['=', '"']

theorem classify_insert_valueStart {document : Document} {position : Position}
    {settings : CompletionSettings} {tag : String} {offset : Nat} {suggestion : Suggestion}
    (hinside : position.character ≤ (document.lineText position.line).length)
    (hcontext : Markup.classify document position settings = .attributeName tag offset)
    (hfront : Text.startsWord (document.textBefore position) = true)
    (hne : suggestion.label.toList ≠ [])
    (hname : ∀ c ∈ suggestion.label.toList, Markup.isNameChar c = true) :
    Markup.classify (document.insert position suggestion.valueStart)
        (position.onward suggestion.valueStart.length) settings =
      .attributeValue tag suggestion.label := by
  have hfound := Markup.found_of_attributeName hcontext
  have hangle : ∀ c ∈ suggestion.valueStart, Markup.isAngle c = false := by
    intro c hc
    rcases List.mem_append.1 hc with hlabel | hend
    · exact (Markup.isPlain_iff.1 (Markup.isPlain_of_isNameChar (hname c hlabel))).2.2.2
    · simp only [List.mem_cons, List.not_mem_nil, or_false] at hend
      rcases hend with rfl | rfl <;> rfl
  -- the tag stays the one that was found, whether the position lies within a quote or not
  have htag := Markup.scanTag_insert hfound hinside hangle
  have hbefore := Document.textBefore_insert (Markup.contains_of_found hfound) hinside
    suggestion.valueStart
  -- the probe starts at the label, for white space stands before it
  have htext : suggestion.valueStart =
      (Markup.Spelling.ofName suggestion.label.toList hne hname).text ++ '=' :: '"' :: [] := by
    rw [Markup.Spelling.text_ofName, valueStart]
  have hquote : Markup.isQuote '"' = true := by decide
  have hvalued := Markup.valuedAttribute?_of_text _ (hbefore.trans (congrArg _ htext)) hfront hquote
    (by simp)
  have hlabel : String.ofList (Markup.Spelling.ofName suggestion.label.toList hne hname).name =
      suggestion.label := String.ofList_toList
  exact Markup.classify_eq_attributeValue htag (hvalued.trans (congrArg some hlabel))

/-- The entry that is completed after a suggestion has been accepted is the one the suggestion
describes, wherever in the tag its name is asked for. -/
theorem values_of_accepted_attribute {catalogue : Catalogue} {settings : CompletionSettings}
    {document : Document} {position : Position} {tag : String} {offset : Nat}
    {suggestion : Suggestion}
    (hinside : position.character ≤ (document.lineText position.line).length)
    (hcontext : Markup.classify document position settings = .attributeName tag offset)
    (hfront : Text.startsWord (document.textBefore position) = true)
    (hmem : suggestion ∈ forAttributes catalogue tag [] settings)
    (hne : suggestion.label.toList ≠ [])
    (hname : ∀ c ∈ suggestion.label.toList, Markup.isNameChar c = true) :
    Markup.classify (document.insert position suggestion.valueStart)
        (position.onward suggestion.valueStart.length) settings =
      .attributeValue tag suggestion.label ∧
    (∀ language, Engine.complete ⟨catalogue, settings⟩
        ⟨document.insert position suggestion.valueStart,
          position.onward suggestion.valueStart.length, language⟩ false =
      forValues catalogue tag suggestion.label settings) ∧
    ∃ detail entry, catalogue.attribute? (some tag) suggestion.label = some entry ∧
      suggestion = ofAttribute detail suggestion.label entry ∧
      forValues catalogue tag suggestion.label settings =
        (valuesOf catalogue settings entry).map (ofLabel · .value) := by
  have hvalue := classify_insert_valueStart hinside hcontext hfront hne hname
  refine ⟨hvalue, ?_, ?_⟩
  · intro language
    rw [Engine.complete_eq_suggest, Engine.classify, hvalue]
    rfl
  · rcases exists_entry_of_mem_forAttributes hmem with ⟨detail, entry, hentry, hbuilt⟩
    exact ⟨detail, entry, hentry, hbuilt, forValues_of_attribute? hentry settings⟩

/-- Also after a quote that belongs to no attribute. -/
theorem values_of_accepted_gutter :
    Engine.complete
        ⟨.ofLists [{ name := "el-row", attributes := ["gutter"] }]
          [("gutter", { options := some ["10", "20"] })] [], {}⟩
        ⟨.ofText "<el-row \"a gutter=\"", ⟨0, 19⟩, "vue"⟩ false =
      [ofLabel "10" .value, ofLabel "20" .value] := by
  have hcontext : Markup.classify (.ofText "<el-row \"a ") ⟨0, 11⟩ {} =
      .attributeName "el-row" 0 := by decide
  have hmem : ofAttribute "<el-row>" "gutter" { options := some ["10", "20"] } ∈
      forAttributes (.ofLists [{ name := "el-row", attributes := ["gutter"] }]
        [("gutter", { options := some ["10", "20"] })] []) "el-row" [] {} := by decide
  have hname : ∀ c ∈ "gutter".toList, Markup.isNameChar c = true :=
    List.all_eq_true.1 (by decide)
  rcases values_of_accepted_attribute (by decide) hcontext (by decide) hmem (by decide) hname
    with ⟨_, hcomplete, _⟩
  exact (hcomplete "vue").trans (by decide)

end Suggestion
end MarkupAssist
