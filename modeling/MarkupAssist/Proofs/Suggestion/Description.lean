import MarkupAssist.Proofs.Suggestion.AttributeLists

/-!
# Suggestions describe the entry that completes them

An attribute is suggested by one entry of the catalogue, and its values are completed by the same
one. Which entry that is has nothing to do with the list the attribute was found on: what is listed
for the tag alone comes before what is listed for all, for both of them.

- `valuesOfKind`           : the values of an attribute without options
- `Applies`                : the entry that counts for a tag
- `Describes`              : what a suggestion says of an entry, and what completes it
- `exists_described_entry` : every suggestion describes the entry that applies
-/

namespace MarkupAssist
namespace Suggestion

open Catalogue (Attribute AttributeKind)

/-! ## Entries -/

/-- The entry that is listed for the tag alone, or else the one that is listed for all. -/
def Applies (catalogue : Catalogue) (tag name : String) (entry : Attribute) : Prop :=
  catalogue.entry? (Catalogue.scopedKey tag name) = some entry ∨
    catalogue.entry? (Catalogue.scopedKey tag name) = none ∧ catalogue.entry? name = some entry

variable {catalogue : Catalogue} {settings : CompletionSettings} {tag : String}

theorem applies_iff {name : String} {entry : Attribute} :
    Applies catalogue tag name entry ↔ catalogue.attribute? (some tag) name = some entry := by
  rw [Applies, Catalogue.attribute?, Option.bind_some]
  cases catalogue.entry? (Catalogue.scopedKey tag name) with
  | none =>
      simp
  | some own =>
      simp

/-! ## Values -/

def valuesOfKind (catalogue : Catalogue) (settings : CompletionSettings) :
    AttributeKind → List String
  | .boolean => ["true", "false"]
  | .icon => catalogue.icons
  | .shortcutIcon => catalogue.icons.map (shortName settings.iconPrefix)
  | .flag | .method | .enumerated | .freeText => []

theorem valuesOf_eq (entry : Attribute) :
    valuesOf catalogue settings entry =
      entry.options.getD (valuesOfKind catalogue settings entry.kind) := by
  unfold valuesOf
  cases entry.options with
  | some options =>
      rfl
  | none =>
      cases entry.kind <;> rfl

theorem forValues_of_applies {name : String} {entry : Attribute}
    (h : Applies catalogue tag name entry) :
    forValues catalogue tag name settings =
      (entry.options.getD (valuesOfKind catalogue settings entry.kind)).map (ofLabel · .value) := by
  rw [forValues, applies_iff.1 h, ← valuesOf_eq]

/-! ## Suggestions -/

section Built

variable (detail name : String) (entry : Attribute)

theorem kind_ofAttribute :
    (ofAttribute detail name entry).kind =
      if entry.kind = .method then .method else .property := by
  unfold ofAttribute
  cases entry.kind <;> rfl

theorem insertText_ofAttribute :
    (ofAttribute detail name entry).insertText =
      if entry.kind = .flag then name ++ " " else name ++ "=\"$1\"$0" := by
  unfold ofAttribute
  cases entry.kind <;> rfl

theorem documentation_ofAttribute :
    (ofAttribute detail name entry).documentation =
      if entry.description = "" then none else some entry.description := by
  have hbuilt : (ofAttribute detail name entry).documentation =
      if entry.description.isEmpty then none else some entry.description := rfl
  simp only [hbuilt, String.isEmpty_iff]

end Built

theorem method_iff_of_accepts {typed : List Char} {name : String} {entry : Attribute}
    (h : (Wanted.ofTyped typed).accepts name entry = true) :
    entry.kind = .method ↔ typed.head? = some '@' := by
  rw [ofTyped_eq, Wanted.accepts, Bool.and_eq_true] at h
  have hmode : (entry.kind == .method) = decide (typed.head? = some '@') := eq_of_beq h.1
  rw [Bool.eq_iff_iff] at hmode
  simpa using hmode

/-- What a suggestion says of an entry, and how its values are completed. -/
structure Describes (catalogue : Catalogue) (settings : CompletionSettings) (tag : String)
    (typed : List Char) (entry : Attribute) (suggestion : Suggestion) : Prop where
  applies : Applies catalogue tag suggestion.label entry
  kind : suggestion.kind = if entry.kind = .method then .method else .property
  mode : entry.kind = .method ↔ typed.head? = some '@'
  insertText : suggestion.insertText =
    if entry.kind = .flag then suggestion.label ++ " " else suggestion.label ++ "=\"$1\"$0"
  documentation : suggestion.documentation =
    if entry.description = "" then none else some entry.description
  detail : suggestion.detail = some (originOf catalogue settings tag suggestion.label)
  values : forValues catalogue tag suggestion.label settings =
    (entry.options.getD (valuesOfKind catalogue settings entry.kind)).map (ofLabel · .value)

/-- Every suggestion describes the entry that applies to its label, and no other one does. -/
theorem exists_described_entry {typed : List Char} {suggestion : Suggestion}
    (h : suggestion ∈ forAttributes catalogue tag typed settings) :
    ∃ entry, Describes catalogue settings tag typed entry suggestion ∧
      ∀ other, Applies catalogue tag suggestion.label other → other = entry := by
  obtain ⟨⟨name, entry⟩, hknown, haccepts, rfl⟩ := exists_known_of_mem_forAttributes h
  -- what the suggestion is built of is what the lookup finds, on whichever list it stands
  have hfound := attribute?_of_mem_knownAttributes hknown
  have happlies : Applies catalogue tag name entry := applies_iff.2 hfound
  refine ⟨entry, ⟨happlies, ?_, ?_, ?_, ?_, rfl, ?_⟩, ?_⟩
  · exact kind_ofAttribute _ name entry
  · exact method_iff_of_accepts haccepts
  · exact insertText_ofAttribute _ name entry
  · exact documentation_ofAttribute _ name entry
  · exact forValues_of_applies happlies
  · intro other hother
    exact Option.some.inj ((applies_iff.1 hother).symm.trans hfound)

/-- A key of every tag is listed for this one alone as well, with values of another kind. -/
theorem exists_described_entry_of_button :
    let catalogue : Catalogue :=
      .ofLists [{ name := "el-button", attributes := ["type"] }]
        [("type", {}), ("loading", { kind := .flag, isGlobal := true }),
          ("el-button/loading", { kind := .boolean, isGlobal := true })] []
    let suggestion : Suggestion :=
      ⟨"loading", "loading=\"$1\"$0", .property, some "element-ui", none⟩
    ∃ entry, Describes catalogue {} "el-button" [':', 'l'] entry suggestion ∧
      entry = { kind := .boolean, isGlobal := true } := by
  intro catalogue suggestion
  have hmem : suggestion ∈ forAttributes catalogue "el-button" [':', 'l'] {} := by
    decide +kernel
  obtain ⟨entry, hdescribes, hunique⟩ := exists_described_entry hmem
  exact ⟨entry, hdescribes, (hunique _ (.inl (by decide +kernel))).symm⟩

end Suggestion
end MarkupAssist
