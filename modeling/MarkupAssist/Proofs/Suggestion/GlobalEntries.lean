import MarkupAssist.Proofs.Data.Writing
import MarkupAssist.Proofs.Suggestion.BindingModes

/-!
# Attributes that every tag has

An entry that is marked as global is for every tag. It is not suggested for all of them, though:
the mark is asked of the entry a lookup for the tag finds, and an entry for the tag alone, which is
found first, takes the place of the global one together with its mark. What the tag declares needs
no mark.

- `isShared_iff`            : when the mark is found
- `suggested_of_global_iff` : the tags for which a global entry is suggested
-/

namespace MarkupAssist
namespace Suggestion

open Catalogue (Attribute scopedKey)

variable {catalogue : Catalogue} {key : String} {entry : Attribute}

/-! ## Entries for all and for one -/

theorem mem_keys_of_entry? (h : catalogue.entry? key = some entry) :
    key ∈ catalogue.attributes.entries.map Prod.fst := by
  by_contra hnew
  rw [Catalogue.entry?, (Data.Table.get?_eq_none_iff _).2 hnew] at h
  simp at h

theorem attribute?_isSome_of_entry? (h : catalogue.entry? key = some entry) (tag : String) :
    (catalogue.attribute? (some tag) key).isSome = true := by
  rw [Catalogue.attribute?, h, Option.isSome_or]
  simp

/-- An entry for the tag alone settles by itself whether the attribute is shared. -/
theorem isShared_iff (h : catalogue.entry? key = some entry) (hglobal : entry.isGlobal = true)
    (tag : String) :
    IsShared catalogue tag key ↔
      ∀ own, catalogue.entry? (scopedKey tag key) = some own → own.isGlobal = true := by
  rw [IsShared, Catalogue.attribute?, Option.bind_some]
  cases hown : catalogue.entry? (scopedKey tag key) with
  | none =>
      simp [h, hglobal]
  | some own =>
      simp

/-! ## Suggestions -/

/-- In one of the two modes or the other. -/
def IsSuggested (catalogue : Catalogue) (settings : CompletionSettings) (tag name : String) : Prop :=
  name ∈ (forAttributes catalogue tag [] settings).map Suggestion.label ∨
    name ∈ (forAttributes catalogue tag ['@'] settings).map Suggestion.label

instance (catalogue : Catalogue) (settings : CompletionSettings) (tag name : String) :
    Decidable (IsSuggested catalogue settings tag name) :=
  inferInstanceAs (Decidable (_ ∨ _))

theorem isSuggested_iff (settings : CompletionSettings) (tag name : String) :
    IsSuggested catalogue settings tag name ↔ name ∈ attributeNames catalogue tag := by
  have hothers : Wanted.ofTyped [] = ⟨false, none⟩ := rfl
  have hevents : Wanted.ofTyped ['@'] = ⟨true, none⟩ := rfl
  rw [IsSuggested, labels_of_mode hothers, labels_of_mode hevents, List.mem_filter,
    List.mem_filter, ← and_or_left]
  -- every attribute is in one of the modes, as it is an event or is not
  by_cases hevent : IsEvent catalogue tag name
  · simp [hevent]
  · simp [hevent]

/-- A global entry is suggested for a tag exactly if the tag declares it, or has no entry of its
own in its place that is not global. -/
theorem suggested_of_global_iff (hkey : '/' ∉ key.toList)
    (hentry : catalogue.entry? key = some entry) (hglobal : entry.isGlobal = true) (tag : String)
    (settings : CompletionSettings) :
    IsSuggested catalogue settings tag key ↔
      key ∈ catalogue.tagAttributes tag ∨
        ∀ own, catalogue.entry? (scopedKey tag key) = some own → own.isGlobal = true := by
  rw [isSuggested_iff, attributeNames, List.mem_append, List.mem_filter, List.mem_filter,
    decide_eq_true_iff, isShared_iff hentry hglobal]
  have hfound := attribute?_isSome_of_entry? hentry tag
  have hlisted := mem_keys_of_entry? hentry
  -- a declared attribute is only looked up, any other is asked for its mark
  by_cases hdeclared : key ∈ catalogue.tagAttributes tag
  · simp [hdeclared, hfound]
  · simp [hdeclared, hlisted, hkey]

/-- For a tag that declares it, for one that is not known, and for two with entries of their own. -/
theorem suggested_of_global_iff_of_size :
    let catalogue : Catalogue :=
      .ofLists [{ name := "el-button", attributes := ["size"] }]
        [("size", { isGlobal := true }), ("el-button/size", {}),
          ("el-row/size", { kind := .method, isGlobal := true }), ("el-col/size", {})] []
    IsSuggested catalogue {} "el-button" "size" ∧ IsSuggested catalogue {} "el-unknown" "size" ∧
      IsSuggested catalogue {} "el-row" "size" ∧ ¬ IsSuggested catalogue {} "el-col" "size" := by
  intro catalogue
  have hentry : catalogue.entry? "size" = some { isGlobal := true } := by decide
  have hiff := fun tag => suggested_of_global_iff (by decide) hentry rfl tag {}
  refine ⟨?_, ?_, ?_, ?_⟩
  · exact (hiff "el-button").2 (.inl (by decide))
  · have hown : catalogue.entry? (scopedKey "el-unknown" "size") = none := by decide
    exact (hiff "el-unknown").2 (.inr (by simp [hown]))
  · have hown : catalogue.entry? (scopedKey "el-row" "size") =
        some { kind := .method, isGlobal := true } := by decide
    exact (hiff "el-row").2 (.inr (by simp [hown]))
  · have hown : catalogue.entry? (scopedKey "el-col" "size") = some {} := by decide
    have hdeclared : "size" ∉ catalogue.tagAttributes "el-col" := by decide
    intro hsuggested
    rcases (hiff "el-col").1 hsuggested with hmem | hmark
    · exact hdeclared hmem
    · exact absurd (hmark _ hown) (by decide)

/-- Options for one tag take the attribute away from it, though they are still completed there. -/
theorem global_not_suggested_beside_own :
    let catalogue : Catalogue :=
      .ofLists [] [("size", { isGlobal := true }),
        ("el-button/size", { kind := .enumerated, options := some ["mini"] })] []
    catalogue.entry? "size" = some { isGlobal := true } ∧
      ¬ IsSuggested catalogue {} "el-button" "size" ∧
      forValues catalogue "el-button" "size" {} = [ofLabel "mini" .value] := by
  decide

end Suggestion
end MarkupAssist
