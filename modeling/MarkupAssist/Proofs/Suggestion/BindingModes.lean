import Mathlib.Data.List.Nodup
import MarkupAssist.Proofs.Suggestion.AttributeLists

/-!
# Events and other attributes

With an `@` events are suggested, and without it everything else. Between them the two lists have
every attribute that a tag can be given, each one as often and in the same order.

- `attributeNames` : the attributes a tag can be given
- `IsEvent`        : an attribute that is bound to a handler
- `labels_of_mode` : the suggested names, with an `@` and without it
-/

namespace MarkupAssist
namespace Suggestion

open Catalogue (Attribute)

/-! ## The attributes of a tag -/

def IsEvent (catalogue : Catalogue) (tag name : String) : Prop :=
  ∃ entry ∈ catalogue.attribute? (some tag) name, entry.kind = .method

instance (catalogue : Catalogue) (tag name : String) : Decidable (IsEvent catalogue tag name) :=
  inferInstanceAs (Decidable (∃ entry ∈ catalogue.attribute? (some tag) name, _))

/-- Whether every tag has it, as far as this tag is told. -/
def IsShared (catalogue : Catalogue) (tag name : String) : Prop :=
  ∃ entry ∈ catalogue.attribute? (some tag) name, entry.isGlobal = true

instance (catalogue : Catalogue) (tag name : String) : Decidable (IsShared catalogue tag name) :=
  inferInstanceAs (Decidable (∃ entry ∈ catalogue.attribute? (some tag) name, _))

/-- What the tag declares, if it is known, and then what every tag has. -/
def attributeNames (catalogue : Catalogue) (tag : String) : List String :=
  (catalogue.tagAttributes tag).filter (fun name =>
      (catalogue.attribute? (some tag) name).isSome) ++
    (catalogue.attributes.entries.map Prod.fst).filter fun key =>
      '/' ∉ key.toList ∧ key ∉ catalogue.tagAttributes tag ∧ IsShared catalogue tag key

/-! ## Names and entries -/

/-- Of what is found for some keys only the keys are left. -/
theorem map_fst_filterMap {α β : Type} {f : α → Option (α × β)}
    (h : ∀ key found, f key = some found → found.1 = key) (keys : List α) :
    (keys.filterMap f).map Prod.fst = keys.filter fun key => (f key).isSome := by
  induction keys with
  | nil =>
      rfl
  | cons key rest ih =>
      cases hfound : f key with
      | none =>
          simp [hfound, ih]
      | some found =>
          simp [hfound, ih, h key found hfound]

variable {catalogue : Catalogue} {tag : String}

theorem names_declaredAttributes :
    (declaredAttributes catalogue tag).map Prod.fst =
      (catalogue.tagAttributes tag).filter fun name =>
        (catalogue.attribute? (some tag) name).isSome := by
  rw [declaredAttributes, map_fst_filterMap]
  · simp
  · intro name found hfound
    obtain ⟨entry, _, rfl⟩ := Option.map_eq_some_iff.1 hfound
    rfl

theorem names_globalAttributes :
    (globalAttributes catalogue tag).map Prod.fst =
      (catalogue.attributes.entries.map Prod.fst).filter fun key =>
        '/' ∉ key.toList ∧ key ∉ catalogue.tagAttributes tag ∧ IsShared catalogue tag key := by
  rw [globalAttributes_eq_filterMap,
    map_fst_filterMap fun key found h => (globalAttribute?_eq_some_iff.1 h).2.1]
  -- what every tag has is asked of the lookup for this tag, which may find an entry of its own
  refine List.filter_congr fun key _ => Bool.eq_iff_iff.2 ?_
  rw [Option.isSome_iff_exists, decide_eq_true_iff, ← and_assoc]
  constructor
  · rintro ⟨found, hfound⟩
    obtain ⟨hkey, _, hentry, hglobal⟩ := globalAttribute?_eq_some_iff.1 hfound
    exact ⟨hkey, found.2, hentry, hglobal⟩
  · rintro ⟨hkey, entry, hentry, hglobal⟩
    exact ⟨(key, entry), globalAttribute?_eq_some_iff.2 ⟨hkey, rfl, hentry, hglobal⟩⟩

theorem attributeNames_eq_map (catalogue : Catalogue) (tag : String) :
    attributeNames catalogue tag = (knownAttributes catalogue tag).map Prod.fst := by
  rw [knownAttributes, List.map_append, names_declaredAttributes, names_globalAttributes,
    attributeNames]

/-! ## The two lists -/

theorem labels_ofWanted (settings : CompletionSettings) (events : Bool) :
    (ofWanted catalogue settings tag ⟨events, none⟩).map Suggestion.label =
      ((knownAttributes catalogue tag).filter fun known =>
        (known.2.kind == .method) == events).map Prod.fst := by
  simp only [ofWanted, List.map_map, Wanted.accepts, Wanted.beginsLike, Bool.and_true]
  rfl

/-- As long as no letter is typed the mode alone selects, whatever list a name is on. -/
theorem labels_of_mode {typed : List Char} {events : Bool}
    (htyped : Wanted.ofTyped typed = ⟨events, none⟩) (settings : CompletionSettings) :
    (forAttributes catalogue tag typed settings).map Suggestion.label =
      (attributeNames catalogue tag).filter fun name =>
        decide (IsEvent catalogue tag name) == events := by
  -- a name is an event by the entry it is listed with, so the lists can be filtered by name
  have hkinds : ∀ known ∈ knownAttributes catalogue tag,
      ((known.2.kind == .method) == events) =
        (decide (IsEvent catalogue tag known.1) == events) := by
    intro known hknown
    have hentry := attribute?_of_mem_knownAttributes hknown
    have hkind : (known.2.kind == .method) = decide (IsEvent catalogue tag known.1) :=
      Bool.eq_iff_iff.2 (by simp [IsEvent, hentry])
    rw [hkind]
  have hpossible : (Wanted.mk events none).possible = true := rfl
  calc
    (forAttributes catalogue tag typed settings).map Suggestion.label
        = ((knownAttributes catalogue tag).filter fun known =>
            (known.2.kind == .method) == events).map Prod.fst := by
          rw [forAttributes_eq_ofWanted, htyped, if_pos hpossible, labels_ofWanted]
    _ = ((knownAttributes catalogue tag).filter fun known =>
            decide (IsEvent catalogue tag known.1) == events).map Prod.fst := by
          rw [List.filter_congr hkinds]
    _ = (attributeNames catalogue tag).filter fun name =>
            decide (IsEvent catalogue tag name) == events := by
          rw [attributeNames_eq_map, List.filter_map]
          rfl

/-- No name is on both lists, and no key stands twice in the table. -/
theorem nodup_attributeNames (h : (catalogue.tagAttributes tag).Nodup) :
    (attributeNames catalogue tag).Nodup := by
  refine List.Nodup.append (h.filter _) (catalogue.attributes.keys_nodup.filter _) ?_
  intro name hdeclared hshared
  have hnot := of_decide_eq_true (List.mem_filter.1 hshared).2
  exact hnot.2.1 (List.mem_filter.1 hdeclared).1

/-- Between them the two lists have every attribute of the tag once, and none stands on both. -/
theorem labels_of_both_modes (catalogue : Catalogue) (tag : String)
    (settings : CompletionSettings) :
    let names := attributeNames catalogue tag
    let events := (forAttributes catalogue tag ['@'] settings).map Suggestion.label
    let others := (forAttributes catalogue tag [] settings).map Suggestion.label
    events = names.filter (IsEvent catalogue tag ·) ∧
      others = names.filter (¬ IsEvent catalogue tag ·) ∧
      (events ++ others).Perm names ∧
      (∀ name ∈ names, name ∈ events ↔ name ∉ others) ∧
      ((catalogue.tagAttributes tag).Nodup → (events ++ others).Nodup) := by
  intro names events others
  have hat : Wanted.ofTyped ['@'] = ⟨true, none⟩ := rfl
  have hnothing : Wanted.ofTyped [] = ⟨false, none⟩ := rfl
  have hevents : events = names.filter (IsEvent catalogue tag ·) := by
    simpa using labels_of_mode hat settings
  have hothers : others = names.filter (¬ IsEvent catalogue tag ·) := by
    simpa using labels_of_mode hnothing settings
  have hperm : (events ++ others).Perm names := by
    rw [hevents, hothers]
    simpa using List.filter_append_perm (IsEvent catalogue tag ·) names
  refine ⟨hevents, hothers, hperm, ?_, ?_⟩
  · intro name hname
    simp [hevents, hothers, hname]
  · intro hdeclared
    exact hperm.nodup_iff.2 (nodup_attributeNames hdeclared)

/-- An event for the tag alone, one for every tag, and a name that is listed nowhere. -/
theorem labels_of_both_modes_of_button :
    let catalogue : Catalogue :=
      .ofLists [{ name := "el-button", attributes := ["type", "gap", "click"] }]
        [("focus", { kind := .method, isGlobal := true }), ("click", { isGlobal := true }),
          ("type", {}), ("el-button/click", { kind := .method }), ("hidden", { isGlobal := true })]
        []
    let events := (forAttributes catalogue "el-button" ['@'] {}).map Suggestion.label
    let others := (forAttributes catalogue "el-button" [] {}).map Suggestion.label
    events = ["click", "focus"] ∧ others = ["type", "hidden"] ∧ (events ++ others).Nodup ∧
      "click" ∉ others := by
  intro catalogue events others
  obtain ⟨hevents, hothers, _, hone, hnodup⟩ := labels_of_both_modes catalogue "el-button" {}
  refine ⟨hevents.trans (by decide), hothers.trans (by decide), hnodup (by decide), ?_⟩
  exact (hone "click" (by decide)).1 (by decide)

end Suggestion
end MarkupAssist
