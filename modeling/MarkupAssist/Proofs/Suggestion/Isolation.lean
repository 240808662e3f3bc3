import Mathlib.Data.List.Basic
import MarkupAssist.Engine.Request
import MarkupAssist.Proofs.Markup.ReportedTag
import MarkupAssist.Proofs.Suggestion.AttributeLists

/-!
# Tags keep to their own attributes

What is listed for one tag alone never shows in what is suggested for another tag: not where
it is listed, not what it says, and not how many such entries there are.

- `Catalogue.IsForeign`  : a key of an attribute for another tag alone
- `Catalogue.ownEntries` : the entries that are left without them, in their order
- `Catalogue.AgreeFor`   : two catalogues that differ in foreign entries only

Every lookup made for the tag asks for a key that is not foreign, and the pass over the whole
table leaves foreign keys out, so all of them can be read off the own entries.
-/

namespace MarkupAssist

namespace Catalogue

/-! ## Foreign entries -/

/-- What stands before the first slash of the key is another tag. -/
def IsForeign (tag key : String) : Prop :=
  '/' ∈ key.toList ∧ key.toList.takeWhile (· ≠ '/') ≠ tag.toList

instance (tag key : String) : Decidable (IsForeign tag key) :=
  inferInstanceAs (Decidable (_ ∧ _))

def ownEntries (catalogue : Catalogue) (tag : String) : List (String × Attribute) :=
  catalogue.attributes.entries.filter fun entry => ¬ IsForeign tag entry.1

structure AgreeFor (tag : String) (d e : Catalogue) : Prop where
  tags : d.tags.entries = e.tags.entries
  icons : d.icons = e.icons
  attributes : d.ownEntries tag = e.ownEntries tag

theorem not_isForeign_of_no_slash {tag key : String} (h : '/' ∉ key.toList) :
    ¬ IsForeign tag key := by
  intro hforeign
  exact h hforeign.1

theorem not_isForeign_scopedKey {tag : String} (h : '/' ∉ tag.toList) (name : String) :
    ¬ IsForeign tag (scopedKey tag name) := by
  intro hforeign
  have hletters : ∀ c ∈ tag.toList, decide (c ≠ '/') = true := by
    intro c hc
    exact decide_eq_true fun heq => h (heq ▸ hc)
  have htoList : (scopedKey tag name).toList = tag.toList ++ '/' :: name.toList := by
    simp [scopedKey]
  -- the tag has no slash of its own, so the first slash is the one that was put after it
  have hbefore : (scopedKey tag name).toList.takeWhile (· ≠ '/') = tag.toList := by
    rw [htoList, List.takeWhile_append_of_pos hletters]
    simp
  exact hforeign.2 hbefore

/-! ## Lookups among the own entries -/

theorem entry?_eq_find?_ownEntries {tag key : String} (h : ¬ IsForeign tag key)
    (catalogue : Catalogue) :
    catalogue.entry? key =
      ((catalogue.ownEntries tag).find? fun entry => entry.1 == key).map Prod.snd := by
  have hfind : (catalogue.ownEntries tag).find? (fun entry => entry.1 == key) =
      catalogue.attributes.entries.find? fun entry => entry.1 == key := by
    rw [ownEntries, List.find?_filter]
    refine congrArg (List.find? · _) (funext fun entry => ?_)
    by_cases hkey : entry.1 = key
    · simp [hkey, h]
    · simp [hkey]
  rw [hfind, Catalogue.entry?, Data.Table.get?_eq_find?]

variable {tag : String} {d e : Catalogue}

theorem AgreeFor.entry? (h : AgreeFor tag d e) {key : String} (hkey : ¬ IsForeign tag key) :
    d.entry? key = e.entry? key := by
  rw [entry?_eq_find?_ownEntries hkey, entry?_eq_find?_ownEntries hkey, h.attributes]

theorem AgreeFor.attribute? (h : AgreeFor tag d e) (htag : '/' ∉ tag.toList) {name : String}
    (hname : '/' ∉ name.toList) :
    d.attribute? (some tag) name = e.attribute? (some tag) name := by
  have hscoped := h.entry? (not_isForeign_scopedKey htag name)
  have hbare := h.entry? (not_isForeign_of_no_slash hname)
  simp only [Catalogue.attribute?, Option.bind_some, hscoped, hbare]

theorem AgreeFor.tagAttributes (h : AgreeFor tag d e) (other : String) :
    d.tagAttributes other = e.tagAttributes other := by
  simp only [Catalogue.tagAttributes, tag?, Data.Table.get?_eq_find?, h.tags]

end Catalogue

namespace Suggestion

open Catalogue (AgreeFor Attribute IsForeign)

/-! ## The two lists of attributes -/

theorem globalAttribute?_of_slash {key : String} (h : '/' ∈ key.toList) (catalogue : Catalogue)
    (tag : String) : globalAttribute? catalogue tag key = none := by
  simp [globalAttribute?, h]

/-- The pass over all keys might as well be one over the own entries. -/
theorem globalAttributes_eq_filterMap_ownEntries (catalogue : Catalogue) (tag : String) :
    globalAttributes catalogue tag =
      (catalogue.ownEntries tag).filterMap fun entry => globalAttribute? catalogue tag entry.1 := by
  calc
    globalAttributes catalogue tag
        = (catalogue.attributes.entries.map Prod.fst).filterMap
            (globalAttribute? catalogue tag) := globalAttributes_eq_filterMap catalogue tag
    _ = catalogue.attributes.entries.filterMap
          fun entry => globalAttribute? catalogue tag entry.1 := List.filterMap_map
    _ = (catalogue.ownEntries tag).filterMap
          fun entry => globalAttribute? catalogue tag entry.1 := by
        rw [Catalogue.ownEntries, List.filterMap_filter]
        refine congrArg (List.filterMap · _) (funext fun entry => ?_)
        by_cases hforeign : IsForeign tag entry.1
        · simp [hforeign, globalAttribute?_of_slash hforeign.1]
        · simp [hforeign]

variable {tag : String} {d e : Catalogue}

theorem globalAttribute?_of_agreeFor (h : AgreeFor tag d e) (htag : '/' ∉ tag.toList)
    (key : String) : globalAttribute? d tag key = globalAttribute? e tag key := by
  by_cases hslash : '/' ∈ key.toList
  · rw [globalAttribute?_of_slash hslash, globalAttribute?_of_slash hslash]
  · simp only [globalAttribute?, h.tagAttributes, h.attribute? htag hslash]

theorem globalAttributes_of_agreeFor (h : AgreeFor tag d e) (htag : '/' ∉ tag.toList) :
    globalAttributes d tag = globalAttributes e tag := by
  calc
    globalAttributes d tag
        = (d.ownEntries tag).filterMap fun entry => globalAttribute? d tag entry.1 :=
          globalAttributes_eq_filterMap_ownEntries d tag
    _ = (e.ownEntries tag).filterMap fun entry => globalAttribute? e tag entry.1 := by
          simp only [h.attributes, globalAttribute?_of_agreeFor h htag]
    _ = globalAttributes e tag := (globalAttributes_eq_filterMap_ownEntries e tag).symm

theorem declaredAttributes_of_agreeFor (h : AgreeFor tag d e) (htag : '/' ∉ tag.toList)
    (hdeclared : ∀ name ∈ d.tagAttributes tag, '/' ∉ name.toList) :
    declaredAttributes d tag = declaredAttributes e tag := by
  rw [declaredAttributes, declaredAttributes, ← h.tagAttributes]
  refine List.filterMap_congr fun name hname => ?_
  rw [h.attribute? htag (hdeclared name hname)]

/-! ## Suggestions -/

theorem forAttributes_of_agreeFor (h : AgreeFor tag d e) (htag : '/' ∉ tag.toList)
    (hdeclared : ∀ name ∈ d.tagAttributes tag, '/' ∉ name.toList) (typed : List Char)
    (settings : CompletionSettings) :
    forAttributes d tag typed settings = forAttributes e tag typed settings := by
  simp only [forAttributes, declaredAttributes_of_agreeFor h htag hdeclared,
    globalAttributes_of_agreeFor h htag]

theorem forValues_of_agreeFor (h : AgreeFor tag d e) (htag : '/' ∉ tag.toList) {name : String}
    (hname : '/' ∉ name.toList) (settings : CompletionSettings) :
    forValues d tag name settings = forValues e tag name settings := by
  simp only [forValues, valuesOf, h.attribute? htag hname, h.icons]

/-- A position among the attributes of a tag, or in one of their values. -/
def NamesTag (tag : String) (context : Markup.Context) : Prop :=
  (∃ offset, context = .attributeName tag offset) ∨ ∃ name, context = .attributeValue tag name

/-- What another tag has listed for itself alone is neither suggested for this one nor does it
change what is, whatever is typed and wherever it is asked for. -/
theorem suggestions_of_agreeFor (h : AgreeFor tag d e) (htag : '/' ∉ tag.toList)
    (hdeclared : ∀ name ∈ d.tagAttributes tag, '/' ∉ name.toList) (settings : CompletionSettings) :
    (∀ typed, forAttributes d tag typed settings = forAttributes e tag typed settings) ∧
    (∀ name, '/' ∉ name.toList →
      forValues d tag name settings = forValues e tag name settings) ∧
    (∀ request cancelled,
      NamesTag tag (Markup.classify request.document request.position settings) →
      Engine.complete ⟨d, settings⟩ request cancelled =
        Engine.complete ⟨e, settings⟩ request cancelled) := by
  refine ⟨?_, ?_, ?_⟩
  · intro typed
    exact forAttributes_of_agreeFor h htag hdeclared typed settings
  · intro name hname
    exact forValues_of_agreeFor h htag hname settings
  · intro request cancelled hcontext
    cases cancelled with
    | true =>
        rfl
    | false =>
        rw [Engine.complete_eq_suggest, Engine.complete_eq_suggest]
        simp only [Engine.classify, Engine.suggest]
        rcases hcontext with ⟨offset, hname⟩ | ⟨name, hvalue⟩
        · rw [hname]
          exact forAttributes_of_agreeFor h htag hdeclared _ settings
        -- the name of an attribute in a context is made of name characters
        · rcases Markup.found_of_attributeValue hvalue with ⟨_, _, hvalued⟩
          have hname := (Markup.isName_of_valuedAttribute? hvalued).slash_not_mem
          rw [hvalue]
          exact forValues_of_agreeFor h htag hname settings

/-- What `el-col` has for itself does not show for `el-row`, even if it is marked as global. -/
theorem suggestions_of_row_beside_col :
    Engine.complete
        ⟨.ofLists [{ name := "el-row", attributes := ["gutter"] }]
          [("el-col/gutter", { kind := .boolean }), ("gutter", { options := some ["10"] }),
            ("el-col/span", { isGlobal := true }), ("loading", { isGlobal := true })] [], {}⟩
        ⟨.ofText "<el-row ", ⟨0, 8⟩, "vue"⟩ false =
      Engine.complete
        ⟨.ofLists [{ name := "el-row", attributes := ["gutter"] }]
          [("gutter", { options := some ["10"] }), ("loading", { isGlobal := true })] [], {}⟩
        ⟨.ofText "<el-row ", ⟨0, 8⟩, "vue"⟩ false := by
  have hcontext : Markup.classify (.ofText "<el-row ") ⟨0, 8⟩ {} =
      .attributeName "el-row" 0 := by decide
  have hagree : AgreeFor "el-row"
      (.ofLists [{ name := "el-row", attributes := ["gutter"] }]
        [("el-col/gutter", { kind := .boolean }), ("gutter", { options := some ["10"] }),
          ("el-col/span", { isGlobal := true }), ("loading", { isGlobal := true })] [])
      (.ofLists [{ name := "el-row", attributes := ["gutter"] }]
        [("gutter", { options := some ["10"] }), ("loading", { isGlobal := true })] []) :=
    ⟨rfl, rfl, by decide⟩
  have hdeclared : ∀ name ∈ ["gutter"], '/' ∉ name.toList := by decide
  exact (suggestions_of_agreeFor hagree (by decide) hdeclared {}).2.2 _ false (.inl ⟨0, hcontext⟩)

end Suggestion
end MarkupAssist
