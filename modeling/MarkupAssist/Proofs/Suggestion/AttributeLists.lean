import MarkupAssist.Suggestion.Selection

/-!
# The attributes of a tag

Attributes are suggested from two lists, of what the tag declares and of what every tag has. On both
of them an attribute stands with the entry that a lookup for the tag finds, and no name is on both,
so that they are as good as one list (`forAttributes_eq_ofWanted`).

- `nameTyped`                    : what a typed word says of a name
- `globalAttribute?`             : what a key of the table adds to the attributes of every tag
- `globalAttribute?_eq_some_iff` : when it adds anything
- `knownAttributes`              : both lists, one after the other
- `ofWanted`                     : what is suggested of them
-/

namespace MarkupAssist
namespace Suggestion

open Catalogue (Attribute)

/-! ## Typed words -/

/-- The word without one character that binds. -/
def nameTyped (typed : List Char) : List Char :=
  if typed.head? = some '@' ∨ typed.head? = some ':' then typed.drop 1 else typed

theorem ofTyped_eq (typed : List Char) :
    Wanted.ofTyped typed = ⟨typed.head? = some '@', (nameTyped typed).head?⟩ := by
  unfold Wanted.ofTyped
  split
  · simp [nameTyped]
  · simp [nameTyped]
  · next hevent hbound =>
      have hat : typed.head? ≠ some '@' := by
        intro h
        obtain ⟨rest, rfl⟩ := List.head?_eq_some_iff.1 h
        exact hevent rest rfl
      have hcolon : typed.head? ≠ some ':' := by
        intro h
        obtain ⟨rest, rfl⟩ := List.head?_eq_some_iff.1 h
        exact hbound rest rfl
      simp [nameTyped, hat, hcolon]

/-! ## Global attributes -/

variable {catalogue : Catalogue} {tag : String}

/-- What a key of the table adds to the attributes of every tag. -/
def globalAttribute? (catalogue : Catalogue) (tag key : String) : Option (String × Attribute) :=
  if key.toList.contains '/' || (catalogue.tagAttributes tag).contains key then none
  else (catalogue.attribute? (some tag) key).bind fun entry =>
    if entry.isGlobal then some (key, entry) else none

theorem globalAttributes_eq_filterMap (catalogue : Catalogue) (tag : String) :
    globalAttributes catalogue tag =
      (catalogue.attributes.entries.map Prod.fst).filterMap (globalAttribute? catalogue tag) :=
  rfl

theorem globalAttribute?_eq_some_iff {key : String} {found : String × Attribute} :
    globalAttribute? catalogue tag key = some found ↔
      ('/' ∉ key.toList ∧ key ∉ catalogue.tagAttributes tag) ∧ found.1 = key ∧
        catalogue.attribute? (some tag) key = some found.2 ∧ found.2.isGlobal = true := by
  constructor
  · intro h
    rw [globalAttribute?] at h
    split at h
    · simp at h
    · next hkey =>
        obtain ⟨entry, hentry, hfound⟩ := Option.bind_eq_some_iff.1 h
        split at hfound
        · next hglobal =>
            cases hfound
            exact ⟨by simpa using hkey, rfl, hentry, hglobal⟩
        · simp at hfound
  · rintro ⟨⟨hslash, hdeclared⟩, rfl, hentry, hglobal⟩
    simp [globalAttribute?, hslash, hdeclared, hentry, hglobal]

/-! ## Entries -/

theorem attribute?_of_mem_declaredAttributes {name : String} {entry : Attribute}
    (h : (name, entry) ∈ declaredAttributes catalogue tag) :
    catalogue.attribute? (some tag) name = some entry := by
  rcases List.mem_filterMap.1 h with ⟨declared, _, hmap⟩
  rcases Option.map_eq_some_iff.1 hmap with ⟨found, hfound, heq⟩
  cases heq
  exact hfound

theorem attribute?_of_mem_globalAttributes {name : String} {entry : Attribute}
    (h : (name, entry) ∈ globalAttributes catalogue tag) :
    catalogue.attribute? (some tag) name = some entry := by
  rw [globalAttributes_eq_filterMap] at h
  obtain ⟨key, _, hkey⟩ := List.mem_filterMap.1 h
  obtain ⟨_, rfl, hentry, _⟩ := globalAttribute?_eq_some_iff.1 hkey
  exact hentry

/-! ## One list -/

/-- Everything the tag can be given, with its entries. -/
def knownAttributes (catalogue : Catalogue) (tag : String) : List (String × Attribute) :=
  declaredAttributes catalogue tag ++ globalAttributes catalogue tag

theorem attribute?_of_mem_knownAttributes {name : String} {entry : Attribute}
    (h : (name, entry) ∈ knownAttributes catalogue tag) :
    catalogue.attribute? (some tag) name = some entry := by
  rcases List.mem_append.1 h with hdeclared | hglobal
  · exact attribute?_of_mem_declaredAttributes hdeclared
  · exact attribute?_of_mem_globalAttributes hglobal

/-- What is shown of where an attribute comes from: the tag that declares it, or the library. -/
def originOf (catalogue : Catalogue) (settings : CompletionSettings) (tag name : String) : String :=
  if name ∈ catalogue.tagAttributes tag then "<" ++ tag ++ ">" else settings.libraryLabel

def ofKnown (catalogue : Catalogue) (settings : CompletionSettings) (tag : String)
    (known : String × Attribute) : Suggestion :=
  ofAttribute (originOf catalogue settings tag known.1) known.1 known.2

/-- What is wanted of everything the tag can be given. -/
def ofWanted (catalogue : Catalogue) (settings : CompletionSettings) (tag : String)
    (wanted : Wanted) : List Suggestion :=
  ((knownAttributes catalogue tag).filter fun known => wanted.accepts known.1 known.2).map
    (ofKnown catalogue settings tag)

/-- The list an attribute is on shows only in its origin. -/
theorem accepted_eq_map {settings : CompletionSettings} {detail : String}
    {entries : List (String × Attribute)}
    (h : ∀ known ∈ entries, originOf catalogue settings tag known.1 = detail) (wanted : Wanted) :
    accepted wanted detail entries =
      (entries.filter fun known => wanted.accepts known.1 known.2).map
        (ofKnown catalogue settings tag) := by
  refine List.map_congr_left fun known hknown => ?_
  rw [ofKnown, h known (List.mem_filter.1 hknown).1]

theorem originOf_declared (settings : CompletionSettings) {known : String × Attribute}
    (h : known ∈ declaredAttributes catalogue tag) :
    originOf catalogue settings tag known.1 = "<" ++ tag ++ ">" := by
  rcases List.mem_filterMap.1 h with ⟨name, hname, hmap⟩
  rcases Option.map_eq_some_iff.1 hmap with ⟨entry, _, rfl⟩
  exact if_pos hname

theorem originOf_global (settings : CompletionSettings) {known : String × Attribute}
    (h : known ∈ globalAttributes catalogue tag) :
    originOf catalogue settings tag known.1 = settings.libraryLabel := by
  rw [globalAttributes_eq_filterMap] at h
  obtain ⟨key, _, hkey⟩ := List.mem_filterMap.1 h
  obtain ⟨⟨_, hdeclared⟩, rfl, _⟩ := globalAttribute?_eq_some_iff.1 hkey
  exact if_neg hdeclared

theorem forAttributes_eq_ofWanted (catalogue : Catalogue) (tag : String) (typed : List Char)
    (settings : CompletionSettings) :
    forAttributes catalogue tag typed settings =
      if (Wanted.ofTyped typed).possible then
        ofWanted catalogue settings tag (Wanted.ofTyped typed)
      else [] := by
  have hdeclared : ∀ known ∈ declaredAttributes catalogue tag,
      originOf catalogue settings tag known.1 = "<" ++ tag ++ ">" :=
    fun _ hknown => originOf_declared settings hknown
  have hglobal : ∀ known ∈ globalAttributes catalogue tag,
      originOf catalogue settings tag known.1 = settings.libraryLabel :=
    fun _ hknown => originOf_global settings hknown
  rw [forAttributes, accepted_eq_map hdeclared, accepted_eq_map hglobal, ofWanted, knownAttributes,
    List.filter_append, List.map_append]

theorem exists_known_of_mem_forAttributes {typed : List Char} {settings : CompletionSettings}
    {suggestion : Suggestion} (h : suggestion ∈ forAttributes catalogue tag typed settings) :
    ∃ known ∈ knownAttributes catalogue tag,
      (Wanted.ofTyped typed).accepts known.1 known.2 = true ∧
      suggestion = ofKnown catalogue settings tag known := by
  rw [forAttributes_eq_ofWanted] at h
  split at h
  · rcases List.mem_map.1 h with ⟨known, hknown, rfl⟩
    rcases List.mem_filter.1 hknown with ⟨hmem, haccepts⟩
    exact ⟨known, hmem, haccepts, rfl⟩
  · simp at h

end Suggestion
end MarkupAssist
