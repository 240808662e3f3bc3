import Mathlib.Data.List.Forall2
import MarkupAssist.Proofs.Catalogue.Entries
import MarkupAssist.Proofs.Json.Members

/-!
# Catalogues say what their texts say

A catalogue that has been read from two texts lists exactly what is written in them, whatever
keys are repeated there: each key at the place of its first member, with the value of its last.

- `Tabulates`  : a table lists what the written members stand for
- `Represents` : both tables do, the icons are the last ones, and attributes are found under the
  names they are listed under

One member adds one entry to one table (`addTag_eq_ok`, `addAttribute_eq_ok`), and the members
of a table all of theirs in order (`foldlM_addTag`, `foldlM_addAttribute`).
-/

namespace MarkupAssist
namespace Catalogue

open Data (Table)
open Json (lastValue? writtenMembers)
open Json.Decoder (bind_eq_ok)

/-! ## Single members -/

theorem mapError_eq_ok {ε δ α : Type} {x : Except ε α} {f : ε → δ} {a : α} :
    x.mapError f = .ok a ↔ x = .ok a := by
  cases x with
  | ok b =>
      constructor
      · intro h
        cases h
        rfl
      · intro h
        cases h
        rfl
  | error fault =>
      constructor
      · intro h
        cases h
      · intro h
        cases h

variable {catalogue next : Catalogue} {member : String × Json}

theorem addTag_eq_ok (h : addTag catalogue member = .ok next) :
    ∃ tag, IsTag member tag ∧ next = { catalogue with tags := catalogue.tags.put tag } := by
  rcases bind_eq_ok.1 h with ⟨entry, hread, hnext⟩
  cases hnext
  exact ⟨_, isTag_iff.2 ⟨entry, mapError_eq_ok.1 hread, rfl⟩, rfl⟩

theorem addAttribute_eq_ok (h : addAttribute catalogue member = .ok next) :
    (member.1 = iconsKey ∧ ∃ icons, IsIcons member.2 icons ∧ next = { catalogue with icons }) ∨
    (member.1 ≠ iconsKey ∧ ∃ listed, IsAttribute member listed ∧
      next = { catalogue with attributes := catalogue.attributes.put listed }) := by
  rw [addAttribute] at h
  split at h
  · next hicons =>
      rcases bind_eq_ok.1 h with ⟨icons, hread, hnext⟩
      cases hnext
      exact .inl ⟨hicons, icons, isIcons_iff.2 (mapError_eq_ok.1 hread), rfl⟩
  · next hother =>
      rcases bind_eq_ok.1 h with ⟨entry, hread, hnext⟩
      cases hnext
      exact .inr ⟨hother, _, isAttribute_iff.2 ⟨entry, mapError_eq_ok.1 hread, rfl⟩, rfl⟩

/-! ## All members of a table -/

theorem foldlM_addTag {members : List (String × Json)}
    (h : members.foldlM addTag catalogue = .ok next) :
    ∃ tags, List.Forall₂ IsTag members tags ∧
      next = { catalogue with tags := catalogue.tags.putAll tags } := by
  induction members generalizing catalogue with
  | nil =>
      cases h
      exact ⟨[], .nil, rfl⟩
  | cons member rest ih =>
      rw [List.foldlM_cons] at h
      rcases bind_eq_ok.1 h with ⟨between, hfirst, hrest⟩
      rcases addTag_eq_ok hfirst with ⟨tag, htag, rfl⟩
      rcases ih hrest with ⟨tags, htags, rfl⟩
      exact ⟨tag :: tags, .cons htag htags, rfl⟩

/-- The icons after some members, given those before them. -/
def IconsAfter (members : List (String × Json)) (before after : List String) : Prop :=
  match lastValue? members iconsKey with
  | some value => IsIcons value after
  | none => after = before

theorem IconsAfter.cons_icons {rest : List (String × Json)} {icons after : List String}
    (h : IconsAfter rest icons after) (hkey : member.1 = iconsKey)
    (hread : IsIcons member.2 icons) (before : List String) :
    IconsAfter (member :: rest) before after := by
  rw [IconsAfter, Json.lastValue?_cons, if_pos hkey]
  rw [IconsAfter] at h
  cases hlater : lastValue? rest iconsKey with
  | some value =>
      simpa [hlater] using h
  | none =>
      have hafter : after = icons := by
        simpa [hlater] using h
      simpa [hafter] using hread

theorem IconsAfter.cons_other {rest : List (String × Json)} {before after : List String}
    (h : IconsAfter rest before after) (hkey : member.1 ≠ iconsKey) :
    IconsAfter (member :: rest) before after := by
  rwa [IconsAfter, Json.lastValue?_cons, if_neg hkey, Option.or_none, ← IconsAfter]

theorem foldlM_addAttribute {members : List (String × Json)}
    (h : members.foldlM addAttribute catalogue = .ok next) :
    ∃ listed, List.Forall₂ IsAttribute (members.filter (·.1 ≠ iconsKey)) listed ∧
      next.attributes = catalogue.attributes.putAll listed ∧ next.tags = catalogue.tags ∧
      IconsAfter members catalogue.icons next.icons := by
  induction members generalizing catalogue with
  | nil =>
      cases h
      exact ⟨[], .nil, rfl, rfl, rfl⟩
  | cons member rest ih =>
      rw [List.foldlM_cons] at h
      rcases bind_eq_ok.1 h with ⟨between, hfirst, hrest⟩
      rcases ih hrest with ⟨listed, hlisted, hattributes, htags, hicons⟩
      rcases addAttribute_eq_ok hfirst with ⟨hkey, icons, hread, rfl⟩ | ⟨hkey, entry, hread, rfl⟩
      · refine ⟨listed, ?_, hattributes, htags, hicons.cons_icons hkey hread _⟩
        rwa [List.filter_cons_of_neg (by simpa using hkey)]
      · refine ⟨entry :: listed, ?_, hattributes, htags, hicons.cons_other hkey⟩
        rw [List.filter_cons_of_pos (by simpa using hkey)]
        exact .cons hread hlisted

/-! ## Tables -/

/-- The table lists what the written members stand for, each key where it came first and with
the value that came last. -/
structure Tabulates {α : Type} {key : α → String} (StandsFor : String × Json → α → Prop)
    (written : List (String × Json)) (table : Table key) : Prop where
  keys : table.entries.map key = (written.map Prod.fst).eraseDups
  distinct : (table.entries.map key).Nodup
  listed : ∀ k ∈ written.map Prod.fst, ∃ value entry, lastValue? written k = some value ∧
    StandsFor (k, value) entry ∧ table.get? k = some entry ∧
    table.entries.filter (key · == k) = [entry]
  unlisted : ∀ k, k ∉ written.map Prod.fst → table.get? k = none

section Tabulates

variable {α : Type} {key : α → String} {StandsFor : String × Json → α → Prop}
  (hkey : ∀ member entry, StandsFor member entry → key entry = member.1)
  {written : List (String × Json)} {members : List (String × Json)} {entries : List α}

include hkey

theorem keys_of_forall₂ (h : List.Forall₂ StandsFor members entries) :
    entries.map key = members.map Prod.fst := by
  induction h with
  | nil =>
      rfl
  | cons hfirst _ ih =>
      rw [List.map_cons, List.map_cons, hkey _ _ hfirst, ih]

theorem exists_find?_of_forall₂ (h : List.Forall₂ StandsFor members entries) {k : String}
    {member : String × Json} (hmember : members.find? (·.1 == k) = some member) :
    ∃ entry, entries.find? (key · == k) = some entry ∧ StandsFor member entry := by
  induction h with
  | nil =>
      simp at hmember
  | @cons first entry rest others hfirst _ ih =>
      have hsame : key entry = first.1 := hkey _ _ hfirst
      by_cases hk : first.1 = k
      · rw [List.find?_cons_of_pos (by simp [hk])] at hmember
        cases hmember
        exact ⟨entry, List.find?_cons_of_pos (by simp [hsame, hk]), hfirst⟩
      · rw [List.find?_cons_of_neg (by simp [hk])] at hmember
        rcases ih hmember with ⟨found, hfound, hstands⟩
        exact ⟨found, by rwa [List.find?_cons_of_neg (by simp [hsame, hk])], hstands⟩

theorem tabulates_putAll (h : List.Forall₂ StandsFor (Data.settle Prod.fst written) entries) :
    Tabulates StandsFor written ((Table.empty : Table key).putAll entries) := by
  have hkeys : entries.map key = (written.map Prod.fst).eraseDups :=
    (keys_of_forall₂ hkey h).trans (Data.keys_settle written)
  -- no key comes twice any more, so every entry is put behind those before it
  have hentries : ((Table.empty : Table key).putAll entries).entries = entries := by
    rw [Table.entries_putAll_empty]
    refine Data.settle_of_nodup ?_
    rw [keys_of_forall₂ hkey h]
    exact Data.nodup_keys_settle written
  refine ⟨by rw [hentries, hkeys], Table.keys_nodup _, ?_, ?_⟩
  · intro k hk
    have hlast : ∃ value, lastValue? written k = some value := by
      rw [← Option.isSome_iff_exists, Option.isSome_iff_ne_none]
      exact fun hnone => Json.lastValue?_eq_none_iff.1 hnone hk
    rcases hlast with ⟨value, hvalue⟩
    rcases Option.map_eq_some_iff.1 hvalue with ⟨member, hmember, hsnd⟩
    have hname : member = (k, value) :=
      Prod.ext (by simpa using List.find?_some hmember) hsnd
    rw [← Data.find?_settle, hname] at hmember
    rcases exists_find?_of_forall₂ hkey h hmember with ⟨entry, hfound, hstands⟩
    have hget : ((Table.empty : Table key).putAll entries).get? k = some entry := by
      rw [Table.get?_eq_find?, hentries, hfound]
    exact ⟨value, entry, hvalue, hstands, hget, by rw [Table.filter_key, hget]; rfl⟩
  · intro k hk
    rw [Table.get?_eq_none_iff, hentries, hkeys, List.mem_eraseDups]
    exact hk

end Tabulates

/-! ## Lookups by tag and name -/

theorem entry?_of_mem {k : String} {entry : Attribute}
    (h : (k, entry) ∈ catalogue.attributes.entries) : catalogue.entry? k = some entry := by
  have hget : catalogue.attributes.get? k = some (k, entry) :=
    (Table.get?_eq_some_iff _).2 ⟨h, rfl⟩
  rw [Catalogue.entry?, hget]
  rfl

theorem entry?_of_not_mem {k : String}
    (h : k ∉ catalogue.attributes.entries.map Prod.fst) : catalogue.entry? k = none := by
  rw [Catalogue.entry?, (Table.get?_eq_none_iff _).2 h]
  rfl

/-- Nothing is listed for the tag alone. -/
theorem attribute?_of_no_own {tag? : Option String} {name : String}
    (h : ∀ tag ∈ tag?, scopedKey tag name ∉ catalogue.attributes.entries.map Prod.fst) :
    catalogue.attribute? tag? name = catalogue.entry? name := by
  cases tag? with
  | none =>
      rfl
  | some tag =>
      rw [attribute?, Option.bind_some, entry?_of_not_mem (h tag rfl), Option.none_or]

/-! ## Both texts -/

/-- What a catalogue has of the members that are written in its two texts. -/
structure Represents (tagMembers attributeMembers : List (String × Json))
    (catalogue : Catalogue) : Prop where
  tags : Tabulates IsTag tagMembers catalogue.tags
  attributes : Tabulates IsAttribute (attributeMembers.filter (·.1 ≠ iconsKey))
    catalogue.attributes
  icons : IconsAfter attributeMembers [] catalogue.icons
  found : ∀ name tag, catalogue.tag? name = some tag ↔
    tag ∈ catalogue.tags.entries ∧ tag.name = name
  own : ∀ tag name entry, (scopedKey tag name, entry) ∈ catalogue.attributes.entries →
    catalogue.attribute? (some tag) name = some entry
  shared : ∀ tag? name entry,
    (∀ tag ∈ tag?, scopedKey tag name ∉ catalogue.attributes.entries.map Prod.fst) →
    (name, entry) ∈ catalogue.attributes.entries → catalogue.attribute? tag? name = some entry
  unknown : ∀ tag? name,
    (∀ tag ∈ tag?, scopedKey tag name ∉ catalogue.attributes.entries.map Prod.fst) →
    name ∉ catalogue.attributes.entries.map Prod.fst → catalogue.attribute? tag? name = none

theorem exists_written_of_members {table : TableName} {text : String}
    {settled : List (String × Json)} (h : members table text = .ok settled) :
    ∃ written, writtenMembers text = .ok written ∧ settled = Data.settle Prod.fst written := by
  rw [members] at h
  split at h
  · next hread =>
      cases h
      exact Json.ofText_eq_object_iff.1 hread
  · simp at h
  · simp at h

/-- A catalogue that could be read says what its texts say. -/
theorem represents_of_ofTexts {tagText attributeText : String} {catalogue : Catalogue}
    (h : ofTexts tagText attributeText = .ok catalogue) :
    ∃ tagMembers attributeMembers, writtenMembers tagText = .ok tagMembers ∧
      writtenMembers attributeText = .ok attributeMembers ∧
      Represents tagMembers attributeMembers catalogue := by
  rcases bind_eq_ok.1 h with ⟨settledTags, htagText, hrest⟩
  rcases bind_eq_ok.1 hrest with ⟨settledAttributes, hattributeText, hloops⟩
  rcases bind_eq_ok.1 hloops with ⟨withTags, htagLoop, hattributeLoop⟩
  rcases exists_written_of_members htagText with ⟨tagMembers, htagMembers, rfl⟩
  rcases exists_written_of_members hattributeText with ⟨attributeMembers, hattributeMembers, rfl⟩
  rcases foldlM_addTag htagLoop with ⟨tags, htags, rfl⟩
  rcases foldlM_addAttribute hattributeLoop with ⟨listed, hlisted, hattributes, hkept, hicons⟩
  have hfiltered : (Data.settle Prod.fst attributeMembers).filter (·.1 ≠ iconsKey) =
      Data.settle Prod.fst (attributeMembers.filter (·.1 ≠ iconsKey)) :=
    (Data.settle_filter (· ≠ iconsKey) attributeMembers).symm
  have hiconsWritten : IconsAfter attributeMembers [] catalogue.icons := by
    rwa [IconsAfter, Json.lastValue?_settle] at hicons
  refine ⟨tagMembers, attributeMembers, htagMembers, hattributeMembers, ?_, ?_, hiconsWritten,
    ?_, ?_, ?_, ?_⟩
  · rw [hkept]
    exact tabulates_putAll (fun member tag htag => htag.name) htags
  · rw [hattributes]
    exact tabulates_putAll (fun member entry hentry => hentry.key) (hfiltered ▸ hlisted)
  · intro name tag
    exact Table.get?_eq_some_iff _
  · intro tag name entry hmem
    rw [attribute?, Option.bind_some, entry?_of_mem hmem, Option.some_or]
  · intro tag? name entry hown hmem
    rw [attribute?_of_no_own hown, entry?_of_mem hmem]
  · intro tag? name hown hname
    rw [attribute?_of_no_own hown, entry?_of_not_mem hname]

/-- Keys that come again, in other places and with other values, the icons among them; fields by
their names, by their other names and as a list. -/
theorem represents_of_repeated_keys :
    ∃ tagMembers attributeMembers,
      writtenMembers
          ("\x7b\"b\": \x7b\"attributes\": [\"z\"]\x7d, \"a\": [[], [\"y\"]], " ++
            "\"b\": \x7b\"description\": \"B\", \"childTags\": [\"a\"], " ++
            "\"defaults\": [\"x\"], \"attributes\": [\"x\", \"y\"]\x7d\x7d") =
        .ok tagMembers ∧
      writtenMembers
          ("\x7b\"icons\": [\"i\"], \"x\": \x7b\"options\": [\"1\"]\x7d, " ++
            "\"a/x\": \x7b\"type\": \" Flag\", \"global\": true\x7d, " ++
            "\"x\": \x7b\"options\": [], \"description\": \"X\"\x7d, " ++
            "\"icons\": [\"j\", \"k\"]\x7d") =
        .ok attributeMembers ∧
      Represents tagMembers attributeMembers
        (.ofLists
          [{ name := "b", childTags := ["a"], defaultAttributes := ["x"], attributes := ["x", "y"],
             description := "B" }, { name := "a", defaultAttributes := ["y"] }]
          [("x", { kind := .enumerated, options := some [], description := "X" }),
            ("a/x", { kind := .flag, isGlobal := true })]
          ["j", "k"]) :=
  represents_of_ofTexts (by decide +kernel)

end Catalogue
end MarkupAssist
