import MarkupAssist.Catalogue.Tables
import MarkupAssist.Proofs.Json.Fields

/-!
# What an entry of a table says

What a member of one of the tables stands for, field by field: under which names a field is
written, or at which place of a list, which values say something about it, and what it is where
nothing is written. Members are read exactly as this says.

- `IsTag`, `IsAttribute`, `IsIcons`                   : what a single member stands for
- `isTag_iff`, `isAttribute_iff`, `isIcons_iff`       : that is what is read
-/

namespace MarkupAssist
namespace Catalogue

open Data (Notation Record Slot)
open Json (Decoder IsRecord SaysBoolean SaysField SaysOptional SaysText SaysTexts valuesOf)
open Json.Decoder

/-! ## Kinds of attributes -/

/-- The names of a kind. -/
def AttributeKind.names : AttributeKind → List String
  | .flag => ["flag"]
  | .method => ["method"]
  | .boolean => ["boolean"]
  | .icon => ["icon"]
  | .shortcutIcon => ["shortcut-icon"]
  | .enumerated => ["enum", "enumerated"]
  | .freeText => []

/-- Without white space around it, and in lower case, a name is one of the kind's own; a name that
belongs to no kind is free text. -/
def AttributeKind.IsCalled (kind : AttributeKind) (name : String) : Prop :=
  let spelled := (String.ofList (Text.trim name.toList)).toLower
  spelled ∈ kind.names ∨ kind = .freeText ∧ ∀ other : AttributeKind, spelled ∉ other.names

theorem AttributeKind.isCalled_ofText (name : String) :
    (AttributeKind.ofText name).IsCalled name := by
  rw [AttributeKind.IsCalled, AttributeKind.ofText]
  generalize (String.ofList (Text.trim name.toList)).toLower = spelled
  split
  case h_8 hflag hmethod hboolean hicon hshortcut henum henumerated =>
    refine .inr ⟨rfl, ?_⟩
    intro other
    cases other <;> simp_all [AttributeKind.names]
  all_goals
    exact .inl (by simp [AttributeKind.names])

theorem AttributeKind.IsCalled.unique {kind other : AttributeKind} {name : String}
    (h : kind.IsCalled name) (hother : other.IsCalled name) : kind = other := by
  rw [AttributeKind.IsCalled] at h hother
  rcases h with hname | ⟨rfl, hnone⟩
  · rcases hother with hsame | ⟨rfl, hnone⟩
    · cases kind <;> cases other <;> grind [AttributeKind.names]
    · exact absurd hname (hnone kind)
  · rcases hother with hsame | ⟨rfl, _⟩
    · exact absurd hsame (hnone other)
    · rfl

def SaysKind (value : Json) (kind : AttributeKind) : Prop :=
  ∃ name, SaysText value name ∧ kind.IsCalled name

theorem SaysKind.unique (value : Json) (a b : AttributeKind) (ha : SaysKind value a)
    (hb : SaysKind value b) : a = b := by
  obtain ⟨name, hname, ha⟩ := ha
  obtain ⟨same, hsame, hb⟩ := hb
  obtain rfl := hname.unique value _ _ hsame
  exact ha.unique hb

/-! ## Tags -/

/-- A tag has the name it is listed under. -/
structure IsTag (member : String × Json) (tag : Tag) : Prop where
  record : IsRecord 4 member.2
  name : tag.name = member.1
  childTags : SaysField SaysTexts [] (valuesOf ["subtags", "childTags"] 0 member.2) tag.childTags
  defaultAttributes : SaysField SaysTexts []
    (valuesOf ["defaults", "defaultAttributes"] 1 member.2) tag.defaultAttributes
  attributes : SaysField SaysTexts [] (valuesOf ["attributes"] 2 member.2) tag.attributes
  description : SaysField SaysText "" (valuesOf ["description"] 3 member.2) tag.description

theorem IsTag.unique {member : String × Json} {tag other : Tag} (h : IsTag member tag)
    (hother : IsTag member other) : tag = other := by
  have hname : tag.name = other.name := h.name.trans hother.name.symm
  have hchildren := h.childTags.unique SaysTexts.unique hother.childTags
  have hdefaults := h.defaultAttributes.unique SaysTexts.unique hother.defaultAttributes
  have hattributes := h.attributes.unique SaysTexts.unique hother.attributes
  have hdescription := h.description.unique SaysText.unique hother.description
  cases tag
  cases other
  simp_all

section Tags

variable {member : String × Json} {tag : Tag}

def tagRecord : Record Decoder Tag :=
  Tag.entry

theorem distinct_tagRecord : Distinct tagRecord.slots := by
  simp [Distinct, tagRecord, Tag.entry, slotNames, Slot.texts, Slot.text, Slot.called]

theorem isField_tagRecord :
    IsField tagRecord 0 ["subtags", "childTags"] Tag.childTags SaysTexts ∧
    IsField tagRecord 1 ["defaults", "defaultAttributes"] Tag.defaultAttributes SaysTexts ∧
    IsField tagRecord 2 ["attributes"] Tag.attributes SaysTexts ∧
    IsField tagRecord 3 ["description"] Tag.description SaysText := by
  refine ⟨⟨?children, ?_⟩, ⟨?defaults, ?_⟩, ⟨?attributes, ?_⟩, ⟨?description, ?_⟩⟩
  case children =>
    exact ⟨_, rfl, rfl, gives_of_read rfl (fun _ _ => textsValue_eq_ok) fun _ _ => rfl⟩
  case defaults =>
    exact ⟨_, rfl, rfl, gives_of_read rfl (fun _ _ => textsValue_eq_ok) fun _ _ => rfl⟩
  case attributes =>
    exact ⟨_, rfl, rfl, gives_of_read rfl (fun _ _ => textsValue_eq_ok) fun _ _ => rfl⟩
  case description =>
    exact ⟨_, rfl, rfl, gives_of_read rfl (fun _ _ => textValue_eq_ok) fun _ _ => rfl⟩
  -- a slot is its own field's or leaves it as it is
  all_goals
    rintro (_ | _ | _ | _ | i) other ⟨⟩ hplace
    all_goals first
      | exact absurd rfl hplace
      | exact leaves_of_read rfl fun _ _ => rfl

theorem isTag_of_read {entry : Tag} (h : recordValue tagRecord member.2 = .ok entry) :
    IsTag member { entry with name := member.1 } := by
  obtain ⟨hchildren, hdefaults, hattributes, hdescription⟩ := isField_tagRecord
  have hsaysChildren := says_of_recordValue distinct_tagRecord hchildren h
  have hsaysDefaults := says_of_recordValue distinct_tagRecord hdefaults h
  have hsaysAttributes := says_of_recordValue distinct_tagRecord hattributes h
  have hsaysDescription := says_of_recordValue distinct_tagRecord hdescription h
  exact ⟨isRecord_of_recordValue h, rfl, hsaysChildren, hsaysDefaults, hsaysAttributes,
    hsaysDescription⟩

/-- The members that stand for a tag are those that are read as one. -/
theorem isTag_iff : IsTag member tag ↔
    ∃ entry, (Notation.record Tag.entry : Decoder Tag) member.2 = .ok entry ∧
      tag = { entry with name := member.1 } := by
  constructor
  · intro h
    obtain ⟨hchildren, hdefaults, hattributes, hdescription⟩ := isField_tagRecord
    have hneed : ∀ slot ∈ tagRecord.slots, slot.need = .never := by
      simp [tagRecord, Tag.entry, Slot.texts, Slot.text, Slot.called]
    have hread : ∃ entry, recordValue tagRecord member.2 = .ok entry := by
      refine exists_recordValue distinct_tagRecord hneed h.record ?_
      rintro (_ | _ | _ | _ | i) slot hslot
      · exact hchildren.fits h.childTags hslot
      · exact hdefaults.fits h.defaultAttributes hslot
      · exact hattributes.fits h.attributes hslot
      · exact hdescription.fits h.description hslot
      · cases hslot
    obtain ⟨entry, hentry⟩ := hread
    exact ⟨entry, hentry, h.unique (isTag_of_read hentry)⟩
  · rintro ⟨entry, hentry, rfl⟩
    exact isTag_of_read hentry

end Tags

/-! ## Attributes -/

/-- An attribute with options is enumerated unless it is of another kind. -/
structure IsAttribute (member : String × Json) (listed : String × Attribute) : Prop where
  record : IsRecord 4 member.2
  key : listed.1 = member.1
  kind : ∃ kind, SaysField SaysKind .freeText (valuesOf ["type"] 0 member.2) kind ∧
    listed.2.kind = if kind = .freeText ∧ listed.2.options.isSome then .enumerated else kind
  options : SaysField (SaysOptional SaysTexts) none (valuesOf ["options"] 1 member.2)
    listed.2.options
  description : SaysField SaysText "" (valuesOf ["description"] 2 member.2) listed.2.description
  isGlobal : SaysField SaysBoolean false (valuesOf ["global"] 3 member.2) listed.2.isGlobal

theorem IsAttribute.unique {member : String × Json} {listed other : String × Attribute}
    (h : IsAttribute member listed) (hother : IsAttribute member other) : listed = other := by
  have hkey : listed.1 = other.1 := h.key.trans hother.key.symm
  have hoptions := h.options.unique (SaysOptional.unique SaysTexts.unique) hother.options
  have hdescription := h.description.unique SaysText.unique hother.description
  have hglobal := h.isGlobal.unique SaysBoolean.unique hother.isGlobal
  have hkind : listed.2.kind = other.2.kind := by
    obtain ⟨kind, htold, hlisted⟩ := h.kind
    obtain ⟨same, hsame, hothers⟩ := hother.kind
    obtain rfl := htold.unique SaysKind.unique hsame
    rw [hlisted, hothers, hoptions]
  obtain ⟨key, entry⟩ := listed
  obtain ⟨otherKey, otherEntry⟩ := other
  cases entry
  cases otherEntry
  simp_all

section Attributes

variable {member : String × Json} {listed : String × Attribute}

def attributeRecord : Record Decoder Attribute :=
  Attribute.entry

theorem distinct_attributeRecord : Distinct attributeRecord.slots := by
  simp [Distinct, attributeRecord, Attribute.entry, slotNames, Slot.text, Slot.boolean]

theorem gives_kind : Gives (Slot.text "type" fun name a => { a with kind := .ofText name })
    Attribute.kind SaysKind := by
  constructor
  · intro value f hread s
    obtain ⟨name, hname, rfl⟩ := map_eq_ok.1 hread
    exact ⟨name, textValue_eq_ok.1 hname, AttributeKind.isCalled_ofText name⟩
  · rintro value kind ⟨name, hname, _⟩
    exact ⟨_, map_eq_ok.2 ⟨name, textValue_eq_ok.2 hname, rfl⟩⟩

theorem isField_attributeRecord :
    IsField attributeRecord 0 ["type"] Attribute.kind SaysKind ∧
    IsField attributeRecord 1 ["options"] Attribute.options (SaysOptional SaysTexts) ∧
    IsField attributeRecord 2 ["description"] Attribute.description SaysText ∧
    IsField attributeRecord 3 ["global"] Attribute.isGlobal SaysBoolean := by
  refine ⟨⟨?kind, ?_⟩, ⟨?options, ?_⟩, ⟨?description, ?_⟩, ⟨?isGlobal, ?_⟩⟩
  case kind =>
    exact ⟨_, rfl, rfl, gives_kind⟩
  case options =>
    exact ⟨_, rfl, rfl, gives_of_read rfl
      (fun _ _ => optionalValue_eq_ok fun _ _ => textsValue_eq_ok) fun _ _ => rfl⟩
  case description =>
    exact ⟨_, rfl, rfl, gives_of_read rfl (fun _ _ => textValue_eq_ok) fun _ _ => rfl⟩
  case isGlobal =>
    exact ⟨_, rfl, rfl, gives_of_read rfl (fun _ _ => booleanValue_eq_ok) fun _ _ => rfl⟩
  all_goals
    rintro (_ | _ | _ | _ | i) other ⟨⟩ hplace
    all_goals first
      | exact absurd rfl hplace
      | exact leaves_of_read rfl fun _ _ => rfl

theorem isAttribute_of_read {entry : Attribute}
    (h : recordValue attributeRecord member.2 = .ok entry) :
    IsAttribute member (member.1, entry.normalized) := by
  obtain ⟨hkind, hoptions, hdescription, hglobal⟩ := isField_attributeRecord
  have hsaysKind := says_of_recordValue distinct_attributeRecord hkind h
  have hsaysOptions := says_of_recordValue distinct_attributeRecord hoptions h
  have hsaysDescription := says_of_recordValue distinct_attributeRecord hdescription h
  have hsaysGlobal := says_of_recordValue distinct_attributeRecord hglobal h
  have hfields : entry.normalized.options = entry.options ∧
      entry.normalized.description = entry.description ∧
      entry.normalized.isGlobal = entry.isGlobal ∧ entry.normalized.kind =
        if entry.kind = .freeText ∧ entry.options.isSome then .enumerated else entry.kind := by
    by_cases henumerated : entry.kind = .freeText ∧ entry.options.isSome
    · simp [Attribute.normalized, henumerated]
    · simp [Attribute.normalized, henumerated]
  obtain ⟨hsameOptions, hsameDescription, hsameGlobal, hnormal⟩ := hfields
  refine ⟨isRecord_of_recordValue h, rfl, ⟨entry.kind, hsaysKind, ?_⟩, ?_, ?_, ?_⟩
  · rw [hsameOptions, hnormal]
  · rw [hsameOptions]
    exact hsaysOptions
  · rw [hsameDescription]
    exact hsaysDescription
  · rw [hsameGlobal]
    exact hsaysGlobal

/-- The members that stand for an attribute are those that are read as one. -/
theorem isAttribute_iff : IsAttribute member listed ↔
    ∃ entry, (Notation.record Attribute.entry : Decoder Attribute) member.2 = .ok entry ∧
      listed = (member.1, entry.normalized) := by
  constructor
  · intro h
    obtain ⟨hkind, hoptions, hdescription, hglobal⟩ := isField_attributeRecord
    have hneed : ∀ slot ∈ attributeRecord.slots, slot.need = .never := by
      simp [attributeRecord, Attribute.entry, Slot.text, Slot.boolean]
    have hread : ∃ entry, recordValue attributeRecord member.2 = .ok entry := by
      refine exists_recordValue distinct_attributeRecord hneed h.record ?_
      rintro (_ | _ | _ | _ | i) slot hslot
      · obtain ⟨kind, htold, _⟩ := h.kind
        exact hkind.fits htold hslot
      · exact hoptions.fits h.options hslot
      · exact hdescription.fits h.description hslot
      · exact hglobal.fits h.isGlobal hslot
      · cases hslot
    obtain ⟨entry, hentry⟩ := hread
    exact ⟨entry, hentry, h.unique (isAttribute_of_read hentry)⟩
  · rintro ⟨entry, hentry, rfl⟩
    exact isAttribute_of_read hentry

end Attributes

/-! ## Icons -/

def IsIcons (value : Json) (icons : List String) : Prop :=
  SaysTexts value icons

theorem isIcons_iff {value : Json} {icons : List String} : IsIcons value icons ↔
    (Notation.list (Notation.text "a string") : Decoder (List String)) value = .ok icons :=
  textsValue_eq_ok.symm

end Catalogue
end MarkupAssist
