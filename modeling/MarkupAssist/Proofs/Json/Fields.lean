import MarkupAssist.Json.Decode

/-!
# What a record says

What a JSON value says of the fields of a record, told by the value alone: an object gives a field
under one of its names, a list gives it at its place, and a field that is not given has the value of
a blank record. A record is read exactly where each of its fields can be told in this way.

- `SaysText`, `SaysTexts`, … : what single values say
- `valuesOf`                 : the values that are written for a field
- `SaysField`                : what they say, if there is at most one
- `IsRecord`                 : an object, or a list that is not too long
- `says_of_recordValue`      : what has been read is what the value says
- `exists_recordValue`       : what can be told can be read
-/

namespace MarkupAssist
namespace Json

/-! ## Single values -/

def SaysText (value : Json) (s : String) : Prop :=
  value = .text s

def SaysBoolean (value : Json) (b : Bool) : Prop :=
  value = .boolean b

def SaysTexts (value : Json) (texts : List String) : Prop :=
  value = .list (texts.map .text)

/-- `null` says that there is nothing. -/
def SaysOptional {α : Type} (Says : Json → α → Prop) (value : Json) : Option α → Prop
  | none => value = .null
  | some a => value ≠ .null ∧ Says value a

/-! ## Fields -/

/-- The values that are written for a field, under its names or at its place. -/
def valuesOf (names : List String) (place : Nat) : Json → List Json
  | .object members => (members.filter fun member => names.contains member.1).map Prod.snd
  | .list items => items[place]?.toList
  | _ => []

/-- A field is written once, or else it has the value it has when nothing is written. -/
def SaysField {α : Type} (Says : Json → α → Prop) (absent : α) (values : List Json) (a : α) :
    Prop :=
  match values with
  | [] => a = absent
  | [value] => Says value a
  | _ => False

/-- The fields are written by their names, or in their order without names. -/
def IsRecord (size : Nat) : Json → Prop
  | .object _ => True
  | .list items => items.length ≤ size
  | _ => False

theorem SaysField.unique {α : Type} {Says : Json → α → Prop}
    (hSays : ∀ value a b, Says value a → Says value b → a = b) {absent a b : α}
    {values : List Json} (ha : SaysField Says absent values a)
    (hb : SaysField Says absent values b) : a = b := by
  match values, ha, hb with
  | [], ha, hb => exact ha.trans hb.symm
  | [value], ha, hb => exact hSays value a b ha hb

theorem SaysText.unique (value : Json) (a b : String) (ha : SaysText value a)
    (hb : SaysText value b) : a = b :=
  Json.text.inj (ha.symm.trans hb)

theorem SaysBoolean.unique (value : Json) (a b : Bool) (ha : SaysBoolean value a)
    (hb : SaysBoolean value b) : a = b :=
  Json.boolean.inj (ha.symm.trans hb)

theorem SaysTexts.unique (value : Json) (a b : List String) (ha : SaysTexts value a)
    (hb : SaysTexts value b) : a = b := by
  have hitems : a.map Json.text = b.map Json.text := Json.list.inj (ha.symm.trans hb)
  exact (List.map_inj_right fun _ _ => Json.text.inj).1 hitems

theorem SaysOptional.unique {α : Type} {Says : Json → α → Prop}
    (hSays : ∀ value a b, Says value a → Says value b → a = b) (value : Json) (a b : Option α)
    (ha : SaysOptional Says value a) (hb : SaysOptional Says value b) : a = b := by
  cases a with
  | none =>
      cases b with
      | none =>
          rfl
      | some b =>
          exact absurd ha hb.1
  | some a =>
      cases b with
      | none =>
          exact absurd hb ha.1
      | some b =>
          exact congrArg some (hSays value a b ha.2 hb.2)

namespace Decoder

open Data (Draft Mismatch Notation Record Slot)

/-! ## Reading single values -/

theorem textValue_eq_ok {expected s : String} {value : Json} :
    textValue expected value = .ok s ↔ SaysText value s := by
  cases value <;> simp [textValue, wrongType, SaysText]

theorem booleanValue_eq_ok {b : Bool} {value : Json} :
    booleanValue value = .ok b ↔ SaysBoolean value b := by
  cases value <;> simp [booleanValue, wrongType, SaysBoolean]

theorem map_eq_ok {ε α β : Type} {x : Except ε α} {f : α → β} {b : β} :
    f <$> x = .ok b ↔ ∃ a, x = .ok a ∧ f a = b := by
  cases x with
  | ok a =>
      simp [Functor.map, Except.map]
  | error fault =>
      simp [Functor.map, Except.map]

theorem bind_eq_ok {ε α β : Type} {x : Except ε α} {f : α → Except ε β} {b : β} :
    (x >>= f) = .ok b ↔ ∃ a, x = .ok a ∧ f a = .ok b := by
  cases x with
  | ok a =>
      simp [bind, Except.bind]
  | error fault =>
      simp [bind, Except.bind]

theorem mapM_eq_ok {α : Type} {item : Decoder α} {write : α → Json}
    (hitem : ∀ value a, item value = .ok a ↔ value = write a) {items : List Json} {as : List α} :
    List.mapM (m := Except Mismatch) item items = .ok as ↔ items = as.map write := by
  induction items generalizing as with
  | nil =>
      cases as <;> simp [pure, Except.pure]
  | cons first rest ih =>
      rw [List.mapM_cons, bind_eq_ok]
      constructor
      · rintro ⟨a, hfirst, hrest⟩
        obtain ⟨others, hothers, heq⟩ := bind_eq_ok.1 hrest
        cases heq
        rw [List.map_cons, (hitem first a).1 hfirst, ih.1 hothers]
      · intro hitems
        cases as with
        | nil =>
            simp at hitems
        | cons a others =>
            rw [List.map_cons, List.cons.injEq] at hitems
            exact ⟨a, (hitem first a).2 hitems.1, bind_eq_ok.2 ⟨others, ih.2 hitems.2, rfl⟩⟩

theorem textsValue_eq_ok {expected : String} {texts : List String} {value : Json} :
    listValue (textValue expected) value = .ok texts ↔ SaysTexts value texts := by
  cases value with
  | list items =>
      have hitems : List.mapM (m := Except Mismatch) (textValue expected) items = .ok texts ↔
          items = texts.map .text :=
        mapM_eq_ok fun _ _ => textValue_eq_ok
      rw [SaysTexts, Json.list.injEq]
      exact hitems
  | _ =>
      simp [listValue, wrongType, SaysTexts]

theorem optionalValue_eq_ok {α : Type} {item : Decoder α} {Says : Json → α → Prop}
    (hitem : ∀ value a, item value = .ok a ↔ Says value a) {value : Json} {a? : Option α} :
    optionalValue item value = .ok a? ↔ SaysOptional Says value a? := by
  by_cases hnull : value = .null
  · rw [hnull, optionalValue]
    cases a? <;> simp [SaysOptional]
  · have hsome : optionalValue item value = some <$> item value := by
      cases value <;> first | rfl | exact absurd rfl hnull
    rw [hsome, map_eq_ok]
    cases a? with
    | none =>
        simp [SaysOptional, hnull]
    | some a =>
        simp [SaysOptional, hnull, hitem]

/-! ## Slots -/

variable {σ α β : Type}

/-- What a slot reads is what the field then is, and it reads whatever says something. -/
structure Gives (slot : Slot Decoder σ) (get : σ → α) (Says : Json → α → Prop) : Prop where
  told : ∀ value f, slot.read value = .ok f → ∀ s, Says value (get (f s))
  reads : ∀ value a, Says value a → ∃ f, slot.read value = .ok f

/-- The field is none of the slot's concern. -/
def Leaves (slot : Slot Decoder σ) (get : σ → α) : Prop :=
  ∀ value f, slot.read value = .ok f → ∀ s, get (f s) = get s

theorem gives_of_read {slot : Slot Decoder σ} {reader : Decoder α} {put : α → σ → σ}
    {get : σ → α} {Says : Json → α → Prop} (hslot : slot.read = put <$> reader)
    (hreader : ∀ value a, reader value = .ok a ↔ Says value a)
    (hput : ∀ a s, get (put a s) = a) : Gives slot get Says := by
  constructor
  · intro value f hread s
    rw [hslot] at hread
    obtain ⟨a, ha, rfl⟩ := map_eq_ok.1 hread
    rw [hput]
    exact (hreader value a).1 ha
  · intro value a htold
    rw [hslot]
    exact ⟨put a, map_eq_ok.2 ⟨a, (hreader value a).2 htold, rfl⟩⟩

theorem leaves_of_read {slot : Slot Decoder σ} {reader : Decoder β} {put : β → σ → σ}
    {get : σ → α} (hslot : slot.read = put <$> reader) (hput : ∀ b s, get (put b s) = get s) :
    Leaves slot get := by
  intro value f hread s
  rw [hslot] at hread
  obtain ⟨b, _, rfl⟩ := map_eq_ok.1 hread
  exact hput b s

/-! ## Records -/

def slotNames (slot : Slot Decoder σ) : List String :=
  slot.name :: slot.otherNames

/-- No name belongs to two slots. -/
def Distinct (slots : List (Slot Decoder σ)) : Prop :=
  slots.Pairwise fun slot other => ∀ name ∈ slotNames slot, name ∉ slotNames other

theorem isCalled_iff {slot : Slot Decoder σ} {name : String} :
    slot.isCalled name = true ↔ name ∈ slotNames slot := by
  simp only [Slot.isCalled, slotNames, Bool.or_eq_true, beq_iff_eq, List.contains_iff_mem,
    List.mem_cons]
  rw [eq_comm]

variable {record : Record Decoder σ} {slots : List (Slot Decoder σ)} {slot other : Slot Decoder σ}
  {draft after : Draft σ}
  {members : List (String × Json)} {value : Json} {place : Nat}

theorem mem_slots_of_slot? {name : String} (h : record.slot? name = some slot) :
    slot ∈ record.slots ∧ name ∈ slotNames slot := by
  have hcalled : slot.isCalled name = true := by
    have hfound := List.find?_some h
    exact hfound
  exact ⟨List.mem_of_find?_eq_some h, isCalled_iff.1 hcalled⟩

theorem Distinct.eq_of_name (h : Distinct slots) (hslot : slot ∈ slots)
    (hother : other ∈ slots) {name : String} (hname : name ∈ slotNames slot)
    (hsame : name ∈ slotNames other) : other = slot := by
  obtain ⟨front, back, hslots⟩ := List.mem_iff_append.1 hslot
  rw [Distinct, hslots] at h
  rw [hslots] at hother
  obtain ⟨_, hback, hfront⟩ := List.pairwise_append.1 h
  rcases List.mem_append.1 hother with hother | hother
  · exact absurd hname (hfront other hother slot List.mem_cons_self name hsame)
  · rcases List.mem_cons.1 hother with rfl | hother
    · rfl
    · exact absurd hsame ((List.pairwise_cons.1 hback).1 other hother name hname)

theorem slot?_eq_some (h : Distinct record.slots) (hslot : slot ∈ record.slots) {name : String}
    (hname : name ∈ slotNames slot) : record.slot? name = some slot := by
  cases hfound : record.slot? name with
  | none =>
      exact absurd (isCalled_iff.2 hname) (List.find?_eq_none.1 hfound slot hslot)
  | some other =>
      obtain ⟨hother, hsame⟩ := mem_slots_of_slot? hfound
      rw [h.eq_of_name hslot hother hname hsame]

theorem has_fill {f : σ → σ} :
    (draft.fill slot f).has other = (other.name == slot.name || draft.has other) := by
  rw [Draft.has, Draft.fill, List.contains_cons, Draft.has]

theorem valuesOf_cons_of_mem {names : List String} {member : String × Json}
    (h : member.1 ∈ names) :
    valuesOf names place (.object (member :: members)) =
      member.2 :: valuesOf names place (.object members) := by
  simp [valuesOf, h]

theorem valuesOf_cons_of_not_mem {names : List String} {member : String × Json}
    (h : member.1 ∉ names) :
    valuesOf names place (.object (member :: members)) =
      valuesOf names place (.object members) := by
  simp [valuesOf, h]

/-- One member fills the slot that it is called after, and leaves the others as they are. -/
theorem field_eq_ok (hdistinct : Distinct record.slots) (hslot : slot ∈ record.slots)
    {get : σ → α} {Says : Json → α → Prop} (hgives : Gives slot get Says)
    (hleaves : ∀ other ∈ record.slots, slot.name ∉ slotNames other → Leaves other get)
    {member : String × Json} (h : field record draft member = .ok after) :
    (member.1 ∈ slotNames slot ∧ draft.has slot = false ∧ after.has slot = true ∧
        Says member.2 (get after.record)) ∨
      (member.1 ∉ slotNames slot ∧ after.has slot = draft.has slot ∧
        get after.record = get draft.record) := by
  by_cases hname : member.1 ∈ slotNames slot
  · rw [field, slot?_eq_some hdistinct hslot hname] at h
    cases hhas : draft.has slot with
    | true =>
        simp [hhas] at h
    | false =>
        simp only [hhas, Bool.false_eq_true, if_false] at h
        obtain ⟨f, hread, rfl⟩ := map_eq_ok.1 h
        exact .inl ⟨hname, rfl, by simp [has_fill], hgives.told _ f hread _⟩
  · refine .inr ⟨hname, ?_⟩
    rw [field] at h
    split at h
    · cases h
      exact ⟨rfl, rfl⟩
    · next other hfound =>
        obtain ⟨hother, hcalled⟩ := mem_slots_of_slot? hfound
        -- the slot that is filled is another one, as it has another name
        have hapart : slot.name ∉ slotNames other := by
          intro hsame
          obtain rfl := hdistinct.eq_of_name hslot hother List.mem_cons_self hsame
          exact hname hcalled
        split at h
        · cases h
        · obtain ⟨f, hread, rfl⟩ := map_eq_ok.1 h
          refine ⟨?_, hleaves other hother hapart _ f hread _⟩
          have hne : slot.name ≠ other.name := by
            intro heq
            exact hapart (heq ▸ List.mem_cons_self)
          rw [has_fill, beq_false_of_ne hne, Bool.false_or]

theorem says_of_foldlM (hdistinct : Distinct record.slots) (hslot : slot ∈ record.slots)
    {get : σ → α} {Says : Json → α → Prop} (hgives : Gives slot get Says)
    (hleaves : ∀ other ∈ record.slots, slot.name ∉ slotNames other → Leaves other get)
    (h : members.foldlM (field record) draft = .ok after) :
    (draft.has slot = true → valuesOf (slotNames slot) place (.object members) = [] ∧
      get after.record = get draft.record) ∧
    (draft.has slot = false → SaysField Says (get draft.record)
      (valuesOf (slotNames slot) place (.object members)) (get after.record)) := by
  -- a slot that is filled stays as it is; a free one waits for the one member that is called after
  -- it, so both are carried along the members
  induction members generalizing draft with
  | nil =>
      cases h
      exact ⟨fun _ => ⟨rfl, rfl⟩, fun _ => rfl⟩
  | cons member rest ih =>
      rw [List.foldlM_cons] at h
      obtain ⟨between, hfirst, hrest⟩ := bind_eq_ok.1 h
      obtain ⟨hfilled, hfree⟩ := ih hrest
      rcases field_eq_ok hdistinct hslot hgives hleaves hfirst with
        ⟨hname, hhas, hafter, htold⟩ | ⟨hname, hhas, hget⟩
      · obtain ⟨hnone, hkept⟩ := hfilled hafter
        refine ⟨fun hbefore => absurd (hhas.symm.trans hbefore) Bool.false_ne_true, fun _ => ?_⟩
        rw [valuesOf_cons_of_mem hname, hnone, SaysField, hkept]
        exact htold
      · rw [valuesOf_cons_of_not_mem hname, ← hhas, ← hget]
        exact ⟨hfilled, hfree⟩

theorem inOrder_cons_eq_ok {item : Json} {items left : List Json} {index : Nat} {s s' : σ} :
    inOrder record index (slot :: slots) (item :: items) s = .ok (s', left) ↔
      ∃ f, slot.read item = .ok f ∧ inOrder record (index + 1) slots items (f s) = .ok (s', left) :=
  bind_eq_ok

/-- Where the items end the rest of the slots is left as it is. -/
theorem inOrder_nil_eq_ok {left : List Json} {index : Nat} {s s' : σ}
    (h : inOrder record index slots [] s = .ok (s', left)) : s' = s ∧ left = [] := by
  induction slots generalizing index with
  | nil =>
      cases h
      exact ⟨rfl, rfl⟩
  | cons slot rest ih =>
      rw [inOrder] at h
      split at h
      · exact ih h
      · cases h

theorem left_of_inOrder {items left : List Json} {index : Nat} {s s' : σ}
    (h : inOrder record index slots items s = .ok (s', left)) :
    left = items.drop slots.length := by
  induction slots generalizing index items s with
  | nil =>
      cases h
      rfl
  | cons slot rest ih =>
      cases items with
      | nil =>
          exact (inOrder_nil_eq_ok h).2
      | cons item items =>
          obtain ⟨f, _, hrest⟩ := inOrder_cons_eq_ok.1 h
          exact ih hrest

theorem get_of_inOrder {items left : List Json} {index : Nat} {s s' : σ} {get : σ → α}
    (hleaves : ∀ other ∈ slots, Leaves other get)
    (h : inOrder record index slots items s = .ok (s', left)) : get s' = get s := by
  induction slots generalizing index items s with
  | nil =>
      cases h
      rfl
  | cons slot rest ih =>
      cases items with
      | nil =>
          rw [(inOrder_nil_eq_ok h).1]
      | cons item items =>
          obtain ⟨f, hread, hrest⟩ := inOrder_cons_eq_ok.1 h
          rw [ih (fun other hother => hleaves other (List.mem_cons_of_mem _ hother)) hrest]
          exact hleaves slot List.mem_cons_self item f hread s

theorem says_of_inOrder {items left : List Json} {index : Nat} {s s' : σ} {get : σ → α}
    {Says : Json → α → Prop} (hdistinct : Distinct slots) (hslot : slots[place]? = some slot)
    (hgives : Gives slot get Says)
    (hleaves : ∀ other ∈ slots, slot.name ∉ slotNames other → Leaves other get)
    (h : inOrder record index slots items s = .ok (s', left)) :
    SaysField Says (get s) items[place]?.toList (get s') := by
  induction slots generalizing place index items s with
  | nil =>
      simp at hslot
  | cons first rest ih =>
      obtain ⟨hfirst, hrest⟩ := List.pairwise_cons.1 hdistinct
      cases items with
      | nil =>
          simp [SaysField, (inOrder_nil_eq_ok h).1]
      | cons item items =>
          obtain ⟨f, hread, hbehind⟩ := inOrder_cons_eq_ok.1 h
          cases place with
          | zero =>
              obtain rfl : first = slot := by
                simpa using hslot
              -- the slots behind leave the field as it has been read
              have hkept : get s' = get (f s) := by
                refine get_of_inOrder (fun other hother => ?_) hbehind
                exact hleaves other (List.mem_cons_of_mem _ hother)
                  (hfirst other hother _ List.mem_cons_self)
              rw [hkept]
              exact hgives.told item f hread s
          | succ place =>
              -- the first slot is another one, and the field is still as it was behind it
              have hslot' : rest[place]? = some slot := by
                simpa using hslot
              have hapart : slot.name ∉ slotNames first := fun hname =>
                hfirst slot (List.mem_of_getElem? hslot') _ hname List.mem_cons_self
              have hkept : get (f s) = get s :=
                hleaves first List.mem_cons_self hapart item f hread s
              have htold := ih hrest hslot'
                (fun other hother => hleaves other (List.mem_cons_of_mem _ hother)) hbehind
              rw [hkept] at htold
              exact htold

theorem eq_record_of_finish {s : σ} (h : record.finish draft = .ok s) : s = draft.record := by
  rw [Record.finish] at h
  split at h
  · cases h
  · exact (Except.ok.inj h).symm

theorem recordValue_list_eq_ok {items : List Json} {s : σ} :
    recordValue record (.list items) = .ok s ↔
      inOrder record 0 record.slots items record.blank = .ok (s, []) := by
  constructor
  · intro h
    obtain ⟨⟨s', left⟩, hread, hend⟩ := bind_eq_ok.1 h
    cases left with
    | nil =>
        cases hend
        exact hread
    | cons item left =>
        cases hend
  · intro h
    exact bind_eq_ok.2 ⟨(s, []), h, rfl⟩

/-- The slot at a place is the one that is concerned with a field. -/
structure IsField (record : Record Decoder σ) (place : Nat) (names : List String) (get : σ → α)
    (Says : Json → α → Prop) : Prop where
  placed : ∃ slot, record.slots[place]? = some slot ∧ slotNames slot = names ∧ Gives slot get Says
  apart : ∀ (i : Nat) (other : Slot Decoder σ), record.slots[i]? = some other → i ≠ place →
    Leaves other get

/-- A record that has been read is what its value says, field by field. -/
theorem says_of_recordValue {names : List String} {get : σ → α} {Says : Json → α → Prop} {s : σ}
    (hdistinct : Distinct record.slots) (hfield : IsField record place names get Says)
    (h : recordValue record value = .ok s) :
    SaysField Says (get record.blank) (valuesOf names place value) (get s) := by
  obtain ⟨slot, hslot, rfl, hgives⟩ := hfield.placed
  have hleaves : ∀ other ∈ record.slots, slot.name ∉ slotNames other → Leaves other get := by
    intro other hother hapart
    obtain ⟨i, hi⟩ := List.mem_iff_getElem?.1 hother
    refine hfield.apart i other hi ?_
    rintro rfl
    obtain rfl : slot = other := Option.some.inj (hslot.symm.trans hi)
    exact hapart List.mem_cons_self
  cases value with
  | object members =>
      obtain ⟨draft, hdraft, hfinish⟩ := bind_eq_ok.1 h
      obtain ⟨_, htold⟩ := says_of_foldlM hdistinct (List.mem_of_getElem? hslot) hgives
        hleaves hdraft
      rw [eq_record_of_finish hfinish]
      exact htold rfl
  | list items =>
      exact says_of_inOrder hdistinct hslot hgives hleaves (recordValue_list_eq_ok.1 h)
  | _ =>
      cases h

theorem isRecord_of_recordValue {s : σ} (h : recordValue record value = .ok s) :
    IsRecord record.slots.length value := by
  cases value with
  | object members =>
      trivial
  | list items =>
      have hleft := left_of_inOrder (recordValue_list_eq_ok.1 h)
      exact List.drop_eq_nil_iff.1 hleft.symm
  | _ =>
      cases h

/-! ## Values that can be read -/

/-- The slot is written at most once, and what is written can be read. -/
def Fits (slot : Slot Decoder σ) (values : List Json) : Prop :=
  values = [] ∨ ∃ value f, values = [value] ∧ slot.read value = .ok f

theorem Gives.fits {get : σ → α} {Says : Json → α → Prop} (h : Gives slot get Says)
    {absent a : α} {values : List Json} (htold : SaysField Says absent values a) :
    Fits slot values := by
  match values, htold with
  | [], _ =>
      exact .inl rfl
  | [value], htold =>
      obtain ⟨f, hread⟩ := h.reads value a htold
      exact .inr ⟨value, f, rfl, hread⟩

theorem fits_of_cons {member : String × Json}
    (h : Fits slot (valuesOf (slotNames slot) place (.object (member :: members)))) :
    (member.1 ∈ slotNames slot → valuesOf (slotNames slot) place (.object members) = [] ∧
      ∃ f, slot.read member.2 = .ok f) ∧
    Fits slot (valuesOf (slotNames slot) place (.object members)) := by
  by_cases hname : member.1 ∈ slotNames slot
  · rw [valuesOf_cons_of_mem hname] at h
    rcases h with hnone | ⟨value, f, hvalues, hread⟩
    · cases hnone
    · obtain ⟨rfl, hrest⟩ := List.cons.inj hvalues
      exact ⟨fun _ => ⟨hrest, f, hread⟩, .inl hrest⟩
  · rw [valuesOf_cons_of_not_mem hname] at h
    exact ⟨fun hmem => absurd hmem hname, h⟩

theorem IsField.fits {names : List String} {get : σ → α} {Says : Json → α → Prop}
    (h : IsField record place names get Says) {absent a : α}
    (htold : SaysField Says absent (valuesOf names place value) a)
    (hslot : record.slots[place]? = some slot) :
    Fits slot (valuesOf (slotNames slot) place value) := by
  obtain ⟨other, hother, rfl, hgives⟩ := h.placed
  obtain rfl : other = slot := Option.some.inj (hother.symm.trans hslot)
  exact hgives.fits htold

theorem field_of_free {member : String × Json} {f : σ → σ}
    (hslot : record.slot? member.1 = some slot) (hfree : draft.has slot = false)
    (hread : slot.read member.2 = .ok f) :
    field record draft member = .ok (draft.fill slot f) := by
  rw [field, hslot]
  simp only [hfree, Bool.false_eq_true, if_false]
  exact map_eq_ok.2 ⟨f, hread, rfl⟩

/-- Members are read one after the other, as long as none comes for a slot that is filled. -/
theorem exists_foldlM_field (draft : Draft σ) (hdistinct : Distinct record.slots)
    (hfilled : ∀ slot ∈ record.slots, draft.has slot = true →
      valuesOf (slotNames slot) place (.object members) = [])
    (hfits : ∀ slot ∈ record.slots,
      Fits slot (valuesOf (slotNames slot) place (.object members))) :
    ∃ after, members.foldlM (field record) draft = .ok after := by
  -- what is carried along is that nothing is left to be written for a slot that is filled
  induction members generalizing draft with
  | nil =>
      exact ⟨draft, rfl⟩
  | cons member rest ih =>
      have hrest : ∀ slot ∈ record.slots,
          Fits slot (valuesOf (slotNames slot) place (.object rest)) :=
        fun slot hslot => (fits_of_cons (hfits slot hslot)).2
      have hstill : ∀ slot ∈ record.slots, draft.has slot = true →
          valuesOf (slotNames slot) place (.object rest) = [] := by
        intro slot hslot hhas
        have hnone := hfilled slot hslot hhas
        by_cases hname : member.1 ∈ slotNames slot
        · rw [valuesOf_cons_of_mem hname] at hnone
          cases hnone
        · rwa [valuesOf_cons_of_not_mem hname] at hnone
      rw [List.foldlM_cons]
      cases hfound : record.slot? member.1 with
      | none =>
          obtain ⟨after, hafter⟩ := ih draft hstill hrest
          exact ⟨after, bind_eq_ok.2 ⟨draft, by rw [field, hfound], hafter⟩⟩
      | some filled =>
          obtain ⟨hslot, hname⟩ := mem_slots_of_slot? hfound
          obtain ⟨hlast, f, hread⟩ := (fits_of_cons (hfits filled hslot)).1 hname
          have hfree : draft.has filled = false := by
            cases hhas : draft.has filled with
            | false =>
                rfl
            | true =>
                have hnone := hfilled filled hslot hhas
                rw [valuesOf_cons_of_mem hname] at hnone
                cases hnone
          have hnext : ∀ slot ∈ record.slots, (draft.fill filled f).has slot = true →
              valuesOf (slotNames slot) place (.object rest) = [] := by
            intro slot hslot' hhas
            rw [has_fill, Bool.or_eq_true, beq_iff_eq] at hhas
            rcases hhas with hsame | hhas
            · obtain rfl := hdistinct.eq_of_name hslot hslot' List.mem_cons_self
                (hsame ▸ List.mem_cons_self)
              exact hlast
            · exact hstill slot hslot' hhas
          obtain ⟨after, hafter⟩ := ih _ hnext hrest
          exact ⟨after, bind_eq_ok.2 ⟨_, field_of_free hfound hfree hread, hafter⟩⟩

theorem exists_inOrder (record : Record Decoder σ) (items : List Json) (index : Nat) (s : σ)
    (hneed : ∀ slot ∈ slots, slot.need = .never)
    (hfits : ∀ (i : Nat) (slot : Slot Decoder σ), slots[i]? = some slot →
      Fits slot items[i]?.toList) :
    ∃ s', inOrder record index slots items s = .ok (s', items.drop slots.length) := by
  induction slots generalizing items index s with
  | nil =>
      exact ⟨s, rfl⟩
  | cons slot rest ih =>
      have hneed' : ∀ slot ∈ rest, slot.need = .never :=
        fun slot hslot => hneed slot (List.mem_cons_of_mem _ hslot)
      cases items with
      | nil =>
          obtain ⟨s', hrest⟩ := ih [] (index + 1) s hneed' fun _ _ _ => .inl rfl
          rw [List.drop_nil] at hrest
          exact ⟨s', by rw [inOrder, if_pos (hneed slot List.mem_cons_self), hrest, List.drop_nil]⟩
      | cons item items =>
          obtain hnone | ⟨value, f, hvalue, hread⟩ := hfits 0 slot rfl
          · cases hnone
          · obtain rfl : item = value := List.head_eq_of_cons_eq hvalue
            obtain ⟨s', hrest⟩ := ih items (index + 1) (f s) hneed'
              fun i other hother => hfits (i + 1) other hother
            exact ⟨s', inOrder_cons_eq_ok.2 ⟨f, hread, hrest⟩⟩

theorem exists_recordValue (hdistinct : Distinct record.slots)
    (hneed : ∀ slot ∈ record.slots, slot.need = .never)
    (hrecord : IsRecord record.slots.length value)
    (hfits : ∀ place slot, record.slots[place]? = some slot →
      Fits slot (valuesOf (slotNames slot) place value)) :
    ∃ s, recordValue record value = .ok s := by
  have hall : ∀ slot ∈ record.slots, ∃ place : Nat, record.slots[place]? = some slot :=
    fun slot hslot => List.mem_iff_getElem?.1 hslot
  cases value with
  | object members =>
      have hmembers : ∀ slot ∈ record.slots,
          Fits slot (valuesOf (slotNames slot) 0 (.object members)) := by
        intro slot hslot
        obtain ⟨place, hplace⟩ := hall slot hslot
        exact hfits place slot hplace
      obtain ⟨draft, hdraft⟩ := exists_foldlM_field record.start hdistinct
        (fun _ _ hhas => absurd hhas Bool.false_ne_true) hmembers
      refine ⟨draft.record, bind_eq_ok.2 ⟨draft, hdraft, ?_⟩⟩
      have hcomplete : (record.slots.find? fun slot => slot.need == .always && !draft.has slot) =
          none := by
        rw [List.find?_eq_none]
        intro slot hslot
        simp [hneed slot hslot]
      rw [Record.finish, hcomplete]
  | list items =>
      obtain ⟨s, hread⟩ := exists_inOrder record items 0 record.blank hneed hfits
      have hend : items.drop record.slots.length = [] := List.drop_of_length_le hrecord
      rw [hend] at hread
      exact ⟨s, recordValue_list_eq_ok.2 hread⟩
  | _ =>
      cases hrecord

end Decoder
end Json
end MarkupAssist
