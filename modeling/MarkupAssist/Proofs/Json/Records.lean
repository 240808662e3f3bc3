import MarkupAssist.Json.Record
import MarkupAssist.Proofs.Json.Reading

/-!
# Reading records that are written

A record that has been written as an object is read back, and so is a list of them, on one
line as well as over several.

- `Reader.Reads`       : a reader gives `a` for a value, however it is laid out
- `Reader.Fills`       : members of an object fill the slots of a record
- `reads_recordValue`  : the record of the members that fill it
- `reads_listValue`    : the list of records of a list of objects
-/

namespace MarkupAssist
namespace Json

/-! ## Layouts -/

theorem Layout.isBlank_of_mem_newline {layout : Layout} {c : Char} (h : c ∈ layout.newline) :
    isBlank c = true := by
  cases layout with
  | compact =>
      simp [newline] at h
  | indented depth =>
      simp only [newline, List.mem_cons, List.mem_replicate] at h
      rcases h with rfl | ⟨_, rfl⟩ <;> decide

theorem Layout.isBlank_of_mem_afterColon {layout : Layout} {c : Char}
    (h : c ∈ layout.afterColon) : isBlank c = true := by
  cases layout with
  | compact =>
      simp [afterColon] at h
  | indented depth =>
      rw [List.mem_singleton.1 h]
      decide

theorem exists_chars_object (layout : Layout) (members : List (String × Json)) :
    ∃ rest, (Json.object members).chars layout = '\x7b' :: rest := by
  cases members with
  | nil =>
      exact ⟨_, by rw [chars]⟩
  | cons member rest =>
      exact ⟨_, by rw [chars]⟩

namespace Reader

open Data (Draft Record Slot)

variable {α β σ : Type}

def Reads (reader : Reader α) (value : Json) (a : α) : Prop :=
  ∀ layout blanks, (∀ b ∈ blanks, isBlank b = true) →
    Takes reader (blanks ++ value.chars layout) [] a

theorem Reads.map {reader : Reader α} {value : Json} {a : α} (f : α → β)
    (h : Reads reader value a) : Reads (f <$> reader) value (f a) := by
  intro layout blanks hblanks
  exact (h layout blanks hblanks).map f

/-- A text that is one value, and perhaps blanks after it. -/
theorem Reads.readAll {reader : Reader α} {value : Json} {a : α} (h : Reads reader value a)
    (layout : Layout) {blanks : List Char} (hblanks : ∀ b ∈ blanks, isBlank b = true) :
    readAll reader (String.ofList (value.chars layout ++ blanks)) = .ok a :=
  readAll_of_takes (h layout [] (List.forall_mem_nil _)) hblanks

/-! ## Texts -/

theorem reads_textValue (expected s : String) : Reads (textValue expected) (.text s) s := by
  intro layout blanks hblanks
  exact Takes.ofToken hblanks (by decide) (takes_key s)

theorem reads_optionalValue (expected s : String) :
    Reads (optionalValue (textValue expected)) (.text s) (some s) := by
  intro layout blanks hblanks
  have hitem := (reads_textValue expected s).map some layout [] (by simp)
  exact Takes.ofToken hblanks (by decide) hitem

theorem reads_choice {known : List (String × α)} {name : String} {a : α}
    (h : known.lookup name = some a) : Reads (choice known) (.text name) a := by
  intro layout blanks hblanks
  have hname := reads_textValue "variant identifier" name layout [] (by simp)
  have hone : Takes (oneOf known) (([] ++ (Json.text name).chars layout) ++ []) [] a := by
    refine hname.then ?_
    rw [h]
    exact .pure a []
  rw [List.append_nil] at hone
  exact Takes.ofToken hblanks (by decide) hone

/-- The slot of a text puts it into the record. -/
theorem reads_slotText (name : String) (put : String → σ → σ) (s : String) :
    Reads (Slot.text name put : Slot Reader σ).read (.text s) (put s) :=
  (reads_textValue "a string" s).map put

/-! ## Members -/

section Members

variable {blanks : List Char}

theorem takes_moreMembers_first (hblanks : ∀ b ∈ blanks, isBlank b = true) :
    Takes (moreMembers true) blanks ['"'] true :=
  Takes.ofPeek hblanks (by decide) (.pure true _)

theorem takes_moreMembers_next (hblanks : ∀ b ∈ blanks, isBlank b = true) :
    Takes (moreMembers false) (',' :: blanks) ['"'] true :=
  Takes.ofNext (by decide) ((takes_advance ',').then 
    (Takes.ofPeek hblanks (by decide) (.pure true _)))

theorem takes_moreMembers_end (hblanks : ∀ b ∈ blanks, isBlank b = true) (first : Bool) :
    Takes (moreMembers first) blanks ['\x7d'] false :=
  Takes.ofPeek hblanks (by decide) (.pure false _)

/-- One member, after what stands before its key and before the members that follow. -/
theorem takes_fields_cons {record : Record Reader σ} {draft final : Draft σ} {slot : Slot Reader σ}
    {key : String} {value : Json} {f : σ → σ} {lead tail : List Char} {first : Bool} {n : Nat}
    (layout : Layout) (hlead : Takes (moreMembers first) lead ['"'] true)
    (hslot : record.slot? key = some slot) (hfree : draft.has slot = false)
    (hvalue : Reads slot.read value f)
    (htail : Takes (fields record n false (draft.fill slot f)) tail ['\x7d'] final) :
    Takes (fields record (n + 1) first draft)
      (lead ++ (textChars key ++ ([':'] ++ (layout.afterColon ++ value.chars layout ++ tail))))
      ['\x7d'] final := by
  have hafter := (hvalue layout layout.afterColon fun _ => Layout.isBlank_of_mem_afterColon).then
    (f := fun f => fields record n false (draft.fill slot f)) htail
  have hmember := takes_colon.then (f := fun _ => slot.read >>= fun f =>
    fields record n false (draft.fill slot f)) hafter
  refine hlead.bind ?_ ⟨_, rfl⟩
  refine (takes_key key).then ?_
  rw [hslot]
  simp only [hfree]
  exact hmember

/-- Each member in turn fills a slot that no member before it has filled. -/
inductive Fills (record : Record Reader σ) : Draft σ → List (String × Json) → Draft σ → Prop
  | nil (draft : Draft σ) : Fills record draft [] draft
  | cons {draft final : Draft σ} {key : String} {value : Json} {members : List (String × Json)}
      {slot : Slot Reader σ} {f : σ → σ} (hslot : record.slot? key = some slot)
      (hfree : draft.has slot = false) (hvalue : Reads slot.read value f)
      (hrest : Fills record (draft.fill slot f) members final) :
      Fills record draft ((key, value) :: members) final

theorem Fills.append {record : Record Reader σ} {draft middle final : Draft σ}
    {front back : List (String × Json)} (hfront : Fills record draft front middle)
    (hback : Fills record middle back final) : Fills record draft (front ++ back) final := by
  induction hfront with
  | nil draft =>
      exact hback
  | cons hslot hfree hvalue hrest ih =>
      exact .cons hslot hfree hvalue (ih hback)

theorem takes_fields {record : Record Reader σ} {draft final : Draft σ}
    {members : List (String × Json)} (h : Fills record draft members final) (layout : Layout)
    (hblanks : ∀ b ∈ blanks, isBlank b = true) (n : Nat)
    (hn : (memberChars layout members).length ≤ n) :
    Takes (fields record (n + 1) false draft) (memberChars layout members ++ blanks) ['\x7d']
      final := by
  induction h generalizing n with
  | nil draft =>
      exact (takes_moreMembers_end hblanks false).only (.pure draft _)
  | @cons draft final key value members slot f hslot hfree hvalue hrest ih =>
      have hlead : Takes (moreMembers false) (',' :: layout.newline) ['"'] true :=
        takes_moreMembers_next fun _ => Layout.isBlank_of_mem_newline
      -- the comma alone pays for this round
      obtain ⟨k, rfl, hk⟩ : ∃ k, n = k + 1 ∧ (memberChars layout members).length ≤ k := by
        simp [memberChars] at hn
        exact ⟨n - 1, by omega, by omega⟩
      have hmember := takes_fields_cons layout hlead hslot hfree hvalue (ih k hk)
      simpa [memberChars] using hmember

end Members

/-! ## Records -/

/-- What stands between the braces of an object is taken as the fields of the record. -/
theorem takes_allFields {record : Record Reader σ} {final : Draft σ}
    {members : List (String × Json)} (h : Fills record record.start members final)
    (layout : Layout) :
    ∃ inside, (Json.object members).chars layout = '\x7b' :: (inside ++ ['\x7d']) ∧
      Takes (bound >>= fun n => fields record n true record.start) inside ['\x7d'] final := by
  cases h with
  | nil =>
      refine ⟨[], by simp [chars], Takes.bounded fun n _ => ?_⟩
      exact (takes_moreMembers_end (List.forall_mem_nil _) true).only (.pure record.start _)
  | @cons _ _ key value members slot f hslot hfree hvalue hrest =>
      refine ⟨layout.deeper.newline ++ (textChars key ++ ([':'] ++ (layout.deeper.afterColon ++
          value.chars layout.deeper ++ (memberChars layout.deeper members ++ layout.newline)))),
        by cases layout <;> simp [chars, Layout.deeper, Layout.afterColon],
        Takes.bounded fun n hn => ?_⟩
      have hlead : Takes (moreMembers true) layout.deeper.newline ['"'] true :=
        takes_moreMembers_first fun _ => Layout.isBlank_of_mem_newline
      have hnewline : ∀ b ∈ layout.newline, isBlank b = true :=
        fun _ => Layout.isBlank_of_mem_newline
      obtain ⟨k, rfl, hk⟩ : ∃ k, n = k + 1 ∧ (memberChars layout.deeper members).length ≤ k := by
        simp at hn
        exact ⟨n - 1, by omega, by omega⟩
      have htail := takes_fields hrest layout.deeper hnewline k hk
      exact takes_fields_cons layout.deeper hlead hslot hfree hvalue htail

theorem reads_recordValue {record : Record Reader σ} {final : Draft σ} {a : σ}
    {members : List (String × Json)} (h : Fills record record.start members final)
    (hfinish : record.finish final = .ok a) :
    Reads (recordValue record) (.object members) a := by
  intro layout blanks hblanks
  obtain ⟨inside, hchars, hfields⟩ := takes_allFields h layout
  have hcomplete : Takes (orMismatch (record.finish final)) [] ['\x7d'] a := by
    rw [hfinish]
    exact .pure a _
  have hbody := hfields.only (f := fun draft => orMismatch (record.finish draft)) hcomplete
  have hobject := (takes_advance '\x7b').then (f := fun _ => closedBy endObject _)
    (hbody.closedBy (takes_endObject (List.forall_mem_nil _)) (List.prefix_refl _))
  rw [hchars]
  exact Takes.ofToken hblanks (by decide) hobject

/-! ## Lists -/

section Items

variable {blanks : List Char}

theorem takes_moreItems_first (hblanks : ∀ b ∈ blanks, isBlank b = true) :
    Takes (moreItems true) blanks ['\x7b'] true :=
  Takes.ofPeek hblanks (by decide) (.pure true _)

theorem takes_moreItems_next (hblanks : ∀ b ∈ blanks, isBlank b = true) :
    Takes (moreItems false) (',' :: blanks) ['\x7b'] true :=
  Takes.ofNext (by decide) ((takes_advance ',').then
    (Takes.ofPeek hblanks (by decide) (.pure true _)))

theorem takes_moreItems_end (hblanks : ∀ b ∈ blanks, isBlank b = true) (first : Bool) :
    Takes (moreItems first) blanks [']'] false :=
  Takes.ofPeek hblanks (by decide) (.pure false _)

/-- An item that is an object, after what stands before it and before the items that follow. -/
theorem takes_items_cons {item : Reader α} {members : List (String × Json)} {a : α} {as : List α}
    {lead tail : List Char} {first : Bool} {n : Nat} (layout : Layout)
    (hlead : Takes (moreItems first) lead ['\x7b'] true) (hitem : Reads item (.object members) a)
    (htail : Takes (items item n false) tail [']'] as) :
    Takes (items item (n + 1) first) (lead ++ ((Json.object members).chars layout ++ tail)) [']']
      (a :: as) := by
  obtain ⟨rest, hchars⟩ := exists_chars_object layout members
  have hothers := htail.only (f := fun as => pure (a :: as)) (.pure (a :: as) _)
  have hboth := (hitem layout [] (List.forall_mem_nil _)).then
    (f := fun a => items item n false >>= fun as => pure (a :: as)) hothers
  rw [List.nil_append] at hboth
  refine hlead.bind hboth ?_
  rw [hchars]
  exact ⟨_, rfl⟩

theorem takes_items {item : Reader α} {write : α → List (String × Json)}
    (hitem : ∀ a, Reads item (.object (write a)) a) (as : List α) (layout : Layout)
    (hblanks : ∀ b ∈ blanks, isBlank b = true) (n : Nat)
    (hn : (itemChars layout (as.map fun a => .object (write a))).length ≤ n) :
    Takes (items item (n + 1) false)
      (itemChars layout (as.map fun a => .object (write a)) ++ blanks) [']'] as := by
  induction as generalizing n with
  | nil =>
      exact (takes_moreItems_end hblanks false).only (.pure [] _)
  | cons a as ih =>
      have hlead : Takes (moreItems false) (',' :: layout.newline) ['\x7b'] true :=
        takes_moreItems_next fun _ => Layout.isBlank_of_mem_newline
      obtain ⟨k, rfl, hk⟩ : ∃ k, n = k + 1 ∧
          (itemChars layout (as.map fun a => .object (write a))).length ≤ k := by
        simp [itemChars] at hn ⊢
        exact ⟨n - 1, by omega, by omega⟩
      have hcons := takes_items_cons layout hlead (hitem a) (ih k hk)
      simpa [itemChars] using hcons

/-- What stands between the brackets of a list is taken as its items. -/
theorem takes_allItems {item : Reader α} {write : α → List (String × Json)}
    (hitem : ∀ a, Reads item (.object (write a)) a) (as : List α) (layout : Layout) :
    ∃ inside, (Json.list (as.map fun a => .object (write a))).chars layout =
        '[' :: (inside ++ [']']) ∧
      Takes (bound >>= fun n => items item n true) inside [']'] as := by
  cases as with
  | nil =>
      refine ⟨[], by simp [chars], Takes.bounded fun n _ => ?_⟩
      exact (takes_moreItems_end (List.forall_mem_nil _) true).only (.pure [] _)
  | cons a as =>
      refine ⟨layout.deeper.newline ++ ((Json.object (write a)).chars layout.deeper ++
        (itemChars layout.deeper (as.map fun a => .object (write a)) ++ layout.newline)),
        by simp [chars], Takes.bounded fun n hn => ?_⟩
      have hlead : Takes (moreItems true) layout.deeper.newline ['\x7b'] true :=
        takes_moreItems_first fun _ => Layout.isBlank_of_mem_newline
      have hnewline : ∀ b ∈ layout.newline, isBlank b = true :=
        fun _ => Layout.isBlank_of_mem_newline
      -- there is no comma before the first item, but its own brace
      obtain ⟨k, rfl, hk⟩ : ∃ k, n = k + 1 ∧
          (itemChars layout.deeper (as.map fun a => .object (write a))).length ≤ k := by
        obtain ⟨rest, hbrace⟩ := exists_chars_object layout.deeper (write a)
        simp [hbrace] at hn ⊢
        exact ⟨n - 1, by omega, by omega⟩
      exact takes_items_cons layout.deeper hlead (hitem a)
        (takes_items hitem as layout.deeper hnewline k hk)

/-- A list of objects is read item by item. -/
theorem reads_listValue {item : Reader α} {write : α → List (String × Json)}
    (hitem : ∀ a, Reads item (.object (write a)) a) (as : List α) :
    Reads (listValue item) (.list (as.map fun a => .object (write a))) as := by
  intro layout blanks hblanks
  obtain ⟨inside, hchars, hitems⟩ := takes_allItems hitem as layout
  have hlist := (takes_advance '[').then (f := fun _ => closedBy endList _)
    (hitems.closedBy (takes_endList (List.forall_mem_nil _)) (List.prefix_refl _))
  rw [hchars]
  exact Takes.ofToken hblanks (by decide) hlist

end Items

end Reader
end Json
end MarkupAssist
