import MarkupAssist.Catalogue.Load
import MarkupAssist.Files.Tree
import MarkupAssist.Proofs.Catalogue.Representation

/-!
# The first fault of a catalogue

A catalogue is read unless something is wrong with its texts, and then the first fault is told, in
an order that does not depend on what else is wrong: the two texts as such, then the members of the
one, then those of the other. Members that are overwritten are no members.

- `textFaults`, `memberFaults` : what is wrong with a text, and with the members that are left of it
- `faults`                     : all of that in the order in which it is told
- `IsConvertible`              : nothing is wrong
- `ofTexts_fails_first`        : reading finds the first fault, in a directory as well

One member fails for a reason of its own (`faultOf_addTag`, `faultOf_addAttribute`), and so a table
fails with the first of its members that does (`faultOf_foldlM`).
-/

namespace MarkupAssist
namespace Catalogue

open Data (Mismatch Notation)
open Files (FileAccess joinPath)
open Json (Decoder survivors writtenMembers)

/-! ## Failing -/

def faultOf {ε α : Type} : Except ε α → Option ε
  | .ok _ => none
  | .error fault => some fault

section Failing

variable {ε δ α β σ : Type}

theorem faultOf_eq_some_iff {x : Except ε α} {fault : ε} :
    faultOf x = some fault ↔ x = .error fault := by
  cases x <;> simp [faultOf]

theorem faultOf_eq_none_iff {x : Except ε α} : faultOf x = none ↔ ∃ a, x = .ok a := by
  cases x <;> simp [faultOf]

theorem faultOf_mapError (x : Except ε α) (f : ε → δ) :
    faultOf (x.mapError f) = (faultOf x).map f := by
  cases x <;> rfl

theorem faultOf_bind_pure (x : Except ε α) (f : α → β) :
    faultOf (x >>= fun a => pure (f a)) = faultOf x := by
  cases x <;> rfl

/-- What comes second is told if the first does not fail. -/
theorem faultOf_bind {x : Except ε α} {f : α → Except ε β} {second : Option ε}
    (h : ∀ a, x = .ok a → faultOf (f a) = second) :
    faultOf (x >>= f) = (faultOf x).or second := by
  cases x with
  | ok a =>
      exact h a rfl
  | error fault =>
      rfl

/-- Steps that fail for reasons of their own fail together with the first of them. -/
theorem faultOf_foldlM {step : σ → α → Except ε σ} {fault? : α → Option ε}
    (h : ∀ state a, faultOf (step state a) = fault? a) (state : σ) (items : List α) :
    faultOf (items.foldlM step state) = (items.filterMap fault?).head? := by
  -- the state is what the steps before have made of it, and no step fails because of it
  induction items generalizing state with
  | nil =>
      rfl
  | cons a rest ih =>
      have hrest : faultOf (step state a >>= fun next => rest.foldlM step next) =
          (faultOf (step state a)).or (rest.filterMap fault?).head? :=
        faultOf_bind fun next _ => ih next
      rw [List.foldlM_cons, hrest, h]
      cases hfault : fault? a with
      | none =>
          rw [List.filterMap_cons_none hfault, Option.none_or]
      | some fault =>
          rw [List.filterMap_cons_some hfault, List.head?_cons, Option.some_or]

end Failing

/-! ## What is wrong -/

/-- What is wrong with a text as a whole. -/
def textDefect? (text : String) : Option Defect :=
  match Json.ofText text with
  | .ok (.object _) => none
  | .ok _ => some .notKeyed
  | .error fault => some (.unreadable fault)

def mismatch? {α : Type} (decoder : Decoder α) (member : String × Json) : Option Mismatch :=
  faultOf (decoder member.2)

/-- What is wrong with a member of one of the tables. -/
def memberDefect? : TableName → String × Json → Option Defect
  | .tags, member =>
      (mismatch? (Notation.record Tag.entry) member).map fun mismatch =>
        .unreadable (.ofMismatch mismatch)
  | .attributes, member =>
      if member.1 = iconsKey then
        (mismatch? (Notation.list (Notation.text "a string")) member).map .icons
      else (mismatch? (Notation.record Attribute.entry) member).map fun mismatch =>
        .unreadable (.ofMismatch mismatch)

/-- The members that are left of the object in a text. -/
def membersLeft (text : String) : List (String × Json) :=
  match writtenMembers text with
  | .ok written => survivors written
  | .error _ => []

def textFaults (table : TableName) (text : String) : List TableFault :=
  (textDefect? text).toList.map (⟨table, ·⟩)

def memberFaults (table : TableName) (text : String) : List TableFault :=
  (membersLeft text).filterMap fun member => (memberDefect? table member).map (⟨table, ·⟩)

/-- All that is wrong, in the order in which it is told. -/
def faults (tags attributes : String) : List TableFault :=
  textFaults .tags tags ++ textFaults .attributes attributes ++
    memberFaults .tags tags ++ memberFaults .attributes attributes

/-! ## Texts -/

theorem membersLeft_of_object {text : String} {members : List (String × Json)}
    (h : Json.ofText text = .ok (.object members)) : membersLeft text = members := by
  rcases Json.ofText_eq_object_iff.1 h with ⟨written, hwritten, rfl⟩
  rw [membersLeft, hwritten, Json.settle_eq_survivors]

theorem members_eq_ok_iff {table : TableName} {text : String} {found : List (String × Json)} :
    members table text = .ok found ↔ Json.ofText text = .ok (.object found) := by
  rw [members]
  split
  · next hread =>
      simp [hread]
  · next value hother hread =>
      have hvalue : value ≠ .object found := fun heq => hother found heq
      simp [hread, hvalue]
  · next hread =>
      simp [hread]

theorem faultOf_members (table : TableName) (text : String) :
    faultOf (members table text) = (textFaults table text).head? := by
  rw [members, textFaults, textDefect?]
  cases Json.ofText text with
  | error fault =>
      rfl
  | ok value =>
      cases value <;> rfl

/-! ## Members -/

theorem faultOf_decoded {α : Type} (table : TableName) (decoder : Decoder α)
    (member : String × Json) :
    faultOf (decoded table decoder member.2) =
      (mismatch? decoder member).map fun mismatch => ⟨table, .unreadable (.ofMismatch mismatch)⟩ :=
  faultOf_mapError (decoder member.2) _

theorem faultOf_addIcons (catalogue : Catalogue) (member : String × Json) :
    faultOf (addIcons catalogue member.2) =
      (mismatch? (Notation.list (Notation.text "a string")) member).map fun mismatch =>
        ⟨.attributes, .icons mismatch⟩ := by
  rw [addIcons, faultOf_bind_pure]
  exact faultOf_mapError _ _

theorem faultOf_addTag (catalogue : Catalogue) (member : String × Json) :
    faultOf (addTag catalogue member) = (memberDefect? .tags member).map (⟨.tags, ·⟩) := by
  rw [addTag, faultOf_bind_pure, faultOf_decoded, memberDefect?, Option.map_map]
  rfl

theorem faultOf_addAttribute (catalogue : Catalogue) (member : String × Json) :
    faultOf (addAttribute catalogue member) =
      (memberDefect? .attributes member).map (⟨.attributes, ·⟩) := by
  by_cases hicons : member.1 = iconsKey
  · rw [addAttribute, if_pos hicons, faultOf_addIcons, memberDefect?, if_pos hicons,
      Option.map_map]
    rfl
  · rw [addAttribute, if_neg hicons, faultOf_bind_pure, faultOf_decoded, memberDefect?,
      if_neg hicons, Option.map_map]
    rfl

theorem memberDefect?_tags_eq_none_iff {member : String × Json} :
    memberDefect? .tags member = none ↔ ∃ tag, IsTag member tag := by
  rw [memberDefect?, Option.map_eq_none_iff, mismatch?, faultOf_eq_none_iff]
  constructor
  · rintro ⟨entry, hentry⟩
    exact ⟨_, isTag_iff.2 ⟨entry, hentry, rfl⟩⟩
  · rintro ⟨_, htag⟩
    obtain ⟨entry, hentry, _⟩ := isTag_iff.1 htag
    exact ⟨entry, hentry⟩

theorem memberDefect?_attributes_eq_none_iff {member : String × Json} :
    memberDefect? .attributes member = none ↔
      (member.1 = iconsKey → ∃ icons, IsIcons member.2 icons) ∧
      (member.1 ≠ iconsKey → ∃ listed, IsAttribute member listed) := by
  by_cases hicons : member.1 = iconsKey
  · rw [memberDefect?, if_pos hicons, Option.map_eq_none_iff, mismatch?, faultOf_eq_none_iff]
    simp [hicons, isIcons_iff]
  · rw [memberDefect?, if_neg hicons, Option.map_eq_none_iff, mismatch?, faultOf_eq_none_iff]
    simp [hicons, isAttribute_iff]

/-! ## Both texts -/

theorem faultOf_ofTexts (tags attributes : String) :
    faultOf (ofTexts tags attributes) = (faults tags attributes).head? := by
  -- the members are looked at only where there are any, that is, where their text is an object
  have hattributeLoop : ∀ catalogue,
      faultOf ((membersLeft attributes).foldlM addAttribute catalogue) =
        (memberFaults .attributes attributes).head? := fun catalogue =>
    faultOf_foldlM faultOf_addAttribute catalogue _
  have hloops : faultOf ((membersLeft tags).foldlM addTag {} >>= fun catalogue =>
        (membersLeft attributes).foldlM addAttribute catalogue) =
      (memberFaults .tags tags).head?.or (memberFaults .attributes attributes).head? := by
    rw [faultOf_bind fun catalogue _ => hattributeLoop catalogue,
      faultOf_foldlM faultOf_addTag {} (membersLeft tags)]
    rfl
  rw [faults, List.head?_append, List.head?_append, List.head?_append, Option.or_assoc,
    Option.or_assoc, ← hloops, ← faultOf_members, ← faultOf_members, ofTexts]
  refine faultOf_bind fun foundTags htags => faultOf_bind fun foundAttributes hattributes => ?_
  rw [membersLeft_of_object (members_eq_ok_iff.1 htags),
    membersLeft_of_object (members_eq_ok_iff.1 hattributes)]

/-- Both texts are objects, and what is left of their members is what it should be. -/
structure IsConvertible (tagText attributeText : String) : Prop where
  tagsKeyed : ∃ members, Json.ofText tagText = .ok (.object members)
  attributesKeyed : ∃ members, Json.ofText attributeText = .ok (.object members)
  tags : ∀ member ∈ membersLeft tagText, ∃ tag, IsTag member tag
  attributes : ∀ member ∈ membersLeft attributeText, member.1 ≠ iconsKey →
    ∃ listed, IsAttribute member listed
  icons : ∀ member ∈ membersLeft attributeText, member.1 = iconsKey →
    ∃ icons, IsIcons member.2 icons

theorem textFaults_eq_nil_iff {table : TableName} {text : String} :
    textFaults table text = [] ↔ ∃ members, Json.ofText text = .ok (.object members) := by
  rw [textFaults, List.map_eq_nil_iff, Option.toList_eq_nil_iff, textDefect?]
  split
  · next members hread =>
      simp [hread]
  · next value hother hread =>
      simpa [hread] using fun members heq => hother members heq
  · next hread =>
      simp [hread]

theorem memberFaults_eq_nil_iff {table : TableName} {text : String} :
    memberFaults table text = [] ↔
      ∀ member ∈ membersLeft text, memberDefect? table member = none := by
  simp [memberFaults, List.filterMap_eq_nil_iff]

theorem faults_eq_nil_iff {tags attributes : String} :
    faults tags attributes = [] ↔ IsConvertible tags attributes := by
  simp only [faults, List.append_eq_nil_iff, textFaults_eq_nil_iff, memberFaults_eq_nil_iff,
    memberDefect?_tags_eq_none_iff, memberDefect?_attributes_eq_none_iff]
  constructor
  · rintro ⟨⟨⟨htags, hattributes⟩, htagMembers⟩, hmembers⟩
    exact ⟨htags, hattributes, htagMembers, fun member hmem => (hmembers member hmem).2,
      fun member hmem => (hmembers member hmem).1⟩
  · intro h
    exact ⟨⟨⟨h.tagsKeyed, h.attributesKeyed⟩, h.tags⟩,
      fun member hmem => ⟨h.icons member hmem, h.attributes member hmem⟩⟩

/-! ## Overwritten members -/

/-- The two are written alike, but for the value of a key that comes again later. -/
def AlikeButOverwritten (text other : String) : Prop :=
  ∃ front key value instead rest, key ∈ rest.map Prod.fst ∧
    writtenMembers text = .ok (front ++ (key, value) :: rest) ∧
    writtenMembers other = .ok (front ++ (key, instead) :: rest)

theorem AlikeButOverwritten.ofText_eq {text other : String} (h : AlikeButOverwritten text other) :
    Json.ofText other = Json.ofText text := by
  obtain ⟨front, key, value, instead, rest, hlater, htext, hother⟩ := h
  -- both are objects, of the members that are left, and the two values are not among them
  rw [Json.ofText_eq_object_iff.2 ⟨_, htext, rfl⟩, Json.ofText_eq_object_iff.2 ⟨_, hother, rfl⟩,
    Json.settle_eq_survivors, Json.settle_eq_survivors, Json.survivors_of_overwritten hlater]

theorem ofTexts_congr {tags tags' attributes attributes' : String}
    (htags : Json.ofText tags' = Json.ofText tags)
    (hattributes : Json.ofText attributes' = Json.ofText attributes) :
    ofTexts tags' attributes' = ofTexts tags attributes := by
  simp only [ofTexts, members, htags, hattributes]

/-! ## Directories -/

section Directories

variable {m : Type → Type} [Monad m] [LawfulMonad m]

/-- A directory whose two files hold the texts. -/
structure Holds (files : FileAccess m) (directory tags attributes : String) : Prop where
  isDirectory : files.isDirectory directory = pure true
  tags : files.readText (joinPath directory TableName.tags.fileName) = pure (.ok tags)
  attributes : files.readText (joinPath directory TableName.attributes.fileName) =
    pure (.ok attributes)

theorem readTable_eq {files : FileAccess m} {directory text : String} {table : TableName}
    (h : files.readText (joinPath directory table.fileName) = pure (.ok text)) :
    readTable files directory table = pure text := by
  refine ExceptT.ext ?_
  simp [readTable, h]

theorem run_load {files : FileAccess m} {directory tags attributes : String}
    (h : Holds files directory tags attributes) :
    (load files directory).run = pure ((ofTexts tags attributes).mapError fun fault =>
      .badTable (joinPath directory fault.table.fileName) fault) := by
  cases hread : ofTexts tags attributes with
  | ok catalogue =>
      have hload : load files directory = pure catalogue := by
        simp [load, h.isDirectory, readTable_eq h.tags, readTable_eq h.attributes, hread]
      rw [hload]
      rfl
  | error fault =>
      have hload : load files directory =
          throw (.badTable (joinPath directory fault.table.fileName) fault) := by
        simp [load, h.isDirectory, readTable_eq h.tags, readTable_eq h.attributes, hread]
      rw [hload]
      rfl

end Directories

/-! ## The first fault -/

/-- A catalogue is read exactly if nothing is wrong with the texts, and otherwise the first thing
that is wrong is told. It does not matter what is overwritten, nor whether the texts are the files
of a directory, except for where the fault is said to be. -/
theorem ofTexts_fails_first (tags attributes : String) :
    ((∃ catalogue, ofTexts tags attributes = .ok catalogue) ↔ IsConvertible tags attributes) ∧
    (∀ fault, ofTexts tags attributes = .error fault ↔
      (faults tags attributes).head? = some fault) ∧
    (∀ other, AlikeButOverwritten tags other →
      ofTexts other attributes = ofTexts tags attributes) ∧
    (∀ other, AlikeButOverwritten attributes other →
      ofTexts tags other = ofTexts tags attributes) ∧
    (∀ (m : Type → Type) [Monad m] [LawfulMonad m] (files : FileAccess m) (directory : String),
      Holds files directory tags attributes →
      (load files directory).run = pure ((ofTexts tags attributes).mapError fun fault =>
        .badTable (joinPath directory fault.table.fileName) fault)) := by
  have hfirst := faultOf_ofTexts tags attributes
  refine ⟨?_, ?_, ?_, ?_, ?_⟩
  · rw [← faultOf_eq_none_iff, hfirst, List.head?_eq_none_iff, faults_eq_nil_iff]
  · intro fault
    rw [← faultOf_eq_some_iff, hfirst]
  · intro other hother
    exact ofTexts_congr hother.ofText_eq rfl
  · intro other hother
    exact ofTexts_congr rfl hother.ofText_eq
  · intro m _ _ files directory hfiles
    exact run_load hfiles

/-- The tag `b` is mended by its second member, the tag `a` is not, and the icons are no list. -/
theorem ofTexts_fails_first_of_tag :
    let tags := "\x7b\"b\":null,\"a\":\"x\",\"b\":\x7b\x7d\x7d"
    let mended := "\x7b\"b\":[],\"a\":\"x\",\"b\":\x7b\x7d\x7d"
    let attributes := "\x7b\"icons\":0\x7d"
    let fault : TableFault :=
      ⟨.tags, .unreadable (.ofMismatch (.wrongType (.text "x") "struct TagDef"))⟩
    let files := Files.FileTree.access (.ofFiles [
      ("kb/element-tags.json", some tags.toUTF8),
      ("kb/element-attributes.json", some attributes.toUTF8)])
    ofTexts tags attributes = .error fault ∧ ofTexts mended attributes = .error fault ∧
      (load files "kb").run = pure (.error (.badTable "kb/element-tags.json" fault)) := by
  intro tags mended attributes fault files
  obtain ⟨_, hfault, hmended, _, hload⟩ := ofTexts_fails_first tags attributes
  have hfirst : ofTexts tags attributes = .error fault := (hfault fault).2 (by decide +kernel)
  have halike : AlikeButOverwritten tags mended :=
    ⟨[], "b", .null, .list [], [("a", .text "x"), ("b", .object [])], by decide,
      by decide +kernel, by decide +kernel⟩
  have hfiles : Holds files "kb" tags attributes := by
    refine ⟨?_, ?_, ?_⟩
    · change (_ : Bool) = true
      decide +kernel
    · change (_ : Except Files.FileFault String) = .ok tags
      decide +kernel
    · change (_ : Except Files.FileFault String) = .ok attributes
      decide +kernel
  have hpath : joinPath "kb" TableName.tags.fileName = "kb/element-tags.json" := by
    decide +kernel
  refine ⟨hfirst, (hmended mended halike).trans hfirst, ?_⟩
  rw [hload Id files "kb" hfiles, hfirst]
  exact congrArg (fun path => Except.error (LoadFault.badTable path fault)) hpath

end Catalogue
end MarkupAssist
