import Mathlib.Data.List.Chain
import Mathlib.Data.List.Flatten
import Mathlib.Logic.Relation
import MarkupAssist.Proofs.Catalogue.SkeletonLines
import MarkupAssist.Proofs.Catalogue.SkeletonOrder

/-!
# The depth of a skeleton

A smaller depth takes off the tags below it and leaves every other tag where it is. So two depths
write the same text when no tag stands between them, and only then.

- `Outline.placed`     : the tags of a tree, each with its level
- `Outline.prune?`     : a tree without what stands at a level or deeper
- `Catalogue.Child`    : a tag that another one refers to and the catalogue knows
- `mem_placed_expand`  : the tags of a tree are the ends of the chains of references
- `text_prune?_eq_iff` : a tree that has lost a tag has lost a `<` of its text
-/

namespace MarkupAssist
namespace Catalogue

open Outline (attributeText attributesText closeTag indentation openTag)

/-- A tag in a tree, with the level it stands at. -/
structure PlacedTag where
  level : Nat
  name : String
  attributes : List String
  deriving DecidableEq, Repr

/-- The markup of the tag itself, where the numbers of its placeholders do not matter. -/
def PlacedTag.markup (tag : PlacedTag) : List Char :=
  openTag tag.name 0 tag.attributes ++ closeTag tag.name

namespace Outline

mutual

/-- The tags of a tree whose root stands at a level, each one before its children. -/
def placed (level : Nat) : Outline → List PlacedTag
  | .node name attributes children =>
      ⟨level, name, attributes⟩ :: placedOfAll (level + 1) children

def placedOfAll (level : Nat) : List Outline → List PlacedTag
  | [] => []
  | outline :: rest => outline.placed level ++ placedOfAll level rest

end

mutual

/-- Take off every tag that stands at level `limit` or deeper; the root stands at `level`. -/
def prune? (limit level : Nat) : Outline → Option Outline
  | .node name attributes children =>
      if level < limit then
        some (.node name attributes (pruneAll limit (level + 1) children))
      else none

def pruneAll (limit level : Nat) : List Outline → List Outline
  | [] => []
  | outline :: rest => (outline.prune? limit level).toList ++ pruneAll limit level rest

end

/-! ## What is left of a tree -/

theorem mem_placedOfAll {tag : PlacedTag} {level : Nat} {outlines : List Outline} :
    tag ∈ placedOfAll level outlines ↔ ∃ outline ∈ outlines, tag ∈ outline.placed level := by
  induction outlines with
  | nil =>
      simp [placedOfAll]
  | cons outline rest ih =>
      simp [placedOfAll, ih]

theorem placedOfAll_append (level : Nat) (front back : List Outline) :
    placedOfAll level (front ++ back) = placedOfAll level front ++ placedOfAll level back := by
  induction front with
  | nil =>
      rfl
  | cons outline rest ih =>
      simp [placedOfAll, ih]

theorem pruneAll_eq_filterMap (limit level : Nat) (outlines : List Outline) :
    pruneAll limit level outlines = outlines.filterMap (prune? limit level) := by
  induction outlines with
  | nil =>
      rfl
  | cons outline rest ih =>
      rw [pruneAll, ih, List.filterMap_cons]
      cases outline.prune? limit level <;> rfl

mutual

theorem level_le_of_mem_placed {tag : PlacedTag} : ∀ (outline : Outline) (level : Nat),
    tag ∈ outline.placed level → level ≤ tag.level
  | .node name attributes children, level, h => by
      rw [placed, List.mem_cons] at h
      rcases h with rfl | hchildren
      · exact Nat.le_refl level
      · exact Nat.le_of_succ_le (level_le_of_mem_placedOfAll children (level + 1) hchildren)

theorem level_le_of_mem_placedOfAll {tag : PlacedTag} : ∀ (outlines : List Outline) (level : Nat),
    tag ∈ placedOfAll level outlines → level ≤ tag.level
  | [], _, h => by
      simp [placedOfAll] at h
  | outline :: rest, level, h => by
      rw [placedOfAll, List.mem_append] at h
      rcases h with hhere | hrest
      · exact level_le_of_mem_placed outline level hhere
      · exact level_le_of_mem_placedOfAll rest level hrest

end

mutual

/-- The tags that are left are those above the limit, in their order and at their levels. -/
theorem placed_prune? (limit : Nat) : ∀ (outline : Outline) (level : Nat),
    placedOfAll level (outline.prune? limit level).toList =
      (outline.placed level).filter (·.level < limit)
  | .node name attributes children, level => by
      by_cases hlevel : level < limit
      · have hchildren := placedOfAll_pruneAll limit children (level + 1)
        simp [prune?, hlevel, placedOfAll, placed, hchildren]
      -- what is taken off is a whole tree, and nothing in it stands above its root
      · have hdeep : ∀ tag ∈ (Outline.node name attributes children).placed level,
            ¬ decide (tag.level < limit) = true := by
          intro tag htag
          have hle := level_le_of_mem_placed _ level htag
          simp only [decide_eq_true_eq]
          omega
        rw [List.filter_eq_nil_iff.2 hdeep, prune?, if_neg hlevel]
        rfl

theorem placedOfAll_pruneAll (limit : Nat) : ∀ (outlines : List Outline) (level : Nat),
    placedOfAll level (pruneAll limit level outlines) =
      (placedOfAll level outlines).filter (·.level < limit)
  | [], _ => rfl
  | outline :: rest, level => by
      rw [pruneAll, placedOfAll_append, placed_prune? limit outline level,
        placedOfAll_pruneAll limit rest level, placedOfAll, List.filter_append]

end

mutual

theorem prune?_of_shallow (limit : Nat) : ∀ (outline : Outline) (level : Nat),
    (∀ tag ∈ outline.placed level, tag.level < limit) → outline.prune? limit level = some outline
  | .node name attributes children, level, h => by
      rw [placed, List.forall_mem_cons] at h
      rw [prune?, if_pos h.1, pruneAll_of_shallow limit children (level + 1) h.2]

theorem pruneAll_of_shallow (limit : Nat) : ∀ (outlines : List Outline) (level : Nat),
    (∀ tag ∈ placedOfAll level outlines, tag.level < limit) →
    pruneAll limit level outlines = outlines
  | [], _, _ => rfl
  | outline :: rest, level, h => by
      rw [placedOfAll, List.forall_mem_append] at h
      rw [pruneAll, prune?_of_shallow limit outline level h.1,
        pruneAll_of_shallow limit rest level h.2]
      rfl

end

/-! ## How many brackets a text has

Names may hold any characters, line breaks among them, and numbers may become longer. Of all that
is written for a tag only its brackets can be told from what is written for others. -/

theorem count_attributesText (first other : Nat) (attributes : List String) :
    (attributesText first attributes).count '<' = (attributesText other attributes).count '<' := by
  have hdigits : ∀ number, (Nat.toDigits 10 number).count '<' = 0 := by
    intro number
    exact List.count_eq_zero.2 (not_mem_toDigits number (by decide))
  induction attributes generalizing first other with
  | nil =>
      rfl
  | cons name rest ih =>
      simp [attributesText, attributeText, hdigits, ih (first + 1) (other + 1)]

theorem count_indentation (level : Nat) : (indentation level).count '<' = 0 := by
  simp [indentation, List.count_replicate]

theorem count_tagText (name : String) (first level : Nat) (attributes : List String) :
    (openTag name first attributes).count '<' + (closeTag name).count '<' =
      (PlacedTag.markup ⟨level, name, attributes⟩).count '<' := by
  simp [PlacedTag.markup, openTag, count_attributesText first 0, Nat.add_assoc, Nat.add_comm 1]

mutual

/-- The brackets of a tree are those of its tags, one by one. -/
theorem count_lines : ∀ (outline : Outline) (level first : Nat),
    (outline.lines level first).flatten.count '<' =
      ((outline.placed level).flatMap PlacedTag.markup).count '<'
  | .node name attributes children, level, first => by
      have htag := count_tagText name first level attributes
      -- without children all is on one line, and else what closes the tag has a line of its own
      by_cases hnone : children = []
      · subst hnone
        simp [lines_of_no_children, placed, placedOfAll, count_indentation, htag]
      · have hinner := count_linesOfAll children (level + 1) (first + attributes.length)
        rw [lines_of_children _ _ _ _ hnone, placed, List.flatMap_cons, List.count_append, ← htag,
          ← hinner]
        simp only [List.flatten_cons, List.flatten_append, List.count_append, count_indentation,
          List.flatten_nil, List.count_nil]
        omega

theorem count_linesOfAll : ∀ (outlines : List Outline) (level first : Nat),
    (linesOfAll level first outlines).flatten.count '<' =
      ((placedOfAll level outlines).flatMap PlacedTag.markup).count '<'
  | [], _, _ => rfl
  | outline :: rest, level, first => by
      have hhere := count_lines outline level first
      have hrest := count_linesOfAll rest level (first + outline.placeholders)
      rw [linesOfAll, placedOfAll, List.flatten_append, List.flatMap_append, List.count_append,
        List.count_append, hhere, hrest]

end

theorem count_intercalate (lines : List (List Char)) :
    (['\n'].intercalate lines).count '<' = lines.flatten.count '<' := by
  induction lines with
  | nil =>
      rfl
  | cons line rest ih =>
      cases rest with
      | nil =>
          simp
      | cons next others =>
          simpa using ih

theorem count_text (outline : Outline) :
    outline.text.count '<' = ((outline.placed 0).flatMap PlacedTag.markup).count '<' := by
  rw [text, count_intercalate, count_lines]

/-- Every tag has a bracket of its own, so that none can be left out without a trace. -/
theorem forall_of_count_filter {kept : PlacedTag → Bool} {tags : List PlacedTag}
    (h : ((tags.filter kept).flatMap PlacedTag.markup).count '<' =
      (tags.flatMap PlacedTag.markup).count '<') : ∀ tag ∈ tags, kept tag = true := by
  induction tags with
  | nil =>
      simp
  | cons tag rest ih =>
      rw [List.flatMap_cons, List.count_append] at h
      by_cases htag : kept tag = true
      · rw [List.filter_cons_of_pos htag, List.flatMap_cons, List.count_append] at h
        exact List.forall_mem_cons.2 ⟨htag, ih (Nat.add_left_cancel h)⟩
      -- a tag left out costs a bracket, and the rest cannot make up for it
      · rw [List.filter_cons_of_neg htag] at h
        have hle : ((rest.filter kept).flatMap PlacedTag.markup).count '<' ≤
            (rest.flatMap PlacedTag.markup).count '<' :=
          (List.filter_sublist.flatMap _).count_le _
        have hpos : 0 < tag.markup.count '<' :=
          List.count_pos_iff.2 (by simp [PlacedTag.markup, openTag])
        omega

theorem placed_of_prune? {limit : Nat} {outline left : Outline}
    (h : outline.prune? limit 0 = some left) :
    left.placed 0 = (outline.placed 0).filter (·.level < limit) := by
  have hleft := placed_prune? limit outline 0
  rw [h] at hleft
  simpa [placedOfAll] using hleft

/-- The text of a tree that has been pruned is another one, unless there was nothing to take off. -/
theorem text_prune?_eq_iff {limit : Nat} {outline left : Outline}
    (h : outline.prune? limit 0 = some left) :
    left.text = outline.text ↔ ∀ tag ∈ outline.placed 0, tag.level < limit := by
  constructor
  · intro htext
    have hcount := congrArg (List.count '<') htext
    rw [count_text, count_text, placed_of_prune? h] at hcount
    simpa using forall_of_count_filter hcount
  · intro hshallow
    have hsame : left = outline :=
      Option.some.inj (h.symm.trans (prune?_of_shallow limit outline 0 hshallow))
    rw [hsame]

end Outline

/-! ## The tree of a tag -/

/-- What a smaller depth leaves of the tree is the tree of that depth. -/
theorem prune?_expand (catalogue : Catalogue) {limit level : Nat} (hlevel : level < limit)
    (below : Nat) (tag : Tag) :
    (catalogue.expand below tag).prune? limit level =
      some (catalogue.expand (min below (limit - level - 1)) tag) := by
  induction below generalizing tag level with
  | zero =>
      simp [expand, Outline.prune?, Outline.pruneAll, hlevel]
  | succ below ih =>
      rw [expand, Outline.prune?, if_pos hlevel, Outline.pruneAll_eq_filterMap, List.filterMap_map]
      rcases Nat.lt_or_eq_of_le (Nat.succ_le_of_lt hlevel) with hinner | hlast
      -- the children stand above the limit too, and one level less is left below them
      · have hchild : (Outline.prune? limit (level + 1) ∘ catalogue.expand below) =
            some ∘ catalogue.expand (min below (limit - (level + 1) - 1)) :=
          funext fun child => ih hinner child
        have hbelow : min (below + 1) (limit - level - 1) =
            min below (limit - (level + 1) - 1) + 1 := by omega
        rw [hchild, hbelow, expand, List.filterMap_eq_map]
      -- the children would stand at the limit already
      · have hchildren : (tag.childTags.filterMap catalogue.tag?).filterMap
            (Outline.prune? limit (level + 1) ∘ catalogue.expand below) = [] := by
          refine List.filterMap_eq_nil_iff.2 fun child _ => ?_
          cases below <;> simp [expand, Outline.prune?, ← hlast]
        have hbelow : min (below + 1) (limit - level - 1) = 0 := by omega
        rw [hchildren, hbelow, expand]

/-- A tag that another one refers to, if the catalogue knows it. -/
def Child (catalogue : Catalogue) (parent child : Tag) : Prop :=
  ∃ name ∈ parent.childTags, catalogue.tag? name = some child

def Tag.placedAt (level : Nat) (tag : Tag) : PlacedTag :=
  ⟨level, tag.name, tag.defaultAttributes⟩

variable {catalogue : Catalogue} {tag : Tag}

/-- The tags of a tree are the ends of the chains of references from its root, each as many levels
down as its chain is long. -/
theorem mem_placed_expand {placed : PlacedTag} {below level : Nat} :
    placed ∈ (catalogue.expand below tag).placed level ↔
      ∃ chain : List Tag, chain.length ≤ below ∧ (tag :: chain).IsChain catalogue.Child ∧
        placed = (chain.getLastD tag).placedAt (level + chain.length) := by
  induction below generalizing tag level with
  | zero =>
      simp [expand, Outline.placed, Outline.placedOfAll, Tag.placedAt]
  | succ below ih =>
      rw [expand, Outline.placed, List.mem_cons, Outline.mem_placedOfAll]
      constructor
      · rintro (rfl | ⟨outline, houtline, hplaced⟩)
        · exact ⟨[], by simp, by simp, rfl⟩
        · obtain ⟨child, hchild, rfl⟩ := List.mem_map.1 houtline
          obtain ⟨chain, hlength, hchain, rfl⟩ := ih.1 hplaced
          refine ⟨child :: chain, Nat.succ_le_succ hlength, ?_, ?_⟩
          · exact .cons_cons (List.mem_filterMap.1 hchild) hchain
          · rw [List.getLastD_cons, List.length_cons, Nat.add_assoc, Nat.add_comm 1]
      · rintro ⟨chain, hlength, hchain, rfl⟩
        cases chain with
        | nil =>
            exact .inl rfl
        | cons child rest =>
            obtain ⟨hchild, hrest⟩ := List.isChain_cons_cons.1 hchain
            refine .inr ⟨catalogue.expand below child, ?_, ih.2 ⟨rest, ?_, hrest, ?_⟩⟩
            · exact List.mem_map_of_mem (List.mem_filterMap.2 hchild)
            · exact Nat.le_of_succ_le_succ hlength
            · rw [List.getLastD_cons, List.length_cons, Nat.add_assoc, Nat.add_comm 1]

/-- From a circle one can go on for ever. -/
theorem exists_chain_of_circle {known : Tag}
    (hreach : Relation.ReflTransGen catalogue.Child tag known)
    (hcircle : Relation.TransGen catalogue.Child known known) (length : Nat) :
    ∃ chain : List Tag, chain.length = length ∧ (tag :: chain).IsChain catalogue.Child := by
  induction length generalizing tag with
  | zero =>
      exact ⟨[], rfl, .singleton tag⟩
  | succ length ih =>
      -- the next tag can be taken on the way to the circle or, at its end, on the circle itself
      have hnext : ∃ child, catalogue.Child tag child ∧
          Relation.ReflTransGen catalogue.Child child known := by
        rcases hreach.cases_head with rfl | hstep
        · exact Relation.TransGen.head'_iff.1 hcircle
        · exact hstep
      obtain ⟨child, hchild, hrest⟩ := hnext
      obtain ⟨chain, hlength, hchain⟩ := ih hrest
      exact ⟨child :: chain, congrArg Nat.succ hlength, .cons_cons hchild hchain⟩

/-! ## Skeletons of two depths -/

theorem skeleton_eq_iff_text {depth other : Nat} :
    catalogue.skeleton tag depth = catalogue.skeleton tag other ↔
      (catalogue.expand (depth - 1) tag).text = (catalogue.expand (other - 1) tag).text := by
  rw [← open_cons_skeleton, ← open_cons_skeleton, List.cons.injEq, String.toList_inj]
  simp

section TwoDepths

variable {depth deeper : Nat} (hdepth : 1 ≤ depth)

include hdepth

theorem prune?_expand_of_le (hle : depth ≤ deeper) :
    (catalogue.expand (deeper - 1) tag).prune? depth 0 =
      some (catalogue.expand (depth - 1) tag) := by
  have hbelow : min (deeper - 1) (depth - 0 - 1) = depth - 1 := by omega
  rw [prune?_expand catalogue hdepth, hbelow]

theorem skeleton_eq_iff (hle : depth ≤ deeper) :
    catalogue.skeleton tag depth = catalogue.skeleton tag deeper ↔
      ∀ placed ∈ (catalogue.expand (deeper - 1) tag).placed 0, placed.level < depth := by
  rw [skeleton_eq_iff_text]
  exact Outline.text_prune?_eq_iff (prune?_expand_of_le hdepth hle)

/-- Two skeletons are the same when no chain of references leads as far as the smaller depth. -/
theorem skeleton_eq_of_chains (hle : depth ≤ deeper)
    (hchains : ∀ chain : List Tag, (tag :: chain).IsChain catalogue.Child → chain.length < depth) :
    catalogue.skeleton tag depth = catalogue.skeleton tag deeper := by
  refine (skeleton_eq_iff hdepth hle).2 ?_
  intro placed hplaced
  obtain ⟨chain, _, hchain, rfl⟩ := mem_placed_expand.1 hplaced
  simpa [Tag.placedAt] using hchains chain hchain

theorem skeleton_ne_of_chain (hlt : depth < deeper) {chain : List Tag}
    (hchain : (tag :: chain).IsChain catalogue.Child) (hlength : chain.length = depth) :
    catalogue.skeleton tag depth ≠ catalogue.skeleton tag deeper := by
  intro heq
  -- the end of the chain is a tag of the larger tree, at the level where the smaller one stops
  have hplaced : (chain.getLastD tag).placedAt (0 + chain.length) ∈
      (catalogue.expand (deeper - 1) tag).placed 0 :=
    mem_placed_expand.2 ⟨chain, by omega, hchain, rfl⟩
  have hlevel := (skeleton_eq_iff hdepth (Nat.le_of_lt hlt)).1 heq _ hplaced
  simp only [Tag.placedAt] at hlevel
  omega

end TwoDepths

/-- A smaller depth takes off the tags below it and nothing else. Two depths are told apart by a
tag between them: none is there behind the end of the longest chain of references, and one always is
where the references lead into a circle. -/
theorem skeleton_of_smaller_depth (catalogue : Catalogue) (tag : Tag) :
    let tree depth := catalogue.expand (depth - 1) tag
    (∀ depth, '<' :: (catalogue.skeleton tag depth).toList = (tree depth).text) ∧
      (∀ depth deeper, 1 ≤ depth → depth ≤ deeper →
        (tree deeper).prune? depth 0 = some (tree depth) ∧
        (tree depth).placed 0 = ((tree deeper).placed 0).filter (·.level < depth) ∧
        (catalogue.skeleton tag depth = catalogue.skeleton tag deeper ↔
          ∀ placed ∈ (tree deeper).placed 0, placed.level < depth)) ∧
      (∀ height, (∀ chain : List Tag, (tag :: chain).IsChain catalogue.Child →
          (tag :: chain).length ≤ height) →
        ∀ depth other, height ≤ depth → height ≤ other →
          catalogue.skeleton tag depth = catalogue.skeleton tag other) ∧
      (∀ known, Relation.ReflTransGen catalogue.Child tag known →
        Relation.TransGen catalogue.Child known known →
        ∀ depth other, 1 ≤ depth → 1 ≤ other → depth ≠ other →
          catalogue.skeleton tag depth ≠ catalogue.skeleton tag other) := by
  intro tree
  refine ⟨open_cons_skeleton catalogue tag, ?_, ?_, ?_⟩
  · intro depth deeper hdepth hle
    have hprune : (tree deeper).prune? depth 0 = some (tree depth) :=
      prune?_expand_of_le hdepth hle
    exact ⟨hprune, Outline.placed_of_prune? hprune, skeleton_eq_iff hdepth hle⟩
  · intro height hchains depth other hdepth hother
    have hroot : 1 ≤ height := hchains [] (.singleton tag)
    have hshort : ∀ limit, height ≤ limit → ∀ chain : List Tag,
        (tag :: chain).IsChain catalogue.Child → chain.length < limit := by
      intro limit hlimit chain hchain
      exact Nat.lt_of_lt_of_le (hchains chain hchain) hlimit
    rcases Nat.le_total depth other with hle | hle
    · exact skeleton_eq_of_chains (by omega) hle (hshort depth hdepth)
    · exact (skeleton_eq_of_chains (by omega) hle (hshort other hother)).symm
  -- the chain is as long as the smaller of the two depths
  · intro known hreach hcircle depth other hdepth hother hne
    rcases Nat.lt_or_gt_of_ne hne with hlt | hlt
    · obtain ⟨chain, hlength, hchain⟩ := exists_chain_of_circle hreach hcircle depth
      exact skeleton_ne_of_chain hdepth hlt hchain hlength
    · obtain ⟨chain, hlength, hchain⟩ := exists_chain_of_circle hreach hcircle other
      exact (skeleton_ne_of_chain hother hlt hchain hlength).symm

/-- Two tags that refer to each other, and two that do not. -/
theorem skeleton_of_smaller_depth_of_menu :
    let menu : Tag := { name := "el-menu", childTags := ["el-gap", "el-submenu"] }
    let submenu : Tag :=
      { name := "el-submenu", childTags := ["el-menu"], defaultAttributes := ["index"] }
    let row : Tag := { name := "el-row", childTags := ["el-col"] }
    let catalogue : Catalogue := .ofLists [menu, submenu, row, { name := "el-col" }] [] []
    (catalogue.expand 2 menu).prune? 2 0 =
        some (.node "el-menu" [] [.node "el-submenu" ["index"] []]) ∧
      catalogue.skeleton row 2 = catalogue.skeleton row 8 ∧
      catalogue.skeleton menu 4 ≠ catalogue.skeleton menu 8 := by
  intro menu submenu row catalogue
  have hdown : catalogue.Child menu submenu := ⟨"el-submenu", by decide, by decide⟩
  have hup : catalogue.Child submenu menu := ⟨"el-menu", by decide, by decide⟩
  -- from the row only its column is reached, which refers to nothing
  have hheight : ∀ chain : List Tag, (row :: chain).IsChain catalogue.Child →
      (row :: chain).length ≤ 2 := by
    intro chain hchain
    match chain with
    | [] => simp
    | [_] => simp
    | col :: other :: rest =>
        obtain ⟨⟨name, hname, hcol⟩, hrest⟩ := List.isChain_cons_cons.1 hchain
        obtain ⟨⟨_, hnone, _⟩, _⟩ := List.isChain_cons_cons.1 hrest
        obtain rfl : name = "el-col" := by simpa [row] using hname
        have hknown : catalogue.tag? "el-col" = some { name := "el-col" } := by decide
        obtain rfl : ({ name := "el-col" } : Tag) = col := Option.some.inj (hknown.symm.trans hcol)
        simp at hnone
  obtain ⟨_, hprune, _, hother⟩ := skeleton_of_smaller_depth catalogue menu
  obtain ⟨_, _, hsame, _⟩ := skeleton_of_smaller_depth catalogue row
  refine ⟨?_, hsame 2 hheight 2 8 (by decide) (by decide), ?_⟩
  · exact (hprune 2 3 (by decide) (by decide)).1.trans (by rfl)
  · exact hother menu .refl (.tail (.single hdown) hup) 4 8 (by decide) (by decide) (by decide)

end Catalogue
end MarkupAssist
