import MarkupAssist.Proofs.Suggestion.AttributeLists

/-!
# Only the first letter of a word counts

A typed word takes attributes away from those that are suggested without it, and adds none. Which
ones are left is settled by its first letter, whatever comes after that and in whichever case it
is typed.

- `modeOf`                      : what is left of a word without its name
- `BeginsLike`                  : a label begins with a letter, in one of its cases
- `forAttributes_eq_filter`     : what a word leaves of the suggestions
- `forAttributes_of_typed_name` : the word and its mode, its further characters, its case
-/

namespace MarkupAssist
namespace Suggestion

/-! ## Typed words -/

/-- The shortest word that asks for events exactly if this one does. -/
def modeOf (typed : List Char) : List Char :=
  if typed.head? = some '@' then ['@'] else []

theorem ofTyped_modeOf (typed : List Char) :
    Wanted.ofTyped (modeOf typed) = ⟨typed.head? = some '@', none⟩ := by
  by_cases hevent : typed.head? = some '@'
  · simp [modeOf, hevent, Wanted.ofTyped]
  · simp [modeOf, hevent, Wanted.ofTyped]

/-! ## Letters -/

def BeginsLike (letter : Char) (label : String) : Prop :=
  label.toList.head?.map Text.lowercase = some (Text.lowercase letter)

instance (letter : Char) (label : String) : Decidable (BeginsLike letter label) :=
  inferInstanceAs (Decidable (label.toList.head?.map Text.lowercase = _))

theorem beginsLike_congr {first letter : Char} (h : Text.lowercase first = Text.lowercase letter)
    (label : String) : BeginsLike first label ↔ BeginsLike letter label := by
  rw [BeginsLike, BeginsLike, h]

theorem accepts_of_letter (events : Bool) (letter : Char) (name : String)
    (entry : Catalogue.Attribute) :
    (Wanted.mk events (some letter)).accepts name entry =
      (decide (BeginsLike letter name) && (Wanted.mk events none).accepts name entry) := by
  have hbegins : (Wanted.mk events (some letter)).beginsLike name =
      decide (BeginsLike letter name) := by
    rw [Bool.eq_iff_iff]
    cases hhead : name.toList.head? with
    | none =>
        simp [Wanted.beginsLike, BeginsLike, hhead]
    | some c =>
        simp [Wanted.beginsLike, BeginsLike, hhead]
  have hmode : (Wanted.mk events none).beginsLike name = true := rfl
  rw [Wanted.accepts, Wanted.accepts, hbegins, hmode, Bool.and_true, Bool.and_comm]

/-! ## What a word leaves -/

variable (catalogue : Catalogue) (settings : CompletionSettings) (tag : String)

theorem ofWanted_of_letter (events : Bool) (letter : Char) :
    ofWanted catalogue settings tag ⟨events, some letter⟩ =
      (ofWanted catalogue settings tag ⟨events, none⟩).filter (BeginsLike letter ·.label) := by
  -- the filter on labels goes below the map, where it is a filter on names beside that on modes
  rw [ofWanted, ofWanted, List.filter_map, List.filter_filter]
  simp only [accepts_of_letter]
  rfl

theorem forAttributes_modeOf (typed : List Char) :
    forAttributes catalogue tag (modeOf typed) settings =
      ofWanted catalogue settings tag ⟨typed.head? = some '@', none⟩ := by
  have hpossible : (Wanted.ofTyped (modeOf typed)).possible = true := by
    rw [ofTyped_modeOf]
    rfl
  rw [forAttributes_eq_ofWanted, if_pos hpossible, ofTyped_modeOf]

theorem forAttributes_eq_filter (typed : List Char) :
    forAttributes catalogue tag typed settings =
      match nameTyped typed with
      | [] => forAttributes catalogue tag (modeOf typed) settings
      | letter :: _ =>
          if letter.isAlpha then
            (forAttributes catalogue tag (modeOf typed) settings).filter
              (BeginsLike letter ·.label)
          else [] := by
  rw [forAttributes_eq_ofWanted, forAttributes_modeOf, ofTyped_eq]
  cases nameTyped typed with
  | nil =>
      rfl
  | cons letter rest =>
      rw [List.head?_cons, ofWanted_of_letter]
      rfl

variable {catalogue settings tag} {typed : List Char}

theorem forAttributes_of_no_name (hname : nameTyped typed = []) :
    forAttributes catalogue tag typed settings =
      forAttributes catalogue tag (modeOf typed) settings := by
  rw [forAttributes_eq_filter catalogue settings tag typed, hname]

theorem forAttributes_of_letter {letter : Char} {rest : List Char}
    (hname : nameTyped typed = letter :: rest) (hletter : letter.isAlpha = true) :
    forAttributes catalogue tag typed settings =
      (forAttributes catalogue tag (modeOf typed) settings).filter (BeginsLike letter ·.label) := by
  rw [forAttributes_eq_filter catalogue settings tag typed, hname]
  exact if_pos hletter

theorem forAttributes_of_no_letter {c : Char} {rest : List Char} (hname : nameTyped typed = c :: rest)
    (hother : c.isAlpha = false) : forAttributes catalogue tag typed settings = [] := by
  rw [forAttributes_eq_filter catalogue settings tag typed, hname]
  exact if_neg (by simp [hother])

theorem forAttributes_sublist (typed : List Char) :
    (forAttributes catalogue tag typed settings).Sublist
      (forAttributes catalogue tag (modeOf typed) settings) := by
  rw [forAttributes_eq_filter catalogue settings tag typed]
  split
  · exact List.Sublist.refl _
  · split
    · exact List.filter_sublist
    · exact List.nil_sublist _

/-- A word leaves all of its mode while it has no name, then what begins with the first letter of
the name, and nothing if that is no letter. What is typed after the letter changes nothing, nor
does its case. -/
theorem forAttributes_of_typed_name (catalogue : Catalogue) (settings : CompletionSettings)
    (tag : String) (typed : List Char) :
    let answer := fun word => forAttributes catalogue tag word settings
    (nameTyped typed = [] → answer typed = answer (modeOf typed)) ∧
    (∀ letter rest, nameTyped typed = letter :: rest → letter.isAlpha = true →
      answer typed = (answer (modeOf typed)).filter (BeginsLike letter ·.label) ∧
      ∀ other first more, modeOf other = modeOf typed → nameTyped other = first :: more →
        first.isAlpha = true → Text.lowercase first = Text.lowercase letter →
        answer other = answer typed) ∧
    (∀ c rest, nameTyped typed = c :: rest → c.isAlpha = false → answer typed = []) ∧
    (answer typed).Sublist (answer (modeOf typed)) ∧ modeOf typed ∈ [[], ['@']] := by
  intro answer
  refine ⟨forAttributes_of_no_name, ?_, ?_, forAttributes_sublist typed, ?_⟩
  · intro letter rest hname hletter
    refine ⟨forAttributes_of_letter hname hletter, ?_⟩
    intro other first more hmode hother hfirst hcase
    -- both words leave the same of the same mode: their letters differ in case at most
    calc
      answer other
          = (answer (modeOf other)).filter (BeginsLike first ·.label) :=
            forAttributes_of_letter hother hfirst
      _ = (answer (modeOf typed)).filter (BeginsLike letter ·.label) := by
            rw [hmode]
            exact List.filter_congr fun s _ => decide_eq_decide.2 (beginsLike_congr hcase s.label)
      _ = answer typed := (forAttributes_of_letter hname hletter).symm
  · intro c rest hname hother
    exact forAttributes_of_no_letter hname hother
  · rw [modeOf]
    split <;> simp

/-- The Kelvin sign is a capital of `k`, but nobody asks for anything with it. -/
theorem forAttributes_of_typed_kelvin :
    let catalogue : Catalogue :=
      .ofLists [{ name := "el-menu", attributes := ["mode", "keep", "\u212Aind", ""] }]
        [("mode", {}), ("\u212Aind", { kind := .flag }), ("keep", {}), ("", {}),
          ("key", { kind := .method, isGlobal := true }), ("Key", { isGlobal := true })] []
    let answer := fun word => forAttributes catalogue "el-menu" word {}
    (answer [':', 'k', 'e']).map Suggestion.label = ["keep", "\u212Aind", "Key"] ∧
      answer ['K'] = answer [':', 'k', 'e'] ∧ answer ['\u212A'] = [] ∧ answer [':'] = answer [] ∧
      (answer ['@', 'm']).Sublist (answer ['@']) := by
  intro catalogue answer
  have htyped := forAttributes_of_typed_name catalogue {} "el-menu"
  obtain ⟨hleft, hother⟩ := (htyped [':', 'k', 'e']).2.1 'k' ['e'] rfl rfl
  refine ⟨?_, ?_, ?_, ?_, ?_⟩
  · exact (congrArg (List.map Suggestion.label) hleft).trans (by decide +kernel)
  · exact hother ['K'] 'K' [] rfl rfl rfl (by decide)
  · exact (htyped ['\u212A']).2.2.1 '\u212A' [] rfl rfl
  · exact (htyped [':']).1 rfl
  · exact (htyped ['@', 'm']).2.2.2.1

end Suggestion
end MarkupAssist
