import MarkupAssist.Text.Space

/-!
# Words at the end of a text

A word without white space that follows a text which is empty or ends in white space is
the last word of the whole, and trimming leaves it as it is. Other texts are cut by trimming
at the first and the last character that is no white space (`exists_trim`, `trim_between`).
-/

namespace MarkupAssist
namespace Text

/-- The text is empty or ends in white space, so that the next character begins a word. -/
def startsWord (cs : List Char) : Bool :=
  cs.getLast?.all isSpace

theorem startsWord_append_space (cs : List Char) {c : Char} (hc : isSpace c = true) :
    startsWord (cs ++ [c]) = true := by
  simp [startsWord, hc]

theorem startsWord_append_blanks (cs : List Char) {blanks : List Char} (hne : blanks ≠ [])
    (hblanks : ∀ c ∈ blanks, isSpace c = true) : startsWord (cs ++ blanks) = true := by
  have hlast : isSpace (blanks.getLast hne) = true := hblanks _ (List.getLast_mem hne)
  simp [startsWord, List.getLast?_append, List.getLast?_eq_some_getLast hne, hlast]

/-- A text that holds one of certain characters ends in the last of them and others. -/
theorem exists_last {kind : Char → Bool} {cs : List Char} (h : ∃ c ∈ cs, kind c = true) :
    ∃ earlier last rest, cs = earlier ++ last :: rest ∧ kind last = true ∧
      ∀ c ∈ rest, kind c = false := by
  induction cs with
  | nil =>
      simp at h
  | cons first more ih =>
      by_cases hmore : ∃ c ∈ more, kind c = true
      · obtain ⟨earlier, last, rest, rfl, hlast, hrest⟩ := ih hmore
        exact ⟨first :: earlier, last, rest, rfl, hlast, hrest⟩
      · have hrest : ∀ c ∈ more, kind c = false := by
          intro c hc
          exact Bool.eq_false_iff.2 fun hkind => hmore ⟨c, hc, hkind⟩
        obtain ⟨c, hc, hkind⟩ := h
        rcases List.mem_cons.1 hc with rfl | hc
        · exact ⟨[], c, more, rfl, hkind, hrest⟩
        · exact absurd ⟨c, hc, hkind⟩ hmore

theorem lastWord_append {cs word : List Char} (hcs : startsWord cs = true)
    (hword : ∀ c ∈ word, isSpace c = false) :
    lastWord (cs ++ word) = word := by
  -- read backwards, the word is passed over and the white space before it stops the reading
  have hstop : cs.reverse.takeWhile (fun c => !isSpace c) = [] := by
    cases hrev : cs.reverse with
    | nil =>
        rfl
    | cons c rest =>
        have hlast : cs.getLast? = some c := by
          simp [List.getLast?_eq_head?_reverse, hrev]
        have hspace : isSpace c = true := by
          simpa [startsWord, hlast] using hcs
        simp [hspace]
  have hall : ∀ c ∈ word.reverse, (!isSpace c) = true := by
    intro c hc
    simpa using hword c (List.mem_reverse.1 hc)
  rw [lastWord, List.reverse_append, List.takeWhile_append_of_pos hall, hstop]
  simp

theorem lastWord_after_space (earlier : List Char) {space : Char} (hspace : isSpace space = true)
    {word : List Char} (hword : ∀ c ∈ word, isSpace c = false) :
    lastWord (earlier ++ space :: word) = word := by
  have hlast := lastWord_append (startsWord_append_space earlier hspace) hword
  simpa using hlast

theorem not_isSpace_of_mem_lastWord {cs : List Char} {c : Char} (hc : c ∈ lastWord cs) :
    isSpace c = false := by
  have hall : (cs.reverse.takeWhile fun c => !isSpace c).all (fun c => !isSpace c) = true :=
    List.all_takeWhile
  simpa using List.all_eq_true.1 hall c (List.mem_reverse.1 hc)

/-- What stands before the last word is empty or ends in white space. -/
theorem exists_append_lastWord (cs : List Char) :
    ∃ earlier, cs = earlier ++ lastWord cs ∧ startsWord earlier = true := by
  refine ⟨(cs.reverse.dropWhile fun c => !isSpace c).reverse, ?_, ?_⟩
  · rw [lastWord, ← List.reverse_append, List.takeWhile_append_dropWhile, List.reverse_reverse]
  · have hhead := List.head?_dropWhile_not (fun c => !isSpace c) cs.reverse
    rw [startsWord, List.getLast?_reverse]
    cases hfirst : (cs.reverse.dropWhile fun c => !isSpace c).head? with
    | none =>
        rfl
    | some c =>
        simpa [hfirst] using hhead

theorem trimStart_of_no_space {cs : List Char} (h : ∀ c ∈ cs, isSpace c = false) :
    trimStart cs = cs := by
  cases cs with
  | nil =>
      rfl
  | cons c rest =>
      simp [trimStart, h c (by simp)]

theorem trim_of_no_space {cs : List Char} (h : ∀ c ∈ cs, isSpace c = false) :
    trim cs = cs := by
  have hrev : ∀ c ∈ cs.reverse, isSpace c = false := by
    intro c hc
    exact h c (List.mem_reverse.1 hc)
  have hback : cs.reverse.dropWhile isSpace = cs.reverse := trimStart_of_no_space hrev
  rw [trim, trimStart_of_no_space h, trimEnd, hback, List.reverse_reverse]

/-! ## Trimming -/

theorem exists_trim (cs : List Char) :
    ∃ before after, cs = before ++ (trim cs ++ after) ∧ (∀ c ∈ before, isSpace c = true) ∧
      ∀ c ∈ after, isSpace c = true := by
  have hback : trimStart cs =
      trimEnd (trimStart cs) ++ ((trimStart cs).reverse.takeWhile isSpace).reverse := by
    rw [trimEnd, ← List.reverse_append, List.takeWhile_append_dropWhile, List.reverse_reverse]
  refine ⟨cs.takeWhile isSpace, ((trimStart cs).reverse.takeWhile isSpace).reverse, ?_, ?_, ?_⟩
  · calc
      cs = cs.takeWhile isSpace ++ trimStart cs := List.takeWhile_append_dropWhile.symm
      _ = _ := congrArg _ hback
  · intro c hc
    exact List.all_eq_true.1 List.all_takeWhile c hc
  · intro c hc
    exact List.all_eq_true.1 List.all_takeWhile c (List.mem_reverse.1 hc)

theorem trim_between {before middle after : List Char} {first last : Char}
    (hbefore : ∀ c ∈ before, isSpace c = true) (hafter : ∀ c ∈ after, isSpace c = true)
    (hfirst : isSpace first = false) (hlast : isSpace last = false) :
    trim (before ++ (first :: (middle ++ last :: after))) = first :: (middle ++ [last]) := by
  have hstart : trimStart (before ++ (first :: (middle ++ last :: after))) =
      first :: (middle ++ last :: after) := by
    rw [trimStart, List.dropWhile_append_of_pos hbefore]
    simp [hfirst]
  have hrev : (first :: (middle ++ last :: after)).reverse =
      after.reverse ++ (last :: (first :: middle).reverse) := by
    simp
  have hpass : ∀ c ∈ after.reverse, isSpace c = true := by
    intro c hc
    exact hafter c (List.mem_reverse.1 hc)
  rw [trim, hstart, trimEnd, hrev, List.dropWhile_append_of_pos hpass]
  simp [hlast]

end Text
end MarkupAssist
