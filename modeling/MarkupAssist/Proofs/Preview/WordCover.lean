import MarkupAssist.Preview.Keyword

/-!
# The words of a line

The words of a line are put side by side: none of them shares a character with another, and
together they hold all that a word can be made of. So there is a keyword wherever a word
touches the cursor, and nowhere else.

- `isCovered`       : a character that belongs to some word
- `IsNumber`        : a number with a point, and what follows its digits
- `Word.StandsIn`   : a word of a line, as long as it can be
- `Tiles`           : words side by side, with gaps where nothing is covered
- `wordAt?`         : the word at a column, with the place where it stands

The reading of a line leaves a tiling (`tiles_words`); what the words are like and which of them
a column finds follows from that alone.
-/

namespace MarkupAssist
namespace Preview

open Text (isDigit isSpace isWordChar withinBorders)

/-! ## Characters -/

/-- White space and punctuation, by their numbers. -/
def separatorCodes : List Nat :=
  List.range' 0x9 5 ++ [0x20, 0x85, 0xA0, 0x1680] ++ List.range' 0x2000 11 ++
    [0x2028, 0x2029, 0x202F, 0x205F, 0x3000] ++ punctuation.map Char.toNat

theorem mem_separatorCodes {c : Char} (h : isPlain c = false) : c.toNat ∈ separatorCodes := by
  have hcase : c ∈ punctuation ∨ isSpace c = true := by
    by_cases hmark : c ∈ punctuation
    · exact .inl hmark
    · exact .inr (by simpa [isPlain, hmark] using h)
  rcases hcase with hmark | hspace
  · exact List.mem_append_right _ (List.mem_map_of_mem hmark)
  · refine List.mem_append_left _ ?_
    simp only [isSpace, Bool.or_eq_true, Bool.and_eq_true, decide_eq_true_eq, beq_iff_eq] at hspace
    simp only [List.mem_append, List.mem_range'_1, List.mem_cons, List.not_mem_nil, or_false]
    omega

/-- A class of characters that holds no separator is a class of plain characters. -/
theorem isPlain_of_withinBorders {borders : List Nat}
    (hborders : separatorCodes.all (fun n => !withinBorders borders n) = true) {c : Char}
    (h : withinBorders borders c.toNat = true) : isPlain c = true := by
  cases hplain : isPlain c with
  | true =>
      rfl
  | false =>
      have hnot := List.all_eq_true.1 hborders _ (mem_separatorCodes hplain)
      simp [h] at hnot

theorem isPlain_of_isWordChar {c : Char} (h : isWordChar c = true) : isPlain c = true :=
  isPlain_of_withinBorders (by decide +kernel) h

theorem isPlain_of_isDigit {c : Char} (h : isDigit c = true) : isPlain c = true :=
  isPlain_of_withinBorders (by decide +kernel) h

/-- A plain character, or a point with a digit right behind it. -/
def isCovered (line : List Char) (column : Nat) : Bool :=
  match line.drop column with
  | [] => false
  | c :: rest => isPlain c || (c == '.' && rest.head?.any isDigit)

theorem isCovered_of_drop {line rest : List Char} {column : Nat} {c : Char}
    (h : line.drop column = c :: rest) :
    isCovered line column = (isPlain c || (c == '.' && rest.head?.any isDigit)) := by
  rw [isCovered, h]

theorem isCovered_of_plain {cs : List Char} {column : Nat} {c : Char}
    (hc : cs[column]? = some c) (hplain : isPlain c = true) : isCovered cs column = true := by
  obtain ⟨hlt, rfl⟩ := List.getElem?_eq_some_iff.1 hc
  rw [isCovered_of_drop (List.drop_eq_getElem_cons hlt), hplain, Bool.true_or]

/-! ## Numbers -/

/-- Digits, a point with a digit behind it, and word characters. -/
def IsUnsigned (word : List Char) : Prop :=
  ∃ whole digit rest, word = whole ++ '.' :: digit :: rest ∧ (∀ c ∈ whole, isDigit c = true) ∧
    isDigit digit = true ∧ ∀ c ∈ rest, isWordChar c = true

/-- The same with at most one hyphen before it. -/
def IsNumber (word : List Char) : Prop :=
  ∃ sign unsigned, word = sign ++ unsigned ∧ (sign = [] ∨ sign = ['-']) ∧ IsUnsigned unsigned

/-- What follows does not begin with a character of the class. -/
def Stops (kind : Char → Bool) (more : List Char) : Prop :=
  ∀ c, more.head? = some c → kind c = false

theorem stops_dropWhile (kind : Char → Bool) (cs : List Char) : Stops kind (cs.dropWhile kind) := by
  intro c hc
  have hhead := List.head?_dropWhile_not kind cs
  simpa [hc] using hhead

theorem exists_fraction {cs : List Char} (h : fractionLength cs ≠ 0) :
    ∃ digit more, cs = '.' :: digit :: more ∧ isDigit digit = true := by
  unfold fractionLength at h
  split at h
  · next digit more =>
      split at h
      · next hdigit =>
          exact ⟨digit, more, rfl, hdigit⟩
      · exact absurd rfl h
  · exact absurd rfl h

theorem fractionLength_point {digit : Char} (hdigit : isDigit digit = true) (more : List Char) :
    fractionLength ('.' :: digit :: more) = 2 + (more.takeWhile isWordChar).length := by
  simp [fractionLength, hdigit]

theorem unsignedLength_eq (cs : List Char) :
    unsignedLength cs =
      if fractionLength (cs.dropWhile isDigit) = 0 then 0
      else (cs.takeWhile isDigit).length + fractionLength (cs.dropWhile isDigit) := by
  have hdrop : cs.drop (cs.takeWhile isDigit).length = cs.dropWhile isDigit :=
    calc
      cs.drop (cs.takeWhile isDigit).length
        = (cs.takeWhile isDigit ++ cs.dropWhile isDigit).drop (cs.takeWhile isDigit).length := by
          rw [List.takeWhile_append_dropWhile]
      _ = cs.dropWhile isDigit := List.drop_left
  rw [unsignedLength, hdrop]
  cases fractionLength (cs.dropWhile isDigit) with
  | zero =>
      rfl
  | succ n =>
      simp

theorem exists_unsigned {cs : List Char} (h : unsignedLength cs ≠ 0) :
    ∃ word more, cs = word ++ more ∧ IsUnsigned word ∧ Stops isWordChar more ∧
      unsignedLength cs = word.length := by
  rw [unsignedLength_eq] at h ⊢
  split at h
  · exact absurd rfl h
  · next hfraction =>
      obtain ⟨digit, more, hrest, hdigit⟩ := exists_fraction hfraction
      have hcs : cs = cs.takeWhile isDigit ++ '.' :: digit :: more := by
        rw [← hrest, List.takeWhile_append_dropWhile]
      refine ⟨cs.takeWhile isDigit ++ '.' :: digit :: more.takeWhile isWordChar,
        more.dropWhile isWordChar, ?_, ?_, stops_dropWhile isWordChar more, ?_⟩
      · rw [List.append_assoc, List.cons_append, List.cons_append,
          List.takeWhile_append_dropWhile, ← hcs]
      · exact ⟨_, digit, _, rfl, fun c hc => List.all_eq_true.1 List.all_takeWhile c hc, hdigit,
          fun c hc => List.all_eq_true.1 List.all_takeWhile c hc⟩
      · rw [if_neg hfraction, hrest, fractionLength_point hdigit, List.length_append]
        simp only [List.length_cons]
        omega

theorem unsignedLength_ne_zero {word : List Char} (h : IsUnsigned word) (more : List Char) :
    unsignedLength (word ++ more) ≠ 0 := by
  obtain ⟨whole, digit, rest, rfl, hwhole, hdigit, _⟩ := h
  have hdrop : (whole ++ '.' :: digit :: (rest ++ more)).dropWhile isDigit =
      '.' :: digit :: (rest ++ more) := by
    rw [List.dropWhile_append_of_pos hwhole]
    exact List.dropWhile_cons_of_neg (by decide +kernel)
  rw [List.append_assoc, List.cons_append, List.cons_append, unsignedLength_eq, hdrop,
    fractionLength_point hdigit, if_neg (by omega)]
  omega

theorem exists_number {cs : List Char} (h : numberLength cs ≠ 0) :
    ∃ word more, cs = word ++ more ∧ IsNumber word ∧ Stops isWordChar more ∧
      numberLength cs = word.length := by
  unfold numberLength at h ⊢
  split
  · next rest =>
      have hrest : unsignedLength rest ≠ 0 := by
        intro hzero
        simp [hzero] at h
      obtain ⟨word, more, rfl, hword, hmore, hlength⟩ := exists_unsigned hrest
      refine ⟨'-' :: word, more, rfl, ⟨['-'], word, rfl, .inr rfl, hword⟩, hmore, ?_⟩
      obtain ⟨n, hn⟩ := Nat.exists_eq_succ_of_ne_zero hrest
      rw [hn, List.length_cons, ← hlength, hn]
  · next hsign =>
      have hcs : unsignedLength cs ≠ 0 := by
        simpa using h
      obtain ⟨word, more, rfl, hword, hmore, hlength⟩ := exists_unsigned hcs
      exact ⟨word, more, rfl, ⟨[], word, rfl, .inl rfl, hword⟩, hmore, hlength⟩

/-- A hyphen is neither a digit nor a point. -/
theorem IsUnsigned.head_ne_hyphen {word : List Char} (h : IsUnsigned word) (more rest : List Char) :
    word ++ more ≠ '-' :: rest := by
  obtain ⟨whole, digit, tail, rfl, hwhole, _, _⟩ := h
  intro heq
  cases whole with
  | nil =>
      simp at heq
  | cons c whole =>
      have hc : c = '-' := by
        simpa using congrArg List.head? heq
      have hdigit := hwhole c (by simp)
      rw [hc] at hdigit
      exact absurd hdigit (by decide +kernel)

theorem numberLength_ne_zero {word : List Char} (h : IsNumber word) (more : List Char) :
    numberLength (word ++ more) ≠ 0 := by
  obtain ⟨sign, unsigned, rfl, rfl | rfl, hunsigned⟩ := h
  · rw [List.nil_append]
    unfold numberLength
    split
    · next rest heq =>
        exact absurd heq (hunsigned.head_ne_hyphen more rest)
    · exact unsignedLength_ne_zero hunsigned more
  · obtain ⟨n, hn⟩ := Nat.exists_eq_succ_of_ne_zero (unsignedLength_ne_zero hunsigned more)
    rw [List.cons_append, List.nil_append, List.cons_append, numberLength, hn]
    exact Nat.succ_ne_zero _

/-- All of a number is plain but its point, behind which there is a digit. -/
theorem IsNumber.exists_point {word : List Char} (h : IsNumber word) :
    ∃ front digit rest, word = front ++ '.' :: digit :: rest ∧ (∀ c ∈ front, isPlain c = true) ∧
      isDigit digit = true ∧ ∀ c ∈ digit :: rest, isPlain c = true := by
  obtain ⟨sign, unsigned, rfl, hsign, whole, digit, rest, rfl, hwhole, hdigit, hrest⟩ := h
  refine ⟨sign ++ whole, digit, rest, by simp, ?_, hdigit, ?_⟩
  · intro c hc
    rcases List.mem_append.1 hc with hc | hc
    · rcases hsign with rfl | rfl
      · simp at hc
      · obtain rfl := List.mem_singleton.1 hc
        decide
    · exact isPlain_of_isDigit (hwhole c hc)
  · intro c hc
    rcases List.mem_cons.1 hc with rfl | hc
    · exact isPlain_of_isDigit hdigit
    · exact isPlain_of_isWordChar (hrest c hc)

theorem IsNumber.isCovered {word : List Char} (h : IsNumber word) (more : List Char) {i : Nat}
    (hi : i < word.length) : isCovered (word ++ more) i = true := by
  obtain ⟨front, digit, rest, rfl, hfront, hdigit, hrest⟩ := h.exists_point
  rw [List.append_assoc, List.cons_append]
  rcases Nat.lt_trichotomy i front.length with hlt | rfl | hgt
  · refine isCovered_of_plain ?_ (hfront _ (List.getElem_mem hlt))
    rw [List.getElem?_append_left hlt, List.getElem?_eq_getElem hlt]
  · rw [isCovered_of_drop List.drop_left]
    simp [hdigit]
  · have hinside : i - (front.length + 1) < (digit :: rest).length := by
      simp only [List.length_append, List.length_cons] at hi ⊢
      omega
    refine isCovered_of_plain ?_ (hrest _ (List.getElem_mem hinside))
    have hi' : i - front.length = i - (front.length + 1) + 1 := by
      omega
    rw [List.getElem?_append_right (Nat.le_of_lt hgt), hi', List.getElem?_cons_succ,
      List.getElem?_append_left hinside, List.getElem?_eq_getElem hinside]

/-! ## Words -/

/-- What a text begins with: a number as long as it goes, or else, where no number begins, a run
of plain characters as long as it goes. -/
def IsFirstWord (word more : List Char) : Prop :=
  ('.' ∈ word ∧ IsNumber word ∧ Stops isWordChar more) ∨
    ('.' ∉ word ∧ Stops isPlain more ∧ ∀ front, front <+: word ++ more → ¬ IsNumber front)

theorem wordLength_eq (cs : List Char) :
    wordLength cs =
      if numberLength cs = 0 then (cs.takeWhile isPlain).length else numberLength cs := by
  unfold wordLength
  split <;> simp_all

theorem exists_first_word {cs : List Char} (h : wordLength cs ≠ 0) :
    ∃ word more, cs = word ++ more ∧ wordLength cs = word.length ∧ IsFirstWord word more ∧
      ∀ i < word.length, isCovered cs i = true := by
  rw [wordLength_eq] at h ⊢
  by_cases hnumber : numberLength cs = 0
  · rw [if_pos hnumber]
    refine ⟨cs.takeWhile isPlain, cs.dropWhile isPlain, List.takeWhile_append_dropWhile.symm, rfl,
      .inr ⟨?_, stops_dropWhile isPlain cs, ?_⟩, ?_⟩
    · intro hpoint
      have hplain : isPlain '.' = true := List.all_eq_true.1 List.all_takeWhile '.' hpoint
      exact absurd hplain (by decide)
    · rintro front ⟨back, hback⟩ hfront
      rw [List.takeWhile_append_dropWhile] at hback
      exact numberLength_ne_zero hfront back (hback ▸ hnumber)
    · intro i hi
      have hplain : isPlain (cs.takeWhile isPlain)[i] = true :=
        List.all_eq_true.1 List.all_takeWhile _ (List.getElem_mem hi)
      exact isCovered_of_plain
        (List.prefix_iff_getElem?.1 (List.takeWhile_prefix isPlain) i hi) hplain
  · rw [if_neg hnumber]
    obtain ⟨word, more, rfl, hword, hmore, hlength⟩ := exists_number hnumber
    obtain ⟨front, digit, rest, hpoint, _⟩ := hword.exists_point
    exact ⟨word, more, rfl, hlength, .inl ⟨by simp [hpoint], hword, hmore⟩,
      fun i hi => hword.isCovered more hi⟩

/-- Where nothing is read nothing is covered. -/
theorem not_isCovered_of_wordLength {cs : List Char} (h : wordLength cs = 0) :
    isCovered cs 0 = false := by
  have hnumber : numberLength cs = 0 := by
    by_cases hnumber : numberLength cs = 0
    · exact hnumber
    · rwa [wordLength_eq, if_neg hnumber] at h
  rw [wordLength_eq, if_pos hnumber] at h
  cases cs with
  | nil =>
      rfl
  | cons c rest =>
      have hplain : isPlain c = false := by
        cases hc : isPlain c with
        | false =>
            rfl
        | true =>
            simp [hc] at h
      rw [isCovered_of_drop List.drop_zero, hplain, Bool.false_or, Bool.and_eq_false_iff]
      -- a point with a digit behind it would begin a number
      cases rest with
      | nil =>
          exact .inr rfl
      | cons digit more =>
          cases hdigit : isDigit digit with
          | false =>
              exact .inr (by simp [hdigit])
          | true =>
              refine .inl (beq_eq_false_iff_ne.2 ?_)
              rintro rfl
              have hbegins : IsNumber ['.', digit] :=
                ⟨[], _, rfl, .inl rfl, [], digit, [], rfl, by simp, hdigit, by simp⟩
              exact numberLength_ne_zero hbegins more hnumber

/-! ## Words side by side -/

structure Word.StandsIn (word : Word) (line : List Char) : Prop where
  chars : line.drop word.column = word.chars ++ line.drop word.endColumn
  ne_nil : word.chars ≠ []
  covered : ∀ column, word.column ≤ column → column < word.endColumn →
    isCovered line column = true
  first : IsFirstWord word.chars (line.drop word.endColumn)

/-- The words of a line from a column on, with gaps where nothing is covered. -/
inductive Tiles (line : List Char) : Nat → List Word → Prop
  | ended {column : Nat} : line.length ≤ column → Tiles line column []
  | gap {column : Nat} {found : List Word} :
      isCovered line column = false → Tiles line (column + 1) found → Tiles line column found
  | word {word : Word} {found : List Word} :
      word.StandsIn line → Tiles line word.endColumn found → Tiles line word.column (word :: found)

theorem isCovered_drop (line : List Char) (column i : Nat) :
    isCovered (line.drop column) i = isCovered line (column + i) := by
  rw [isCovered, List.drop_drop, isCovered]

theorem standsIn_of_first {line word more : List Char} {column : Nat}
    (hline : line.drop column = word ++ more) (hne : word ≠ []) (hfirst : IsFirstWord word more)
    (hcovered : ∀ i < word.length, isCovered (line.drop column) i = true) :
    Word.StandsIn ⟨column, word⟩ line := by
  have hmore : line.drop (column + word.length) = more := by
    rw [← List.drop_drop, hline, List.drop_left]
  refine ⟨?_, hne, ?_, ?_⟩
  · rw [Word.endColumn, hmore, hline]
  · intro i hle hlt
    obtain ⟨k, rfl⟩ := Nat.exists_eq_add_of_le hle
    rw [← isCovered_drop]
    exact hcovered k (by simpa [Word.endColumn] using hlt)
  · rwa [Word.endColumn, hmore]

/-- So many characters as are taken belong to the word before. -/
theorem tiles_words {line cs : List Char} {column taken : Nat} (h : line.drop column = cs) :
    Tiles line (column + taken) (words column taken cs) := by
  induction cs generalizing column taken with
  | nil =>
      have hlength : line.length ≤ column := List.drop_eq_nil_iff.1 h
      simp only [words]
      exact .ended (Nat.le_add_right_of_le hlength)
  | cons c rest ih =>
      have hrest : line.drop (column + 1) = rest := by
        rw [← List.drop_drop, h, List.drop_one, List.tail_cons]
      cases taken with
      | succ taken =>
          have htiles : Tiles line (column + 1 + taken) (words (column + 1) taken rest) := ih hrest
          rw [words]
          rwa [Nat.add_right_comm] at htiles
      | zero =>
          rw [words]
          split
          · next hzero =>
              have hgap : isCovered line column = false := by
                have hnone := not_isCovered_of_wordLength hzero
                rwa [← h, isCovered_drop] at hnone
              have htiles : Tiles line (column + 1 + 0) (words (column + 1) 0 rest) := ih hrest
              exact .gap hgap htiles
          · next n hlength =>
              obtain ⟨word, more, hcs, hword, hfirst, hcovered⟩ :=
                exists_first_word (hlength ▸ Nat.succ_ne_zero n)
              have hcount : n + 1 = word.length := by
                rw [← hword, hlength]
              have htake : (c :: rest).take (n + 1) = word := by
                rw [hcs, hcount, List.take_left]
              have hne : word ≠ [] := List.ne_nil_of_length_pos (by omega)
              have hstands := standsIn_of_first (h.trans hcs) hne hfirst (h ▸ hcovered)
              have htiles : Tiles line (column + 1 + n) (words (column + 1) n rest) := ih hrest
              rw [htake]
              refine .word hstands ?_
              rwa [Word.endColumn, ← hcount, ← Nat.add_assoc, Nat.add_right_comm]

namespace Tiles

variable {line : List Char} {column : Nat} {found : List Word}

theorem standsIn (h : Tiles line column found) : ∀ word ∈ found, word.StandsIn line := by
  induction h with
  | ended _ =>
      simp
  | gap _ _ ih =>
      exact ih
  | word hword _ ih =>
      exact List.forall_mem_cons.2 ⟨hword, ih⟩

theorem le_column (h : Tiles line column found) : ∀ word ∈ found, column ≤ word.column := by
  induction h with
  | ended _ =>
      simp
  | gap _ _ ih =>
      intro word hmem
      exact Nat.le_of_succ_le (ih word hmem)
  | word _ _ ih =>
      refine List.forall_mem_cons.2 ⟨Nat.le_refl _, ?_⟩
      intro later hmem
      exact Nat.le_trans (Nat.le_add_right _ _) (ih later hmem)

/-- A word ends before the next one begins, or where it begins. -/
theorem pairwise (h : Tiles line column found) :
    found.Pairwise fun word later => word.endColumn ≤ later.column := by
  induction h with
  | ended _ =>
      exact .nil
  | gap _ _ ih =>
      exact ih
  | word _ hrest ih =>
      exact .cons hrest.le_column ih

theorem exists_word (h : Tiles line column found) {i : Nat} (hle : column ≤ i)
    (hcovered : isCovered line i = true) :
    ∃ word ∈ found, word.column ≤ i ∧ i < word.endColumn := by
  induction h with
  | ended hlength =>
      rw [isCovered, List.drop_of_length_le (Nat.le_trans hlength hle)] at hcovered
      simp at hcovered
  | @gap column found hgap _ ih =>
      have hne : column ≠ i := by
        rintro rfl
        simp [hgap] at hcovered
      exact ih (by omega)
  | @word word found _ _ ih =>
      by_cases hend : i < word.endColumn
      · exact ⟨word, by simp, hle, hend⟩
      · obtain ⟨later, hmem, hlater⟩ := ih (Nat.le_of_not_lt hend)
        exact ⟨later, by simp [hmem], hlater⟩

end Tiles

theorem tiles_line (line : List Char) : Tiles line 0 (words 0 0 line) := by
  have htiles : Tiles line (0 + 0) (words 0 0 line) := tiles_words List.drop_zero
  exact htiles

/-! ## The word at a column -/

/-- The word that is the keyword, with the place where it stands. -/
def wordAt? (line : List Char) (column : Nat) : Option Word :=
  (words 0 0 line).find? (·.touches column)

theorem keywordAt?_eq (document : Document) (position : Position) :
    keywordAt? document position = (document.line? position.line).bind fun line =>
      (wordAt? line (min position.character line.length)).map Word.chars := rfl

theorem Word.touches_iff {word : Word} {column : Nat} :
    word.touches column = true ↔ word.column ≤ column ∧ column ≤ word.endColumn := by
  simp [Word.touches]

theorem Word.StandsIn.column_lt {word : Word} {line : List Char} (h : word.StandsIn line) :
    word.column < word.endColumn :=
  Nat.lt_add_of_pos_right (List.length_pos_iff.2 h.ne_nil)

variable {line : List Char} {column : Nat} {word : Word}

theorem mem_words_of_wordAt? (h : wordAt? line column = some word) : word ∈ words 0 0 line :=
  List.mem_of_find?_eq_some h

theorem touches_of_wordAt? (h : wordAt? line column = some word) :
    word.column ≤ column ∧ column ≤ word.endColumn := by
  have htouches : word.touches column = true := by
    have hfound := List.find?_some h
    exact hfound
  exact Word.touches_iff.1 htouches

/-- Of two words that meet, the one that ends there is the word at the column. -/
theorem wordAt?_of_mem (hmem : word ∈ words 0 0 line) (hlt : word.column < column)
    (hle : column ≤ word.endColumn) : wordAt? line column = some word := by
  obtain ⟨front, back, hwords⟩ := List.mem_iff_append.1 hmem
  have hpairwise := (tiles_line line).pairwise
  rw [hwords] at hpairwise
  rw [wordAt?, hwords, List.find?_eq_some_iff_append]
  refine ⟨Word.touches_iff.2 ⟨Nat.le_of_lt hlt, hle⟩, front, back, rfl, ?_⟩
  intro earlier hearlier
  have hbefore : earlier.endColumn ≤ word.column :=
    (List.pairwise_append.1 hpairwise).2.2 earlier hearlier word (by simp)
  simp only [Bool.not_eq_true', Bool.eq_false_iff, ne_eq, Word.touches_iff]
  omega

/-- No word touches the column exactly if it has nothing that is covered on either side. -/
theorem wordAt?_eq_none_iff :
    wordAt? line column = none ↔
      ∀ i, i = column ∨ i + 1 = column → isCovered line i = false := by
  have htiles := tiles_line line
  rw [wordAt?, List.find?_eq_none]
  constructor
  · intro hnone i hi
    cases hcovered : isCovered line i with
    | false =>
        rfl
    | true =>
        obtain ⟨word, hmem, hle, hlt⟩ := htiles.exists_word (Nat.zero_le i) hcovered
        exact absurd (Word.touches_iff.2 (by omega)) (hnone word hmem)
  · intro hnot word hmem htouches
    have hstands := htiles.standsIn word hmem
    obtain ⟨hle, hge⟩ := Word.touches_iff.1 htouches
    have hlt := hstands.column_lt
    -- the word has a character on one side at least
    rcases Nat.eq_or_lt_of_le hle with rfl | hbefore
    · have hcovered := hstands.covered word.column hle hlt
      simp [hnot _ (.inl rfl)] at hcovered
    · have hcovered := hstands.covered (column - 1) (by omega) (by omega)
      simp [hnot (column - 1) (.inr (by omega))] at hcovered

theorem Word.StandsIn.endColumn_le (h : word.StandsIn line) : word.endColumn ≤ line.length := by
  have hlength := congrArg List.length h.chars
  have hlt := h.column_lt
  simp only [List.length_append, List.length_drop] at hlength
  simp only [Word.endColumn] at hlength hlt ⊢
  omega

/-- The words of all columns of a line. -/
def foundWords (line : List Char) : List Word :=
  (List.range (line.length + 1)).filterMap (wordAt? line)

theorem mem_foundWords_iff : word ∈ foundWords line ↔ word ∈ words 0 0 line := by
  rw [foundWords, List.mem_filterMap]
  constructor
  · rintro ⟨column, _, hfound⟩
    exact mem_words_of_wordAt? hfound
  · intro hmem
    have hstands := (tiles_line line).standsIn word hmem
    refine ⟨word.endColumn, List.mem_range.2 (Nat.lt_succ_of_le hstands.endColumn_le), ?_⟩
    exact wordAt?_of_mem hmem hstands.column_lt (Nat.le_refl _)

/-- Two words of a line are one, or one of them ends before the other begins. -/
theorem disjoint_of_mem_words {other : Word} (hword : word ∈ words 0 0 line)
    (hother : other ∈ words 0 0 line) :
    word = other ∨ word.endColumn ≤ other.column ∨ other.endColumn ≤ word.column := by
  obtain ⟨front, back, hwords⟩ := List.mem_iff_append.1 hword
  have hpairwise := (tiles_line line).pairwise
  rw [hwords] at hother hpairwise
  obtain ⟨_, hrest, hfront⟩ := List.pairwise_append.1 hpairwise
  rcases List.mem_append.1 hother with hother | hother
  · exact .inr (.inr (hfront other hother word (by simp)))
  · rcases List.mem_cons.1 hother with rfl | hother
    · exact .inl rfl
    · exact .inr (.inl ((List.pairwise_cons.1 hrest).1 other hother))

/-! ## Keywords -/

/-- There is a keyword exactly where a word touches the cursor. It stands on the line and cannot
be made longer. The words of a line are disjoint and hold all that is covered, and of two that meet
at the cursor the keyword is the one before it. -/
theorem keywords_of_line {document : Document} {n : Nat} {line : List Char}
    (h : document.line? n = some line) :
    (∀ character, keywordAt? document ⟨n, character⟩ = none ↔
      ∀ i, i = min character line.length ∨ i + 1 = min character line.length →
        isCovered line i = false) ∧
    (∀ character keyword, keywordAt? document ⟨n, character⟩ = some keyword ↔
      ∃ word, wordAt? line (min character line.length) = some word ∧ word.chars = keyword) ∧
    (∀ column word, wordAt? line column = some word →
      word.StandsIn line ∧ word.column ≤ column ∧ column ≤ word.endColumn) ∧
    (∀ word ∈ foundWords line, ∀ other ∈ foundWords line,
      word = other ∨ word.endColumn ≤ other.column ∨ other.endColumn ≤ word.column) ∧
    (∀ i, isCovered line i = true ↔
      ∃ word ∈ foundWords line, word.column ≤ i ∧ i < word.endColumn) ∧
    (∀ word ∈ foundWords line, ∀ other ∈ foundWords line, word.endColumn = other.column →
      wordAt? line other.column = some word) := by
  have htiles := tiles_line line
  simp only [keywordAt?_eq, h, Option.bind_some, Option.map_eq_none_iff, Option.map_eq_some_iff,
    wordAt?_eq_none_iff, mem_foundWords_iff]
  refine ⟨fun _ => trivial, fun _ _ => trivial, ?_, ?_, ?_, ?_⟩
  · intro column word hfound
    exact ⟨htiles.standsIn word (mem_words_of_wordAt? hfound), touches_of_wordAt? hfound⟩
  · intro word hword other hother
    exact disjoint_of_mem_words hword hother
  · intro i
    refine ⟨htiles.exists_word (Nat.zero_le i), ?_⟩
    rintro ⟨word, hword, hle, hlt⟩
    exact (htiles.standsIn word hword).covered i hle hlt
  · intro word hword other hother hmeet
    have hlt := (htiles.standsIn word hword).column_lt
    exact wordAt?_of_mem hword (hmeet ▸ hlt) (Nat.le_of_eq hmeet.symm)

theorem keywords_of_line_with_number :
    (Document.ofText "ab.5, -1").line? 0 = some "ab.5, -1".toList ∧
      keywordAt? (.ofText "ab.5, -1") ⟨0, 5⟩ = none ∧
      keywordAt? (.ofText "ab.5, -1") ⟨0, 4⟩ = some ".5".toList ∧
      wordAt? "ab.5, -1".toList 2 = some ⟨0, "ab".toList⟩ := by
  have hline : (Document.ofText "ab.5, -1").line? 0 = some "ab.5, -1".toList := by
    decide
  obtain ⟨hnone, hsome, _, _, _, hmeet⟩ := keywords_of_line hline
  refine ⟨hline, (hnone 5).2 ?_, (hsome 4 _).2 ⟨⟨2, ".5".toList⟩, by decide +kernel, rfl⟩, ?_⟩
  · intro i hi
    have hcases : i = 5 ∨ i = 4 := by
      simp at hi
      omega
    rcases hcases with rfl | rfl <;> decide +kernel
  · exact hmeet ⟨0, "ab".toList⟩ (by decide +kernel) ⟨2, ".5".toList⟩ (by decide +kernel) rfl

end Preview
end MarkupAssist
