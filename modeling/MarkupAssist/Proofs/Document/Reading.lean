import MarkupAssist.Document

/-!
# Reading a document from its start

All that stands before a position, as one text with a line feed for every line break, and the
part of it that lies on one line.

- `readUpTo`   : what stands before a position
- `readOfLine` : the part of it that lies on one line
- `joined`     : the whole text, which begins with what is read up to any position in it
-/

namespace MarkupAssist
namespace Document

variable {document : Document} {position : Position} {n : Nat}

/-- What is read of line `n` on the way to a position. -/
def readOfLine (document : Document) (position : Position) (n : Nat) : List Char :=
  if n < position.line then document.lineText n ++ ['\n'] else document.textBefore position

/-- All that stands before a position, a line feed for every line break. -/
def readUpTo (document : Document) (position : Position) : List Char :=
  (document.lines.take position.line).flatMap (· ++ ['\n']) ++ document.textBefore position

theorem length_flatMap_break (lines : List (List Char)) :
    (lines.flatMap (· ++ ['\n'])).length =
      lines.foldr (fun line count => line.length + 1 + count) 0 := by
  induction lines with
  | nil =>
      rfl
  | cons line rest ih =>
      rw [List.flatMap_cons, List.length_append, ih, List.length_append]
      rfl

theorem length_readUpTo (document : Document) (position : Position) :
    (document.readUpTo position).length = document.offsetAt position := by
  rw [readUpTo, List.length_append, length_flatMap_break, textBefore, List.length_take]
  rfl

theorem readUpTo_eq_append (document : Document) (n k : Nat) :
    document.readUpTo ⟨n, k⟩ = document.readUpTo ⟨n, 0⟩ ++ document.textBefore ⟨n, k⟩ := by
  simp [readUpTo, textBefore]

theorem offsetAt_eq_add {k : Nat} (h : k ≤ (document.lineText n).length) :
    document.offsetAt ⟨n, k⟩ = document.offsetAt ⟨n, 0⟩ + k := by
  simp [offsetAt, Nat.min_eq_left h]

theorem take_lines_succ (h : n < document.lineCount) :
    document.lines.take (n + 1) = document.lines.take n ++ [document.lineText n] := by
  have hn : n < document.lines.length := h
  rw [List.take_add_one]
  simp [lineText, line?, hn]

theorem readUpTo_succ (h : n < document.lineCount) :
    document.readUpTo ⟨n + 1, 0⟩ =
      document.readUpTo ⟨n, 0⟩ ++ (document.lineText n ++ ['\n']) := by
  simp [readUpTo, textBefore, take_lines_succ h]

theorem offsetAt_succ (h : n < document.lineCount) :
    document.offsetAt ⟨n + 1, 0⟩ =
      document.offsetAt ⟨n, 0⟩ + (document.lineText n).length + 1 := by
  rw [← length_readUpTo, readUpTo_succ h, List.length_append, length_readUpTo,
    List.length_append, Nat.add_assoc]
  rfl

theorem offsetAt_mono {m : Nat} (hle : m ≤ n) (h : n ≤ document.lineCount) :
    document.offsetAt ⟨m, 0⟩ ≤ document.offsetAt ⟨n, 0⟩ := by
  induction n with
  | zero =>
      have hzero : m = 0 := Nat.le_zero.1 hle
      simp [hzero]
  | succ n ih =>
      rcases Nat.lt_or_eq_of_le hle with hlt | rfl
      · have hstep : document.offsetAt ⟨n + 1, 0⟩ =
            document.offsetAt ⟨n, 0⟩ + (document.lineText n).length + 1 := offsetAt_succ h
        have hrest := ih (Nat.le_of_lt_succ hlt) (Nat.le_of_succ_le h)
        omega
      · exact Nat.le_refl _

/-- What stands before a character that is read is what has been read of its line. -/
theorem textBefore_of_readOfLine {front back : List Char} {c : Char}
    (h : document.readOfLine position n = front ++ c :: back) (hn : n ≤ position.line) :
    document.textBefore ⟨n, front.length⟩ = front := by
  have hprefix : front <+: document.lineText n := by
    rw [readOfLine] at h
    split at h
    -- what stands before the line break, or before a character of the line
    · have hfront : front <+: document.lineText n ++ ['\n'] := ⟨c :: back, h.symm⟩
      rcases List.prefix_concat_iff.1 hfront with heq | hprefix
      · have hlength := congrArg List.length h
        simp [heq] at hlength
      · exact hprefix
    · next hnot =>
        have heq : n = position.line := by
          omega
        have htake : document.textBefore position <+: document.lineText n := by
          rw [textBefore, heq]
          exact List.take_prefix _ _
        exact List.IsPrefix.trans ⟨c :: back, h.symm⟩ htake
  exact (List.prefix_iff_eq_take.1 hprefix).symm

/-! ## The whole text -/

/-- All lines, a line feed between any two of them. -/
def joined (document : Document) : List Char :=
  ['\n'].intercalate document.lines

theorem intercalate_break_append (front : List (List Char)) (line : List Char)
    (back : List (List Char)) :
    ['\n'].intercalate (front ++ line :: back) =
      front.flatMap (· ++ ['\n']) ++ ['\n'].intercalate (line :: back) := by
  induction front with
  | nil =>
      rfl
  | cons first rest ih =>
      rw [List.cons_append, List.intercalate_cons_of_ne_nil (by simp), ih]
      simp

theorem readUpTo_prefix_joined (h : document.Contains position) :
    document.readUpTo position <+: document.joined := by
  have hline : position.line < document.lines.length := h
  have hsplit : document.lines =
      document.lines.take position.line ++
        document.lineText position.line :: document.lines.drop (position.line + 1) := by
    simp [lineText, line?, hline]
  have hfirst : document.lineText position.line <+:
      ['\n'].intercalate (document.lineText position.line :: document.lines.drop (position.line + 1)) := by
    cases document.lines.drop (position.line + 1) with
    | nil =>
        simp
    | cons next rest =>
        simp [List.intercalate_cons_cons]
  have hbefore : document.textBefore position <+: document.lineText position.line :=
    List.take_prefix _ _
  rw [joined, hsplit, intercalate_break_append, readUpTo]
  exact (List.prefix_append_right_inj _).2 (hbefore.trans hfirst)

end Document
end MarkupAssist
