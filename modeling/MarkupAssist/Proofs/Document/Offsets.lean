import Mathlib.Data.Set.Operations
import MarkupAssist.Engine.Request
import MarkupAssist.Preview.Keyword
import MarkupAssist.Proofs.Document.Reading
import MarkupAssist.Proofs.Markup.Search

/-!
# Positions and offsets

A position that a document has is a place in its text, and every place in the text is one of
them. What is read up to a position is the beginning of the text that is as long as its offset
(`take_joined`), so offsets go up from one position to the next without a gap
(`offsetAt_bijOn`).

- `Document.places`    : the positions of a document, the ends of the lines included
- `Position.Before`    : line by line, and within a line from left to right
- `withReturns`        : a text with a carriage return at every line break
- `Document.AlikeAt`   : two positions at which everything has the same answer
-/

namespace MarkupAssist

/-! ## Line breaks -/

/-- A carriage return before every line feed. -/
def withReturns (cs : List Char) : List Char :=
  cs.flatMap fun c => if c = '\n' then ['\r', '\n'] else [c]

theorem dropReturn_cons {c : Char} (hc : c ≠ '\r') (line : List Char) :
    dropReturn (c :: line) = c :: dropReturn line := by
  cases line with
  | nil =>
      simp [dropReturn, hc]
  | cons d rest =>
      simp only [dropReturn, List.getLast?_cons_cons]
      split <;> rfl

theorem splitLines_cons {c : Char} (hc : c ≠ '\n') {rest line : List Char}
    {lines : List (List Char)} (h : splitLines rest = line :: lines) :
    splitLines (c :: rest) = (c :: line) :: lines := by
  simp [splitLines, hc, h]

theorem exists_splitLines (cs : List Char) : ∃ line lines, splitLines cs = line :: lines :=
  List.exists_cons_of_ne_nil (splitLines_ne_nil cs)

theorem map_dropReturn_splitLines {cs : List Char} (h : '\r' ∉ cs) :
    (splitLines cs).map dropReturn = splitLines cs := by
  induction cs with
  | nil =>
      rfl
  | cons c rest ih =>
      have hc : c ≠ '\r' := Ne.symm (List.ne_of_not_mem_cons h)
      have hlines := ih (List.not_mem_of_not_mem_cons h)
      by_cases hbreak : c = '\n'
      · rw [hbreak, splitLines_newline, List.map_cons, hlines]
        rfl
      · obtain ⟨line, lines, hsplit⟩ := exists_splitLines rest
        rw [hsplit, List.map_cons, List.cons.injEq] at hlines
        rw [splitLines_cons hbreak hsplit, List.map_cons, dropReturn_cons hc, hlines.1,
          hlines.2]

/-- The return before a line feed is dropped again, and nothing else is. -/
theorem map_dropReturn_splitLines_withReturns {cs : List Char} (h : '\r' ∉ cs) :
    (splitLines (withReturns cs)).map dropReturn = splitLines cs := by
  induction cs with
  | nil =>
      rfl
  | cons c rest ih =>
      have hc : c ≠ '\r' := Ne.symm (List.ne_of_not_mem_cons h)
      have hlines := ih (List.not_mem_of_not_mem_cons h)
      by_cases hbreak : c = '\n'
      · have hreturn : splitLines (withReturns (c :: rest)) =
            ['\r'] :: splitLines (withReturns rest) := by
          rw [hbreak]
          exact splitLines_cons (by decide) (splitLines_newline _)
        rw [hreturn, hbreak, splitLines_newline, List.map_cons, hlines]
        rfl
      · have hplain : withReturns (c :: rest) = c :: withReturns rest := by
          simp [withReturns, hbreak]
        obtain ⟨line, lines, hsplit⟩ := exists_splitLines (withReturns rest)
        rw [hsplit, List.map_cons] at hlines
        rw [hplain, splitLines_cons hbreak hsplit, List.map_cons, dropReturn_cons hc,
          splitLines_cons hbreak hlines.symm]

theorem intercalate_splitLines (cs : List Char) : ['\n'].intercalate (splitLines cs) = cs := by
  induction cs with
  | nil =>
      rfl
  | cons c rest ih =>
      obtain ⟨line, lines, hsplit⟩ := exists_splitLines rest
      by_cases hbreak : c = '\n'
      · rw [hbreak, splitLines_newline, List.intercalate_cons_of_ne_nil (splitLines_ne_nil rest), ih]
        rfl
      · rw [splitLines_cons hbreak hsplit]
        rw [hsplit] at ih
        cases lines with
        | nil =>
            simpa using ih
        | cons next lines =>
            rw [List.intercalate_cons_cons] at ih ⊢
            rw [List.cons_append, List.cons_append, ih]

theorem lines_ofText {source : String} (h : '\r' ∉ source.toList) :
    (Document.ofText source).lines = splitLines source.toList :=
  map_dropReturn_splitLines h

theorem ofText_withReturns {source : String} (h : '\r' ∉ source.toList) :
    Document.ofText (String.ofList (withReturns source.toList)) = Document.ofText source := by
  have hlines := map_dropReturn_splitLines_withReturns h
  rw [← String.toList_ofList (l := withReturns source.toList), ← lines_ofText h] at hlines
  exact Document.ext hlines

theorem joined_ofText {source : String} (h : '\r' ∉ source.toList) :
    (Document.ofText source).joined = source.toList := by
  rw [Document.joined, lines_ofText h, intercalate_splitLines]

/-! ## Positions in order -/

/-- Line by line, and within a line from left to right. -/
def Position.Before (p q : Position) : Prop :=
  p.line < q.line ∨ p.line = q.line ∧ p.character < q.character

theorem Position.before_or_eq_or_before (p q : Position) : p.Before q ∨ p = q ∨ q.Before p := by
  obtain ⟨n, k⟩ := p
  obtain ⟨m, l⟩ := q
  simp only [Before, Position.mk.injEq]
  omega

namespace Document

variable {document : Document} {p q : Position}

def places (document : Document) : Set Position :=
  {p | document.Contains p ∧ p.character ≤ (document.lineText p.line).length}

theorem offsetAt_lt_of_before (hp : p ∈ document.places) (hq : q ∈ document.places)
    (h : p.Before q) : document.offsetAt p < document.offsetAt q := by
  have hstartp : document.offsetAt p = document.offsetAt ⟨p.line, 0⟩ + p.character :=
    offsetAt_eq_add hp.2
  have hstartq : document.offsetAt q = document.offsetAt ⟨q.line, 0⟩ + q.character :=
    offsetAt_eq_add hq.2
  rcases h with hline | ⟨hline, hcharacter⟩
  · have hnext := offsetAt_succ hp.1
    have hmono : document.offsetAt ⟨p.line + 1, 0⟩ ≤ document.offsetAt ⟨q.line, 0⟩ :=
      offsetAt_mono hline (Nat.le_of_lt hq.1)
    have hcharacter := hp.2
    omega
  · rw [hline] at hstartp
    omega

theorem offsetAt_injOn (document : Document) : Set.InjOn document.offsetAt document.places := by
  intro p hp q hq heq
  rcases p.before_or_eq_or_before q with hbefore | rfl | hbefore
  · exact absurd heq (Nat.ne_of_lt (offsetAt_lt_of_before hp hq hbefore))
  · rfl
  · exact absurd heq.symm (Nat.ne_of_lt (offsetAt_lt_of_before hq hp hbefore))

/-! ## The text up to a position -/

theorem take_joined (h : document.Contains p) :
    document.joined.take (document.offsetAt p) = document.readUpTo p := by
  rw [← length_readUpTo]
  exact (List.prefix_iff_eq_take.1 (readUpTo_prefix_joined h)).symm

theorem offsetAt_le_joined (h : document.Contains p) :
    document.offsetAt p ≤ document.joined.length := by
  rw [← length_readUpTo]
  exact (readUpTo_prefix_joined h).length_le

/-- What stands before a line, then the line and the lines below it. -/
theorem joined_eq_append {n : Nat} (h : n < document.lineCount) :
    document.joined = document.readUpTo ⟨n, 0⟩ ++
      ['\n'].intercalate (document.lineText n :: document.lines.drop (n + 1)) := by
  have hlines : document.lines =
      document.lines.take n ++ document.lineText n :: document.lines.drop (n + 1) := by
    have hn : n < document.lines.length := h
    simp [lineText, line?, hn]
  have hread : document.readUpTo ⟨n, 0⟩ = (document.lines.take n).flatMap (· ++ ['\n']) := by
    simp [readUpTo, textBefore]
  calc
    document.joined = ['\n'].intercalate
        (document.lines.take n ++ document.lineText n :: document.lines.drop (n + 1)) :=
      congrArg _ hlines
    _ = _ := by
      rw [intercalate_break_append, hread]

/-- From a position on there is the rest of its line, and then nothing or a line feed. -/
theorem exists_drop_joined {n k : Nat} (h : n < document.lineCount)
    (hk : k ≤ (document.lineText n).length) :
    ∃ rest, document.joined.drop (document.offsetAt ⟨n, k⟩) =
        (document.lineText n).drop k ++ rest ∧ ∀ c, rest.head? = some c → c = '\n' := by
  have hlines : ∃ rest, ['\n'].intercalate (document.lineText n :: document.lines.drop (n + 1)) =
      document.lineText n ++ rest ∧ ∀ c, rest.head? = some c → c = '\n' := by
    cases document.lines.drop (n + 1) with
    | nil =>
        exact ⟨[], by simp, by simp⟩
    | cons next more =>
        exact ⟨'\n' :: ['\n'].intercalate (next :: more), by simp [List.intercalate_cons_cons],
          by simp⟩
  obtain ⟨rest, hrest, hbreak⟩ := hlines
  refine ⟨rest, ?_, hbreak⟩
  rw [joined_eq_append h, hrest, offsetAt_eq_add hk, ← length_readUpTo,
    List.drop_length_add_append, List.drop_append_of_le_length hk]

/-- The last position of the document is the end of the text. -/
theorem readUpTo_end (document : Document) :
    document.readUpTo ⟨document.lastLine, (document.lineText document.lastLine).length⟩ =
      document.joined := by
  have hcount : document.lastLine + 1 = document.lineCount :=
    Nat.sub_add_cancel document.lineCount_pos
  have hbelow : document.lines.drop (document.lastLine + 1) = [] :=
    List.drop_of_length_le (Nat.le_of_eq hcount.symm)
  rw [joined_eq_append (Nat.lt_of_succ_le (Nat.le_of_eq hcount)), hbelow,
    List.intercalate_singleton, readUpTo_eq_append, textBefore_of_length_le (Nat.le_refl _)]

/-- The next place is the next character of the line, or the start of the next line. -/
theorem exists_next (hp : p ∈ document.places)
    (h : document.offsetAt p < document.joined.length) :
    ∃ q ∈ document.places, document.offsetAt q = document.offsetAt p + 1 := by
  obtain ⟨n, k⟩ := p
  obtain ⟨hline, hcharacter⟩ := hp
  simp only [Contains] at hline hcharacter
  have hstart := offsetAt_eq_add hcharacter
  by_cases hinside : k < (document.lineText n).length
  · refine ⟨⟨n, k + 1⟩, ⟨hline, hinside⟩, ?_⟩
    rw [offsetAt_eq_add hinside, hstart, Nat.add_assoc]
  · have hend : k = (document.lineText n).length := Nat.le_antisymm hcharacter (Nat.le_of_not_lt hinside)
    by_cases hnext : n + 1 < document.lineCount
    · refine ⟨⟨n + 1, 0⟩, ⟨hnext, Nat.zero_le _⟩, ?_⟩
      rw [offsetAt_succ hline, hstart, hend]
    · have hlast : n = document.lastLine := by
        simp only [lastLine]
        omega
      rw [← length_readUpTo, hend, hlast, readUpTo_end] at h
      exact absurd h (Nat.lt_irrefl _)

theorem exists_place {n : Nat} (h : n ≤ document.joined.length) :
    ∃ p ∈ document.places, document.offsetAt p = n := by
  induction n with
  | zero =>
      exact ⟨⟨0, 0⟩, ⟨document.lineCount_pos, Nat.zero_le _⟩, by simp [offsetAt]⟩
  | succ n ih =>
      obtain ⟨p, hp, rfl⟩ := ih (Nat.le_of_succ_le h)
      exact exists_next hp h

theorem offsetAt_bijOn (document : Document) :
    Set.BijOn document.offsetAt document.places {n | n ≤ document.joined.length} :=
  ⟨fun _ hp => offsetAt_le_joined hp.1, document.offsetAt_injOn, fun _ hn => exists_place hn⟩

/-! ## The character before a position -/

/-- The column of a position, a character beyond the end of the line being the end. -/
def columnOf (document : Document) (p : Position) : Nat :=
  min p.character (document.lineText p.line).length

theorem length_textBefore (document : Document) (p : Position) :
    (document.textBefore p).length = document.columnOf p :=
  List.length_take

theorem textBefore_eq_take (document : Document) (p : Position) :
    document.textBefore p = (document.lineText p.line).take (document.columnOf p) :=
  List.take_eq_take_min

theorem charBefore?_of_start (h : document.columnOf p = 0) : document.charBefore? p = none := by
  rw [← length_textBefore, List.length_eq_zero_iff] at h
  rw [charBefore?, h, List.getLast?_nil]

theorem charBefore?_of_pos (hcontains : document.Contains p) (h : 0 < document.columnOf p) :
    ∃ c, document.charBefore? p = some c ∧
      document.joined[document.offsetAt p - 1]? = some c := by
  have hne : document.textBefore p ≠ [] :=
    List.ne_nil_of_length_pos (by rwa [length_textBefore])
  have hlast : document.charBefore? p = some ((document.textBefore p).getLast hne) :=
    List.getLast?_eq_some_getLast hne
  have hpos : document.offsetAt p - 1 < document.offsetAt p := by
    have hcolumn : document.columnOf p ≤ document.offsetAt p := Nat.le_add_left _ _
    omega
  refine ⟨_, hlast, ?_⟩
  -- what is read up to the position ends in the text of the line before it
  calc
    document.joined[document.offsetAt p - 1]?
      = (document.joined.take (document.offsetAt p))[document.offsetAt p - 1]? :=
        (List.getElem?_take_of_lt hpos).symm
    _ = (document.readUpTo p)[(document.readUpTo p).length - 1]? := by
        rw [take_joined hcontains, length_readUpTo]
    _ = (document.readUpTo p).getLast? := List.getLast?_eq_getElem?.symm
    _ = some ((document.textBefore p).getLast hne) := by
        rw [readUpTo, List.getLast?_append, List.getLast?_eq_some_getLast hne, Option.some_or]

/-! ## Beyond the end of a line -/

/-- Nothing tells the two positions apart. -/
structure AlikeAt (document : Document) (p q : Position) : Prop where
  textBefore : document.textBefore p = document.textBefore q
  charBefore : document.charBefore? p = document.charBefore? q
  offset : document.offsetAt p = document.offsetAt q
  word : document.typedWord p = document.typedWord q
  keyword : Preview.keywordAt? document p = Preview.keywordAt? document q
  context (settings : CompletionSettings) :
    Markup.classify document p settings = Markup.classify document q settings
  suggestions (engine : Engine) (language : String) (cancelled : Bool) :
    engine.complete ⟨document, p, language⟩ cancelled =
      engine.complete ⟨document, q, language⟩ cancelled

theorem classify_of_textBefore {n k l : Nat}
    (h : document.textBefore ⟨n, k⟩ = document.textBefore ⟨n, l⟩) (settings : CompletionSettings) :
    Markup.classify document ⟨n, k⟩ settings = Markup.classify document ⟨n, l⟩ settings := by
  by_cases hk : document.Contains ⟨n, k⟩
  · have hl : document.Contains ⟨n, l⟩ := hk
    have hscan : Markup.scanTag document ⟨n, k⟩ settings = Markup.scanTag document ⟨n, l⟩ settings :=
      Markup.enclosingTag_congr hk hl rfl (by rw [h]) settings.lookbackLines
    have hscript : Markup.underScript document ⟨n, k⟩ settings =
        Markup.underScript document ⟨n, l⟩ settings := rfl
    by_cases hfound : ∃ tag, Markup.scanTag document ⟨n, l⟩ settings = .found tag
    · obtain ⟨tag, hfound⟩ := hfound
      rw [Markup.classify_of_found (hscan.trans hfound), Markup.classify_of_found hfound,
        Markup.valuedAttribute?, Markup.valuedAttribute?, h]
    · have hnone := not_exists.1 hfound
      rw [Markup.classify_of_not_found hk (hscan ▸ hnone), Markup.classify_of_not_found hl hnone,
        hscan, hscript, Markup.startsTag, Markup.startsTag, charBefore?, charBefore?, h]
  · have hl : ¬ document.Contains ⟨n, l⟩ := hk
    rw [Markup.classify_of_not_contains hk, Markup.classify_of_not_contains hl]

/-- Columns are all that counts within a line. -/
theorem alikeAt_of_column (hline : p.line = q.line)
    (hcolumn : document.columnOf p = document.columnOf q) : document.AlikeAt p q := by
  obtain ⟨n, k⟩ := p
  obtain ⟨m, l⟩ := q
  obtain rfl : n = m := hline
  have htext : document.textBefore ⟨n, k⟩ = document.textBefore ⟨n, l⟩ := by
    rw [textBefore_eq_take, textBefore_eq_take, hcolumn]
  have hcontext := classify_of_textBefore htext
  have hword : document.typedWord ⟨n, k⟩ = document.typedWord ⟨n, l⟩ :=
    congrArg Text.lastWord htext
  refine ⟨htext, congrArg List.getLast? htext, congrArg (_ + ·) hcolumn, hword, ?_, hcontext, ?_⟩
  · have hline : ∀ line, document.line? n = some line → min k line.length = min l line.length := by
      intro line hfound
      simpa [columnOf, lineText, hfound] using hcolumn
    cases hfound : document.line? n with
    | none =>
        simp [Preview.keywordAt?, hfound]
    | some line =>
        simp [Preview.keywordAt?, hfound, hline line hfound]
  · intro engine language cancelled
    cases cancelled with
    | true =>
        rfl
    | false =>
        simp only [Engine.complete_eq_suggest, Engine.suggest, Engine.classify, hcontext, hword]

/-! ## Texts -/

/-- In a text without carriage returns positions and offsets correspond one to one, in order, and
its lines do not depend on how line breaks are written. What stands before a position is the
beginning of the text, up to its offset, and beyond the end of a line there is nothing new. -/
theorem offsets_of_text {source : String} (h : '\r' ∉ source.toList) :
    let document := Document.ofText source
    document.joined = source.toList ∧
    Document.ofText (String.ofList (withReturns source.toList)) = document ∧
    (∀ p ∈ document.places, ∀ q ∈ document.places,
      p.Before q → document.offsetAt p < document.offsetAt q) ∧
    Set.BijOn document.offsetAt document.places {n | n ≤ source.length} ∧
    (∀ p, document.Contains p → source.toList.take (document.offsetAt p) =
      (document.lines.take p.line).flatMap (· ++ ['\n']) ++ document.textBefore p) ∧
    (∀ p, document.columnOf p = 0 → document.charBefore? p = none) ∧
    (∀ p, document.Contains p → 0 < document.columnOf p →
      ∃ c, document.charBefore? p = some c ∧
        source.toList[document.offsetAt p - 1]? = some c) ∧
    (∀ n k, (document.lineText n).length ≤ k →
      document.AlikeAt ⟨n, k⟩ ⟨n, (document.lineText n).length⟩) := by
  intro document
  have hjoined : document.joined = source.toList := joined_ofText h
  refine ⟨hjoined, ofText_withReturns h, ?_, ?_, ?_, ?_, ?_, ?_⟩
  · intro p hp q hq hbefore
    exact offsetAt_lt_of_before hp hq hbefore
  · rw [← String.length_toList, ← hjoined]
    exact document.offsetAt_bijOn
  · intro p hcontains
    rw [← hjoined]
    exact take_joined hcontains
  · intro p hstart
    exact charBefore?_of_start hstart
  · intro p hcontains hpos
    rw [← hjoined]
    exact charBefore?_of_pos hcontains hpos
  · intro n k hend
    have hcolumn : document.columnOf ⟨n, k⟩ =
        document.columnOf ⟨n, (document.lineText n).length⟩ := by
      rw [columnOf, columnOf, Nat.min_eq_right hend, Nat.min_self]
    exact alikeAt_of_column rfl hcolumn

theorem offsets_of_two_lines :
    '\r' ∉ "é\n<ü".toList ∧ Document.ofText "é\r\n<ü" = .ofText "é\n<ü" ∧
      (Document.ofText "é\n<ü").charBefore? ⟨1, 2⟩ = some 'ü' ∧
      (Document.ofText "é\n<ü").AlikeAt ⟨1, 9⟩ ⟨1, 2⟩ := by
  have hreturn : '\r' ∉ "é\n<ü".toList := by
    decide
  obtain ⟨_, hbreaks, _, _, _, _, hbefore, hbeyond⟩ := offsets_of_text hreturn
  refine ⟨hreturn, hbreaks, ?_, hbeyond 1 9 (by decide)⟩
  obtain ⟨c, hc, hsource⟩ := hbefore ⟨1, 2⟩ (by decide) (by decide)
  have hlast : "é\n<ü".toList[(Document.ofText "é\n<ü").offsetAt ⟨1, 2⟩ - 1]? = some 'ü' := by
    decide
  rw [hc, ← hsource, hlast]

end Document
end MarkupAssist
