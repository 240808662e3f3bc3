import MarkupAssist.Json.Printer
import MarkupAssist.Json.Record

/-!
# Reading what is written

Readers on text that a value has been written as. A reader takes a part of the text off its
cursor and leaves the rest as it is; some readers have to see how the rest begins.

- `Reader.Takes`    : what a reader takes, what it has to see behind it, and what it gives
- `Reader.Takes.bind` : two readers one after the other
- `takes_text`      : a text after its opening quote, whatever characters it holds
- `readAll_of_takes` : a whole text
-/

namespace MarkupAssist
namespace Json

theorem Place.afterAll_append (place : Place) (front back : List Char) :
    place.afterAll (front ++ back) = (place.afterAll front).afterAll back := by
  simp [Place.afterAll]

namespace Reader

variable {α β : Type}

theorem bind_of_ok {x : Reader α} {cursor next : Cursor} {a : α} (h : x cursor = .ok a next)
    (f : α → Reader β) : (x >>= f) cursor = f a next := by
  change EStateM.bind x f cursor = f a next
  rw [EStateM.bind, h]

/-- The reader takes the written characters and gives `a`, wherever it starts and however the
text goes on, as long as that begins with `ahead`. -/
def Takes (reader : Reader α) (written ahead : List Char) (a : α) : Prop :=
  ∀ rest place, reader ⟨written ++ (ahead ++ rest), place⟩ =
    .ok a ⟨ahead ++ rest, place.afterAll written⟩

/-! ## Readers in sequence -/

theorem Takes.pure (a : α) (ahead : List Char) : Takes (pure a) [] ahead a := by
  intro rest place
  rfl

/-- A reader that sees more than it has to is not disturbed by it. -/
theorem Takes.mono {reader : Reader α} {written seen more : List Char} {a : α}
    (h : Takes reader written seen a) (hseen : seen <+: more) : Takes reader written more a := by
  intro rest place
  obtain ⟨behind, rfl⟩ := hseen
  have hread := h (behind ++ rest) place
  rwa [← List.append_assoc seen] at hread

/-- What the first reader has to see is the beginning of what the second one takes and sees. -/
theorem Takes.bind {x : Reader α} {f : α → Reader β} {front back seen ahead : List Char}
    {a : α} {b : β} (hx : Takes x front seen a) (hf : Takes (f a) back ahead b)
    (hseen : seen <+: back ++ ahead) : Takes (x >>= f) (front ++ back) ahead b := by
  intro rest place
  -- what the first reader sees is the text that is left for the second one
  have hfirst := hx.mono hseen rest place
  rw [List.append_assoc back] at hfirst
  rw [List.append_assoc, bind_of_ok hfirst, Place.afterAll_append]
  exact hf rest (place.afterAll front)

theorem Takes.map {x : Reader α} {written ahead : List Char} {a : α} (f : α → β)
    (h : Takes x written ahead a) : Takes (f <$> x) written ahead (f a) := by
  intro rest place
  change EStateM.map f x _ = _
  rw [EStateM.map, h rest place]

/-- A reader that sees nothing can be followed by anything. -/
theorem Takes.then {x : Reader α} {f : α → Reader β} {front back ahead : List Char}
    {a : α} {b : β} (hx : Takes x front [] a) (hf : Takes (f a) back ahead b) :
    Takes (x >>= f) (front ++ back) ahead b :=
  hx.bind hf (List.nil_prefix)

/-- The second reader takes nothing. -/
theorem Takes.only {x : Reader α} {f : α → Reader β} {written ahead : List Char} {a : α} {b : β}
    (hx : Takes x written ahead a) (hf : Takes (f a) [] ahead b) :
    Takes (x >>= f) written ahead b := by
  have h := hx.bind hf (List.prefix_refl _)
  rwa [List.append_nil] at h

theorem Takes.andThen {x : Reader α} {y : Reader β} {front back ahead : List Char} {a : α} {b : β}
    (hx : Takes x front [] a) (hy : Takes y back ahead b) :
    Takes (x *> y) (front ++ back) ahead b :=
  hx.then (f := fun _ => y) hy

/-- There may be as many repetitions as characters are taken, and one more. -/
theorem Takes.bounded {f : Nat → Reader α} {written ahead : List Char} {a : α}
    (h : ∀ n, written.length ≤ n → Takes (f (n + 1)) written ahead a) :
    Takes (bound >>= f) written ahead a := by
  intro rest place
  have hlength : written.length ≤ (written ++ (ahead ++ rest)).length := by
    simp
  exact h _ hlength rest place

theorem Takes.closedBy {body : Reader α} {close : Reader Unit} {front back seen ahead : List Char}
    {a : α} (hbody : Takes body front seen a) (hclose : Takes close back ahead ())
    (hseen : seen <+: back ++ ahead) :
    Takes (closedBy close body) (front ++ back) ahead a := by
  intro rest place
  have hfirst := hbody.mono hseen rest place
  rw [List.append_assoc back] at hfirst
  simp only [Reader.closedBy, List.append_assoc, hfirst, hclose rest, Place.afterAll_append]

/-! ## Tokens -/

variable {c : Char} {blanks : List Char}

theorem takes_advance (c : Char) : Takes advance [c] [] () := by
  intro rest place
  rfl

theorem takes_peek (c : Char) : Takes peek [] [c] (some c) := by
  intro rest place
  rfl

theorem takes_skipBlanks (hblanks : ∀ b ∈ blanks, isBlank b = true) (hc : isBlank c = false) :
    Takes skipBlanks blanks [c] () := by
  intro rest place
  have htaken : (blanks ++ ([c] ++ rest)).takeWhile isBlank = blanks := by
    rw [List.takeWhile_append_of_pos hblanks]
    simp [hc]
  simp only [skipBlanks, Cursor.pass, htaken, List.drop_left]

theorem takes_token (hblanks : ∀ b ∈ blanks, isBlank b = true) (hc : isBlank c = false) :
    Takes token blanks [c] (some c) :=
  (takes_skipBlanks hblanks hc).only (f := fun _ => peek) (takes_peek c)

/-- A reader that looks at the next token and then takes it. -/
theorem Takes.ofToken {f : Option Char → Reader α} {written ahead : List Char} {a : α}
    (hblanks : ∀ b ∈ blanks, isBlank b = true) (hc : isBlank c = false)
    (h : Takes (f (some c)) (c :: written) ahead a) :
    Takes (token >>= f) (blanks ++ c :: written) ahead a :=
  (takes_token hblanks hc).bind h ⟨written ++ ahead, rfl⟩

/-- The same without blanks before the token. -/
theorem Takes.ofNext {f : Option Char → Reader α} {written ahead : List Char} {a : α}
    (hc : isBlank c = false) (h : Takes (f (some c)) (c :: written) ahead a) :
    Takes (token >>= f) (c :: written) ahead a :=
  Takes.ofToken (List.forall_mem_nil _) hc h

/-- A reader that only looks at the next token. -/
theorem Takes.ofPeek {f : Option Char → Reader α} {a : α}
    (hblanks : ∀ b ∈ blanks, isBlank b = true) (hc : isBlank c = false)
    (h : Takes (f (some c)) [] [c] a) : Takes (token >>= f) blanks [c] a :=
  (takes_token hblanks hc).only h

theorem takes_colon : Takes colon [':'] [] () :=
  Takes.ofNext (by decide) (takes_advance ':')

theorem takes_endList (hblanks : ∀ b ∈ blanks, isBlank b = true) :
    Takes endList (blanks ++ [']']) [] () :=
  Takes.ofToken hblanks (by decide) (takes_advance ']')

theorem takes_endObject (hblanks : ∀ b ∈ blanks, isBlank b = true) :
    Takes endObject (blanks ++ ['\x7d']) [] () :=
  Takes.ofToken hblanks (by decide) (takes_advance '\x7d')

end Reader

/-! ## Texts -/

/-- A character is written with a letter, with its number if it is a control character, or as
it is. -/
theorem escape_cases (c : Char) :
    (∃ letter, escape c = ['\\', letter] ∧ TextLiteral.letterEscape? letter = some c ∧
      0x20 ≤ letter.toNat) ∨
    (escape c =
        ['\\', 'u', '0', '0', Nat.digitChar (c.toNat / 16), Nat.digitChar (c.toNat % 16)] ∧
      c < ' ') ∨
    (escape c = [c] ∧ c ≠ '"' ∧ c ≠ '\\' ∧ ¬ c < ' ') := by
  by_cases hquote : c = '"'
  · exact .inl ⟨'"', by rw [hquote]; decide⟩
  by_cases hslash : c = '\\'
  · exact .inl ⟨'\\', by rw [hslash]; decide⟩
  by_cases hback : c = '\x08'
  · exact .inl ⟨'b', by rw [hback]; decide⟩
  by_cases hfeed : c = '\x0c'
  · exact .inl ⟨'f', by rw [hfeed]; decide⟩
  by_cases hline : c = '\n'
  · exact .inl ⟨'n', by rw [hline]; decide⟩
  by_cases hreturn : c = '\r'
  · exact .inl ⟨'r', by rw [hreturn]; decide⟩
  by_cases htab : c = '\t'
  · exact .inl ⟨'t', by rw [htab]; decide⟩
  by_cases hc : c < ' '
  · exact .inr (.inl ⟨by simp [escape, *], hc⟩)
  · exact .inr (.inr ⟨by simp [escape, *], hquote, hslash, hc⟩)

theorem le_toNat_of_mem_escape {c d : Char} (h : d ∈ escape c) : 0x20 ≤ d.toNat := by
  have hdigit : ∀ n < 16, 0x20 ≤ (Nat.digitChar n).toNat := by decide
  rcases escape_cases c with ⟨letter, hwritten, _, hletter⟩ | ⟨hwritten, hc⟩ | ⟨hwritten, _, _, hc⟩
  · rw [hwritten] at h
    simp only [List.mem_cons, List.not_mem_nil, or_false] at h
    rcases h with rfl | rfl
    · decide
    · exact hletter
  · have hlt : c.toNat < 32 := hc
    rw [hwritten] at h
    simp only [List.mem_cons, List.not_mem_nil, or_false] at h
    rcases h with rfl | rfl | rfl | rfl | rfl | rfl
    · decide
    · decide
    · decide
    · decide
    · exact hdigit _ (by omega)
    · exact hdigit _ (by omega)
  · rw [hwritten, List.mem_singleton] at h
    rw [h]
    exact Nat.le_of_not_lt hc

theorem le_toNat_of_mem_textChars {s : String} {d : Char} (h : d ∈ textChars s) :
    0x20 ≤ d.toNat := by
  simp only [textChars, List.mem_cons, List.mem_append, List.mem_flatMap, List.not_mem_nil,
    or_false] at h
  rcases h with rfl | ⟨c, _, hescape⟩ | rfl
  · decide
  · exact le_toNat_of_mem_escape hescape
  · decide

namespace TextLiteral

theorem hexValue?_digitChar : ∀ d < 16, hexValue? (Nat.digitChar d) = some d := by
  decide

variable (taken : List Char) (place : Place) (rest : List Char)

theorem read_plain {c : Char} (hquote : c ≠ '"') (hslash : c ≠ '\\') (hc : ¬ c < ' ') :
    read true .plain taken place ([c] ++ rest) =
      read true .plain (c :: taken) (place.afterAll [c]) rest := by
  simp [read, step, hquote, hslash, hc, Place.afterAll]

theorem read_letter {letter c : Char} (h : letterEscape? letter = some c) :
    read true .plain taken place (['\\', letter] ++ rest) =
      read true .plain (c :: taken) (place.afterAll ['\\', letter]) rest := by
  have hunit : letter ≠ 'u' := by
    rintro rfl
    have hnone : letterEscape? 'u' = none := by decide
    simp [hnone] at h
  simp [read, step, h, hunit, Place.afterAll]

theorem read_control {c : Char} (hc : c < ' ') :
    read true .plain taken place
        (['\\', 'u', '0', '0', Nat.digitChar (c.toNat / 16), Nat.digitChar (c.toNat % 16)] ++
          rest) =
      read true .plain (c :: taken)
        (place.afterAll
          ['\\', 'u', '0', '0', Nat.digitChar (c.toNat / 16), Nat.digitChar (c.toNat % 16)])
        rest := by
  have hlt : c.toNat < 32 := hc
  have hhigh := hexValue?_digitChar (c.toNat / 16) (by omega)
  have hlow := hexValue?_digitChar (c.toNat % 16) (by omega)
  have hzero : hexValue? '0' = some 0 := by decide
  have hsum : c.toNat / 16 * 16 + c.toNat % 16 = c.toNat := Nat.div_add_mod' c.toNat 16
  -- so small a number is no half of a character
  have hlone : isLow c.toNat = false ∧ isHigh c.toNat = false := by
    simp only [isLow, isHigh, Bool.and_eq_false_iff, decide_eq_false_iff_not]
    omega
  simp [read, step, hzero, hhigh, hlow, hsum, hlone, finishUnit, Place.afterAll]

/-- However a character is written, it is read as itself. -/
theorem read_escape (c : Char) :
    read true .plain taken place (escape c ++ rest) =
      read true .plain (c :: taken) (place.afterAll (escape c)) rest := by
  rcases escape_cases c with
    ⟨letter, hwritten, hletter, _⟩ | ⟨hwritten, hc⟩ | ⟨hwritten, hquote, hslash, hc⟩
  · rw [hwritten]
    exact read_letter taken place rest hletter
  · rw [hwritten]
    exact read_control taken place rest hc
  · rw [hwritten]
    exact read_plain taken place rest hquote hslash hc

theorem read_flatMap_escape (cs : List Char) :
    read true .plain taken place (cs.flatMap escape ++ '"' :: rest) =
      .ok (taken.reverse ++ cs) ⟨rest, place.afterAll (cs.flatMap escape ++ ['"'])⟩ := by
  induction cs generalizing taken place with
  | nil =>
      simp [read, step, Place.afterAll]
  | cons c cs ih =>
      rw [List.flatMap_cons, List.append_assoc, read_escape, ih, List.append_assoc,
        Place.afterAll_append place]
      simp

end TextLiteral

namespace Reader

/-- A text is read as it was, with every character it holds. -/
theorem takes_text (s : String) : Takes text (s.toList.flatMap escape ++ ['"']) [] s := by
  intro rest place
  simp [text, TextLiteral.read_flatMap_escape]

theorem takes_key (key : String) : Takes Reader.key (textChars key) [] key :=
  (takes_advance '"').andThen (takes_text key)

/-! ## Whole texts -/

theorem readAll_of_takes {α : Type} {reader : Reader α} {written blanks : List Char} {a : α}
    (h : Takes reader written [] a) (hblanks : ∀ b ∈ blanks, isBlank b = true) :
    readAll reader (String.ofList (written ++ blanks)) = .ok a := by
  have hread := h blanks .start
  rw [List.nil_append] at hread
  have hskip : blanks.takeWhile isBlank = blanks := by
    have hall : (blanks ++ []).takeWhile isBlank = blanks ++ [].takeWhile isBlank :=
      List.takeWhile_append_of_pos hblanks
    simpa using hall
  have hcursor : Cursor.ofText (String.ofList (written ++ blanks)) = ⟨written ++ blanks, .start⟩ := by
    rw [Cursor.ofText, String.toList_ofList]
  have htoken : ∀ place, token ⟨blanks, place⟩ = .ok none ⟨[], place.afterAll blanks⟩ := by
    intro place
    have hblank : skipBlanks ⟨blanks, place⟩ = .ok () ⟨[], place.afterAll blanks⟩ := by
      simp [skipBlanks, Cursor.pass, hskip]
    exact bind_of_ok hblank fun _ => peek
  have hend : ∀ place, endOfText ⟨blanks, place⟩ = .ok () ⟨[], place.afterAll blanks⟩ :=
    fun place => bind_of_ok (htoken place) _
  have hall : (reader >>= fun a => endOfText >>= fun _ => Pure.pure a)
      (Cursor.ofText (String.ofList (written ++ blanks))) =
        .ok a ⟨[], (Place.start.afterAll written).afterAll blanks⟩ := by
    rw [hcursor, bind_of_ok hread, bind_of_ok (hend _)]
    rfl
  rw [readAll, hall]

end Reader
end Json
end MarkupAssist
