import MarkupAssist.Json.Value
import MarkupAssist.Proofs.Data.Writing
import MarkupAssist.Proofs.Json.Reading

/-!
# Members of an object, as they are written

An object that is read keeps each key once. What its text says is more: the members one after
the other, a key as often as it comes.

- `writtenMembers`           : the members of a text that is an object, all of them
- `lastValue?`               : the value of the last member of a name
- `ofText_eq_object_iff`     : an object that is read is made of the members that are written
- `survivors`                : the members that an object is made of
-/

namespace MarkupAssist
namespace Json

/-! ## Reading members -/

namespace Reader

/-- An object and nothing else; of its members none is dropped. -/
def writtenMembers : Reader (List (String × Json)) := do
  match ← token with
  | some '\x7b' => object (value (greatestDepth - 1))
  | _ => failAhead .valueExpected

variable {α β : Type} {cursor after : Cursor}

theorem bind_eq_ok {x : Reader α} {f : α → Reader β} {b : β} :
    (x >>= f) cursor = .ok b after ↔ ∃ a next, x cursor = .ok a next ∧ f a next = .ok b after := by
  change EStateM.bind x f cursor = _ ↔ _
  rw [EStateM.bind]
  cases x cursor with
  | ok a next =>
      simp
  | error fault next =>
      simp

theorem map_eq_ok {x : Reader α} {f : α → β} {b : β} :
    (f <$> x) cursor = .ok b after ↔ ∃ a, x cursor = .ok a after ∧ f a = b := by
  change EStateM.map f x cursor = _ ↔ _
  rw [EStateM.map]
  cases x cursor with
  | ok a next =>
      simp [and_comm]
  | error fault next =>
      simp

theorem readAll_eq_ok {reader : Reader α} {text : String} {a : α} :
    readAll reader text = .ok a ↔
      ∃ next after, reader (.ofText text) = .ok a next ∧ endOfText next = .ok () after := by
  have hwhole : readAll reader text = .ok a ↔ ∃ after,
      (do let a ← reader; endOfText; pure a : Reader α) (.ofText text) = .ok a after := by
    rw [readAll]
    split
    · next b after hread =>
        rw [hread]
        simp
    · next fault after hread =>
        rw [hread]
        simp
  rw [hwhole]
  constructor
  · rintro ⟨after, h⟩
    rcases bind_eq_ok.1 h with ⟨b, next, hread, hrest⟩
    rcases bind_eq_ok.1 hrest with ⟨_, last, hend, hpure⟩
    cases hpure
    exact ⟨next, _, hread, hend⟩
  · rintro ⟨next, after, hread, hend⟩
    exact ⟨after, bind_eq_ok.2 ⟨a, next, hread, bind_eq_ok.2 ⟨(), after, hend, rfl⟩⟩⟩

/-! ## Objects among the values -/

theorem Scalar.toJson_ne_object (scalar : Scalar) (members : List (String × Json)) :
    scalar.toJson ≠ .object members := by
  cases scalar <;> simp [Scalar.toJson]

/-- A value that is an object begins with a brace, and its members are read after that. -/
theorem value_eq_object_iff {depth : Nat} {members : List (String × Json)} :
    value (depth + 1) cursor = .ok (.object members) after ↔
      ∃ next written, token cursor = .ok (some '\x7b') next ∧
        object (value depth) next = .ok written after ∧
        members = Data.settle Prod.fst written := by
  rw [value]
  constructor
  · intro h
    rcases bind_eq_ok.1 h with ⟨ahead, next, htoken, hvalue⟩
    split at hvalue
    · rcases map_eq_ok.1 hvalue with ⟨items, _, heq⟩
      simp at heq
    · rcases map_eq_ok.1 hvalue with ⟨written, hread, heq⟩
      cases heq
      exact ⟨next, written, htoken, hread, rfl⟩
    · rcases map_eq_ok.1 hvalue with ⟨scalar, _, heq⟩
      exact absurd heq (scalar.toJson_ne_object members)
    · simp [failHere] at hvalue
  · rintro ⟨next, written, htoken, hread, rfl⟩
    exact bind_eq_ok.2 ⟨_, next, htoken, map_eq_ok.2 ⟨written, hread, rfl⟩⟩

theorem writtenMembers_eq_ok_iff {written : List (String × Json)} :
    writtenMembers cursor = .ok written after ↔
      ∃ next, token cursor = .ok (some '\x7b') next ∧
        object (value (greatestDepth - 1)) next = .ok written after := by
  rw [writtenMembers]
  constructor
  · intro h
    rcases bind_eq_ok.1 h with ⟨ahead, next, htoken, hread⟩
    split at hread
    · exact ⟨next, htoken, hread⟩
    · simp [failAhead] at hread
  · rintro ⟨next, htoken, hread⟩
    exact bind_eq_ok.2 ⟨_, next, htoken, hread⟩

end Reader

/-! ## Objects as texts -/

def writtenMembers (text : String) : Except Fault (List (String × Json)) :=
  Reader.readAll Reader.writtenMembers text

/-- An object is what is left of the members that are written. -/
theorem ofText_eq_object_iff {text : String} {members : List (String × Json)} :
    ofText text = .ok (.object members) ↔
      ∃ written, writtenMembers text = .ok written ∧
        members = Data.settle Prod.fst written := by
  simp only [writtenMembers, Reader.readAll_eq_ok, Reader.writtenMembers_eq_ok_iff]
  have hdeep : ∀ after, Reader.value greatestDepth (.ofText text) = .ok (.object members) after ↔
      _ := fun after => Reader.value_eq_object_iff
  rw [ofText, Reader.readAll_eq_ok]
  constructor
  · rintro ⟨next, after, hvalue, hend⟩
    rcases (hdeep next).1 hvalue with ⟨inside, written, htoken, hmembers, hsettle⟩
    exact ⟨written, ⟨next, after, ⟨inside, htoken, hmembers⟩, hend⟩, hsettle⟩
  · rintro ⟨written, ⟨next, after, ⟨inside, htoken, hmembers⟩, hend⟩, hsettle⟩
    exact ⟨next, after, (hdeep next).2 ⟨inside, written, htoken, hmembers, hsettle⟩, hend⟩

/-! ## The last member of a name -/

def lastValue? (written : List (String × Json)) (key : String) : Option Json :=
  (written.reverse.find? (·.1 == key)).map Prod.snd

/-- The object has the last value, which is its only one. -/
theorem lastValue?_settle (written : List (String × Json)) (key : String) :
    lastValue? (Data.settle Prod.fst written) key = lastValue? written key := by
  have hsettled : Data.settle Prod.fst (Data.settle Prod.fst written) =
      Data.settle Prod.fst written :=
    Data.settle_of_nodup (Data.nodup_keys_settle written)
  rw [lastValue?, ← Data.find?_settle, hsettled, Data.find?_settle, lastValue?]

theorem lastValue?_cons (member : String × Json) (rest : List (String × Json)) (key : String) :
    lastValue? (member :: rest) key =
      (lastValue? rest key).or (if member.1 = key then some member.2 else none) := by
  rw [lastValue?, List.reverse_cons, List.find?_append, Option.map_or, ← lastValue?]
  by_cases hkey : member.1 = key <;> simp [hkey]

theorem lastValue?_eq_none_iff {written : List (String × Json)} {key : String} :
    lastValue? written key = none ↔ key ∉ written.map Prod.fst := by
  rw [lastValue?, Option.map_eq_none_iff, List.find?_eq_none, List.mem_map]
  constructor
  · rintro h ⟨member, hmem, rfl⟩
    exact h member (List.mem_reverse.2 hmem) (beq_self_eq_true _)
  · intro h member hmem hkey
    exact h ⟨member, List.mem_reverse.1 hmem, eq_of_beq hkey⟩

theorem lastValue?_append (front rest : List (String × Json)) (key : String) :
    lastValue? (front ++ rest) key = (lastValue? rest key).or (lastValue? front key) := by
  rw [lastValue?, List.reverse_append, List.find?_append, Option.map_or]
  rfl

/-! ## The members that are left -/

/-- Each name at the place of its first member, with the value of its last. -/
def survivors (written : List (String × Json)) : List (String × Json) :=
  (written.map Prod.fst).eraseDups.filterMap fun key => (lastValue? written key).map (key, ·)

theorem settle_eq_survivors (written : List (String × Json)) :
    Data.settle Prod.fst written = survivors written := by
  rw [Data.settle_eq_filterMap, survivors]
  refine List.filterMap_congr fun key _ => ?_
  rw [lastValue?]
  cases hfound : written.reverse.find? (·.1 == key) with
  | none =>
      rfl
  | some member =>
      have hname : member.1 = key := by simpa using List.find?_some hfound
      simp [← hname]

/-- A value that is overwritten later might as well be another one. -/
theorem survivors_of_overwritten {front rest : List (String × Json)} {key : String}
    (h : key ∈ rest.map Prod.fst) (value other : Json) :
    survivors (front ++ (key, value) :: rest) = survivors (front ++ (key, other) :: rest) := by
  have hlast : ∀ name, lastValue? (front ++ (key, value) :: rest) name =
      lastValue? (front ++ (key, other) :: rest) name := by
    intro name
    rw [lastValue?_append, lastValue?_append, lastValue?_cons, lastValue?_cons]
    -- only the key itself could tell the two apart, and for it the later member is found first
    by_cases hname : key = name
    · subst hname
      cases hlater : lastValue? rest key with
      | none =>
          exact absurd h (lastValue?_eq_none_iff.1 hlater)
      | some value =>
          rfl
    · simp [hname]
  have hkeys : (front ++ (key, value) :: rest).map Prod.fst =
      (front ++ (key, other) :: rest).map Prod.fst := by
    simp
  simp only [survivors, hlast, hkeys]

end Json
end MarkupAssist
