/-!
# Ordered tables

Entries with distinct keys, in the order in which the keys first came. Writing an entry
under a known key replaces the one before it at its place.

- `put`, `settle` : on plain lists of entries
- `Table`         : entries in their order, and an index of the places of their keys
- `Table.get?`    : the entry of a key, found by the index

The index of a table has each key of the entries with the one place where it stands, and no
other key (`Table.lookup_index`). So a lookup never disagrees with a pass over the entries
(`Table.get?_eq_find?`), and no key stands at two places (`Table.keys_nodup`).
-/

namespace MarkupAssist
namespace Data

variable {α : Type} (key : α → String)

/-! ## Lists of entries -/

def put (entry : α) : List α → List α
  | [] => [entry]
  | e :: rest => if key e = key entry then entry :: rest else e :: put entry rest

/-- What remains when entries are written one after the other. -/
def settle (written : List α) : List α :=
  written.foldl (fun entries entry => put key entry entries) []

theorem keys_put (entry : α) (entries : List α) :
    (put key entry entries).map key =
      if key entry ∈ entries.map key then entries.map key
      else entries.map key ++ [key entry] := by
  induction entries with
  | nil => simp [put]
  | cons e rest ih =>
      by_cases h : key e = key entry
      · simp [put, h]
      · have h' : ¬ key entry = key e := fun he => h he.symm
        simp only [put, h, if_false, List.map_cons, ih, List.mem_cons, h', false_or]
        split <;> simp

theorem nodup_keys_put (entry : α) {entries : List α} (h : (entries.map key).Nodup) :
    ((put key entry entries).map key).Nodup := by
  rw [keys_put]
  split
  · exact h
  · next hk =>
      refine List.nodup_append.mpr ⟨h, by simp, ?_⟩
      intro a ha b hb he
      rw [List.mem_singleton.mp hb] at he
      exact hk (he ▸ ha)

/-- The entry written last under a key, if entries have been written in this order. -/
theorem find?_put (entry : α) (entries : List α) (k : String) :
    (put key entry entries).find? (key · == k) =
      if key entry = k then some entry else entries.find? (key · == k) := by
  induction entries with
  | nil => by_cases h : key entry = k <;> simp [put, h]
  | cons e rest ih =>
      by_cases he : key e = key entry
      · by_cases hk : key entry = k <;> simp [put, he, hk]
      · rw [put, if_neg he]
        by_cases hek : key e = k
        · have hk : ¬ key entry = k := fun h => he (hek.trans h.symm)
          simp [hek, hk]
        · simp [hek, ih]

theorem put_of_new {entry : α} {entries : List α} (h : key entry ∉ entries.map key) :
    put key entry entries = entries ++ [entry] := by
  induction entries with
  | nil =>
      rfl
  | cons e rest ih =>
      rw [List.map_cons, List.mem_cons, not_or] at h
      rw [put, if_neg fun he => h.1 he.symm, ih h.2, List.cons_append]

/-- `i` is the first place of the key. -/
theorem put_of_known {entry : α} {entries : List α} {i : Nat}
    (h : (entries.map key)[i]? = some (key entry))
    (hfirst : ∀ j, (entries.map key)[j]? = some (key entry) → j = i) :
    put key entry entries = entries.set i entry := by
  induction entries generalizing i with
  | nil =>
      simp at h
  | cons e rest ih =>
      cases i with
      | zero =>
          rw [put, if_pos (by simpa using h), List.set_cons_zero]
      | succ i =>
          have hne : key e ≠ key entry := by
            intro he
            exact absurd (hfirst 0 (by simp [he])) (by simp)
          have hrest : put key entry rest = rest.set i entry := by
            refine ih (by simpa using h) fun j hj => ?_
            simpa using hfirst (j + 1) (by simpa using hj)
          rw [put, if_neg hne, hrest, List.set_cons_succ]

/-! ## Tables -/

structure Table where
  entries : List α
  /-- At which place the entry of a key stands. -/
  index : List (String × Nat)
  lookup_index : ∀ k i, index.lookup k = some i ↔ (entries.map key)[i]? = some k
  deriving DecidableEq

namespace Table

variable {key}

def empty : Table key :=
  ⟨[], [], by simp⟩

instance : Inhabited (Table key) :=
  ⟨empty⟩

/-- No key stands at two places. -/
theorem place_unique (table : Table key) {k : String} {i j : Nat}
    (hi : (table.entries.map key)[i]? = some k) (hj : (table.entries.map key)[j]? = some k) :
    i = j := by
  rw [← table.lookup_index] at hi hj
  exact Option.some.inj (hi.symm.trans hj)

theorem keys_of_set {table : Table key} {entry : α} {i : Nat}
    (h : table.index.lookup (key entry) = some i) :
    (table.entries.set i entry).map key = table.entries.map key := by
  have hkey : (table.entries.map key)[i]? = some (key entry) := (table.lookup_index _ _).1 h
  obtain ⟨hi, hget⟩ := List.getElem?_eq_some_iff.1 hkey
  rw [List.map_set, ← hget, List.set_getElem_self]

theorem not_mem_keys_of_lookup {table : Table key} {k : String}
    (h : table.index.lookup k = none) : k ∉ table.entries.map key := by
  intro hmem
  obtain ⟨i, hi⟩ := List.mem_iff_getElem?.1 hmem
  rw [(table.lookup_index k i).2 hi] at h
  simp at h

theorem lookup_index_concat {table : Table key} {entry : α}
    (h : table.index.lookup (key entry) = none) (k : String) (i : Nat) :
    List.lookup k ((key entry, table.entries.length) :: table.index) = some i ↔
      ((table.entries ++ [entry]).map key)[i]? = some k := by
  have hnew : (table.entries.map key)[i]? ≠ some (key entry) := by
    intro hi
    exact not_mem_keys_of_lookup h (List.mem_of_getElem? hi)
  have hspec := table.lookup_index k i
  have hlength : (table.entries.map key).length = table.entries.length := List.length_map key
  rw [List.map_append, List.lookup_cons]
  by_cases hk : k = key entry <;> grind

/-- Write an entry at the place of its key, or after all others where the key is new. -/
def put (entry : α) (table : Table key) : Table key :=
  match h : table.index.lookup (key entry) with
  | some i =>
      ⟨table.entries.set i entry, table.index, by
        rw [keys_of_set h]
        exact table.lookup_index⟩
  | none =>
      ⟨table.entries ++ [entry], (key entry, table.entries.length) :: table.index,
        lookup_index_concat h⟩

/-- Write entries one after the other into an empty table. -/
def ofList (written : List α) : Table key :=
  written.foldl (fun table entry => table.put entry) empty

def get? (table : Table key) (k : String) : Option α :=
  (table.index.lookup k).bind fun i => table.entries[i]?

def size (table : Table key) : Nat :=
  table.entries.length

/-! ## The index and the entries -/

theorem keys_nodup (table : Table key) : (table.entries.map key).Nodup := by
  refine List.pairwise_iff_getElem.2 fun i j hi hj hlt heq => ?_
  have hsame : i = j :=
    table.place_unique (List.getElem?_eq_getElem hi) ((List.getElem?_eq_getElem hj).trans
      (congrArg some heq.symm))
  exact Nat.ne_of_lt hlt hsame

theorem get?_eq_find? (table : Table key) (k : String) :
    table.get? k = table.entries.find? (key · == k) := by
  cases hlookup : table.index.lookup k with
  | none =>
      have hnone : ∀ e ∈ table.entries, ¬ (key e == k) = true := by
        intro e he hk
        exact not_mem_keys_of_lookup hlookup (List.mem_map.2 ⟨e, he, eq_of_beq hk⟩)
      rw [get?, hlookup, List.find?_eq_none.2 hnone]
      rfl
  | some i =>
      have hkey := (table.lookup_index k i).1 hlookup
      have hplace : ∃ e, table.entries[i]? = some e ∧ key e = k := by
        simpa using hkey
      obtain ⟨e, he, hk⟩ := hplace
      obtain ⟨hi, hget⟩ := List.getElem?_eq_some_iff.1 he
      rw [get?, hlookup, Option.bind_some, he]
      refine (List.find?_eq_some_iff_getElem.2 ⟨by simp [hk], i, hi, hget, ?_⟩).symm
      -- an earlier entry of this key would have a second place
      intro j hj
      have hother : key table.entries[j] ≠ k := by
        intro hsame
        refine absurd (table.place_unique (i := j) ?_ hkey) (Nat.ne_of_lt hj)
        simp [Nat.lt_trans hj hi, hsame]
      simp [hother]

theorem entries_put (entry : α) (table : Table key) :
    (table.put entry).entries = Data.put key entry table.entries := by
  rw [put]
  split
  · next i hlookup =>
      have hkey := (table.lookup_index _ i).1 hlookup
      exact (put_of_known key hkey fun j hj => table.place_unique hj hkey).symm
  · next hlookup =>
      exact (put_of_new key (not_mem_keys_of_lookup hlookup)).symm

theorem get?_put (entry : α) (table : Table key) (k : String) :
    (table.put entry).get? k = if key entry = k then some entry else table.get? k := by
  rw [get?_eq_find?, get?_eq_find?, entries_put]
  exact find?_put key entry table.entries k

end Table
end Data
end MarkupAssist
