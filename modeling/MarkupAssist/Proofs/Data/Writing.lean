import Mathlib.Data.List.Basic
import Mathlib.Data.List.Induction
import MarkupAssist.Data.Table

/-!
# Entries written one after the other

What is left of entries with repeated keys: each key at the place where it came first, with the
entry that came last under it. Entries whose keys are distinct are left as they are.

- `keys_settle`, `find?_settle` : the keys and the entries that are left
- `settle_eq_filterMap`         : all of them in one
- `Table.entries_putAll`        : the same for a table, with its index
- `Table.get?_eq_some_iff`      : a lookup gives the one entry that is listed under the key
-/

namespace MarkupAssist
namespace Data

variable {α : Type} {key : α → String}

/-! ## Lists of entries -/

theorem settle_concat (written : List α) (entry : α) :
    settle key (written ++ [entry]) = put key entry (settle key written) := by
  simp [settle]

theorem keys_settle (written : List α) :
    (settle key written).map key = (written.map key).eraseDups := by
  induction written using List.reverseRecOn with
  | nil =>
      rfl
  | append_singleton written entry ih =>
      have hlast : (settle key (written ++ [entry])).map key =
          if key entry ∈ written.map key then (written.map key).eraseDups
          else (written.map key).eraseDups ++ [key entry] := by
        rw [settle_concat, keys_put, ih]
        simp only [List.mem_eraseDups]
      rw [hlast, List.map_append, List.map_singleton, List.eraseDups_append]
      by_cases hknown : key entry ∈ written.map key
      · have hremoved : [key entry].removeAll (written.map key) = [] := by
          simpa [List.removeAll] using hknown
        rw [if_pos hknown, hremoved, List.eraseDups_nil, List.append_nil]
      · have hkept : [key entry].removeAll (written.map key) = [key entry] := by
          simpa [List.removeAll] using hknown
        rw [if_neg hknown, hkept, List.eraseDups_cons]
        rfl

theorem nodup_keys_settle (written : List α) : ((settle key written).map key).Nodup := by
  induction written using List.reverseRecOn with
  | nil =>
      simp [settle]
  | append_singleton written entry ih =>
      rw [settle_concat]
      exact nodup_keys_put key entry ih

/-- The entry that came last under a key. -/
theorem find?_settle (written : List α) (k : String) :
    (settle key written).find? (key · == k) = written.reverse.find? (key · == k) := by
  induction written using List.reverseRecOn with
  | nil =>
      rfl
  | append_singleton written entry ih =>
      rw [settle_concat, find?_put, ih, List.reverse_append, List.reverse_singleton,
        List.singleton_append]
      by_cases hk : key entry = k
      · rw [if_pos hk, List.find?_cons_of_pos (by simp [hk])]
      · rw [if_neg hk, List.find?_cons_of_neg (by simp [hk])]

theorem filterMap_find?_of_nodup {entries : List α} (h : (entries.map key).Nodup) :
    (entries.map key).filterMap (fun k => entries.find? (key · == k)) = entries := by
  induction entries with
  | nil =>
      rfl
  | cons entry rest ih =>
      rw [List.map_cons, List.nodup_cons] at h
      -- no other key is the first one, so the other entries are found among themselves
      have hrest : (rest.map key).filterMap (fun k => (entry :: rest).find? (key · == k)) =
          (rest.map key).filterMap fun k => rest.find? (key · == k) := by
        refine List.filterMap_congr fun k hk => ?_
        have hne : key entry ≠ k := fun heq => h.1 (heq ▸ hk)
        simp [hne]
      rw [List.map_cons, List.filterMap_cons, List.find?_cons_of_pos (by simp), hrest, ih h.2]

theorem settle_eq_filterMap (written : List α) :
    settle key written =
      (written.map key).eraseDups.filterMap fun k => written.reverse.find? (key · == k) := by
  calc
    settle key written
        = ((settle key written).map key).filterMap
            fun k => (settle key written).find? (key · == k) :=
          (filterMap_find?_of_nodup (nodup_keys_settle written)).symm
    _ = (written.map key).eraseDups.filterMap fun k => written.reverse.find? (key · == k) := by
          simp only [keys_settle, find?_settle]

theorem filter_put (wanted : String → Bool) (entry : α) (entries : List α) :
    (put key entry entries).filter (fun e => wanted (key e)) =
      if wanted (key entry) then put key entry (entries.filter fun e => wanted (key e))
      else entries.filter fun e => wanted (key e) := by
  induction entries with
  | nil =>
      by_cases hwanted : wanted (key entry) = true <;> simp [put, hwanted]
  | cons e rest ih =>
      by_cases he : key e = key entry
      · by_cases hwanted : wanted (key entry) = true <;> simp [put, he, hwanted]
      · rw [put, if_neg he, List.filter_cons, ih]
        by_cases hkept : wanted (key e) = true
        · by_cases hwanted : wanted (key entry) = true <;> simp [put, he, hkept, hwanted]
        · simp [hkept]

theorem settle_of_nodup {entries : List α} (h : (entries.map key).Nodup) :
    settle key entries = entries := by
  induction entries using List.reverseRecOn with
  | nil =>
      rfl
  | append_singleton entries entry ih =>
      rw [List.map_append, List.map_singleton, List.nodup_append] at h
      rcases h with ⟨hfront, _, hapart⟩
      have hnew : key entry ∉ entries.map key := by
        intro hmem
        exact hapart _ hmem _ (List.mem_singleton_self _) rfl
      rw [settle_concat, ih hfront, put_of_new key hnew]

/-- Keys that are not wanted may be left out before or after. -/
theorem settle_filter (wanted : String → Bool) (written : List α) :
    settle key (written.filter fun e => wanted (key e)) =
      (settle key written).filter fun e => wanted (key e) := by
  induction written using List.reverseRecOn with
  | nil =>
      rfl
  | append_singleton written entry ih =>
      rw [List.filter_append, settle_concat, filter_put]
      by_cases hwanted : wanted (key entry) = true
      · have hlast : [entry].filter (fun e => wanted (key e)) = [entry] := by
          simp [hwanted]
        rw [if_pos hwanted, hlast, settle_concat, ih]
      · have hlast : [entry].filter (fun e => wanted (key e)) = [] := by
          simp [hwanted]
        rw [if_neg hwanted, hlast, List.append_nil, ih]

theorem filter_of_nodup {entries : List α} (h : (entries.map key).Nodup) (k : String) :
    entries.filter (key · == k) = (entries.find? (key · == k)).toList := by
  induction entries with
  | nil =>
      rfl
  | cons entry rest ih =>
      rw [List.map_cons, List.nodup_cons] at h
      by_cases hk : key entry = k
      · have hrest : rest.filter (key · == k) = [] := by
          refine List.filter_eq_nil_iff.2 fun e he hke => h.1 ?_
          exact List.mem_map.2 ⟨e, he, (eq_of_beq hke).trans hk.symm⟩
        simp [hk, hrest]
      · simp [hk, ih h.2]

/-! ## Tables -/

namespace Table

/-- Write entries one after the other. -/
def putAll (table : Table key) (written : List α) : Table key :=
  written.foldl (fun table entry => table.put entry) table

theorem entries_putAll (table : Table key) (written : List α) :
    (table.putAll written).entries =
      written.foldl (fun entries entry => Data.put key entry entries) table.entries := by
  induction written generalizing table with
  | nil =>
      rfl
  | cons entry rest ih =>
      have hrest := ih (table.put entry)
      rwa [entries_put] at hrest

theorem entries_putAll_empty (written : List α) :
    ((empty : Table key).putAll written).entries = settle key written :=
  entries_putAll empty written

theorem get?_eq_some_iff (table : Table key) {k : String} {entry : α} :
    table.get? k = some entry ↔ entry ∈ table.entries ∧ key entry = k := by
  rw [get?_eq_find?]
  constructor
  · intro h
    exact ⟨List.mem_of_find?_eq_some h, by simpa using List.find?_some h⟩
  · rintro ⟨hmem, rfl⟩
    have hlisted : entry ∈ table.entries.filter (key · == key entry) :=
      List.mem_filter.2 ⟨hmem, by simp⟩
    rw [filter_of_nodup table.keys_nodup] at hlisted
    exact Option.mem_toList.1 hlisted

theorem get?_eq_none_iff (table : Table key) {k : String} :
    table.get? k = none ↔ k ∉ table.entries.map key := by
  rw [get?_eq_find?, List.find?_eq_none]
  simp

theorem filter_key (table : Table key) (k : String) :
    table.entries.filter (key · == k) = (table.get? k).toList := by
  rw [get?_eq_find?]
  exact filter_of_nodup table.keys_nodup k

end Table
end Data
end MarkupAssist
