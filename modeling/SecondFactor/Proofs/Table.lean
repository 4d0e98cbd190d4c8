import Mathlib.Data.List.Nodup
import SecondFactor.Table

/-!
The size of a table: one more for each new key, and one less for each key that goes. A key that comes
and goes leaves nothing behind, `erase_insert_of_get?_eq_none`.
-/

namespace SecondFactor.Table

variable {κ ν : Type}

theorem eq_of_entries_eq {table other : Table κ ν} (h : table.entries = other.entries) :
    table = other := by
  cases table
  cases other
  cases h
  rfl

variable [DecidableEq κ]

theorem erase_comm (table : Table κ ν) (key other : κ) :
    (table.erase key).erase other = (table.erase other).erase key :=
  eq_of_entries_eq (List.filter_comm _ _ table.entries)

theorem mem_of_get?_eq_some {table : Table κ ν} {key : κ} {value : ν}
    (hget : table.get? key = some value) : (key, value) ∈ table.entries := by
  obtain ⟨entry, hfind, rfl⟩ := Option.map_eq_some_iff.1 hget
  have hkey : entry.1 = key := by simpa using List.find?_some hfind
  subst hkey
  exact List.mem_of_find?_eq_some hfind

theorem size_erase_of_get?_eq_some {table : Table κ ν} {key : κ} {value : ν}
    (hget : table.get? key = some value) : (table.erase key).size + 1 = table.size := by
  have hmem : key ∈ table.entries.map Prod.fst :=
    List.mem_map.2 ⟨_, mem_of_get?_eq_some hget, rfl⟩
  have hone : table.entries.countP (fun entry => entry.1 = key) = 1 := by
    have hcount := List.count_eq_one_of_mem table.nodup hmem
    rw [List.count, List.countP_map] at hcount
    rw [← hcount]
    exact List.countP_congr fun entry _ => by simp
  have hsplit := List.length_eq_countP_add_countP (l := table.entries)
    (fun entry => decide (entry.1 = key))
  rw [hone] at hsplit
  rw [size, size, erase, ← List.countP_eq_length_filter, hsplit, Nat.add_comm]
  simp

theorem entries_erase_of_get?_eq_none {table : Table κ ν} {key : κ}
    (hget : table.get? key = none) : (table.erase key).entries = table.entries := by
  rw [erase, List.filter_eq_self]
  intro entry hmem
  have hfind := List.find?_eq_none.1 (Option.map_eq_none_iff.1 hget) entry hmem
  simpa using hfind

theorem size_insert_of_get?_eq_none {table : Table κ ν} {key : κ} (value : ν)
    (hget : table.get? key = none) : (table.insert key value).size = table.size + 1 := by
  simp only [size, insert, List.length_append, List.length_singleton,
    entries_erase_of_get?_eq_none hget]

/-- A key that comes and goes leaves its table as it was, the order included. -/
theorem erase_insert_of_get?_eq_none {table : Table κ ν} {key : κ} (value : ν)
    (hget : table.get? key = none) : (table.insert key value).erase key = table := by
  have hkept : table.entries.filter (fun entry => entry.1 ≠ key) = table.entries :=
    entries_erase_of_get?_eq_none hget
  apply eq_of_entries_eq
  change ((table.entries.filter fun entry => entry.1 ≠ key) ++ [(key, value)]).filter
    (fun entry => entry.1 ≠ key) = table.entries
  rw [hkept, List.filter_append, hkept]
  simp

end SecondFactor.Table
