/-!
Finite tables with one value a key, in the order in which the keys came. What `get?` finds is all
that tells two tables apart for their users.
-/

namespace SecondFactor

structure Table (κ ν : Type) where
  entries : List (κ × ν)
  nodup : (entries.map Prod.fst).Nodup

namespace Table

variable {κ ν : Type}

def empty : Table κ ν := ⟨[], List.nodup_nil⟩

def size (table : Table κ ν) : Nat := table.entries.length

variable [DecidableEq κ]

def get? (table : Table κ ν) (key : κ) : Option ν :=
  (table.entries.find? fun entry => entry.1 = key).map Prod.snd

def contains (table : Table κ ν) (key : κ) : Bool :=
  (table.get? key).isSome

def erase (table : Table κ ν) (key : κ) : Table κ ν where
  entries := table.entries.filter fun entry => entry.1 ≠ key
  nodup := table.nodup.sublist (List.filter_sublist.map Prod.fst)

/-- Puts a value in the place of the one its key has, if it has one. -/
def insert (table : Table κ ν) (key : κ) (value : ν) : Table κ ν where
  entries := (table.erase key).entries ++ [(key, value)]
  nodup := by
    rw [List.map_append, List.nodup_append]
    refine ⟨(table.erase key).nodup, by simp, ?_⟩
    intro other hother
    simp only [erase, List.mem_map, List.mem_filter] at hother
    obtain ⟨entry, ⟨_, hne⟩, rfl⟩ := hother
    simpa using hne

@[simp] theorem get?_empty (key : κ) : (empty : Table κ ν).get? key = none := rfl

private theorem find?_filter_ne (entries : List (κ × ν)) (key other : κ) :
    (entries.filter fun entry => entry.1 ≠ key).find? (fun entry => entry.1 = other) =
      if other = key then none else entries.find? fun entry => entry.1 = other := by
  induction entries with
  | nil => simp
  | cons entry rest ih =>
    by_cases hkey : entry.1 = key <;> by_cases hother : other = key <;>
      by_cases hentry : entry.1 = other <;> simp_all

theorem get?_erase (table : Table κ ν) (key other : κ) :
    (table.erase key).get? other = if other = key then none else table.get? other := by
  simp only [get?, erase, find?_filter_ne]
  split <;> simp

theorem get?_insert (table : Table κ ν) (key other : κ) (value : ν) :
    (table.insert key value).get? other =
      if other = key then some value else table.get? other := by
  have herase := get?_erase table key other
  simp only [get?] at herase
  simp only [get?, insert, List.find?_append, Option.map_or, herase]
  by_cases hother : other = key
  · simp [hother]
  · have hkey : key ≠ other := fun h => hother h.symm
    simp [hother, hkey]

end Table

end SecondFactor
