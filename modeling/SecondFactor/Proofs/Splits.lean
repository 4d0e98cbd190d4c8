import Mathlib.Data.List.Nodup

/-!
Lists split at their items. Two different items are before and after one another in one of the two
ways, `exists_between`; an item of which some part is in no other stands in one place,
`eq_of_nodup_filterMap`.
-/

namespace SecondFactor

variable {α β : Type}

theorem exists_between {items : List α} {item other : α} (hitem : item ∈ items)
    (hother : other ∈ items) (hne : item ≠ other) :
    ∃ earlier between later, items = earlier ++ item :: between ++ other :: later ∨
      items = earlier ++ other :: between ++ item :: later := by
  obtain ⟨earlier, later, rfl⟩ := List.append_of_mem hitem
  rcases List.mem_append.1 hother with hmem | hmem
  · obtain ⟨before, between, rfl⟩ := List.append_of_mem hmem
    exact ⟨before, between, later, Or.inr rfl⟩
  · rcases List.mem_cons.1 hmem with rfl | hmem
    · exact absurd rfl hne
    · obtain ⟨between, after, rfl⟩ := List.append_of_mem hmem
      exact ⟨earlier, between, after, Or.inl (by simp)⟩

/-- What only one item of a list comes to stands in one place. -/
theorem eq_of_nodup_filterMap {f : α → Option β} {value : β} {item item' : α}
    {earlier earlier' later later' : List α}
    (hsplit : earlier ++ item :: later = earlier' ++ item' :: later')
    (hnodup : ((earlier ++ item :: later).filterMap f).Nodup) (hitem : f item = some value)
    (hitem' : f item' = some value) : earlier = earlier' ∧ item = item' ∧ later = later' := by
  induction earlier generalizing earlier' with
  | nil =>
      cases earlier' with
      | nil =>
          cases hsplit
          exact ⟨rfl, rfl, rfl⟩
      | cons head tail =>
          cases hsplit
          rw [List.nil_append, List.filterMap_cons_some hitem, List.nodup_cons] at hnodup
          exact absurd (List.mem_filterMap.2 ⟨item', by simp, hitem'⟩) hnodup.1
  | cons head tail ih =>
      cases earlier' with
      | nil =>
          cases hsplit
          rw [List.cons_append, List.filterMap_cons_some hitem', List.nodup_cons] at hnodup
          exact absurd (List.mem_filterMap.2 ⟨item, by simp, hitem⟩) hnodup.1
      | cons head' tail' =>
          rw [List.cons_append, List.cons_append, List.cons_eq_cons] at hsplit
          obtain ⟨rfl, hrest⟩ := hsplit
          have htail : ((tail ++ item :: later).filterMap f).Nodup :=
            hnodup.sublist ((List.sublist_cons_self head _).filterMap f)
          obtain ⟨rfl, hsame⟩ := ih hrest htail
          exact ⟨rfl, hsame⟩

end SecondFactor
