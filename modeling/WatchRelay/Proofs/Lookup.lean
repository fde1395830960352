/-! Values kept in a list under numbers: looking one up where one is replaced, added or taken
out. -/

namespace WatchRelay

namespace Lookup

variable {α : Type}

/-- What is found under a number is what stands first under it. -/
theorem cons (entry : Nat × α) (rest : List (Nat × α)) (j : Nat) :
    (entry :: rest).lookup j = if j = entry.1 then some entry.2 else rest.lookup j := by
  rw [List.lookup_cons]
  -- The place is the one that is asked for, or the rest is.
  by_cases same : j = entry.1
  · simp [same]
  · have other : (j == entry.1) = false := by simpa using same
    simp [other, same]

/-- Replacing a value replaces what is found under its number, if something is. -/
theorem replace (entries : List (Nat × α)) (k j : Nat) (value : α) :
    (entries.map fun p => if p.1 = k then (k, value) else p).lookup j =
      if j = k then (entries.lookup k).map fun _ => value else entries.lookup j := by
  -- By induction on the entries, which keep their places.
  induction entries with
  | nil => simp
  | cons entry rest ih =>
    rw [List.map_cons, cons, cons, cons, ih]
    by_cases place : entry.1 = k
    · by_cases asked : j = k <;> simp [place, asked]
    · by_cases asked : j = k
      · simp [place, asked, Ne.symm place]
      · simp [place, asked]

/-- A value added at the end is found under a number that nothing else has. -/
theorem append (entries : List (Nat × α)) (k j : Nat) (value : α) :
    (entries ++ [(k, value)]).lookup j =
      (entries.lookup j).or (if j = k then some value else none) := by
  -- The new entry is asked last, when no other one has the place.
  induction entries with
  | nil => rw [List.nil_append, cons]; simp
  | cons entry rest ih =>
    rw [List.cons_append, cons, cons, ih]
    split <;> simp

/-- Taking a number out takes out what is found under it alone. -/
theorem filter_ne (entries : List (Nat × α)) (k j : Nat) :
    (entries.filter fun p => p.1 ≠ k).lookup j = if j = k then none else entries.lookup j := by
  -- By induction on the entries: the ones of the place are passed over.
  induction entries with
  | nil => simp
  | cons entry rest ih =>
    by_cases place : entry.1 = k
    · rw [List.filter_cons_of_neg (by simp [place]), ih, cons]
      by_cases asked : j = k <;> simp [place, asked]
    · rw [List.filter_cons_of_pos (by simp [place]), cons, cons, ih]
      by_cases asked : j = k
      · simp [asked, Ne.symm place]
      · simp [asked]

/-- Where each number stands once, what stands under a number is what is found there. -/
theorem mem_iff {entries : List (Nat × α)} (distinct : (entries.map (·.1)).Nodup) (k : Nat)
    (value : α) : (k, value) ∈ entries ↔ entries.lookup k = some value := by
  -- By induction on the entries, where the places of the rest differ from the first.
  induction entries with
  | nil => simp
  | cons entry rest ih =>
    obtain ⟨first, others⟩ := List.nodup_cons.mp distinct
    rw [cons, List.mem_cons]
    by_cases same : k = entry.1
    · -- The number stands first, so it does not stand again.
      subst same
      have absent : (entry.1, value) ∉ rest := fun member =>
        first (List.mem_map.mpr ⟨_, member, rfl⟩)
      rw [if_pos rfl, or_iff_left absent, Option.some_inj]
      exact ⟨fun equal => congrArg Prod.snd equal.symm, fun equal => Prod.ext rfl equal.symm⟩
    · have other : (k, value) ≠ entry := fun equal => same (congrArg Prod.fst equal)
      rw [if_neg same, or_iff_right other, ih others]

end Lookup

end WatchRelay
