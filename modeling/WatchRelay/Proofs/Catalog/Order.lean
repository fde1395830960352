import WatchRelay.Catalog.Feed

/-! The store of a feed: its resources stand in the order of their keys, each under its own name. -/

namespace WatchRelay

namespace ResourceKey

/-- One key comes before another by its project, or by its name in the same project. -/
theorem before_iff {a b : ResourceKey} :
    a.before b = true ↔ a.project < b.project ∨ a.project = b.project ∧ a.name < b.name := by
  simp [before]

/-- The order of keys is transitive. -/
theorem before_trans {a b c : ResourceKey} (first : a.before b = true)
    (second : b.before c = true) : a.before c = true := by
  rw [before_iff] at first second ⊢
  -- The first of the two steps that goes on to another project decides.
  rcases first with less | ⟨same, less⟩
  · rcases second with more | ⟨same', -⟩
    · exact .inl (String.lt_trans less more)
    · exact .inl (same' ▸ less)
  · rcases second with more | ⟨same', more⟩
    · exact .inl (same ▸ more)
    · exact .inr ⟨same.trans same', String.lt_trans less more⟩

/-- No key comes before itself. -/
theorem before_irrefl (a : ResourceKey) : a.before a = false := by
  -- Neither the projects nor the names are below themselves.
  refine Bool.eq_false_iff.mpr fun less => ?_
  rw [before_iff] at less
  rcases less with less | ⟨-, less⟩
  · exact String.lt_irrefl _ less
  · exact String.lt_irrefl _ less

/-- Of two texts that differ, one comes first. -/
private theorem lt_of_ne {a b : String} (differ : a ≠ b) (later : ¬ a < b) : b < a := by
  have below : b ≤ a := String.not_lt.mp later
  -- Were it not so, both would be the same.
  by_cases less : b < a
  · exact less
  · exact absurd (String.le_antisymm (String.not_lt.mp less) below) differ

/-- Of two keys that differ, one comes first. -/
theorem before_of_ne {a b : ResourceKey} (differ : a ≠ b) (later : a.before b = false) :
    b.before a = true := by
  have later : ¬ (a.project < b.project ∨ a.project = b.project ∧ a.name < b.name) := by
    rw [← before_iff]
    simp [later]
  rw [before_iff]
  by_cases same : a.project = b.project
  · -- In the same project, the names decide.
    have names : a.name ≠ b.name := fun equal => differ (by cases a; cases b; simp_all)
    exact .inr ⟨same.symm, lt_of_ne names fun less => later (.inr ⟨same, less⟩)⟩
  · exact .inl (lt_of_ne same fun less => later (.inl less))

end ResourceKey

namespace Store

/-- Whether the keys of a store stand in order, each once. -/
def Sorted (s : Store) : Prop := s.Pairwise fun a b => a.1.before b.1 = true

/-- The keys of a store with one more are its keys and that one. -/
theorem mem_insert {key : ResourceKey} {value : Json} {s : Store} {x : ResourceKey × Json}
    (member : x ∈ insert key value s) : x = (key, value) ∨ x ∈ s := by
  induction s with
  | nil => simpa [insert] using member
  | cons entry rest ih =>
    simp only [insert] at member
    -- The new entry takes the place of one with its key, or stands in front of a later one.
    split at member
    · rcases List.mem_cons.mp member with new | old
      · exact .inl new
      · exact .inr (List.mem_cons_of_mem _ old)
    · split at member
      · rcases List.mem_cons.mp member with new | old
        · exact .inl new
        · exact .inr old
      · rcases List.mem_cons.mp member with first | later
        · exact .inr (first ▸ List.mem_cons_self ..)
        · rcases ih later with new | old
          · exact .inl new
          · exact .inr (List.mem_cons_of_mem _ old)

/-- What is left after a key is taken out was there before. -/
theorem erase_sublist (key : ResourceKey) (s : Store) : (erase key s).Sublist s := by
  -- By induction on the store: the entry with the key is left out, any other one stays.
  induction s with
  | nil => exact List.Sublist.refl _
  | cons entry rest ih =>
    simp only [erase]
    split
    · exact List.sublist_cons_self _ _
    · exact ih.cons_cons _

/-- Putting a resource in keeps the order. -/
theorem Sorted.insert {s : Store} (sorted : s.Sorted) (key : ResourceKey) (value : Json) :
    (s.insert key value).Sorted := by
  induction s with
  | nil => exact List.pairwise_singleton _ _
  | cons entry rest ih =>
    obtain ⟨below, tail⟩ := List.pairwise_cons.mp sorted
    simp only [Store.insert]
    split
    · next same =>
      -- The entry is replaced in its place.
      exact List.pairwise_cons.mpr ⟨fun x member => same ▸ below x member, tail⟩
    · next differ =>
      split
      · next first =>
        -- The new entry comes first, before what was first so far.
        refine List.pairwise_cons.mpr ⟨fun x member => ?_, sorted⟩
        rcases List.mem_cons.mp member with rfl | member
        · exact first
        · exact ResourceKey.before_trans first (below x member)
      · next later =>
        -- It goes in further behind, so the first stays the first.
        refine List.pairwise_cons.mpr ⟨fun x member => ?_, ih tail⟩
        rcases mem_insert member with rfl | member
        · exact ResourceKey.before_of_ne (Ne.symm differ) (by simpa using later)
        · exact below x member

/-- Taking a resource out keeps the order. -/
theorem Sorted.erase {s : Store} (sorted : s.Sorted) (key : ResourceKey) : (s.erase key).Sorted :=
  List.Pairwise.sublist (erase_sublist key s) sorted

/-- What is found under a key stands there. -/
theorem mem_of_find? {key : ResourceKey} {value : Json} {s : Store}
    (found : s.find? key = some value) : (key, value) ∈ s := by
  -- The first entry with the key is the one that is found.
  induction s with
  | nil => cases found
  | cons entry rest ih =>
    simp only [find?] at found
    split at found
    · next same =>
      cases found
      exact List.mem_cons.mpr (.inl (by rw [← same]))
    · exact List.mem_cons_of_mem _ (ih found)

/-- What stands under a key is found there: in order, no key stands twice. -/
theorem Sorted.find? {s : Store} (sorted : s.Sorted) {key : ResourceKey} {value : Json}
    (member : (key, value) ∈ s) : s.find? key = some value := by
  -- By induction on the store, whose first entry is below every later one.
  induction s with
  | nil => cases member
  | cons entry rest ih =>
    obtain ⟨below, tail⟩ := List.pairwise_cons.mp sorted
    rcases List.mem_cons.mp member with same | member
    · simp [Store.find?, ← same]
    · -- An entry further behind has another key than the first.
      have differ : entry.1 ≠ key := by
        intro same
        have less := below _ member
        rw [same, ResourceKey.before_irrefl] at less
        cases less
      simp [Store.find?, differ, ih tail member]

/-- Nothing is found under a key that comes before all that stand. -/
theorem find?_of_below {key : ResourceKey} {s : Store}
    (below : ∀ x ∈ s, key.before x.1 = true) : s.find? key = none := by
  cases found : s.find? key with
  | none => rfl
  | some value =>
    -- It would stand there, and come before itself.
    have less := below _ (mem_of_find? found)
    rw [ResourceKey.before_irrefl] at less
    cases less

/-- Nothing is found under a key that is taken out. -/
theorem Sorted.find?_erase_self {s : Store} (sorted : s.Sorted) (key : ResourceKey) :
    (s.erase key).find? key = none := by
  induction s with
  | nil => rfl
  | cons entry rest ih =>
    obtain ⟨below, tail⟩ := List.pairwise_cons.mp sorted
    simp only [Store.erase]
    split
    · next same =>
      -- The key does not stand a second time behind its entry.
      exact find?_of_below fun x member => same ▸ below x member
    · next differ => simp [Store.find?, differ, ih tail]

/-- Whether each resource of a store stands under its own name. -/
def Named (s : Store) : Prop :=
  ∀ key value, (key, value) ∈ s → resourceName value = .ok key.name

end Store

end WatchRelay
