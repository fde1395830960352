import WatchRelay.Json.Value

/-! The resources of one kind, by project and name. -/

namespace WatchRelay

/-- Where a resource is kept: its project and its name. -/
structure ResourceKey where
  project : String
  name : String
deriving DecidableEq, Repr

namespace ResourceKey

/-- The order of keys: by project, then by name, each by its UTF-8 bytes. -/
def before (a b : ResourceKey) : Bool :=
  a.project < b.project || (a.project == b.project && a.name < b.name)

end ResourceKey

/-- Resources in the order of their keys. -/
abbrev Store := List (ResourceKey × Json)

namespace Store

/-- The resource under a key. -/
def find? (key : ResourceKey) : Store → Option Json
  | [] => none
  | (k, v) :: rest => if k = key then some v else find? key rest

/-- The store with a resource put under a key. -/
def insert (key : ResourceKey) (value : Json) : Store → Store
  | [] => [(key, value)]
  | (k, v) :: rest =>
    if k = key then (key, value) :: rest
    else if key.before k then (key, value) :: (k, v) :: rest
    else (k, v) :: insert key value rest

/-- The store without the resource under a key. -/
def erase (key : ResourceKey) : Store → Store
  | [] => []
  | (k, v) :: rest => if k = key then rest else (k, v) :: erase key rest

/-- A resource put under a key is found there. -/
@[simp] theorem find?_insert_self (key : ResourceKey) (value : Json) (s : Store) :
    find? key (insert key value s) = some value := by
  induction s with
  | nil => simp [insert, find?]
  | cons entry rest ih =>
    simp only [insert]
    split
    -- The key is there already, and its resource is replaced.
    · simp [find?]
    · split
      -- The key comes before all that are there.
      · simp [find?]
      -- The key belongs behind an entry with another key.
      · next differ _ => simp [find?, differ, ih]

/-- A resource put under a key changes nothing under another. -/
theorem find?_insert_of_ne {key other : ResourceKey} (differ : key ≠ other) (value : Json)
    (s : Store) : find? other (insert key value s) = find? other s := by
  induction s with
  | nil => simp [insert, find?, differ]
  | cons entry rest ih =>
    simp only [insert]
    split
    -- The replaced entry is not the one that is looked for.
    · next same => simp [find?, differ, same]
    · split
      · simp [find?, differ]
      · simp [find?, ih]

/-- Taking a resource out changes nothing under another key. -/
theorem find?_erase_of_ne {key other : ResourceKey} (differ : key ≠ other) (s : Store) :
    find? other (erase key s) = find? other s := by
  induction s with
  | nil => rfl
  | cons entry rest ih =>
    simp only [erase]
    split
    -- The entry taken out is not the one that is looked for.
    · next same => simp [find?, differ, same]
    · simp [find?, ih]

end Store

end WatchRelay
