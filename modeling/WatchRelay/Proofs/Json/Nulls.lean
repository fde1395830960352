import WatchRelay.Proofs.Json.Values

/-! Values without their nulls: the members of objects that are `null` are taken out, at every
depth. -/

namespace WatchRelay

namespace Json

/-- A value as it is held: the members of every object in it stand in the order of their keys, each
of which is there once. -/
inductive IsOrdered : Json → Prop where
  | null : IsOrdered .null
  | bool (value : Bool) : IsOrdered (.bool value)
  | number (value : Number) : IsOrdered (.number value)
  | string (text : String) : IsOrdered (.string text)
  | array {items : List Json} (all : ∀ v ∈ items, IsOrdered v) : IsOrdered (.array items)
  | object {members : List (String × Json)} (ordered : members.Pairwise (·.1 < ·.1))
      (all : ∀ m ∈ members, IsOrdered m.2) : IsOrdered (.object members)

/-- A value that contains no `null`, at any depth. -/
inductive IsNullFree : Json → Prop where
  | bool (value : Bool) : IsNullFree (.bool value)
  | number (value : Number) : IsNullFree (.number value)
  | string (text : String) : IsNullFree (.string text)
  | array {items : List Json} (all : ∀ v ∈ items, IsNullFree v) : IsNullFree (.array items)
  | object {members : List (String × Json)} (all : ∀ m ∈ members, IsNullFree m.2) :
      IsNullFree (.object members)

mutual

/-- The value without the members that are `null`, at every depth; items of arrays stay. -/
def dropNulls : Json → Json
  | .array items => .array (itemsDropNulls items)
  | .object members => .object (membersDropNulls members)
  | v => v

/-- The items, each without its nulls. -/
def itemsDropNulls : List Json → List Json
  | [] => []
  | item :: rest => item.dropNulls :: itemsDropNulls rest

/-- The members that are not `null`, each without its nulls. -/
def membersDropNulls : List (String × Json) → List (String × Json)
  | [] => []
  | (key, value) :: rest =>
    if value.isNull then membersDropNulls rest else (key, value.dropNulls) :: membersDropNulls rest

end

/-- Only `null` is a null. -/
theorem isNull_iff {v : Json} : v.isNull = true ↔ v = .null := by
  cases v <;> simp [isNull]

/-- Taking the nulls out of a value makes it no `null` and takes none away. -/
@[simp] theorem isNull_dropNulls (v : Json) : v.dropNulls.isNull = v.isNull := by
  cases v <;> simp [dropNulls, isNull]

/-- Each item is without its nulls. -/
theorem itemsDropNulls_eq_map (items : List Json) : itemsDropNulls items = items.map dropNulls := by
  -- Each item is cleaned by itself.
  induction items with
  | nil => rfl
  | cons item rest ih => rw [itemsDropNulls, ih, List.map_cons]

/-- The members that are not `null` are left, each without its nulls. -/
theorem membersDropNulls_eq_map (members : List (String × Json)) :
    membersDropNulls members = (members.filter fun m => !m.2.isNull).map fun m =>
      (m.1, m.2.dropNulls) := by
  -- A member that is null goes, and the others are cleaned by themselves.
  induction members with
  | nil => rfl
  | cons member rest ih =>
    rw [membersDropNulls, ih, List.filter_cons]
    cases member.2.isNull <;> rfl

/-- Members stay in the order of their keys where nulls are taken out. -/
theorem membersDropNulls_ordered {members : List (String × Json)}
    (ordered : members.Pairwise (·.1 < ·.1)) :
    (membersDropNulls members).Pairwise (·.1 < ·.1) := by
  rw [membersDropNulls_eq_map]
  exact List.pairwise_map.mpr (ordered.filter _)

/-- What is left of what was found under a key: nothing of a `null`, any other value without its
nulls. -/
def kept? : Option Json → Option Json
  | none | some .null => none
  | some v => some v.dropNulls

/-- A value that is no `null` is left. -/
theorem kept?_some {v : Json} (full : v.isNull = false) : kept? (some v) = some v.dropNulls := by
  -- What is not null is kept and cleaned inside.
  cases v with
  | null => cases full
  | _ => rfl

/-- Where nulls are taken out of members, what is left of each is found under its key. -/
theorem find?_membersDropNulls {members : Members} (ordered : members.Pairwise (·.1 < ·.1))
    (name : String) :
    Members.find? name (membersDropNulls members) = kept? (members.find? name) := by
  induction members with
  | nil => rfl
  | cons member rest ih =>
    obtain ⟨key, value⟩ := member
    have ih := ih (List.pairwise_cons.mp ordered).2
    have missing := Members.find?_eq_none_of_ordered ordered
    rw [membersDropNulls, Members.find?]
    cases null : value.isNull with
    | true =>
      rw [if_pos rfl, ih]
      split
      · next same =>
        -- The key does not stand a second time behind the null.
        subst same
        rw [missing, isNull_iff.mp null]
        rfl
      · rfl
    | false =>
      rw [if_neg Bool.false_ne_true, Members.find?, ih]
      split
      · exact (kept?_some null).symm
      · rfl

/-- Without its nulls, a value is held as before. -/
theorem IsOrdered.dropNulls {v : Json} (ordered : v.IsOrdered) : v.dropNulls.IsOrdered := by
  induction ordered with
  -- What is left of the members keeps its order, and the parts are in order themselves.
  | null => exact .null
  | bool value => exact .bool value
  | number value => exact .number value
  | string text => exact .string text
  | @array items _ ih =>
    rw [Json.dropNulls, itemsDropNulls_eq_map]
    exact .array (List.forall_mem_map.mpr ih)
  | @object members ordered _ ih =>
    rw [Json.dropNulls]
    refine .object (membersDropNulls_ordered ordered) fun m left => ?_
    rw [membersDropNulls_eq_map] at left
    obtain ⟨whole, among, rfl⟩ := List.mem_map.mp left
    exact ih whole (List.mem_filter.mp among).1

/-- A value that contains no `null` stays as it is. -/
theorem IsNullFree.dropNulls_eq {v : Json} (free : v.IsNullFree) : v.dropNulls = v := by
  -- No member is null, so none is dropped, and the parts are as they were.
  induction free with
  | bool _ | number _ | string _ => rfl
  | @array items _ ih =>
    rw [Json.dropNulls, itemsDropNulls_eq_map, List.map_congr_left ih, List.map_id']
  | @object members all ih =>
    have full : ∀ m ∈ members, (!m.2.isNull) = true := by
      intro m among
      have free := all m among
      generalize m.2 = v at free
      cases free <;> rfl
    have same : ∀ m ∈ members, (m.1, m.2.dropNulls) = m := fun m among => by rw [ih m among]
    rw [Json.dropNulls, membersDropNulls_eq_map, List.filter_eq_self.mpr full,
      List.map_congr_left same, List.map_id']

mutual

/-- Nulls are taken out once and for all. -/
theorem dropNulls_dropNulls : (v : Json) → v.dropNulls.dropNulls = v.dropNulls
  | .null | .bool _ | .number _ | .string _ => rfl
  | .array items => by rw [dropNulls, dropNulls, itemsDropNulls_idem]
  | .object members => by rw [dropNulls, dropNulls, membersDropNulls_idem]

/-- Of items, nulls are taken out once and for all. -/
theorem itemsDropNulls_idem :
    (items : List Json) → itemsDropNulls (itemsDropNulls items) = itemsDropNulls items
  | [] => rfl
  | item :: rest =>
    by rw [itemsDropNulls, itemsDropNulls, dropNulls_dropNulls item, itemsDropNulls_idem rest]

/-- Of members, nulls are taken out once and for all. -/
theorem membersDropNulls_idem :
    (members : List (String × Json)) →
    membersDropNulls (membersDropNulls members) = membersDropNulls members
  | [] => rfl
  | (key, value) :: rest => by
    -- A member that was kept is kept again.
    rw [membersDropNulls]
    split
    · exact membersDropNulls_idem rest
    · next full =>
      rw [membersDropNulls, isNull_dropNulls, if_neg full, dropNulls_dropNulls value,
        membersDropNulls_idem rest]

end

end Json

namespace Members

/-- Members given in any order are kept in that of their keys, with the values they were given. -/
theorem isOrdered_ofList {members : List (String × Json)}
    (all : ∀ m ∈ members, m.2.IsOrdered) :
    (Json.object (ofList members)).IsOrdered := by
  obtain ⟨ordered, among⟩ := ofList_ordered_subset members
  exact .object ordered fun m member => all m (among m member)

end Members

namespace Tree

mutual

/-- What is read of a tree is held in order. -/
theorem isOrdered_toJson :
    (t : Tree) → {depth : Nat} → {v : Json} → t.toJson depth = .ok v → v.IsOrdered
  -- Keys are put in order where an object is read, so nothing is asked of the tree.
  | .null, _, _, reads => by
    cases reads
    exact .null
  | .bool b, _, _, reads => by
    cases reads
    exact .bool b
  | .numeral n, _, _, reads => by
    obtain ⟨value, -, rfl⟩ := Outcome.map_eq_ok.mp reads
    exact .number value
  | .string s, _, _, reads => by
    obtain ⟨text, -, rfl⟩ := Outcome.map_eq_ok.mp reads
    exact .string text
  | .array items _, _, _, reads => by
    obtain ⟨depth, -, reads⟩ := Outcome.bind_eq_ok.mp reads
    obtain ⟨values, inner, reads⟩ := Outcome.bind_eq_ok.mp reads
    obtain ⟨-, -, same⟩ := Outcome.bind_eq_ok.mp reads
    cases same
    exact .array (isOrdered_itemsToJson items inner)
  | .object members _, _, _, reads => by
    obtain ⟨depth, -, reads⟩ := Outcome.bind_eq_ok.mp reads
    obtain ⟨values, inner, reads⟩ := Outcome.bind_eq_ok.mp reads
    obtain ⟨-, -, same⟩ := Outcome.bind_eq_ok.mp reads
    cases same
    exact Members.isOrdered_ofList (isOrdered_membersToJson members inner)
  | .missing _, _, _, reads => by cases reads
  | .noColon _, _, _, reads => by cases reads

/-- What is read of items is held in order. -/
theorem isOrdered_itemsToJson : (items : List Tree) → {depth : Nat} → {values : List Json} →
    itemsToJson depth items = .ok values → ∀ v ∈ values, v.IsOrdered
  | [], _, _, reads => by
    cases reads
    simp
  | item :: rest, _, _, reads => by
    -- The first item and the others are read apart.
    obtain ⟨first, own, reads⟩ := Outcome.bind_eq_ok.mp reads
    obtain ⟨others, later, same⟩ := Outcome.bind_eq_ok.mp reads
    cases same
    exact List.forall_mem_cons.mpr ⟨isOrdered_toJson item own, isOrdered_itemsToJson rest later⟩

/-- What is read of the members of an object is held in order. -/
theorem isOrdered_membersToJson : (members : List (Spelling × Tree)) → {depth : Nat} →
    {values : List (String × Json)} → membersToJson depth members = .ok values →
    ∀ m ∈ values, m.2.IsOrdered
  | [], _, _, reads => by
    cases reads
    simp
  | (key, value) :: rest, _, _, reads => by
    -- The first member and the others are read apart.
    obtain ⟨name, -, reads⟩ := Outcome.bind_eq_ok.mp reads
    obtain ⟨first, own, reads⟩ := Outcome.bind_eq_ok.mp reads
    obtain ⟨others, later, same⟩ := Outcome.bind_eq_ok.mp reads
    cases same
    exact List.forall_mem_cons.mpr
      ⟨isOrdered_toJson value own, isOrdered_membersToJson rest later⟩

end

end Tree

/-- The value of a text is held in order. -/
theorem Json.isOrdered_ofText {text : String} {v : Json} (reads : Json.ofText text = .ok v) :
    v.IsOrdered := by
  -- What is behind the value only tells whether the text is taken.
  obtain ⟨value, read, trailing⟩ := Outcome.bind_eq_ok.mp reads
  split at trailing
  · cases trailing
  · cases trailing
    exact Tree.isOrdered_toJson _ read

end WatchRelay
