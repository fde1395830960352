import WatchRelay.Proofs.Json.Grammar

/-! The values of JSON texts: which trees stand for one, and how the members of an object are
kept. -/

namespace WatchRelay

namespace Members

variable {key : String} {value : Json} {m : Members}

/-- Nothing but what is put among members comes among them. -/
theorem mem_of_mem_insert {p : String × Json} (member : p ∈ insert key value m) :
    p = (key, value) ∨ p ∈ m := by
  -- The place of the key is looked for, and each member on the way stays.
  induction m with
  | nil => simpa [insert] using member
  | cons first rest ih =>
    simp only [insert] at member
    split at member
    · exact (List.mem_cons.mp member).imp_right (List.mem_cons_of_mem _)
    · split at member
      · exact List.mem_cons.mp member
      · rcases List.mem_cons.mp member with rfl | later
        · exact .inr List.mem_cons_self
        · exact (ih later).imp_right (List.mem_cons_of_mem _)

/-- Members in the order of their keys stay so where one is put among them. -/
theorem insert_ordered (ordered : m.Pairwise (·.1 < ·.1)) (key : String) (value : Json) :
    (insert key value m).Pairwise (·.1 < ·.1) := by
  -- The member is put before the first one with a larger key.
  induction m with
  | nil => simp [insert]
  | cons first rest ih =>
    obtain ⟨before, others⟩ := List.pairwise_cons.mp ordered
    simp only [insert]
    split
    -- The key stays where it is.
    · next same =>
      exact List.pairwise_cons.mpr ⟨fun p member => same ▸ before p member, others⟩
    · next differ =>
      split
      · next less =>
        refine List.pairwise_cons.mpr
          ⟨List.forall_mem_cons.mpr ⟨less, fun p member => ?_⟩, ordered⟩
        exact String.lt_trans less (before p member)
      · next notLess =>
        have less : first.1 < key := Std.lt_of_le_of_ne (String.not_lt.mp notLess) differ
        refine List.pairwise_cons.mpr ⟨fun p member => ?_, ih others⟩
        rcases mem_of_mem_insert member with rfl | among
        · exact less
        · exact before p among

/-- What is under a key is a member. -/
theorem mem_of_find? (found : m.find? key = some value) : (key, value) ∈ m := by
  induction m with
  -- Only a member with the key is found.
  | nil => cases found
  | cons first rest ih =>
    rw [find?] at found
    split at found
    · next same =>
      cases found
      exact same ▸ List.mem_cons_self
    · exact List.mem_cons_of_mem _ (ih found)

/-- Behind a key there is no other like it. -/
theorem find?_eq_none_of_ordered {first : String × Json} {rest : Members}
    (ordered : (first :: rest).Pairwise (·.1 < ·.1)) : find? first.1 rest = none := by
  -- All others have larger keys.
  obtain ⟨before, -⟩ := List.pairwise_cons.mp ordered
  refine Option.eq_none_iff_forall_not_mem.mpr fun value found => ?_
  exact String.lt_irrefl _ (before (first.1, value) (mem_of_find? found))

/-- Members given in any order are kept in that of their keys, and no others are. -/
theorem ofList_ordered_subset (members : List (String × Json)) :
    (ofList members).Pairwise (·.1 < ·.1) ∧ ∀ p ∈ ofList members, p ∈ members := by
  -- The members that were put there before are kept as well.
  suffices all : ∀ m : Members, m.Pairwise (·.1 < ·.1) →
      (members.foldl (fun m p => insert p.1 p.2 m) m).Pairwise (·.1 < ·.1) ∧
        ∀ p ∈ members.foldl (fun m p => insert p.1 p.2 m) m, p ∈ m ∨ p ∈ members by
    obtain ⟨ordered, among⟩ := all [] .nil
    exact ⟨ordered, fun p member => (among p member).resolve_left (List.not_mem_nil)⟩
  induction members with
  | nil => exact fun m ordered => ⟨ordered, fun p member => .inl member⟩
  | cons first rest ih =>
    intro m ordered
    obtain ⟨sorted, among⟩ := ih (insert first.1 first.2 m) (insert_ordered ordered _ _)
    refine ⟨sorted, fun p member => ?_⟩
    rcases among p member with put | later
    · rcases mem_of_mem_insert put with rfl | before
      · exact .inr List.mem_cons_self
      · exact .inl before
    · exact .inr (List.mem_cons_of_mem _ later)

end Members

namespace Tree

/-- The value a tree stands for: of a key that stands there repeatedly, the last value. -/
inductive StandsFor : Tree → Json → Prop where
  | null : StandsFor .null .null
  | bool (value : Bool) : StandsFor (.bool value) (.bool value)
  | numeral {n : Numeral} {value : Number} (reads : n.read = some value) :
      StandsFor (.numeral n) (.number value)
  | string {s : Spelling} {text : String} (stands : s.StandsFor text) :
      StandsFor (.string s) (.string text)
  | array {items : List (Tree × Json)} (all : ∀ i ∈ items, StandsFor i.1 i.2) :
      StandsFor (.array (items.map (·.1)) .closed) (.array (items.map (·.2)))
  | object {members : List ((Spelling × Tree) × String × Json)}
      (keys : ∀ m ∈ members, m.1.1.StandsFor m.2.1)
      (all : ∀ m ∈ members, StandsFor m.1.2 m.2.2) :
      StandsFor (.object (members.map (·.1)) .closed)
        (.object (Members.ofList (members.map (·.2))))

mutual

/-- How many containers a tree has inside one another, itself included. -/
def nesting : Tree → Nat
  | .array items _ => itemsNesting items + 1
  | .object members _ => membersNesting members + 1
  | _ => 0

/-- The deepest nesting among items. -/
def itemsNesting : List Tree → Nat
  | [] => 0
  | item :: rest => max item.nesting (itemsNesting rest)

/-- The deepest nesting among members. -/
def membersNesting : List (Spelling × Tree) → Nat
  | [] => 0
  | (_, value) :: rest => max value.nesting (membersNesting rest)

end

/-- Items are nested no more deeply than so much if each is. -/
theorem itemsNesting_le {items : List Tree} {depth : Nat} :
    itemsNesting items ≤ depth ↔ ∀ t ∈ items, t.nesting ≤ depth := by
  -- The depth suffices if it does for each item.
  induction items with
  | nil => simp [itemsNesting]
  | cons item rest ih => rw [itemsNesting, Nat.max_le, ih, List.forall_mem_cons]

/-- Members are nested no more deeply than so much if the value of each is. -/
theorem membersNesting_le {members : List (Spelling × Tree)} {depth : Nat} :
    membersNesting members ≤ depth ↔ ∀ p ∈ members, p.2.nesting ≤ depth := by
  -- The depth suffices if it does for each member.
  induction members with
  | nil => simp [membersNesting]
  | cons member rest ih => rw [membersNesting, Nat.max_le, ih, List.forall_mem_cons]

/-- A container may be entered where there is room for one more. -/
theorem deeper_eq_ok {depth inner : Nat} :
    deeper (depth + 1) = .ok inner ↔ depth = inner ∧ 1 ≤ depth := by
  -- A level is taken away as long as one is left behind it.
  unfold deeper
  split
  · simp only [reduceCtorEq, false_iff]
    omega
  · simp only [Except.ok.injEq]
    omega

/-- The values of items are those of the single items. -/
theorem itemsToJson_eq_ok {depth : Nat} {items : List Tree} {values : List Json} :
    itemsToJson depth items = .ok values ↔
      ∃ pairs : List (Tree × Json), pairs.map (·.1) = items ∧ pairs.map (·.2) = values ∧
        ∀ p ∈ pairs, p.1.toJson depth = .ok p.2 := by
  -- The items are read one after the other, and each gives its value.
  induction items generalizing values with
  | nil =>
    constructor
    · intro reads
      cases reads
      exact ⟨[], rfl, rfl, by simp⟩
    · rintro ⟨pairs, first, rfl, -⟩
      rw [List.map_eq_nil_iff.mp first]
      rfl
  | cons item rest ih =>
    constructor
    · intro reads
      obtain ⟨value, own, behind⟩ := Outcome.bind_eq_ok.mp reads
      obtain ⟨others, later, same⟩ := Outcome.bind_eq_ok.mp behind
      cases same
      obtain ⟨pairs, rfl, rfl, all⟩ := ih.mp later
      exact ⟨(item, value) :: pairs, rfl, rfl, List.forall_mem_cons.mpr ⟨own, all⟩⟩
    · rintro ⟨pairs, first, rfl, all⟩
      obtain ⟨p, pairs, rfl, rfl, rfl⟩ := List.map_eq_cons_iff.mp first
      obtain ⟨own, later⟩ := List.forall_mem_cons.mp all
      have others := ih.mpr ⟨pairs, rfl, rfl, later⟩
      exact Outcome.bind_eq_ok.mpr ⟨_, own, Outcome.bind_eq_ok.mpr ⟨_, others, rfl⟩⟩

/-- The keys and values of members are those of the single members. -/
theorem membersToJson_eq_ok {depth : Nat} {members : List (Spelling × Tree)}
    {values : List (String × Json)} :
    membersToJson depth members = .ok values ↔
      ∃ pairs : List ((Spelling × Tree) × String × Json), pairs.map (·.1) = members ∧
        pairs.map (·.2) = values ∧
        ∀ p ∈ pairs, p.1.1.read = .ok p.2.1 ∧ p.1.2.toJson depth = .ok p.2.2 := by
  -- The members are read one after the other, and each gives its key and its value.
  induction members generalizing values with
  | nil =>
    constructor
    · intro reads
      cases reads
      exact ⟨[], rfl, rfl, by simp⟩
    · rintro ⟨pairs, first, rfl, -⟩
      rw [List.map_eq_nil_iff.mp first]
      rfl
  | cons member rest ih =>
    constructor
    · intro reads
      obtain ⟨key, spelled, inner⟩ := Outcome.bind_eq_ok.mp reads
      obtain ⟨value, own, behind⟩ := Outcome.bind_eq_ok.mp inner
      obtain ⟨others, later, same⟩ := Outcome.bind_eq_ok.mp behind
      cases same
      obtain ⟨pairs, rfl, rfl, all⟩ := ih.mp later
      exact ⟨(member, key, value) :: pairs, rfl, rfl,
        List.forall_mem_cons.mpr ⟨⟨spelled, own⟩, all⟩⟩
    · rintro ⟨pairs, first, rfl, all⟩
      obtain ⟨p, pairs, rfl, rfl, rfl⟩ := List.map_eq_cons_iff.mp first
      obtain ⟨⟨spelled, own⟩, later⟩ := List.forall_mem_cons.mp all
      have others := ih.mpr ⟨pairs, rfl, rfl, later⟩
      exact Outcome.bind_eq_ok.mpr ⟨_, spelled, Outcome.bind_eq_ok.mpr ⟨_, own,
        Outcome.bind_eq_ok.mpr ⟨_, others, rfl⟩⟩⟩

/-- A tree is read as the value it stands for if it is nested no more deeply than the reader may
go. -/
theorem StandsFor.toJson {t : Tree} {v : Json} (stands : t.StandsFor v) {depth : Nat}
    (shallow : t.nesting ≤ depth) : t.toJson (depth + 1) = .ok v := by
  -- The induction is on how the tree stands for the value. A bracket needs a level of its own.
  induction stands generalizing depth with
  | null | bool _ => rfl
  | numeral reads => simp [Tree.toJson, readNumeral, reads, Functor.map, Except.map]
  | string stands => simp [Tree.toJson, Spelling.read_eq_ok.mpr stands, Functor.map, Except.map]
  | @array items _ ih =>
    rw [nesting] at shallow
    obtain ⟨depth, rfl⟩ := Nat.exists_eq_add_of_le' (show 1 ≤ depth by omega)
    have nested := itemsNesting_le.mp (Nat.le_of_succ_le_succ shallow)
    have read := itemsToJson_eq_ok.mpr ⟨items, rfl, rfl, fun i member =>
      ih i member (nested _ (List.mem_map_of_mem member))⟩
    exact Outcome.bind_eq_ok.mpr ⟨depth + 1, deeper_eq_ok.mpr ⟨rfl, by omega⟩,
      Outcome.bind_eq_ok.mpr ⟨_, read, rfl⟩⟩
  | @object members keys _ ih =>
    rw [nesting] at shallow
    obtain ⟨depth, rfl⟩ := Nat.exists_eq_add_of_le' (show 1 ≤ depth by omega)
    have nested := membersNesting_le.mp (Nat.le_of_succ_le_succ shallow)
    have read := membersToJson_eq_ok.mpr ⟨members, rfl, rfl, fun m member =>
      ⟨Spelling.read_eq_ok.mpr (keys m member),
        ih m member (nested _ (List.mem_map_of_mem member))⟩⟩
    exact Outcome.bind_eq_ok.mpr ⟨depth + 1, deeper_eq_ok.mpr ⟨rfl, by omega⟩,
      Outcome.bind_eq_ok.mpr ⟨_, read, rfl⟩⟩

/-- A whole tree that is read stands for what it is read as, and is nested no more deeply than was
read. -/
theorem Whole.standsFor {t : Tree} (whole : t.Whole) {depth : Nat} {v : Json}
    (reads : t.toJson (depth + 1) = .ok v) : t.StandsFor v ∧ t.nesting ≤ depth := by
  -- The induction is on the tree, as each of its parts was read to a part of the value.
  induction whole generalizing depth v with
  | null =>
    cases reads
    exact ⟨.null, Nat.zero_le _⟩
  | bool value =>
    cases reads
    exact ⟨.bool value, Nat.zero_le _⟩
  | numeral n =>
    obtain ⟨value, read, rfl⟩ := Outcome.map_eq_ok.mp reads
    -- A numeral was read by the reader of numerals, and may be too large.
    unfold readNumeral at read
    split at read
    · next some_ =>
      cases read
      exact ⟨.numeral some_, Nat.zero_le _⟩
    · cases read
  | string s =>
    obtain ⟨text, read, rfl⟩ := Outcome.map_eq_ok.mp reads
    exact ⟨.string (Spelling.read_eq_ok.mp read), Nat.zero_le _⟩
  | array _ ih =>
    obtain ⟨inner, deep, behind⟩ := Outcome.bind_eq_ok.mp reads
    obtain ⟨values, items, same⟩ := Outcome.bind_eq_ok.mp behind
    cases same
    -- The depth that is left for the parts is one less.
    obtain ⟨rfl, room⟩ := deeper_eq_ok.mp deep
    obtain ⟨depth, rfl⟩ := Nat.exists_eq_add_of_le' room
    obtain ⟨pairs, rfl, rfl, all⟩ := itemsToJson_eq_ok.mp items
    have parts := fun p member => ih _ (List.mem_map_of_mem member) (all p member)
    refine ⟨.array fun p member => (parts p member).1,
      Nat.succ_le_succ (itemsNesting_le.mpr ?_)⟩
    exact List.forall_mem_map.mpr fun p member => (parts p member).2
  | object _ ih =>
    obtain ⟨inner, deep, behind⟩ := Outcome.bind_eq_ok.mp reads
    obtain ⟨values, members, same⟩ := Outcome.bind_eq_ok.mp behind
    cases same
    obtain ⟨rfl, room⟩ := deeper_eq_ok.mp deep
    obtain ⟨depth, rfl⟩ := Nat.exists_eq_add_of_le' room
    obtain ⟨pairs, rfl, rfl, all⟩ := membersToJson_eq_ok.mp members
    have parts := fun p member => ih _ (List.mem_map_of_mem member) (all p member).2
    -- Both the keys and the values were read.
    refine ⟨.object (fun p member => Spelling.read_eq_ok.mp (all p member).1)
      (fun p member => (parts p member).1), Nat.succ_le_succ (membersNesting_le.mpr ?_)⟩
    exact List.forall_mem_map.mpr fun p member => (parts p member).2

/-- A text has the value that its tree stands for, if no more than 127 containers are inside one
another, and no other. -/
theorem IsWritten.ofText_eq_ok {t : Tree} {text : String} (written : t.IsWritten text.toList)
    {v : Json} :
    Json.ofText text = .ok v ↔ t.StandsFor v ∧ t.nesting ≤ 127 := by
  -- A text is read with room for 127 brackets.
  have read : Json.ofText text = t.toJson (127 + 1) := by
    simp [Json.ofText, readText, written.ofText, depthLimit, bind, Except.bind]
    cases t.toJson 128 <;> rfl
  rw [read]
  exact ⟨written.whole.standsFor, fun ⟨stands, shallow⟩ => stands.toJson shallow⟩

/-- The members a tree stands for are in the order of their keys, and each value is one that a tree
stands for. -/
theorem StandsFor.members {t : Tree} {members : Members} (stands : t.StandsFor (.object members)) :
    members.Pairwise (·.1 < ·.1) ∧ ∀ p ∈ members, ∃ t : Tree, t.StandsFor p.2 := by
  -- Each member comes from one of the tree, and they are put in order.
  cases stands with
  | @object members _ all =>
    obtain ⟨ordered, among⟩ := Members.ofList_ordered_subset (members.map (·.2))
    refine ⟨ordered, fun p member => ?_⟩
    obtain ⟨m, inside, rfl⟩ := List.mem_map.mp (among p member)
    exact ⟨m.1.2, all m inside⟩

end Tree

end WatchRelay
