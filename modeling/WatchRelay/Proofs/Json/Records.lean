import WatchRelay.Proofs.Json.Syntax

/-! Which members of an object a record takes: each of its fields once, and anything under other
names. -/

namespace WatchRelay

/-- Whether a field is read from a tree, whatever was read before. -/
def Field.Reads {draft : Type} (f : Field draft) (depth : Nat) (t : Tree) : Prop :=
  ∃ d d', f.fromTree d depth t = .ok d'

/-- A field is set to what is read. -/
theorem Field.fromTree_of {draft α : Type} {name : String} {optional : Bool} {get : draft →
    Option α}
    {set : draft → α → draft} {tree : TreeReader α} {json : Json → Except Fault α}
    {depth : Nat} {t : Tree}
    {v : α} (d : draft) (reads : tree depth t = .ok v) :
    (Field.of name optional get set tree json).fromTree d depth t = .ok (set d v) := by
  simp [Field.of, reads, Functor.map, Except.map]

/-- A field can be read from what its value is read from. -/
theorem Field.reads_of {draft α : Type} {name : String} {optional : Bool} {get : draft →
    Option α}
    {set : draft → α → draft} {tree : TreeReader α} {json : Json → Except Fault α}
    {depth : Nat} {t : Tree}
    (d : draft) : (Field.of name optional get set tree json).Reads depth t ↔
    ∃ v, tree depth t = .ok v := by
  -- Reading a field is reading its value, and the draft only takes it in.
  constructor
  · rintro ⟨before, after, read⟩
    obtain ⟨v, reads, -⟩ := Outcome.map_eq_ok.mp read
    exact ⟨v, reads⟩
  · rintro ⟨v, reads⟩
    exact ⟨d, set d v, Field.fromTree_of d reads⟩

namespace Record

variable {draft α : Type} {r : Record draft α} {depth : Nat} {d : draft}

/-- The field with a name. -/
def field? (r : Record draft α) (name : String) : Option (Field draft) :=
  r.fields.find? (·.name == name)

/-- The name of a member, if it is the name of a field. -/
def known? (r : Record draft α) (p : Spelling × Tree) : Option String :=
  p.1.read.toOption.filter fun name => (r.field? name).isSome

/-- Whether a member can be taken: as the field it names, or as anything under another name. -/
def Takes (r : Record draft α) (depth : Nat) (p : Spelling × Tree) : Prop :=
  ∃ name, p.1.read = .ok name ∧
    match r.field? name with
    | some f => (∀ met, p.2 ≠ .noColon met) ∧ f.Reads depth p.2
    | none => p.2.skip = .ok ()

/-- A record whose fields do not get into each other's way: a field that is read is there, the
others are there as before, and whether it is read does not depend on what was read before. -/
structure Apart (r : Record draft α) : Prop where
  own : ∀ f ∈ r.fields, ∀ {d d' depth t}, f.fromTree d depth t = .ok d' → f.filled d' = true
  others : ∀ f ∈ r.fields, ∀ g ∈ r.fields, g.name ≠ f.name → ∀ {d d' depth t},
    f.fromTree d depth t = .ok d' → g.filled d' = g.filled d
  alike : ∀ f ∈ r.fields, ∀ {depth t}, f.Reads depth t →
    ∀ d, ∃ d', f.fromTree d depth t = .ok d'

/-- The field with a name is one of the record, and has that name. -/
theorem field?_some {name : String} {f : Field draft} (found : r.field? name = some f) :
    f ∈ r.fields ∧ f.name = name :=
  ⟨List.mem_of_find?_eq_some found, by simpa using List.find?_some found⟩

/-- The member of a field is read into the draft, unless the field is there already. -/
theorem readMembers_field {key : Spelling} {value : Tree} {name : String} {f : Field draft}
    (spelled : key.read = .ok name) (found : r.field? name = some f)
    (colon : ∀ met, value ≠ .noColon met) (rest : List (Spelling × Tree)) :
    r.readMembers depth d ((key, value) :: rest) =
      if f.filled d then .error (.duplicateField name)
      else f.fromTree d depth value >>= fun d => r.readMembers depth d rest := by
  -- The name is that of a field, so the member is read by it, unless it was read before.
  unfold field? at found
  cases value with
  | noColon met => exact absurd rfl (colon met)
  | _ => simp [readMembers, spelled, found, bind, Except.bind]

/-- A member that is no field is skipped. -/
theorem readMembers_other {key : Spelling} {value : Tree} {name : String}
    (spelled : key.read = .ok name) (missing : r.field? name = none)
    (rest : List (Spelling × Tree)) :
    r.readMembers depth d ((key, value) :: rest) =
      value.skip >>= fun _ => r.readMembers depth d rest := by
  unfold field? at missing
  simp [readMembers, spelled, missing, bind, Except.bind]

/-- What is seen of a draft and changes only where a field with a certain name is read. -/
def Keeps {β : Type} (r : Record draft α) (name : String) (seen : draft → β) : Prop :=
  ∀ f ∈ r.fields, f.name ≠ name → ∀ {d d' depth t}, f.fromTree d depth t = .ok d' →
    seen d' = seen d

/-- Members are read one by one: the first is a field that is not there yet, or it is skipped. -/
theorem readMembers_cons {key : Spelling} {value : Tree} {rest : List (Spelling × Tree)}
    {d' : draft}
    (reads : r.readMembers depth d ((key, value) :: rest) = .ok d') :
    ∃ name, key.read = .ok name ∧
      ((r.field? name = none ∧ value.skip = .ok () ∧ r.readMembers depth d rest = .ok d') ∨
        ∃ f d₁, r.field? name = some f ∧ (∀ met, value ≠ .noColon met) ∧
          f.filled d = false ∧
          f.fromTree d depth value = .ok d₁ ∧ r.readMembers depth d₁ rest = .ok d') := by
  cases spelled : key.read with
  | error fault => simp [readMembers, spelled, bind, Except.bind] at reads
  | ok name =>
    refine ⟨name, rfl, ?_⟩
    cases found : r.field? name with
    | none =>
      rw [readMembers_other spelled found] at reads
      obtain ⟨⟨⟩, skips, later⟩ := Outcome.bind_eq_ok.mp reads
      exact .inl ⟨rfl, skips, later⟩
    | some f =>
      -- Where no colon follows the key, nothing is read.
      by_cases colon : ∃ met, value = .noColon met
      · obtain ⟨met, rfl⟩ := colon
        unfold field? at found
        cases there : f.filled d <;>
          simp [readMembers, spelled, found, there, bind, Except.bind] at reads
      · have behind := not_exists.mp colon
        rw [readMembers_field spelled found behind] at reads
        split at reads
        · cases reads
        · next open_ =>
          obtain ⟨d₁, read, later⟩ := Outcome.bind_eq_ok.mp reads
          exact .inr ⟨f, d₁, rfl, behind, Bool.eq_false_iff.mpr open_, read, later⟩

/-- Members that are read can be read up to any of them. -/
theorem readMembers_append {before after : List (Spelling × Tree)} {d' : draft}
    (reads : r.readMembers depth d (before ++ after) = .ok d') :
    ∃ d₁, r.readMembers depth d before = .ok d₁ ∧
      r.readMembers depth d₁ after = .ok d' := by
  -- The members are read one by one, so reading can be broken off between any two.
  induction before generalizing d with
  | nil => exact ⟨d, rfl, reads⟩
  | cons member before ih =>
    obtain ⟨key, value⟩ := member
    obtain ⟨name, spelled, ⟨missing, skips, later⟩ |
        ⟨f, d₀, found, colon, open_, read, later⟩⟩ :=
      readMembers_cons reads
    · obtain ⟨d₁, first, second⟩ := ih later
      refine ⟨d₁, ?_, second⟩
      rw [readMembers_other spelled missing, skips]
      exact first
    · obtain ⟨d₁, first, second⟩ := ih later
      refine ⟨d₁, ?_, second⟩
      rw [readMembers_field spelled found colon, open_, if_neg Bool.false_ne_true, read]
      exact first

/-- What is seen of a draft stays where no member has the name that changes it. -/
theorem Keeps.readMembers {β : Type} {name : String} {seen : draft → β}
    (keeps : r.Keeps name seen)
    {members : List (Spelling × Tree)} (others : ∀ p ∈ members, p.1.read ≠ .ok name)
    {d' : draft}
    (reads : r.readMembers depth d members = .ok d') : seen d' = seen d := by
  -- Each of these members is skipped or read by another field.
  induction members generalizing d with
  | nil =>
    cases reads
    rfl
  | cons member rest ih =>
    obtain ⟨first, later⟩ := List.forall_mem_cons.mp others
    obtain ⟨key, value⟩ := member
    obtain ⟨name', spelled, ⟨-, -, behind⟩ | ⟨f, d₁, found, -, -, read, behind⟩⟩ :=
      readMembers_cons reads
    · exact ih later behind
    · obtain ⟨among, called⟩ := field?_some found
      have differ : f.name ≠ name := fun same => first (by rw [spelled, ← called, same])
      exact (ih later behind).trans (keeps f among differ read)

/-- What is seen of a draft behind members of which one alone has the name that changes it is what
is seen where that one was read. -/
theorem Keeps.sees {β : Type} {name : String} {seen : draft → β} (keeps : r.Keeps name seen)
    {members rest : List (Spelling × Tree)} {key : Spelling} {value : Tree} {f : Field draft}
    (alone : members.Perm ((key, value) :: rest)) (spelled : key.read = .ok name)
    (found : r.field? name = some f) (others : ∀ p ∈ rest, p.1.read ≠ .ok name) {d' : draft}
    (reads : r.readMembers depth d members = .ok d') :
    ∃ d₀ d₁, f.fromTree d₀ depth value = .ok d₁ ∧ seen d' = seen d₁ := by
  -- The members stand in some order around the one with the name.
  obtain ⟨before, after, rfl⟩ := List.append_of_mem (alone.mem_iff.mpr List.mem_cons_self)
  have around : (before ++ after).Perm rest :=
    (List.perm_middle.symm.trans alone).cons_inv
  obtain ⟨d₀, -, inner⟩ := readMembers_append reads
  obtain ⟨name', spelled', ⟨missing, -⟩ | ⟨f', d₁, found', -, -, read, behind⟩⟩ :=
    readMembers_cons inner
  · obtain rfl : name = name' := Except.ok.inj (spelled.symm.trans spelled')
    rw [found] at missing
    cases missing
  · obtain rfl : name = name' := Except.ok.inj (spelled.symm.trans spelled')
    obtain rfl : f = f' := Option.some.inj (found.symm.trans found')
    refine ⟨d₀, d₁, read, keeps.readMembers (fun p member => ?_) behind⟩
    exact others p (around.mem_iff.mp (List.mem_append_right _ member))

/-- Members of which each can be taken, and none of which names a field twice or one that is
there. -/
structure Admits (r : Record draft α) (depth : Nat) (d : draft)
    (members : List (Spelling × Tree)) :
    Prop where
  takes : ∀ p ∈ members, r.Takes depth p
  once : (members.filterMap r.known?).Nodup
  open_ : ∀ name ∈ members.filterMap r.known?, ∀ f, r.field? name = some f →
    f.filled d = false

/-- A member that is no field is admitted if it is skipped. -/
theorem admits_other {key : Spelling} {value : Tree} {name : String}
    {rest : List (Spelling × Tree)}
    (spelled : key.read = .ok name) (missing : r.field? name = none) :
    r.Admits depth d ((key, value) :: rest) ↔ value.skip = .ok () ∧ r.Admits depth d rest := by
  have unknown : r.known? (key, value) = none := by
    simp [known?, spelled, missing, Except.toOption]
  have takes : r.Takes depth (key, value) ↔ value.skip = .ok () := by
    simp [Takes, spelled, missing]
  -- The member counts for nothing among the names, and needs only to be skipped.
  constructor
  · rintro ⟨all, once, open_⟩
    rw [List.filterMap_cons_none unknown] at once open_
    obtain ⟨first, later⟩ := List.forall_mem_cons.mp all
    exact ⟨takes.mp first, later, once, open_⟩
  · rintro ⟨skips, later, once, open_⟩
    refine ⟨List.forall_mem_cons.mpr ⟨takes.mpr skips, later⟩, ?_, ?_⟩ <;>
      rwa [List.filterMap_cons_none unknown]

/-- The member of a field is admitted if the field is not there and can be read, and no later member
names it again. -/
theorem admits_field {key : Spelling} {value : Tree} {name : String} {f : Field draft}
    {rest : List (Spelling × Tree)} (spelled : key.read = .ok name)
    (found : r.field? name = some f) :
    r.Admits depth d ((key, value) :: rest) ↔
      ((∀ met, value ≠ .noColon met) ∧ f.Reads depth value) ∧ f.filled d = false ∧
        name ∉ rest.filterMap r.known? ∧ r.Admits depth d rest := by
  have known : r.known? (key, value) = some name := by
    simp [known?, spelled, found, Except.toOption]
  have takes : r.Takes depth (key, value) ↔ (∀ met, value ≠ .noColon met) ∧
      f.Reads depth value := by
    simp [Takes, spelled, found]
  -- The member gives its name, which none of the others may give again.
  constructor
  · rintro ⟨all, once, open_⟩
    rw [List.filterMap_cons_some known] at once open_
    obtain ⟨first, later⟩ := List.forall_mem_cons.mp all
    obtain ⟨new, once⟩ := List.nodup_cons.mp once
    obtain ⟨own, open_⟩ := List.forall_mem_cons.mp open_
    exact ⟨takes.mp first, own f found, new, later, once, open_⟩
  · rintro ⟨reads, own, new, later, once, open_⟩
    refine ⟨List.forall_mem_cons.mpr ⟨takes.mpr reads, later⟩, ?_, ?_⟩ <;>
      rw [List.filterMap_cons_some known]
    · exact List.nodup_cons.mpr ⟨new, once⟩
    · refine List.forall_mem_cons.mpr ⟨fun g same => ?_, open_⟩
      obtain rfl : f = g := by simpa [found] using same
      exact own

/-- Behind the reading of a field, the members that are admitted are those that do not name it. -/
theorem Apart.admits_iff (apart : r.Apart) {name : String} {f : Field draft} {t : Tree} {d' : draft}
    {rest : List (Spelling × Tree)} (found : r.field? name = some f)
    (read : f.fromTree d depth t = .ok d') :
    r.Admits depth d' rest ↔ name ∉ rest.filterMap r.known? ∧ r.Admits depth d rest := by
  obtain ⟨member, called⟩ := field?_some found
  have others {name' : String} {g : Field draft} (found' : r.field? name' = some g)
      (differ : name' ≠ name) : g.filled d' = g.filled d := by
    obtain ⟨member', called'⟩ := field?_some found'
    exact apart.others f member g member' (by rw [called, called']; exact differ) read
  constructor
  · rintro ⟨takes, once, open_⟩
    -- The field is there now, so no later member may name it.
    have new : name ∉ rest.filterMap r.known? := fun again => by
      have closed := open_ name again f found
      rw [apart.own f member read] at closed
      cases closed
    refine ⟨new, takes, once, fun name' among g found' => ?_⟩
    rw [← others found' fun same => new (same ▸ among)]
    exact open_ name' among g found'
  · rintro ⟨new, takes, once, open_⟩
    refine ⟨takes, once, fun name' among g found' => ?_⟩
    rw [others found' fun same => new (same ▸ among)]
    exact open_ name' among g found'

/-- The members of an object are read exactly if they are admitted. -/
theorem readMembers_isOk_iff (apart : r.Apart) (members : List (Spelling × Tree)) (d : draft) :
    (∃ d', r.readMembers depth d members = .ok d') ↔ r.Admits depth d members := by
  induction members generalizing d with
  | nil => exact ⟨fun _ => ⟨by simp, by simp, by simp⟩, fun _ => ⟨d, rfl⟩⟩
  | cons member rest ih =>
    obtain ⟨key, value⟩ := member
    cases spelled : key.read with
    | error fault =>
      -- A key that is misspelt is read by nobody.
      refine ⟨fun ⟨d', reads⟩ => ?_, fun admits => ?_⟩
      · simp [readMembers, spelled, bind, Except.bind] at reads
      · obtain ⟨name, same, _⟩ := admits.takes _ List.mem_cons_self
        rw [spelled] at same
        cases same
    | ok name =>
      cases found : r.field? name with
      | none =>
        -- A key of no field is skipped, so only its value has to close.
        rw [admits_other spelled found, readMembers_other spelled found, ← ih d]
        cases value.skip with
        | error _ => simp [bind, Except.bind]
        | ok _ => simp [bind, Except.bind]
      | some f =>
        rw [admits_field spelled found]
        obtain ⟨among, -⟩ := field?_some found
        constructor
        · rintro ⟨d', reads⟩
          -- What is read for the first member is the field of its name.
          obtain ⟨name', spelled', ⟨missing, -⟩ |
              ⟨f', d₁, found', colon, open_, read, later⟩⟩ :=
            readMembers_cons reads
          · rw [← Except.ok.inj (spelled.symm.trans spelled'), found] at missing
            cases missing
          · obtain rfl : name = name' := Except.ok.inj (spelled.symm.trans spelled')
            obtain rfl : f = f' := Option.some.inj (found.symm.trans found')
            have admits := (apart.admits_iff found read).mp ((ih d₁).mp ⟨d', later⟩)
            exact ⟨⟨colon, d, d₁, read⟩, open_, admits⟩
        · rintro ⟨⟨colon, reads⟩, open_, admits⟩
          -- A field that reads once reads for any draft.
          obtain ⟨d₁, read⟩ := apart.alike f among reads d
          obtain ⟨d', later⟩ := (ih d₁).mpr ((apart.admits_iff found read).mpr admits)
          refine ⟨d', ?_⟩
          rw [readMembers_field spelled found colon, open_, if_neg Bool.false_ne_true, read]
          exact later

/-- Items that are read stand for the fields in their order, and those behind the last field are
left. -/
theorem reads_of_readItems {stop : Stop} {toRead : List (Field draft)} {items rest : List Tree}
    {read : Nat} {d d' : draft}
    (reads : r.readItems depth stop read d toRead items = .ok (d', rest)) :
    rest = items.drop toRead.length ∧ ∀ p ∈ toRead.zip items, p.1.Reads depth p.2 := by
  -- Field and item go together, as long as there are both.
  induction toRead generalizing items read d with
  | nil =>
    cases reads
    exact ⟨rfl, by simp⟩
  | cons field more ih =>
    cases items with
    | nil =>
      obtain ⟨⟨⟩, -, behind⟩ := Outcome.bind_eq_ok.mp reads
      split at behind
      · obtain ⟨same, -⟩ := ih behind
        exact ⟨by simpa using same, by simp⟩
      · cases behind
    | cons item later =>
      obtain ⟨d₁, first, behind⟩ := Outcome.bind_eq_ok.mp reads
      obtain ⟨same, all⟩ := ih behind
      exact ⟨same, List.forall_mem_cons.mpr ⟨⟨d, d₁, first⟩, all⟩⟩

/-- Items of which each is read as the field in its place are read, if the record can do without the
fields that are left over. -/
theorem Apart.readItems (apart : r.Apart) {stop : Stop} (ends : Tree.arrayEnd stop = .ok ())
    {toRead : List (Field draft)} {items : List Tree} (own : ∀ f ∈ toRead, f ∈ r.fields)
    (spare : ∀ f ∈ toRead, f.optional = true)
    (all : ∀ p ∈ toRead.zip items, p.1.Reads depth p.2)
    (read : Nat) (d : draft) :
    ∃ d', r.readItems depth stop read d toRead items = .ok (d', items.drop toRead.length) := by
  -- A field without an item is left out, which all of these allow.
  induction toRead generalizing items read d with
  | nil => exact ⟨d, rfl⟩
  | cons field more ih =>
    obtain ⟨own_, owns⟩ := List.forall_mem_cons.mp own
    obtain ⟨spare_, spares⟩ := List.forall_mem_cons.mp spare
    cases items with
    | nil =>
      obtain ⟨d', reads⟩ : ∃ d', r.readItems depth stop (read + 1) d more [] =
          .ok (d', [].drop more.length) :=
        ih owns spares (by simp) (read + 1) d
      refine ⟨d', Outcome.bind_eq_ok.mpr ⟨(), ends, ?_⟩⟩
      rw [if_pos spare_, reads]
      simp
    | cons item later =>
      obtain ⟨first, all⟩ := List.forall_mem_cons.mp all
      obtain ⟨d₁, reads⟩ := apart.alike field own_ first d
      obtain ⟨d', behind⟩ := ih owns spares all (read + 1) d₁
      exact ⟨d', Outcome.bind_eq_ok.mpr ⟨d₁, reads, behind⟩⟩

end Record

end WatchRelay
