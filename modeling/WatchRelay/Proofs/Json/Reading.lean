import WatchRelay.Proofs.Json.Printing
import WatchRelay.Proofs.Json.Records

/-! A printed value without doubles is read back as it was, if the reader's depth suffices. -/

namespace WatchRelay

namespace Json

/-- A value without doubles as it is held: an integer has 64 bits, with a sign or without, and the
members of an object stand in the order of their keys, each of which is there once. -/
inductive IsExact : Json → Prop where
  | null : IsExact .null
  | bool (value : Bool) : IsExact (.bool value)
  | integer {n : Int} (low : -(Nat.pow 2 63 : Int) ≤ n) (high : n < Nat.pow 2 64) :
      IsExact (.number (.integer n))
  | string (text : String) : IsExact (.string text)
  | array {items : List Json} (all : ∀ v ∈ items, IsExact v) : IsExact (.array items)
  | object {members : List (String × Json)} (ordered : members.Pairwise (·.1 < ·.1))
      (all : ∀ m ∈ members, IsExact m.2) : IsExact (.object members)

mutual

/-- How many containers a value has inside one another, itself included. -/
def nesting : Json → Nat
  | .array items => itemsNesting items + 1
  | .object members => membersNesting members + 1
  | _ => 0

/-- The deepest nesting among items. -/
def itemsNesting : List Json → Nat
  | [] => 0
  | item :: rest => max item.nesting (itemsNesting rest)

/-- The deepest nesting among members. -/
def membersNesting : List (String × Json) → Nat
  | [] => 0
  | (_, value) :: rest => max value.nesting (membersNesting rest)

end

/-- The numbers of a value without doubles are proper numerals. -/
theorem IsExact.every {v : Json} (exact : v.IsExact) : v.Every (·.numeral.IsProper) := by
  -- Only its integers are written with a numeral, which is the one case to look at.
  induction exact with
  | null => exact .null
  | bool value => exact .bool value
  | @integer n _ _ => exact .number (Number.isProper_integer n)
  | string text => exact .string text
  | array _ ih => exact .array ih
  | object _ _ ih => exact .object ih

end Json

namespace Numeral

/-- More digits make no smaller number. -/
theorem le_ofDigitChars (ds : List Char) (n : Nat) : n ≤ Nat.ofDigitChars 10 ds n := by
  -- The digits are read from the front, and each of them makes the number larger.
  induction ds generalizing n with
  | nil => exact le_rfl
  | cons c ds ih =>
    have first := ih (10 * n + (c.toNat - '0'.toNat))
    rw [Nat.ofDigitChars_cons]
    omega

/-- Digits are absorbed as far as their number stays below `2^64`. -/
theorem absorb_eq {ds : List Char} {n : Nat} (small : Nat.ofDigitChars 10 ds n < Nat.pow 2 64) :
    absorb n ds = (Nat.ofDigitChars 10 ds n, []) := by
  -- The number so far is below what is read in the end, so it never leaves the width on the way.
  induction ds generalizing n with
  | nil => rfl
  | cons c ds ih =>
    rw [Nat.ofDigitChars_cons] at small ⊢
    have next : n * 10 + digitValue c = 10 * n + (c.toNat - '0'.toNat) := by
      rw [Nat.mul_comm]
      rfl
    have within : 10 * n + (c.toNat - '0'.toNat) < Nat.pow 2 64 :=
      Nat.lt_of_le_of_lt (le_ofDigitChars ds _) small
    simp only [absorb, next]
    rw [if_pos within, ih small]

/-- The numeral of an integer of 64 bits stands for it. -/
theorem read_integer {n : Int} (low : -(Nat.pow 2 63 : Int) ≤ n) (high : n < Nat.pow 2 64) :
    (Number.integer n).numeral.read = some (.integer n) := by
  -- The digits read back as the size of the integer, and the sign tells which of the bounds it met.
  have value : Nat.ofDigitChars 10 (decimalChars n.natAbs) 0 = n.natAbs :=
    Nat.ofDigitChars_ten_toDigits
  have half : Nat.pow 2 63 < Nat.pow 2 64 := by decide
  have absorbed := @absorb_eq (decimalChars n.natAbs) 0 (by rw [value]; omega)
  rw [value] at absorbed
  simp only [read, Number.numeral, absorbed, List.isEmpty_nil, if_true, integral]
  by_cases negative : n < 0
  · -- A negative integer is neither zero nor below the least one of 64 bits.
    have bounded : ¬ (n.natAbs = 0 ∨ Nat.pow 2 63 < n.natAbs) := by omega
    simp only [negative, decide_true, if_true, if_neg bounded]
    rw [Int.ofNat_natAbs_of_nonpos (by omega), Int.neg_neg]
  · simp only [negative, decide_false, Bool.false_eq_true, if_false]
    rw [Int.natAbs_of_nonneg (by omega)]

end Numeral

namespace Members

/-- A key behind all others is put at the end. -/
theorem insert_last {key : String} {m : Members} (last : ∀ p ∈ m, p.1 < key) (value : Json) :
    insert key value m = m ++ [(key, value)] := by
  -- It is compared with each member in turn and stands behind all of them.
  induction m with
  | nil => rfl
  | cons member rest ih =>
    obtain ⟨before, later⟩ := List.forall_mem_cons.mp last
    have other : member.1 ≠ key := fun same => String.lt_irrefl key (same ▸ before)
    rw [insert, if_neg other, if_neg (String.lt_asymm before), ih later]
    rfl

/-- Members in the order of their keys stay as they are. -/
theorem ofList_ordered {members : List (String × Json)}
    (ordered : members.Pairwise (·.1 < ·.1)) :
    ofList members = members := by
  -- What is inserted so far is carried along as a front that lies below the rest.
  suffices all : ∀ m : Members, (m ++ members).Pairwise (·.1 < ·.1) →
      members.foldl (fun m p => insert p.1 p.2 m) m = m ++ members from all [] ordered
  clear ordered
  induction members with
  | nil => simp
  | cons member rest ih =>
    obtain ⟨key, value⟩ := member
    intro m ordered
    have last : ∀ p ∈ m, p.1 < key := fun p among =>
      (List.pairwise_append.mp ordered).2.2 p among (key, value) (by simp)
    have step := ih (insert key value m) (by simpa [insert_last last] using ordered)
    rw [List.foldl_cons, step, insert_last last]
    simp

end Members

namespace Tree

open Json

/-- The trees of items are read as the items if each is. -/
theorem itemsToJson_itemTrees {depth : Nat} {items : List Json}
    (all : ∀ v ∈ items, v.tree.toJson depth = .ok v) :
    itemsToJson depth (itemTrees items) = .ok items := by
  -- Each item is read on its own, at the same depth.
  induction items with
  | nil => rfl
  | cons item rest ih =>
    obtain ⟨first, later⟩ := List.forall_mem_cons.mp all
    simp [itemTrees, itemsToJson, first, ih later, bind, Except.bind]

/-- The trees of members are read as the members if those of their values are. -/
theorem membersToJson_memberTrees {depth : Nat} {members : List (String × Json)}
    (all : ∀ m ∈ members, m.2.tree.toJson depth = .ok m.2) :
    membersToJson depth (memberTrees members) = .ok members := by
  -- Each member is read on its own, at the same depth.
  induction members with
  | nil => rfl
  | cons member rest ih =>
    obtain ⟨first, later⟩ := List.forall_mem_cons.mp all
    simp [memberTrees, membersToJson, first, ih later, bind, Except.bind]

end Tree

namespace Json

/-- No item is nested more deeply than the deepest. -/
theorem nesting_le_itemsNesting {items : List Json} {v : Json} (member : v ∈ items) :
    v.nesting ≤ itemsNesting items := by
  -- It is the first item, or one of those behind it.
  induction items with
  | nil => cases member
  | cons item rest ih =>
    rw [itemsNesting]
    rcases List.mem_cons.mp member with rfl | later
    · exact Nat.le_max_left ..
    · exact (ih later).trans (Nat.le_max_right ..)

/-- No member is nested more deeply than the deepest. -/
theorem nesting_le_membersNesting {members : List (String × Json)} {m : String × Json}
    (member : m ∈ members) : m.2.nesting ≤ membersNesting members := by
  -- It is the first member, or one of those behind it.
  induction members with
  | nil => cases member
  | cons first rest ih =>
    rw [membersNesting]
    rcases List.mem_cons.mp member with rfl | later
    · exact Nat.le_max_left ..
    · exact (ih later).trans (Nat.le_max_right ..)

/-- The tree of a value without doubles is read as the value at a depth above its nesting. -/
theorem IsExact.toJson_tree {v : Json} (exact : v.IsExact) {depth : Nat}
    (room : v.nesting < depth) :
    v.tree.toJson depth = .ok v := by
  -- The induction is on how the value is built. A bracket takes one from the depth, and what is
  -- inside takes no more than the rest.
  induction exact generalizing depth with
  | null | bool _ => rfl
  | @integer n low high =>
    simp [tree, Tree.toJson, Tree.readNumeral, Numeral.read_integer low high, Functor.map,
      Except.map]
  | string text => simp [tree, Tree.toJson, Functor.map, Except.map]
  | @array items _ ih =>
    rw [nesting] at room
    have deep : deeper depth = .ok (depth - 1) := if_neg (by omega)
    have read : Tree.itemsToJson (depth - 1) (itemTrees items) = .ok items := by
      refine Tree.itemsToJson_itemTrees fun v member => ih v member ?_
      have := nesting_le_itemsNesting member
      omega
    simp [tree, Tree.toJson, deep, read, Tree.arrayEnd, bind, Except.bind]
  | @object members ordered _ ih =>
    rw [nesting] at room
    have deep : deeper depth = .ok (depth - 1) := if_neg (by omega)
    have read : Tree.membersToJson (depth - 1) (memberTrees members) = .ok members := by
      refine Tree.membersToJson_memberTrees fun m member => ih m member ?_
      have := nesting_le_membersNesting member
      omega
    simp [tree, Tree.toJson, deep, read, Tree.objectEnd, Members.ofList_ordered ordered, bind,
      Except.bind]

end Json

/-- A printed member is read into the field it names. -/
theorem Record.readMembers_tree {draft α : Type} {r : Record draft α} {depth : Nat} {d d' : draft}
    (key : String) {f : Field draft} {value : Json} (found : r.field? key = some f)
    (open_ : f.filled d = false) (reads : f.fromTree d depth value.tree = .ok d')
    (rest : List (String × Json)) :
    r.readMembers depth d (Json.memberTrees ((key, value) :: rest)) =
      r.readMembers depth d' (Json.memberTrees rest) := by
  -- A value never stands for a missing colon, so the member is read as its field reads it.
  have colon (met : Option Lexeme) : value.tree ≠ .noColon met := by
    cases value <;> simp [Json.tree]
  rw [Json.memberTrees, readMembers_field (Spelling.read_of key) found colon,
    if_neg (by simp [open_]), reads]
  rfl

/-- A record is read back from an object that is printed, if the members are read into what it is
made of. -/
theorem Record.readText_print {draft α : Type} {r : Record draft α}
    {members : List (String × Json)}
    {d : draft} {value : α} (proper : (Json.object members).Every (·.numeral.IsProper))
    (reads : r.readMembers 127 r.empty (Json.memberTrees members) = .ok d)
    (finish : r.finish d = .ok value) :
    readText r.ofTree (Json.object members).print = .ok value := by
  -- The object itself is one of the containers that may stand inside one another.
  have deep : deeper depthLimit = .ok 127 := rfl
  have read : r.ofTree depthLimit (Json.object members).tree = .ok value :=
    Outcome.bind_eq_ok.mpr ⟨127, deep, Outcome.bind_eq_ok.mpr ⟨d, reads,
      Outcome.bind_eq_ok.mpr ⟨(), rfl, finish⟩⟩⟩
  simp [readText, proper.ofText_print, read, bind, Except.bind]

/-- A printed value that may be absent is absent where it is `null`. -/
theorem Tree.optional_any {depth : Nat} {v : Json} (reads : v.tree.toJson depth = .ok v) :
    optional any depth v.tree = .ok (if v.isNull then none else some v) := by
  -- Only `null` is taken for nothing. Any other value is read as itself.
  cases v with
  | null => rfl
  | _ => exact Outcome.map_eq_ok.mpr ⟨_, reads, rfl⟩

end WatchRelay
