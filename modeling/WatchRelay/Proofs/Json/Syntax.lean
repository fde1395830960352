import WatchRelay.Json.Record
import WatchRelay.Proofs.Outcome

/-! The trees of JSON texts: each is whole or breaks off at its end, and one that breaks off is not
even skipped. -/

namespace WatchRelay

namespace Tree

/-- A tree that is complete: every array and every object in it is closed. -/
inductive Whole : Tree → Prop where
  | null : Whole .null
  | bool (value : Bool) : Whole (.bool value)
  | numeral (n : Numeral) : Whole (.numeral n)
  | string (s : Spelling) : Whole (.string s)
  | array {items : List Tree} (whole : ∀ t ∈ items, Whole t) : Whole (.array items .closed)
  | object {members : List (Spelling × Tree)} (whole : ∀ p ∈ members, Whole p.2) :
      Whole (.object members .closed)

/-- A tree that breaks off: something is missing at its end. -/
inductive Broken : Tree → Prop where
  | missing (met : Option Lexeme) : Broken (.missing met)
  | noColon (met : Option Lexeme) : Broken (.noColon met)
  | arrayStop (items : List Tree) {stop : Stop} (cut : stop ≠ .closed ∧ stop ≠ .broken) :
      Broken (.array items stop)
  | objectStop (members : List (Spelling × Tree)) {stop : Stop}
      (cut : stop ≠ .closed ∧ stop ≠ .broken) : Broken (.object members stop)
  | lastItem (items : List Tree) {last : Tree} (broken : Broken last) :
      Broken (.array (items ++ [last]) .broken)
  | lastMember (members : List (Spelling × Tree)) (key : Spelling) {last : Tree}
      (broken : Broken last) : Broken (.object (members ++ [(key, last)]) .broken)

/-- What stands in a container that is not closed yet is complete. -/
def Frame.IsSound : Frame → Prop
  | .array items => ∀ t ∈ items, t.Whole
  | .object members _ => ∀ p ∈ members, p.2.Whole

/-- What was read before something is awaited is complete. -/
def Awaited.IsSound : Awaited → Prop
  | .value | .firstItem | .nextItem | .firstKey => True
  | .nextKey members | .colon members _ => ∀ p ∈ members, p.2.Whole
  | .next tree => tree.Whole

/-- A move goes on from complete parts, or gives a tree that is whole or breaks off. -/
def Move.IsSound : Move → Prop
  | .go frames awaited => (∀ f ∈ frames, f.IsSound) ∧ awaited.IsSound
  | .stop tree => tree.Whole ∨ tree.Broken

/-- A text that breaks off inside containers has a tree that breaks off. -/
theorem abandon_broken (frames : List Frame) {t : Tree} (broken : t.Broken) :
    (abandon frames t).Broken := by
  -- The tree becomes the last part of each container around it in turn.
  induction frames generalizing t with
  | nil => exact broken
  | cons frame frames ih =>
    cases frame with
    | array items =>
      refine ih ?_
      rw [List.reverse_cons]
      exact .lastItem _ broken
    | object members key =>
      refine ih ?_
      rw [List.reverse_cons]
      exact .lastMember _ key broken

/-- Where a value is awaited, every lexeme leads on from complete parts or breaks the text off. -/
theorem startValue_sound {frames : List Frame} (sound : ∀ f ∈ frames, f.IsSound) (l : Lexeme) :
    (startValue frames l).IsSound := by
  have broken (l : Lexeme) : (Move.stop (abandon frames (.missing (some l)))).IsSound :=
    .inr (abandon_broken frames (.missing _))
  -- A value starts with a word, a text, a number or an opening bracket. All else is missing one.
  cases l with
  | null => exact ⟨sound, .null⟩
  | bool value => exact ⟨sound, .bool value⟩
  | numeral n => exact ⟨sound, .numeral n⟩
  | string s => exact ⟨sound, .string s⟩
  | openBracket => exact ⟨sound, trivial⟩
  | openBrace => exact ⟨sound, trivial⟩
  | _ => exact broken _

/-- Behind a complete value, every lexeme leads on from complete parts or breaks the text off. -/
theorem next_sound {frames : List Frame} {tree : Tree} (sound : ∀ f ∈ frames, f.IsSound)
    (whole : tree.Whole) (l : Lexeme) : (move frames (.next tree) l).IsSound := by
  cases frames with
  | nil => exact .inl whole
  | cons frame frames =>
    obtain ⟨inner, outer⟩ := List.forall_mem_cons.mp sound
    have broken {t : Tree} (broken : t.Broken) : (Move.stop (abandon frames t)).IsSound :=
      .inr (abandon_broken frames broken)
    -- The value becomes the next part of the container around it.
    cases frame with
    | array items =>
      have items_ : ∀ t ∈ tree :: items, t.Whole := List.forall_mem_cons.mpr ⟨whole, inner⟩
      cases l with
      | comma => exact ⟨List.forall_mem_cons.mpr ⟨items_, outer⟩, trivial⟩
      | closeBracket =>
        exact ⟨outer, .array fun t member => items_ t (List.mem_reverse.mp member)⟩
      | _ => exact broken (.arrayStop _ (by simp))
    | object members key =>
      have members_ : ∀ p ∈ (key, tree) :: members, p.2.Whole :=
        List.forall_mem_cons.mpr ⟨whole, inner⟩
      cases l with
      | comma => exact ⟨outer, members_⟩
      | closeBrace =>
        exact ⟨outer, .object fun p member => members_ p (List.mem_reverse.mp member)⟩
      | _ => exact broken (.objectStop _ (by simp))

/-- Every move goes on from complete parts or breaks the text off. -/
theorem move_sound {frames : List Frame} {awaited : Awaited} (sound : ∀ f ∈ frames, f.IsSound)
    (read : awaited.IsSound) (l : Lexeme) : (move frames awaited l).IsSound := by
  have broken {frames : List Frame} {t : Tree} (broken : t.Broken) :
      (Move.stop (abandon frames t)).IsSound := .inr (abandon_broken frames broken)
  cases awaited with
  | value => exact startValue_sound sound l
  | firstItem =>
    -- Inside an array without items yet, what was read before is as complete as outside.
    have inside : ∀ f ∈ Frame.array [] :: frames, f.IsSound :=
      List.forall_mem_cons.mpr ⟨fun t member => (by cases member), sound⟩
    simp only [move]
    split
    · exact ⟨sound, .array (by simp)⟩
    · exact startValue_sound inside _
  | nextItem =>
    -- The end of the array must not follow a comma.
    simp only [move]
    split
    · exact broken (.arrayStop _ (by simp))
    · exact startValue_sound sound _
  | firstKey =>
    cases l with
    | closeBrace => exact ⟨sound, .object (by simp)⟩
    | string s => exact ⟨sound, by simp [Awaited.IsSound]⟩
    | _ => exact broken (.objectStop _ (by simp))
  | nextKey members =>
    cases l with
    | string s => exact ⟨sound, read⟩
    | _ => exact broken (.objectStop _ (by simp))
  | colon members key =>
    cases l with
    | colon => exact ⟨List.forall_mem_cons.mpr ⟨read, sound⟩, trivial⟩
    | _ => exact broken (.noColon _)
  | next tree => exact next_sound sound read l

/-- A text that ends where something is awaited breaks off, unless a complete value stands there
alone. -/
theorem endOf_sound {frames : List Frame} {awaited : Awaited} (read : awaited.IsSound) :
    (endOf frames awaited).Whole ∨ (endOf frames awaited).Broken := by
  -- If something is still awaited, the tree breaks off there. Only a tree that stands alone is
  -- whole.
  cases awaited with
  | value | nextItem => exact .inr (abandon_broken _ (.missing _))
  | firstItem => exact .inr (abandon_broken _ (.arrayStop _ (by simp)))
  | firstKey | nextKey _ => exact .inr (abandon_broken _ (.objectStop _ (by simp)))
  | colon members key => exact .inr (abandon_broken _ (.noColon _))
  | next tree =>
    cases frames with
    | nil => exact .inl read
    | cons frame frames =>
      cases frame with
      | array items => exact .inr (abandon_broken _ (.arrayStop _ (by simp)))
      | object members key => exact .inr (abandon_broken _ (.objectStop _ (by simp)))

/-- What is read from complete parts on is whole or breaks off. -/
theorem build_sound (frames : List Frame) (awaited : Awaited) (ls : List Lexeme)
    (sound : ∀ f ∈ frames, f.IsSound) (read : awaited.IsSound) :
    (build frames awaited ls).1.Whole ∨ (build frames awaited ls).1.Broken := by
  -- Each lexeme is a move, and moves keep what was read so far sound.
  fun_induction build frames awaited ls with
  | case1 tree ls => exact .inl read
  | case2 frames awaited => exact endOf_sound read
  | case3 frames awaited l ls alone frames' awaited' goes ih =>
    have moved := move_sound sound read l
    rw [goes] at moved
    exact ih moved.1 moved.2
  | case4 frames awaited l ls alone tree stops =>
    have moved := move_sound sound read l
    rw [stops] at moved
    exact moved

/-- The tree of a text is whole or breaks off. -/
theorem ofText_sound (text : String) : (ofText text).1.Whole ∨ (ofText text).1.Broken :=
  build_sound [] .value _ (by simp) trivial

/-- Every item of items that are skipped is skipped. -/
theorem skip_of_skipItems {items : List Tree} (skips : skipItems items = .ok ()) :
    ∀ t ∈ items, t.skip = .ok () := by
  -- Skipping ends at the first item that cannot be skipped, and there is none.
  induction items with
  | nil => simp
  | cons item rest ih =>
    obtain ⟨⟨⟩, first, later⟩ := Outcome.bind_eq_ok.mp skips
    exact List.forall_mem_cons.mpr ⟨first, ih later⟩

/-- Every value of members that are skipped is skipped. -/
theorem skip_of_skipMembers {members : List (Spelling × Tree)}
    (skips : skipMembers members = .ok ()) :
    ∀ p ∈ members, p.2.skip = .ok () := by
  -- Skipping ends at the first member that cannot be skipped, and there is none.
  induction members with
  | nil => simp
  | cons member rest ih =>
    obtain ⟨⟨⟩, -, behind⟩ := Outcome.bind_eq_ok.mp skips
    obtain ⟨⟨⟩, value, later⟩ := Outcome.bind_eq_ok.mp behind
    exact List.forall_mem_cons.mpr ⟨value, ih later⟩

/-- The ends of a list of items or members at which nothing is missing yet. -/
theorem closed_of_wordEnd {stop : Stop} (ends : wordEnd stop = .ok ()) :
    stop = .closed ∨ stop = .broken := by
  -- All other stops are faults, whatever was met there.
  cases stop with
  | closed => exact .inl rfl
  | broken => exact .inr rfl
  | opening met | item met => cases met <;> cases ends
  | comma met => cases ends

/-- An object that is read has nothing missing at its end. -/
theorem closed_of_objectEnd {stop : Stop} (ends : objectEnd stop = .ok ()) :
    stop = .closed ∨ stop = .broken := by
  -- All other stops are faults, whatever was met there.
  cases stop with
  | closed => exact .inl rfl
  | broken => exact .inr rfl
  | opening met | item met => cases met <;> cases ends
  | comma met =>
    cases met with
    | none => cases ends
    | some l => cases l <;> cases ends

/-- An array that is skipped has nothing missing at its end. -/
theorem closed_of_arraySkipEnd {stop : Stop} (ends : arraySkipEnd stop = .ok ()) :
    stop = .closed ∨ stop = .broken := by
  -- All other stops are faults, whatever was met there.
  cases stop with
  | closed => exact .inl rfl
  | broken => exact .inr rfl
  | item met => cases met <;> cases ends
  | _ => cases ends

/-- An object that is skipped has nothing missing at its end. -/
theorem closed_of_objectSkipEnd {stop : Stop} (ends : objectSkipEnd stop = .ok ()) :
    stop = .closed ∨ stop = .broken := by
  -- All other stops are faults, whatever was met there.
  cases stop with
  | closed => exact .inl rfl
  | broken => exact .inr rfl
  | opening met | comma met | item met => cases met <;> cases ends

/-- A word stands alone as a text, or it is the only key of an object, with `null` as its value. -/
theorem shape_of_word {α : Type} {choose : String → Except Fault α} {depth : Nat} {t : Tree}
    {value : α}
    (reads : word choose depth t = .ok value) :
    (∃ s text, t = .string s ∧ s.read = .ok text ∧ choose text = .ok value) ∨
      ∃ key text stop, t = .object [(key, .null)] stop ∧ (stop = .closed ∨ stop = .broken) ∧
        key.read = .ok text ∧ choose text = .ok value := by
  cases t with
  | string s =>
    obtain ⟨text, spelled, chosen⟩ := Outcome.bind_eq_ok.mp reads
    exact .inl ⟨s, text, rfl, spelled, chosen⟩
  | object members stop =>
    obtain ⟨_, -, inner⟩ := Outcome.bind_eq_ok.mp reads
    cases members with
    | nil => cases inner
    | cons member rest =>
      obtain ⟨key, content⟩ := member
      obtain ⟨text, spelled, choice⟩ := Outcome.bind_eq_ok.mp inner
      obtain ⟨chosen, chooses, behind⟩ := Outcome.bind_eq_ok.mp choice
      -- The value must be `null`, and nothing may stand behind it.
      cases content with
      | null =>
        cases rest with
        | cons _ _ => cases behind
        | nil =>
          obtain ⟨⟨⟩, -, last⟩ := Outcome.bind_eq_ok.mp behind
          obtain ⟨⟨⟩, ends, same⟩ := Outcome.bind_eq_ok.mp last
          cases same
          exact .inr ⟨key, text, stop, rfl, closed_of_wordEnd ends, spelled, chooses⟩
      | _ => cases behind
  | missing met =>
    cases met with
    | none => cases reads
    | some l => cases l <;> cases reads
  | _ => cases reads

namespace Broken

variable {t : Tree}

/-- A tree that breaks off is not skipped. -/
theorem skip_ne_ok (broken : t.Broken) : t.skip ≠ .ok () := by
  intro skips
  induction broken with
  | missing met => simp [skip] at skips
  | noColon met => simp [skip] at skips
  | @arrayStop items stop cut =>
    obtain ⟨⟨⟩, -, ends⟩ := Outcome.bind_eq_ok.mp skips
    exact (closed_of_arraySkipEnd ends).elim cut.1 cut.2
  | @objectStop members stop cut =>
    obtain ⟨⟨⟩, -, ends⟩ := Outcome.bind_eq_ok.mp skips
    exact (closed_of_objectSkipEnd ends).elim cut.1 cut.2
  | lastItem items _ ih =>
    -- What breaks off last is an item that would have to be skipped.
    obtain ⟨⟨⟩, inner, -⟩ := Outcome.bind_eq_ok.mp skips
    exact ih (skip_of_skipItems inner _ (by simp))
  | lastMember members key _ ih =>
    obtain ⟨⟨⟩, inner, -⟩ := Outcome.bind_eq_ok.mp skips
    exact ih (skip_of_skipMembers inner (key, _) (by simp))

/-- A tree that breaks off is no text. -/
theorem readString_ne_ok (broken : t.Broken) (expected text : String) :
    t.readString expected ≠ .ok text := by
  cases broken <;> simp [readString]

/-- A tree that breaks off is no word. -/
theorem word_ne_ok {α : Type} {choose : String → Except Fault α} (broken : t.Broken)
    (depth : Nat)
    (value : α) : word choose depth t ≠ .ok value := by
  intro reads
  rcases shape_of_word reads with ⟨s, text, rfl, -⟩ | ⟨key, text, stop, rfl, ends, -⟩
  · cases broken
  · generalize whole : [(key, Tree.null)] = members at broken
    cases broken with
    | objectStop _ cut => exact ends.elim cut.1 cut.2
    | @lastMember members' key' last broken =>
      -- The only member is `null`, which does not break off.
      have alone : [] ++ [(key, Tree.null)] = members' ++ [(key', last)] := whole
      obtain ⟨-, same⟩ := List.append_inj' alone rfl
      cases same
      cases broken

/-- A tree that breaks off is not `null`, and is not read as anything else in its place. -/
theorem optional_ne_ok {α : Type} {read : TreeReader α} (broken : t.Broken) (depth : Nat)
    (fails : ∀ value, read depth t ≠ .ok value) (value : Option α) :
    optional read depth t ≠ .ok value := by
  intro reads
  -- What breaks off is no `null`, so it is read, which fails.
  unfold optional at reads
  split at reads
  · cases broken
  · cases reads
  · obtain ⟨inner, first, -⟩ := Outcome.map_eq_ok.mp reads
    exact fails inner first

end Broken

end Tree

end WatchRelay
