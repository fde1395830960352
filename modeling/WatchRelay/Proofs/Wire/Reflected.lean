import WatchRelay.Proofs.Json.Doubles
import WatchRelay.Proofs.Wire.Objects

/-! What the relay sends asks for nothing: sent back, it is a frame like any other, and it is
ignored. -/

namespace WatchRelay

/-- Whether an operation asks for something. -/
def Operation.Asks (op : Operation) : Prop := op = .subscribe ∨ op = .unsubscribe

namespace Request

section

variable {name : String} {members : List (String × Json)}

/-- Printed members tell nothing under a name that none of them has. -/
theorem tell_none (others : name ∉ members.map (·.1)) :
    Tell name (Json.memberTrees members) none := by
  refine .absent ?_
  rw [Json.memberTrees_eq_map]
  refine List.forall_mem_map.mpr fun m member stands => ?_
  -- The key of a printed member stands for its name alone.
  exact others (List.mem_map.mpr
    ⟨m, member, (Spelling.read_eq_ok.mp (Spelling.read_of m.1)).unique stands⟩)

/-- Printed members of which each has its own name tell the text that stands under a name. -/
theorem tell_text {text : String} (distinct : (members.map (·.1)).Nodup)
    (member : (name, .string text) ∈ members) :
    Tell name (Json.memberTrees members) (some text) := by
  -- The field stands once among the members, so no other one tells another text.
  obtain ⟨before, after, rfl⟩ := List.append_of_mem member
  have alone : name ∉ (before ++ after).map (·.1) := by
    have moved : ((before ++ (name, .string text) :: after).map (·.1)).Perm
        (name :: (before ++ after).map (·.1)) := List.perm_middle.map Prod.fst
    exact (List.nodup_cons.mp (moved.nodup_iff.mp distinct)).1
  have order : (Json.memberTrees (before ++ (name, .string text) :: after)).Perm
      ((.of name, .string (.of text)) :: Json.memberTrees (before ++ after)) := by
    simp only [Json.memberTrees_eq_map]
    exact List.perm_middle.map _
  refine .alone order (Spelling.read_eq_ok.mp (Spelling.read_of name))
    (.text (Spelling.read_eq_ok.mp (Spelling.read_of text))) ?_
  rw [Json.memberTrees_eq_map]
  refine List.forall_mem_map.mpr fun m among stands => alone ?_
  have same := (Spelling.read_eq_ok.mp (Spelling.read_of m.1)).unique stands
  exact List.mem_map.mpr ⟨m, among, same⟩

end

/-- A frame that tells an operation which asks for nothing is ignored. -/
theorem asked_word {op : Operation} (asks : ¬ op.Asks) (kind project : Option String) :
    -- Only the two requests are answered, any other word is ignored.
    asked (some op.word) kind project = .ignored op := by
  cases op with
  | subscribe => exact absurd (.inl rfl) asks
  | unsubscribe => exact absurd (.inr rfl) asks
  | _ => rfl

end Request

namespace Message

/-- A message whose payload is as payloads are held. -/
def IsHeld (m : Message) : Prop := ∀ p ∈ m.payload, p.Every Number.IsHeld

/-- The members of a message have names of their own. -/
theorem members_distinct (m : Message) : (m.members.map (·.1)).Nodup := by
  unfold members
  cases m.project.isEmpty <;> cases m.payload <;> simp

/-- A message is printed as a frame that tells its operation, its kind and its project. -/
theorem isObject_print {m : Message} (held : m.IsHeld) :
    Request.IsObject m.print (Json.memberTrees m.members) (some m.op.word) (some m.kind.text)
      (if m.project.isEmpty then none else some m.project) := by
  -- Each member of a message is written, and names stand for themselves.
  have proper := (m.every_members held).imp fun _ held => held.isProper
  refine ⟨?_, ?_, ?_, ?_, ?_⟩
  · rw [m.print_eq]
    exact proper.isWritten_print
  · rw [Json.memberTrees_eq_map]
    exact List.forall_mem_map.mpr fun p _ =>
      ⟨p.1, Spelling.read_eq_ok.mp (Spelling.read_of p.1)⟩
  · exact Request.tell_text m.members_distinct (by simp [members])
  · exact Request.tell_text m.members_distinct (by simp [members])
  · -- An empty project is left out.
    cases empty : m.project.isEmpty with
    | true =>
      refine Request.tell_none ?_
      unfold members
      rw [empty]
      cases m.payload <;> simp
    | false => exact Request.tell_text m.members_distinct (by simp [members, empty])

/-- A message that asks for nothing is ignored where it is read as a request. -/
theorem parse_print {m : Message} (asks : ¬ m.op.Asks) (held : m.IsHeld) :
    Request.parse m.print = .ok (.ignored m.op) := by
  rw [(isObject_print held).parse, Request.asked_word asks]

end Message

end WatchRelay
