import WatchRelay.Proofs.Session.Run
import WatchRelay.Relay.Basic

/-! Runs of a relay: clients connect, each session goes on by itself, and calls end sessions, all in
any order. -/

namespace WatchRelay

/-- Whether a move is the session's own, or its client's, and not made on it from outside. -/
def Session.Move.isOwn : Session.Move → Bool
  | .task _ | .arrive _ | .hangUp | .wire _ => true
  | .cancel | .teardown _ | .catalog _ | .outside _ => false

namespace Relay

/-- What happens to a relay, one thing at a time. -/
inductive Move where
  /-- A client connects: its session, with a name of its own, is put into the register. A task of
  its own attends it, or nobody does. -/
  | connect (name : String) (credentials : Credentials) (wire : WireState) (attended : Bool)
  /-- Something happens in a session. -/
  | session (name : String) (move : Session.Move)
  /-- The task that attends a session takes a step. -/
  | attend (name : String)
  /-- Shutdown is requested. -/
  | shutdown
  /-- A session is called to be torn down, past the register. -/
  | teardown (tag : Nat) (name : String)
  /-- A session is called to be taken out of the register and torn down. -/
  | unregister (tag : Nat) (name : String)
  /-- All sessions in the register are called to be taken out of it and torn down. -/
  | closeAll (tag : Nat)
  /-- The calls that are over return. -/
  | returnCalls
  /-- Time passes, or the surroundings change in any other way. -/
  | outside (env : Surroundings)

/-- Whether a move leaves the tearing down of sessions to the register. -/
def Move.viaRegister : Move → Bool
  | .teardown _ _ => false
  | _ => true

/-- The names of the sessions. -/
def names (r : Relay) : List String := r.sessions.map (·.name)

/-- The attached session with a name. -/
def attached? (r : Relay) (name : String) : Option Attached :=
  r.sessions.find? fun a => a.name == name

/-- Whether a call has returned. -/
def hasReturned (r : Relay) (tag : Nat) : Bool := r.returned.any fun x => x.tag == tag

/-- Whether no call is known by a tag. -/
def isFree (r : Relay) (tag : Nat) : Bool :=
  !r.hasReturned tag && r.pending.all fun c => c.tag != tag

/-- What a move leads to, if it can be made. -/
def move (r : Relay) : Move → Option Relay
  | .connect name credentials wire attended =>
    -- Every session has a name of its own.
    if r.names.contains name then none
    else
      (r.start? name credentials wire (if attended then .attending else .none) id).map
        (·.register name)
  | .session name move =>
    -- What ends a session from outside are moves of the relay.
    if move.isOwn then do
      let s ← r.session? name
      let (s, env) ← s.move r.env move
      some (({ r with env }).modifySession name fun _ => s)
    else none
  | .attend name => (r.attached? name).bind r.attend
  | .shutdown => some r.shutdown
  -- Every call has a tag of its own.
  | .teardown tag name => if r.isFree tag then some (r.callTeardown tag name) else none
  | .unregister tag name => if r.isFree tag then some (r.callUnregister tag name) else none
  | .closeAll tag => if r.isFree tag then some (r.callCloseAll tag) else none
  | .returnCalls => some r.returnCalls
  | .outside env => some { r with env }

/-- Makes moves one after the other, if each can be made. -/
def play (r : Relay) (moves : List Move) : Option Relay := moves.foldlM move r

variable {r r' : Relay} {m : Move}

/-- What every move keeps holds at the end of a run if it holds at its start. -/
theorem keeps {P : Relay → Prop} {moves : List Move} (plays : r.play moves = some r')
    (start : P r)
    (step : ∀ {r r' m}, m ∈ moves → r.move m = some r' → P r → P r') : P r' := by
  induction moves generalizing r with
  | nil =>
    obtain rfl : r = r' := by simpa [play] using plays
    exact start
  | cons m rest ih =>
    -- The first move keeps it, and so do the others from there.
    obtain ⟨next, moved, later⟩ := Option.bind_eq_some_iff.mp plays
    exact ih later (step (List.mem_cons_self ..) moved start)
      fun among => step (List.mem_cons_of_mem _ among)

/-- Whether a run leads from a relay to another, in which sessions are torn down through the
register alone. -/
def Reaches (r r' : Relay) : Prop :=
  ∃ moves, r.play moves = some r' ∧ ∀ m ∈ moves, m.viaRegister = true

namespace Reaches

theorem refl (r : Relay) : r.Reaches r := ⟨[], rfl, fun _ among => by cases among⟩

theorem trans {r'' : Relay} (first : r.Reaches r') (second : r'.Reaches r'') : r.Reaches r'' := by
  -- The moves of the second part are made behind those of the first.
  obtain ⟨moves, plays, via⟩ := first
  obtain ⟨more, plays', via'⟩ := second
  refine ⟨moves ++ more, ?_, List.forall_mem_append.mpr ⟨via, via'⟩⟩
  show (moves ++ more).foldlM Relay.move r = some r''
  rw [List.foldlM_append, show moves.foldlM Relay.move r = some r' from plays]
  exact plays'

/-- One move is a run. -/
theorem of_move (moved : r.move m = some r') (via : m.viaRegister = true) : r.Reaches r' :=
  ⟨[m], by simp [play, moved], List.forall_mem_singleton.mpr via⟩

/-- What every move through the register keeps holds at the end of the run. -/
theorem keeps {P : Relay → Prop} (reaches : r.Reaches r') (start : P r)
    (step : ∀ {r r' m}, m.viaRegister = true → r.move m = some r' → P r → P r') : P r' := by
  obtain ⟨moves, plays, via⟩ := reaches
  exact Relay.keeps plays start fun among => step (via _ among)

end Reaches

end Relay

end WatchRelay
