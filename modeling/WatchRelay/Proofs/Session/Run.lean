import WatchRelay.Proofs.Catalog.History
import WatchRelay.Session.Teardown

/-! Runs of a session: its tasks take steps in any order, and the outside does what it likes. -/

namespace WatchRelay

namespace Session

/-- What happens to a session, one thing at a time. -/
inductive Move where
  /-- One of its tasks takes a step. -/
  | task (task : Task)
  /-- A frame of the client arrives. -/
  | arrive (frame : InFrame)
  /-- The client's stream ends. -/
  | hangUp
  /-- The transport begins to behave in another way. -/
  | wire (wire : WireState)
  /-- The session is told to end. -/
  | cancel
  /-- A call to tear it down begins. -/
  | teardown (call : Nat)
  /-- Someone else uses the catalog. -/
  | catalog (action : HubAction)
  /-- Time passes, or the surroundings change in any other way. -/
  | outside (env : Surroundings)

/-- Whether some runner holds a watch. -/
def holdsWatch (s : Session) (watch : Nat) : Bool := s.runners.any fun r => r.watch? == some watch

/-- Whether others can do something with the catalog: a watch is read and closed by its holder. -/
def leavesAlone (s : Session) : HubAction → Bool
  | .read watch | .close watch => !s.holdsWatch watch
  | .upsert _ _ _ | .remove _ _ _ | .openWatch _ _ => true

/-- What a move leads to, if it can be made. -/
def move (s : Session) (e : Surroundings) : Move → Option (Session × Surroundings)
  | .task task => s.step e task
  | .arrive frame => some ({ s with receiver := s.receiver.arrive frame }, e)
  | .hangUp => some ({ s with receiver := s.receiver.hangUp }, e)
  | .wire wire => some ({ s with outlet := { s.outlet with wire } }, e)
  | .cancel => some ({ s with cancelled := true }, e)
  | .teardown call =>
    -- Every call has a number of its own.
    if (s.teardown? call).isNone then some (s.beginTeardown call e.now, e) else none
  | .catalog action =>
    match e.source.backend with
    | .catalog hub =>
      if s.leavesAlone action then
        some (s, { e with source := { e.source with backend := .catalog (hub.act action) } })
      else none
    | .played _ => none
  | .outside env => some (s, env)

/-- A move, and what it met. -/
structure Occasion where
  session : Session
  env : Surroundings
  move : Move

/-- The runs of a session, each with its moves in order. -/
inductive Run (s₀ : Session) (e₀ : Surroundings) :
    List Occasion → Session → Surroundings → Prop where
  | start : Run s₀ e₀ [] s₀ e₀
  | next {past : List Occasion} {s s' : Session} {e e' : Surroundings} {m : Move}
      (run : Run s₀ e₀ past s e) (moved : s.move e m = some (s', e')) :
      Run s₀ e₀ (past ++ [⟨s, e, m⟩]) s' e'

/-- Makes moves one after the other, if each can be made, and keeps what each met. -/
def play (s : Session) (e : Surroundings) :
    List Move → Option (List Occasion × Session × Surroundings)
  | [] => some ([], s, e)
  | m :: rest => do
    let (s', e') ← s.move e m
    let (past, s'', e'') ← play s' e' rest
    some (⟨s, e, m⟩ :: past, s'', e'')

/-- A session that has just started: its event loop runs, is run by nobody, or was given up. -/
inductive Begins : Session → Prop where
  | attended (config : Config) (credentials : Credentials) (wire : WireState) (now : Nat)
      (cancelled : Bool) : Begins (.start config credentials wire now cancelled)
  | idle (config : Config) (credentials : Credentials) (wire : WireState) (now : Nat)
      (cancelled : Bool) : Begins (Session.start config credentials wire now cancelled).idleLoop
  | discarded (config : Config) (credentials : Credentials) (wire : WireState) (now : Nat)
      (cancelled : Bool) : Begins (Session.start config credentials wire now cancelled).discardLoop

namespace Run

variable {s₀ s s' : Session} {e₀ e e' : Surroundings} {past more : List Occasion}

/-- What is told of one occasion more is told last. -/
theorem filterMap_concat {α : Type} (f : Occasion → Option α) (past : List Occasion)
    (o : Occasion) : (past ++ [o]).filterMap f = past.filterMap f ++ (f o).toList := by
  rw [List.filterMap_append]
  cases told : f o <;> simp [told]

/-- What holds of all occasions and of one more holds of all of them. -/
theorem forall_concat {P : Occasion → Prop} {o : Occasion} (held : ∀ o ∈ past, P o)
    (last : P o) :
    ∀ o' ∈ past ++ [o], P o' :=
  List.forall_mem_append.mpr ⟨held, List.forall_mem_singleton.mpr last⟩

/-- A run goes on where another ends. -/
theorem append (first : Run s₀ e₀ past s e) (second : Run s e more s' e') :
    Run s₀ e₀ (past ++ more) s' e' := by
  -- The induction is on the second run, which is taken off move by move.
  induction second with
  | start => simpa using first
  | next _ moved ih =>
    rw [← List.append_assoc]
    exact ih.next moved

/-- Moves that are made one after the other are a run. -/
theorem of_play {moves : List Move} (plays : s.play e moves = some (past, s', e')) :
    Run s e past s' e' := by
  induction moves generalizing s e past with
  | nil =>
    obtain ⟨rfl, rfl, rfl⟩ := by simpa [play] using plays
    exact .start
  | cons m rest ih =>
    -- The first move is a run of its own, and the others go on from where it leads.
    obtain ⟨⟨s₁, e₁⟩, moved, later⟩ := Option.bind_eq_some_iff.mp plays
    obtain ⟨⟨past₁, s₂, e₂⟩, plays₁, same⟩ := Option.bind_eq_some_iff.mp later
    obtain ⟨rfl, rfl, rfl⟩ := by simpa using same
    exact append (.next .start moved) (ih plays₁)

/-- The occasions of moves that are made one after the other are those of the moves. -/
theorem moves_of_play {moves : List Move} (plays : s.play e moves = some (past, s', e')) :
    past.map Occasion.move = moves := by
  induction moves generalizing s e past with
  | nil =>
    -- Without moves there is no occasion.
    obtain ⟨rfl, -⟩ := by simpa [play] using plays
    rfl
  | cons m rest ih =>
    obtain ⟨⟨s₁, e₁⟩, -, later⟩ := Option.bind_eq_some_iff.mp plays
    obtain ⟨⟨past₁, s₂, e₂⟩, plays₁, same⟩ := Option.bind_eq_some_iff.mp later
    obtain ⟨rfl, rfl, rfl⟩ := by simpa using same
    rw [List.map_cons, ih plays₁]

/-- What every move keeps of a session and its past holds at the end of a run. -/
theorem traces {P : List Occasion → Session → Surroundings → Prop}
    (run : Run s₀ e₀ past s e)
    (start : P [] s₀ e₀)
    (step : ∀ {past s s' e e' m}, s.move e m = some (s', e') → P past s e →
      -- By induction on the run, which grows by one occasion at its end.
      P (past ++ [⟨s, e, m⟩]) s' e') : P past s e := by
  induction run with
  | start => exact start
  | next _ moved ih => exact step moved ih

/-- What every move keeps holds at the end of a run if it holds at its start. -/
theorem keeps {P : Session → Surroundings → Prop} (run : Run s₀ e₀ past s e)
    (start : P s₀ e₀)
    (step : ∀ {s s' e e' m}, s.move e m = some (s', e') → P s e → P s' e') : P s e :=
  run.traces (P := fun _ s e => P s e) start step

/-- What every move keeps holds at the end of a run; that the run leads to the move may be used for
it. -/
theorem keeps_along {P : List Occasion → Session → Surroundings → Prop}
    (run : Run s₀ e₀ past s e) (start : P [] s₀ e₀)
    (step : ∀ {past s s' e e' m}, Run s₀ e₀ past s e → s.move e m = some (s', e') →
      P past s e →
      P (past ++ [⟨s, e, m⟩]) s' e') : P past s e := by
  induction run with
  | start => exact start
  | next run moved ih => exact step run moved ih

/-- A run passes through every one of its occasions. -/
theorem split {before : List Occasion} {o : Occasion} {after : List Occasion}
    (run : Run s₀ e₀ (before ++ o :: after) s e) :
    ∃ s₁ e₁, Run s₀ e₀ before o.session o.env ∧
      o.session.move o.env o.move = some (s₁, e₁) ∧
      Run s₁ e₁ after s e := by
  -- By induction on the run: the occasion is its last one or stands before it.
  generalize whole : before ++ o :: after = past at run
  induction run generalizing after with
  | start => simp at whole
  | @next past s s' e e' m run moved ih =>
    rcases List.eq_nil_or_concat after with none | ⟨rest, final, same⟩
    · -- The occasion is the last one.
      subst none
      obtain ⟨rfl, same⟩ := List.append_inj' whole rfl
      obtain rfl : o = ⟨s, e, m⟩ := by simpa using same
      exact ⟨s', e', run, moved, .start⟩
    · -- Otherwise the run passes through it before its last move.
      rw [same, List.concat_eq_append, ← List.cons_append, ← List.append_assoc] at whole
      obtain ⟨same', last⟩ := List.append_inj' whole rfl
      obtain ⟨s₁, e₁, first, met, later⟩ := ih same'
      obtain rfl : final = ⟨s, e, m⟩ := by simpa using last
      exact ⟨s₁, e₁, first,
        met, by rw [same, List.concat_eq_append]; exact later.next moved⟩

end Run

end Session

end WatchRelay
