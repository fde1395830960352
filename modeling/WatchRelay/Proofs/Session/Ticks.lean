import WatchRelay.Proofs.Session.Ending
import WatchRelay.Proofs.Session.Silence

/-! The clock of a session and the pings on it: on a transport that takes every frame at once,
keep-alive pings on every tick, and time passes only where it has done so. -/

namespace WatchRelay

/-- Whether the transport takes every frame at once. -/
def WireState.IsPrompt (w : WireState) : Prop :=
  w.behaviour .ready = .ok ∧ w.behaviour .flush = .ok

instance (w : WireState) : Decidable w.IsPrompt := inferInstanceAs (Decidable (_ ∧ _))

namespace Outlet

variable {o o' : Outlet} {now : Nat} {w : Writer}

/-- A write on a transport that takes every frame at once does not fail while the write half is
there. -/
theorem done_of_prompt {frame : OutFrame} {stage : WriteStage} {ok : Bool}
    {f : Option SessionFailure} (prompt : o.wire.IsPrompt) (there : o.writable = true)
    (moved : o.stepWrite now w frame stage = some (o', .done ok f)) : ok = true := by
  cases stage with
  | queued =>
    -- The writer waits for its turn, or begins.
    simp only [stepWrite, there, if_true] at moved
    split at moved <;> simp at moved
  | sending deadline => simp [stepWrite, prompt.1] at moved
  | flushing deadline =>
    simp only [stepWrite, prompt.2, Option.some.injEq, Prod.mk.injEq,
      StepResult.done.injEq] at moved
    exact moved.2.1.symm

end Outlet

/-- What is noted on a connection stays noted. -/
theorem WriteSide.Deed.log {o o' : Outlet} {errand errand' : Option Errand} {w : Writer} {now : Nat}
    (deed : WriteSide.Deed now w o errand o' errand') {x : LogEntry} (noted : x ∈ o.log) :
    x ∈ o'.log := by
  have push (y : LogEntry) : x ∈ o.log.push y := Array.mem_push_of_mem y noted
  cases deed with
  | rested => exact noted
  | joined => exact noted
  | wrote writes =>
    -- A step of a write notes at most one thing, behind all others.
    cases writes with
    | turn _ _ => exact noted
    | refused _ _ => exact noted
    | accepted _ => exact push _
    | flushed _ => exact noted
    | failed _ _ => exact push _
  | closed closes =>
    cases closes <;> first | exact noted | exact push _ | exact Array.mem_push_of_mem _ (push _)
  | left => exact noted

/-- How the transport behaves is not up to those who write. -/
theorem WriteSide.Deed.wire {o o' : Outlet} {errand errand' : Option Errand} {w : Writer}
    {now : Nat}
    (deed : WriteSide.Deed now w o errand o' errand') : o'.wire = o.wire := by
  -- Each deed changes the log and who holds the connection, never the transport.
  cases deed with
  | wrote writes => cases writes <;> rfl
  | closed closes => cases closes <;> rfl
  | _ => rfl

namespace KeepAlive

variable {k k' : KeepAlive} {o o' : Outlet} {now later moment : Nat}

/-- Whether keep-alive keeps its time: the next tick is at most one interval away. -/
def IsOnTime (k : KeepAlive) (now : Nat) : Prop :=
  match k.phase with
  | .waiting due => now ≤ due ∧ due ≤ now + k.interval
  | .pinging next _ => next = now + k.interval
  | .finished _ | .aborted => False

/-- Whether a ping is still to be written at a moment, on the next tick or on the one after it. -/
def WillPing (k : KeepAlive) (now moment : Nat) : Prop :=
  match k.phase with
  | .waiting due => moment = due ∨ due = now ∧ moment = due + k.interval
  | .pinging next .queued | .pinging next (.sending _) => moment = now ∨ moment = next
  | .pinging next (.flushing _) => moment = next
  | .finished _ | .aborted => False

/-- What is noted when a ping is written. -/
def pingAt (moment : Nat) : LogEntry := ⟨moment, .frame .ping .keepAlive⟩

/-- A new keep-alive is on time. -/
theorem isOnTime_new {interval : Nat} (ticks : interval ≠ 0) (now : Nat) :
    (KeepAlive.new now interval).IsOnTime now := by
  simp [KeepAlive.new, ticks, IsOnTime]

namespace IsOnTime

/-- A ping is still to be written behind now, at most one interval away. -/
theorem willPing (onTime : k.IsOnTime now) (ticks : 0 < k.interval) :
    ∃ moment, now < moment ∧ moment ≤ now + k.interval ∧ k.WillPing now moment := by
  unfold IsOnTime at onTime
  unfold WillPing
  cases phase : k.phase with
  | waiting due =>
    rw [phase] at onTime
    -- A tick that is due by now is followed by one after a whole interval.
    rcases Nat.eq_or_lt_of_le onTime.1 with same | ahead
    · exact ⟨due + k.interval, by omega, by omega, .inr ⟨same.symm, rfl⟩⟩
    · exact ⟨due, ahead, onTime.2, .inl rfl⟩
  | pinging next stage =>
    rw [phase] at onTime
    refine ⟨next, by omega, by omega, ?_⟩
    cases stage with
    | queued | sending _ => exact .inr rfl
    | flushing _ => rfl
  | finished _ | aborted => simp [phase] at onTime

/-- No ping is still to be written in the past. -/
theorem le_of_willPing (onTime : k.IsOnTime now) (pings : k.WillPing now moment) :
    now ≤ moment := by
  -- A schedule that is on time has its next ping now or ahead, in every phase.
  unfold IsOnTime at onTime
  unfold WillPing at pings
  cases phase : k.phase with
  | waiting due =>
    rw [phase] at onTime pings
    rcases pings with same | ⟨_, same⟩ <;> omega
  | pinging next stage =>
    rw [phase] at onTime pings
    cases stage with
    | queued | sending _ => rcases pings with same | same <;> omega
    | flushing _ =>
      have same : moment = next := pings
      omega
  | finished _ | aborted => simp [phase] at pings

/-- A step of keep-alive keeps it on time, and a ping that was to be written is written or still to
be. -/
theorem step {f : Option SessionFailure} (onTime : k.IsOnTime now) (prompt : o.wire.IsPrompt)
    (there : o.writable = true) (moved : k.Steps o now false k' o' f) :
    k'.IsOnTime now ∧
      ∀ moment, k.WillPing now moment → k'.WillPing now moment ∨
        pingAt moment ∈ o'.log := by
  unfold IsOnTime at onTime
  cases moved with
  | told _ told => cases told
  | @ticked due waits _ time =>
    rw [waits] at onTime
    -- The tick is noticed at the very moment it is due, so the ticks after it stay where they are.
    obtain rfl : due = now := Nat.le_antisymm time onTime.1
    have next : k.tickAfter due due = due + k.interval := by simp [tickAfter]
    refine ⟨by simp [IsOnTime, next], fun moment pings => .inl ?_⟩
    simpa [WillPing, waits, next] using pings
  | @wrote next stage stage' _ pings writes =>
    rw [pings] at onTime
    refine ⟨onTime, fun moment still => ?_⟩
    -- The ping is written when the transport takes it.
    cases Outlet.stepWrite_writes writes with
    | turn _ _ =>
      refine .inl ?_
      simpa [WillPing, pings] using still
    | accepted deadline =>
      rcases (by simpa [WillPing, pings] using still : moment = now ∨ moment = next) with
        same | same
      · subst same
        exact .inr Array.mem_push_self
      · exact .inl same
  | @pinged next stage _ _ pings writes =>
    rw [pings] at onTime
    refine ⟨⟨by omega, Nat.le_of_eq onTime⟩, fun moment still => .inl ?_⟩
    cases Outlet.stepWrite_writes writes with
    | flushed deadline =>
      exact .inl (by simpa [WillPing, pings] using still)
  | failed _ writes => cases Outlet.done_of_prompt prompt there writes

/-- Time that passes up to the next tick at most leaves keep-alive on time, and the pings that are
still to be written. -/
theorem wait (onTime : k.IsOnTime now) (idle : ∀ next stage, k.phase ≠ .pinging next stage)
    (still : k.step o now false = none) (passes : now ≤ later)
    (met : ∀ d ∈ k.deadline?, now < d → later ≤ d) :
    k.IsOnTime later ∧ ∀ moment, k.WillPing now moment → k.WillPing later moment := by
  -- Only a wait ahead of its deadline leaves nothing to do, and the clock stops at that deadline.
  unfold IsOnTime at onTime
  cases phase : k.phase with
  | waiting due =>
    rw [phase] at onTime
    have ahead : now < due := by simpa [KeepAlive.step, phase] using still
    have first : later ≤ due := met due (by simp [deadline?, phase]) ahead
    refine ⟨by simp only [IsOnTime, phase]; omega, fun moment pings => ?_⟩
    simp only [WillPing, phase] at pings ⊢
    omega
  | pinging next stage => exact absurd phase (idle next stage)
  | finished _ | aborted => simp [phase] at onTime

end IsOnTime

/-- The interval from tick to tick is always the same. -/
theorem Steps.interval {cancelled : Bool} {f : Option SessionFailure}
    (moved : k.Steps o now cancelled k' o' f) : k'.interval = k.interval := by
  cases moved <;> rfl

end KeepAlive

/-- A step of a runner takes no time. -/
theorem Runner.Steps.now {r r' : Runner} {o o' : Outlet} {e e' : Surroundings}
    {credentials : Credentials} {stopped : Bool} {f : Option SessionFailure}
    (moved : r.Steps o e credentials stopped (r', o', e', f)) : e'.now = e.now := by
  have letGo (x : Surroundings) : (r.letGo x).now = x.now := by
    unfold letGo
    split <;> rfl
  have finish {x : Surroundings} {o : Outlet} {reason : RunnerEnd} {g : Option SessionFailure} :
      (r.finish o x reason g).2.2.1.now = x.now := by
    unfold Runner.finish
    dsimp only
    split <;> exact letGo x
  have crash {x : Surroundings} {o : Outlet} : (r.crash o x).2.2.1.now = x.now := letGo x
  generalize whole : (r', o', e', f) = change at moved
  have env : e' = change.2.2.1 := by rw [← whole]
  rw [env]
  cases moved with
  | toldFirst _ _ => exact finish
  | opened _ _ =>
    unfold openWatch
    dsimp only
    split
    · rfl
    · exact finish
    · rfl
    · exact crash
  | told _ _ => exact finish
  | consumed _ _ consumes =>
    -- Whatever is read, the clock is the same.
    unfold consume at consumes
    split at consumes
    · split at consumes <;> cases consumes <;> rfl
    · cases consumes; exact finish
    · cases consumes; exact finish
    · cases consumes; exact crash
    · cases consumes; rfl
    · cases consumes
  | wrote _ _ => rfl
  | forwarded _ _ => rfl
  | failed _ _ => exact finish

namespace Session

variable {s s' s₀ : Session} {e e' e₀ : Surroundings} {past : List Occasion} {m : Move}

/-- Only the outside lets time pass. -/
theorem Moves.now (numbered : s.Numbered) (moved : s.Moves e m s' e')
    (inside : ∀ env, m ≠ .outside env) : e'.now = e.now := by
  -- The clock moves with the surroundings alone, also when the teardown aborts the runners.
  cases moved with
  | looped steps =>
    cases steps with
    | aborted _ _ => exact (abortRunners_changes numbered e).2.1
    | _ => rfl
  | ran _ steps => exact steps.now
  | closed steps => cases steps <;> rfl
  | passed _ => exact absurd rfl (inside e')
  | _ => rfl

/-- What is noted on the connection stays noted. -/
theorem Moves.log (numbered : s.Numbered) (moved : s.Moves e m s' e') {x : LogEntry}
    (noted : x ∈ s.outlet.log) : x ∈ s'.outlet.log :=
  (moved.writeSide numbered).keeps (P := fun v => x ∈ v.outlet.log) noted
    (fun last held => last.deed.log held) fun _ held => held

/-- What is noted on the connection stays noted along a run. -/
theorem Run.log (sound : s₀.Sound) (run : Run s₀ e₀ past s e) {x : LogEntry}
    (noted : x ∈ s₀.outlet.log) : x ∈ s.outlet.log := by
  -- No act takes anything from the log.
  have held := run.keeps (P := fun t _ => t.Sound ∧ x ∈ t.outlet.log) ⟨sound, noted⟩ ?_
  · exact held.2
  · rintro t t' y y' m moved ⟨sound, held⟩
    have moves := move_moves moved
    exact ⟨moves.sound sound, moves.log sound.numbered held⟩

/-- Whether time may pass in a session up to some moment.

The receiver and keep-alive have had their turn, and no deadline of theirs is passed over.
Unless the session was told to end, every write is complete. -/
structure Passes (s : Session) (now later : Nat) : Prop where
  forward : now ≤ later
  received : s.receiver.step now s.cancelled = none
  pinged : s.keepAlive.step s.outlet now s.cancelled = none
  met : ∀ d ∈ s.receiver.deadline?.toList ++ s.keepAlive.deadline?.toList, now < d →
    later ≤ d
  written : s.cancelled = false → s.outlet.line = []

instance (s : Session) (now later : Nat) : Decidable (s.Passes now later) :=
  decidable_of_iff
    (now ≤ later ∧ (s.receiver.step now s.cancelled).isNone = true ∧
      (s.keepAlive.step s.outlet now s.cancelled).isNone = true ∧
      (∀ d ∈ s.receiver.deadline?.toList ++ s.keepAlive.deadline?.toList, now < d →
        later ≤ d) ∧
      (s.cancelled = false → s.outlet.line = []))
    ⟨fun ⟨a, b, c, d, e⟩ =>
      ⟨a, Option.isNone_iff_eq_none.mp b, Option.isNone_iff_eq_none.mp c, d, e⟩, fun h =>
      ⟨h.forward, Option.isNone_iff_eq_none.mpr h.received,
      Option.isNone_iff_eq_none.mpr h.pinged, h.met, h.written⟩⟩

/-- Whether a move is one of a session whose receiver and keep-alive are given their turn in time,
on a transport that takes every frame at once. -/
def Occasion.IsTimely (o : Occasion) : Prop :=
  match o.move with
  | .outside env => env.now = o.env.now ∨ o.session.Passes o.env.now env.now
  | .wire wire => wire.IsPrompt
  | _ => True

instance (o : Occasion) : Decidable o.IsTimely := by
  unfold Occasion.IsTimely
  split <;> infer_instance

/-- Along a timely run the clock never goes back. -/
theorem Run.ordered (begins : Begins s₀) (run : Run s₀ e₀ past s e)
    (timely : ∀ o ∈ past, o.IsTimely) :
    past.Pairwise (fun o o' => o.env.now ≤ o'.env.now) ∧
    ∀ o ∈ past, o.env.now ≤ e.now := by
  refine run.keeps_along
    (P := fun past _ x => (∀ o ∈ past, o.IsTimely) →
      past.Pairwise (fun o o' => o.env.now ≤ o'.env.now) ∧ ∀ o ∈ past, o.env.now ≤ x.now)
    (fun _ => ⟨.nil, by simp⟩) ?_ timely
  intro past t t' x x' m run moved held timely
  obtain ⟨earlier, last⟩ := List.forall_mem_append.mp timely
  obtain ⟨ordered, before⟩ := held earlier
  have forward : x.now ≤ x'.now := by
    have timely := last _ (List.mem_singleton_self _)
    have moves := move_moves moved
    cases m with
    | outside env =>
      cases moves
      rcases timely with same | passes
      · exact Nat.le_of_eq same.symm
      · exact passes.forward
    | _ => exact Nat.le_of_eq (moves.now (run.sound begins).numbered (by simp)).symm
  refine ⟨?_, Run.forall_concat (fun o member => (before o member).trans forward) forward⟩
  -- The last occasion is no earlier than any before it.
  exact List.pairwise_append.mpr ⟨ordered, List.pairwise_singleton _ _,
    fun o member o' last => by
      obtain rfl := List.mem_singleton.mp last
      exact before o member⟩

end Session

end WatchRelay
