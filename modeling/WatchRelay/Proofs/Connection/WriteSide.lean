import WatchRelay.Connection.Callers

/-! The write side under all who use it: they write one at a time, and nothing follows a close
frame. -/

namespace WatchRelay

@[simp] theorem Alarms.reportAny_capacity (a : Alarms) (f : Option SessionFailure) :
    (a.reportAny f).capacity = a.capacity := by
  -- An alarm is put in the queue or dropped, and the room stays.
  unfold reportAny report
  split
  · split
    · rfl
    · split <;> rfl
  · rfl

/-- Whether a frame closes the connection. -/
def OutFrame.isClose : OutFrame → Bool
  | .close _ => true
  | .message _ | .ping => false

/-- Whether an operation acknowledges a request. -/
def Operation.isAcknowledgment : Operation → Bool
  | .subscribed | .unsubscribed => true
  | _ => false

/-- Whether a frame is one that a writer writes: the event loop acknowledges, keep-alive pings, the
runners report, and calls close. -/
def OutFrame.suits : OutFrame → Writer → Bool
  | .message m, .eventLoop => m.op.isAcknowledgment
  | .message m, .runner _ => m.op.isNotification
  | .ping, .keepAlive | .close _, .call _ => true
  | _, _ => false

/-- The frame of an entry of the log and who wrote it, if the entry is a frame. -/
def LogEntry.sent? (x : LogEntry) : Option (OutFrame × Writer) :=
  match x.happening with
  | .frame frame w => some (frame, w)
  | .ended | .dropped => none

namespace Outlet

/-- The frames the transport took, in order, each with its writer. -/
def sent (o : Outlet) : List (OutFrame × Writer) := o.log.toList.filterMap LogEntry.sent?

/-- The frames the transport took from one writer. -/
def sentBy (o : Outlet) (w : Writer) : List OutFrame :=
  (o.sent.filter fun x => x.2 == w).map (·.1)

/-- A frame is among those of its writer. -/
theorem mem_sentBy {o : Outlet} {w : Writer} {frame : OutFrame} :
    frame ∈ o.sentBy w ↔ (frame, w) ∈ o.sent := by
  simp [sentBy]

/-- The frames the transport took. -/
def frames (o : Outlet) : List OutFrame := o.sent.map (·.1)

@[simp] theorem sent_leave (o : Outlet) (w : Writer) : (o.leave w).sent = o.sent := rfl

@[simp] theorem sent_setWritable (o : Outlet) (b : Bool) : { o with writable := b }.sent = o.sent :=
  rfl

@[simp] theorem sent_note_frame (o : Outlet) (now : Nat) (frame : OutFrame) (w : Writer) :
    (o.note now (.frame frame w)).sent = o.sent ++ [(frame, w)] := by
  simp [sent, note, LogEntry.sent?]

@[simp] theorem sent_note_ended (o : Outlet) (now : Nat) : (o.note now .ended).sent = o.sent := by
  simp [sent, note, LogEntry.sent?]

@[simp] theorem sent_note_dropped (o : Outlet) (now : Nat) :
    (o.note now .dropped).sent = o.sent := by
  simp [sent, note, LogEntry.sent?]

@[simp] theorem sent_discard (o : Outlet) (now : Nat) : (o.discard now).sent = o.sent :=
  sent_note_dropped o now

/-- What one step of writing a frame can do. -/
inductive Writes (o : Outlet) (now : Nat) (w : Writer) (frame : OutFrame) :
    WriteStage → Outlet → StepResult WriteStage → Prop where
  /-- The writer's turn has come. -/
  | turn (first : o.hasTurn w = true) (there : o.writable = true) :
      Writes o now w frame .queued o (.on (.sending (now + o.limit)))
  /-- The writer's turn has come, and the write half is gone. -/
  | refused (first : o.hasTurn w = true) (gone : o.writable = false) :
      Writes o now w frame .queued (o.leave w) (.done false none)
  | accepted (deadline : Nat) :
      Writes o now w frame (.sending deadline) (o.note now (.frame frame w))
        (.on (.flushing deadline))
  | flushed (deadline : Nat) :
      Writes o now w frame (.flushing deadline) (o.leave w) (.done true none)
  /-- The transport fails or takes too long, and the write half is let go. -/
  | failed {stage : WriteStage} (begun : stage ≠ .queued) (f : SessionFailure) :
      Writes o now w frame stage ((o.discard now).leave w) (.done false (some f))

/-- Every step of a write is one of these. -/
theorem stepWrite_writes {o o' : Outlet} {now : Nat} {w : Writer} {frame : OutFrame}
    {stage : WriteStage} {result : StepResult WriteStage}
    (moved : o.stepWrite now w frame stage = some (o', result)) :
    o.Writes now w frame stage o' result := by
  cases stage with
  | queued =>
    -- Only the first in line gets on, and it may find the write half gone.
    simp only [stepWrite] at moved
    split at moved
    · next first =>
      split at moved
      · next there => cases moved; exact .turn first there
      · next gone => cases moved; exact .refused first (by simpa using gone)
    · cases moved
  | sending deadline =>
    simp only [stepWrite] at moved
    split at moved
    · cases moved; exact .accepted deadline
    · cases moved; exact .failed (by simp) _
    · -- A transport that stalls is waited for until the deadline.
      split at moved
      · cases moved; exact .failed (by simp) _
      · cases moved
  | flushing deadline =>
    simp only [stepWrite] at moved
    split at moved
    · cases moved; exact .flushed deadline
    · cases moved; exact .failed (by simp) _
    · -- Flushing is given as long as sending.
      split at moved
      · cases moved; exact .failed (by simp) _
      · cases moved

/-- What one step of closing can do. -/
inductive Closes (o : Outlet) (now : Nat) (w : Writer) (frame : Option CloseFrame) :
    CloseStage → Outlet → StepResult CloseStage → Prop where
  /-- The write half is taken, and the turn is given on. -/
  | taken (first : o.hasTurn w = true) (there : o.writable = true) :
      Closes o now w frame .queued { o.leave w with writable := false }
        (.on (.sending (now + o.limit)))
  /-- The write half is gone already. -/
  | refused (first : o.hasTurn w = true) (gone : o.writable = false) :
      Closes o now w frame .queued (o.leave w) (.done false none)
  | accepted (deadline : Nat) :
      Closes o now w frame (.sending deadline) (o.note now (.frame (.close frame) w))
        (.on (.flushing deadline))
  | flushed (deadline : Nat) :
      Closes o now w frame (.flushing deadline) o (.on (.ending deadline))
  | ended (deadline : Nat) :
      Closes o now w frame (.ending deadline) ((o.note now .ended).note now .dropped)
        (.done true none)
  /-- The transport fails or takes too long, which does not matter any more. -/
  | dropped {stage : CloseStage} (begun : stage ≠ .queued) :
      Closes o now w frame stage (o.note now .dropped) (.done true none)

/-- Closing puts no frame on the connection but the one it is about. -/
theorem Closes.of_sent {o o' : Outlet} {now : Nat} {w : Writer} {frame : Option CloseFrame}
    {stage : CloseStage} {result : StepResult CloseStage}
    (closes : Closes o now w frame stage o' result)
    {x : OutFrame × Writer} (sent : x ∈ o'.sent) : x ∈ o.sent ∨ x = (.close frame, w) := by
  -- Only the accepting of the close frame puts something down.
  cases closes with
  | accepted _ => simpa using sent
  | _ => exact .inl (by simpa using sent)

/-- Every step of closing is one of these. -/
theorem stepClose_closes {o o' : Outlet} {now : Nat} {w : Writer} {frame : Option CloseFrame}
    {stage : CloseStage} {result : StepResult CloseStage}
    (moved : o.stepClose now w frame stage = some (o', result)) :
    o.Closes now w frame stage o' result := by
  cases stage with
  | queued =>
    -- Only the first in line gets on, and it may find the write half gone.
    simp only [stepClose] at moved
    split at moved
    · next first =>
      split at moved
      · next there => cases moved; exact .taken first there
      · next gone => cases moved; exact .refused first (by simpa using gone)
    · cases moved
  | sending deadline =>
    simp only [stepClose] at moved
    split at moved
    · cases moved; exact .accepted deadline
    -- Once the write half is taken, every failure ends the closing in the same way.
    · cases moved; exact .dropped (by simp)
    · split at moved
      · cases moved; exact .dropped (by simp)
      · cases moved
  | flushing deadline =>
    simp only [stepClose] at moved
    split at moved
    · cases moved; exact .flushed deadline
    · cases moved; exact .dropped (by simp)
    · split at moved
      · cases moved; exact .dropped (by simp)
      · cases moved
  | ending deadline =>
    simp only [stepClose] at moved
    split at moved
    · cases moved; exact .ended deadline
    · cases moved; exact .dropped (by simp)
    · split at moved
      · cases moved; exact .dropped (by simp)
      · cases moved

end Outlet

namespace Outlet

theorem hasTurn_iff {o : Outlet} {w : Writer} : o.hasTurn w = true ↔ o.line.head? = some w := by
  simp [hasTurn]

/-- Only one writer has the turn. -/
theorem hasTurn_unique {o : Outlet} {w x : Writer} (first : o.hasTurn w = true)
    (second : o.hasTurn x = true) : x = w := by
  rw [hasTurn_iff] at first second
  simpa [first] using second.symm

/-- A writer that has the turn keeps it when another one leaves. -/
theorem hasTurn_leave {o : Outlet} {w x : Writer} (differ : x ≠ w) (first : o.hasTurn x = true) :
    (o.leave w).hasTurn x = true := by
  rw [hasTurn_iff] at first ⊢
  cases line : o.line with
  | nil => simp [line] at first
  | cons head rest =>
    -- The first in line is not the one that leaves.
    have same : head = x := by simpa [line] using first
    subst same
    simp [leave, line, differ]

/-- A writer that has the turn keeps it when another one gets in line. -/
theorem hasTurn_join {o : Outlet} {w x : Writer} (first : o.hasTurn x = true) :
    (o.join w).hasTurn x = true := by
  rw [hasTurn_iff] at first ⊢
  simp [join, first]

end Outlet

namespace Errand

/-- Whether an errand has a place in line: a closing that has taken the write half has not. -/
def isInLine : Option Errand → Bool
  | some (.write _ _) | some (.close _ .queued) | some .ask => true
  | some (.close _ _) | none => false

/-- Whether an errand is a write that has begun. -/
def isWriting : Option Errand → Bool
  | some (.write _ .queued) => false
  | some (.write _ _) => true
  | _ => false

/-- Whether an errand is a closing that has taken the write half. -/
def hasTaken : Option Errand → Bool
  | some (.close _ .queued) => false
  | some (.close _ _) => true
  | _ => false

/-- Only a closing takes the write half. -/
theorem close_of_taken {errand : Option Errand} (taken : hasTaken errand = true) :
    ∃ frame stage, errand = some (.close frame stage) := by
  match errand, taken with
  | some (.close frame stage), _ => exact ⟨frame, stage, rfl⟩

/-- An errand that has just begun. -/
inductive IsFresh : Errand → Prop where
  | write (frame : OutFrame) : IsFresh (.write frame .queued)
  | close (frame : Option CloseFrame) : IsFresh (.close frame .queued)

/-- Whether an errand is one that a writer has: each writes its own frames, and only closing writes
a close frame. -/
def Fits (w : Writer) : Option Errand → Prop
  | some (.write frame _) => frame.isClose = false ∧ frame.suits w = true
  | some (.close frame _) => (OutFrame.close frame).suits w = true
  | some .ask | none => True

end Errand

/-- The stage a step leads to, if the call goes on. -/
def StepResult.stage? {stage : Type} : StepResult stage → Option stage
  | .on stage => some stage
  | .done _ _ => none

/-- The write side of a connection, and what each writer is about there. -/
structure WriteSide where
  outlet : Outlet
  errand : Writer → Option Errand

namespace WriteSide

/-- What a writer can do in one step, to the write side and to its own errand. -/
inductive Deed (now : Nat) (w : Writer) :
    Outlet → Option Errand → Outlet → Option Errand → Prop where
  /-- It has nothing to do there. -/
  | rested (o : Outlet) (errand : Option Errand) : Deed now w o errand o errand
  | joined (o : Outlet) {errand : Errand} (fresh : errand.IsFresh)
      (fits : Errand.Fits w (some errand)) : Deed now w o none (o.join w) (some errand)
  | wrote {o o' : Outlet} {frame : OutFrame} {stage : WriteStage}
      {result : StepResult WriteStage} (writes : o.Writes now w frame stage o' result) :
      Deed now w o (some (.write frame stage)) o' (result.stage?.map (.write frame))
  | closed {o o' : Outlet} {frame : Option CloseFrame} {stage : CloseStage}
      {result : StepResult CloseStage} (closes : o.Closes now w frame stage o' result) :
      Deed now w o (some (.close frame stage)) o' (result.stage?.map (.close frame))
  /-- It is stopped from outside. -/
  | left (o : Outlet) {errand : Option Errand}
      (open_ : ∀ frame stage, errand ≠ some (.close frame stage)) :
      Deed now w o errand (o.leave w) none

/-- A step of a write is a deed of its writer. -/
theorem Deed.of_stepWrite {o o' : Outlet} {now : Nat} {w : Writer} {frame : OutFrame}
    {stage : WriteStage} {result : StepResult WriteStage}
    (moved : o.stepWrite now w frame stage = some (o', result)) :
    Deed now w o (some (.write frame stage)) o' (result.stage?.map (.write frame)) :=
  .wrote (Outlet.stepWrite_writes moved)

/-- One writer does something, and the errands of all others stay. -/
structure Step (now : Nat) (w : Writer) (v v' : WriteSide) : Prop where
  deed : Deed now w v.outlet (v.errand w) v'.outlet (v'.errand w)
  others : ∀ x, x ≠ w → v'.errand x = v.errand x

/-- The line holds those who have an errand there; who writes has the turn and a write half; who
closes is the only one to do so and has left no write half. -/
structure Orderly (v : WriteSide) : Prop where
  once : v.outlet.line.Nodup
  inLine : ∀ w, w ∈ v.outlet.line ↔ Errand.isInLine (v.errand w) = true
  writing : ∀ w, Errand.isWriting (v.errand w) = true →
    v.outlet.hasTurn w = true ∧ v.outlet.writable = true
  taken : ∀ w, Errand.hasTaken (v.errand w) = true → v.outlet.writable = false
  sole : ∀ w x, Errand.hasTaken (v.errand w) = true →
    Errand.hasTaken (v.errand x) = true → w = x

namespace Orderly

variable {v v' : WriteSide} {w : Writer} {now : Nat}

/-- Order is kept where the write side stays as it is for all but one writer. -/
private theorem of_own (orderly : v.Orderly) (others : ∀ x, x ≠ w → v'.errand x = v.errand x)
    (once : v'.outlet.line.Nodup)
    (members : ∀ x, x ≠ w → (x ∈ v'.outlet.line ↔ x ∈ v.outlet.line))
    (own : w ∈ v'.outlet.line ↔ Errand.isInLine (v'.errand w) = true)
    (gone : v.outlet.writable = false → v'.outlet.writable = false)
    (ownWriting : Errand.isWriting (v'.errand w) = true →
      v'.outlet.hasTurn w = true ∧ v'.outlet.writable = true)
    (turns : ∀ x, x ≠ w → Errand.isWriting (v.errand x) = true →
      v'.outlet.hasTurn x = true ∧ v'.outlet.writable = true)
    (ownTaken : Errand.hasTaken (v'.errand w) = true →
      v'.outlet.writable = false ∧ ∀ x, x ≠ w → Errand.hasTaken (v.errand x) = false) :
    v'.Orderly where
  once := once
  inLine x := by
    -- The others stand where they stood, and what they are about is the same.
    by_cases same : x = w
    · rw [same]; exact own
    · rw [members x same, others x same]; exact orderly.inLine x
  writing x writes := by
    by_cases same : x = w
    · rw [same] at writes ⊢; exact ownWriting writes
    · rw [others x same] at writes; exact turns x same writes
  taken x takes := by
    -- A write half that one of the others has taken is still gone.
    by_cases same : x = w
    · rw [same] at takes; exact (ownTaken takes).1
    · rw [others x same] at takes; exact gone (orderly.taken x takes)
  sole x y takesX takesY := by
    -- Of two that closed, neither or one is the writer that moved.
    by_cases sameX : x = w
    · by_cases sameY : y = w
      · rw [sameX, sameY]
      · rw [sameX] at takesX
        rw [others y sameY, (ownTaken takesX).2 y sameY] at takesY
        cases takesY
    · by_cases sameY : y = w
      · rw [sameY] at takesY
        rw [others x sameX, (ownTaken takesY).2 x sameX] at takesX
        cases takesX
      · rw [others x sameX] at takesX
        rw [others y sameY] at takesY
        exact orderly.sole x y takesX takesY

/-- Order is kept when a writer leaves the line and has no errand there any more. -/
private theorem of_leave {o : Outlet} (orderly : v.Orderly)
    (others : ∀ x, x ≠ w → v'.errand x = v.errand x) (line : o.line = v.outlet.line)
    (left : v'.outlet = o.leave w) (idle : Errand.isInLine (v'.errand w) = false)
    (gone : v.outlet.writable = false → o.writable = false)
    (turns : ∀ x, x ≠ w → Errand.isWriting (v.errand x) = true → o.writable = true)
    (ownTaken : Errand.hasTaken (v'.errand w) = true →
      o.writable = false ∧ ∀ x, x ≠ w → Errand.hasTaken (v.errand x) = false) :
    v'.Orderly := by
  -- Who has no place in line does not write.
  have still : Errand.isWriting (v'.errand w) = false := by
    cases own : v'.errand w with
    | none => rfl
    | some errand => cases errand <;> simp_all [Errand.isInLine, Errand.isWriting]
  refine of_own orderly others ?_ ?_ ?_ ?_ ?_ ?_ ?_
  · simpa [left, Outlet.leave, line] using orderly.once.erase w
  · intro x differ
    simp [left, Outlet.leave, line, List.mem_erase_of_ne differ]
  · simp [left, Outlet.leave, line, idle, orderly.once.not_mem_erase]
  · simpa [left, Outlet.leave] using gone
  · simp [still]
  · -- Who writes stands first, and stays there when another one leaves.
    intro x differ writes
    have first : o.hasTurn x = true := by
      rw [Outlet.hasTurn, line]; exact (orderly.writing x writes).1
    rw [left]
    exact ⟨Outlet.hasTurn_leave differ first, turns x differ writes⟩
  · simpa [left, Outlet.leave] using ownTaken

/-- Order is kept when a writer goes on with its errand where it is. -/
private theorem of_stay (orderly : v.Orderly)
    (others : ∀ x, x ≠ w → v'.errand x = v.errand x)
    (line : v'.outlet.line = v.outlet.line)
    (there : v'.outlet.writable = v.outlet.writable)
    (own : Errand.isInLine (v'.errand w) = Errand.isInLine (v.errand w))
    (ownWriting : Errand.isWriting (v'.errand w) = true →
      v.outlet.hasTurn w = true ∧ v.outlet.writable = true)
    (ownTaken : Errand.hasTaken (v'.errand w) = true → Errand.hasTaken (v.errand w) = true) :
    v'.Orderly := by
  have turn (x : Writer) : v'.outlet.hasTurn x = v.outlet.hasTurn x := by
    rw [Outlet.hasTurn, Outlet.hasTurn, line]
  refine of_own orderly others ?_ ?_ ?_ ?_ ?_ ?_ ?_
  · rw [line]; exact orderly.once
  · intro x _; rw [line]
  · rw [line, own]; exact orderly.inLine w
  · simp [there]
  · rw [turn, there]; exact ownWriting
  · intro x _ writes
    rw [turn, there]; exact orderly.writing x writes
  · intro takes
    refine ⟨there.trans (orderly.taken w (ownTaken takes)), fun x differ => ?_⟩
    -- Another one that closes would be this one.
    exact Bool.eq_false_iff.mpr fun taken => differ (orderly.sole x w taken (ownTaken takes))

/-- A writer whose turn it is keeps all others from writing. -/
private theorem writable_of_turn (orderly : v.Orderly) {b : Bool}
    (first : v.outlet.hasTurn w = true)
    (x : Writer) (differ : x ≠ w) (writes : Errand.isWriting (v.errand x) = true) : b = true :=
  absurd (Outlet.hasTurn_unique first (orderly.writing x writes).1) differ

/-- Order is kept when a writer gets in line for a new errand. -/
private theorem of_join {errand : Errand} (orderly : v.Orderly)
    (others : ∀ x, x ≠ w → v'.errand x = v.errand x) (before : v.errand w = none)
    (fresh : errand.IsFresh) (after : v'.errand w = some errand)
    (joins : v'.outlet = v.outlet.join w) : v'.Orderly := by
  -- Who has no errand has no place in line, so it does not get a second one.
  have absent : w ∉ v.outlet.line := by simp [orderly.inLine, before, Errand.isInLine]
  have shape : Errand.isInLine (v'.errand w) = true ∧ Errand.isWriting (v'.errand w) = false ∧
      Errand.hasTaken (v'.errand w) = false := by
    cases fresh <;> simp [after, Errand.isInLine, Errand.isWriting, Errand.hasTaken]
  refine of_own orderly others ?_ ?_ ?_ ?_ ?_ ?_ ?_
  · simpa [joins, Outlet.join, List.nodup_append, orderly.once] using
      fun x member same => absent (by rw [← same]; exact member)
  · intro x differ
    simp [joins, Outlet.join, differ]
  · simp [joins, Outlet.join, shape.1]
  · simp [joins, Outlet.join]
  · simp [shape.2.1]
  · -- Those who write stand before it.
    intro x _ writes
    have held := orderly.writing x writes
    rw [joins]
    exact ⟨Outlet.hasTurn_join held.1, held.2⟩
  · simp [shape.2.2]

/-- Order is kept by a step of writing a frame. -/
private theorem of_write {frame : OutFrame} {stage : WriteStage} {result : StepResult WriteStage}
    (orderly : v.Orderly) (others : ∀ x, x ≠ w → v'.errand x = v.errand x)
    (before : v.errand w = some (.write frame stage))
    (after : v'.errand w = result.stage?.map (.write frame))
    (writes : v.outlet.Writes now w frame stage v'.outlet result) : v'.Orderly := by
  have writing := orderly.writing w
  rw [before] at writing
  generalize next : v'.outlet = o' at writes
  cases writes with
  | turn first there =>
    -- The writer keeps its place, and it is the first there.
    refine of_stay orderly others (by rw [next]) (by rw [next]) ?_ ?_ ?_
    · simp [before, after, StepResult.stage?, Errand.isInLine]
    · exact fun _ => ⟨first, there⟩
    · simp [after, StepResult.stage?, Errand.hasTaken]
  | refused first gone =>
    exact of_leave orderly others rfl next
      (by simp [after, StepResult.stage?, Errand.isInLine]) id
      (writable_of_turn orderly first)
      (by simp [after, StepResult.stage?, Errand.hasTaken])
  | accepted deadline =>
    refine of_stay orderly others (by rw [next]; rfl) (by rw [next]; rfl) ?_ ?_ ?_
    · simp [before, after, StepResult.stage?, Errand.isInLine]
    · exact fun _ => writing rfl
    · simp [after, StepResult.stage?, Errand.hasTaken]
  | flushed deadline =>
    exact of_leave orderly others rfl next
      (by simp [after, StepResult.stage?, Errand.isInLine]) id
      (writable_of_turn orderly (writing rfl).1)
      (by simp [after, StepResult.stage?, Errand.hasTaken])
  | failed begun f =>
    -- No one else writes, so nobody misses the write half that is let go.
    have first : v.outlet.hasTurn w = true := by
      refine (writing ?_).1
      simp only [Errand.isWriting]
    exact of_leave (o := v.outlet.discard now) orderly others rfl next
      (by simp [after, StepResult.stage?, Errand.isInLine]) (fun _ => rfl)
      (writable_of_turn orderly first)
      (by simp [after, StepResult.stage?, Errand.hasTaken])

/-- Order is kept when a closing that has taken the write half goes on, or comes to its end. -/
private theorem of_closing {frame : Option CloseFrame} {stage : CloseStage}
    {result : StepResult CloseStage} (orderly : v.Orderly)
    (others : ∀ x, x ≠ w → v'.errand x = v.errand x)
    (before : v.errand w = some (.close frame stage))
    (after : v'.errand w = result.stage?.map (.close frame)) (begun : stage ≠ .queued)
    (line : v'.outlet.line = v.outlet.line) (there : v'.outlet.writable = v.outlet.writable)
    (goes : ∀ s, result.stage? = some s → s ≠ .queued) : v'.Orderly := by
  -- A closing that has begun is out of the line, and so it is behind its step.
  have held : Errand.hasTaken (v.errand w) = true ∧ Errand.isInLine (v.errand w) = false := by
    rw [before]
    cases stage <;> simp_all [Errand.hasTaken, Errand.isInLine]
  have idle : Errand.isInLine (v'.errand w) = false ∧ Errand.isWriting (v'.errand w) = false := by
    rw [after]
    cases result with
    | done _ _ => simp [StepResult.stage?, Errand.isInLine, Errand.isWriting]
    | on s =>
      have := goes s rfl
      cases s <;> simp_all [StepResult.stage?, Errand.isInLine, Errand.isWriting]
  refine of_stay orderly others line there (by rw [idle.1, held.2]) ?_ (fun _ => held.1)
  simp [idle.2]

/-- Order is kept by a step of closing the connection. -/
private theorem of_close {frame : Option CloseFrame} {stage : CloseStage}
    {result : StepResult CloseStage} (orderly : v.Orderly)
    (others : ∀ x, x ≠ w → v'.errand x = v.errand x)
    (before : v.errand w = some (.close frame stage))
    (after : v'.errand w = result.stage?.map (.close frame))
    (closes : v.outlet.Closes now w frame stage v'.outlet result) : v'.Orderly := by
  -- Unless it has just got its turn, the closing has taken the write half before.
  have stay := of_closing orderly others before after
  generalize next : v'.outlet = o' at closes stay
  cases closes with
  | taken first there =>
    refine of_leave (o := { v.outlet with writable := false }) orderly others rfl next
      (by simp [after, StepResult.stage?, Errand.isInLine]) (fun _ => rfl)
      (writable_of_turn orderly first) (fun _ => ⟨rfl, fun x differ => ?_⟩)
    -- Had another one taken the write half, it would not be there.
    refine Bool.eq_false_iff.mpr fun takes => ?_
    have gone := orderly.taken x takes
    rw [there] at gone
    cases gone
  | refused first gone =>
    exact of_leave orderly others rfl next
      (by simp [after, StepResult.stage?, Errand.isInLine]) id
      (writable_of_turn orderly first)
      (by simp [after, StepResult.stage?, Errand.hasTaken])
  | accepted deadline => exact stay (by simp) rfl rfl (by simp [StepResult.stage?])
  | flushed deadline => exact stay (by simp) rfl rfl (by simp [StepResult.stage?])
  | ended deadline => exact stay (by simp) rfl rfl (by simp [StepResult.stage?])
  | dropped begun => exact stay begun rfl rfl (by simp [StepResult.stage?])

/-- A step of any writer keeps the write side in order. -/
theorem step (orderly : v.Orderly) (moved : Step now w v v') : v'.Orderly := by
  -- Each deed changes the errand of its writer, and the line and the write half along with it.
  obtain ⟨deed, others⟩ := moved
  generalize before : v.errand w = errand at deed
  generalize after : v'.errand w = errand' at deed
  generalize left : v.outlet = o at deed
  generalize next : v'.outlet = o' at deed
  cases deed with
  | rested =>
    have same : v'.errand w = v.errand w := by rw [before, after]
    refine of_stay orderly others (by rw [next, left]) (by rw [next, left]) (by rw [same]) ?_ ?_
    · rw [same]
      exact orderly.writing w
    · rw [same]
      exact id
  | joined fresh _ => exact of_join orderly others before fresh after (by rw [next, left])
  | wrote writes =>
    rw [← left, ← next] at writes
    exact of_write orderly others before after writes
  | closed closes =>
    rw [← left, ← next] at closes
    exact of_close orderly others before after closes
  | left open_ =>
    exact of_leave orderly others rfl (by rw [next, left]) (by simp [after, Errand.isInLine]) id
      (fun x _ writes => (orderly.writing x writes).2)
      (by simp [after, Errand.hasTaken])

end Orderly

namespace Deed

variable {o o' : Outlet} {errand errand' : Option Errand} {w : Writer} {now : Nat}

/-- A deed puts at most one frame on the connection: what the writer was sending. -/
theorem sent (deed : Deed now w o errand o' errand') :
    o'.sent = o.sent ∨
      ∃ frame deadline, o'.sent = o.sent ++ [(frame, w)] ∧
        (errand = some (.write frame (.sending deadline)) ∧
            errand' = some (.write frame (.flushing deadline)) ∨
          ∃ f, frame = .close f ∧ errand = some (.close f (.sending deadline)) ∧
            errand' = some (.close f (.flushing deadline))) := by
  cases deed with
  | rested => exact .inl rfl
  | joined _ _ => exact .inl rfl
  | wrote writes =>
    -- A frame is on the connection when the transport has taken it, flushed or not.
    cases writes with
    | accepted deadline => exact .inr ⟨_, deadline, by simp, .inl ⟨rfl, rfl⟩⟩
    | _ => exact .inl (by simp)
  | closed closes =>
    cases closes with
    | accepted deadline => exact .inr ⟨_, deadline, by simp, .inr ⟨_, rfl, rfl, rfl⟩⟩
    | _ => exact .inl (by simp)
  | left _ => exact .inl rfl

/-- A write half that is gone stays gone. -/
theorem gone (deed : Deed now w o errand o' errand') (gone : o.writable = false) :
    o'.writable = false := by
  -- A write half that is gone stays gone, whoever acts.
  cases deed with
  | rested => exact gone
  | joined _ _ => exact gone
  | wrote writes => cases writes <;> first | exact gone | rfl
  | closed closes => cases closes <;> first | exact gone | rfl
  | left _ => exact gone

/-- Only writing and closing that have begun leave a trace on the connection. -/
theorem silent (deed : Deed now w o errand o' errand') (still : Errand.isWriting errand = false)
    (idle : Errand.hasTaken errand = false) : o'.log = o.log := by
  cases deed with
  | rested => rfl
  | joined _ _ => rfl
  -- A write that still waits for its turn can only get it, or find the write half gone.
  | wrote writes =>
    cases writes with
    | turn _ _ => rfl
    | refused _ _ => rfl
    | accepted _ => cases still
    | flushed _ => rfl
    | failed begun _ => simp [Errand.isWriting] at still
  -- So can a closing, which takes the write half before it leaves a trace.
  | closed closes =>
    cases closes with
    | taken _ _ => rfl
    | refused _ _ => rfl
    | accepted _ => cases idle
    | flushed _ => rfl
    | ended _ => cases idle
    | dropped begun => simp [Errand.hasTaken] at idle
  | left _ => rfl

/-- A writer keeps to what it writes. -/
theorem fits (deed : Deed now w o errand o' errand') (fits : Errand.Fits w errand) :
    Errand.Fits w errand' := by
  cases deed with
  | rested => exact fits
  | joined _ own => exact own
  -- An errand that goes on is about the same frame.
  | @wrote _ _ _ result _ => cases result <;> first | exact fits | trivial
  | @closed _ _ _ result _ => cases result <;> first | exact fits | trivial
  | left _ => trivial

/-- Nobody begins to send a close frame once the write half is gone. -/
theorem not_sending (deed : Deed now w o errand o' errand') (gone : o.writable = false)
    (unsent : ∀ frame deadline, errand ≠ some (.close frame (.sending deadline)))
    (frame : Option CloseFrame) (deadline : Nat) :
    errand' ≠ some (.close frame (.sending deadline)) := by
  intro own
  cases deed with
  | rested => exact unsent frame deadline own
  | joined fresh _ => cases fresh <;> cases own
  | @wrote _ _ _ result _ => cases result <;> cases own
  -- The only way to sending is to take the write half.
  | closed closes =>
    cases closes with
    | taken _ there => rw [gone] at there; cases there
    | _ => cases own
  | left _ => cases own

/-- Nobody takes a write half that is gone. -/
theorem not_taken (deed : Deed now w o errand o' errand') (gone : o.writable = false)
    (idle : Errand.hasTaken errand = false) : Errand.hasTaken errand' = false := by
  cases deed with
  | rested => exact idle
  | joined fresh _ => cases fresh <;> rfl
  | @wrote _ _ _ result _ => cases result <;> rfl
  -- Who closes without the write half has still to find it gone.
  | closed closes =>
    cases closes with
    | taken _ there => rw [gone] at there; cases there
    | accepted _ => cases idle
    | flushed _ => cases idle
    | _ => rfl
  | left _ => rfl

end Deed

namespace Step

variable {v v' : WriteSide} {w : Writer} {now : Nat}

/-- Without a write half, only who has taken it can still do anything on the connection. -/
theorem silent (moved : Step now w v v') (orderly : v.Orderly)
    (gone : v.outlet.writable = false) (idle : Errand.hasTaken (v.errand w) = false) :
    v'.outlet.log = v.outlet.log := by
  -- A write that has begun has a write half.
  refine moved.deed.silent (Bool.eq_false_iff.mpr fun writes => ?_) idle
  have there := (orderly.writing w writes).2
  rw [gone] at there
  cases there

/-- The frames of all others stay as they are. -/
theorem sentBy (moved : Step now w v v') {x : Writer} (differ : x ≠ w) :
    v'.outlet.sentBy x = v.outlet.sentBy x := by
  rcases moved.deed.sent with same | ⟨frame, deadline, same, -⟩
  · rw [Outlet.sentBy, same, Outlet.sentBy]
  · -- The new frame is another writer's.
    simp [Outlet.sentBy, same, Ne.symm differ]

end Step

/-- Everyone writes what is theirs to write, and a close frame is the last on the connection. -/
structure Proper (v : WriteSide) : Prop where
  fits : ∀ w, Errand.Fits w (v.errand w)
  sent : ∀ x ∈ v.outlet.sent, x.1.suits x.2 = true
  last : ∀ before f after, v.outlet.frames = before ++ .close f :: after →
    after = [] ∧ v.outlet.writable = false ∧
      ∀ w frame deadline, v.errand w ≠ some (.close frame (.sending deadline))

namespace Proper

variable {v v' : WriteSide} {w : Writer} {now : Nat}

/-- A step of any writer puts on the connection what is its own. -/
theorem sent_step (proper : v.Proper) (moved : Step now w v v') :
    ∀ x ∈ v'.outlet.sent, x.1.suits x.2 = true := by
  intro x member
  rcases moved.deed.sent with same | ⟨frame, deadline, same, cause⟩
  · rw [same] at member
    exact proper.sent x member
  · rw [same] at member
    rcases List.mem_append.mp member with before | new
    · exact proper.sent x before
    · obtain rfl := List.mem_singleton.mp new
      have fits := proper.fits w
      -- The new frame is the one the writer was about.
      rcases cause with ⟨own, -⟩ | ⟨f, rfl, own, -⟩
      · rw [own] at fits
        exact fits.2
      · rw [own] at fits
        exact fits

/-- A step of any writer keeps a close frame the last. -/
theorem last_step (proper : v.Proper) (orderly : v.Orderly) (moved : Step now w v v')
    (before : List OutFrame) (f : Option CloseFrame) (after : List OutFrame)
    (frames : v'.outlet.frames = before ++ .close f :: after) :
    after = [] ∧ v'.outlet.writable = false ∧
      ∀ x frame deadline, v'.errand x ≠ some (.close frame (.sending deadline)) := by
  rcases moved.deed.sent with same | ⟨frame, deadline, same, cause⟩
  · -- Nothing is written, so the close frame was there and the write half gone.
    rw [Outlet.frames, same] at frames
    obtain ⟨none, gone, unsent⟩ := proper.last before f after frames
    refine ⟨none, moved.deed.gone gone, fun x g deadline own => ?_⟩
    by_cases self : x = w
    · rw [self] at own
      exact moved.deed.not_sending gone (unsent w) g deadline own
    · rw [moved.others x self] at own
      exact unsent x g deadline own
  · have frames : v.outlet.frames ++ [frame] = before ++ .close f :: after := by
      rw [← frames, Outlet.frames, Outlet.frames, same]
      simp
    -- No frame can follow a close frame that was there before.
    have fresh : after = [] := by
      rcases List.eq_nil_or_concat after with none | ⟨rest, final, more⟩
      · exact none
      · rw [more, List.concat_eq_append, ← List.cons_append, ← List.append_assoc] at frames
        have earlier := (List.append_inj' frames rfl).1
        obtain ⟨-, gone, unsent⟩ := proper.last before f rest earlier
        -- The earlier close frame left no write half to write with and nothing to send.
        rcases cause with ⟨own, -⟩ | ⟨g, -, own, -⟩
        · have there := (orderly.writing w (by rw [own]; rfl)).2
          rw [gone] at there
          cases there
        · exact absurd own (unsent w g deadline)
    subst fresh
    have final : frame = .close f := by simpa using (List.append_inj' frames rfl).2
    rcases cause with ⟨own, -⟩ | ⟨g, -, own, next⟩
    · -- A write is not of a close frame.
      have fits := proper.fits w
      rw [own, final] at fits
      cases fits.1
    · have gone := orderly.taken w (by rw [own]; rfl)
      refine ⟨rfl, moved.deed.gone gone, fun x h later sending => ?_⟩
      -- Whoever closes is alone with the half, so no other close frame is to be sent.
      by_cases self : x = w
      · rw [self, next] at sending
        cases sending
      · rw [moved.others x self] at sending
        exact self (orderly.sole x w (by rw [sending]; rfl) (by rw [own]; rfl))

/-- A step of any writer keeps all of that. -/
theorem step (proper : v.Proper) (orderly : v.Orderly) (moved : Step now w v v') : v'.Proper where
  fits x := by
    -- Only the writer that moves may be about something new.
    by_cases self : x = w
    · rw [self]
      exact moved.deed.fits (proper.fits w)
    · rw [moved.others x self]
      exact proper.fits x
  sent := proper.sent_step moved
  last := proper.last_step orderly moved

end Proper

/-- Some writers take steps, one after the other, others are stopped, and the transport behaves as
it likes. -/
inductive Steps (now : Nat) (acts stops : Writer → Prop) (v : WriteSide) :
    WriteSide → Prop where
  | none : Steps now acts stops v v
  | step {u u' : WriteSide} {w : Writer} (moved : Steps now acts stops v u) (allowed : acts w)
      (last : Step now w u u') : Steps now acts stops v u'
  | stopped {u u' : WriteSide} {w : Writer} (moved : Steps now acts stops v u) (allowed : stops w)
      (last : Step now w u u') (silent : u'.outlet.sent = u.outlet.sent) : Steps now acts stops v u'
  | rewired {u : WriteSide} (moved : Steps now acts stops v u) (wire : WireState) :
      Steps now acts stops v { u with outlet := { u.outlet with wire } }

namespace Steps

variable {v v' u : WriteSide} {acts stops : Writer → Prop} {now : Nat}

theorem single {w : Writer} (moved : Step now w v v') (allowed : acts w) :
    Steps now acts stops v v' :=
  .step .none allowed moved

theorem trans (first : Steps now acts stops v u) (second : Steps now acts stops u v') :
    Steps now acts stops v v' := by
  -- The second run is put behind the first step by step.
  induction second with
  | none => exact first
  | step _ allowed last ih => exact .step ih allowed last
  | stopped _ allowed last silent ih => exact .stopped ih allowed last silent
  | rewired _ wire ih => exact .rewired ih wire

/-- What each step of a writer keeps is kept, if it does not depend on how the transport behaves. -/
theorem keeps {P : WriteSide → Prop} (moved : Steps now acts stops v v') (start : P v)
    (step : ∀ {u u' w}, Step now w u u' → P u → P u')
    (rewired : ∀ {u} wire, P u → P { u with outlet := { u.outlet with wire } }) : P v' := by
  -- A stop is a step as well, of the one who is stopped.
  induction moved with
  | none => exact start
  | step _ _ last ih => exact step last ih
  | stopped _ _ last _ ih => exact step last ih
  | rewired _ wire ih => exact rewired wire ih

/-- Steps keep the write side in order. -/
theorem sound (moved : Steps now acts stops v v') (orderly : v.Orderly) (proper : v.Proper) :
    v'.Orderly ∧ v'.Proper := by
  -- Order is kept by each step, and what fits is kept as long as there is order.
  refine moved.keeps (P := fun u => u.Orderly ∧ u.Proper) ⟨orderly, proper⟩ ?_ ?_
  · intro u u' w last held
    exact ⟨held.1.step last, held.2.step held.1 last⟩
  · -- How the transport behaves is nothing to what is known.
    rintro u wire ⟨⟨once, inLine, writing, taken, sole⟩, fits, sent, closing⟩
    exact ⟨⟨once, inLine, writing, taken, sole⟩, fits, sent, closing⟩

/-- A write half that is gone stays gone. -/
theorem gone (moved : Steps now acts stops v v') (gone : v.outlet.writable = false) :
    v'.outlet.writable = false :=
  moved.keeps (P := fun u => u.outlet.writable = false) gone (fun last => last.deed.gone)
    fun _ held => held

/-- What the transport took stays the first that it took. -/
theorem grows (moved : Steps now acts stops v v') : v.outlet.sent <+: v'.outlet.sent := by
  refine moved.keeps (P := fun u => v.outlet.sent <+: u.outlet.sent) (List.prefix_refl _) ?_
    fun _ held => held
  -- Each step adds a frame at the end, or none.
  intro u u' w last held
  rcases last.deed.sent with same | ⟨frame, _, same, -⟩
  · rw [same]
    exact held
  · rw [same]
    exact held.trans (List.prefix_append _ _)

/-- Once the write half is gone and nobody who took it still closes, nothing is written. -/
theorem silent (moved : Steps now acts stops v v') (orderly : v.Orderly)
    (gone : v.outlet.writable = false) (idle : ∀ w, Errand.hasTaken (v.errand w) = false) :
    v'.outlet.log = v.outlet.log := by
  -- Along the steps the write half stays gone, and nobody can take it any more.
  have held := moved.keeps
    (P := fun u => u.Orderly ∧ u.outlet.writable = false ∧
      (∀ w, Errand.hasTaken (u.errand w) = false) ∧ u.outlet.log = v.outlet.log)
    ⟨orderly, gone, idle, rfl⟩ ?_ ?_
  · exact held.2.2.2
  · rintro u u' w last ⟨orderly, gone, idle, same⟩
    refine ⟨orderly.step last, last.deed.gone gone, fun x => ?_,
      (last.silent orderly gone (idle w)).trans same⟩
    by_cases self : x = w
    · rw [self]
      exact last.deed.not_taken gone (idle w)
    · rw [last.others x self]
      exact idle x
  · rintro u wire ⟨⟨once, inLine, writing, taken, sole⟩, gone, idle, same⟩
    exact ⟨⟨once, inLine, writing, taken, sole⟩, gone, idle, same⟩

/-- Once the write half is gone, only who closes can still put anything on the connection. -/
theorem sentBy_gone (moved : Steps now acts stops v v') (orderly : v.Orderly) (proper : v.Proper)
    (gone : v.outlet.writable = false) {x : Writer}
    (open_ : ∀ frame, (OutFrame.close frame).suits x = false) :
    v'.outlet.sentBy x = v.outlet.sentBy x := by
  -- Of those who act without the write half only a closing puts a frame down, and this writer is
  -- none.
  have held := moved.keeps
    (P := fun u => (u.Orderly ∧ u.Proper) ∧ u.outlet.writable = false ∧
      u.outlet.sentBy x = v.outlet.sentBy x) ⟨⟨orderly, proper⟩, gone, rfl⟩ ?_ ?_
  · exact held.2.2
  · rintro u u' w last ⟨⟨orderly, proper⟩, gone, same⟩
    refine ⟨⟨orderly.step last, proper.step orderly last⟩, last.deed.gone gone, ?_⟩
    by_cases own : x = w
    · subst own
      rcases last.deed.sent with
        silent | ⟨frame, deadline, -, ⟨writes, -⟩ | ⟨f, -, closes, -⟩⟩
      · rw [Outlet.sentBy, silent, ← Outlet.sentBy, same]
      · -- Who writes has a write half.
        have there := (orderly.writing x (by rw [writes]; rfl)).2
        rw [gone] at there
        cases there
      · have fits := proper.fits x
        rw [closes] at fits
        have closes : (OutFrame.close f).suits x = true := fits
        rw [open_ f] at closes
        cases closes
    · exact (last.sentBy own).trans same
  · rintro u wire ⟨⟨⟨once, inLine, writing, taken, sole⟩, fits, sent, closing⟩,
      gone, same⟩
    exact ⟨⟨⟨once, inLine, writing, taken, sole⟩, fits, sent, closing⟩, gone, same⟩

/-- The frames of those who do not act stay as they are. -/
theorem sentBy (moved : Steps now acts stops v v') {x : Writer} (other : ¬ acts x) :
    v'.outlet.sentBy x = v.outlet.sentBy x := by
  induction moved with
  | none => rfl
  | @step _ _ w _ allowed last ih =>
    -- The writer that acts is another one.
    have differ : x ≠ w := fun self => other (self ▸ allowed)
    exact (last.sentBy differ).trans ih
  | stopped _ _ _ silent ih => rw [Outlet.sentBy, silent, ← Outlet.sentBy, ih]
  | rewired _ _ ih => exact ih

end Steps

end WriteSide

end WatchRelay
