import WatchRelay.Proofs.Session.Failing
import WatchRelay.Proofs.Session.Intake

/-! Acknowledgments: each thing a client asks for is acknowledged once, in the order of asking. -/

namespace WatchRelay

/-- The acknowledgment a frame carries, if it carries one. -/
def OutFrame.acknowledgment? : OutFrame → Option Message
  | .message m => if m.op.isAcknowledgment then some m else none
  | .ping | .close _ => none

/-- The acknowledgments the transport took, in order, whoever wrote them. -/
def Outlet.acknowledgments (o : Outlet) : List Message :=
  o.frames.filterMap OutFrame.acknowledgment?

/-- A frame that is taken is acknowledged with if it carries an acknowledgment. -/
theorem Outlet.acknowledgments_note_frame (o : Outlet) (now : Nat) (frame : OutFrame) (w : Writer) :
    (o.note now (.frame frame w)).acknowledgments =
      o.acknowledgments ++ frame.acknowledgment?.toList := by
  simp only [acknowledgments, frames, sent_note_frame, List.map_append, List.filterMap_append]
  cases answer : frame.acknowledgment? <;> simp [answer]

/-- Letting the write half go takes nothing back. -/
theorem Outlet.acknowledgments_discard (o : Outlet) (now : Nat) :
    (o.discard now).acknowledgments = o.acknowledgments := by
  simp only [acknowledgments, frames, sent_discard]

/-- A frame that suits the event loop carries an acknowledgment, and no other does. -/
theorem OutFrame.suits_acknowledgment {frame : OutFrame} {w : Writer}
    (suits : frame.suits w = true) :
    frame.acknowledgment?.map .message = if w == .eventLoop then some frame else none := by
  cases frame with
  | message m =>
    cases w with
    | eventLoop =>
      have answers : m.op.isAcknowledgment = true := suits
      simp [acknowledgment?, answers]
    | runner id =>
      -- No operation both reports a change and acknowledges a request.
      have reports : m.op.isNotification = true := suits
      cases op : m.op <;>
        simp_all [acknowledgment?, Operation.isAcknowledgment, Operation.isNotification]
    | _ => cases suits
  | ping => cases w <;> first | rfl | cases suits
  | close f => cases w <;> first | rfl | cases suits

/-- The frames of the event loop are the acknowledgments on the connection. -/
theorem WriteSide.Proper.sentBy_eventLoop {v : WriteSide} (proper : v.Proper) :
    v.outlet.sentBy .eventLoop = v.outlet.acknowledgments.map .message := by
  have general (sent : List (OutFrame × Writer)) (suits : ∀ x ∈ sent, x.1.suits x.2 = true) :
      (sent.filter fun x => x.2 == .eventLoop).map (·.1) =
        ((sent.map (·.1)).filterMap OutFrame.acknowledgment?).map .message := by
    -- The induction is on the frames, each of which suits its writer.
    induction sent with
    | nil => rfl
    | cons x rest ih =>
      have own := OutFrame.suits_acknowledgment (suits x (List.mem_cons_self ..))
      have ih := ih fun y member => suits y (List.mem_cons_of_mem _ member)
      rw [List.map_cons, List.filterMap_cons, List.filter_cons]
      -- The first frame is in both or in neither.
      cases answer : x.1.acknowledgment? with
      | none =>
        rw [answer] at own
        have other : (x.2 == Writer.eventLoop) = false := by
          cases same : x.2 == Writer.eventLoop <;> simp_all
        simpa [other] using ih
      | some m =>
        rw [answer] at own
        have same : (x.2 == Writer.eventLoop) = true := by
          cases same : x.2 == Writer.eventLoop <;> simp_all
        simp only [same, if_true, Option.map_some, Option.some.injEq] at own
        simp [same, ih, ← own]
  exact general v.outlet.sent proper.sent

/-- The acknowledgment that the event loop writes and the transport has not taken yet. -/
def LoopPhase.unsent : LoopPhase → List Message
  | .acknowledging m (.queued) _ | .acknowledging m (.sending _) _ => [m]
  | _ => []

namespace Session

variable {s s' s₀ : Session} {e e' e₀ : Surroundings} {past : List Occasion}

/-- The acknowledgments on the connection are the first of those that are due; as long as the write
half is there, all are but the one that is about to be written. -/
structure Acknowledged (due : List Message) (s : Session) : Prop where
  first : s.outlet.acknowledgments <+: due
  all : s.outlet.writable = true → s.outlet.acknowledgments ++ s.loop.unsent = due

namespace Acknowledged

variable {due : List Message}

/-- Nothing is acknowledged where the event loop does nothing on the connection. -/
theorem congr (held : Acknowledged due s)
    (same : s'.outlet.acknowledgments = s.outlet.acknowledgments)
    (there : s'.outlet.writable = true → s.outlet.writable = true)
    (unsent : s'.loop.unsent = s.loop.unsent) : Acknowledged due s' := by
  -- What is on the connection and what is still to be written are the same.
  refine ⟨?_, fun writable => ?_⟩
  · rw [same]
    exact held.first
  · rw [same, unsent]
    exact held.all (there writable)

/-- Nothing is acknowledged where the event loop leaves its place. -/
private theorem leaves (held : Acknowledged due s) (nothing : s.loop.unsent = [])
    (outlet : s'.outlet = s.outlet) (unsent : s'.loop.unsent = []) : Acknowledged due s' :=
  held.congr (congrArg _ outlet) (fun there => by rwa [outlet] at there) (unsent.trans nothing.symm)

/-- Nothing is due any more where the write half is gone. -/
theorem of_gone (held : Acknowledged due s)
    (same : s'.outlet.acknowledgments = s.outlet.acknowledgments)
    (gone : s'.outlet.writable = false) : Acknowledged due s' := by
  -- Without the write half nothing more is promised.
  refine ⟨?_, fun writable => ?_⟩
  · rw [same]
    exact held.first
  · rw [gone] at writable
    cases writable

/-- A step of writing an acknowledgment. -/
private theorem step_wrote {m : Message} {stage stage' : WriteStage} {o' : Outlet}
    {start : Option (ResourceKind × String)} (held : Acknowledged due s) (sound : s.Sound)
    (answers : s.loop = .acknowledging m stage start)
    (writes : s.outlet.Writes e.now .eventLoop (.message m) stage o' (.on stage')) :
    Acknowledged due { s with outlet := o', loop := .acknowledging m stage' start } := by
  have own := errand_acknowledging answers
  -- Getting the turn leaves the acknowledgment where it was.
  cases writes with
  | turn _ _ => exact held.congr rfl id (by rw [answers]; rfl)
  | accepted deadline =>
    -- The write half is there, so the acknowledgment was the only one not taken yet.
    have begun : Errand.isWriting (s.errand .eventLoop) = true := by rw [own]; rfl
    have there : s.outlet.writable = true := (sound.orderly.writing .eventLoop begun).2
    have fits : Errand.Fits .eventLoop (s.errand .eventLoop) := sound.proper.fits .eventLoop
    rw [own] at fits
    have carries : OutFrame.acknowledgment? (.message m) = some m := if_pos fits.2
    have all := held.all there
    rw [answers] at all
    have taken : (s.outlet.note e.now (.frame (.message m) .eventLoop)).acknowledgments = due := by
      rw [Outlet.acknowledgments_note_frame, carries]
      exact all
    refine ⟨?_, fun _ => ?_⟩
    · exact ⟨[], (List.append_nil _).trans taken⟩
    · exact (List.append_nil _).trans taken

/-- A step in which the writing of an acknowledgment ends: it was on the connection before the
flush, or the write half is gone now. -/
private theorem step_answered {m : Message} {stage : WriteStage} {o' : Outlet} {ok : Bool}
    {f : Option SessionFailure} {start : Option (ResourceKind × String)}
    (held : Acknowledged due s) (answers : s.loop = .acknowledging m stage start)
    (writes : s.outlet.Writes e.now .eventLoop (.message m) stage o' (.done ok f)) :
    Acknowledged due (s.acknowledged o' f start) := by
  have outlet : (s.acknowledged o' f start).outlet = o' := by cases start <;> rfl
  have unsent : (s.acknowledged o' f start).loop.unsent = [] := by cases start <;> rfl
  -- The answer is on the connection, or the write half is gone.
  cases writes with
  | refused _ gone => exact held.of_gone (by rw [outlet]; rfl) (by rw [outlet]; exact gone)
  | flushed deadline =>
    refine held.congr (by rw [outlet]; rfl) (by rw [outlet]; exact id) ?_
    rw [unsent, answers]
    rfl
  | failed _ _ =>
    refine held.of_gone ?_ (by rw [outlet]; rfl)
    rw [outlet]
    exact Outlet.acknowledgments_discard s.outlet e.now

/-- A step in which a request is taken: its acknowledgment is due now, and about to be written. -/
private theorem step_dispatched {t : Session} {request : Request} (held : Acknowledged due s)
    (nothing : s.loop.unsent = []) (outlet : t.outlet = s.outlet) (loop : t.loop = s.loop)
    (acts : Dispatches t request s') :
    Acknowledged (due ++ request.acknowledgment?.toList) s' := by
  -- What is due now is the answer to this request, and the loop begins to write it.
  cases acts with
  | ignored silent =>
    rw [silent, Option.toList_none, List.append_nil]
    exact held.congr (by rw [outlet]) (by rw [outlet]; exact id) (by rw [loop])
  | @acknowledged u m answer released start =>
    have outlet : u.outlet = s.outlet := (work_of_released released).outlet.trans outlet
    have same : u.outlet.acknowledgments = s.outlet.acknowledgments := by rw [outlet]
    rw [answer]
    refine ⟨?_, fun there => ?_⟩
    · show u.outlet.acknowledgments <+: due ++ [m]
      rw [same]
      exact held.first.trans (List.prefix_append _ _)
    · -- As the loop was writing nothing, all that was due before is on the connection.
      have before : s.outlet.writable = true := by rw [← outlet]; exact there
      have all := held.all before
      rw [nothing, List.append_nil] at all
      show u.outlet.acknowledgments ++ [m] = due ++ [m]
      rw [same, all]

/-- A step of the event loop acknowledges what it has taken before, and takes what is due next. -/
theorem step_loop (held : Acknowledged due s) (sound : s.Sound) (moved : s.LoopSteps e s' e') :
    Acknowledged (due ++ (s.takes?.bind Request.acknowledgment?).toList) s' := by
  have idle (none : s.takes? = none) :
      due ++ (s.takes?.bind Request.acknowledgment?).toList = due := by simp [none]
  have nothing (selects : s.loop = .selecting) : s.loop.unsent = [] := by rw [selects]; rfl
  -- A loop that leaves takes nothing, though something may wait in the queue.
  cases moved with
  | told selects told =>
    rw [idle (by simp [takes?, selects, told])]
    exact held.leaves (nothing selects) (leave_work s s.alarms .away e.now).outlet rfl
  | failed selects _ alarm =>
    rw [idle (by simp [takes?, selects, alarm])]
    exact held.leaves (nothing selects) (leave_work s _ _ e.now).outlet rfl
  | @dispatched request rest selects untold calm waiting =>
    have takes : s.takes? = some request := by simp [takes?, selects, untold, calm, waiting]
    let t := { s with receiver := { s.receiver with queue := rest } }
    rw [takes, Option.bind_some]
    exact held.step_dispatched (t := t) (nothing selects) rfl rfl (t.dispatch_dispatches request)
  | ended selects _ _ empty _ =>
    rw [idle (by simp [takes?, selects, empty])]
    exact held.leaves (nothing selects) (leave_work s s.alarms s.closeCode e.now).outlet rfl
  | reaped selects _ _ empty _ _ =>
    rw [idle (by simp [takes?, selects, empty])]
    exact held.congr rfl id rfl
  | wrote answers writes =>
    rw [idle (by simp [takes?, answers])]
    exact held.step_wrote sound answers (Outlet.stepWrite_writes writes)
  | @answered m stage o' ok f start answers writes =>
    rw [idle (by simp [takes?, answers])]
    exact held.step_answered answers (Outlet.stepWrite_writes writes)
  | drained drains _ =>
    rw [idle (by simp [takes?, drains])]
    exact held.congr rfl id (by rw [drains]; rfl)
  | aborted drains _ =>
    rw [idle (by simp [takes?, drains])]
    -- Giving up places in line acknowledges nothing.
    refine held.congr ?_ ?_ (by rw [drains]; rfl)
    · exact abortRunners_outlet Outlet.acknowledgments (fun _ _ => rfl) sound.numbered e
    · show (s.abortRunners e).1.outlet.writable = true → _
      rw [abortRunners_outlet Outlet.writable (fun _ _ => rfl) sound.numbered e]
      exact id

/-- Every move keeps the acknowledgments to what is due. -/
theorem step {m : Move} (held : Acknowledged due s) (sound : s.Sound) (moved : s.Moves e m s' e') :
    Acknowledged (due ++ ((Occasion.taken? ⟨s, e, m⟩).bind Request.acknowledgment?).toList)
      s' := by
  -- Only the event loop takes requests and acknowledges them.
  by_cases own : m = .task .eventLoop
  · subst own
    cases moved with
    | looped steps => exact held.step_loop sound steps
  · have idle : Occasion.taken? ⟨s, e, m⟩ = none := taken?_other own
    have others : ¬ m.acts .eventLoop := by
      cases m with
      | task t => cases t <;> simp_all [Move.acts, Task.writer?]
      | _ => exact id
    rw [idle, Option.bind_none, Option.toList_none, List.append_nil]
    -- Nobody else writes an acknowledgment.
    have steps := moved.writeSide sound.numbered
    have after := moved.sound sound
    have same : s'.outlet.acknowledgments.map OutFrame.message =
        s.outlet.acknowledgments.map OutFrame.message := by
      rw [show s'.outlet.acknowledgments.map OutFrame.message = _ from
          after.proper.sentBy_eventLoop.symm,
        show s.outlet.acknowledgments.map OutFrame.message = _ from
          sound.proper.sentBy_eventLoop.symm]
      exact steps.sentBy others
    refine held.congr ((List.map_inj_right fun _ _ => OutFrame.message.inj).mp same) ?_ ?_
    · -- A write half that is there now was there before.
      intro there
      cases before : s.outlet.writable with
      | true => rfl
      | false =>
        have gone : s'.outlet.writable = false := steps.gone before
        rw [gone] at there
        cases there
    · cases moved with
      | looped _ => exact absurd rfl own
      | closed steps => cases steps <;> rfl
      | _ => rfl

end Acknowledged

/-- The acknowledgments due to the requests the event loop took. -/
def due (past : List Occasion) : List Message :=
  past.filterMap fun o => o.taken?.bind Request.acknowledgment?

theorem due_eq (past : List Occasion) :
    due past = (taken past).filterMap Request.acknowledgment? := by
  rw [due, taken, List.filterMap_filterMap]

/-- What the client asked for in the frames that were read, in order. -/
def controls (most : Nat) (past : List Occasion) : List Control :=
  (reads past).filterMap (InFrame.control? most)

/-- After any run, the acknowledgments are the first of those that are due. -/
theorem Run.acknowledged (begins : Begins s₀) (run : Run s₀ e₀ past s e) :
    Acknowledged (due past) s := by
  -- Each move adds to what is due what it adds to the answers.
  have held := run.traces (P := fun past s _ => s.Sound ∧ Acknowledged (due past) s)
    ⟨begins.sound, ?_⟩ ?_
  · exact held.2
  · -- Nothing was asked for and nothing is written yet.
    refine ⟨?_, fun _ => ?_⟩ <;> cases begins <;> first | exact List.prefix_refl _ | rfl
  · rintro past s s' e e' m moved ⟨sound, held⟩
    have moved := move_moves moved
    refine ⟨moved.sound sound, ?_⟩
    rw [due, filterMap_concat]
    exact held.step sound moved

/-- The acknowledgments due to all requests that were read are those due to what the client asked
for. -/
theorem acknowledgments_controls (most : Nat) (past : List Occasion) :
    ((reads past).filterMap (InFrame.request? most)).filterMap Request.acknowledgment? =
      (controls most past).map Control.acknowledgment := by
  -- Frame by frame, what is asked for is answered alike.
  rw [controls, List.filterMap_filterMap, List.map_filterMap]
  congr 1
  funext frame
  exact InFrame.acknowledgment_request most frame

/-- Whether the event loop leaves because nothing more comes: nobody told it to, nothing failed, and
the client has parted or its stream has ended, with everything before that taken. -/
structure Occasion.EndsCleanly (o : Occasion) : Prop where
  move : o.move = .task .eventLoop
  selects : o.session.loop = .selecting
  untold : o.session.cancelled = false
  calm : o.session.alarms.queue = []
  empty : o.session.receiver.queue = []
  parted : o.session.receiver.phase = .finished .peerClosed

/-- The event loop that still goes on after a step did so before and has not closed the queue. -/
theorem LoopSteps.open_ (moved : s.LoopSteps e s' e') (goes : s'.loopFinished = false) :
    s.loopFinished = false ∧ s'.receiver.taken = s.receiver.taken := by
  -- Only the end of the loop closes the queue, and a loop at its end does not go on.
  cases moved with
  | told selects _ =>
    have same := (leave_work s s.alarms .away e.now).receiver
    exact ⟨by simp [loopFinished, selects], congrArg _ same⟩
  | failed selects _ _ =>
    exact ⟨by simp [loopFinished, selects], congrArg _ (leave_work s _ _ e.now).receiver⟩
  | @dispatched request rest selects _ _ _ =>
    have acts :=
      dispatch_dispatches { s with receiver := { s.receiver with queue := rest } } request
    exact ⟨by simp [loopFinished, selects], by rw [acts.receiver]⟩
  | ended selects _ _ _ _ =>
    have same := (leave_work s s.alarms s.closeCode e.now).receiver
    exact ⟨by simp [loopFinished, selects], congrArg _ same⟩
  | reaped selects _ _ _ _ _ => exact ⟨by simp [loopFinished, selects], rfl⟩
  | wrote answers _ => exact ⟨by simp [loopFinished, answers], rfl⟩
  | @answered _ _ _ _ _ start answers _ =>
    exact ⟨by simp [loopFinished, answers], by cases start <;> rfl⟩
  | drained _ _ => cases goes
  | aborted _ _ => cases goes

/-- The event loop that still goes on after a move did so before and has not closed the queue. -/
theorem Moves.open_ {m : Move} (moved : s.Moves e m s' e') (goes : s'.loopFinished = false) :
    s.loopFinished = false ∧ s'.receiver.taken = s.receiver.taken := by
  cases moved with
  | received steps => cases steps <;> exact ⟨goes, rfl⟩
  | looped steps => exact steps.open_ goes
  | closed steps =>
    cases steps with
    | aborted _ _ =>
      -- Stopping the receiver is nothing to the queue.
      refine ⟨goes, ?_⟩
      show s.receiver.abort.taken = s.receiver.taken
      unfold Receiver.abort
      split <;> rfl
    | _ => exact ⟨goes, rfl⟩
  | arrived frame =>
    refine ⟨goes, ?_⟩
    show (s.receiver.arrive frame).taken = s.receiver.taken
    unfold Receiver.arrive
    split <;> rfl
  | _ => exact ⟨goes, rfl⟩

/-- Requests are taken from the queue as long as the event loop goes on. -/
theorem Run.receiver_taken (begins : Begins s₀) (run : Run s₀ e₀ past s e)
    (goes : s.loopFinished = false) : s.receiver.taken = true := by
  refine run.keeps (P := fun s _ => s.loopFinished = false → s.receiver.taken = true) ?_ ?_ goes
  · intro goes
    -- A session whose event loop was given up has a queue that is closed from the start.
    cases begins with
    | discarded => cases goes
    | _ => rfl
  · intro s s' e e' m moved held goes
    obtain ⟨before, same⟩ := (move_moves moved).open_ goes
    exact same.trans (held before)

/-- Where the event loop leaves because nothing more comes and no write has failed, everything the
client asked for is acknowledged. -/
theorem Run.all_acknowledged (begins : Begins s₀) (run : Run s₀ e₀ past s e) {m : Move}
    (ends : Occasion.EndsCleanly ⟨s, e, m⟩) (unfailed : ∀ o ∈ past, o.failsWrite = false) :
    s.outlet.acknowledgments =
      (controls s.receiver.maxMessageSize past).map Control.acknowledgment := by
  have there : s.outlet.writable = true := by
    cases writable : s.outlet.writable with
    | true => rfl
    | false =>
      -- Otherwise a write had failed, or the session were told to end.
      rcases run.writable begins writable with told | ⟨o, member, fails⟩
      · rw [show s.cancelled = false from ends.untold] at told
        cases told
      · rw [unfailed o member] at fails
        cases fails
  have all := (run.acknowledged begins).all there
  have selects : s.loop = .selecting := ends.selects
  have parted : s.receiver.phase = .finished .peerClosed := ends.parted
  have empty : s.receiver.queue = [] := ends.empty
  have whole :=
    (run.intake begins).all (run.receiver_taken begins (by simp [loopFinished, selects]))
    (by simp [Receiver.isBrokenOff, parted])
  -- Nothing waits on the way from the client to the connection.
  simp only [selects, LoopPhase.unsent, List.append_nil] at all
  simp only [empty, Receiver.inHand, parted, List.append_nil] at whole
  rw [all, due_eq, whole, acknowledgments_controls]

/-- Once receiving has ended, a run reads no more frames and only adds to what is acknowledged. -/
theorem Run.after_receiving (sound : s₀.Sound) (run : Run s₀ e₀ past s e)
    (still : s₀.receiver.isRunning = false) :
    reads past = [] ∧ s₀.outlet.acknowledgments <+: s.outlet.acknowledgments := by
  have held := run.traces
    (P := fun past s _ => s.Sound ∧ s.receiver.isRunning = false ∧ reads past = [] ∧
      s₀.outlet.acknowledgments <+: s.outlet.acknowledgments)
    ⟨sound, still, rfl, List.prefix_refl _⟩ ?_
  · exact held.2.2
  · rintro past s s' e e' m moved ⟨sound, still, unread, grows⟩
    have moved := move_moves moved
    -- What has ended reads nothing, and stays at its end.
    obtain ⟨silent, still'⟩ := (moved.receiver sound.numbered).ended still
    refine ⟨moved.sound sound, still', ?_, ?_⟩
    · rw [reads, filterMap_concat, silent]
      simpa [reads] using unread
    · have more :=
        ((moved.sent_grows sound.numbered).map (·.1)).filterMap OutFrame.acknowledgment?
      exact grows.trans more

/-- The limit of a message's size is the same at the end of a run as at its start. -/
theorem Run.limit (sound : s₀.Sound) (run : Run s₀ e₀ past s e) :
    s.receiver.maxMessageSize = s₀.receiver.maxMessageSize := by
  have held := run.keeps
    (P := fun s _ => s.Sound ∧ s.receiver.maxMessageSize = s₀.receiver.maxMessageSize)
    ⟨sound, rfl⟩ ?_
  · exact held.2
  · -- No move changes the limit.
    rintro s s' e e' m moved ⟨sound, same⟩
    have moved := move_moves moved
    exact ⟨moved.sound sound, (moved.receiver sound.numbered).limit.trans same⟩

/-- Requests are acknowledged in the order in which they arrived.

The frames that were read are the first that arrived.
The acknowledgments are those of the first things the client asked for in them, in that order.

They repeat the kind as the client wrote it, and they are all that the event loop writes.

Where the event loop left because the client had parted, nothing goes without if no write failed. -/
theorem acknowledgments_in_order (begins : Begins s₀) (run : Run s₀ e₀ past s e) :
    let asked := controls s.receiver.maxMessageSize past
    reads past <+: arrivals past ∧
    (∃ k ≤ asked.length,
      s.outlet.acknowledgments = (asked.take k).map Control.acknowledgment) ∧
    (∀ c ∈ asked, c.acknowledgment.kind.text = c.kind ∧ c.acknowledgment.project = "" ∧
      c.acknowledgment.payload = none) ∧
    s.outlet.sentBy .eventLoop = s.outlet.acknowledgments.map .message ∧
    ∀ before o after, past = before ++ o :: after → o.EndsCleanly →
      (∀ p ∈ before, p.failsWrite = false) →
      s.outlet.acknowledgments = asked.map Control.acknowledgment := by
  intro asked
  have intake := run.intake begins
  have sound := run.sound begins
  have due_prefix : s.outlet.acknowledgments <+: asked.map Control.acknowledgment := by
    -- What is acknowledged was taken, and what was taken was read.
    refine (run.acknowledged begins).first.trans ?_
    rw [due_eq, ← acknowledgments_controls]
    exact ((List.prefix_append _ _).trans intake.queued).filterMap _
  refine ⟨(List.prefix_append _ _).trans intake.first, ?_, ?_,
    sound.proper.sentBy_eventLoop, ?_⟩
  · refine ⟨s.outlet.acknowledgments.length, by simpa using due_prefix.length_le, ?_⟩
    rw [List.map_take]
    exact List.prefix_iff_eq_take.mp due_prefix
  · intro c _
    refine ⟨c.kind_acknowledgment, ?_, ?_⟩ <;> cases c <;> rfl
  · intro before o after same ends unfailed
    subst same
    obtain ⟨s₁, e₁, first, moved, later⟩ := run.split
    have rest : Run o.session o.env (o :: after) s e := .append (.next .start moved) later
    have still : o.session.receiver.isRunning = false := by
      simp [Receiver.isRunning, ends.parted]
    obtain ⟨unread, grows⟩ := rest.after_receiving (first.sound begins) still
    have all := first.all_acknowledged begins ends unfailed
    -- Nothing is read from there on, so everything was asked for before.
    have asked_before : asked = controls o.session.receiver.maxMessageSize before := by
      simp only [asked, controls, rest.limit (first.sound begins)]
      rw [reads, List.filterMap_append, ← reads, ← reads, unread, List.append_nil]
    rw [← asked_before] at all
    refine due_prefix.eq_of_length_le ?_
    rw [← all]
    exact grows.length_le

/-- A client that subscribes to a kind nobody knows, pings and parts gets its acknowledgment. -/
theorem acknowledgments_in_order_parted :
    ∃ past s e, Run (.start {} default .clear 0 false) (.start (.of (.played .live))) past s e ∧
      controls s.receiver.maxMessageSize past = [.subscribe "Nonsense"] ∧
      s.outlet.acknowledgments = [⟨.subscribed, .unknown "Nonsense", "", none⟩] := by
  let asks : InFrame := .text "\x7b\"op\":\"subscribe\",\"kind\":\"Nonsense\"\x7d"
  have plays : ∃ before t e₁ s e₂,
      play (.start {} default .clear 0 false) (.start (.of (.played .live)))
        [.arrive asks, .task .receiver, .task .receiver, .arrive .ping, .task .receiver,
          .task .eventLoop, .task .eventLoop, .task .eventLoop, .task .eventLoop,
          .arrive .close, .task .receiver] = some (before, t, e₁) ∧
      t.move e₁ (.task .eventLoop) = some (s, e₂) ∧
      Occasion.EndsCleanly ⟨t, e₁, .task .eventLoop⟩ ∧
        (∀ p ∈ before, p.failsWrite = false) ∧
      reads (before ++ [⟨t, e₁, .task .eventLoop⟩]) = [asks, .ping, .close] ∧
      s.receiver.maxMessageSize = 8192 :=
    ⟨_, _, _, _, _, rfl, rfl, ⟨rfl, rfl, rfl, rfl, rfl, rfl⟩, by decide, rfl, rfl⟩
  obtain ⟨before, t, e₁, s, e₂, played, left, ends, unfailed, read, limit⟩ := plays
  have run := (Run.of_play played).next left
  have asked : controls s.receiver.maxMessageSize (before ++ [⟨t, e₁, .task .eventLoop⟩]) =
      [.subscribe "Nonsense"] := by
    rw [controls, read, limit]
    rfl
  -- The event loop has left with its last step, so everything is acknowledged.
  have all := (acknowledgments_in_order (.attended _ _ _ _ _) run).2.2.2.2 before _ [] rfl ends
    unfailed
  rw [asked] at all
  exact ⟨_, s, e₂, run, asked, all⟩

end Session

end WatchRelay
