import WatchRelay.Connection.Reception
import WatchRelay.Proofs.Connection.Incoming

/-! What a receiver hands on and how it ends, whatever comes from the client, however slowly its
requests are taken, and whenever it is told to stop. -/

namespace WatchRelay

namespace Reception

/-- What happens to a reception, one thing at a time. -/
inductive Move where
  /-- The receiver takes a step. -/
  | step
  /-- A frame of the client arrives. -/
  | arrive (frame : InFrame)
  /-- The client's stream ends. -/
  | hangUp
  /-- The consumer takes the first request. -/
  | take
  /-- The consumer goes. -/
  | leave
  /-- The failures that wait are seen. -/
  | see
  /-- The receiver is told to stop. -/
  | cancel
  /-- So many milliseconds pass. -/
  | pass (ms : Nat)

/-- What a move leads to, if it can be made. -/
def move (r : Reception) : Move → Option Reception
  | .step => r.step
  | .arrive frame => some { r with receiver := r.receiver.arrive frame }
  | .hangUp => some { r with receiver := r.receiver.hangUp }
  | .take => r.receiver.take?.map fun (_, receiver) => { r with receiver }
  | .leave => some { r with receiver := r.receiver.close }
  | .see => some r.drainAlarms.2
  | .cancel => some { r with cancelled := true }
  | .pass ms => some { r with now := r.now + ms }

/-- A move, and the reception it met. -/
abbrev Occasion : Type := Trace.Entry Reception Move

namespace Occasion

/-- The frame that arrives, while there is a stream and someone to read it. -/
def arrival? (o : Occasion) : Option InFrame :=
  match o.move with
  | .arrive frame =>
    if o.state.receiver.isRunning && !o.state.receiver.ended then some frame else none
  | _ => none

/-- The frame the receiver reads. -/
def read? (o : Occasion) : Option InFrame :=
  match o.move with
  | .step => o.state.receiver.reads? o.state.cancelled
  | _ => none

/-- The requests a step puts behind those in the queue. -/
def handed (o : Occasion) : List Request :=
  match o.move with
  | .step =>
    (o.state.step.map fun r =>
      r.receiver.queue.drop o.state.receiver.queue.length).getD []
  | _ => []

/-- The request the consumer takes. -/
def taken? (o : Occasion) : Option Request :=
  match o.move with
  | .take => o.state.receiver.queue.head?
  | _ => none

/-- The failures that are seen. -/
def seen (o : Occasion) : List SessionFailure :=
  match o.move with
  | .see => o.state.alarms.queue
  | _ => []

/-- The time of a step of the receiver. -/
def stepTime? (o : Occasion) : Option Nat :=
  match o.move with
  | .step => some o.state.now
  | _ => none

/-- The result a step of the receiver comes to. -/
def verdict? (o : Occasion) : Option ReceiveEnd :=
  match o.move with
  | .step => o.state.step.bind result?
  | _ => none

end Occasion

/-- The frames that arrived in time, in order. -/
def arrivals (past : List Occasion) : List InFrame := past.filterMap Occasion.arrival?

/-- The frames that were read, in order. -/
def reads (past : List Occasion) : List InFrame := past.filterMap Occasion.read?

/-- The requests that were handed on, in order. -/
def handed (past : List Occasion) : List Request := past.flatMap Occasion.handed

/-- The requests the consumer took, in order. -/
def taken (past : List Occasion) : List Request := past.filterMap Occasion.taken?

/-- The failures that were reported, in order, those that are not seen yet at the end. -/
def reported (past : List Occasion) (r : Reception) : List SessionFailure :=
  past.flatMap Occasion.seen ++ r.alarms.queue

/-- When the receiver took its last step; at the start if it has taken none. -/
def lastStep (past : List Occasion) : Nat := (past.filterMap Occasion.stepTime?).getLast?.getD 0

/-- Whether the client was silent for so long: at some step there was nothing to read, though the
stream went on, and the step before was so many milliseconds ago. -/
def FallsSilent (liveness : Nat) (past : List Occasion) : Prop :=
  ∃ before o after, past = before ++ o :: after ∧ o.move = .step ∧
    o.state.receiver.findsSilence o.state.cancelled = true ∧
    lastStep before + liveness ≤ o.state.now

variable {r r' r₀ : Reception} {past : List Occasion} {liveness most room : Nat}

/-- What a run of a reception has come to: where the frames and requests are, which step ended it
and what was reported of it. -/
structure Account (liveness most : Nat) (past : List Occasion) (r : Reception) : Prop where
  limit : r.receiver.maxMessageSize = most
  patience : r.receiver.liveness = liveness
  room : r.alarms.capacity = Alarms.sessionCapacity
  frames : Receiver.Frames most (arrivals past) (reads past) r.receiver
  requests : Receiver.Requests most (reads past) (handed past) (taken past) r.receiver
  verdict : past.filterMap Occasion.verdict? = r.result?.toList
  calm : r.result? ≠ some .failed → reported past r = []
  alarm : r.result? = some .failed → ∃ f, f.isExpected = false ∧ reported past r = [f]
  deadline : ∀ due, r.receiver.phase = .reading due → due = lastStep past + liveness
  unbroken : r.receiver.phase ≠ .aborted

/-- The result tells the phase. -/
theorem result?_eq {result : ReceiveEnd} :
    r.result? = some result ↔ r.receiver.phase = .finished result := by
  unfold result?
  cases r.receiver.phase <;> simp

namespace Account

/-- A receiver without a result is at work. -/
theorem isRunning (account : Account liveness most past r) (unended : r.result? = none) :
    r.receiver.isRunning = true := by
  have unbroken := account.unbroken
  cases phase : r.receiver.phase <;> simp_all [result?, Receiver.isRunning]

/-- After a step of the receiver. -/
theorem step (account : Account liveness most past r) (moved : r.step = some r') :
    Account liveness most (past ++ [⟨r, .step⟩]) r' := by
  have own := moved
  obtain ⟨⟨q, f⟩, steps, rfl⟩ := Option.map_eq_some_iff.mp moved
  have moves := Receiver.step_steps steps
  -- A receiver that takes a step has not ended yet.
  have unended : r.result? = none := by
    unfold result?
    cases moves <;> simp_all
  have calm := account.calm (by simp [unended])
  -- So nothing was reported, seen or not, and only this step can report something.
  obtain ⟨seen, empty⟩ := List.append_eq_nil_iff.mp calm
  obtain ⟨silent, told⟩ := Receiver.report_step moves account.room empty
  refine ⟨?_, ?_, ?_, ?_, ?_, ?_, fun fine => ?_, fun fails => ?_, fun due reads => ?_, ?_⟩
  · cases moves <;> exact account.limit
  · cases moves <;> exact account.patience
  · exact (Alarms.reportAny_capacity r.alarms f).trans account.room
  · rw [arrivals, reads, Trace.filterMap_concat, Trace.filterMap_concat]
    simpa [arrivals, reads, Occasion.arrival?, Occasion.read?] using
      account.frames.step account.limit moves
  · rw [reads, taken, handed, Trace.filterMap_concat, Trace.filterMap_concat, List.flatMap_append,
      List.flatMap_singleton]
    simpa [reads, handed, taken, Occasion.read?, Occasion.taken?, Occasion.handed, own] using
      account.requests.step account.limit moves
  · rw [Trace.filterMap_concat, account.verdict, unended]
    simp [Occasion.verdict?, own]
  · rw [reported, List.flatMap_append, seen]
    exact silent fun fails => fine (result?_eq.mpr fails)
  · rw [reported, List.flatMap_append, seen]
    exact told (result?_eq.mp fails)
  · -- The receiver looks for a frame from now on, and waits so long for it.
    rw [lastStep, Trace.filterMap_concat]
    simp only [Occasion.stepTime?, Option.toList_some, List.getLast?_concat, Option.getD_some]
    have patience := account.patience
    cases moves <;> simp_all [Receiver.finish, Receiver.fail]
  · have unbroken := account.unbroken
    cases moves <;> simp_all [Receiver.finish, Receiver.fail]

/-- A move that is no step of the receiver ends nothing, and the receiver waits as before. -/
private theorem other {m : Move} (account : Account liveness most past r) (own : m ≠ .step)
    (frames : Receiver.Frames most (arrivals (past ++ [⟨r, m⟩])) (reads past) r'.receiver)
    (requests : Receiver.Requests most (reads past) (handed past) (taken (past ++ [⟨r, m⟩]))
      r'.receiver)
    (phase : r'.receiver.phase = r.receiver.phase)
    (limits : r'.receiver.maxMessageSize = r.receiver.maxMessageSize ∧
      r'.receiver.liveness = r.receiver.liveness ∧ r'.alarms.capacity = r.alarms.capacity)
    (alarms : reported (past ++ [⟨r, m⟩]) r' = reported past r) :
    Account liveness most (past ++ [⟨r, m⟩]) r' := by
  have result : r'.result? = r.result? := by simp only [result?, phase]
  -- What is told of steps is told of those before the move.
  have unread : reads (past ++ [⟨r, m⟩]) = reads past := by
    rw [reads, Trace.filterMap_concat]
    cases m <;> first | exact absurd rfl own | exact List.append_nil _
  have kept : handed (past ++ [⟨r, m⟩]) = handed past := by
    rw [handed, List.flatMap_append, List.flatMap_singleton]
    cases m <;> first | exact absurd rfl own | exact List.append_nil _
  have verdict : List.filterMap Occasion.verdict? (past ++ [⟨r, m⟩]) =
      past.filterMap Occasion.verdict? := by
    rw [Trace.filterMap_concat]
    cases m <;> first | exact absurd rfl own | exact List.append_nil _
  have stepped : lastStep (past ++ [⟨r, m⟩]) = lastStep past := by
    rw [lastStep, Trace.filterMap_concat]
    cases m <;>
      first | exact absurd rfl own | exact congrArg (·.getLast?.getD 0) (List.append_nil _)
  refine ⟨limits.1.trans account.limit, limits.2.1.trans account.patience,
    limits.2.2.trans account.room, unread ▸ frames, ?_, ?_, fun fine => ?_, fun fails => ?_,
    fun due waits => ?_, phase ▸ account.unbroken⟩
  · rw [unread, kept]
    exact requests
  · rw [verdict, result, account.verdict]
  · rw [alarms]
    exact account.calm (result ▸ fine)
  · rw [alarms]
    exact account.alarm (result ▸ fails)
  · rw [stepped]
    exact account.deadline due (phase ▸ waits)

/-- What is told of a past that ends with a move that tells nothing. -/
private theorem told_nothing {α : Type} (f : Occasion → Option α) {o : Occasion}
    (none : f o = none) :
    (past ++ [o]).filterMap f = past.filterMap f := by
  rw [Trace.filterMap_concat, none]
  exact List.append_nil _

/-- After any move. -/
theorem next {m : Move} (account : Account liveness most past r) (moved : r.move m = some r') :
    Account liveness most (past ++ [⟨r, m⟩]) r' := by
  -- Only the consumer and whoever hears of failures take anything away.
  have unseen (calm : Occasion.seen ⟨r, m⟩ = []) (same : r'.alarms = r.alarms) :
      reported (past ++ [⟨r, m⟩]) r' = reported past r := by
    rw [reported, reported, List.flatMap_append, List.flatMap_singleton, calm, same,
      List.append_nil]
  cases m with
  | step => exact account.step moved
  | arrive frame =>
    cases moved
    refine account.other (by simp) ?_ ?_ ?_ ?_ (unseen rfl rfl)
    · -- Whether the frame is taken is asked by the receiver and by its account alike.
      rw [arrivals, Trace.filterMap_concat]
      exact account.frames.arrive frame
    · rw [taken, told_nothing _ rfl]
      exact account.requests.same (by unfold Receiver.arrive; split <;> rfl)
        (by unfold Receiver.arrive; split <;> exact fun taken => ⟨taken, rfl⟩)
    · show (r.receiver.arrive frame).phase = _
      unfold Receiver.arrive
      split <;> rfl
    · show (r.receiver.arrive frame).maxMessageSize = _ ∧
        (r.receiver.arrive frame).liveness = _ ∧ _
      unfold Receiver.arrive
      split <;> exact ⟨rfl, rfl, rfl⟩
  | take =>
    obtain ⟨⟨request, q⟩, takes, rfl⟩ := Option.map_eq_some_iff.mp moved
    unfold Receiver.take? at takes
    split at takes
    · next first rest queue =>
      cases takes
      -- What is handed over is the first of the queue.
      refine account.other (by simp) ?_ ?_ rfl ⟨rfl, rfl, rfl⟩ (unseen rfl rfl)
      · rw [arrivals, told_nothing _ rfl]
        exact account.frames.same rfl rfl
      · rw [taken, Trace.filterMap_concat]
        simp only [Occasion.taken?, queue, List.head?_cons, Option.toList_some]
        exact account.requests.take queue
    · cases takes
  | leave =>
    cases moved
    refine account.other (by simp) ?_ ?_ rfl ⟨rfl, rfl, rfl⟩ (unseen rfl rfl)
    · rw [arrivals, told_nothing _ rfl]
      exact account.frames.same rfl rfl
    · -- What is in the queue is lost, for nobody takes it any more.
      rw [taken, told_nothing _ rfl]
      exact account.requests.same rfl fun taken => by cases taken
  | see =>
    cases moved
    refine account.other (by simp) ?_ ?_ rfl ⟨rfl, rfl, rfl⟩ ?_
    · rw [arrivals, told_nothing _ rfl]
      exact account.frames
    · rw [taken, told_nothing _ rfl]
      exact account.requests
    · -- What is seen was waiting to be seen.
      simp [reported, Occasion.seen, drainAlarms]
  | hangUp | cancel | pass _ =>
    cases moved
    refine account.other (by simp) ?_ ?_ rfl ⟨rfl, rfl, rfl⟩ (unseen rfl rfl)
    · rw [arrivals, told_nothing _ rfl]
      exact account.frames.same rfl rfl
    -- The rest touches neither what the receiver reads nor what the consumer takes.
    · rw [taken, told_nothing _ rfl]
      exact account.requests.same rfl fun taken => ⟨taken, rfl⟩

/-- At the start nothing has come in. -/
theorem start (starts : start? liveness most room = some r) : Account liveness most [] r := by
  unfold start? at starts
  split at starts
  · cases starts
    refine ⟨rfl, rfl, rfl, ⟨List.prefix_rfl, fun _ => rfl, fun _ => by simp [reads],
      by simp [reads], fun _ => .inr rfl⟩,
      ⟨fun _ => rfl, fun _ => rfl, [], Nat.zero_le 1, rfl⟩, rfl, fun _ => rfl,
      fun fails => (by cases fails), fun due reads => ?_, by simp [Receiver.new]⟩
    -- The receiver starts at time zero, which is when it has taken its last step, if it took none.
    cases reads
    rfl
  · cases starts

end Account

/-- Where the frames and requests are, and how the receiver has ended, after any run. -/
theorem account (starts : start? liveness most room = some r₀)
    (run : Trace Reception.move r₀ past r) : Account liveness most past r :=
  run.keeps (P := Account liveness most) (Account.start starts) fun _ moved held => held.next moved

namespace Account

/-- A result is what some step has come to. -/
theorem result_iff (account : Account liveness most past r) (result : ReceiveEnd) :
    r.result? = some result ↔ ∃ o ∈ past, Occasion.verdict? o = some result := by
  rw [← List.mem_filterMap, account.verdict]
  simp

end Account

/-- The verdict of an occasion is the one of its step. -/
private theorem verdict?_iff {o : Occasion} {result : ReceiveEnd}
    (made : o.state.move o.move = some r) :
    Occasion.verdict? o = some result ↔
    o.move = .step ∧ r.receiver.phase = .finished result := by
  -- Only a step of the receiver gives a verdict.
  obtain ⟨before, m⟩ := o
  cases m with
  | step =>
    have made : before.step = some r := made
    simp [Occasion.verdict?, made, result?_eq]
  | _ => simp [Occasion.verdict?]

/-- The frame that is read on an occasion is read by its step. -/
private theorem read?_iff {o : Occasion} {frame : InFrame} :
    Occasion.read? o = some frame ↔
      o.move = .step ∧ o.state.receiver.reads? o.state.cancelled = some frame := by
  obtain ⟨before, m⟩ := o
  cases m <;> simp [Occasion.read?]

/-- A step of a run is one of the receiver, which is set up as at the start. -/
private theorem step_of_mem (starts : start? liveness most room = some r₀)
    (run : Trace Reception.move r₀ past r) {o : Occasion} (among : o ∈ past)
    (own : o.move = .step) :
    ∃ r₁ f, o.state.move o.move = some r₁ ∧
      o.state.receiver.step o.state.now o.state.cancelled = some (r₁.receiver, f) ∧
      o.state.receiver.maxMessageSize = most := by
  -- The run is cut before the occasion, and the limit is that of the start.
  obtain ⟨before, after, rfl⟩ := List.append_of_mem among
  obtain ⟨r₁, first, moved, -⟩ := run.split
  obtain ⟨state, move⟩ := o
  cases own
  obtain ⟨⟨q, f⟩, steps, rfl⟩ := Option.map_eq_some_iff.mp moved
  exact ⟨_, f, moved, steps, (account starts first).limit⟩

/-- Where a step that finds something comes to a result, the receiver has that result when it has
found it at some step. -/
private theorem result_iff_finds (starts : start? liveness most room = some r₀)
    (run : Trace Reception.move r₀ past r) {result : ReceiveEnd} (finds : Occasion → Prop)
    (tells : ∀ (o : Occasion) (q : Receiver) (f : Option SessionFailure),
      o.state.receiver.step o.state.now o.state.cancelled = some (q, f) →
      o.state.receiver.maxMessageSize = most → (q.phase = .finished result ↔ finds o)) :
    r.result? = some result ↔ ∃ o ∈ past, o.move = .step ∧ finds o := by
  rw [(account starts run).result_iff]
  -- A result is that of one step, which tells what it found.
  constructor
  · rintro ⟨o, among, comes⟩
    obtain ⟨_, made⟩ := run.met among
    obtain ⟨own, -⟩ := (verdict?_iff made).mp comes
    obtain ⟨r₁, f, made, steps, limit⟩ := step_of_mem starts run among own
    exact ⟨o, among, own, (tells o _ f steps limit).mp ((verdict?_iff made).mp comes).2⟩
  · rintro ⟨o, among, own, found⟩
    obtain ⟨r₁, f, made, steps, limit⟩ := step_of_mem starts run among own
    exact ⟨o, among, (verdict?_iff made).mpr ⟨own, (tells o _ f steps limit).mpr found⟩⟩

/-- A frame that was read was read by some step. -/
private theorem exists_read_iff (result : ReceiveEnd) :
    (∃ o ∈ past, o.move = .step ∧ ∃ frame,
      o.state.receiver.reads? o.state.cancelled = some frame ∧ frame.ends? most = some result) ↔
    ∃ frame ∈ reads past, frame.ends? most = some result := by
  -- The frames that are read are those that a step of the receiver has read.
  constructor
  · rintro ⟨o, among, own, frame, read, ends⟩
    exact ⟨frame, List.mem_filterMap.mpr ⟨o, among, read?_iff.mpr ⟨own, read⟩⟩, ends⟩
  · rintro ⟨frame, read, ends⟩
    obtain ⟨o, among, read⟩ := List.mem_filterMap.mp read
    obtain ⟨own, read⟩ := read?_iff.mp read
    exact ⟨o, among, own, frame, read, ends⟩

/-- A step that finds silence comes a time of `liveness` after the step before. -/
private theorem fallsSilent_iff (starts : start? liveness most room = some r₀)
    (run : Trace Reception.move r₀ past r) :
    FallsSilent liveness past ↔
      ∃ o ∈ past, o.move = .step ∧
        o.state.receiver.findsSilence o.state.cancelled = true := by
  constructor
  · rintro ⟨before, o, after, rfl, own, finds, -⟩
    exact ⟨o, by simp, own, finds⟩
  · rintro ⟨o, among, own, finds⟩
    obtain ⟨r₁, f, -, steps, -⟩ := step_of_mem starts run among own
    obtain ⟨before, after, rfl⟩ := List.append_of_mem among
    obtain ⟨-, first, -, -⟩ := run.split
    refine ⟨before, o, after, rfl, own, finds, ?_⟩
    -- The deadline the receiver has waited for was set by its last step.
    cases phase : o.state.receiver.phase with
    | reading due =>
      rw [← (account starts first).deadline due phase]
      exact Receiver.step_late steps finds phase
    | _ => simp [Receiver.findsSilence, phase] at finds

/-- How receiving ended is told by what was read and found. -/
theorem results (starts : start? liveness most room = some r₀)
    (run : Trace Reception.move r₀ past r) :
    (r.result? = some .failed ↔
      (∃ frame ∈ reads past, frame.ends? most = some .failed) ∨ FallsSilent liveness past) ∧
    (r.result? = some .peerClosed ↔
      (∃ frame ∈ reads past, frame.ends? most = some .peerClosed) ∨
        ∃ o ∈ past, o.move = .step ∧ o.state.receiver.findsEnd o.state.cancelled = true) ∧
    (r.result? = some .cancelled ↔
      ∃ o ∈ past, o.move = .step ∧ o.state.receiver.findsNoUse o.state.cancelled = true) := by
  -- Each result is told by the step that finds it, and only failing has a second cause.
  refine ⟨?_, ?_, ?_⟩
  · rw [result_iff_finds starts run _
      fun o q f steps limit => limit ▸ (Receiver.step_end steps).1,
      fallsSilent_iff starts run, ← exists_read_iff]
    simp only [and_or_left, exists_or]
  · rw [result_iff_finds starts run _
      fun o q f steps limit => limit ▸ (Receiver.step_end steps).2.1, ← exists_read_iff]
    simp only [and_or_left, exists_or]
  · exact result_iff_finds starts run _ fun o q f steps _ => (Receiver.step_end steps).2.2

/-- A receiver hands on the requests, in order, of the frames before the first that ends receiving.

This holds whatever frames come, however the requests are taken, and whenever it is told to stop.

All of the requests are handed on when the client is the one to end receiving.
A receiver that is told to stop, or finds that nobody takes its request, lets go of one at most.

It fails for a frame or a silence, and one failure is reported then.
It ends without one for a goodbye or the end of the stream.

As long as it has to wait, it has no room for the request in hand, or it waits for the client.
In the second case it has handed on all that arrived. -/
theorem receives (starts : start? liveness most room = some r₀)
    (run : Trace Reception.move r₀ past r) :
    let requests := fun frames : List InFrame => frames.filterMap (InFrame.decoded? most)
    let sound := (arrivals past).takeWhile fun frame => (frame.ends? most).isNone
    (reads past <+: arrivals past ∧
      ∀ frame ∈ (reads past).dropLast, frame.ends? most = none) ∧
    handed past <+: requests sound ∧
    (r.receiver.taken = true → taken past ++ r.receiver.queue = handed past) ∧
    (r.result? = none → handed past ++ r.receiver.inHand = requests (reads past)) ∧
    (r.result? = some .failed ∨ r.result? = some .peerClosed → handed past = requests sound) ∧
    (∃ dropped : List Request, dropped.length ≤ 1 ∧
      handed past ++ dropped = requests (reads past)) ∧
    (r.result? = some .failed ↔
      (∃ frame ∈ reads past, frame.ends? most = some .failed) ∨ FallsSilent liveness past) ∧
    (r.result? = some .peerClosed ↔
      (∃ frame ∈ reads past, frame.ends? most = some .peerClosed) ∨
        ∃ o ∈ past, o.move = .step ∧ o.state.receiver.findsEnd o.state.cancelled = true) ∧
    (r.result? = some .cancelled ↔
      ∃ o ∈ past, o.move = .step ∧ o.state.receiver.findsNoUse o.state.cancelled = true) ∧
    (r.result? = some .failed → ∃ f, f.isExpected = false ∧ reported past r = [f]) ∧
    (r.result? ≠ some .failed → reported past r = []) ∧
    (r.result? = none → r.step = none → r.cancelled = false ∧
      ((r.receiver.inHand ≠ [] ∧ r.receiver.taken = true ∧
          r.receiver.capacity ≤ r.receiver.queue.length) ∨
        (handed past = requests (arrivals past) ∧ r.receiver.ended = false ∧
          r.now < lastStep past + liveness))) := by
  intro requests sound
  have total := account starts run
  obtain ⟨failed, closed, cancelled⟩ := results starts run
  -- What is handed on is among what is read, and that is among what comes in sound.
  have part : handed past <+: requests (reads past) := by
    obtain ⟨dropped, -, same⟩ := total.requests.part
    exact ⟨dropped, same⟩
  refine ⟨⟨total.frames.first, total.frames.before⟩, part.trans total.frames.requests_among,
    total.requests.queued, fun unended => ?_, fun halted => ?_, total.requests.part, failed, closed,
    cancelled, total.alarm, total.calm, fun unended waits => ?_⟩
  · -- Only a receiver that was told to stop has broken off.
    refine total.requests.whole ?_
    have := total.isRunning unended
    cases phase : r.receiver.phase <;> simp_all [Receiver.isRunning, Receiver.isBrokenOff]
  · rw [result?_eq, result?_eq] at halted
    have whole := total.requests.whole (by
      rcases halted with halted | halted <;> simp [Receiver.isBrokenOff, halted])
    -- At an end of the client's making nothing is left in hand.
    have none : r.receiver.inHand = [] := by
      rcases halted with halted | halted <;> simp [Receiver.inHand, halted]
    rw [none, List.append_nil] at whole
    exact whole.trans (total.frames.requests_complete halted)
  · have runs := total.isRunning unended
    have waits : r.receiver.step r.now r.cancelled = none := by simpa [step] using waits
    obtain ⟨untold, full | ⟨empty, unread, goesOn, due, phase, early⟩⟩ :=
      Receiver.waits_of_step waits runs
    · exact ⟨untold, .inl full⟩
    · -- There is nothing in hand and nothing left to read, so all that arrived is handed on.
      have whole := total.requests.whole (by simp [Receiver.isBrokenOff, phase])
      have all := total.frames.waiting runs
      rw [unread, List.append_nil] at all
      rw [empty, List.append_nil, all] at whole
      exact ⟨untold, .inr ⟨whole, goesOn, total.deadline due phase ▸ early⟩⟩

/-- Of two requests the first is handed on before the consumer goes. -/
theorem receives_handed :
    let wanted : InFrame := .text "\x7b\"op\":\"unsubscribe\",\"kind\":\"Artifact\"\x7d"
    let moves : List Move := [.arrive wanted, .step, .step, .arrive .ping, .step, .take, .leave,
      .arrive .pong, .arrive wanted, .step, .step, .step]
    ∃ past r₀ r, start? 15000 8192 64 = some r₀ ∧ Trace Reception.move r₀ past r ∧
      Trace.play Reception.move r₀ moves = some (past, r) ∧
      handed past = [.unsubscribe (.known .artifact)] ∧ r.result? = some .cancelled ∧
      reported past r = [] := by
  intro wanted moves
  -- The run is played through, and the theorem tells what was reported of it.
  have plays : ((start? 15000 8192 64).bind fun r₀ => (Trace.play Reception.move r₀ moves).map
      fun p => (r₀, p)).any (fun p => decide (handed p.2.1 = [.unsubscribe (.known .artifact)] ∧
        p.2.2.result? = some .cancelled)) = true := by
    decide +kernel
  obtain ⟨⟨r₀, past, r⟩, played, checked⟩ := (Option.any_eq_true _ _).mp plays
  obtain ⟨r₁, starts, played⟩ := Option.bind_eq_some_iff.mp played
  obtain ⟨⟨past', r'⟩, played, same⟩ := Option.map_eq_some_iff.mp played
  cases same
  obtain ⟨given, ended⟩ := of_decide_eq_true checked
  have run := Trace.of_play played
  have calm := (receives starts run).2.2.2.2.2.2.2.2.2.2.1 (by simp [ended])
  exact ⟨past, r₀, r, starts, run, played, given, ended, calm⟩

/-- That the consumer is gone is noticed only where a request is handed on.

So a frame behind it that cannot be decoded still fails.

A receiver that is told to stop lets go of the request that it has no room for. -/
theorem receives_unaware :
    let first : InFrame := .text "\x7b\"op\":\"unsubscribe\",\"kind\":\"Artifact\"\x7d"
    let second : InFrame := .text "\x7b\x7d"
    (((start? 15000 8192 64).bind fun r =>
        Trace.play Reception.move r [.leave, .arrive (.text "bad"), .step]).map fun p =>
          p.2.result?) =
      some (some .failed) ∧
    (((start? 15000 8192 1).bind fun r =>
        Trace.play Reception.move r [.arrive first, .step, .step, .arrive second, .step, .cancel,
          .step]).map fun p =>
        ((arrivals p.1).filterMap (InFrame.decoded? 8192), handed p.1, p.2.result?)) =
      some ([.unsubscribe (.known .artifact), .ignored .unknown],
        [.unsubscribe (.known .artifact)], some .cancelled) := by
  decide +kernel

end Reception

end WatchRelay
