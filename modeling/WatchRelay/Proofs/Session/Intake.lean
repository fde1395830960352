import WatchRelay.Proofs.Session.Writers

/-! From the frames of a client to the requests the event loop takes: in order, and none is lost on
the way while nobody is stopped. -/

namespace WatchRelay

/-- The request among the meanings of a frame. -/
def Receiver.Meaning.request? : Receiver.Meaning → Option Request
  | .request wanted => some wanted
  | .activity | .goodbye | .fault _ => none

namespace InFrame

/-- The request a frame carries, if it carries a sound one. -/
def request? (most : Nat) (frame : InFrame) : Option Request :=
  (Receiver.meaning most frame).request?

/-- The text of a data frame; bytes are read as text. -/
def text? : InFrame → Option String
  | .text content => some content
  | .binary bytes => (Utf8.decode bytes).toOption
  | .ping | .pong | .close | .failure _ => none

/-- What a text asks for, if it is no longer than it may be and well-formed. -/
def textControl? (most : Nat) (text : String) : Option Control :=
  if most < text.utf8ByteSize then none
  else (Request.readFields text).toOption.bind Control.ofFields?

/-- What a frame asks for, if it asks for anything. -/
def control? (most : Nat) (frame : InFrame) : Option Control :=
  frame.text?.bind (textControl? most)

/-- The acknowledgment due to the request of a text is the one due to what the text asks for. -/
theorem acknowledgment_ofDecoded (most : Nat) (text : String) :
    (Receiver.meaning.ofDecoded (Receiver.decode most text)).request?.bind
        Request.acknowledgment? =
      (textControl? most text).map Control.acknowledgment := by
  -- Decoding a text ends in what its control tells, or in no request.
  unfold Receiver.decode textControl?
  by_cases long : most < text.utf8ByteSize
  · -- A text that is too long is not read at all.
    simp only [if_pos long]
    rfl
  · simp only [if_neg long]
    rw [Request.parse_eq]
    cases Request.readFields text with
    | error _ => rfl
    | ok x => exact Control.acknowledgment_ofFields x

/-- The acknowledgment due to the request of a frame is the one due to what the frame asks for. -/
theorem acknowledgment_request (most : Nat) (frame : InFrame) :
    (frame.request? most).bind Request.acknowledgment? =
      (frame.control? most).map Control.acknowledgment := by
  cases frame with
  | text content => exact acknowledgment_ofDecoded most content
  | binary bytes =>
    -- Bytes that are no text ask for nothing.
    simp only [request?, Receiver.meaning, control?, text?]
    cases Utf8.decode bytes with
    | error _ => rfl
    | ok content => exact acknowledgment_ofDecoded most content
  | _ => rfl

end InFrame

namespace Receiver

/-- The frame the next step of receiving reads, if it reads one. -/
def reads? (r : Receiver) (cancelled : Bool) : Option InFrame :=
  match r.phase with
  | .reading _ => if cancelled then none else r.arrived.head?
  | .handing _ | .finished _ | .aborted => none

/-- A receiver that is not told to stop reads the frame that arrived first. -/
theorem reads?_first {r : Receiver} {deadline : Nat} {frame : InFrame} {rest : List InFrame}
    (phase : r.phase = .reading deadline) (arrived : r.arrived = frame :: rest) :
    r.reads? false = some frame := by
  simp [reads?, phase, arrived]

/-- The request that is read and waits for room in the queue. -/
def inHand (r : Receiver) : List Request :=
  match r.phase with
  | .handing request => [request]
  | .reading _ | .finished _ | .aborted => []

/-- Whether receiving was broken off: it was told to stop, or was stopped from outside. -/
def isBrokenOff (r : Receiver) : Bool :=
  match r.phase with
  | .finished .cancelled | .aborted => true
  | .reading _ | .handing _ | .finished _ => false

end Receiver

/-- Where the frames of a client are: those that are read and those that wait are the first that
arrived; the requests that are taken and those in the queue are the first that are read. -/
structure Intake (arrivals reads : List InFrame) (taken : List Request) (r : Receiver) : Prop where
  first : reads ++ r.arrived <+: arrivals
  waiting : r.isRunning = true → r.ended = false → reads ++ r.arrived = arrivals
  queued : taken ++ r.queue <+: reads.filterMap (InFrame.request? r.maxMessageSize)
  all : r.taken = true → r.isBrokenOff = false →
    taken ++ r.queue ++ r.inHand = reads.filterMap (InFrame.request? r.maxMessageSize)

namespace Intake

variable {arrivals reads : List InFrame} {taken : List Request} {r r' : Receiver}

/-- A frame is read: it is the first of those that wait, and its request is in hand. -/
private theorem read_one {deadline : Nat} {frame : InFrame} {rest : List InFrame}
    (intake : Intake arrivals reads taken r) (phase : r.phase = .reading deadline)
    (arrived : r.arrived = frame :: rest)
    (same : r'.queue = r.queue ∧ r'.taken = r.taken ∧ r'.ended = r.ended ∧
      r'.maxMessageSize = r.maxMessageSize)
    (left : r'.arrived = rest ∨ r'.arrived = [] ∧ r'.isRunning = false)
    (hand : r'.inHand = (frame.request? r.maxMessageSize).toList) :
    Intake arrivals (reads ++ [frame]) taken r' := by
  obtain ⟨queue, still, ended, limit⟩ := same
  -- The frame that waits first is read and goes to those that were read.
  have first := intake.first
  have waiting := intake.waiting (by simp [Receiver.isRunning, phase])
  have all := intake.all
  rw [arrived] at first waiting
  refine ⟨?_, fun runs open_ => ?_, ?_, fun taken _ => ?_⟩
  · rcases left with left | ⟨left, -⟩
    · simpa [left] using first
    · -- What waits behind the frame is let go.
      rw [left, List.append_nil]
      refine List.IsPrefix.trans ?_ first
      exact ⟨rest, by simp⟩
  · rcases left with left | ⟨-, stopped⟩
    · simpa [left] using waiting (ended ▸ open_)
    · rw [stopped] at runs
      cases runs
  · -- The queue is the same, and what is read has only grown.
    rw [queue, limit, List.filterMap_append]
    exact intake.queued.trans (List.prefix_append _ _)
  · -- Nothing was in hand, and what the frame asks for is now.
    have whole := all (still ▸ taken) (by simp [Receiver.isBrokenOff, phase])
    simp only [Receiver.inHand, phase, List.append_nil] at whole
    cases carries : frame.request? r.maxMessageSize <;> simp [queue, limit, hand, whole, carries]

/-- Receiving ends without another frame: what waits is let go. -/
private theorem finish_none (intake : Intake arrivals reads taken r) (result : ReceiveEnd)
    (told : result = .cancelled ∨ ∃ deadline, r.phase = .reading deadline) :
    Intake arrivals reads taken (r.finish result) := by
  -- What is finished reads no more, and gives away nothing it had in hand.
  refine ⟨?_, fun runs => (by cases runs), intake.queued, fun taken whole => ?_⟩
  · simpa [Receiver.finish] using (List.prefix_append reads r.arrived).trans intake.first
  · rcases told with told | ⟨deadline, phase⟩
    · rw [told] at whole
      cases whole
    · -- Nothing was in hand.
      have all := intake.all taken (by simp [Receiver.isBrokenOff, phase])
      simpa [Receiver.inHand, phase, Receiver.finish] using all

/-- A step of receiving moves the frame it reads from those that wait to those that are read. -/
theorem step {now : Nat} {cancelled : Bool} {f : Option SessionFailure}
    (intake : Intake arrivals reads taken r) (moved : r.Steps now cancelled r' f) :
    Intake arrivals (reads ++ (r.reads? cancelled).toList) taken r' := by
  have none (silent : r.reads? cancelled = none) :
      reads ++ (r.reads? cancelled).toList = reads := by simp [silent]
  cases moved with
  | told phase told =>
    -- A receiver that is told to stop reads no frame, even if one waits.
    rw [none (by simp [Receiver.reads?, phase, told])]
    exact intake.finish_none .cancelled (.inl rfl)
  | decoded phase untold arrived means =>
    rw [untold, Receiver.reads?_first phase arrived]
    exact intake.read_one phase arrived ⟨rfl, rfl, rfl, rfl⟩ (.inl rfl)
      (by simp [InFrame.request?, means, Receiver.inHand, Receiver.Meaning.request?])
  | noticed phase untold arrived means =>
    rw [untold, Receiver.reads?_first phase arrived]
    exact intake.read_one phase arrived ⟨rfl, rfl, rfl, rfl⟩ (.inl rfl)
      (by simp [InFrame.request?, means, Receiver.inHand, Receiver.Meaning.request?])
  | parted phase untold arrived means =>
    -- What arrived behind a goodbye is let go with it.
    rw [untold, Receiver.reads?_first phase arrived]
    exact intake.read_one phase arrived ⟨rfl, rfl, rfl, rfl⟩ (.inr ⟨rfl, rfl⟩)
      (by simp [InFrame.request?, means, Receiver.inHand, Receiver.Meaning.request?,
        Receiver.finish])
  | failed phase untold arrived means =>
    rw [untold, Receiver.reads?_first phase arrived]
    exact intake.read_one phase arrived ⟨rfl, rfl, rfl, rfl⟩ (.inr ⟨rfl, rfl⟩)
      (by simp [InFrame.request?, means, Receiver.inHand, Receiver.Meaning.request?,
        Receiver.fail, Receiver.finish])
  | ended phase untold empty _ =>
    rw [none (by simp [Receiver.reads?, phase, empty])]
    exact intake.finish_none .peerClosed (.inr ⟨_, phase⟩)
  | lost phase untold empty _ =>
    rw [none (by simp [Receiver.reads?, phase, empty])]
    exact intake.finish_none _ (.inr ⟨_, phase⟩)
  | stopped phase _ =>
    rw [none (by simp [Receiver.reads?, phase])]
    exact intake.finish_none .cancelled (.inl rfl)
  | @handed request phase untold still room =>
    rw [none (by simp [Receiver.reads?, phase])]
    -- The request goes from the hand to the end of the queue.
    have whole := intake.all still (by simp [Receiver.isBrokenOff, phase])
    simp only [Receiver.inHand, phase] at whole
    refine ⟨intake.first, fun _ => intake.waiting (by simp [Receiver.isRunning, phase]), ?_,
      fun _ _ => ?_⟩
    · simp [← whole]
    · simp [← whole, Receiver.inHand]

/-- A frame arrives behind those that wait, or is not taken any more. -/
theorem arrive (intake : Intake arrivals reads taken r) (frame : InFrame) :
    Intake (arrivals ++ [frame]) reads taken (r.arrive frame) := by
  have more : arrivals <+: arrivals ++ [frame] := List.prefix_append _ _
  unfold Receiver.arrive
  split
  · next open_ =>
    -- Nothing was let go so far, so the frame is the next of all that arrived.
    have open_ : r.isRunning = true ∧ r.ended = false := by simpa using open_
    have same := intake.waiting open_.1 open_.2
    refine ⟨?_, fun _ _ => ?_, intake.queued, intake.all⟩
    · simp [← same]
    · simp [← same]
  · next shut =>
    -- A receiver at its end, or behind the end of the stream, takes no frame.
    refine ⟨intake.first.trans more, fun runs open_ => ?_, intake.queued, intake.all⟩
    simp [runs, open_] at shut

theorem hangUp (intake : Intake arrivals reads taken r) : Intake arrivals reads taken r.hangUp :=
  ⟨intake.first, fun _ ended => (by cases ended), intake.queued, intake.all⟩

/-- The first request of the queue is taken. -/
theorem take {request : Request} {rest : List Request} (intake : Intake arrivals reads taken r)
    (queue : r.queue = request :: rest) :
    Intake arrivals reads (taken ++ [request]) { r with queue := rest } := by
  -- The request goes from the queue to those taken, so the two together stay.
  have queued := intake.queued
  have all := intake.all
  rw [queue] at queued all
  refine ⟨intake.first, intake.waiting, by simpa using queued, fun still whole => ?_⟩
  simpa [Receiver.inHand] using all still whole

/-- The queue is closed, and what is in it is let go. -/
theorem close (intake : Intake arrivals reads taken r) : Intake arrivals reads taken r.close := by
  refine ⟨intake.first, intake.waiting, ?_, fun still => by cases still⟩
  simpa [Receiver.close] using (List.prefix_append taken r.queue).trans intake.queued

/-- Receiving is stopped from outside. -/
theorem abort (intake : Intake arrivals reads taken r) : Intake arrivals reads taken r.abort := by
  -- Only a receiver that runs is broken off.
  unfold Receiver.abort
  split
  · -- Receiving is broken off, so nothing is promised about what was in hand.
    refine ⟨?_, fun runs => (by cases runs), intake.queued, fun _ whole => by cases whole⟩
    simpa using (List.prefix_append reads r.arrived).trans intake.first
  · exact intake

end Intake

namespace Session

variable {s s' s₀ : Session} {e e' e₀ : Surroundings} {past : List Occasion}

/-- The request the event loop takes in its next step, if it takes one. -/
def takes? (s : Session) : Option Request :=
  match s.loop with
  | .selecting =>
    if !s.cancelled && s.alarms.queue.isEmpty then s.receiver.queue.head? else none
  | _ => none

namespace Occasion

/-- The frame that arrives. -/
def arrival? (o : Occasion) : Option InFrame :=
  match o.move with
  | .arrive frame => some frame
  | _ => none

/-- The frame the receiver reads. -/
def read? (o : Occasion) : Option InFrame :=
  match o.move with
  | .task .receiver => o.session.receiver.reads? o.session.cancelled
  | _ => none

/-- The request the event loop takes. -/
def taken? (o : Occasion) : Option Request :=
  match o.move with
  | .task .eventLoop => o.session.takes?
  | _ => none

end Occasion

/-- Only the event loop takes requests. -/
theorem taken?_other {m : Move} (other : m ≠ .task .eventLoop) :
    Occasion.taken? ⟨s, e, m⟩ = none := by
  -- Only the event loop takes requests.
  cases m with
  | task t => cases t <;> first | rfl | exact absurd rfl other
  | _ => rfl

/-- The frames that arrived, in order. -/
def arrivals (past : List Occasion) : List InFrame := past.filterMap Occasion.arrival?

/-- The frames that were read, in order. -/
def reads (past : List Occasion) : List InFrame := past.filterMap Occasion.read?

/-- The requests the event loop took, in order. -/
def taken (past : List Occasion) : List Request := past.filterMap Occasion.taken?

/-- Stopping the runners from outside is nothing to the receiver. -/
theorem abortRunners_receiver (numbered : s.Numbered) (e : Surroundings) :
    (s.abortRunners e).1.receiver = s.receiver :=
  abortRunners_keeps (P := fun t _ => t.receiver = s.receiver) numbered rfl fun _ held => held

/-- What a move does with the receiver. -/
inductive ReceiverMoves (s : Session) (e : Surroundings) : Move → Receiver → Prop where
  | stepped {r : Receiver} {f : Option SessionFailure}
      (steps : s.receiver.Steps e.now s.cancelled r f) : ReceiverMoves s e (.task .receiver) r
  | arrived (frame : InFrame) : ReceiverMoves s e (.arrive frame) (s.receiver.arrive frame)
  | hungUp : ReceiverMoves s e .hangUp s.receiver.hangUp
  | took {request : Request} {rest : List Request} (takes : s.takes? = some request)
      (queue : s.receiver.queue = request :: rest) :
      ReceiverMoves s e (.task .eventLoop) { s.receiver with queue := rest }
  /-- The event loop ends. -/
  | closed {deadline : Nat} (drains : s.loop = .draining deadline) :
      ReceiverMoves s e (.task .eventLoop) s.receiver.close
  | aborted (call : Nat) : ReceiverMoves s e (.task (.teardown call)) s.receiver.abort
  | stayed {m : Move} (silent : Occasion.arrival? ⟨s, e, m⟩ = none)
      (unread : Occasion.read? ⟨s, e, m⟩ = none) (idle : Occasion.taken? ⟨s, e, m⟩ = none) :
      ReceiverMoves s e m s.receiver

/-- What a step of the event loop does with the receiver. -/
theorem LoopSteps.receiver (numbered : s.Numbered) (moved : s.LoopSteps e s' e') :
    s.ReceiverMoves e (.task .eventLoop) s'.receiver := by
  have stayed (same : s'.receiver = s.receiver) (idle : s.takes? = none) :
      s.ReceiverMoves e (.task .eventLoop) s'.receiver := by
    rw [same]
    exact .stayed rfl rfl idle
  cases moved with
  | told selects told =>
    exact stayed (leave_work s s.alarms .away e.now).receiver (by simp [takes?, selects, told])
  | failed selects _ alarm =>
    exact stayed (leave_work s _ _ e.now).receiver (by simp [takes?, selects, alarm])
  | @dispatched request rest selects untold calm waiting =>
    -- The request is the one that was first in the queue.
    have takes : s.takes? = some request := by simp [takes?, selects, untold, calm, waiting]
    rw [(dispatch_dispatches _ request).receiver]
    exact .took takes waiting
  | ended selects _ _ empty _ =>
    exact stayed (leave_work s s.alarms s.closeCode e.now).receiver
      (by simp [takes?, selects, empty])
  | reaped selects _ _ empty _ _ =>
    exact stayed (reap_work s _).receiver (by simp [takes?, selects, empty])
  -- While it writes an acknowledgment, the event loop takes nothing.
  | wrote answers _ => exact stayed rfl (by simp [takes?, answers])
  | @answered _ _ _ _ _ start answers _ =>
    exact stayed (by cases start <;> rfl) (by simp [takes?, answers])
  | drained drains _ => exact .closed drains
  | aborted drains _ =>
    show s.ReceiverMoves e (.task .eventLoop) (s.abortRunners e).1.receiver.close
    rw [abortRunners_receiver numbered]
    exact .closed drains

/-- What each move does with the receiver. -/
theorem Moves.receiver {m : Move} (numbered : s.Numbered) (moved : s.Moves e m s' e') :
    s.ReceiverMoves e m s'.receiver := by
  cases moved with
  | received steps => exact .stepped steps
  | looped steps => exact steps.receiver numbered
  | @closed call _ _ steps =>
    -- A call stops the receiver only at the deadline.
    cases steps with
    | aborted _ _ => exact .aborted call
    | _ => exact .stayed rfl rfl rfl
  | arrived frame => exact .arrived frame
  | hungUp => exact .hungUp
  | _ => exact .stayed rfl rfl rfl

/-- Every move takes the frames and requests on as it should. -/
theorem ReceiverMoves.intake {arrived read : List InFrame} {before : List Request} {m : Move}
    {r : Receiver} (intake : Intake arrived read before s.receiver)
    (moved : s.ReceiverMoves e m r) :
    Intake (arrived ++ (Occasion.arrival? ⟨s, e, m⟩).toList)
      (read ++ (Occasion.read? ⟨s, e, m⟩).toList)
      (before ++ (Occasion.taken? ⟨s, e, m⟩).toList)
      r := by
  -- Each move lets a frame arrive, reads one, takes a request, or does none of this.
  cases moved with
  | stepped steps =>
    simpa [Occasion.arrival?, Occasion.read?, Occasion.taken?] using intake.step steps
  | arrived frame =>
    simpa [Occasion.arrival?, Occasion.read?, Occasion.taken?] using intake.arrive frame
  | hungUp => simpa [Occasion.arrival?, Occasion.read?, Occasion.taken?] using intake.hangUp
  | took takes queue =>
    simpa [Occasion.arrival?, Occasion.read?, Occasion.taken?, takes] using intake.take queue
  | closed drains =>
    have idle : s.takes? = none := by simp [takes?, drains]
    simpa [Occasion.arrival?, Occasion.read?, Occasion.taken?, idle] using intake.close
  | aborted call => simpa [Occasion.arrival?, Occasion.read?, Occasion.taken?] using intake.abort
  | stayed silent unread idle => simpa [silent, unread, idle] using intake

/-- The limit of a message's size is the same all along. -/
theorem ReceiverMoves.limit {m : Move} {r : Receiver} (moved : s.ReceiverMoves e m r) :
    r.maxMessageSize = s.receiver.maxMessageSize := by
  -- The limit is set at the start.
  cases moved with
  | stepped steps => cases steps <;> rfl
  | arrived frame => simp only [Receiver.arrive]; split <;> rfl
  | aborted call => simp only [Receiver.abort]; split <;> rfl
  | _ => rfl

/-- A receiver that is at its end reads nothing and stays there. -/
theorem ReceiverMoves.ended {m : Move} {r : Receiver} (moved : s.ReceiverMoves e m r)
    (still : s.receiver.isRunning = false) :
    Occasion.read? ⟨s, e, m⟩ = none ∧ r.isRunning = false := by
  have unread : s.receiver.reads? s.cancelled = none := by
    cases phase : s.receiver.phase <;> simp_all [Receiver.reads?, Receiver.isRunning]
  cases moved with
  | stepped steps =>
    -- There is no step any more.
    cases steps <;> simp_all [Receiver.isRunning]
  | arrived frame => exact ⟨rfl, by simp [Receiver.arrive, still]⟩
  | aborted call => exact ⟨rfl, by simp [Receiver.abort, still]⟩
  | stayed _ unread _ => exact ⟨unread, still⟩
  | _ => exact ⟨rfl, still⟩

/-- After any run, the frames and requests are where they should be. -/
theorem Run.intake (begins : Begins s₀) (run : Run s₀ e₀ past s e) :
    Intake (arrivals past) (reads past) (taken past) s.receiver := by
  -- Soundness comes along, as a step is taken apart with the numbers of the runners.
  have held := run.traces
    (P := fun past s _ => s.Sound ∧ Intake (arrivals past) (reads past) (taken past) s.receiver)
    ⟨begins.sound, ?_⟩ ?_
  · exact held.2
  · -- Nothing has arrived yet.
    refine ⟨?_, fun _ _ => ?_, ?_, fun _ _ => ?_⟩ <;> cases begins <;>
      simp [arrivals, reads, taken, Session.start, idleLoop, discardLoop, endLoop, Receiver.new,
        Receiver.close, Receiver.inHand]
  · intro past s s' e e' m moved held
    have moved := move_moves moved
    refine ⟨moved.sound held.1, ?_⟩
    rw [arrivals, reads, taken, filterMap_concat, filterMap_concat, filterMap_concat]
    exact (moved.receiver held.1.numbered).intake held.2

end Session

end WatchRelay
