import WatchRelay.Proofs.Session.Intake
import WatchRelay.Proofs.Trace

/-! What frames ask of a receiver and which of them end receiving; where frames and requests are
while it works. -/

namespace WatchRelay

/-- A text that is found in another has no letter more often. -/
theorem count_le_of_occursIn {part whole : List Char} (c : Char)
    (occurs : occursIn part whole = true) : part.count c ≤ whole.count c := by
  -- The induction is on the text that is searched: the other begins here, or is found further on.
  induction whole with
  | nil =>
    have empty : part = [] := by simpa [occursIn] using occurs
    simp [empty]
  | cons d rest ih =>
    rcases Bool.or_eq_true_iff.mp occurs with here | later
    · exact (List.isPrefixOf_iff_prefix.mp here).sublist.count_le c
    · exact Nat.le_trans (ih later) List.count_le_count_cons

/-- The digits of a number have no letter among them. -/
theorem count_repr_lower (n : Nat) : (n.repr.toList.map Char.toLower).count 'c' = 0 := by
  refine List.count_eq_zero.mpr fun among => ?_
  obtain ⟨d, digit, lower⟩ := List.mem_map.mp among
  have digit : d.isDigit = true :=
    Nat.isDigit_of_mem_toDigits (b := 10) (by decide) (by decide) (by simpa [Nat.repr] using digit)
  have small : d.val ≤ 57 := by
    simp only [Char.isDigit, Bool.and_eq_true, decide_eq_true_eq] at digit
    exact digit.2
  -- A digit stands below every capital letter, so it has no other lower case.
  have same : d.toLower = d := by
    unfold Char.toLower
    refine dif_neg fun upper => ?_
    exact absurd (UInt32.le_trans upper.1 small) (by decide)
  rw [same] at lower
  subst lower
  exact absurd digit (by decide)

/-- Bytes that are no text are no sign of a closed connection. -/
theorem Utf8Fault.not_expected (f : Utf8Fault) :
    (SessionFailure.transport [⟨none, f.message⟩]).isExpected = false := by
  -- Each of the two phrases has the letter `c` three times, and the wording has it twice at most.
  have few : (f.message.toList.map Char.toLower).count 'c' ≤ 2 := by
    obtain ⟨upTo, length⟩ := f
    cases length <;>
      simp only [Utf8Fault.message, String.toList_append, List.map_append, List.count_append,
        count_repr_lower, toString] <;> decide
  have absent (phrase : List Char) (many : 2 < phrase.count 'c') :
      occursIn phrase (f.message.toList.map Char.toLower) = false := by
    refine Bool.eq_false_iff.mpr fun occurs => ?_
    have := count_le_of_occursIn 'c' occurs
    omega
  have opened : Cause.isClosure ⟨none, f.message⟩ = false := by
    simp only [Cause.isClosure, Option.any_none, Bool.false_or]
    rw [absent _ (by decide), absent _ (by decide), Bool.or_self]
  simp [SessionFailure.isExpected, opened]

namespace InFrame

/-- The request of a text, if it is no longer than it may be and can be decoded. -/
def decodedText? (most : Nat) (text : String) : Option Request :=
  if most < text.utf8ByteSize then none else (Request.parse text).toOption

/-- The request of a data frame whose content is a text that can be decoded. -/
def decoded? (most : Nat) (frame : InFrame) : Option Request := frame.text?.bind (decodedText? most)

/-- How a frame ends receiving, if it does.

Data that is not decoded and an error of the transport are failures.
A close frame and an error that tells of a closed connection are the client's goodbye. -/
def ends? (most : Nat) (frame : InFrame) : Option ReceiveEnd :=
  match frame with
  | .text _ | .binary _ => if frame.decoded? most = none then some .failed else none
  | .ping | .pong => none
  | .close => some .peerClosed
  | .failure chain => some (if chain.any Cause.isClosure then .peerClosed else .failed)

end InFrame

namespace Receiver.Meaning

/-- How a meaning ends receiving, if it does. -/
def end? : Meaning → Option ReceiveEnd
  | .request _ | .activity => none
  | .goodbye => some .peerClosed
  | .fault f => some (if f.isExpected then .peerClosed else .failed)

/-- A text means its request, and a failure that is not expected where it has none. -/
theorem ofDecoded_decode (most : Nat) (text : String) :
    (meaning.ofDecoded (decode most text)).request? = InFrame.decodedText? most text ∧
      (meaning.ofDecoded (decode most text)).end? =
        if InFrame.decodedText? most text = none then some .failed else none := by
  -- A text that is too long is refused before it is parsed.
  unfold decode InFrame.decodedText?
  by_cases long : most < text.utf8ByteSize
  · rw [if_pos long, if_pos long]
    exact ⟨rfl, rfl⟩
  · rw [if_neg long, if_neg long]
    cases Request.parse text <;> exact ⟨rfl, rfl⟩

end Receiver.Meaning

namespace InFrame

/-- What a frame means is the request it is decoded to and the end it brings. -/
theorem meaning_eq (most : Nat) (frame : InFrame) :
    frame.request? most = frame.decoded? most ∧
      (Receiver.meaning most frame).end? = frame.ends? most := by
  cases frame with
  | text content => exact Receiver.Meaning.ofDecoded_decode most content
  | binary bytes =>
    cases read : Utf8.decode bytes with
    | ok content =>
      simp only [request?, decoded?, ends?, text?, Receiver.meaning, read]
      exact Receiver.Meaning.ofDecoded_decode most content
    | error f =>
      -- Bytes that are no text end receiving like any fault of the transport.
      simp [request?, decoded?, ends?, text?, Receiver.meaning, read, Except.toOption,
        Receiver.Meaning.request?, Receiver.Meaning.end?, f.not_expected]
  | _ => exact ⟨rfl, rfl⟩

/-- What a meaning tells of its frame. -/
theorem told_by_meaning {most : Nat} {frame : InFrame} {said : Receiver.Meaning}
    (means : Receiver.meaning most frame = said) :
    frame.decoded? most = said.request? ∧ frame.ends? most = said.end? := by
  -- What a frame means tells both whether it is a request and whether it ends the reading.
  obtain ⟨request, halt⟩ := meaning_eq most frame
  rw [← means, ← halt, ← request]
  exact ⟨rfl, rfl⟩

/-- A frame that ends receiving carries no request. -/
theorem decoded?_of_ends {most : Nat} {frame : InFrame} (ends : frame.ends? most ≠ none) :
    frame.decoded? most = none := by
  -- Only texts can be requests, and those that end the reading are none.
  cases frame with
  | text _ | binary _ => simpa [ends?] using ends
  | _ => rfl

end InFrame

namespace Receiver

/-- Whether it looks for a frame and finds that the client's stream has ended. -/
def findsEnd (r : Receiver) (cancelled : Bool) : Bool :=
  match r.phase with
  | .reading _ => !cancelled && r.arrived.isEmpty && r.ended
  | .handing _ | .finished _ | .aborted => false

/-- Whether it looks for a frame and finds none, though the client's stream goes on. -/
def findsSilence (r : Receiver) (cancelled : Bool) : Bool :=
  match r.phase with
  | .reading _ => !cancelled && r.arrived.isEmpty && !r.ended
  | .handing _ | .finished _ | .aborted => false

/-- Whether it finds that it was told to stop, or that nobody takes the request it has in hand. -/
def findsNoUse (r : Receiver) (cancelled : Bool) : Bool :=
  match r.phase with
  | .reading _ => cancelled
  | .handing _ => cancelled || !r.taken
  | .finished _ | .aborted => false

variable {most : Nat}

/-- Where the frames are: those that are read are the first that arrived, and only the last of them
can end receiving. -/
structure Frames (most : Nat) (arrivals reads : List InFrame) (r : Receiver) : Prop where
  first : reads <+: arrivals
  waiting : r.isRunning = true → reads ++ r.arrived = arrivals
  going : r.isRunning = true → ∀ frame ∈ reads, frame.ends? most = none
  before : ∀ frame ∈ reads.dropLast, frame.ends? most = none
  complete : r.phase = .finished .failed ∨ r.phase = .finished .peerClosed →
    (∃ frame ∈ reads, frame.ends? most ≠ none) ∨ reads = arrivals

namespace Frames

variable {arrived read : List InFrame} {q q' : Receiver}

/-- A receiver that is at work has not come to an end of the client's making. -/
private theorem not_over (runs : q.isRunning = true) :
    ¬(q.phase = .finished .failed ∨ q.phase = .finished .peerClosed) := by
  rintro (halted | halted) <;> simp [isRunning, halted] at runs

/-- A frame is read; the receiver goes on only if the frame does not end it. -/
private theorem read_one {deadline : Nat} {frame : InFrame} {rest : List InFrame}
    (frames : Frames most arrived read q) (phase : q.phase = .reading deadline)
    (first : q.arrived = frame :: rest) (left : q'.isRunning = true → q'.arrived = rest)
    (ends : (q'.isRunning = true ∧ frame.ends? most = none) ∨
      (q'.isRunning = false ∧ frame.ends? most ≠ none)) :
    Frames most arrived (read ++ [frame]) q' := by
  -- The frame is taken from those that wait, and is the last that was read.
  have runs : q.isRunning = true := by simp [isRunning, phase]
  have waiting := frames.waiting runs
  have going := frames.going runs
  rw [first] at waiting
  refine ⟨⟨rest, by simpa using waiting⟩, fun runs => ?_, fun runs => ?_, ?_,
    fun halted => ?_⟩
  · simpa [left runs] using waiting
  · -- A receiver that goes on has read this frame like those before it.
    obtain ⟨-, ends⟩ | ⟨stopped, -⟩ := ends
    · intro other among
      rcases List.mem_append.mp among with among | last
      · exact going other among
      · rwa [List.mem_singleton.mp last]
    · rw [stopped] at runs
      cases runs
  · simpa using going
  · -- One that is over was ended by this frame.
    obtain ⟨runs, -⟩ | ⟨-, ends⟩ := ends
    · exact absurd halted (not_over runs)
    · exact .inl ⟨frame, by simp, ends⟩

/-- Receiving ends without another frame; only one that is told to stop leaves frames unread. -/
private theorem finish_none (frames : Frames most arrived read q) (result : ReceiveEnd)
    (runs : q.isRunning = true) (drained : result = .cancelled ∨ q.arrived = []) :
    Frames most arrived read (q.finish result) := by
  refine ⟨frames.first, fun runs => (by cases runs), fun runs => (by cases runs), frames.before,
    fun halted => ?_⟩
  have waiting := frames.waiting runs
  -- It was told to stop, which is no end of the client's making, or all frames are read.
  rcases drained with told | empty
  · subst told
    rcases halted with halted | halted <;> cases halted
  · exact .inr (by simpa [empty] using waiting)

/-- A step of receiving moves the frame it reads from those that wait to those that are read. -/
theorem step {now : Nat} {cancelled : Bool} {f : Option SessionFailure}
    (frames : Frames most arrived read q) (limit : q.maxMessageSize = most)
    (moved : q.Steps now cancelled q' f) :
    Frames most arrived (read ++ (q.reads? cancelled).toList) q' := by
  subst limit
  have none (silent : q.reads? cancelled = none) :
      read ++ (q.reads? cancelled).toList = read := by simp [silent]
  cases moved with
  | told phase told =>
    rw [none (by simp [Receiver.reads?, phase, told])]
    exact frames.finish_none .cancelled (by simp [isRunning, phase]) (.inl rfl)
  | decoded phase untold first means | noticed phase untold first means =>
    -- The receiver goes on, for the frame does not end it.
    rw [untold, reads?_first phase first]
    refine frames.read_one phase first (fun _ => rfl) (.inl ⟨rfl, ?_⟩)
    exact (InFrame.told_by_meaning means).2
  | parted phase untold first means | failed phase untold first means =>
    rw [untold, reads?_first phase first]
    refine frames.read_one phase first (fun runs => (by cases runs)) (.inr ⟨rfl, ?_⟩)
    rw [(InFrame.told_by_meaning means).2]
    exact Option.some_ne_none _
  | ended phase untold empty _ =>
    rw [none (by simp [Receiver.reads?, phase, empty])]
    exact frames.finish_none _ (by simp [isRunning, phase]) (.inr empty)
  | lost phase untold empty _ =>
    rw [none (by simp [Receiver.reads?, phase, empty])]
    exact frames.finish_none _ (by simp [isRunning, phase]) (.inr empty)
  | stopped phase _ =>
    rw [none (by simp [Receiver.reads?, phase])]
    exact frames.finish_none .cancelled (by simp [isRunning, phase]) (.inl rfl)
  | handed phase untold _ _ =>
    -- What is handed on was read before.
    rw [none (by simp [Receiver.reads?, phase])]
    have runs : q.isRunning = true := by simp [isRunning, phase]
    refine ⟨frames.first, fun _ => frames.waiting runs, fun _ => frames.going runs, frames.before,
      fun halted => ?_⟩
    rcases halted with halted | halted <;> cases halted

/-- A frame arrives behind those that wait, or is not taken any more. -/
theorem arrive (frames : Frames most arrived read q) (frame : InFrame) :
    Frames most (arrived ++ (if q.isRunning && !q.ended then some frame else none).toList) read
      (q.arrive frame) := by
  unfold Receiver.arrive
  split
  · next open_ =>
    have runs : q.isRunning = true := (Bool.and_eq_true_iff.mp open_).1
    refine ⟨frames.first.trans (List.prefix_append _ _), fun _ => ?_, fun _ => frames.going runs,
      frames.before, fun halted => ?_⟩
    · rw [← frames.waiting runs, List.append_assoc]
      rfl
    · exact absurd halted (not_over runs)
  · -- A frame that is not taken any more is none of those that arrived.
    simpa using frames

/-- What does not concern the frames leaves them where they are. -/
theorem same (frames : Frames most arrived read q) (phase : q'.phase = q.phase)
    (rest : q'.arrived = q.arrived) : Frames most arrived read q' := by
  -- What is told of the frames hangs on the phase and on what waits.
  have runs : q'.isRunning = q.isRunning := by simp only [isRunning, phase]
  exact ⟨frames.first, fun still => rest ▸ frames.waiting (runs ▸ still),
    fun still => frames.going (runs ▸ still), frames.before,
    fun halted => frames.complete (phase ▸ halted)⟩

/-- What is read has its requests among those of the frames that come before the first that ends
receiving. -/
theorem requests_among (frames : Frames most arrived read q) :
    read.filterMap (InFrame.decoded? most) <+:
      (arrived.takeWhile fun frame => (frame.ends? most).isNone).filterMap
        (InFrame.decoded? most) := by
  -- What was read is the front of what arrived, and stops at the first frame that ends it.
  refine Trace.filterMap_prefix frames.first (fun frame among => ?_) fun frame ends => ?_
  · rw [frames.before frame among]
    rfl
  · exact InFrame.decoded?_of_ends (by simpa [Option.isSome_iff_ne_none] using ends)

/-- At an end that comes from the client, all frames before the first that ends receiving are
read. -/
theorem requests_complete (frames : Frames most arrived read q)
    (halted : q.phase = .finished .failed ∨ q.phase = .finished .peerClosed) :
    read.filterMap (InFrame.decoded? most) =
      (arrived.takeWhile fun frame => (frame.ends? most).isNone).filterMap
        (InFrame.decoded? most) := by
  -- A receiver that has finished of itself has read up to the frame that ended it.
  refine Trace.filterMap_whole frames.first (fun frame among => ?_) (fun frame ends => ?_) ?_
  · rw [frames.before frame among]
    rfl
  · exact InFrame.decoded?_of_ends (by simpa [Option.isSome_iff_ne_none] using ends)
  · refine (frames.complete halted).imp_left fun ⟨frame, among, ends⟩ => ⟨frame, among, ?_⟩
    simpa [Option.isSome_iff_ne_none] using ends

end Frames

/-- Where the requests are: what is handed on and not taken is in the queue, and what is read and
not handed on is in hand.

Only a receiver that is told to stop lets go of what it has in hand. -/
structure Requests (most : Nat) (reads : List InFrame) (handed taken : List Request)
    (r : Receiver) : Prop where
  queued : r.taken = true → taken ++ r.queue = handed
  whole : r.isBrokenOff = false →
    handed ++ r.inHand = reads.filterMap (InFrame.decoded? most)
  part : ∃ dropped : List Request, dropped.length ≤ 1 ∧
    handed ++ dropped = reads.filterMap (InFrame.decoded? most)

namespace Requests

variable {read : List InFrame} {given before : List Request} {q q' : Receiver}

/-- There is one request in hand at most. -/
private theorem inHand_length (q : Receiver) : q.inHand.length ≤ 1 := by
  unfold inHand
  split <;> simp

/-- A frame is read, and its request is in hand. -/
private theorem read_one {deadline : Nat} (frame : InFrame)
    (requests : Requests most read given before q) (phase : q.phase = .reading deadline)
    (queue : q'.queue = q.queue) (still : q'.taken = q.taken)
    (hand : q'.inHand = (frame.decoded? most).toList) :
    Requests most (read ++ [frame]) (given ++ q'.queue.drop q.queue.length) before q' := by
  have whole := requests.whole (by simp [isBrokenOff, phase])
  -- Nothing was in hand before, so that what is handed on and what is in hand then is all there is.
  have all : given ++ q'.inHand = (read ++ [frame]).filterMap (InFrame.decoded? most) := by
    simp only [inHand, phase, List.append_nil] at whole
    rw [List.filterMap_append, whole, hand]
    cases carries : frame.decoded? most <;> simp [carries]
  rw [queue, List.drop_length, List.append_nil]
  exact ⟨fun taken => queue ▸ requests.queued (still ▸ taken), fun _ => all,
    q'.inHand, inHand_length q', all⟩

/-- Receiving ends without another frame. -/
private theorem finish_none (requests : Requests most read given before q) (result : ReceiveEnd)
    (told : result = .cancelled ∨ ∃ deadline, q.phase = .reading deadline) :
    Requests most read (given ++ (q.finish result).queue.drop q.queue.length) before
      (q.finish result) := by
  -- Finishing puts nothing in the queue.
  simp only [finish, List.drop_length, List.append_nil]
  refine ⟨requests.queued, fun whole => ?_, requests.part⟩
  rcases told with told | ⟨deadline, phase⟩
  · subst told
    cases whole
  · -- Nothing was in hand.
    simpa [inHand, phase] using requests.whole (by simp [isBrokenOff, phase])

/-- A step of receiving takes a request in hand, or hands on the one it has. -/
theorem step {now : Nat} {cancelled : Bool} {f : Option SessionFailure}
    (requests : Requests most read given before q) (limit : q.maxMessageSize = most)
    (moved : q.Steps now cancelled q' f) :
    Requests most (read ++ (q.reads? cancelled).toList) (given ++ q'.queue.drop q.queue.length)
      before q' := by
  subst limit
  have none (silent : q.reads? cancelled = none) :
      read ++ (q.reads? cancelled).toList = read := by simp [silent]
  cases moved with
  | told phase told =>
    rw [none (by simp [Receiver.reads?, phase, told])]
    exact requests.finish_none .cancelled (.inl rfl)
  | decoded phase untold first means | noticed phase untold first means
  | parted phase untold first means | failed phase untold first means =>
    -- What the receiver has in hand then is what the frame means.
    rw [untold, reads?_first phase first]
    exact requests.read_one _ phase rfl rfl (by rw [(InFrame.told_by_meaning means).1]; rfl)
  | ended phase untold empty _ =>
    rw [none (by simp [Receiver.reads?, phase, empty])]
    exact requests.finish_none _ (.inr ⟨_, phase⟩)
  | lost phase untold empty _ =>
    rw [none (by simp [Receiver.reads?, phase, empty])]
    exact requests.finish_none _ (.inr ⟨_, phase⟩)
  | stopped phase _ =>
    rw [none (by simp [Receiver.reads?, phase])]
    exact requests.finish_none .cancelled (.inl rfl)
  | @handed request phase untold still _ =>
    -- The request goes from the hand to the end of the queue.
    rw [none (by simp [Receiver.reads?, phase])]
    have whole := requests.whole (by simp [isBrokenOff, phase])
    simp only [inHand, phase] at whole
    simp only [List.drop_left]
    refine ⟨fun taken => ?_, fun _ => ?_, [], Nat.zero_le 1, ?_⟩
    · rw [← List.append_assoc, requests.queued taken]
    · simpa [inHand] using whole
    · simpa using whole

/-- The first request of the queue is taken. -/
theorem take {request : Request} {rest : List Request}
    (requests : Requests most read given before q) (queue : q.queue = request :: rest) :
    Requests most read given (before ++ [request]) { q with queue := rest } := by
  -- The request goes from the queue to those that were taken.
  refine ⟨fun taken => ?_, requests.whole, requests.part⟩
  rw [← requests.queued taken, queue, List.append_assoc]
  rfl

/-- What does not concern the requests leaves them where they are. -/
theorem same (requests : Requests most read given before q) (phase : q'.phase = q.phase)
    (queue : q'.taken = true → q.taken = true ∧ q'.queue = q.queue) :
    Requests most read given before q' := by
  -- What is told of the requests hangs on the phase and on the queue.
  refine ⟨fun taken => ?_, fun whole => ?_, requests.part⟩
  · rw [(queue taken).2]
    exact requests.queued (queue taken).1
  · have hand : q'.inHand = q.inHand := by simp only [inHand, phase]
    rw [hand]
    exact requests.whole (by simpa only [isBrokenOff, phase] using whole)

end Requests

/-- What a step of receiving reads or finds tells how it ends. -/
theorem step_end {q q' : Receiver} {now : Nat} {cancelled : Bool} {f : Option SessionFailure}
    (moved : q.step now cancelled = some (q', f)) :
    (q'.phase = .finished .failed ↔
      (∃ frame, q.reads? cancelled = some frame ∧
        frame.ends? q.maxMessageSize = some .failed) ∨ q.findsSilence cancelled = true) ∧
    (q'.phase = .finished .peerClosed ↔
      (∃ frame, q.reads? cancelled = some frame ∧
        frame.ends? q.maxMessageSize = some .peerClosed) ∨ q.findsEnd cancelled = true) ∧
    (q'.phase = .finished .cancelled ↔ q.findsNoUse cancelled = true) := by
  cases step_steps moved with
  | told phase told =>
    simp [finish, Receiver.reads?, findsSilence, findsEnd, findsNoUse, phase, told]
  | decoded phase untold first means | noticed phase untold first means
  | parted phase untold first means =>
    simp [finish, Receiver.reads?, findsSilence, findsEnd, findsNoUse, phase, untold, first,
      (InFrame.told_by_meaning means).2, Meaning.end?]
  | @failed _ _ _ f phase untold first means =>
    -- Whether the fault is an expected one decides between the two ends.
    cases expected : f.isExpected <;>
      simp [finish, fail, Receiver.reads?, findsSilence, findsEnd, findsNoUse, phase, untold, first,
        (InFrame.told_by_meaning means).2, Meaning.end?, expected]
  | ended phase untold empty hungUp =>
    simp [finish, Receiver.reads?, findsSilence, findsEnd, findsNoUse, phase, untold, empty,
      hungUp]
  | lost phase untold empty _ =>
    -- Behind the end of the stream there is no silence.
    have goesOn : q.ended = false := by
      refine Bool.eq_false_iff.mpr fun hungUp => ?_
      simp [step, phase, untold, empty, hungUp] at moved
    simp [finish, fail, Receiver.reads?, findsSilence, findsEnd, findsNoUse, phase, untold, empty,
      goesOn, SessionFailure.isExpected]
  | stopped phase told =>
    simp [finish, Receiver.reads?, findsSilence, findsEnd, findsNoUse, phase, told]
  | handed phase untold taken _ =>
    simp [Receiver.reads?, findsSilence, findsEnd, findsNoUse, phase, untold, taken]

/-- A receiver that finds silence has lost patience. -/
theorem step_late {q q' : Receiver} {now deadline : Nat} {cancelled : Bool}
    {f : Option SessionFailure} (moved : q.step now cancelled = some (q', f))
    (silent : q.findsSilence cancelled = true) (phase : q.phase = .reading deadline) :
    deadline ≤ now := by
  simp only [findsSilence, phase, Bool.and_eq_true, Bool.not_eq_true',
    List.isEmpty_iff] at silent
  obtain ⟨⟨untold, empty⟩, goesOn⟩ := silent
  -- Before its deadline it would go on waiting.
  refine Nat.le_of_not_lt fun early => ?_
  simp [step, phase, untold, empty, goesOn, Nat.not_le.mpr early] at moved

/-- A receiver that has to wait has a request in hand and no room for it, or waits for a frame and
has not lost patience yet. -/
theorem waits_of_step {q : Receiver} {now : Nat} {cancelled : Bool}
    (waits : q.step now cancelled = none) (runs : q.isRunning = true) :
    cancelled = false ∧
      ((q.inHand ≠ [] ∧ q.taken = true ∧ q.capacity ≤ q.queue.length) ∨
        (q.inHand = [] ∧ q.arrived = [] ∧ q.ended = false ∧
          ∃ deadline, q.phase = .reading deadline ∧ now < deadline)) := by
  unfold step at waits
  split at waits
  · next deadline phase =>
    -- It would read a frame, or notice the end of the stream or the silence.
    split at waits
    · cases waits
    · next untold =>
      split at waits
      · dsimp only at waits
        split at waits <;> cases waits
      · next empty =>
        split at waits
        · cases waits
        · next goesOn =>
          split at waits
          · cases waits
          · next early =>
            exact ⟨by simpa using untold, .inr ⟨by simp [inHand, phase], empty,
              by simpa using goesOn, deadline, phase, by omega⟩⟩
  · next request phase =>
    -- It would stop, or hand the request on.
    split at waits
    · cases waits
    · next used =>
      have used : cancelled = false ∧ q.taken = true := by simpa using used
      split at waits
      · cases waits
      · next full =>
        exact ⟨used.1, .inl ⟨by simp [inHand, phase], used.2, by omega⟩⟩
  · next phase => simp [isRunning, phase] at runs
  · next phase => simp [isRunning, phase] at runs

/-- A step reports something only where it fails. -/
theorem report_step {q q' : Receiver} {now : Nat} {cancelled : Bool} {f : Option SessionFailure}
    {a : Alarms} (moved : q.Steps now cancelled q' f) (room : a.capacity = Alarms.sessionCapacity)
    (calm : a.queue = []) :
    (q'.phase ≠ .finished .failed → (a.reportAny f).queue = []) ∧
      (q'.phase = .finished .failed →
        ∃ fault, fault.isExpected = false ∧ (a.reportAny f).queue = [fault]) := by
  cases moved with
  | @failed _ _ _ fault phase untold first means =>
    -- An expected failure is the client's goodbye, and nobody is told.
    cases expected : fault.isExpected with
    | true => simp [fail, finish, Alarms.reportAny, Alarms.report, expected, calm]
    | false =>
      refine ⟨fun other => absurd (by simp [fail, finish, expected]) other,
        fun _ => ⟨fault, expected, ?_⟩⟩
      simp [Alarms.reportAny, Alarms.report, expected, calm, room, Alarms.sessionCapacity]
  | lost =>
    refine ⟨fun other => absurd rfl other,
      fun _ => ⟨.livenessTimeout (.ofMillis q.liveness), rfl, ?_⟩⟩
    simp [Alarms.reportAny, Alarms.report, SessionFailure.isExpected, calm, room,
      Alarms.sessionCapacity]
  | _ => simp [finish, Alarms.reportAny, calm]

end Receiver

end WatchRelay
