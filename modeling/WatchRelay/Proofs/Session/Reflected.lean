import WatchRelay.Proofs.Session.CloseCodes
import WatchRelay.Proofs.Wire.Reflected

/-! A client that sends back what it is sent: no subscription begins or ends for it, and no session
is closed. -/

namespace WatchRelay

/-- Whether a failure is that a text of the client is refused. -/
def SessionFailure.refuses : SessionFailure → Bool
  | .malformed _ | .tooLarge _ _ => true
  | .transport _ | .writeTimeout _ | .livenessTimeout _ | .closed => false

/-- What goes wrong with a write is not that a text is refused. -/
theorem Outlet.refuses_of_stepWrite {o o' : Outlet} {now : Nat} {w : Writer} {frame : OutFrame}
    {stage : WriteStage}
    {ok : Bool} {f : Option SessionFailure}
    (moved : o.stepWrite now w frame stage = some (o', .done ok f)) :
    ∀ g ∈ f, g.refuses = false := by
  -- The transport fails, or it takes too long.
  cases stage with
  | queued =>
    simp only [stepWrite] at moved
    split at moved
    · split at moved <;> cases moved
      simp
    · cases moved
  | sending deadline =>
    simp only [stepWrite] at moved
    split at moved
    · cases moved
    · cases moved
      rintro _ ⟨⟩
      rfl
    · split at moved <;> cases moved
      rintro _ ⟨⟩
      rfl
  | flushing deadline =>
    simp only [stepWrite] at moved
    split at moved
    · cases moved
      simp
    · cases moved
      rintro _ ⟨⟩
      rfl
    · split at moved <;> cases moved
      rintro _ ⟨⟩
      rfl

/-- Keep-alive refuses no text. -/
theorem KeepAlive.Steps.refuses {k k' : KeepAlive} {o o' : Outlet} {now : Nat} {cancelled : Bool}
    {f : Option SessionFailure} (moved : k.Steps o now cancelled k' o' f) :
    ∀ g ∈ f, g.refuses = false := by
  -- A ping can only fail in being written.
  cases moved with
  | pinged _ writes | failed _ writes => exact Outlet.refuses_of_stepWrite writes
  | _ => simp

/-- A runner refuses no text. -/
theorem Runner.Steps.refuses {r r' : Runner} {o o' : Outlet} {e e' : Surroundings}
    {credentials : Credentials}
    {stopped : Bool} {f : Option SessionFailure}
    (moved : r.Steps o e credentials stopped (r', o', e', f)) :
    ∀ g ∈ f, g.refuses = false := by
  generalize whole : (r', o', e', f) = change at moved
  cases moved with
  | forwarded _ writes | failed _ writes =>
    cases whole
    exact Outlet.refuses_of_stepWrite writes
  | opened _ _ =>
    -- However the backend answers, nothing is reported.
    unfold openWatch at whole
    dsimp only at whole
    split at whole <;> cases whole <;> simp
  | consumed _ _ consumes =>
    subst whole
    unfold consume at consumes
    split at consumes
    · split at consumes <;> cases consumes <;> simp
    all_goals cases consumes
    all_goals simp
  | _ =>
    cases whole
    simp

/-- A failure among those that are kept was there before, or is the one that is reported. -/
theorem Alarms.mem_reportAny {a : Alarms} {f : Option SessionFailure} {g : SessionFailure}
    (member : g ∈ (a.reportAny f).queue) : g ∈ a.queue ∨ f = some g := by
  -- A failure is added at the end, or it is dropped.
  cases f with
  | none => exact .inl member
  | some f =>
    simp only [reportAny, report] at member
    split at member
    · exact .inl member
    · split at member
      · rcases List.mem_append.mp member with before | new
        · exact .inl before
        · exact .inr (congrArg some (List.mem_singleton.mp new).symm)
      · exact .inl member

/-- A receiver refuses only the text of the frame that it reads. -/
theorem Receiver.Steps.refuses {r r' : Receiver} {now : Nat} {cancelled : Bool}
    {f : Option SessionFailure}
    (moved : r.Steps now cancelled r' f) {g : SessionFailure} (reports : f = some g)
    (refuses : g.refuses = true) :
    ∃ frame, r.reads? cancelled = some frame ∧
      Receiver.meaning r.maxMessageSize frame = .fault g := by
  -- Only a frame that is refused is reported as such. The other failure is the silence of the
  -- client.
  cases moved with
  | @failed _ frame rest f reads untold first means =>
    cases reports
    refine ⟨frame, ?_, means⟩
    rw [untold]
    exact Receiver.reads?_first reads first
  | lost _ _ _ _ =>
    cases reports
    cases refuses
  | _ => cases reports

namespace InFrame

/-- Whether a frame carries the text of a message that asks for nothing, and the text is not too
long. -/
def IsReflected (most : Nat) (frame : InFrame) : Prop :=
  ∃ m : Message, ¬ m.op.Asks ∧ m.IsHeld ∧ frame.text? = some m.print ∧
    m.print.utf8ByteSize ≤ most

/-- What a frame means is what its text means. -/
theorem meaning_of_text {most : Nat} {frame : InFrame} {text : String}
    (content : frame.text? = some text) :
    Receiver.meaning most frame = Receiver.meaning.ofDecoded (Receiver.decode most text) := by
  cases frame with
  | text _ =>
    cases content
    rfl
  | binary bytes =>
    -- Bytes have a text where they are decoded to it.
    have decoded : (Utf8.decode bytes).toOption = some text := content
    cases reads : Utf8.decode bytes with
    | error _ =>
      rw [reads] at decoded
      cases decoded
    | ok other =>
      rw [reads] at decoded
      cases decoded
      simp [Receiver.meaning, reads]
  | _ => cases content

/-- A message that is sent back means a request to be ignored. -/
theorem meaning_of_print {most : Nat} {frame : InFrame} {m : Message} (asks : ¬ m.op.Asks)
    (held : m.IsHeld)
    (content : frame.text? = some m.print) (short : m.print.utf8ByteSize ≤ most) :
    Receiver.meaning most frame = .request (.ignored m.op) := by
  have decoded : Receiver.decode most m.print = .ok (.ignored m.op) := by
    rw [Receiver.decode, if_neg (Nat.not_lt.mpr short), Message.parse_print asks held]
    rfl
  rw [meaning_of_text content, decoded]
  rfl

end InFrame

namespace Session

variable {s s' s₀ : Session} {e e' e₀ : Surroundings} {past : List Occasion} {m : Move}

/-! ### Texts that are refused -/

/-- In a step of the event loop, no text is refused. -/
theorem LoopSteps.refuses (moved : s.LoopSteps e s' e') {f : SessionFailure}
    (member : f ∈ s'.alarms.queue)
    (refuses : f.refuses = true) : f ∈ s.alarms.queue := by
  -- Leaving the loop reports nothing.
  have leaves (alarms : Alarms) (code : CloseCode)
      (kept : f ∈ ({ s with alarms, closeCode := code }.leave e.now).alarms.queue) :
        f ∈ alarms.queue := by
    simpa [leave, ResourceKind.all, beginClosing] using kept
  -- The loop takes failures out of the queue, and puts in that of a write at most.
  cases moved with
  | told _ _ => exact leaves s.alarms .away member
  | @failed _ rest _ _ alarm =>
    rw [alarm]
    exact List.mem_cons_of_mem _ (leaves _ _ member)
  | @dispatched request rest _ _ _ _ =>
    have acts :=
      dispatch_dispatches { s with receiver := { s.receiver with queue := rest } } request
    have same := acts.keeps Session.alarms release_alarms fun _ _ _ => rfl
    rw [same] at member
    exact member
  | ended _ _ _ _ _ => exact leaves s.alarms s.closeCode member
  | reaped _ _ _ _ _ _ => exact member
  | wrote _ _ => exact member
  | @answered _ _ _ _ g start _ writes =>
    have reported : f ∈ (s.alarms.reportAny g).queue := by cases start <;> exact member
    refine (Alarms.mem_reportAny reported).resolve_right fun same => ?_
    rw [Outlet.refuses_of_stepWrite writes f same] at refuses
    cases refuses
  | drained _ _ | aborted _ _ => cases member

/-- That a text is refused was reported before a move, or the receiver reads the text in it. -/
theorem Moves.refuses (moved : s.Moves e m s' e') {f : SessionFailure}
    (member : f ∈ s'.alarms.queue)
    (refuses : f.refuses = true) :
    f ∈ s.alarms.queue ∨ ∃ frame, Occasion.read? ⟨s, e, m⟩ = some frame ∧
      Receiver.meaning s.receiver.maxMessageSize frame = .fault f := by
  -- What a writer reports is never that a frame is refused.
  have reported {g : Option SessionFailure} (among : f ∈ (s.alarms.reportAny g).queue)
      (accepts : ∀ h ∈ g, h.refuses = false) : f ∈ s.alarms.queue := by
    refine (Alarms.mem_reportAny among).resolve_right fun same => ?_
    rw [accepts f same] at refuses
    cases refuses
  cases moved with
  | received steps =>
    rcases Alarms.mem_reportAny member with before | new
    · exact .inl before
    · exact .inr (steps.refuses new refuses)
  | looped steps => exact .inl (steps.refuses member refuses)
  | keptAlive steps => exact .inl (reported member steps.refuses)
  | ran _ steps => exact .inl (reported member steps.refuses)
  | closed steps => cases steps <;> exact .inl member
  | _ => exact .inl member

/-- In any run, a text that is refused is that of a frame that was read. -/
theorem Run.refuses (begins : Begins s₀) (run : Run s₀ e₀ past s e) {f : SessionFailure}
    (member : f ∈ s.alarms.queue) (refuses : f.refuses = true) :
    ∃ frame ∈ reads past, Receiver.meaning s.receiver.maxMessageSize frame = .fault f := by
  -- Each failure in the queue was read at some occasion before.
  refine run.keeps_along (P := fun past s _ => f ∈ s.alarms.queue →
    ∃ frame ∈ reads past, Receiver.meaning s.receiver.maxMessageSize frame = .fault f)
      ?_ ?_ member
  · intro among
    cases begins <;> cases among
  · intro past t t' x x' m run moved held among
    have moves := move_moves moved
    rw [(moves.receiver (run.sound begins).numbered).limit, reads, filterMap_concat]
    rcases moves.refuses among refuses with before | ⟨frame, reads, means⟩
    · obtain ⟨frame, read, means⟩ := held before
      exact ⟨frame, List.mem_append_left _ read, means⟩
    · exact ⟨frame, List.mem_append_right _ (by simp [reads]), means⟩

/-- In any run, the close code blames a text of the client only where the text of a frame was
refused. -/
theorem Run.blames (begins : Begins s₀) (run : Run s₀ e₀ past s e)
    (blames : s.closeCode = .invalid ∨ s.closeCode = .size) :
    ∃ frame ∈ reads past, ∃ f, Receiver.meaning s.receiver.maxMessageSize frame =
      .fault f := by
  have tells := run.tells begins
  have left : ¬ (s.loop.isOpen = true ∨ s.loop = .discarded) := fun unleft => by
    rw [(tells.before unleft).1] at blames
    exact blames.elim nofun nofun
  obtain ⟨shut, kept⟩ := not_or.mp left
  obtain ⟨o, member, leaves⟩ := tells.left (by simpa using shut) kept
  -- The event loop has left for a failure that was reported by then.
  have cause := tells.cause o member leaves
  obtain ⟨before, after, rfl⟩ := List.append_of_mem member
  obtain ⟨s₁, e₁, first, moved, later⟩ := run.split
  generalize s.closeCode = code at blames cause
  cases cause with
  | told _ => exact blames.elim nofun nofun
  | parted _ _ _ _ => exact blames.elim nofun nofun
  | @failed f rest untold alarm =>
    have refuses : f.refuses = true := by
      cases f <;> simp_all [CloseCode.ofFailure, SessionFailure.refuses]
    obtain ⟨frame, read, means⟩ :=
      first.refuses begins (by rw [alarm]; exact List.mem_cons_self) refuses
    have limit := (Run.append (.next .start moved) later).limit (first.sound begins)
    refine ⟨frame, ?_, f, ?_⟩
    · rw [reads, List.filterMap_append]
      exact List.mem_append_left _ read
    · rw [limit]
      exact means

/-! ### Subscriptions that begin and end -/

/-- In any run, what the event loop took is the request of a frame that was read. -/
theorem Run.read_of_taken (begins : Begins s₀) (run : Run s₀ e₀ past s e) {o : Occasion}
    {request : Request}
    (member : o ∈ past) (taken : o.taken? = some request) :
    ∃ frame ∈ reads past, frame.request? s.receiver.maxMessageSize = some request := by
  -- A request that was taken was in the queue, where only what was read is put.
  have among : request ∈ Session.taken past ++ s.receiver.queue :=
    List.mem_append_left _ (List.mem_filterMap.mpr ⟨o, member, taken⟩)
  exact List.mem_filterMap.mp ((run.intake begins).queued.subset among)

/-- A runner that is there when a kind is released was there before, or it is the one on record for
the kind. -/
theorem release_found {t : Session} {kind : ResourceKind} {id : Nat} {r' : Runner}
    (found : (t.release kind).runners[id]? = some r') :
    t.runners[id]? = some r' ∨ t.active.get kind = some id ∧
      ∃ r, t.runners[id]? = some r ∧ r' = { r with cancelled := true } := by
  -- Only the runner in the record is told.
  unfold release at found
  split at found
  · next k recorded =>
    have modified : (t.runners.modify k fun r => { r with cancelled := true })[id]? = some r' :=
      found
    rw [List.getElem?_modify] at modified
    obtain ⟨r, before, same⟩ := Option.map_eq_some_iff.mp modified
    split at same
    · next own => exact .inr ⟨own ▸ recorded, r, before, same.symm⟩
    · exact .inl (before.trans (congrArg some same))
  · exact .inl found

/-- A runner that is told to stop in a step of the event loop was told before, or the session ends,
or the client ends its subscription. -/
theorem LoopSteps.ends (recorded : Recorded s) (numbered : s.Numbered) (moved : s.LoopSteps e s' e')
    {id : Nat}
    {r' : Runner} (found : s'.runners[id]? = some r') (told : r'.cancelled = true)
    (goes : s'.cancelled = false) :
    (∃ r, s.runners[id]? = some r ∧ r.kind = r'.kind ∧ r.cancelled = true) ∨
      s.takes? = some (.unsubscribe (.known r'.kind)) := by
  -- Leaving the loop ends the session.
  have leaves {P : Prop} (alarms : Alarms) (code : CloseCode)
      (goes : ({ s with alarms, closeCode := code }.leave e.now).cancelled = false) : P := by
    rw [leave_cancelled] at goes
    cases goes
  cases moved with
  | told _ _ => exact leaves s.alarms .away goes
  | failed _ _ _ => exact leaves _ _ goes
  | @dispatched request rest selects untold calm waiting =>
    have takes : s.takes? = some request := by simp [takes?, selects, untold, calm, waiting]
    cases request with
    | subscribe kind project => exact .inl ⟨r', found, rfl, told⟩
    | ignored op => exact .inl ⟨r', found, rfl, told⟩
    | unsubscribe kind =>
      cases kind with
      | unknown text => exact .inl ⟨r', found, rfl, told⟩
      | known kind =>
        -- The runner that is on record for a kind is one of the kind.
        rcases release_found (t := { s with receiver := { s.receiver with queue := rest } })
          found with
          before | ⟨record, r, there, rfl⟩
        · exact .inl ⟨r', before, rfl, told⟩
        · obtain ⟨q, same, rfl, -⟩ := recorded.entry kind id record
          obtain rfl := Option.some.inj (same.symm.trans there)
          exact .inr takes
  | ended _ _ _ _ _ => exact leaves s.alarms s.closeCode goes
  | reaped _ _ _ _ _ _ =>
    -- Taking note of an end tells nobody to stop.
    obtain ⟨r, before, which⟩ := found_of_modify found
    rcases which with rfl | rfl <;> exact .inl ⟨_, before, rfl, told⟩
  | wrote _ _ => exact .inl ⟨r', found, rfl, told⟩
  | @answered _ _ _ _ _ start _ _ =>
    cases start with
    | none => exact .inl ⟨r', found, rfl, told⟩
    | some due =>
      -- A runner that is started is not told to stop.
      rcases found_of_concat found with before | ⟨-, -, rfl⟩
      · exact .inl ⟨r', before, rfl, told⟩
      · cases told
  | drained _ _ => exact .inl ⟨r', found, rfl, told⟩
  | aborted _ _ =>
    obtain ⟨r, before, rfl | ⟨-, rfl⟩⟩ := abortRunners_found numbered e found
    · exact .inl ⟨r', before, rfl, told⟩
    · exact .inl ⟨r, before, rfl, told⟩

/-- A runner that is told to stop was told before, or the session ends, or the client ends its
subscription. -/
theorem Moves.ends_subscription (recorded : Recorded s) (numbered : s.Numbered)
    (moved : s.Moves e m s' e') {id : Nat}
    {r' : Runner} (found : s'.runners[id]? = some r') (told : r'.cancelled = true)
    (goes : s'.cancelled = false) :
    (∃ r, s.runners[id]? = some r ∧ r.kind = r'.kind ∧ r.cancelled = true) ∨
      Occasion.taken? ⟨s, e, m⟩ = some (.unsubscribe (.known r'.kind)) := by
  -- Only the event loop tells a single runner to end.
  cases moved with
  | looped steps => exact steps.ends recorded numbered found told goes
  | @ran k r q _ _ _ there steps =>
    rcases found_of_set found with ⟨rfl, rfl⟩ | ⟨-, before⟩
    · -- A step changes nothing about a runner but its phase.
      obtain ⟨phase, rfl⟩ := steps.phase
      exact .inl ⟨r, there, rfl, told⟩
    · exact .inl ⟨r', before, rfl, told⟩
  | closed steps => cases steps <;> exact .inl ⟨r', found, rfl, told⟩
  | _ => exact .inl ⟨r', found, rfl, told⟩

/-- In any run, a runner is told to stop only where the session ends or the client ends its
subscription. -/
theorem Run.ends_subscription (begins : Begins s₀) (run : Run s₀ e₀ past s e) {id : Nat}
    {r : Runner}
    (found : s.runners[id]? = some r) (told : r.cancelled = true) (goes : s.cancelled = false) :
    ∃ o ∈ past, o.taken? = some (.unsubscribe (.known r.kind)) := by
  -- Whoever tells the runner, it was told at a first occasion, and the session went on behind it.
  refine run.keeps_along (P := fun past s _ => ∀ (r : Runner), s.runners[id]? = some r →
    r.cancelled = true →
    s.cancelled = false → ∃ o ∈ past, o.taken? = some (.unsubscribe (.known r.kind))) ?_ ?_ r
      found told goes
  · intro r found
    simp [begins.runners] at found
  · intro past t t' x x' m run moved held r' found told goes
    have numbered := (run.sound begins).numbered
    rcases (move_moves moved).ends_subscription (run.recorded begins) numbered found told goes with
      ⟨r, before, same, told'⟩ | now
    · -- The session did not end before either.
      have goes' : t.cancelled = false := by
        refine Bool.eq_false_iff.mpr fun ended => ?_
        rw [(move_moves moved).cancelled numbered ended] at goes
        cases goes
      obtain ⟨o, member, taken⟩ := held r before told' goes'
      exact ⟨o, List.mem_append_left _ member, by rw [taken, same]⟩
    · exact ⟨_, List.mem_append_right _ (List.mem_singleton_self _), now⟩

/-! ### What is sent back -/

/-- No message on the connection asks for anything. -/
theorem Run.asks_nothing (begins : Begins s₀) (run : Run s₀ e₀ past s e) {m : Message}
    {w : Writer}
    (sent : (.message m, w) ∈ s.outlet.sent) : ¬ m.op.Asks := by
  have suits := (run.sound begins).proper.sent _ sent
  -- The event loop acknowledges, the runners report, and nobody else writes messages.
  rintro (asks | asks) <;> cases w <;>
    simp [OutFrame.suits, asks, Operation.isAcknowledgment, Operation.isNotification] at suits

/-- The request of a frame that is read is handed on, and nothing else happens. -/
theorem move_of_request {frame : InFrame} {request : Request}
    (reads : s.receiver.reads? s.cancelled = some frame)
    (means : Receiver.meaning s.receiver.maxMessageSize frame = .request request) :
    s.move e (.task .receiver) = some ({ s with
      receiver := { s.receiver with
        arrived := s.receiver.arrived.tail, phase := .handing request } }, e) := by
  -- A frame that is read stands first, and the receiver reads and is not told to stop.
  unfold Receiver.reads? at reads
  split at reads
  · next deadline phase =>
    split at reads
    · cases reads
    · next untold =>
      obtain ⟨rest, first⟩ := List.head?_eq_some_iff.mp reads
      simp [move, step, Receiver.step, phase, untold, first, means, Alarms.reportAny]
  all_goals cases reads

/-- A request to be ignored is taken from the queue, and nothing else happens. -/
theorem move_of_ignored {op : Operation} (takes : s.takes? = some (.ignored op)) :
    s.move e (.task .eventLoop) =
      some ({ s with receiver := { s.receiver with queue := s.receiver.queue.tail } }, e) := by
  -- Taking an ignored request does nothing else.
  obtain ⟨rest, waiting, moves⟩ := move_of_takes (e := e) takes
  rw [moves, waiting]
  rfl

/-- What the relay sends asks for nothing, and sent back it is ignored.

A message that is no request is read as one to be ignored, with any kind, project and payload.
Every message on the connection of a session is such a one.

A frame that carries it within the limit of a message's size only becomes a request to be ignored.
That one is only taken from the queue.

So every runner of a session is there for a frame that carries something else.
Every runner that is told to stop in a session that goes on is told so for such a frame.
So is every close code that blames a text of the client. -/
theorem reflected_messages_are_ignored :
    (∀ m : Message, ¬ m.op.Asks → m.IsHeld → Request.parse m.print = .ok (.ignored m.op)) ∧
    (∀ (s : Session) (e : Surroundings) (frame : InFrame) (m : Message),
      s.receiver.reads? s.cancelled = some frame → ¬ m.op.Asks → m.IsHeld →
      frame.text? = some m.print →
      m.print.utf8ByteSize ≤ s.receiver.maxMessageSize →
      s.move e (.task .receiver) = some ({ s with
        receiver := { s.receiver with
          arrived := s.receiver.arrived.tail, phase := .handing (.ignored m.op) } }, e)) ∧
    (∀ (s : Session) (e : Surroundings) (op : Operation), s.takes? = some (.ignored op) →
      s.move e (.task .eventLoop) =
        some ({ s with receiver := { s.receiver with queue := s.receiver.queue.tail } }, e)) ∧
    ∀ {s₀ s : Session} {e₀ e : Surroundings} {past : List Occasion}, Begins s₀ →
      Run s₀ e₀ past s e →
      (∀ m w, (.message m, w) ∈ s.outlet.sent → ¬ m.op.Asks) ∧
      (∀ r ∈ s.runners,
        ∃ frame ∈ reads past, ¬ frame.IsReflected s.receiver.maxMessageSize ∧
          frame.request? s.receiver.maxMessageSize =
            some (.subscribe (.known r.kind) r.project)) ∧
      (∀ r ∈ s.runners, r.cancelled = true → s.cancelled = false →
        ∃ frame ∈ reads past, ¬ frame.IsReflected s.receiver.maxMessageSize ∧
          frame.request? s.receiver.maxMessageSize = some (.unsubscribe (.known r.kind))) ∧
      (s.closeCode = .invalid ∨ s.closeCode = .size →
        ∃ frame ∈ reads past, ¬ frame.IsReflected s.receiver.maxMessageSize ∧
          ∃ f, Receiver.meaning s.receiver.maxMessageSize frame = .fault f) := by
  refine ⟨fun m asks held => Message.parse_print asks held,
    fun s e frame m reads asks held content short =>
      move_of_request reads (InFrame.meaning_of_print asks held content short),
    fun s e op takes => move_of_ignored takes, fun {s₀ s e₀ e past} begins run => ?_⟩
  -- What is sent back is neither a request to be acted on nor a fault.
  have other {frame : InFrame} {meaning : Receiver.Meaning}
    (differ : ∀ op, meaning ≠ .request (.ignored op))
      (means : Receiver.meaning s.receiver.maxMessageSize frame = meaning) :
      ¬ frame.IsReflected s.receiver.maxMessageSize := by
    rintro ⟨m, asks, held, content, short⟩
    exact differ m.op (means.symm.trans (InFrame.meaning_of_print asks held content short))
  have wanted {frame : InFrame} {request : Request} (differ : ∀ op, request ≠ .ignored op)
      (asks : frame.request? s.receiver.maxMessageSize = some request) :
      ¬ frame.IsReflected s.receiver.maxMessageSize := by
    unfold InFrame.request? at asks
    cases means : Receiver.meaning s.receiver.maxMessageSize frame with
    | request wanted =>
      rw [means] at asks
      cases asks
      exact other (fun op same => differ op (by cases same; rfl)) means
    | _ =>
      rw [means] at asks
      cases asks
  refine ⟨fun m w sent => run.asks_nothing begins sent, fun r member => ?_,
    fun r member told goes => ?_, fun blames => ?_⟩
  -- A runner begins with a subscribe that was taken, and so read before.
  · obtain ⟨id, found⟩ := List.getElem?_of_mem member
    obtain ⟨asked, started, ⟨before, between, after, same, -⟩, asks, -⟩ :=
      (run.begun begins).origin id r found
    obtain ⟨frame, read, request⟩ := run.read_of_taken begins (same ▸ by simp) asks.taken
    exact ⟨frame, read, wanted (by simp) request, request⟩
  -- A runner that is told while the session goes on was told by an unsubscribe.
  · obtain ⟨id, found⟩ := List.getElem?_of_mem member
    obtain ⟨o, among, taken⟩ := run.ends_subscription begins found told goes
    obtain ⟨frame, read, request⟩ := run.read_of_taken begins among taken
    exact ⟨frame, read, wanted (by simp) request, request⟩
  -- The code blames the client only for a fault in what was read.
  · obtain ⟨frame, read, f, means⟩ := run.blames begins blames
    exact ⟨frame, read, other (by simp) means, f, means⟩

/-- A client that sends back a notification about a resource that reads like a request, and then
subscribes, has the one runner it asked for. -/
theorem reflected_messages_are_ignored_subscribed :
    ∃ (m : Message) (s t : Session) (e x : Surroundings) (past : List Occasion) (r : Runner),
      m.payload =
        some (.object [("op", .string "subscribe"), ("x", .number (.double ⟨true, 3, -1⟩))]) ∧
      Request.parse m.print = .ok (.ignored m.op) ∧
      ({ s with receiver := { s.receiver with arrived := [.text m.print] } } : Session).move e
          (.task .receiver) =
        some ({ s with receiver := { s.receiver with phase := .handing (.ignored m.op) } }, e) ∧
      ({ s with receiver := { s.receiver with queue := [.ignored m.op] } } : Session).move e
          (.task .eventLoop) =
        some (s, e) ∧
      Run s e past t x ∧ t.runners = [r] ∧
      ∃ frame ∈ reads past, ¬ frame.IsReflected t.receiver.maxMessageSize ∧
        frame.request? t.receiver.maxMessageSize = some (.subscribe (.known r.kind) r.project) := by
  let m : Message := ⟨.created, .known .artifact, "p", some (.object
    [("op", .string "subscribe"), ("x", .number (.double ⟨true, 3, -1⟩))])⟩
  let s : Session := .start {} default .clear 0 false
  let e : Surroundings := .start (.of (.played .live))
  -- The message is held, and the moves of a subscribe with the reflected message before it are
  -- played.
  obtain ⟨parses, reading, taking, run⟩ := reflected_messages_are_ignored
  have asks : ¬ m.op.Asks := by simp [m, Operation.Asks]
  have held : m.IsHeld := by
    rintro _ ⟨⟩
    refine .object ?_
    simp only [List.forall_mem_cons]
    exact ⟨.string _, .number ⟨by decide, by decide, by decide⟩, by simp⟩
  let moves : List Move :=
    [.arrive (.text m.print), .task .receiver, .task .receiver, .task .eventLoop,
      .arrive (.text "\x7b\"op\":\"subscribe\",\"kind\":\"Artifact\"\x7d"), .task .receiver,
        .task .receiver,
      .task .eventLoop, .task .eventLoop, .task .eventLoop, .task .eventLoop]
  have plays : ((s.play e moves).any fun p => decide (p.2.1.runners.length = 1)) = true := by
    decide +kernel
  obtain ⟨⟨past, t, x⟩, played, checked⟩ := (Option.any_eq_true _ _).mp plays
  obtain ⟨r, runners⟩ := List.length_eq_one_iff.mp (of_decide_eq_true checked)
  have plays := Run.of_play played
  obtain ⟨-, begun, -, -⟩ := run (.attended _ _ _ _ _) plays
  exact ⟨m, s, t, e, x, past, r, rfl, parses m asks held,
    reading _ e (.text m.print) m rfl asks held rfl (by decide +kernel), taking _ e .created rfl,
      plays, runners,
    begun r (runners ▸ List.mem_singleton_self r)⟩

end Session

end WatchRelay
