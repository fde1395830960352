import WatchRelay.Proofs.Session.Origins
import WatchRelay.Proofs.Session.Taking

/-! Notifications come behind the acknowledgment of the subscription they are for. -/

namespace WatchRelay

/-- A frame that is a notification suits no one but a runner. -/
theorem OutFrame.runner_of_suits {m : Message} {w : Writer}
    (suits : (OutFrame.message m).suits w = true) (reports : m.op.isNotification = true) :
    ∃ id, w = .runner id := by
  cases w with
  | runner id => exact ⟨id, rfl⟩
  | eventLoop =>
    -- No operation both acknowledges a request and reports a change.
    have answers : m.op.isAcknowledgment = true := suits
    cases op : m.op <;> simp_all [Operation.isAcknowledgment, Operation.isNotification]
  | _ => cases suits

/-- What is reported of an event is of the kind that is watched. -/
theorem Event.kind_of_report {kind : ResourceKind} {event : Event} {m : Message}
    (reports : event.notification? kind = some m) : m.kind = .known kind := by
  obtain ⟨op, -, rfl⟩ := Option.map_eq_some_iff.mp reports
  rfl

namespace Session

variable {s s' s₀ : Session} {e e' e₀ : Surroundings} {past : List Occasion}

/-- Once the write half is gone, a runner puts nothing more on the connection. -/
theorem Run.framesOf_gone (sound : s₀.Sound) (run : Run s₀ e₀ past s e)
    (gone : s₀.outlet.writable = false) (id : Nat) : s.framesOf id = s₀.framesOf id := by
  -- Nobody writes behind a half that is gone, whoever moves.
  have held := run.keeps (P := fun t _ => t.Sound ∧ t.outlet.writable = false ∧
    t.framesOf id = s₀.framesOf id) ⟨sound, gone, rfl⟩ ?_
  · exact held.2.2
  · rintro t t' x x' m moved ⟨sound, gone, same⟩
    have moves := move_moves moved
    have steps := moves.writeSide sound.numbered
    refine ⟨moves.sound sound, steps.gone gone, Eq.trans ?_ same⟩
    exact steps.sentBy_gone sound.orderly sound.proper gone fun _ => rfl

/-- A runner that is started behind an acknowledgment whose write failed is started without a write
half. -/
theorem Occasion.Starts.gone {o : Occasion} {id : Nat} {kind : ResourceKind} {project : String}
    (starts : o.Starts id kind project) (numbered : o.session.Numbered)
    (moved : o.session.move o.env o.move = some (s', e')) (fails : o.failsWrite = true) :
    s'.outlet.writable = false := by
  obtain ⟨number, t, x, there, added⟩ := starts
  obtain ⟨rfl, rfl⟩ : t = s' ∧ x = e' := by simpa [there] using moved
  have missing : o.session.runners[id]? = none := List.getElem?_eq_none (by omega)
  have found : t.runners[id]? = some (.new id kind project) := by
    rw [added, ← number]
    exact List.getElem?_concat_length
  obtain ⟨message, stage, o', ok, f, kind, project, own, answers, writes, rfl, -, -⟩ :=
    (move_moves moved).started numbered missing found
  -- The write that has failed is the one of the acknowledgment.
  obtain ⟨session, env, move⟩ := o
  have own : move = .task .eventLoop := own
  subst own
  simp only [Occasion.failsWrite, Task.writer?, Option.map_some, errand_acknowledging answers,
    writes, Bool.not_eq_true'] at fails
  subst fails
  cases Outlet.stepWrite_writes writes with
  | refused _ gone => exact gone
  | failed _ _ => rfl

/-- What a runner has put on the connection is there under its number. -/
theorem mem_framesOf {frame : OutFrame} {id : Nat} :
    frame ∈ s.framesOf id ↔ (frame, Writer.runner id) ∈ s.outlet.sent :=
  Outlet.mem_sentBy

/-- A run passes through the start of each of its runners, which has done nothing by then. -/
theorem Origin.split {id : Nat} {kind : ResourceKind} {project : String} {asked started : Occasion}
    (origin : Origin past id kind project asked started) (begins : Begins s₀)
    (run : Run s₀ e₀ past s e) :
    ∃ earlier later s₁ e₁, Run s₀ e₀ earlier started.session started.env ∧
      started.session.move started.env started.move = some (s₁, e₁) ∧
      Run s₁ e₁ later s e ∧
      started.session.runners[id]? = none ∧ started.session.framesOf id = [] := by
  -- The occasion that starts the runner cuts the run, and no such runner is there before it.
  obtain ⟨before, between, after, rfl, -⟩ := origin.order
  rw [← List.cons_append, ← List.append_assoc] at run
  obtain ⟨s₁, e₁, first, moved, later⟩ := run.split
  have missing : started.session.runners[id]? = none :=
    List.getElem?_eq_none (Nat.le_of_eq origin.starts.number)
  exact ⟨_, after, s₁, e₁, first, moved, later, missing,
    ((first.reporting begins).unborn id missing).1⟩

/-- A runner whose subscription could not be acknowledged puts nothing on the connection. -/
theorem Origin.silent {id : Nat} {kind : ResourceKind} {project : String} {asked started : Occasion}
    (origin : Origin past id kind project asked started) (begins : Begins s₀)
    (run : Run s₀ e₀ past s e) (fails : started.failsWrite = true) : s.framesOf id = [] := by
  -- A failed acknowledgment takes the write half with it before the runner has moved.
  obtain ⟨earlier, after, s₁, e₁, first, moved, later, missing, unborn⟩ :=
    origin.split begins run
  have sound := first.sound begins
  have moves := move_moves moved
  have other := ne_task_of_missing moved missing
  rw [later.framesOf_gone (moves.sound sound) (origin.starts.gone sound.numbered moved fails),
    moves.framesOf sound.numbered other, unborn]

/-- What a runner puts on the connection comes behind what was there when it was started. -/
theorem Origin.behind {id : Nat} {kind : ResourceKind} {project : String} {asked started : Occasion}
    (origin : Origin past id kind project asked started) (begins : Begins s₀)
    (run : Run s₀ e₀ past s e) {before after : List (OutFrame × Writer)} {frame : OutFrame}
    (same : s.outlet.sent = before ++ (frame, .runner id) :: after) :
    started.session.outlet.sent <+: before := by
  obtain ⟨earlier, later, s₁, e₁, first, moved, rest, -, unborn⟩ := origin.split begins run
  have sound := first.sound begins
  have moves := move_moves moved
  have grows := (moves.sent_grows sound.numbered).trans (rest.sent_grows (moves.sound sound))
  rw [same] at grows
  -- Of the frames that were there, none is the runner's.
  rcases Nat.le_total started.session.outlet.sent.length before.length with short | long
  · exact List.prefix_of_prefix_length_le grows (List.prefix_append _ _) short
  · obtain ⟨more, whole⟩ := List.prefix_of_prefix_length_le (List.prefix_append _ _) grows long
    cases more with
    | nil => exact ⟨[], by rw [← whole, List.append_nil, List.append_nil]⟩
    | cons x more =>
      rw [← whole, List.prefix_append_right_inj, List.cons_prefix_cons] at grows
      have among : frame ∈ started.session.framesOf id :=
        mem_framesOf.mpr (by rw [← whole, grows.1]; simp)
      rw [unborn] at among
      cases among

/-- Every notification comes behind the acknowledgment of the subscription it is for.

It was put on the connection by a runner that was started for that subscription to its kind.

A runner whose subscription could not be acknowledged puts nothing there. -/
theorem notifications_follow_acknowledgment (begins : Begins s₀) (run : Run s₀ e₀ past s e) :
    (∀ before m w after, s.outlet.sent = before ++ (.message m, w) :: after →
      m.op.isNotification = true →
      ∃ id r asked started, w = .runner id ∧ s.runners[id]? = some r ∧
        m.kind = .known r.kind ∧
        Origin past id r.kind r.project asked started ∧ asked.IsAnswered r.kind before) ∧
    ∀ id kind project asked started, Origin past id kind project asked started →
      started.failsWrite = true → s.framesOf id = [] := by
  refine ⟨fun before m w after same reports => ?_,
    fun id kind project asked started origin fails => origin.silent begins run fails⟩
  have reporting := run.reporting begins
  have member : (.message m, w) ∈ s.outlet.sent := by rw [same]; simp
  obtain ⟨id, rfl⟩ := OutFrame.runner_of_suits ((run.sound begins).proper.sent _ member) reports
  have among : .message m ∈ s.framesOf id := mem_framesOf.mpr member
  -- Only a runner that is there has put anything on the connection.
  cases found : s.runners[id]? with
  | none =>
    rw [(reporting.unborn id found).1] at among
    cases among
  | some r =>
    obtain ⟨asked, started, origin⟩ := (run.begun begins).origin id r found
    obtain ⟨c, -, report⟩ := List.mem_filterMap.mp ((reporting.first id r found).subset among)
    obtain ⟨m', reports', own⟩ := Option.map_eq_some_iff.mp report
    cases own
    -- Its subscription was acknowledged, or nothing of it would be there.
    have unfailed : started.failsWrite = false := by
      refine Bool.eq_false_iff.mpr fun fails => ?_
      rw [origin.silent begins run fails] at among
      cases among
    exact ⟨id, r, asked, started, rfl, found, Event.kind_of_report reports', origin,
      (origin.answered unfailed).grows (origin.behind begins run same)⟩

/-- A client that subscribes gets its acknowledgment and then the first change. -/
theorem notifications_follow_acknowledgment_subscribed :
    let named : Json := .object [("name", .string "a")]
    let ack : OutFrame × Writer := (.message (.subscribed (.known .artifact)), .eventLoop)
    let report : Message := ⟨.created, .known .artifact, "p", some named⟩
    ∃ past s e id r asked started,
      Run (.start {} default .clear 0 false) (.start (.of (.catalog (Hub.empty 4 false))))
        past s e ∧
      s.outlet.sent = [ack] ++ (.message report, .runner id) :: [] ∧
      s.runners[id]? = some r ∧ report.kind = .known r.kind ∧
      Origin past id r.kind r.project asked started ∧ asked.IsAnswered r.kind [ack] := by
  intro named ack report
  -- A client subscribes, a resource is stored, and the runner is driven until it has written.
  let runs : Move := .task (.runner 0)
  let moves : List Move :=
    [.arrive (.text "\x7b\"op\":\"subscribe\",\"kind\":\"Artifact\"\x7d"), .task .receiver,
      .task .receiver, .task .eventLoop, .task .eventLoop, .task .eventLoop, .task .eventLoop, runs,
      .catalog (.upsert .artifact "p" named), runs, runs, runs]
  have plays : ((play (.start {} default .clear 0 false)
      (.start (.of (.catalog (Hub.empty 4 false)))) moves).any fun p =>
        decide (p.2.1.outlet.sent = [ack] ++ [(.message report, .runner 0)])) = true := by
    decide +kernel
  obtain ⟨⟨past, s, e⟩, played, checked⟩ := (Option.any_eq_true _ _).mp plays
  have sent := of_decide_eq_true checked
  have run := Run.of_play played
  obtain ⟨id, r, asked, started, own, found, kind, origin, answered⟩ :=
    (notifications_follow_acknowledgment (.attended _ _ _ _ _) run).1 [ack] report (.runner 0) []
      sent rfl
  cases own
  exact ⟨past, s, e, 0, r, asked, started, run, sent, found, kind, origin, answered⟩

end Session

end WatchRelay
