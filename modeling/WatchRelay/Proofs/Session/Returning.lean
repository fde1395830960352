import WatchRelay.Proofs.Session.Ending

/-! What a call to tear a session down has seen of it when it returns: the first one that it is
closed, and a later one that, or that its time is over. -/

namespace WatchRelay

namespace Session

variable {s s' s₀ : Session} {e e' e₀ : Surroundings} {past : List Occasion}

/-- A call that only watches waits for its timeout from its begin on. -/
theorem Run.watches (begins : Begins s₀) (run : Run s₀ e₀ past s e) {call deadline : Nat}
    (watches : s.teardown? call = some (.watching deadline)) :
    ∃ o ∈ past, o.move = .teardown call ∧
      deadline = o.env.now + o.session.config.teardownTimeout := by
  refine run.keeps_along
    (P := fun past t _ => ∀ deadline, t.teardown? call = some (.watching deadline) →
      ∃ o ∈ past, o.move = .teardown call ∧
        deadline = o.env.now + o.session.config.teardownTimeout)
    (fun deadline watches => by cases begins <;> cases watches) ?_ deadline watches
  intro past t t' x x' m run moved held deadline watches
  -- The deadline is set when the call begins and never moved.
  cases (move_moves moved).call (run.sound begins).numbered watches with
  | stayed same =>
    obtain ⟨o, member, began⟩ := held deadline same
    exact ⟨o, List.mem_append_left _ member, began⟩
  | joined own _ => exact ⟨_, List.mem_append_right _ (List.mem_singleton_self _), own, rfl⟩

/-- A call that only watches is not the first one. -/
theorem Lived.later_of_watches (lived : s.Lived) {call deadline : Nat}
    (watches : s.teardown? call = some (.watching deadline)) : s.calls.head? ≠ some call := by
  intro first
  obtain ⟨rest, calls⟩ := List.head?_eq_some_iff.mp first
  -- The first call works, or it has ended.
  rcases lived.first_works calls with works | ⟨ended, -⟩
  · simp [Session.works, watches, TeardownPhase.isWork] at works
  · rw [watches] at ended
    cases ended

/-- A call to tear a session down that returns does so with the session closed, and closed it stays.

Only a call that is not the first one may return before.
It does so when the timeout is over since it began. -/
theorem returns_closed (begins : Begins s₀) (run : Run s₀ e₀ past s e) {call : Nat}
    (moved : s.move e (.task (.teardown call)) = some (s', e'))
    (returns : s'.teardown? call = some .finished) :
    (s'.state = .closed ∧ ∀ more t x, Run s' e' more t x → t.state = .closed) ∨
      s.calls.head? ≠ some call ∧ ∃ o ∈ past, o.move = .teardown call ∧
        o.env.now + o.session.config.teardownTimeout ≤ e.now := by
  have lived := run.lived begins
  have settled := (run.settled begins).2
  have stays (closed : s'.state = .closed) :
      s'.state = .closed ∧ ∀ more t x, Run s' e' more t x → t.state = .closed :=
    ⟨closed, fun more t x later => (run.next moved).closed_stays begins closed later⟩
  have own {t : Session} {phase : TeardownPhase}
      (set : (t.setTeardown call phase).teardown? call = some .finished) : phase = .finished := by
    rw [teardown?_setTeardown, if_pos rfl] at set
    obtain ⟨_, -, same⟩ := Option.map_eq_some_iff.mp set
    exact same
  cases move_moves moved with
  | closed steps =>
    cases steps with
    -- Who begins to close the connection, or goes on with that, does not return yet.
    | begun _ _ | aborted _ _ | wrote _ _ => cases own returns
    | closed closing _ =>
      -- Who closes the connection is the first call, and it closes the session.
      have works : s.works call = true := by simp [works, closing, TeardownPhase.isWork]
      have state : s.state = .closing := (lived.first_of_works settled works).2
      refine .inl (stays ?_)
      show s.state.advance .closed = .closed
      rw [state]
      rfl
    | watched watches due =>
      -- A call that watches sees the session closed, or its own time is over.
      rcases due with closed | late
      · exact .inl (stays closed)
      · obtain ⟨o, member, began, rfl⟩ := run.watches begins watches
        exact .inr ⟨lived.later_of_watches watches, o, member, began, late⟩

/-- The first of two calls returns with the session closed. -/
theorem returns_closed_first :
    ∃ past s e s' e', Run (.start {} default .clear 0 false) (around 0) past s e ∧
      s.calls = [0, 1] ∧
      s.move e (.task (.teardown 0)) = some (s', e') ∧ s'.teardown? 0 = some .finished ∧
      s'.state = .closed := by
  -- Both calls come before the receiver, the loop and the keep-alive have ended.
  let first : Move := .task (.teardown 0)
  let moves : List Move :=
    [.teardown 0, .teardown 1, .task .receiver, .task .eventLoop, .task .eventLoop,
      .task .keepAlive, first, first, first, first]
  have plays : ((play (.start {} default .clear 0 false) (around 0) moves).any fun p =>
      decide (p.2.1.calls = [0, 1]) &&
        (p.2.1.move p.2.2 first).any fun q => decide (q.1.teardown? 0 = some .finished)) =
          true := by
    decide +kernel
  obtain ⟨⟨past, s, e⟩, played, checked⟩ := (Option.any_eq_true _ _).mp plays
  obtain ⟨calls, later⟩ := Bool.and_eq_true_iff.mp checked
  obtain ⟨⟨s', e'⟩, moved, returned⟩ := (Option.any_eq_true _ _).mp later
  have calls : s.calls = [0, 1] := of_decide_eq_true calls
  have returned : s'.teardown? 0 = some .finished := of_decide_eq_true returned
  have run := Run.of_play played
  refine ⟨past, s, e, s', e', run, calls, moved, returned, ?_⟩
  rcases returns_closed (.attended _ _ _ _ _) run moved returned with
    ⟨closed, -⟩ | ⟨later, -⟩
  · exact closed
  · exact absurd (by rw [calls]; rfl) later

/-- The second of two calls returns while the first one still closes the connection. -/
theorem returns_before_closed :
    ∃ past s e s' e', Run stalled (around 0) past s e ∧
      s.move e (.task (.teardown 1)) = some (s', e') ∧ s'.teardown? 1 = some .finished ∧
      s'.state = .closing := by
  -- The first close stalls on the transport, and the second call's bounded wait runs out.
  let first : Move := .task (.teardown 0)
  let moves : List Move :=
    [.teardown 0, .task .receiver, .task .eventLoop, .task .eventLoop, .task .keepAlive, first,
      first, .teardown 1, .outside (around 1000)]
  have plays : ((play stalled (around 0) moves).any fun p =>
      (p.2.1.move p.2.2 (.task (.teardown 1))).any fun q =>
        decide (q.1.teardown? 1 = some .finished ∧ q.1.state = .closing)) = true := by
    decide +kernel
  obtain ⟨⟨past, s, e⟩, played, checked⟩ := (Option.any_eq_true _ _).mp plays
  obtain ⟨⟨s', e'⟩, moved, now⟩ := (Option.any_eq_true _ _).mp checked
  obtain ⟨returned, closing⟩ := of_decide_eq_true now
  exact ⟨past, s, e, s', e', Run.of_play played, moved, returned, closing⟩

end Session

end WatchRelay
