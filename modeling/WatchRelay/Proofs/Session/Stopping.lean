import WatchRelay.Proofs.Session.Records
import WatchRelay.Proofs.Session.Taking

/-! Runners that are told to stop: they ask for nothing, read nothing, and put at most the report
they have in hand on the connection. -/

namespace WatchRelay

namespace Runner

variable {r r' : Runner} {e e' : Surroundings}

/-- A runner asks for no watch and reads none: at most it closes the one it held. -/
def OnlyCloses (r r' : Runner) (e e' : Surroundings) : Prop :=
  e'.requests = e.requests ∧ (e'.source = e.source ∨
    ∃ w, r.watch? = some w ∧ r'.watch? = none ∧ e'.source = e.source.close w)

/-- A runner that lets its watch go closes it, and does nothing else with the backend. -/
theorem source_letGo (r : Runner) (e : Surroundings) : (r.letGo e).requests = e.requests ∧
    ((r.letGo e).source = e.source ∨
      ∃ w, r.watch? = some w ∧ (r.letGo e).source = e.source.close w) := by
  -- Only the watch that the runner holds is closed.
  unfold letGo
  split
  · next w held => exact ⟨rfl, .inr ⟨w, held, rfl⟩⟩
  · exact ⟨rfl, .inl rfl⟩

/-- A runner that stops only closes its watch. -/
theorem onlyCloses_finish (r : Runner) (o : Outlet) (e : Surroundings) (reason : RunnerEnd)
    (failure : Option SessionFailure) :
    r.OnlyCloses (r.finish o e reason failure).1 e (r.finish o e reason failure).2.2.1 := by
  -- Besides that, the runner is only counted.
  have same : (r.finish o e reason failure).2.2.1.requests = (r.letGo e).requests ∧
      (r.finish o e reason failure).2.2.1.source = (r.letGo e).source := by
    unfold finish
    dsimp only
    split <;> exact ⟨rfl, rfl⟩
  obtain ⟨requests, source⟩ := r.source_letGo e
  rw [OnlyCloses, same.1, same.2]
  exact ⟨requests, source.imp_right fun ⟨w, held, closes⟩ => ⟨w, held, rfl, closes⟩⟩

/-- A runner that is told to stop only closes its watch. -/
theorem Steps.onlyCloses {o o' : Outlet} {credentials : Credentials} {f : Option SessionFailure}
    (moved : r.Steps o e credentials true (r', o', e', f)) : r.OnlyCloses r' e e' := by
  -- A told runner waits for nothing more, so it writes what is in hand or finishes.
  generalize whole : (r', o', e', f) = change at moved
  cases moved with
  | toldFirst _ _ => cases whole; exact r.onlyCloses_finish o (e.count .runnerBegun) .cancelled none
  | opened _ untold => cases untold
  | told _ _ => cases whole; exact r.onlyCloses_finish o e .cancelled none
  | consumed _ untold _ => cases untold
  | wrote _ _ => cases whole; exact ⟨rfl, .inl rfl⟩
  | forwarded _ _ => cases whole; exact ⟨rfl, .inl rfl⟩
  | failed _ _ => cases whole; exact r.onlyCloses_finish o' e .sinkClosed f

/-- A runner that is told to stop takes nothing from its watch. -/
theorem takes?_of_told (r : Runner) (e : Surroundings) : r.takes? e true = none := by
  unfold takes?
  split <;> rfl

end Runner

namespace Session

variable {s s' s₀ : Session} {e e' e₀ : Surroundings} {past more : List Occasion}

/-- A move in which a runner asks for no watch and reads none: at most it closes the one it held. -/
def Occasion.OnlyCloses (id : Nat) (o : Occasion) : Prop :=
  ∀ s' e', o.session.move o.env o.move = some (s', e') →
    e'.requests = o.env.requests ∧ (e'.source = o.env.source ∨
      ∃ w, o.session.watchOf id = some w ∧ s'.watchOf id = none ∧
        e'.source = o.env.source.close w)

/-- How a runner that was told to stop with some reports in hand goes on: it has been told since,
has only closed its watch, has taken nothing, and has put at most those reports on the
connection. -/
structure Winding (id : Nat) (kind : ResourceKind) (most : List OutFrame) (more : List Occasion)
    (s : Session) (r : Runner) : Prop where
  found : s.runners[id]? = some r
  kind : r.kind = kind
  told : s.isTold r = true
  closes : ∀ o ∈ more, o.move = .task (.runner id) → o.OnlyCloses id
  nothing : events id more = []
  most : s.framesOf id ++ r.unsent <+: most

/-- Every move keeps that. -/
theorem Winding.step {id : Nat} {kind : ResourceKind} {most : List OutFrame} {r : Runner} {m : Move}
    (held : Winding id kind most more s r) (sound : s.Sound) (moved : s.move e m = some (s', e'))
    (accounts : Accounts s e m s' e') :
    ∃ r', Winding id kind most (more ++ [⟨s, e, m⟩]) s' r' := by
  have moves := move_moves moved
  have numbered := sound.numbered
  obtain ⟨r', found', fate⟩ := accounts.later (moves.runners_length numbered) held.found
  have told' := fate.told held.told
  have kind' := fate.scope.1.trans held.kind
  -- Where the runner takes no step, the move adds nothing to what it did.
  have rests (other : m ≠ .task (.runner id)) (unsent : r'.unsent <+: r.unsent) :
      Winding id kind most (more ++ [⟨s, e, m⟩]) s' r' := by
    refine ⟨found', kind', told', Run.forall_concat held.closes fun own => absurd own other,
      (events_other other).trans held.nothing, ?_⟩
    rw [moves.framesOf numbered other]
    exact ((List.prefix_append_right_inj _).mpr unsent).trans held.most
  cases fate with
  | @stepped f own steps _ =>
    subst own
    have steps' := steps
    rw [held.told] at steps'
    refine ⟨r', found', kind', told', Run.forall_concat held.closes fun _ => ?_, ?_, ?_⟩
    · -- The step of the runner leads where the move does.
      intro t x there
      obtain ⟨rfl, rfl⟩ : s' = t ∧ e' = x := by simpa [moved] using there
      rw [watchOf_eq held.found, watchOf_eq found']
      exact steps'.onlyCloses
    · rw [events_own held.found, held.told, r.takes?_of_told, held.nothing]
      rfl
    · have reports := steps'.reports
      rw [r.takes?_of_told, numbered id r held.found] at reports
      rcases reports with same | ⟨-, idle, same⟩
      -- It takes no event once it is told, so it writes at most what it had.
      · have same : s'.framesOf id ++ r'.unsent = s.framesOf id ++ r.unsent ++ [] := same
        rw [same, List.append_nil]
        exact held.most
      · have same : s'.framesOf id = s.framesOf id := same
        rw [same, idle, List.append_nil]
        exact (List.prefix_append _ _).trans held.most
  | kept other same _ =>
    -- A runner that is left alone has the same frame unsent.
    have unsent : r'.unsent = r.unsent := by simp [Runner.unsent, Runner.phase_of_core same]
    exact ⟨r', rests other ⟨[], by rw [unsent, List.append_nil]⟩⟩
  | stopped other _ same _ =>
    -- Breaking it off drops what was unsent.
    have idle : r'.unsent = [] := by rw [same]; rfl
    exact ⟨r', rests other (by rw [idle]; exact List.nil_prefix)⟩

/-- However a run goes on, a runner that is told to stop winds down. -/
theorem Run.winding {id : Nat} {r : Runner} (begins : Begins s₀) (run : Run s₀ e₀ past s e)
    (found : s.runners[id]? = some r) (told : s.isTold r = true) (later : Run s e more s' e') :
    ∃ r', Winding id r.kind (s.framesOf id ++ r.unsent) more s' r' := by
  -- The runner is told from the start of the later run, and stays told in each step.
  refine later.keeps_along
    (P := fun more t _ => ∃ r', Winding id r.kind (s.framesOf id ++ r.unsent) more t r')
    ⟨r, found, rfl, told, fun o member => (by cases member), rfl, List.prefix_refl _⟩ ?_
  rintro more t t' x x' m between moved ⟨q, held⟩
  have whole := run.append between
  exact held.step (whole.sound begins) moved (whole.accounts begins moved)

/-- Once a runner is told to stop, nothing of what is published later is reported.

A client that ends its subscription tells the runner of it to stop.

The steps of the runner ask for no watch and take nothing more from the one it has.
At most they close it.

It puts at most the one report on the connection that it has in hand, of an event taken before. -/
theorem told_runners_wind_down (begins : Begins s₀) (run : Run s₀ e₀ past s e) :
    (∀ kind s₁ e₁, s.takes? = some (.unsubscribe (.known kind)) →
      s.move e (.task .eventLoop) = some (s₁, e₁) →
      ∀ (id : Nat) (r : Runner), s₁.runners[id]? = some r → r.kind = kind →
        r.isRunning = true →
        s₁.isTold r = true) ∧
    ∀ (id : Nat) (r : Runner) (more : List Occasion) (s' : Session) (e' : Surroundings),
      s.runners[id]? = some r → s.isTold r = true → Run s e more s' e' →
      (∀ o ∈ more, o.move = .task (.runner id) → o.OnlyCloses id) ∧
      events id more = [] ∧
      (∃ last, s'.framesOf id = s.framesOf id ++ last ∧ last.length ≤ 1 ∧
        ∀ frame ∈ last, ∃ c ∈ events id past, c.frame? r.kind = some frame) ∧
      s'.framesOf id <+: Event.frames r.kind (events id past) ∧
      ∀ capacity requireToken history,
        e₀.catalog? = some ((Hub.empty capacity requireToken).after history) →
        (∀ o ∈ past, o.IsSteady) →
        s'.framesOf id <+: Event.frames r.kind
          ((WatchRequest.live r.kind r.project).select (changesSince id r.kind past)) := by
  refine ⟨fun kind s₁ e₁ takes moved id r => (run.recorded begins).told_of_unsubscribe takes
    moved, fun id r more s' e' found told later => ?_⟩
  obtain ⟨r', winding⟩ := run.winding begins found told later
  have grows : s.framesOf id <+: s'.framesOf id :=
    ((later.sent_grows (run.sound begins)).filter _).map _
  obtain ⟨last, same⟩ := grows
  -- What comes on the connection is of what the runner has in hand.
  have most : last <+: r.unsent := by
    have most := (List.prefix_append _ _).trans winding.most
    rw [← same] at most
    exact (List.prefix_append_right_inj _).mp most
  have reported : s'.framesOf id <+: Event.frames r.kind (events id past) := by
    have first := ((run.append later).reporting begins).first id r' winding.found
    have taken : events id (past ++ more) = events id past := by
      rw [events, List.filterMap_append, ← events, ← events, winding.nothing, List.append_nil]
    rwa [winding.kind, taken] at first
  refine ⟨winding.closes, winding.nothing, ⟨last, same.symm, ?_, fun frame member => ?_⟩,
    reported, fun capacity requireToken history catalog steady => ?_⟩
  · exact Nat.le_trans most.length_le r.unsent_length
  · have among := reported.subset (by rw [← same]; exact List.mem_append_right _ member)
    exact List.mem_filterMap.mp among
  · have frame := (Hub.empty capacity requireToken).after_frame history
    obtain ⟨hub, -, forwards⟩ := run.forwards begins catalog (frame.2.2 fun _ _ => rfl) steady
    rw [← same]
    exact ((List.prefix_append_right_inj _).mpr most).trans (forwards.standing id r found).bounded

/-- A client that ends its subscription while a change is about to be reported gets that report, and
not what is changed later. -/
theorem told_runners_wind_down_unsubscribed :
    let named (name : String) : Json := .object [("name", .string name)]
    ∃ past s e more s' e' r,
      Run (.start {} default .clear 0 false)
        (.start (.of (.catalog ((Hub.empty 4 false).after [])))) past s e ∧
      s.runners[0]? = some r ∧ s.isTold r = true ∧ s.framesOf 0 = [] ∧ Run s e more s' e' ∧
      more.filterMap (Occasion.change? .application) = [⟨.created, "p", named "b"⟩] ∧
      s'.framesOf 0 = [.message ⟨.created, .known .application, "p", some (named "a")⟩] ∧
      s'.framesOf 0 <+: Event.frames r.kind
        ((WatchRequest.live r.kind r.project).select (changesSince 0 r.kind past)) := by
  intro named
  let asks (op : String) : InFrame :=
    .text ("\x7b\"op\":\"" ++ op ++ "\",\"kind\":\"Application\"\x7d")
  let runs : Move := .task (.runner 0)
  let reads : List Move := [.task .receiver, .task .receiver, .task .eventLoop]
  let first : List Move :=
    [.arrive (asks "subscribe")] ++ reads ++ [.task .eventLoop, .task .eventLoop, .task .eventLoop,
      runs, .catalog (.upsert .application "p" (named "a")), runs,
      .arrive (asks "unsubscribe")] ++ reads
  let rest : List Move := [.catalog (.upsert .application "p" (named "b")), runs, runs, runs, runs]
  have plays : ((play (.start {} default .clear 0 false)
      (.start (.of (.catalog ((Hub.empty 4 false).after [])))) first).any fun p =>
        (p.2.1.runners[0]?).any p.2.1.isTold && decide (p.2.1.framesOf 0 = []) &&
          (play p.2.1 p.2.2 rest).any fun q =>
            decide (q.1.filterMap (Occasion.change? .application) =
              [⟨.created, "p", named "b"⟩] ∧ q.2.1.framesOf 0 =
                [.message ⟨.created, .known .application, "p", some (named "a")⟩])) = true := by
    decide +kernel
  obtain ⟨⟨past, s, e⟩, played, checked⟩ := (Option.any_eq_true _ _).mp plays
  simp only [Bool.and_eq_true, decide_eq_true_eq] at checked
  obtain ⟨⟨told, silent⟩, checked⟩ := checked
  obtain ⟨r, found, told⟩ := (Option.any_eq_true _ _).mp told
  obtain ⟨⟨more, s', e'⟩, played', checked⟩ := (Option.any_eq_true _ _).mp checked
  obtain ⟨changed, frames⟩ := of_decide_eq_true checked
  have run := Run.of_play played
  have later := Run.of_play played'
  -- None of the moves puts anything else in the place of the catalog.
  have steady : ∀ o ∈ past, o.IsSteady := by
    intro o member env same
    have made := List.mem_map_of_mem (f := Occasion.move) member
    rw [Run.moves_of_play played, same] at made
    simp [first, reads, runs] at made
  obtain ⟨-, -, -, -, bounded⟩ :=
    (told_runners_wind_down (.attended _ _ _ _ _) run).2 0 r more s' e' found told later
  exact ⟨past, s, e, more, s', e', r, run, found, told, silent, later, changed, frames,
    bounded 4 false [] rfl steady⟩

end Session

end WatchRelay
