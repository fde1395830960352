import WatchRelay.Proofs.Clocked
import WatchRelay.Proofs.Connection.Calls

/-! Calls on a connection, in any number and order and whatever the transport does: their frames are
written whole and one after the other, first come first served, and once the write half is gone
nothing more is written. -/

namespace WatchRelay

namespace Errand

/-- Whether the frame of an errand is what the transport is to take next. -/
def isSending : Errand → Bool
  | .write _ (.sending _) | .close _ (.sending _) => true
  | _ => false

/-- What waits for its turn sends nothing. -/
theorem not_sending_of_waits {errand : Errand} (waits : errand.waits = true) :
    errand.isSending = false := by
  -- A call waits in its first stage only, and none of these has anything to send.
  cases errand with
  | write frame stage => cases stage <;> simp_all [Errand.waits, isSending]
  | close frame stage => cases stage <;> simp_all [Errand.waits, isSending]
  | ask => rfl

end Errand

namespace Outlet

/-- What a connection makes good for a call that has returned: what was written is on the
connection, and the write half is gone if a write returned without success or a closing returned. -/
inductive Grants (o : Outlet) : OutletCall → Bool → Prop where
  | written {tag : Nat} {frame : OutFrame} {stage : WriteStage}
      (sent : (frame, .call tag) ∈ o.sent) : Grants o ⟨tag, .write frame stage⟩ true
  | closed {tag : Nat} {frame : Option CloseFrame} {stage : CloseStage}
      (gone : o.writable = false) : Grants o ⟨tag, .close frame stage⟩ true
  | refused {call : OutletCall} (gone : o.writable = false) : Grants o call false
  | asked (tag : Nat) (result : Bool) : Grants o ⟨tag, .ask⟩ result

/-- What is made good stays so, as the connection only goes on. -/
theorem Grants.later {o o' : Outlet} {call : OutletCall} {result : Bool}
    (grants : o.Grants call result)
    (sent : o.sent <+: o'.sent) (gone : o.writable = false → o'.writable = false) :
    o'.Grants call result := by
  -- What grants an answer is kept: what is written stays written, and the write half does not come
  -- back.
  cases grants with
  | written there => exact .written (sent.subset there)
  | closed shut => exact .closed (gone shut)
  | refused shut => exact .refused (gone shut)
  | asked tag result => exact .asked tag result

end Outlet

namespace Callers

variable {c c' : Callers} {p : OutletCall}

/-- What a move can do. -/
inductive Moves (c : Callers) : CallMove → Callers → Prop where
  | idle (move : CallMove) (none : c.begun? move = none) : Moves c move c
  | begun {tag : Nat} {errand : Errand} (new : errand.isNew = true)
      (unknown : c.knows tag = false) : Moves c (.begin tag errand) (c.call tag errand)
  | went {p : OutletCall} {c' : Callers} (member : p ∈ c.pending) (goes : c.Goes p c') :
      Moves c (.go p.tag) c'
  | wire (wire : WireState) : Moves c (.wire wire) (c.setWire wire)
  | pass (moment : Nat) : Moves c (.pass moment) { c with now := moment }
  | take : Moves c .take c.drainAlarms.2

/-- A call is found by its number. -/
theorem call?_some {tag : Nat} (found : c.call? tag = some p) : p ∈ c.pending ∧ p.tag = tag :=
  ⟨List.mem_of_find?_eq_some found, by simpa using List.find?_some found⟩

/-- Every call that has not returned is found. -/
theorem Lined.call?_eq (lined : c.Lined) (member : p ∈ c.pending) : c.call? p.tag = some p := by
  -- A call in line is found under its number, and no other call has this number.
  cases found : c.call? p.tag with
  | none => simpa using List.find?_eq_none.mp found p member
  | some q =>
    obtain ⟨inside, same⟩ := call?_some found
    rw [lined.eq_of_tag inside member same]

/-- Every move does one of these. -/
theorem Lined.moves (lined : c.Lined) (move : CallMove) : c.Moves move (c.act move) := by
  -- A step of a call either goes on or is one that cannot be taken.
  cases move with
  | begin tag errand =>
    rw [act]
    split
    · next fits =>
      rw [Bool.and_eq_true, Bool.not_eq_true'] at fits
      exact .begun fits.1 fits.2
    · next unfit => exact .idle _ (if_neg unfit)
  | go tag =>
    rw [act]
    cases found : c.call? tag with
    | none => exact .idle _ rfl
    | some p =>
      obtain ⟨member, rfl⟩ := call?_some found
      rw [Option.bind_some]
      cases moved : c.stepCall p with
      | none => exact .idle _ rfl
      | some c' => exact .went member (lined.goes member moved)
  | wire wire => exact .wire wire
  | pass moment => exact .pass moment
  | take => exact .take

namespace Goes

/-- The connection only goes on: what is written stays, and a write half that is gone stays gone. -/
theorem grows (goes : c.Goes p c') :
    c.outlet.sent <+: c'.outlet.sent ∧
      (c.outlet.writable = false → c'.outlet.writable = false) := by
  -- Frames are written at the end, and the write half is only ever taken away.
  cases goes with
  | turn whole there => exact ⟨List.prefix_refl _, id⟩
  | accepted whole => exact ⟨⟨_, (Outlet.sent_note_frame ..).symm⟩, id⟩
  | flushed whole => exact ⟨List.prefix_refl _, id⟩
  | failed whole begun failure =>
    exact ⟨⟨[], by simp⟩, fun _ => rfl⟩
  | took whole there => exact ⟨List.prefix_refl _, fun _ => rfl⟩
  -- The close frame is accepted as a message is, while the write half is gone already.
  | closeAccepted whole => exact ⟨⟨_, (Outlet.sent_note_frame ..).symm⟩, id⟩
  | closeFlushed whole => exact ⟨List.prefix_refl _, id⟩
  | closed whole begun sent line half =>
    exact ⟨⟨[], by simp [sent]⟩, fun gone => half.trans gone⟩
  | left whole waits line idle => exact ⟨List.prefix_refl _, id⟩

/-- What is written and what is still to be written stay in order, and nothing is added. -/
theorem order (goes : c.Goes p c') :
    (c'.outlet.sent ++ c'.pending.filterMap OutletCall.unsent?).Sublist
      (c.outlet.sent ++ c.pending.filterMap OutletCall.unsent?) := by
  -- A call that returns takes its frame with it, if that was still to be written.
  have fewer (front : List OutletCall) {rest : List OutletCall} {q : OutletCall}
      (whole : c.pending = front ++ q :: rest) :
      ((front ++ rest).filterMap OutletCall.unsent?).Sublist
        (c.pending.filterMap OutletCall.unsent?) := by
    rw [whole]
    exact ((List.Sublist.refl front).append (List.sublist_cons_self q rest)).filterMap _
  cases goes with
  | turn whole there =>
    rw [whole]
    exact List.Sublist.refl _
  | accepted whole =>
    -- The frame goes from what is to be written first to what is written.
    rw [whole]
    simp [OutletCall.unsent?, OutletCall.entry?, Errand.isUnsent, Errand.frame?, OutletCall.writer]
  | flushed whole => exact (List.Sublist.refl _).append (fewer [] whole)
  | failed whole begun failure =>
    rw [Outlet.sent_leave, Outlet.sent_discard]
    exact (List.Sublist.refl _).append (fewer [] whole)
  | took whole there =>
    rw [whole]
    exact List.Sublist.refl _
  -- A close frame goes the same way.
  | closeAccepted whole =>
    rw [whole]
    simp [OutletCall.unsent?, OutletCall.entry?, Errand.isUnsent, Errand.frame?, OutletCall.writer]
  | closeFlushed whole =>
    rw [whole]
    exact List.Sublist.refl _
  | closed whole begun sent line half =>
    rw [sent]
    exact (List.Sublist.refl _).append (fewer [] whole)
  | left whole waits line idle => exact (List.Sublist.refl _).append (fewer _ whole)

end Goes

/-- What was given to the transport for calls that have not returned is on the connection. -/
def Passed (c : Callers) : Prop :=
  ∀ p ∈ c.pending, p.errand.isUnsent = false → ∀ x, p.entry? = some x →
    x ∈ c.outlet.sent

/-- Nothing follows a close frame: it is the last frame, and nobody is about to send another. -/
structure Final (c : Callers) : Prop where
  last : ∀ front frame w back, c.outlet.sent = front ++ (.close frame, w) :: back → back = []
  shut : ∀ frame w, (.close frame, w) ∈ c.outlet.sent →
    c.outlet.writable = false ∧ ∀ p ∈ c.pending, p.errand.isSending = false

/-- What holds of all calls holds of them when the first has gone on, if it holds of that one. -/
theorem forall_onward {P : OutletCall → Prop} {next : OutletCall} {pending rest : List OutletCall}
    (whole : pending = p :: rest) (held : ∀ q ∈ pending, P q) (own : P next) :
    ∀ q ∈ next :: rest, P q := by
  intro q inside
  rcases List.mem_cons.mp inside with rfl | behind
  · exact own
  · exact held q (whole ▸ List.mem_cons_of_mem _ behind)

/-- What holds of all calls holds of those that are left when one has returned. -/
theorem forall_without {P : OutletCall → Prop} (front : List OutletCall)
    {pending rest : List OutletCall} (whole : pending = front ++ p :: rest)
    (held : ∀ q ∈ pending, P q) :
    ∀ q ∈ front ++ rest, P q := by
  intro q inside
  -- The call is left out, so each of the others stood before it or behind it.
  rw [whole] at held
  rcases List.mem_append.mp inside with before | behind
  · exact held q (List.mem_append_left _ before)
  · exact held q (List.mem_append_right _ (List.mem_cons_of_mem _ behind))

namespace Goes

/-- What a step gives to the transport is on the connection. -/
theorem passed (goes : c.Goes p c') (passed : c.Passed) : c'.Passed := by
  -- What was given before stays on the connection.
  have kept : ∀ q ∈ c.pending, q.errand.isUnsent = false →
      ∀ x, q.entry? = some x → x ∈ c'.outlet.sent := fun q inside begun x own =>
    goes.grows.1.subset (passed q inside begun x own)
  cases goes with
  | turn whole there => exact forall_onward whole kept (by simp [Errand.isUnsent])
  | accepted whole =>
    refine forall_onward whole kept fun _ x own => ?_
    cases own
    rw [Outlet.sent_note_frame]
    exact List.mem_append_right _ List.mem_cons_self
  | flushed whole => exact forall_without [] whole kept
  | failed whole begun failure => exact forall_without [] whole kept
  | took whole there => exact forall_onward whole kept (by simp [Errand.isUnsent])
  | closeAccepted whole =>
    refine forall_onward whole kept fun _ x own => ?_
    cases own
    rw [Outlet.sent_note_frame]
    exact List.mem_append_right _ List.mem_cons_self
  | closeFlushed whole =>
    -- The frame was given to the transport before.
    have before := kept _ (whole ▸ List.mem_cons_self) rfl
    exact forall_onward whole kept fun _ x own => before x own
  | closed whole begun sent line half => exact forall_without [] whole kept
  | left whole waits line idle => exact forall_without _ whole kept

/-- Nothing follows a close frame, whatever step is taken. -/
theorem final (goes : c.Goes p c') (lined : c.Lined) (final : c.Final)
    (plain : ∀ frame stage, p.errand = .write frame stage → frame.isClose = false) :
    c'.Final := by
  obtain ⟨-, shape⟩ := lined
  obtain ⟨last, shut⟩ := final
  -- As long as the write half is there or a frame is to be sent, no close frame is on the
  -- connection.
  have open_ (there : c.outlet.writable = true) (frame : Option CloseFrame) (w : Writer) :
      (.close frame, w) ∉ c.outlet.sent := fun sent => by
    rw [(shut frame w sent).1] at there
    cases there
  -- A step that writes nothing and ends a call.
  have fewer (front : List OutletCall) {rest : List OutletCall} {q : OutletCall}
      (whole : c.pending = front ++ q :: rest) (same : c'.outlet.sent = c.outlet.sent)
      (after : c'.pending = front ++ rest) : c'.Final := by
    refine ⟨same ▸ last, fun frame w sent => ?_⟩
    rw [same] at sent
    rw [after]
    exact ⟨goes.grows.2 (shut frame w sent).1, forall_without _ whole (shut frame w sent).2⟩
  -- A step that writes nothing and leaves its call pending.
  have onward {rest : List OutletCall} {q next : OutletCall} (whole : c.pending = q :: rest)
      (same : c'.outlet.sent = c.outlet.sent) (after : c'.pending = next :: rest)
      (idle : next.errand.isSending = false ∨ c.outlet.writable = true) : c'.Final := by
    refine ⟨same ▸ last, fun frame w sent => ?_⟩
    rw [same] at sent
    rw [after]
    refine ⟨goes.grows.2 (shut frame w sent).1, forall_onward whole (shut frame w sent).2 ?_⟩
    exact idle.resolve_right fun there => open_ there frame w sent
  cases goes with
  | turn whole there => exact onward whole rfl rfl (.inr there)
  | @accepted tag deadline frame rest whole =>
    rw [whole] at shape
    obtain ⟨-, there, -⟩ := shape.of_writing rfl
    -- The frame of a write is no close frame, and there was none as the write half is there.
    have none (other : Option CloseFrame) (w : Writer) :
        (.close other, w) ∉ (c.outlet.note c.now (.frame frame (.call tag))).sent := by
      rw [Outlet.sent_note_frame, List.mem_append, List.mem_singleton]
      rintro (before | own)
      · exact open_ there other w before
      · have same := plain frame _ rfl
        rw [← (Prod.mk.inj own).1] at same
        cases same
    refine ⟨fun front other w back split => absurd ?_ (none other w),
      fun other w sent => absurd sent (none other w)⟩
    exact split ▸ List.mem_append_right _ List.mem_cons_self
  | flushed whole => exact fewer [] whole rfl rfl
  | failed whole begun failure => exact fewer [] whole (by simp) rfl
  | took whole there => exact onward whole rfl rfl (.inr there)
  | closeAccepted whole =>
    rw [whole] at shape
    obtain ⟨-, gone, others⟩ := shape.of_closing rfl
    -- The closing was about to send, so no close frame was on the connection.
    have none (other : Option CloseFrame) (w : Writer) : (.close other, w) ∉ c.outlet.sent := by
      intro sent
      have idle := (shut other w sent).2 _ (whole ▸ List.mem_cons_self)
      cases idle
    refine ⟨fun front other w back split => ?_, fun other w sent => ⟨gone, ?_⟩⟩
    · rw [Outlet.sent_note_frame] at split
      rcases List.eq_nil_or_concat back with rfl | ⟨init, x, rfl⟩
      · rfl
      · -- A close frame further in front would be there before.
        rw [List.concat_eq_append, ← List.cons_append, ← List.append_assoc] at split
        have before := (List.append_inj' split rfl).1
        exact absurd (before ▸ List.mem_append_right _ List.mem_cons_self) (none other w)
    · intro q inside
      rcases List.mem_cons.mp inside with rfl | behind
      · rfl
      · exact Errand.not_sending_of_waits (others q behind)
  | closeFlushed whole => exact onward whole rfl rfl (.inl rfl)
  | closed whole begun sent line half => exact fewer [] whole sent rfl
  | left whole waits line idle => exact fewer _ whole rfl rfl

/-- What a call returns in a step is made good. -/
theorem returns (goes : c.Goes p c') (lined : c.Lined) (passed : c.Passed) :
    ∀ r ∈ c'.returned.toList, r ∈ c.returned.toList ∨
      r.tag = p.tag ∧ c'.outlet.Grants p.anew r.result := by
  obtain ⟨-, shape⟩ := lined
  -- What is new among the answers is the one given to the call that goes.
  have new {result : Bool} (after : c'.returned = c.returned.push ⟨p.tag, result, c.now⟩)
      (grants : c'.outlet.Grants p.anew result) (r : OutletReturn)
      (member : r ∈ c'.returned.toList) :
      r ∈ c.returned.toList ∨ r.tag = p.tag ∧ c'.outlet.Grants p.anew r.result := by
    rw [after, Array.toList_push, List.mem_append, List.mem_singleton] at member
    rcases member with before | rfl
    · exact .inl before
    · exact .inr ⟨rfl, grants⟩
  cases goes with
  | turn whole there => exact fun r => .inl
  | accepted whole => exact fun r => .inl
  -- A write is told of success once its frame has gone out.
  | flushed whole =>
    exact new rfl (.written (passed _ (whole ▸ List.mem_cons_self) rfl _ rfl))
  | failed whole begun failure => exact new rfl (.refused rfl)
  | took whole there => exact fun r => .inl
  | closeAccepted whole => exact fun r => .inl
  | closeFlushed whole => exact fun r => .inl
  -- A closing is told once the write half is gone for it.
  | closed whole begun sent line half =>
    rw [whole] at shape
    have gone := (shape.of_closing (Errand.hasTaken_of_begun begun)).2.1
    exact new rfl (.closed (half.trans gone))
  -- Who leaves has only asked, or finds the write half gone.
  | left whole waits line idle =>
    rcases idle with asks | ⟨rfl, gone⟩
    · obtain ⟨tag, errand⟩ := p
      cases asks
      exact new rfl (.asked tag _)
    · exact new rfl (.refused gone)

end Goes

/-- How the calls that have begun stand: each waits, is about its frame or has returned, and what is
written and still to be written of them is in the order in which they began. -/
structure Served (c : Callers) (arrived : List OutletCall) : Prop where
  lined : c.Lined
  new : ∀ call ∈ arrived, call.errand.isNew = true
  distinct : (arrived.map OutletCall.tag).Nodup
  origin : (c.pending.map OutletCall.anew).Sublist arrived
  present : ∀ call ∈ arrived,
    (∃ p ∈ c.pending, p.tag = call.tag) ∨ ∃ r ∈ c.returned.toList, r.tag = call.tag
  order : (c.outlet.sent ++ c.pending.filterMap OutletCall.unsent?).Sublist
    (arrived.filterMap OutletCall.entry?)
  passed : c.Passed
  outcomes : ∀ r ∈ c.returned.toList, ∃ call ∈ arrived, call.tag = r.tag ∧
    c.outlet.Grants call r.result
  final : c.Final

namespace Served

variable {arrived : List OutletCall}

/-- A call that has not returned has begun. -/
theorem anew_mem (served : c.Served arrived) (member : p ∈ c.pending) : p.anew ∈ arrived :=
  served.origin.subset (List.mem_map_of_mem member)

/-- Only closing is about a close frame. -/
theorem plain (served : c.Served arrived) (member : p ∈ c.pending) (frame : OutFrame)
    (stage : WriteStage) (writes : p.errand = .write frame stage) : frame.isClose = false := by
  -- What a call writes is what it began with, and no call begins with writing a close frame.
  have new := served.new _ (served.anew_mem member)
  obtain ⟨tag, errand⟩ := p
  cases writes
  simpa [OutletCall.anew, Errand.anew, Errand.isNew] using new

/-- A call that begins gets a number of its own and stands last in line. -/
theorem begin (served : c.Served arrived) {tag : Nat} {errand : Errand} (new : errand.isNew = true)
    (unknown : c.knows tag = false) :
    (c.call tag errand).Served (arrived ++ [⟨tag, errand⟩]) := by
  obtain ⟨⟨once, shape⟩, old, distinct, origin, present, order, passed, outcomes, last,
      shut⟩ :=
    served
  have waits := Errand.waits_of_isNew new
  have anew : (⟨tag, errand⟩ : OutletCall).anew = ⟨tag, errand⟩ :=
    congrArg (OutletCall.mk tag) (Errand.anew_of_isNew new)
  simp only [knows, Bool.or_eq_false_iff, List.any_eq_false, Array.any_eq_false', beq_iff_eq]
    at unknown
  obtain ⟨unpending, unreturned⟩ := unknown
  -- What begins has its frame still to be written, if it is about one.
  have unsent : errand.isUnsent = false → errand.frame? = none := by
    cases errand with
    | write frame stage => cases stage <;> simp_all [Errand.isNew, Errand.isUnsent]
    | close frame stage => cases stage <;> simp_all [Errand.isNew, Errand.isUnsent]
    | ask => exact fun _ => rfl
  have mem_pending {q : OutletCall} (inside : q ∈ c.pending ++ [⟨tag, errand⟩]) :
      q ∈ c.pending ∨ q = ⟨tag, errand⟩ := by simpa using inside
  refine ⟨⟨?_, shape.join waits⟩, fun call member => ?_, ?_, ?_, fun call member => ?_, ?_,
    fun q inside begun x own => ?_, fun r member =>
      ?_, ⟨last, fun frame w sent => ⟨?_, ?_⟩⟩⟩
  · rw [call, List.map_append]
    refine List.nodup_append.mpr ⟨once, List.nodup_singleton _, fun t inside u own => ?_⟩
    obtain ⟨q, member, rfl⟩ := List.mem_map.mp inside
    obtain rfl := List.mem_singleton.mp own
    exact unpending q member
  · rcases List.mem_append.mp member with before | own
    · exact old call before
    · obtain rfl := List.mem_singleton.mp own
      exact new
  · rw [List.map_append]
    refine List.nodup_append.mpr ⟨distinct, List.nodup_singleton _, fun t inside u own => ?_⟩
    obtain ⟨other, member, rfl⟩ := List.mem_map.mp inside
    obtain rfl := List.mem_singleton.mp own
    -- A call that began before is in line or has returned, so its number is known.
    rcases present other member with ⟨q, waiting, same⟩ | ⟨r, done, same⟩
    · exact same ▸ unpending q waiting
    · exact same ▸ unreturned r (Array.mem_toList_iff.mp done)
  · rw [call, List.map_append, List.map_singleton, anew]
    exact origin.append (List.Sublist.refl _)
  · rcases List.mem_append.mp member with before | own
    · rcases present call before with ⟨q, waiting, same⟩ | done
      · exact .inl ⟨q, List.mem_append_left _ waiting, same⟩
      · exact .inr done
    · obtain rfl := List.mem_singleton.mp own
      exact .inl ⟨_, List.mem_append_right _ List.mem_cons_self, rfl⟩
  · rw [call, List.filterMap_append, List.filterMap_append, ← List.append_assoc]
    refine order.append ?_
    -- Its frame stands behind all that is written or to be written.
    have whole : OutletCall.unsent? ⟨tag, errand⟩ = OutletCall.entry? ⟨tag, errand⟩ := by
      unfold OutletCall.unsent?
      split
      · rfl
      · next sent => simp [OutletCall.entry?, unsent (by simpa using sent)]
    rw [List.filterMap_cons, List.filterMap_cons, whole]
    exact List.Sublist.refl _
  · rcases mem_pending inside with before | rfl
    · exact passed q before begun x own
    · simp [OutletCall.entry?, unsent begun] at own
  · obtain ⟨other, member, same, grants⟩ := outcomes r member
    exact ⟨other, List.mem_append_left _ member, same,
      grants.later (List.prefix_refl _) id⟩
  · exact (shut frame w sent).1
  · intro q inside
    rcases mem_pending inside with before | rfl
    · exact (shut frame w sent).2 q before
    · exact Errand.not_sending_of_waits waits

/-- A step of a call keeps to that. -/
theorem go (served : c.Served arrived) (member : p ∈ c.pending) (goes : c.Goes p c') :
    c'.Served arrived := by
  have own := served.anew_mem member
  have plain := served.plain member
  obtain ⟨lined, new, distinct, origin, present, order, passed, outcomes, final⟩ := served
  obtain ⟨sent, gone⟩ := goes.grows
  refine ⟨goes.lined lined, new, distinct, ?_, fun call begun => ?_, goes.order.trans order,
    goes.passed passed, fun r returned => ?_, goes.final lined final plain⟩
  -- The call goes on under its number, or is taken out of the line.
  · obtain ⟨front, rest, whole, ⟨q, next, rfl, -, anew, -⟩ | ⟨_, next, -⟩⟩ :=
      goes.pending
    · rw [next, List.map_cons, anew]
      rw [whole] at origin
      exact origin
    · rw [whole] at origin
      rw [next]
      refine List.Sublist.trans (List.Sublist.map _ ?_) origin
      exact (List.Sublist.refl _).append (List.sublist_cons_self _ _)
  · -- Who was in line still is, or has returned.
    obtain ⟨front, rest, whole, ⟨q, next, rfl, tag, -, same⟩ | ⟨_, next, more⟩⟩ :=
      goes.pending
    · rw [next, same]
      refine (present call begun).imp_left fun ⟨r, inside, named⟩ => ?_
      rw [whole] at inside
      rcases List.mem_cons.mp inside with rfl | behind
      · exact ⟨q, List.mem_cons_self, tag.trans named⟩
      · exact ⟨r, List.mem_cons_of_mem _ behind, named⟩
    · rw [next, more, Array.toList_push]
      rcases present call begun with ⟨r, inside, named⟩ | ⟨r, done, named⟩
      · rw [whole] at inside
        rcases List.mem_append.mp inside with before | behind
        · exact .inl ⟨r, List.mem_append_left _ before, named⟩
        · rcases List.mem_cons.mp behind with rfl | behind
          · exact .inr ⟨_, List.mem_append_right _ List.mem_cons_self, named⟩
          · exact .inl ⟨r, List.mem_append_right _ behind, named⟩
      · exact .inr ⟨r, List.mem_append_left _ done, named⟩
  -- What was granted stays granted, and the one new answer belongs to this call.
  · rcases goes.returns lined passed r returned with before | ⟨tag, grants⟩
    · obtain ⟨call, begun, same, grants⟩ := outcomes r before
      exact ⟨call, begun, same, grants.later sent gone⟩
    · exact ⟨p.anew, own, tag.symm, grants⟩

/-- Time, the transport and what is seen of the failures have no part in that. -/
theorem outside (served : c.Served arrived) (now : Nat) (wire : WireState) (alarms : Alarms) :
    { c with now, outlet := { c.outlet with wire }, alarms }.Served arrived := by
  obtain ⟨⟨once, shape⟩, new, distinct, origin, present, order, passed, outcomes, last,
      shut⟩ :=
    served
  -- Only the answers speak of the outlet, and what grants them is untouched.
  refine ⟨⟨once, shape⟩, new, distinct, origin, present, order, passed, fun r member => ?_,
    last, shut⟩
  obtain ⟨call, begun, same, grants⟩ := outcomes r member
  exact ⟨call, begun, same, grants.later (List.prefix_refl _) id⟩

/-- Every move keeps to that. -/
theorem act (served : c.Served arrived) (move : CallMove) :
    (c.act move).Served (arrived ++ (c.begun? move).toList) := by
  -- Each kind of move has its own lemma. Those from outside leave the calls alone.
  have moves := served.lined.moves move
  generalize c.act move = c' at moves
  cases moves with
  | idle move none =>
    rw [none, Option.toList_none, List.append_nil]
    exact served
  | begun new unknown =>
    rw [begun?, if_pos (by simp [new, unknown])]
    exact served.begin new unknown
  | went member goes => exact (List.append_nil arrived).symm ▸ served.go member goes
  | wire wire => exact (List.append_nil arrived).symm ▸ served.outside c.now wire c.alarms
  | pass moment =>
    exact (List.append_nil arrived).symm ▸ served.outside moment c.outlet.wire c.alarms
  | take =>
    exact (List.append_nil arrived).symm ▸
      served.outside c.now c.outlet.wire { c.alarms with queue := [] }

/-- All moves keep to that. -/
theorem after (served : c.Served arrived) (moves : List CallMove) :
    (c.after moves).Served (arrived ++ c.arrivals moves) := by
  -- The calls that begin are gathered move by move.
  induction moves generalizing c arrived with
  | nil => simpa [Callers.after, arrivals, along] using served
  | cons move rest ih =>
    have later := ih (served.act move)
    rw [List.append_assoc] at later
    exact later

end Served

/-- The failures of a connection: there is none as long as the write half is there, and one at most;
it is seen unless it is the normal end of a connection. -/
structure Alerted (c : Callers) (failures drained : List SessionFailure) : Prop where
  calm : c.outlet.writable = true → failures = []
  once : failures.length ≤ 1
  seen : drained ++ c.alarms.queue = failures.filter fun f => !f.isExpected
  room : 0 < c.alarms.capacity

/-- A step reports the failure it ends a call with, if there is one. -/
theorem stepCall_alarms (moved : c.stepCall p = some c') :
    c'.alarms = c.alarms.reportAny (c.failing? p) := by
  -- A call tells the alarms what its ending says, and nothing otherwise.
  obtain ⟨tag, errand⟩ := p
  cases errand with
  | write frame stage =>
    simp only [stepCall, Option.map_eq_some_iff] at moved
    obtain ⟨⟨o, result⟩, moved, rfl⟩ := moved
    cases result <;> simp [failing?, OutletCall.writer, moved, goOn, giveBack, Alarms.reportAny]
  | close frame stage =>
    simp only [stepCall, Option.map_eq_some_iff] at moved
    obtain ⟨⟨o, result⟩, moved, rfl⟩ := moved
    cases result <;> simp [failing?, OutletCall.writer, moved, goOn, giveBack, Alarms.reportAny]
  | ask =>
    simp only [stepCall, Option.map_eq_some_iff] at moved
    obtain ⟨_, -, rfl⟩ := moved
    rfl

/-- Only a write that has begun ends with a failure, and the write half is gone then. -/
theorem failing?_some {failure : SessionFailure} (failed : c.failing? p = some failure) :
    Errand.isWriting (some p.errand) = true ∧
      ∃ c', c.stepCall p = some c' ∧ c'.outlet.writable = false := by
  -- A call that only asks cannot fail, and neither can one that closes.
  obtain ⟨tag, errand⟩ := p
  cases errand with
  | write frame stage =>
    simp only [failing?, OutletCall.writer] at failed
    split at failed
    · next o result _ moved =>
      subst failed
      -- Of the ways a write can end, only its failing tells of a failure.
      generalize whole : StepResult.done result (some failure) = ending at moved
      have moves :
          c.stepCall ⟨tag, .write frame stage⟩ = some (c.giveBack tag o result failure) := by
        simp [stepCall, moved, ← whole]
      cases Outlet.stepWrite_writes moved with
      | failed begun _ =>
        exact ⟨Errand.isWriting_of_begun begun, _, moves, rfl⟩
      | _ => simp at whole
    · cases failed
  | close frame stage =>
    simp only [failing?, OutletCall.writer] at failed
    split at failed
    · next o result _ moved =>
      subst failed
      generalize whole : StepResult.done result (some failure) = ending at moved
      cases Outlet.stepClose_closes moved <;> simp at whole
    · cases failed
  | ask => cases failed

/-- A call fails only where the write half is there, so there is no failure after another. -/
theorem Lined.writable_of_failing (lined : c.Lined) (member : p ∈ c.pending)
    {failure : SessionFailure} (failed : c.failing? p = some failure) :
    c.outlet.writable = true := by
  -- A call fails while it writes, and who writes has the write half.
  obtain ⟨busy, -⟩ := failing?_some failed
  obtain ⟨rest, whole, -⟩ := lined.first_of_busy member (Errand.waits_of_writing busy)
  exact ((whole ▸ lined.shape).of_writing busy).2.1

/-- A step of a call keeps to what is told of the failures, whether it can be taken or not. -/
theorem Alerted.go {failures drained : List SessionFailure} (alerted : c.Alerted failures drained)
    (lined : c.Lined) (member : p ∈ c.pending) :
    ((c.stepCall p).getD c).Alerted (failures ++ (c.failing? p).toList) drained := by
  obtain ⟨calm, once, seen, room⟩ := alerted
  cases failed : c.failing? p with
  | none =>
    rw [Option.toList_none, List.append_nil]
    cases moved : c.stepCall p with
    | none => exact ⟨calm, once, seen, room⟩
    | some c' =>
      have alarms : c'.alarms = c.alarms := by rw [stepCall_alarms moved, failed]; rfl
      rw [Option.getD_some]
      refine ⟨fun there => calm ?_, once, alarms.symm ▸ seen, alarms.symm ▸ room⟩
      -- A write half that is there was there before.
      by_contra gone
      rw [(lined.goes member moved).grows.2 (by simpa using gone)] at there
      cases there
  | some failure =>
    obtain ⟨-, c', moved, gone⟩ := failing?_some failed
    -- Nothing was told before, as the write half is there.
    obtain rfl := calm (lined.writable_of_failing member failed)
    have alarms : c'.alarms = c.alarms.report failure := by rw [stepCall_alarms moved, failed]; rfl
    obtain ⟨rfl, empty⟩ := List.append_eq_nil_iff.mp seen
    rw [moved, Option.getD_some]
    refine ⟨fun there => ?_, Nat.le_refl _, ?_, ?_⟩
    · rw [gone] at there
      cases there
    · -- The first failure finds room, unless it is not one to be seen.
      rw [alarms, Alarms.report]
      by_cases expected : failure.isExpected = true
      · simp [expected, empty]
      · simp [expected, empty, room]
    · rw [alarms, Alarms.report]
      split
      · exact room
      · split
        · exact room
        · exact room

/-- Every move keeps to what is told of the failures. -/
theorem Alerted.act {failures drained : List SessionFailure} (alerted : c.Alerted failures drained)
    (lined : c.Lined) (move : CallMove) :
    (c.act move).Alerted (failures ++ (c.failed? move).toList) (drained ++ c.taken move) := by
  obtain ⟨calm, once, seen, room⟩ := alerted
  -- Only a call that goes can fail, and only the taking of alarms empties the queue.
  cases move with
  | begin tag errand =>
    -- A call that begins joins the line and has nothing to fail with yet.
    have same : (c.act (.begin tag errand)).outlet.writable = c.outlet.writable ∧
        (c.act (.begin tag errand)).alarms = c.alarms := by
      rw [Callers.act]
      split
      · exact ⟨rfl, rfl⟩
      · exact ⟨rfl, rfl⟩
    simp only [failed?, taken, Option.toList_none, List.append_nil]
    exact ⟨same.1.symm ▸ calm, once, same.2.symm ▸ seen, same.2.symm ▸ room⟩
  | go tag =>
    have nothing : c.taken (.go tag) = [] := rfl
    rw [nothing, List.append_nil]
    cases found : c.call? tag with
    | none =>
      -- Without a call of the tag nothing moves.
      have none : c.failed? (.go tag) = none := by rw [failed?, found, Option.bind_none]
      have same : c.act (.go tag) = c := by rw [Callers.act, found]; rfl
      rw [none, same, Option.toList_none, List.append_nil]
      exact ⟨calm, once, seen, room⟩
    | some p =>
      obtain ⟨member, -⟩ := call?_some found
      have fails : c.failed? (.go tag) = c.failing? p := by rw [failed?, found, Option.bind_some]
      have moved : c.act (.go tag) = (c.stepCall p).getD c := by
        rw [Callers.act, found, Option.bind_some]
      rw [fails, moved]
      exact Alerted.go ⟨calm, once, seen, room⟩ lined member
  | wire wire =>
    simp only [failed?, taken, Option.toList_none, List.append_nil]
    exact ⟨calm, once, seen, room⟩
  | pass moment =>
    simp only [failed?, taken, Option.toList_none, List.append_nil]
    exact ⟨calm, once, seen, room⟩
  | take =>
    simp only [failed?, taken, Option.toList_none, List.append_nil]
    -- What was drained is now all that was seen.
    exact ⟨calm, once, (List.append_nil _).trans seen, room⟩

/-- Where the write half is gone, a call that does not wait is the closing that took it. -/
theorem Lined.taken_of_busy (lined : c.Lined) (gone : c.outlet.writable = false)
    (member : p ∈ c.pending) (busy : p.errand.waits = false) :
    Errand.hasTaken (some p.errand) = true := by
  have shape := lined.shape
  rw [gone] at shape
  generalize c.outlet.line = line at shape
  generalize c.pending = pending at shape member
  -- A write that has begun would have the write half.
  cases shape with
  | waiting all =>
    rw [all p member] at busy
    cases busy
  | closing taken others =>
    rcases List.mem_cons.mp member with rfl | behind
    · exact taken
    · rw [others p behind] at busy
      cases busy

/-- What becomes of a connection whose write half is gone.

Only the closing that took it can still be about its frame.

Nothing but that frame is written.

Only that closing is still told of success, unless a call asked whether the write half is gone. -/
structure Silent (c c' : Callers) (arrived : List OutletCall) : Prop where
  gone : c'.outlet.writable = false
  busy : ∀ p ∈ c'.pending, p.errand.waits = false →
    ∃ q ∈ c.pending, q.anew = p.anew ∧ Errand.hasTaken (some q.errand) = true
  sent : ∃ more, c'.outlet.sent = c.outlet.sent ++ more ∧
    ∀ x ∈ more, ∃ q ∈ c.pending, Errand.hasTaken (some q.errand) = true ∧
      q.entry? = some x
  returned : ∃ more, c'.returned.toList = c.returned.toList ++ more ∧
    ∀ r ∈ more, r.result = true → ⟨r.tag, .ask⟩ ∈ arrived ∨
      ∃ q ∈ c.pending, q.tag = r.tag ∧ Errand.hasTaken (some q.errand) = true

namespace Silent

variable {c'' : Callers} {arrived arrived' : List OutletCall}

/-- Where nothing is returned or written, and no call comes to its turn, all is silent. -/
theorem of_same (gone : c'.outlet.writable = false) (sent : c'.outlet.sent = c.outlet.sent)
    (returned : c'.returned = c.returned)
    (busy : ∀ p ∈ c'.pending, p.errand.waits = false →
      ∃ q ∈ c.pending, q.anew = p.anew ∧ Errand.hasTaken (some q.errand) = true) :
    c.Silent c' arrived where
  gone := gone
  busy := busy
  sent := ⟨[], by simp [sent], by simp⟩
  returned := ⟨[], by simp [returned], by simp⟩

/-- Where nothing happens, all is silent. -/
theorem refl (lined : c.Lined) (gone : c.outlet.writable = false) (arrived : List OutletCall) :
    c.Silent c arrived :=
  of_same gone rfl rfl fun p member busy =>
    ⟨p, member, rfl, lined.taken_of_busy gone member busy⟩

/-- What stays silent stays so further on. -/
theorem trans (first : c.Silent c' arrived) (second : c'.Silent c'' arrived')
    (grown : arrived ⊆ arrived') : c.Silent c'' arrived' := by
  obtain ⟨-, busy, ⟨more, sent, frames⟩, ⟨new, returned, results⟩⟩ := first
  obtain ⟨gone, busy', ⟨more', sent', frames'⟩, ⟨new', returned', results'⟩⟩ := second
  -- A call keeps its frame and its number from its beginning on.
  have entry {q r : OutletCall} (same : q.anew = r.anew) : q.entry? = r.entry? := by
    rw [← OutletCall.entry?_anew q, same, OutletCall.entry?_anew]
  have named {q r : OutletCall} (same : q.anew = r.anew) : q.tag = r.tag := by
    show q.anew.tag = r.anew.tag
    rw [same]
  refine ⟨gone, fun p member waits => ?_, ⟨more ++ more', ?_, fun x inside => ?_⟩,
    ⟨new ++ new', ?_, fun r inside success => ?_⟩⟩
  · obtain ⟨q, before, same, takenQ⟩ := busy' p member waits
    obtain ⟨r, first, earlier, takenR⟩ := busy q before (Errand.waits_of_taken takenQ)
    exact ⟨r, first, earlier.trans same, takenR⟩
  · rw [sent', sent, List.append_assoc]
  · rcases List.mem_append.mp inside with early | late
    · exact frames x early
    · obtain ⟨q, before, takenQ, own⟩ := frames' x late
      obtain ⟨r, first, same, takenR⟩ := busy q before (Errand.waits_of_taken takenQ)
      exact ⟨r, first, takenR, (entry same).trans own⟩
  · rw [returned', returned, List.append_assoc]
  · rcases List.mem_append.mp inside with early | late
    · exact (results r early success).imp_left (grown ·)
    · refine (results' r late success).imp_right fun ⟨q, before, own, takenQ⟩ => ?_
      obtain ⟨s, first, same, takenS⟩ := busy q before (Errand.waits_of_taken takenQ)
      exact ⟨s, first, (named same).trans own, takenS⟩

end Silent

/-- A step of a call on a connection without a write half is silent. -/
theorem Goes.silent (goes : c.Goes p c') (lined : c.Lined) (gone : c.outlet.writable = false)
    {arrived : List OutletCall} (known : p.anew ∈ arrived) : c.Silent c' arrived := by
  have kept : ∀ q ∈ c.pending, q.errand.waits = false →
      ∃ r ∈ c.pending, r.anew = q.anew ∧ Errand.hasTaken (some r.errand) = true :=
    fun q member busy => ⟨q, member, rfl, lined.taken_of_busy gone member busy⟩
  obtain ⟨-, shape⟩ := lined
  -- A write needs the write half, so only a closing that has begun and those that leave remain.
  have absent {P : Prop} (there : c.outlet.writable = true) : P := by
    rw [gone] at there
    cases there
  cases goes with
  | turn whole there => exact absent there
  | accepted whole => exact absent ((whole ▸ shape).of_writing rfl).2.1
  | flushed whole => exact absent ((whole ▸ shape).of_writing rfl).2.1
  | failed whole begun failure =>
    exact absent ((whole ▸ shape).of_writing (Errand.isWriting_of_begun begun)).2.1
  | took whole there => exact absent there
  | closeAccepted whole =>
    have own := whole ▸ List.mem_cons_self
    refine ⟨gone, forall_onward whole kept fun _ => ⟨_, own, rfl, rfl⟩,
      ⟨_, Outlet.sent_note_frame .., fun x inside => ⟨_, own, rfl, ?_⟩⟩,
        ⟨[], by simp, by simp⟩⟩
    rw [List.mem_singleton.mp inside]
    rfl
  | closeFlushed whole =>
    have own := whole ▸ List.mem_cons_self
    exact .of_same gone rfl rfl (forall_onward whole kept fun _ => ⟨_, own, rfl, rfl⟩)
  | closed whole begun sent line half =>
    have own := whole ▸ List.mem_cons_self
    refine ⟨half.trans gone, forall_without [] whole kept, ⟨[], by simp [sent], by simp⟩,
      ⟨_, Array.toList_push .., fun r inside _ => .inr ⟨_, own, ?_, ?_⟩⟩⟩
    · rw [List.mem_singleton.mp inside]
    · exact Errand.hasTaken_of_begun begun
  | left whole waits line idle =>
    refine ⟨gone, forall_without _ whole kept, ⟨[], by simp, by simp⟩,
      ⟨_, Array.toList_push .., fun r inside success => .inl ?_⟩⟩
    rw [List.mem_singleton.mp inside] at success ⊢
    -- Who returned with success only asked.
    rcases idle with asks | ⟨rfl, -⟩
    · obtain ⟨tag, errand⟩ := p
      cases asks
      exact known
    · cases success

namespace Served

variable {arrived : List OutletCall}

/-- Every move on a connection without a write half is silent. -/
theorem silent_act (served : c.Served arrived) (gone : c.outlet.writable = false)
    (move : CallMove) : c.Silent (c.act move) arrived := by
  have moves := served.lined.moves move
  -- Only the beginning of a call and its going on touch what the silence speaks of.
  generalize c.act move = c' at moves
  have same := Silent.refl served.lined gone arrived
  cases moves with
  | idle move none => exact same
  | begun new unknown =>
    refine .of_same gone rfl rfl fun p member busy => ?_
    rcases List.mem_append.mp member with before | own
    · exact ⟨p, before, rfl, served.lined.taken_of_busy gone before busy⟩
    · obtain rfl := List.mem_singleton.mp own
      rw [Errand.waits_of_isNew new] at busy
      cases busy
  | went member goes => exact goes.silent served.lined gone (served.anew_mem member)
  | wire wire => exact ⟨gone, same.busy, same.sent, same.returned⟩
  | pass moment => exact ⟨gone, same.busy, same.sent, same.returned⟩
  | take => exact ⟨gone, same.busy, same.sent, same.returned⟩

/-- Whatever happens on a connection without a write half is silent. -/
theorem silent (served : c.Served arrived) (gone : c.outlet.writable = false)
    (moves : List CallMove) : c.Silent (c.after moves) (arrived ++ c.arrivals moves) := by
  -- What begins later is silent as well, so the silence of each move is passed on.
  induction moves generalizing c arrived with
  | nil => exact .refl served.lined gone _
  | cons move rest ih =>
    have first := served.silent_act gone move
    have later := ih (served.act move) first.gone
    rw [List.append_assoc] at later
    exact first.trans later (List.subset_append_left _ _)

end Served

/-- A call that has its turn returns at once when the write half is gone. -/
theorem stepCall_of_gone (gone : c.outlet.writable = false) (waits : p.errand.waits = true)
    (first : c.outlet.hasTurn p.writer = true) :
    ∃ c', c.stepCall p = some c' ∧ c'.outlet = c.outlet.leave p.writer := by
  -- With the write half gone there is nothing left to do but leave.
  obtain ⟨tag, errand⟩ := p
  rw [OutletCall.writer] at first
  cases errand with
  | write frame stage =>
    cases stage with
    | queued => exact ⟨_, by simp [stepCall, Outlet.stepWrite, first, gone]; rfl, rfl⟩
    | _ => cases waits
  | close frame stage =>
    cases stage with
    | queued => exact ⟨_, by simp [stepCall, Outlet.stepClose, first, gone]; rfl, rfl⟩
    | _ => cases waits
  | ask => exact ⟨_, by simp [stepCall, Outlet.stepAsk, first]; rfl, rfl⟩

/-- The first in line returns when the write half is gone, and the next one has the turn then. -/
theorem Lined.next_returns (lined : c.Lined) (gone : c.outlet.writable = false) {w : Writer}
    {rest : List Writer} (line : c.outlet.line = w :: rest) :
    ∃ tag, (c.act (.go tag)).outlet.line = rest := by
  -- Those in line are the calls that wait.
  obtain ⟨p, member, waits, rfl⟩ :
      ∃ p ∈ c.pending, p.errand.waits = true ∧ p.writer = w := by
    have shape := lined.shape
    rw [line, gone] at shape
    generalize c.pending = pending at shape
    generalize whole : w :: rest = others at shape
    cases shape with
    | @waiting pending all there =>
      obtain ⟨p, member, same⟩ := List.mem_map.mp (whole ▸ List.mem_cons_self)
      exact ⟨p, member, all p member, same⟩
    | @closing closer waiting busy all =>
      obtain ⟨p, member, same⟩ := List.mem_map.mp (whole ▸ List.mem_cons_self)
      exact ⟨p, List.mem_cons_of_mem _ member, all p member, same⟩
  have first : c.outlet.hasTurn p.writer = true := by
    rw [Outlet.hasTurn_iff, line, List.head?_cons]
  obtain ⟨c', moved, outlet⟩ := stepCall_of_gone gone waits first
  refine ⟨p.tag, ?_⟩
  rw [act, lined.call?_eq member, Option.bind_some, moved, Option.getD_some, outlet]
  show c.outlet.line.erase p.writer = rest
  rw [line, List.erase_cons_head]

/-- When nobody is in line, nobody waits. -/
theorem Lined.busy_of_empty (lined : c.Lined) (line : c.outlet.line = [])
    (member : p ∈ c.pending) :
    p.errand.waits = false := by
  -- The three shapes of a line: some calls wait, one writes before them, or one closes before them.
  have shape := lined.shape
  rw [line] at shape
  generalize c.outlet.writable = there at shape
  generalize c.pending = pending at shape member
  generalize none : [] = others at shape
  cases shape with
  | waiting all there =>
    obtain rfl := List.map_eq_nil_iff.mp none.symm
    cases member
  | writing busy all => cases none
  | closing busy all =>
    obtain rfl := List.map_eq_nil_iff.mp none.symm
    obtain rfl := List.mem_singleton.mp member
    exact Errand.waits_of_taken busy

namespace Served

variable {arrived : List OutletCall}

/-- Once the write half is gone, all that wait return as soon as each takes a step in its turn. -/
theorem drains (served : c.Served arrived) (gone : c.outlet.writable = false) :
    ∃ more, (∀ move ∈ more, ∃ tag, move = .go tag) ∧ (c.after more).outlet.line = [] := by
  -- The induction is on the line, which each step shortens.
  generalize whole : c.outlet.line = line
  induction line generalizing c arrived with
  | nil => exact ⟨[], by simp, whole⟩
  | cons w rest ih =>
    obtain ⟨tag, next⟩ := served.lined.next_returns gone whole
    have still := (served.silent_act gone (.go tag)).gone
    obtain ⟨more, steps, drained⟩ := ih (served.act (.go tag)) still next
    refine ⟨.go tag :: more, fun move member => ?_, drained⟩
    rcases List.mem_cons.mp member with rfl | later
    · exact ⟨tag, rfl⟩
    · exact steps move later

/-- There is no failure any more once the write half is gone. -/
theorem failures_of_gone (served : c.Served arrived) (gone : c.outlet.writable = false)
    (moves : List CallMove) : c.failures moves = [] := by
  induction moves generalizing c arrived with
  | nil => rfl
  | cons move rest ih =>
    -- A call that fails has the write half.
    have none : c.failed? move = none := by
      cases move with
      | go tag =>
        rw [failed?]
        cases found : c.call? tag with
        | none => rfl
        | some p =>
          obtain ⟨member, -⟩ := call?_some found
          cases failed : c.failing? p with
          | none => exact failed
          | some failure =>
            rw [served.lined.writable_of_failing member failed] at gone
            cases gone
      | _ => rfl
    have later := ih (served.act move) (served.silent_act gone move).gone
    show (c.failed? move).toList ++ _ = []
    rw [none]
    exact later

/-- Two calls that do not wait are one. -/
theorem sole (served : c.Served arrived) {q : OutletCall} (first : p ∈ c.pending)
    (second : q ∈ c.pending) (busyP : p.errand.waits = false) (busyQ : q.errand.waits = false) :
    p = q := by
  -- Behind the first call all others wait.
  obtain ⟨rest, whole, others⟩ := served.lined.first_of_busy first busyP
  rw [whole] at second
  rcases List.mem_cons.mp second with same | behind
  · exact same.symm
  · rw [others q behind] at busyQ
    cases busyQ

end Served

/-- All moves keep to what is told of the failures. -/
theorem Alerted.after {arrived : List OutletCall} {failures drained : List SessionFailure}
    (alerted : c.Alerted failures drained) (served : c.Served arrived) (moves : List CallMove) :
    (c.after moves).Alerted (failures ++ c.failures moves) (drained ++ c.drained moves) := by
  -- What fails and what is taken are gathered move by move.
  induction moves generalizing c arrived failures drained with
  | nil => simpa [Callers.after, Callers.failures, Callers.drained, along] using alerted
  | cons move rest ih =>
    have later := ih (alerted.act served.lined move) (served.act move)
    rw [List.append_assoc, List.append_assoc] at later
    exact later

/-- A connection begins without calls and without failures. -/
theorem start?_some {wire : WireState} {limit room : Nat} {start : Callers}
    (begins : start? wire limit room = some start) :
    start.Served [] ∧ start.Alerted [] [] := by
  -- At the start there are no calls, and the queue has the room it was given.
  unfold start? at begins
  split at begins
  · next wide =>
    cases begins
    simp only [isQueueRoom, Bool.and_eq_true, decide_eq_true_eq] at wide
    refine ⟨⟨⟨List.nodup_nil, .waiting (by simp) _⟩, by simp, List.nodup_nil,
      List.Sublist.slnil, by simp, List.Sublist.slnil, by simp [Passed], by simp, ⟨?_, ?_⟩⟩,
      fun _ => rfl, Nat.zero_le _, rfl, wide.1⟩
    · intro front frame w back split
      have none : ([] : List (OutFrame × Writer)) = front ++ (.close frame, w) :: back := split
      simp at none
    · intro frame w sent
      cases sent
  · cases begins

/-- A step of the calls that are let run is a move. -/
theorem Served.step_act {arrived : List OutletCall} (served : c.Served arrived)
    (moved : c.step = some c') : ∃ tag, c' = c.act (.go tag) := by
  -- The step takes the first call that can go on, which is a move of its number.
  obtain ⟨p, member, moved⟩ := List.exists_of_findSome?_eq_some moved
  refine ⟨p.tag, ?_⟩
  rw [Callers.act, served.lined.call?_eq member, Option.bind_some, moved, Option.getD_some]

/-- Calls that are let run for some time make moves: steps of calls, and time that passes. -/
theorem Served.advance_after {arrived : List OutletCall} (served : c.Served arrived) (ms : Nat) :
    ∃ moves, Clocked.advance c ms = c.after moves := by
  -- The moves made on the way are gathered. A step is a call going on, and a wait lets time pass.
  refine Clocked.advance_keeps (P := fun s => ∃ moves, s = c.after moves)
    (fun moved reached => ?_)
    (fun moment reached => ?_) ms ⟨[], rfl⟩
  · obtain ⟨moves, rfl⟩ := reached
    obtain ⟨tag, same⟩ := (served.after moves).step_act moved
    exact ⟨moves ++ [.go tag], by rw [after_append]; exact same⟩
  · obtain ⟨moves, rfl⟩ := reached
    exact ⟨moves ++ [.pass moment], by rw [after_append]; rfl⟩

/-- Calls on a connection take turns, whatever the transport does.

Their frames are written whole and in the order in which the calls began.
One call at most is about its frame.

What was written of a call that returned with success is on the connection.
A closing has taken the write half when it returns, whether its frame could be written or not.
Nothing follows a close frame.

A failure comes of a write that had begun, and of none but the first.
It is seen unless it is the normal end of a connection.

Once the write half is gone, nothing is written but by the closing that had taken it.
Nobody else is told of success, unless the call asked whether the write half is gone.
There is no further failure, and every call returns that takes its step in its turn. -/
theorem calls_take_turns (wire : WireState) (limit room : Nat) (start : Callers)
    (begins : start? wire limit room = some start) (moves : List CallMove) :
    let c := start.after moves
    let arrived := start.arrivals moves
    c.outlet.sent.Sublist (arrived.filterMap OutletCall.entry?) ∧
    (∀ p ∈ c.pending, ∀ q ∈ c.pending, p.errand.waits = false → q.errand.waits = false →
      p = q) ∧
    (∀ call ∈ arrived, ∀ r ∈ c.returned.toList, r.tag = call.tag →
      c.outlet.Grants call r.result) ∧
    (∀ p ∈ c.pending, Errand.hasTaken (some p.errand) = true → c.outlet.writable = false) ∧
    (∀ front frame w back, c.outlet.sent = front ++ (.close frame, w) :: back → back = []) ∧
    (∀ tag failure, c.failed? (.go tag) = some failure →
      c.outlet.writable = true ∧ (c.act (.go tag)).outlet.writable = false ∧
        ∃ p, c.call? tag = some p ∧ Errand.isWriting (some p.errand) = true) ∧
    (start.failures moves).length ≤ 1 ∧
    start.drained moves ++ c.alarms.queue =
      (start.failures moves).filter (fun f => !f.isExpected) ∧
    (c.outlet.writable = false →
      (∀ more, c.Silent (c.after more) (start.arrivals (moves ++ more)) ∧
        c.failures more = []) ∧
      ∃ more, (∀ move ∈ more, ∃ tag, move = .go tag) ∧
        ∀ call ∈ arrived, (∃ r ∈ (c.after more).returned.toList, r.tag = call.tag) ∨
          ∃ q ∈ c.pending, q.tag = call.tag ∧ Errand.hasTaken (some q.errand) = true) := by
  intro c arrived
  obtain ⟨served, alerted⟩ := start?_some begins
  have alerted := alerted.after served moves
  have served : c.Served arrived := served.after moves
  refine ⟨(List.sublist_append_left _ _).trans served.order,
    fun p first q second busyP busyQ => served.sole first second busyP busyQ,
    fun call begun r returned same => ?_, fun p member taken => ?_, served.final.last,
    fun tag failure failed => ?_, alerted.once, alerted.seen, fun gone =>
      ⟨fun more => ⟨?_, ?_⟩, ?_⟩⟩
  · -- Each number is that of one call.
    obtain ⟨other, begun', named, grants⟩ := served.outcomes r returned
    have own := List.inj_on_of_nodup_map served.distinct begun' begun (named.trans same)
    exact own ▸ grants
  -- A call that has taken the write half stands first, in the shape of a closing.
  · obtain ⟨rest, whole, -⟩ := served.lined.first_of_busy member (Errand.waits_of_taken taken)
    exact ((whole ▸ served.lined.shape).of_closing taken).2.1
  -- A failing call is first in line with the write half, and its failing takes that away.
  · rw [failed?] at failed
    obtain ⟨p, found, failed⟩ := Option.bind_eq_some_iff.mp failed
    obtain ⟨busy, c', moved, gone⟩ := failing?_some failed
    refine ⟨served.lined.writable_of_failing (call?_some found).1 failed, ?_, p, found, busy⟩
    rw [act, found, Option.bind_some, moved, Option.getD_some]
    exact gone
  · rw [arrivals, along_append]
    exact served.silent gone more
  · exact served.failures_of_gone gone more
  · -- Who has not returned when nobody is in line is the one that closes.
    obtain ⟨more, steps, line⟩ := served.drains gone
    have later := served.after more
    have silent := served.silent gone more
    refine ⟨more, steps, fun call begun => ?_⟩
    rcases later.present call (List.mem_append_left _ begun) with ⟨p, member, same⟩ | returned
    · obtain ⟨q, before, own, taken⟩ :=
        silent.busy p member (later.lined.busy_of_empty line member)
      exact .inr ⟨q, before, (congrArg OutletCall.tag own).trans same, taken⟩
    · exact .inl returned

/-- It holds of a ping behind a message, of which the transport takes the frame and fails then, with
a closing and a ping behind them. -/
theorem calls_take_turns_failed :
    let message : Message := ⟨.created, .known .application, "p", none⟩
    let moves : List CallMove :=
      [.begin 0 (.write (.message message) .queued), .begin 1 (.write .ping .queued),
        .begin 2 (.close none .queued), .go 1, .go 0, .go 0, .go 0, .go 1, .go 1,
        .wire ⟨.fail [⟨none, "reset"⟩], .flush⟩, .go 1,
          .begin 3 (.write .ping .queued), .go 2]
    ∃ start, start? .clear 1000 4 = some start ∧
      let c := start.after moves
      c.outlet.sent = [(.message message, .call 0), (.ping, .call 1)] ∧
      c.returned.toList.map (fun r => (r.tag, r.result)) = [(0, true), (1, false), (2, false)] ∧
      (start.failures moves).length ≤ 1 ∧
      ∀ more, (c.after more).outlet.writable = false ∧ c.failures more = [] := by
  -- The answers are computed. That no later move changes them is the theorem at these calls.
  intro message moves
  have begins : start? .clear 1000 4 = some ⟨0, .new .clear 1000, ⟨[], 4⟩, [], #[]⟩ :=
    if_pos (by decide)
  obtain ⟨-, -, -, -, -, -, once, -, after⟩ := calls_take_turns .clear 1000 4 _ begins moves
  obtain ⟨silent, -⟩ := after (by decide +kernel)
  exact ⟨_, begins, by decide +kernel, by decide +kernel, once,
    fun more => ⟨(silent more).1.gone, (silent more).2⟩⟩

/-- A closing returns with success although the transport has taken no frame. -/
theorem closing_returns_unsent :
    let wire : WireState := ⟨.fail [⟨none, "boom"⟩], .ready⟩
    let frame : CloseFrame := ⟨1000, "bye"⟩
    let moves : List CallMove := [.begin 0 (.close (some frame) .queued), .go 0, .go 0]
    ∃ start, start? wire 1000 4 = some start ∧
      (start.arrivals moves).map OutletCall.entry? = [some (.close (some frame), .call 0)] ∧
      (start.after moves).returned.toList.map (fun r => (r.tag, r.result)) = [(0, true)] ∧
      (start.after moves).outlet.sent = [] :=
  ⟨_, if_pos (by decide), by decide +kernel, by decide +kernel, by decide +kernel⟩

end Callers

end WatchRelay
