import Mathlib.Data.List.Basic
import WatchRelay.Proofs.Connection.WriteSide

/-! A write side that lacks some of the writers of another: the others get on there as they do
beside them. -/

namespace WatchRelay

/-- Whether a frame is a notification of a kind. -/
def OutFrame.notifies (kind : ResourceKind) : OutFrame → Bool
  | .message m => m.op.isNotification && m.kind == .known kind
  | .ping | .close _ => false

/-- A writer without the number that its session gives to it if it is a runner. -/
def Writer.unnumbered : Writer → Writer
  | .runner _ => .runner 0
  | .eventLoop => .eventLoop
  | .keepAlive => .keepAlive
  | .call id => .call id

namespace LogEntry

/-- Whether the frame of a notification of a kind was taken. -/
def notifies (kind : ResourceKind) (x : LogEntry) : Bool :=
  match x.happening with
  | .frame frame _ => frame.notifies kind
  | .ended | .dropped => false

/-- What happened and when, without the numbers of runners. -/
def unnumbered (x : LogEntry) : LogEntry :=
  match x.happening with
  | .frame frame w => { x with happening := .frame frame w.unnumbered }
  | .ended | .dropped => x

end LogEntry

/-- All that happened on a connection and when, without the numbers of runners. -/
def Outlet.story (o : Outlet) : List LogEntry := o.log.toList.map LogEntry.unnumbered

namespace Outlet

@[simp] theorem story_leave (o : Outlet) (w : Writer) : (o.leave w).story = o.story := rfl

@[simp] theorem story_note (o : Outlet) (now : Nat) (happening : Happening) :
    (o.note now happening).story = o.story ++ [LogEntry.unnumbered ⟨now, happening⟩] := by
  simp [story, note]

end Outlet

/-- Which writer of one connection is which on another, if it is there at all. -/
structure Renames (f : Writer → Option Writer) : Prop where
  once : ∀ v w x, f v = some x → f w = some x → v = w
  unnumbered : ∀ w x, f w = some x → x.unnumbered = w.unnumbered

namespace Renames

variable {f : Writer → Option Writer} {w x : Writer}

/-- A writer that leaves a line leaves it under its other name. -/
theorem filterMap_erase (names : Renames f) (own : f w = some x) (line : List Writer) :
    (line.erase w).filterMap f = (line.filterMap f).erase x := by
  induction line with
  | nil => rfl
  | cons v rest ih =>
    by_cases same : v = w
    · subst same
      simp [own]
    · rw [List.erase_cons_tail (by simpa using same)]
      -- Another writer has another name, if it has one.
      cases named : f v with
      | none => simp only [List.filterMap_cons_none named, ih]
      | some y =>
        have differ : y ≠ x := by
          rintro rfl
          exact same (names.once v w y named own)
        rw [List.filterMap_cons_some named, List.filterMap_cons_some named,
          List.erase_cons_tail (by simpa using differ), ih]

/-- A writer without another name leaves nothing there. -/
theorem filterMap_erase_of_none (nameless : f w = none) (line : List Writer) :
    (line.erase w).filterMap f = line.filterMap f := by
  induction line with
  | nil => rfl
  | cons v rest ih =>
    by_cases same : v = w
    · subst same
      simp [nameless]
    -- Whoever stands in front is not the one who leaves.
    · rw [List.erase_cons_tail (by simpa using same), List.filterMap_cons, List.filterMap_cons, ih]

end Renames

/-- How a write side stands to another on which only the writers with a name write, and the
notifications of a kind do not happen. -/
structure Outlet.Mutes (kind : ResourceKind) (f : Writer → Option Writer) (o o' : Outlet) :
    Prop where
  writable : o'.writable = o.writable
  wire : o'.wire = o.wire
  limit : o'.limit = o.limit
  line : o'.line = o.line.filterMap f
  story : o'.story = o.story.filter fun x => !x.notifies kind

namespace Outlet.Mutes

variable {kind : ResourceKind} {f : Writer → Option Writer} {o o' o₁ : Outlet} {w x : Writer}
  {now : Nat}

/-- Only the names of those in line matter. -/
theorem congr (mutes : Mutes kind f o o') {g : Writer → Option Writer}
    (same : ∀ w ∈ o.line, g w = f w) : Mutes kind g o o' :=
  ⟨mutes.writable, mutes.wire, mutes.limit,
    mutes.line.trans (List.filterMap_congr same).symm, mutes.story⟩

/-- What happens on both sides. -/
theorem note (mutes : Mutes kind f o o') {happening happening' : Happening}
    (alike : LogEntry.unnumbered ⟨now, happening'⟩ = LogEntry.unnumbered ⟨now, happening⟩)
    (other : (LogEntry.unnumbered ⟨now, happening⟩).notifies kind = false) :
    Mutes kind f (o.note now happening) (o'.note now happening') := by
  -- The entry is the same on both sides but for the number of its writer, and it is kept.
  refine ⟨mutes.writable, mutes.wire, mutes.limit, mutes.line, ?_⟩
  rw [story_note, story_note, List.filter_append, mutes.story, alike]
  simp [other]

/-- A writer that is there takes its frame to both sides. -/
theorem noteFrame (mutes : Mutes kind f o o') (names : Renames f) (own : f w = some x)
    {frame : OutFrame} (other : frame.notifies kind = false) :
    Mutes kind f (o.note now (.frame frame w)) (o'.note now (.frame frame x)) := by
  -- The frame is noted on both sides, under the name the writer has there.
  refine mutes.note ?_ (by simpa [LogEntry.notifies, LogEntry.unnumbered] using other)
  simp [LogEntry.unnumbered, names.unnumbered w x own]

/-- A notification of the kind happens on the one side only. -/
theorem noteOwn (mutes : Mutes kind f o o') {frame : OutFrame}
    (own : frame.notifies kind = true) : Mutes kind f (o.note now (.frame frame w)) o' := by
  -- The entry is left out, so the other side needs none.
  refine ⟨mutes.writable, mutes.wire, mutes.limit, mutes.line, ?_⟩
  rw [story_note, List.filter_append, mutes.story]
  simp [LogEntry.notifies, LogEntry.unnumbered, own]

theorem setWritable (mutes : Mutes kind f o o') (writable : Bool) :
    Mutes kind f { o with writable } { o' with writable } :=
  ⟨rfl, mutes.wire, mutes.limit, mutes.line, mutes.story⟩

theorem discard (mutes : Mutes kind f o o') : Mutes kind f (o.discard now) (o'.discard now) :=
  (mutes.note rfl rfl).setWritable false

theorem rewire (mutes : Mutes kind f o o') (wire : WireState) :
    Mutes kind f { o with wire } { o' with wire } :=
  ⟨mutes.writable, rfl, mutes.limit, mutes.line, mutes.story⟩

/-- A writer that is there gets in both lines. -/
theorem join (mutes : Mutes kind f o o') (own : f w = some x) :
    Mutes kind f (o.join w) (o'.join x) := by
  refine ⟨mutes.writable, mutes.wire, mutes.limit, ?_, mutes.story⟩
  simp [Outlet.join, mutes.line, own]

/-- A writer that is not there gets in the one line only. -/
theorem joinOwn (mutes : Mutes kind f o o') (nameless : f w = none) :
    Mutes kind f (o.join w) o' := by
  refine ⟨mutes.writable, mutes.wire, mutes.limit, ?_, mutes.story⟩
  simp [Outlet.join, mutes.line, nameless]

theorem leave (mutes : Mutes kind f o o') (names : Renames f) (own : f w = some x) :
    Mutes kind f (o.leave w) (o'.leave x) := by
  -- Under one name the same place of the line is left.
  refine ⟨mutes.writable, mutes.wire, mutes.limit, ?_, mutes.story⟩
  show o'.line.erase x = (o.line.erase w).filterMap f
  rw [mutes.line, names.filterMap_erase own]

theorem leaveOwn (mutes : Mutes kind f o o') (nameless : f w = none) :
    Mutes kind f (o.leave w) o' := by
  refine ⟨mutes.writable, mutes.wire, mutes.limit, ?_, mutes.story⟩
  show o'.line = (o.line.erase w).filterMap f
  rw [mutes.line, Renames.filterMap_erase_of_none nameless]

/-- A writer that is there and has its turn has it on both sides. -/
theorem hasTurn (mutes : Mutes kind f o o') (own : f w = some x) (first : o.hasTurn w = true) :
    o'.hasTurn x = true := by
  rw [hasTurn_iff] at first ⊢
  -- Who stands first in the longer line stands first in the one without the others.
  obtain ⟨rest, line⟩ := List.head?_eq_some_iff.mp first
  rw [mutes.line, line, List.filterMap_cons_some own]
  rfl

theorem timeout (mutes : Mutes kind f o o') : o'.timeout = o.timeout := by
  simp [Outlet.timeout, mutes.limit]

theorem failWrite (mutes : Mutes kind f o o') (names : Renames f) (own : f w = some x) :
    Mutes kind f ((o.discard now).leave w) ((o'.discard now).leave x) :=
  mutes.discard.leave names own

/-- A writer that is there gets on with its write as it does beside the others. -/
theorem stepWrite (mutes : Mutes kind f o o') (names : Renames f) (own : f w = some x)
    {frame : OutFrame} (other : frame.notifies kind = false) {stage : WriteStage}
    {result : StepResult WriteStage}
    (moved : o.stepWrite now w frame stage = some (o₁, result)) :
    ∃ o₁', o'.stepWrite now x frame stage = some (o₁', result) ∧
      Mutes kind f o₁ o₁' := by
  cases stage with
  | queued =>
    -- Its turn comes there no later.
    simp only [Outlet.stepWrite] at moved ⊢
    split at moved
    · next first =>
      rw [if_pos (mutes.hasTurn own first), mutes.writable, mutes.limit]
      split at moved
      · next there => cases moved; exact ⟨o', if_pos there, mutes⟩
      · next gone => cases moved; exact ⟨_, if_neg gone, mutes.leave names own⟩
    · cases moved
  | sending deadline =>
    simp only [Outlet.stepWrite, mutes.wire, mutes.timeout] at moved ⊢
    split at moved
    -- The transport does with the frame what it does there: it is the same, in the same time.
    · cases moved; exact ⟨_, rfl, mutes.noteFrame names own other⟩
    · cases moved; exact ⟨_, rfl, mutes.failWrite names own⟩
    · -- A transport that stalls does so for everyone.
      split at moved
      · next late => cases moved; exact ⟨_, if_pos late, mutes.failWrite names own⟩
      · cases moved
  | flushing deadline =>
    simp only [Outlet.stepWrite, mutes.wire, mutes.timeout] at moved ⊢
    split at moved
    -- A write that is flushed is over, and its writer leaves both lines.
    · cases moved; exact ⟨_, rfl, mutes.leave names own⟩
    · cases moved; exact ⟨_, rfl, mutes.failWrite names own⟩
    · split at moved
      · next late => cases moved; exact ⟨_, if_pos late, mutes.failWrite names own⟩
      · cases moved

/-- Closing goes on as it does beside the others. -/
theorem stepClose (mutes : Mutes kind f o o') (names : Renames f) (own : f w = some x)
    {frame : Option CloseFrame} {stage : CloseStage} {result : StepResult CloseStage}
    (moved : o.stepClose now w frame stage = some (o₁, result)) :
    ∃ o₁', o'.stepClose now x frame stage = some (o₁', result) ∧
      Mutes kind f o₁ o₁' := by
  have dropped : Mutes kind f (o.note now .dropped) (o'.note now .dropped) := mutes.note rfl rfl
  cases stage with
  | queued =>
    simp only [Outlet.stepClose] at moved ⊢
    split at moved
    · next first =>
      rw [if_pos (mutes.hasTurn own first), mutes.writable, mutes.limit]
      split at moved
      -- Who closes takes the write half from both sides.
      · next there =>
        cases moved
        exact ⟨_, if_pos there, (mutes.leave names own).setWritable false⟩
      · next gone => cases moved; exact ⟨_, if_neg gone, mutes.leave names own⟩
    · cases moved
  | sending deadline =>
    simp only [Outlet.stepClose, mutes.wire] at moved ⊢
    split at moved
    -- A close frame is no notification, so it is there on both sides.
    · cases moved; exact ⟨_, rfl, mutes.noteFrame names own rfl⟩
    · cases moved; exact ⟨_, rfl, dropped⟩
    · split at moved
      · next late => cases moved; exact ⟨_, if_pos late, dropped⟩
      · cases moved
  | flushing deadline =>
    simp only [Outlet.stepClose, mutes.wire] at moved ⊢
    split at moved
    · cases moved; exact ⟨_, rfl, mutes⟩
    · cases moved; exact ⟨_, rfl, dropped⟩
    · split at moved
      · next late => cases moved; exact ⟨_, if_pos late, dropped⟩
      · cases moved
  | ending deadline =>
    simp only [Outlet.stepClose, mutes.wire] at moved ⊢
    split at moved
    · cases moved; exact ⟨_, rfl, (mutes.note rfl rfl).note rfl rfl⟩
    · cases moved; exact ⟨_, rfl, dropped⟩
    · split at moved
      · next late => cases moved; exact ⟨_, if_pos late, dropped⟩
      · cases moved

/-- A writer that is not there may write its notifications as long as they do not fail. -/
theorem stepOwn (mutes : Mutes kind f o o') (nameless : f w = none) {frame : OutFrame}
    (own : frame.notifies kind = true) {stage : WriteStage} {result : StepResult WriteStage}
    (moved : o.stepWrite now w frame stage = some (o₁, result))
    (sound : ∀ g, result ≠ .done false g) :
    Mutes kind f o₁ o' ∧ ∀ ok g, result = .done ok g → g = none := by
  -- Of all that can become of the write only the frame itself shows, and it is left out there.
  have writes := stepWrite_writes moved
  cases writes with
  | turn _ _ => exact ⟨mutes, fun _ _ same => by cases same⟩
  | refused _ _ => exact absurd rfl (sound none)
  | accepted _ => exact ⟨mutes.noteOwn own, fun _ _ same => by cases same⟩
  | flushed _ => exact ⟨mutes.leaveOwn nameless, fun _ _ same => by cases same; rfl⟩
  | failed _ g => exact absurd rfl (sound (some g))

end Outlet.Mutes

end WatchRelay
