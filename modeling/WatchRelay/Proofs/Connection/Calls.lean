import Mathlib.Data.List.Nodup
import WatchRelay.Proofs.Connection.WriteSide

/-! Calls on the write side of a connection over time. They stand in line in the order in which they
began; the first has the turn, and one at most is about its frame. -/

namespace WatchRelay

namespace Errand

/-- The errand as it was when it began. -/
def anew : Errand → Errand
  | .write frame _ => .write frame .queued
  | .close frame _ => .close frame .queued
  | .ask => .ask

/-- Whether an errand is one to begin with: only closing writes a close frame. -/
def isNew : Errand → Bool
  | .write frame .queued => !frame.isClose
  | .close _ .queued | .ask => true
  | .write _ _ | .close _ _ => false

/-- Whether an errand has to wait for its turn. -/
def waits : Errand → Bool
  | .write _ .queued | .close _ .queued | .ask => true
  | .write _ _ | .close _ _ => false

/-- The frame that an errand is about. -/
def frame? : Errand → Option OutFrame
  | .write frame _ => some frame
  | .close frame _ => some (.close frame)
  | .ask => none

/-- Whether the frame of an errand is still to be given to the transport. -/
def isUnsent : Errand → Bool
  | .write _ .queued | .write _ (.sending _) => true
  | .close _ .queued | .close _ (.sending _) => true
  | _ => false

/-- What is there to begin with has to wait. -/
theorem waits_of_isNew {errand : Errand} (new : errand.isNew = true) : errand.waits = true := by
  -- What is new is in its first stage.
  cases errand with
  | write frame stage => cases stage <;> simp_all [isNew, waits]
  | close frame stage => cases stage <;> simp_all [isNew, waits]
  | ask => rfl

/-- What is there to begin with is as it was when it began. -/
theorem anew_of_isNew {errand : Errand} (new : errand.isNew = true) : errand.anew = errand := by
  -- What is new is in its first stage, which is the one a call begins with again.
  cases errand with
  | write frame stage => cases stage <;> simp_all [isNew, anew]
  | close frame stage => cases stage <;> simp_all [isNew, anew]
  | ask => rfl

/-- A write that has begun is about its frame. -/
theorem isWriting_of_begun {frame : OutFrame} {stage : WriteStage} (begun : stage ≠ .queued) :
    isWriting (some (.write frame stage)) = true := by
  -- Behind the first stage a write holds the connection.
  cases stage with
  | queued => exact absurd rfl begun
  | _ => rfl

/-- A closing that has begun has taken the write half. -/
theorem hasTaken_of_begun {frame : Option CloseFrame} {stage : CloseStage}
    -- Behind the first stage a closing has taken the write half.
    (begun : stage ≠ .queued) : hasTaken (some (.close frame stage)) = true := by
  cases stage with
  | queued => exact absurd rfl begun
  | _ => rfl

/-- What writes does not wait. -/
theorem waits_of_writing {errand : Errand} (busy : isWriting (some errand) = true) :
    errand.waits = false := by
  -- Only a write is writing, and not in its first stage.
  cases errand with
  | write frame stage =>
    cases stage with
    | queued => cases busy
    | _ => rfl
  | _ => cases busy

/-- What closes does not write. -/
theorem not_writing_of_taken {errand : Errand} (busy : hasTaken (some errand) = true) :
    isWriting (some errand) = false := by
  -- One errand is not both.
  cases errand with
  | write frame stage => cases busy
  | _ => rfl

/-- What has taken the write half does not wait. -/
theorem waits_of_taken {errand : Errand} (busy : hasTaken (some errand) = true) :
    errand.waits = false := by
  -- Only a closing takes the write half, and not in its first stage.
  cases errand with
  | close frame stage =>
    cases stage with
    | queued => cases busy
    | _ => rfl
  | _ => cases busy

end Errand

namespace OutletCall

/-- Whom the log names as the writer of a call. -/
def writer (p : OutletCall) : Writer := .call p.tag

/-- A call as it was when it began. -/
def anew (p : OutletCall) : OutletCall := { p with errand := p.errand.anew }

/-- The frame of a call, with its writer. -/
def entry? (p : OutletCall) : Option (OutFrame × Writer) := p.errand.frame?.map (·, p.writer)

/-- The frame of a call that is still to be given to the transport, with its writer. -/
def unsent? (p : OutletCall) : Option (OutFrame × Writer) :=
  if p.errand.isUnsent then p.entry? else none

@[simp] theorem entry?_anew (p : OutletCall) : p.anew.entry? = p.entry? := by
  obtain ⟨tag, errand⟩ := p
  cases errand <;> rfl

end OutletCall

/-- What can happen on a connection with calls. -/
inductive CallMove where
  /-- A call begins, known by a number. -/
  | begin (tag : Nat) (errand : Errand)
  /-- A call takes a step, if it has something to do. -/
  | go (tag : Nat)
  /-- The transport behaves in another way. -/
  | wire (wire : WireState)
  /-- Time passes. -/
  | pass (moment : Nat)
  /-- The failures that wait to be seen are taken. -/
  | take

namespace Callers

/-- Whether a number is that of a call. -/
def knows (c : Callers) (tag : Nat) : Bool :=
  (c.pending.any fun p => p.tag == tag) || c.returned.any fun r => r.tag == tag

/-- The call with a number that has not returned. -/
def call? (c : Callers) (tag : Nat) : Option OutletCall := c.pending.find? fun p => p.tag == tag

/-- The call that begins in a move; each has a number of its own. -/
def begun? (c : Callers) : CallMove → Option OutletCall
  | .begin tag errand => if errand.isNew && !c.knows tag then some ⟨tag, errand⟩ else none
  | _ => none

/-- The failure with which a step of a call ends it. -/
def failing? (c : Callers) (p : OutletCall) : Option SessionFailure :=
  match p.errand with
  | .write frame stage =>
    match c.outlet.stepWrite c.now p.writer frame stage with
    | some (_, .done _ failure) => failure
    | _ => none
  | .close frame stage =>
    match c.outlet.stepClose c.now p.writer frame stage with
    | some (_, .done _ failure) => failure
    | _ => none
  | .ask => none

/-- The failure that a move reports. -/
def failed? (c : Callers) : CallMove → Option SessionFailure
  | .go tag => (c.call? tag).bind c.failing?
  | _ => none

/-- The failures that are taken in a move. -/
def taken (c : Callers) : CallMove → List SessionFailure
  | .take => c.alarms.queue
  | _ => []

/-- The connection after a move; one that cannot be made changes nothing. -/
def act (c : Callers) : CallMove → Callers
  | .begin tag errand =>
    if errand.isNew && !c.knows tag then c.call tag errand else c
  | .go tag => ((c.call? tag).bind c.stepCall).getD c
  | .wire wire => c.setWire wire
  | .pass moment => { c with now := moment }
  | .take => c.drainAlarms.2

/-- The connection after moves. -/
def after (c : Callers) (moves : List CallMove) : Callers := moves.foldl act c

theorem after_append (c : Callers) (moves more : List CallMove) :
    c.after (moves ++ more) = (c.after moves).after more := List.foldl_append ..

/-- What is told along moves, in order. -/
def along {α : Type} (tells : Callers → CallMove → List α) :
    Callers → List CallMove → List α
  | _, [] => []
  | c, move :: rest => tells c move ++ along tells (c.act move) rest

theorem along_append {α : Type} (tells : Callers → CallMove → List α) (c : Callers)
    (moves more : List CallMove) :
    c.along tells (moves ++ more) = c.along tells moves ++ (c.after moves).along tells more := by
  -- What is told is put together move by move.
  induction moves generalizing c with
  | nil => rfl
  | cons move rest ih =>
    rw [List.cons_append, along, along, ih, List.append_assoc]
    rfl

/-- The calls that begin along moves. -/
def arrivals (c : Callers) (moves : List CallMove) : List OutletCall :=
  c.along (fun c move => (c.begun? move).toList) moves

/-- The failures that are reported along moves. -/
def failures (c : Callers) (moves : List CallMove) : List SessionFailure :=
  c.along (fun c move => (c.failed? move).toList) moves

/-- The failures that are taken along moves. -/
def drained (c : Callers) (moves : List CallMove) : List SessionFailure := c.along taken moves

/-- How the calls stand in line: all wait, or the first writes and has the turn, or it closes and
has given the turn on. -/
inductive Shape : List OutletCall → List Writer → Bool → Prop where
  | waiting {pending : List OutletCall} (all : ∀ p ∈ pending, p.errand.waits = true)
      (there : Bool) : Shape pending (pending.map OutletCall.writer) there
  | writing {p : OutletCall} {rest : List OutletCall}
      (busy : Errand.isWriting (some p.errand) = true)
      (others : ∀ q ∈ rest, q.errand.waits = true) :
      Shape (p :: rest) ((p :: rest).map OutletCall.writer) true
  | closing {p : OutletCall} {rest : List OutletCall}
      (busy : Errand.hasTaken (some p.errand) = true)
      (others : ∀ q ∈ rest, q.errand.waits = true) :
      Shape (p :: rest) (rest.map OutletCall.writer) false

/-- Calls in line, each with a number of its own. -/
structure Lined (c : Callers) : Prop where
  once : (c.pending.map OutletCall.tag).Nodup
  shape : Shape c.pending c.outlet.line c.outlet.writable

/-- What a step of a call can do. -/
inductive Goes (c : Callers) : OutletCall → Callers → Prop where
  /-- The turn of a write has come. -/
  | turn {tag : Nat} {frame : OutFrame} {rest : List OutletCall}
      (whole : c.pending = ⟨tag, .write frame .queued⟩ :: rest)
      (there : c.outlet.writable = true) :
      Goes c ⟨tag, .write frame .queued⟩
        { c with pending := ⟨tag, .write frame (.sending (c.now + c.outlet.limit))⟩ :: rest }
  | accepted {tag deadline : Nat} {frame : OutFrame} {rest : List OutletCall}
      (whole : c.pending = ⟨tag, .write frame (.sending deadline)⟩ :: rest) :
      Goes c ⟨tag, .write frame (.sending deadline)⟩
        { c with
          outlet := c.outlet.note c.now (.frame frame (.call tag))
          pending := ⟨tag, .write frame (.flushing deadline)⟩ :: rest }
  | flushed {tag deadline : Nat} {frame : OutFrame} {rest : List OutletCall}
      (whole : c.pending = ⟨tag, .write frame (.flushing deadline)⟩ :: rest) :
      Goes c ⟨tag, .write frame (.flushing deadline)⟩
        { c with
          outlet := c.outlet.leave (.call tag)
          pending := rest
          returned := c.returned.push ⟨tag, true, c.now⟩ }
  /-- A write fails or takes too long, and the write half is let go. -/
  | failed {tag : Nat} {frame : OutFrame} {stage : WriteStage} {rest : List OutletCall}
      (whole : c.pending = ⟨tag, .write frame stage⟩ :: rest) (begun : stage ≠ .queued)
      (failure : SessionFailure) :
      Goes c ⟨tag, .write frame stage⟩
        { c with
          outlet := (c.outlet.discard c.now).leave (.call tag)
          alarms := c.alarms.report failure
          pending := rest
          returned := c.returned.push ⟨tag, false, c.now⟩ }
  /-- The turn of a closing has come: it takes the write half and gives the turn on. -/
  | took {tag : Nat} {frame : Option CloseFrame} {rest : List OutletCall}
      (whole : c.pending = ⟨tag, .close frame .queued⟩ :: rest)
      (there : c.outlet.writable = true) :
      Goes c ⟨tag, .close frame .queued⟩
        { c with
          outlet := { c.outlet.leave (.call tag) with writable := false }
          pending := ⟨tag, .close frame (.sending (c.now + c.outlet.limit))⟩ :: rest }
  | closeAccepted {tag deadline : Nat} {frame : Option CloseFrame} {rest : List OutletCall}
      (whole : c.pending = ⟨tag, .close frame (.sending deadline)⟩ :: rest) :
      Goes c ⟨tag, .close frame (.sending deadline)⟩
        { c with
          outlet := c.outlet.note c.now (.frame (.close frame) (.call tag))
          pending := ⟨tag, .close frame (.flushing deadline)⟩ :: rest }
  | closeFlushed {tag deadline : Nat} {frame : Option CloseFrame} {rest : List OutletCall}
      (whole : c.pending = ⟨tag, .close frame (.flushing deadline)⟩ :: rest) :
      Goes c ⟨tag, .close frame (.flushing deadline)⟩
        { c with pending := ⟨tag, .close frame (.ending deadline)⟩ :: rest }
  /-- A closing is over, whether it came to its end or not. -/
  | closed {tag : Nat} {frame : Option CloseFrame} {stage : CloseStage} {rest : List OutletCall}
      {o : Outlet} (whole : c.pending = ⟨tag, .close frame stage⟩ :: rest)
      (begun : stage ≠ .queued)
      (sent : o.sent = c.outlet.sent) (line : o.line = c.outlet.line)
      (half : o.writable = c.outlet.writable) :
      Goes c ⟨tag, .close frame stage⟩
        { c with
          outlet := o
          pending := rest
          returned := c.returned.push ⟨tag, true, c.now⟩ }
  /-- The first in line returns without a frame: the write half is gone, or it only asked. -/
  | left {p : OutletCall} {front rest : List OutletCall} {result : Bool}
      (whole : c.pending = front ++ p :: rest) (waits : p.errand.waits = true)
      (line : c.outlet.line = (p :: rest).map OutletCall.writer)
      (idle : p.errand = .ask ∨ result = false ∧ c.outlet.writable = false) :
      Goes c p
        { c with
          outlet := c.outlet.leave p.writer
          pending := front ++ rest
          returned := c.returned.push ⟨p.tag, result, c.now⟩ }

namespace Lined

variable {c c' : Callers} {p q : OutletCall}

/-- Calls with the same number are the same. -/
theorem eq_of_tag (lined : c.Lined) (first : p ∈ c.pending) (second : q ∈ c.pending)
    (same : p.tag = q.tag) : p = q := List.inj_on_of_nodup_map lined.once first second same

/-- A call that does not wait comes first, and those behind it wait. -/
theorem first_of_busy (lined : c.Lined) (member : p ∈ c.pending) (busy : p.errand.waits = false) :
    ∃ rest, c.pending = p :: rest ∧ ∀ q ∈ rest, q.errand.waits = true := by
  -- The line and the write half are variables from here on, so that the cases fix them.
  obtain ⟨-, shape⟩ := lined
  generalize c.outlet.line = line at shape
  generalize c.outlet.writable = there at shape
  cases whole : c.pending with
  | nil => rw [whole] at member; cases member
  | cons head rest =>
    rw [whole] at shape member
    have others : ∀ q ∈ rest, q.errand.waits = true := by
      cases shape with
      | waiting all => exact fun q inside => all q (List.mem_cons_of_mem _ inside)
      | writing _ others => exact others
      | closing _ others => exact others
    rcases List.mem_cons.mp member with rfl | inside
    · exact ⟨rest, rfl, others⟩
    · rw [others p inside] at busy
      cases busy

/-- A call that has the turn and waits stands behind a closing at most. -/
theorem first_of_turn (lined : c.Lined) (member : p ∈ c.pending) (waits : p.errand.waits = true)
    (first : c.outlet.hasTurn p.writer = true) :
    ∃ front rest, c.pending = front ++ p :: rest ∧
      c.outlet.line = (p :: rest).map OutletCall.writer ∧
      (c.outlet.writable = true → front = []) := by
  have unique (q : OutletCall) (inside : q ∈ c.pending) (same : q.writer = p.writer) : q = p :=
    lined.eq_of_tag inside member (Writer.call.inj same)
  rw [Outlet.hasTurn_iff] at first
  obtain ⟨-, shape⟩ := lined
  generalize c.outlet.line = line at shape first
  generalize c.outlet.writable = there at shape
  -- The first in line is the call, so it is the first that waits.
  have head {others : List OutletCall} (head : (others.map OutletCall.writer).head? = some p.writer)
      (inside : ∀ q ∈ others, q ∈ c.pending) : ∃ rest, others = p :: rest := by
    cases others with
    | nil => cases head
    | cons q rest =>
      obtain rfl := unique q (inside q List.mem_cons_self) (Option.some.inj head)
      exact ⟨rest, rfl⟩
  generalize c.pending = pending at *
  cases shape with
  | waiting all there =>
    obtain ⟨rest, rfl⟩ := head first fun _ => id
    exact ⟨[], rest, rfl, rfl, fun _ => rfl⟩
  | writing busy others =>
    obtain ⟨rest, whole⟩ := head first fun _ => id
    rw [whole]
    exact ⟨[], rest, rfl, rfl, fun _ => rfl⟩
  | @closing closer others busy all =>
    obtain ⟨rest, rfl⟩ := head first fun _ => List.mem_cons_of_mem _
    exact ⟨[closer], rest, rfl, rfl, fun there => by cases there⟩

/-- The first call goes on. -/
theorem goOn_first (lined : c.Lined) {tag : Nat} {errand : Errand} {rest : List OutletCall}
    (whole : c.pending = ⟨tag, errand⟩ :: rest) (outlet : Outlet) (next : Errand) :
    c.goOn tag outlet next = { c with outlet, pending := ⟨tag, next⟩ :: rest } := by
  have once := lined.once
  rw [whole, List.map_cons, List.nodup_cons] at once
  -- The numbers of the others differ.
  have others : rest.map (fun q => if q.tag = tag then { q with errand := next } else q) =
      rest := by
    refine (List.map_congr_left fun q inside => if_neg fun same => once.1 ?_).trans (List.map_id _)
    exact List.mem_map.mpr ⟨q, inside, same⟩
  simp [goOn, whole, others]

/-- A call returns, and is no longer among those in line. -/
theorem giveBack_of (lined : c.Lined) {tag : Nat} {errand : Errand} (front : List OutletCall)
    {rest : List OutletCall} (whole : c.pending = front ++ ⟨tag, errand⟩ :: rest)
    (outlet : Outlet) (result : Bool) (failure : Option SessionFailure) :
    c.giveBack tag outlet result failure =
      { c with
        outlet
        alarms := c.alarms.reportAny failure
        pending := front ++ rest
        returned := c.returned.push ⟨tag, result, c.now⟩ } := by
  have once := lined.once
  rw [whole, List.map_append, List.map_cons, List.nodup_middle, List.nodup_cons,
    ← List.map_append] at once
  -- Only the call itself has its number, so only it is taken out.
  have others : (front ++ rest).filter (fun q => q.tag != tag) = front ++ rest := by
    refine List.filter_eq_self.mpr fun q inside => bne_iff_ne.mpr fun same => once.1 ?_
    exact List.mem_map.mpr ⟨q, inside, same⟩
  rw [List.filter_append] at others
  simp [giveBack, whole, others]

/-- Every step of a call is one of these. -/
theorem goes (lined : c.Lined) (member : p ∈ c.pending) (moved : c.stepCall p = some c') :
    c.Goes p c' := by
  obtain ⟨tag, errand⟩ := p
  -- Where the call stands: first if it has begun, and first of those that wait if it has the turn.
  have busy (begun : errand.waits = false) := lined.first_of_busy member begun
  have turn (waits : errand.waits = true) := lined.first_of_turn member waits
  cases errand with
  | write frame stage =>
    simp only [stepCall, Option.map_eq_some_iff] at moved
    obtain ⟨⟨o, result⟩, moved, rfl⟩ := moved
    cases Outlet.stepWrite_writes moved with
    | turn first there =>
      -- As long as the write half is there, nobody stands before the one who has the turn.
      obtain ⟨front, rest, whole, -, sole⟩ := turn rfl first
      rw [sole there, List.nil_append] at whole
      show c.Goes _ (c.goOn tag _ _)
      rw [lined.goOn_first whole]
      exact .turn whole there
    -- Who finds the write half gone leaves, even from behind a closing.
    | refused first gone =>
      obtain ⟨front, rest, whole, line, -⟩ := turn rfl first
      show c.Goes _ (c.giveBack tag _ _ _)
      rw [lined.giveBack_of front whole]
      exact .left whole rfl line (.inr ⟨rfl, gone⟩)
    | accepted deadline =>
      obtain ⟨rest, whole, -⟩ := busy rfl
      show c.Goes _ (c.goOn tag _ _)
      rw [lined.goOn_first whole]
      exact .accepted whole
    | flushed deadline =>
      obtain ⟨rest, whole, -⟩ := busy rfl
      show c.Goes _ (c.giveBack tag _ _ _)
      rw [lined.giveBack_of [] whole]
      exact .flushed whole
    -- A write that fails has begun, so its call is the first one.
    | failed begun failure =>
      obtain ⟨rest, whole, -⟩ :=
        busy (Errand.waits_of_writing (Errand.isWriting_of_begun begun))
      show c.Goes _ (c.giveBack tag _ _ _)
      rw [lined.giveBack_of [] whole]
      exact .failed whole begun failure
  | close frame stage =>
    simp only [stepCall, Option.map_eq_some_iff] at moved
    obtain ⟨⟨o, result⟩, moved, rfl⟩ := moved
    cases Outlet.stepClose_closes moved with
    -- A closing takes the write half from whoever might still be behind it in line.
    | taken first there =>
      obtain ⟨front, rest, whole, -, sole⟩ := turn rfl first
      rw [sole there, List.nil_append] at whole
      show c.Goes _ (c.goOn tag _ _)
      rw [lined.goOn_first whole]
      exact .took whole there
    | refused first gone =>
      obtain ⟨front, rest, whole, line, -⟩ := turn rfl first
      show c.Goes _ (c.giveBack tag _ _ _)
      rw [lined.giveBack_of front whole]
      exact .left whole rfl line (.inr ⟨rfl, gone⟩)
    | accepted deadline =>
      obtain ⟨rest, whole, -⟩ := busy rfl
      show c.Goes _ (c.goOn tag _ _)
      rw [lined.goOn_first whole]
      exact .closeAccepted whole
    | flushed deadline =>
      obtain ⟨rest, whole, -⟩ := busy rfl
      show c.Goes _ (c.goOn tag _ _)
      rw [lined.goOn_first whole]
      exact .closeFlushed whole
    | ended deadline =>
      obtain ⟨rest, whole, -⟩ := busy rfl
      show c.Goes _ (c.giveBack tag _ _ _)
      rw [lined.giveBack_of [] whole]
      exact .closed whole (by simp) (by simp) rfl rfl
    -- A closing that is dropped has begun, so its call is the first one.
    | dropped begun =>
      obtain ⟨rest, whole, -⟩ := busy (Errand.waits_of_taken (Errand.hasTaken_of_begun begun))
      show c.Goes _ (c.giveBack tag _ _ _)
      rw [lined.giveBack_of [] whole]
      exact .closed whole begun (by simp) rfl rfl
  -- Asking takes the turn and nothing else.
  | ask =>
    simp only [stepCall, Outlet.stepAsk, Option.map_eq_some_iff] at moved
    obtain ⟨⟨o, result⟩, moved, rfl⟩ := moved
    split at moved
    · next first =>
      cases moved
      obtain ⟨front, rest, whole, line, -⟩ := turn rfl first
      show c.Goes _ (c.giveBack tag _ _ _)
      rw [lined.giveBack_of front whole]
      exact .left whole rfl line (.inl rfl)
    · cases moved

end Lined

namespace Shape

variable {p : OutletCall} {rest : List OutletCall} {line : List Writer} {there : Bool}

theorem of_line {pending : List OutletCall} {other : List Writer} (same : other = line)
    (shape : Shape pending line there) : Shape pending other there := same ▸ shape

/-- If the first call waits, all do. -/
theorem of_waits (shape : Shape (p :: rest) line there) (waits : p.errand.waits = true) :
    line = (p :: rest).map OutletCall.writer ∧ ∀ q ∈ rest, q.errand.waits = true := by
  -- In all shapes but that of a closing the calls are those in line.
  cases shape with
  | waiting all => exact ⟨rfl, fun q inside => all q (List.mem_cons_of_mem _ inside)⟩
  | writing _ others => exact ⟨rfl, others⟩
  | closing busy others =>
    rw [Errand.waits_of_taken busy] at waits
    cases waits

/-- If the first call writes, the write half is there and it has the turn. -/
theorem of_writing (shape : Shape (p :: rest) line there)
    (busy : Errand.isWriting (some p.errand) = true) :
    line = (p :: rest).map OutletCall.writer ∧ there = true ∧
    ∀ q ∈ rest, q.errand.waits = true := by
  -- Who writes is the first call, and the shape is that of a write.
  cases shape with
  | waiting all =>
    have waits := all p List.mem_cons_self
    rw [Errand.waits_of_writing busy] at waits
    cases waits
  | writing _ others => exact ⟨rfl, rfl, others⟩
  | closing taken others => exact absurd (Errand.not_writing_of_taken taken) (by simp [busy])

/-- If the first call closes, the write half is gone and the turn is given on. -/
theorem of_closing (shape : Shape (p :: rest) line there)
    (busy : Errand.hasTaken (some p.errand) = true) :
    line = rest.map OutletCall.writer ∧ there = false ∧
    ∀ q ∈ rest, q.errand.waits = true := by
  -- Who has taken the write half is the first call, and the shape is that of a closing.
  cases shape with
  | waiting all =>
    have waits := all p List.mem_cons_self
    rw [Errand.waits_of_taken busy] at waits
    cases waits
  | writing writes others => exact absurd (Errand.not_writing_of_taken busy) (by simp [writes])
  | closing _ others => exact ⟨rfl, rfl, others⟩

/-- Without the first in line, the others stand as they stood. -/
theorem of_left {front : List OutletCall} (shape : Shape (front ++ p :: rest) line there)
    (waits : p.errand.waits = true) (first : line = (p :: rest).map OutletCall.writer) :
    Shape (front ++ rest) (rest.map OutletCall.writer) there := by
  -- The lengths tell how many calls stand in front that are not in line.
  have length : line.length = rest.length + 1 := by simp [first]
  cases front with
  | nil =>
    obtain ⟨-, others⟩ := shape.of_waits waits
    exact .waiting others there
  | cons q front =>
    rw [List.cons_append] at shape
    -- Only a closing stands before the first in line, and only one.
    generalize whole : front ++ p :: rest = others at shape
    have size : others.length = front.length + (rest.length + 1) := by simp [← whole]
    cases shape with
    | waiting _ => simp at length; omega
    | writing _ _ => simp at length; omega
    | closing busy all =>
      have none : front = [] := List.eq_nil_of_length_eq_zero (by simp at length; omega)
      subst none
      subst whole
      exact .closing busy fun r inside => all r (List.mem_cons_of_mem _ inside)

/-- A call that gets in line waits behind the others. -/
theorem join {pending : List OutletCall} (shape : Shape pending line there)
    (waits : p.errand.waits = true) : Shape (pending ++ [p]) (line ++ [p.writer]) there := by
  -- The new call waits like those it gets behind.
  have behind {others : List OutletCall} (all : ∀ q ∈ others, q.errand.waits = true) :
      ∀ q ∈ others ++ [p], q.errand.waits = true := by
    intro q inside
    rcases List.mem_append.mp inside with inside | inside
    · exact all q inside
    · obtain rfl := List.mem_singleton.mp inside
      exact waits
  have named (others : List OutletCall) :
      others.map OutletCall.writer ++ [p.writer] = (others ++ [p]).map OutletCall.writer := by simp
  cases shape with
  | waiting all =>
    rw [named]
    exact .waiting (behind all) there
  | writing busy others =>
    rw [named]
    exact .writing busy (behind others)
  | closing busy others =>
    rw [named]
    exact .closing busy (behind others)

end Shape

namespace Goes

variable {c c' : Callers} {p : OutletCall}

/-- A step changes no call but its own, which returns or goes on with the same frame. -/
theorem pending (goes : c.Goes p c') :
    ∃ front rest, c.pending = front ++ p :: rest ∧
      ((∃ q, c'.pending = q :: rest ∧ front = [] ∧ q.tag = p.tag ∧ q.anew = p.anew ∧
          c'.returned = c.returned) ∨
        ∃ result, c'.pending = front ++ rest ∧
          c'.returned = c.returned.push ⟨p.tag, result, c.now⟩) := by
  -- The call goes on in its place, or it returns and leaves the others as they stand.
  cases goes with
  | turn whole there => exact ⟨[], _, whole, .inl ⟨_, rfl, rfl, rfl, rfl, rfl⟩⟩
  | accepted whole => exact ⟨[], _, whole, .inl ⟨_, rfl, rfl, rfl, rfl, rfl⟩⟩
  | flushed whole => exact ⟨[], _, whole, .inr ⟨_, rfl, rfl⟩⟩
  | failed whole begun failure => exact ⟨[], _, whole, .inr ⟨_, rfl, rfl⟩⟩
  | took whole there => exact ⟨[], _, whole, .inl ⟨_, rfl, rfl, rfl, rfl, rfl⟩⟩
  | closeAccepted whole => exact ⟨[], _, whole, .inl ⟨_, rfl, rfl, rfl, rfl, rfl⟩⟩
  | closeFlushed whole => exact ⟨[], _, whole, .inl ⟨_, rfl, rfl, rfl, rfl, rfl⟩⟩
  | closed whole begun sent line half => exact ⟨[], _, whole, .inr ⟨_, rfl, rfl⟩⟩
  | left whole waits line idle => exact ⟨_, _, whole, .inr ⟨_, rfl, rfl⟩⟩

/-- The others are left in line when the first one leaves it. -/
theorem leave_first {o : Outlet} {rest : List OutletCall}
    (line : o.line = (p :: rest).map OutletCall.writer) :
    (o.leave p.writer).line = rest.map OutletCall.writer := by
  show o.line.erase p.writer = _
  rw [line, List.map_cons, List.erase_cons_head]

/-- A step leaves the calls in line as they have to stand. -/
theorem lined (goes : c.Goes p c') (lined : c.Lined) : c'.Lined := by
  obtain ⟨once, shape⟩ := lined
  constructor
  · -- No call gets another number.
    obtain ⟨front, rest, whole, ⟨q, next, rfl, tag, -, -⟩ | ⟨_, next, -⟩⟩ :=
      goes.pending
    · rw [next, List.map_cons, tag]
      rw [whole] at once
      exact once
    · rw [whole] at once
      rw [next]
      refine once.sublist (List.Sublist.map _ ?_)
      exact List.Sublist.append (List.Sublist.refl _) (List.sublist_cons_self _ _)
  · -- How they stand is told step by step.
    cases goes with
    | turn whole there =>
      -- The first in line goes from waiting to writing.
      rw [whole, there] at shape
      obtain ⟨line, others⟩ := shape.of_waits rfl
      rw [line, there]
      exact .writing rfl others
    | accepted whole =>
      rw [whole] at shape
      obtain ⟨line, there, others⟩ := shape.of_writing rfl
      show Shape _ c.outlet.line c.outlet.writable
      rw [line, there]
      exact .writing rfl others
    | flushed whole =>
      -- A write that is over leaves the line to the next one.
      rw [whole] at shape
      obtain ⟨line, -, others⟩ := shape.of_writing rfl
      exact .of_line (leave_first line) (.waiting others _)
    | failed whole begun failure =>
      rw [whole] at shape
      obtain ⟨line, -, others⟩ := shape.of_writing (Errand.isWriting_of_begun begun)
      exact .of_line (leave_first line) (.waiting others _)
    | took whole there =>
      -- A closing that takes the write half out is alone with it from now on.
      rw [whole] at shape
      obtain ⟨line, others⟩ := shape.of_waits rfl
      exact .of_line (leave_first line) (.closing rfl others)
    | closeAccepted whole =>
      rw [whole] at shape
      obtain ⟨line, gone, others⟩ := shape.of_closing rfl
      show Shape _ c.outlet.line c.outlet.writable
      rw [line, gone]
      exact .closing rfl others
    | closeFlushed whole =>
      rw [whole] at shape
      obtain ⟨line, gone, others⟩ := shape.of_closing rfl
      rw [line, gone]
      exact .closing rfl others
    | @closed _ _ _ _ o whole begun sent line half =>
      -- The closing has left the line when it took the half, so nobody moves up.
      rw [whole] at shape
      obtain ⟨own, -, others⟩ := shape.of_closing (Errand.hasTaken_of_begun begun)
      show Shape _ o.line o.writable
      rw [line, own]
      exact .waiting others _
    | left whole waits line idle =>
      rw [whole] at shape
      exact .of_line (leave_first line) (shape.of_left waits line)

end Goes

end Callers

end WatchRelay
