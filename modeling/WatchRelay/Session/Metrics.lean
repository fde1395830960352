import WatchRelay.Catalog.PerKind
import WatchRelay.Decimal.Shortest

/-! What the relay counts. -/

namespace WatchRelay

/-- The counts and gauges of a relay. -/
structure Metrics where
  sessionsTotal : Nat
  sessionsActive : Int
  /-- How many runners have begun; the gauge of running ones is shown once there was one. -/
  runnersBegun : Nat
  subscriptionsActive : Int
  forwarded : PerKind Nat
  runnerFailures : PerKind Nat
  /-- Sessions ended by a failure, by its category. -/
  sessionErrors : List (String × Nat)
  /-- Sessions whose duration is recorded. -/
  durations : Nat
deriving Repr, Inhabited

namespace Metrics

/-- Nothing counted yet. -/
def zero : Metrics := ⟨0, 0, 0, 0, .const 0, .const 0, [], 0⟩

/-- A session starts. -/
def sessionStarted (m : Metrics) : Metrics :=
  { m with sessionsTotal := m.sessionsTotal + 1, sessionsActive := m.sessionsActive + 1 }

/-- A session is closed. -/
def sessionClosed (m : Metrics) : Metrics :=
  { m with sessionsActive := m.sessionsActive - 1, durations := m.durations + 1 }

/-- A runner begins. -/
def runnerBegun (m : Metrics) : Metrics :=
  { m with
    runnersBegun := m.runnersBegun + 1, subscriptionsActive := m.subscriptionsActive + 1 }

/-- A runner that has begun is gone. -/
def runnerGone (m : Metrics) : Metrics :=
  { m with subscriptionsActive := m.subscriptionsActive - 1 }

/-- An event was written to a client. -/
def eventForwarded (m : Metrics) (kind : ResourceKind) : Metrics :=
  { m with forwarded := m.forwarded.modify kind (· + 1) }

/-- A runner was ended by its backend's failure. -/
def runnerFailed (m : Metrics) (kind : ResourceKind) : Metrics :=
  { m with runnerFailures := m.runnerFailures.modify kind (· + 1) }

/-- Adds one to the count of a label. -/
def increment (label : String) : List (String × Nat) → List (String × Nat)
  | [] => [(label, 1)]
  | (l, n) :: rest => if l = label then (l, n + 1) :: rest else (l, n) :: increment label rest

/-- A session is ended by a failure. -/
def sessionFailed (m : Metrics) (category : String) : Metrics :=
  { m with sessionErrors := increment category m.sessionErrors }

/-- The name of a series with a label. -/
def labelled (series label value : String) : String :=
  series ++ "\x7b" ++ label ++ "=\"" ++ value ++ "\"\x7d"

/-- The series that were touched, each with its value. -/
def series (m : Metrics) : List (String × Int) :=
  let when (touched : Bool) (entries : List (String × Int)) : List (String × Int) :=
    if touched then entries else []
  let perKind (name : String) (counts : PerKind Nat) : List (String × Int) :=
    (counts.toList.filter fun (_, n) => n != 0).map fun (k, n) =>
      (labelled name "kind" k.name, (n : Int))
  when (m.sessionsTotal != 0)
      [("relay_sessions_total", m.sessionsTotal), ("relay_sessions_active", m.sessionsActive)] ++
    when (m.runnersBegun != 0) [("relay_subscriptions_active", m.subscriptionsActive)] ++
    perKind "relay_events_forwarded_total" m.forwarded ++
    perKind "relay_runner_failures_total" m.runnerFailures ++
    m.sessionErrors.map (fun (c, n) =>
      (labelled "relay_session_errors_total" "category" c, (n : Int))) ++
    when (m.durations != 0) [("relay_session_duration_seconds_count", m.durations)]

end Metrics

end WatchRelay
