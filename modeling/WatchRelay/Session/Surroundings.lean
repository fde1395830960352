import WatchRelay.Backend.Source
import WatchRelay.Session.Metrics

/-! What all sessions share: the clock, the backend and the counts. -/

namespace WatchRelay

/-- What a session works in. -/
structure Surroundings where
  /-- The time in milliseconds. -/
  now : Nat
  source : Source
  metrics : Metrics
  /-- Every request for a watch so far, with the credentials it was made with. -/
  requests : Array (WatchRequest × Credentials)

namespace Surroundings

/-- Surroundings at the start of time. -/
def start (source : Source) : Surroundings := ⟨0, source, .zero, #[]⟩

/-- Changes the counts. -/
def count (e : Surroundings) (f : Metrics → Metrics) : Surroundings :=
  { e with metrics := f e.metrics }

/-- Closes a watch. -/
def close (e : Surroundings) (watch : Nat) : Surroundings :=
  { e with source := e.source.close watch }

end Surroundings

end WatchRelay
