import WatchRelay.Proofs.Outcome
import WatchRelay.Socket.Listening

/-! Servers that listen on one machine have addresses of their own. -/

namespace WatchRelay

namespace Network

variable {n n' : Network} {host : String} {port given : Nat}

/-- The port that is given is no zero, is the one that is asked for if one is, and nobody has it. -/
theorem port?_eq_some (gives : n.port? host port = some given) :
    given ≠ 0 ∧ (port ≠ 0 → given = port) ∧ (host, given) ∉ n.taken := by
  unfold port? at gives
  split at gives
  · next any =>
    -- Any port will do, and those that are given then begin far above zero.
    have free := List.find?_some gives
    have inside := List.mem_range'.mp (List.mem_of_find?_eq_some gives)
    refine ⟨by omega, fun asked => absurd any asked, by simpa using free⟩
  · next asked =>
    split at gives
    · cases gives
    · next free =>
      obtain rfl := Option.some.inj gives
      exact ⟨asked, fun _ => rfl, by simpa using free⟩

/-- Binding takes an address that nobody has, and leaves the others. -/
theorem bind_eq_ok (binds : n.bind host port = .ok (given, n')) :
    host ∈ n.hosts ∧ given ≠ 0 ∧ (port ≠ 0 → given = port) ∧
    (host, given) ∉ n.taken ∧
      n' = { n with taken := (host, given) :: n.taken } := by
  -- The host has to be one of the machine, and a port has to be given.
  unfold bind at binds
  split at binds
  · next there =>
    split at binds
    · next gives =>
      obtain ⟨rfl, rfl⟩ := by simpa using binds
      obtain ⟨some, asked, free⟩ := port?_eq_some gives
      exact ⟨by simpa using there, some, asked, free, rfl⟩
    · cases binds
  · cases binds

/-- Where somebody listens, nobody else can. -/
theorem bind_taken (there : host ∈ n.hosts) (asked : port ≠ 0)
    (taken : (host, port) ∈ n.taken) :
    n.bind host port = .error .inUse := by
  -- The host is the machine's, so the port is looked at, and it is taken.
  simp [bind, port?, there, asked, taken]

end Network

namespace Listening

variable {g other : Gateway} {n n' : Network} {l : Listening}

/-- Of two servers with one address, the second one cannot listen while the first one does. -/
theorem start_again (starts : start g n = .ok (l, n'))
    (same : other.relay.config.host = l.host ∧ other.relay.config.port = l.port) :
    start other n' = .error .inUse := by
  obtain ⟨⟨given, after⟩, binds, whole⟩ := Outcome.bind_eq_ok.mp starts
  obtain ⟨rfl, rfl⟩ := by simpa using whole
  -- The port that was given is in the machine's books from then on.
  obtain ⟨there, some, -, -, rfl⟩ := Network.bind_eq_ok binds
  have refused := Network.bind_taken
    (n := { n with taken := (g.relay.config.host, given) :: n.taken }) there some
    List.mem_cons_self
  rw [start, same.1, same.2, refused]
  rfl

/-- Once a server has stopped, the machine is as it was before. -/
theorem release_start (starts : start g n = .ok (l, n')) : l.release n' = n := by
  obtain ⟨⟨given, after⟩, binds, whole⟩ := Outcome.bind_eq_ok.mp starts
  obtain ⟨rfl, rfl⟩ := by simpa using whole
  obtain ⟨-, -, -, -, rfl⟩ := Network.bind_eq_ok binds
  -- What was entered last is struck out again.
  simp [release]

end Listening

end WatchRelay
