import WatchRelay.Proofs.Settings.Loading
import WatchRelay.Relay.Basic

/-! What a relay may count on where its settings were loaded, and the one bound that it may not. -/

namespace WatchRelay

namespace Settings

/-- Settings that are loaded fit together. -/
theorem isConsistent_of_load {file : SettingsFile} {env : Environment} {s : Settings}
    (loaded : load file env = .ok s) :
    s.IsConsistent := by
  -- Loading ends with the check of the overridden target.
  obtain ⟨value, -, resolved⟩ := Outcome.bind_eq_ok.mp loaded
  obtain ⟨t, -, valid⟩ := Outcome.bind_eq_ok.mp resolved
  rcases validate_cases (t.override env) with ⟨consistent, same⟩ | ⟨-, c, conflict⟩
  · cases same.symm.trans valid
    exact consistent
  · cases conflict.symm.trans valid

/-- Sessions start with loaded settings where these do not ask for more room than a queue can have.

The settings make them ping at intervals that are not nothing and end before the client is given up.
They give the queue of requests room for one at least. -/
theorem loaded_sessions_start {file : SettingsFile} {env : Environment} {s : Settings}
    (loaded : load file env = .ok s) :
    let c := Config.ofSettings s
    0 < c.pingInterval ∧ c.pingInterval < c.livenessTimeout ∧ 1 ≤ c.queueRoom ∧
      ∀ (r : Relay) (name : String) (credentials : Credentials) (wire : WireState)
        (attendance : Attendance)
        (prepare : Session → Session), r.config = c →
        ((r.start? name credentials wire attendance prepare).isSome = true ↔
          s.connection.inboundQueue ≤ maxQueueRoom) := by
  -- A queue has at least one place, so only the upper limit of the channel is left to ask.
  intro c
  have consistent := isConsistent_of_load loaded
  refine ⟨consistent.ping, consistent.pong, Nat.le_max_right .., ?_⟩
  intro r name credentials wire attendance prepare config
  have room : c.queueRoom = max s.connection.inboundQueue 1 := by
    simp [c, Config.queueRoom, Config.ofSettings]
  have wide : 1 ≤ maxQueueRoom := by decide
  have starts : c.canStart = true ↔ s.connection.inboundQueue ≤ maxQueueRoom := by
    rw [Config.canStart, isQueueRoom, room]
    simp only [Bool.and_eq_true, decide_eq_true_eq]
    omega
  rw [← starts, Relay.start?, config]
  split
  · next can => simp [can]
  · next cannot => simp [cannot]

/-- With the defaults, a session starts. -/
theorem loaded_sessions_start_default :
    let relay := Relay.new (Config.ofSettings {}) (.of (.played .live))
    0 < relay.config.pingInterval ∧ relay.config.pingInterval < relay.config.livenessTimeout ∧
      1 ≤ relay.config.queueRoom ∧
        (relay.start? "first" default .clear .none id).isSome = true := by
  -- The defaults load, and with them a session starts.
  have loaded : load .absent (.of []) = .ok {} := by decide +kernel
  obtain ⟨ping, pong, room, starts⟩ := loaded_sessions_start loaded
  exact ⟨ping, pong, room, (starts _ _ _ _ _ _ rfl).mpr (by decide)⟩

/-- A file that asks for room for `2^61` requests is loaded, and no session starts. -/
theorem loaded_queue_is_too_wide :
    ∃ s, load
      (.content ("\x7b\"connection\":\x7b\"inboundQueue\":2305843009213693952\x7d\x7d".toList.map
        fun c => c.toNat.toUInt8)) (.of []) = .ok s ∧
      ∀ (r : Relay) (name : String) (credentials : Credentials) (wire : WireState)
        (attendance : Attendance)
        (prepare : Session → Session), r.config = Config.ofSettings s →
        r.start? name credentials wire attendance prepare = none := by
  -- Nothing bounds the queue from above when the file is loaded.
  refine ⟨{ connection := { inboundQueue := 2305843009213693952 } }, by decide +kernel, ?_⟩
  intro r name credentials wire attendance prepare config
  rw [Relay.start?, config]
  exact if_neg (by decide)

end Settings

end WatchRelay
