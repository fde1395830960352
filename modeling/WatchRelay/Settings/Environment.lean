import WatchRelay.Settings.Basic

/-! Settings given by environment variables. -/

namespace WatchRelay

/-- The variables of an environment; an unset one has no value. -/
abbrev Environment := String → Option String

/-- The value of a row of decimal digits, if there is at least one and all are digits. -/
def digitsNatural? (ds : List Char) : Option Nat :=
  if !ds.isEmpty && ds.all Char.isDigit then some (Numeral.digitsValue ds) else none

/-- The natural number below a bound that a text spells, after an optional plus sign. -/
def naturalOfText? (bound : Nat) (text : String) : Option Nat := do
  let ds := match text.toList with
    | '+' :: ds => ds
    | ds => ds
  let n ← digitsNatural? ds
  if n < bound then some n else none

/-- The number a text spells, if it lies between two others. -/
def naturalInRange? (bound : Nat) (text : String) (low high : Nat) : Option Nat := do
  let n ← naturalOfText? bound text
  if low ≤ n ∧ n ≤ high then some n else none

namespace Environment

/-- The value of a variable that is set and not empty. -/
def nonempty? (env : Environment) (name : String) : Option String :=
  (env name).filter fun v => !v.isEmpty

/-- The number a variable gives within a range. -/
def natural? (env : Environment) (name : String) (bound low high : Nat) : Option Nat := do
  naturalInRange? bound (← env.nonempty? name) low high

end Environment

namespace Settings

/-- The settings with what the environment gives in place of what they hold; a variable that is
empty or whose number is out of range gives nothing. -/
def override (env : Environment) (s : Settings) : Settings where
  listen :=
    { host := (env.nonempty? "RELAY_HOST").getD s.listen.host
      port := (env.natural? "RELAY_PORT" wordBound 0 65535).getD s.listen.port
      basePath := (env.nonempty? "RELAY_BASE_PATH").getD s.listen.basePath }
  connection :=
    { pingInterval := (env.natural? "RELAY_PING_INTERVAL_MS" longBound 100 600000).getD
        s.connection.pingInterval
      pongWait := (env.natural? "RELAY_PONG_WAIT_MS" longBound 100 3600000).getD
        s.connection.pongWait
      writeWait := (env.natural? "RELAY_WRITE_WAIT_MS" longBound 100 600000).getD
        s.connection.writeWait
      maxMessageSize := (env.natural? "RELAY_MAX_MESSAGE_SIZE" longBound 256 16777216).getD
        s.connection.maxMessageSize
      inboundQueue := s.connection.inboundQueue }
  logging := { level := (env.nonempty? "RELAY_LOG_LEVEL").getD s.logging.level }

end Settings

end WatchRelay
