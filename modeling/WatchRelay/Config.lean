import WatchRelay.Settings.Basic

/-! What a running relay is configured with. -/

namespace WatchRelay

/-- The configuration of a relay; times are milliseconds. -/
structure Config where
  host : String := "127.0.0.1"
  port : Nat := 0
  basePath : String := "/"
  pingInterval : Nat := 5000
  livenessTimeout : Nat := 15000
  writeTimeout : Nat := 5000
  maxMessageSize : Nat := 8192
  inboundQueue : Nat := 64
  teardownTimeout : Nat := 5000
deriving DecidableEq, Repr, Inhabited

namespace Config

/-- The configuration of settings; the queue holds at least one request. -/
def ofSettings (s : Settings) : Config where
  host := s.listen.host
  port := s.listen.port
  basePath := s.listen.basePath
  pingInterval := s.connection.pingInterval
  livenessTimeout := s.connection.pongWait
  writeTimeout := s.connection.writeWait
  maxMessageSize := s.connection.maxMessageSize
  inboundQueue := max s.connection.inboundQueue 1

/-- The path clients connect to. -/
def watchPath (c : Config) : String := c.basePath ++ "catalog.orchestrator.apis/events"

end Config

end WatchRelay
