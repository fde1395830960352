import WatchRelay.Json.Record
import WatchRelay.Time.Duration

/-! The settings of a relay: their defaults, their JSON form and what must hold between them. -/

namespace WatchRelay

/-- Where the relay listens. -/
structure ListenSettings where
  host : String := "0.0.0.0"
  port : Nat := 8080
  basePath : String := "/"
deriving DecidableEq, Repr

/-- The timing and limits of one connection; times are milliseconds. -/
structure ConnectionSettings where
  pingInterval : Nat := 5000
  pongWait : Nat := 15000
  writeWait : Nat := 5000
  maxMessageSize : Nat := 8192
  inboundQueue : Nat := 64
deriving DecidableEq, Repr

/-- What the relay logs. -/
structure LoggingSettings where
  level : String := "info"
deriving DecidableEq, Repr

/-- All settings of a relay. -/
structure Settings where
  listen : ListenSettings := {}
  connection : ConnectionSettings := {}
  logging : LoggingSettings := {}
deriving DecidableEq, Repr

/-- The numbers of 16 bits. -/
def wordBound : Nat := Nat.pow 2 16

/-- The numbers of 64 bits. -/
def longBound : Nat := Nat.pow 2 64

/-- A field that holds a text. -/
def textField {draft : Type} (name : String) (get : draft → Option String)
    (set : draft → String → draft) : Field draft :=
  .of name true get set Tree.text Json.text

/-- A field that holds a natural number below a bound. -/
def naturalField {draft : Type} (name width : String) (bound : Nat) (get : draft → Option Nat)
    (set : draft → Nat → draft) : Field draft :=
  .of name true get set (Tree.natural width bound) (Json.natural width bound)

/-- A field that holds a record. -/
def recordField {draft inner α : Type} (name : String) (record : Record inner α)
    (get : draft → Option α) (set : draft → α → draft) : Field draft :=
  .of name true get set record.ofTree record.ofJson

namespace ListenSettings

/-- Where to listen, as far as it is read. -/
structure Draft where
  host : Option String := none
  port : Option Nat := none
  basePath : Option String := none

/-- The fields that say where the relay listens. -/
def record : Record Draft ListenSettings where
  name := "ServerSettings"
  fields :=
    [ textField "host" (·.host) fun d v => { d with host := some v },
      naturalField "port" "u16" wordBound (·.port) fun d v => { d with port := some v },
      textField "basePath" (·.basePath) fun d v => { d with basePath := some v } ]
  empty := {}
  finish d :=
    let unset : ListenSettings := {}
    .ok ⟨d.host.getD unset.host, d.port.getD unset.port, d.basePath.getD unset.basePath⟩

/-- The fields with the text of their values. -/
def fields (s : ListenSettings) : List (String × List Char) :=
  [("host", jsonString s.host), ("port", decimalChars s.port), ("basePath", jsonString s.basePath)]

end ListenSettings

namespace ConnectionSettings

/-- The timing and limits of a connection, as far as they are read. -/
structure Draft where
  pingInterval : Option Nat := none
  pongWait : Option Nat := none
  writeWait : Option Nat := none
  maxMessageSize : Option Nat := none
  inboundQueue : Option Nat := none

/-- The fields of a connection's timing and limits. -/
def record : Record Draft ConnectionSettings where
  name := "ConnectionSettings"
  fields :=
    [ naturalField "pingIntervalMs" "u64" longBound (·.pingInterval)
        fun d v => { d with pingInterval := some v },
      naturalField "pongWaitMs" "u64" longBound (·.pongWait) fun d v =>
        { d with pongWait := some v },
      naturalField "writeWaitMs" "u64" longBound (·.writeWait)
        fun d v => { d with writeWait := some v },
      naturalField "maxMessageSize" "usize" longBound (·.maxMessageSize)
        fun d v => { d with maxMessageSize := some v },
      naturalField "inboundQueue" "usize" longBound (·.inboundQueue)
        fun d v => { d with inboundQueue := some v } ]
  empty := {}
  finish d :=
    let unset : ConnectionSettings := {}
    .ok ⟨d.pingInterval.getD unset.pingInterval, d.pongWait.getD unset.pongWait,
      d.writeWait.getD unset.writeWait, d.maxMessageSize.getD unset.maxMessageSize,
      d.inboundQueue.getD unset.inboundQueue⟩

/-- The fields with the text of their values. -/
def fields (s : ConnectionSettings) : List (String × List Char) :=
  [("pingIntervalMs", decimalChars s.pingInterval), ("pongWaitMs", decimalChars s.pongWait),
    ("writeWaitMs", decimalChars s.writeWait), ("maxMessageSize", decimalChars s.maxMessageSize),
    ("inboundQueue", decimalChars s.inboundQueue)]

end ConnectionSettings

namespace LoggingSettings

/-- What is logged, as far as it is read. -/
structure Draft where
  level : Option String := none

/-- The field that says what is logged. -/
def record : Record Draft LoggingSettings where
  name := "LoggingSettings"
  fields := [textField "level" (·.level) fun d v => { d with level := some v }]
  empty := {}
  finish d :=
    let unset : LoggingSettings := {}
    .ok ⟨d.level.getD unset.level⟩

/-- The field with the text of its value. -/
def fields (s : LoggingSettings) : List (String × List Char) := [("level", jsonString s.level)]

end LoggingSettings

/-- Why settings do not fit together. -/
inductive SettingsConflict where
  | zeroTiming
  | slowPing (interval wait : Nat)
  | zeroMessageSize
  | basePath (path : String)
deriving DecidableEq, Repr

namespace SettingsConflict

/-- The wording of a conflict. -/
def message : SettingsConflict → String
  | .zeroTiming => "connection timings must be non-zero"
  | .slowPing interval wait =>
    "pingIntervalMs (" ++ String.ofList (decimalChars interval) ++
      ") must be shorter than pongWaitMs (" ++ String.ofList (decimalChars wait) ++ ")"
  | .zeroMessageSize => "maxMessageSize must be non-zero"
  | .basePath path => "basePath must start and end with '/': " ++ path

end SettingsConflict

namespace Settings

/-- The settings as far as they are read. -/
structure Draft where
  listen : Option ListenSettings := none
  connection : Option ConnectionSettings := none
  logging : Option LoggingSettings := none

/-- The three groups of settings. -/
def record : Record Draft Settings where
  name := "RelaySettings"
  fields :=
    [ recordField "server" ListenSettings.record (·.listen) fun d v => { d with listen := some v },
      recordField "connection" ConnectionSettings.record (·.connection)
        fun d v => { d with connection := some v },
      recordField "logging" LoggingSettings.record (·.logging)
        fun d v => { d with logging := some v } ]
  empty := {}
  finish d := .ok ⟨d.listen.getD {}, d.connection.getD {}, d.logging.getD {}⟩

/-- Reads settings from a text. -/
def ofText (text : String) : Except Fault Settings := readText record.ofTree text

/-- Reads settings from a value. -/
def ofJson (value : Json) : Except Fault Settings := record.ofJson value

/-- The compact text of settings. -/
def print (s : Settings) : String :=
  String.ofList (recordChars
    [("server", recordChars s.listen.fields), ("connection", recordChars s.connection.fields),
      ("logging", recordChars s.logging.fields)])

/-- The settings as a value. -/
def toJson (s : Settings) : Json :=
  let natural (n : Nat) : Json := .number (.integer n)
  .object (Members.ofList
    [("server", .object (Members.ofList
        [("host", .string s.listen.host), ("port", natural s.listen.port),
          ("basePath", .string s.listen.basePath)])),
      ("connection", .object (Members.ofList
        [("pingIntervalMs", natural s.connection.pingInterval),
          ("pongWaitMs", natural s.connection.pongWait),
          ("writeWaitMs", natural s.connection.writeWait),
          ("maxMessageSize", natural s.connection.maxMessageSize),
          ("inboundQueue", natural s.connection.inboundQueue)])),
      ("logging", .object (Members.ofList [("level", .string s.logging.level)]))])

/-- The first conflict between the settings, if there is one. -/
def conflict? (s : Settings) : Option SettingsConflict :=
  let c := s.connection
  if c.pingInterval = 0 ∨ c.pongWait = 0 ∨ c.writeWait = 0 then some .zeroTiming
  else if c.pongWait ≤ c.pingInterval then some (.slowPing c.pingInterval c.pongWait)
  else if c.maxMessageSize = 0 then some .zeroMessageSize
  else if s.listen.basePath.toList.head? ≠ some '/' ∨
    s.listen.basePath.toList.getLast? ≠ some '/'
  then some (.basePath s.listen.basePath)
  else none

end Settings

end WatchRelay
