import Mathlib.Logic.Function.Basic
import WatchRelay.Proofs.Json.Records
import WatchRelay.Proofs.Json.Values
import WatchRelay.Settings.Load

/-! Members laid over others, and settings read from the members of a value. -/

namespace WatchRelay

namespace Json

/-- What is under a key where a member is laid over what is there, if either is: a `null` leaves
what is there. -/
def laid? : Option Json → Option Json → Option Json
  | below, none | below, some .null => below
  | none, some value => some value
  | some below, some value => some (overlay below value)

/-- Nothing leaves what is there. -/
@[simp] theorem laid?_none (below : Option Json) : laid? below none = below := by
  cases below <;> rfl

/-- A `null` leaves what is there. -/
@[simp] theorem laid?_null (below : Option Json) : laid? below (some .null) = below := by
  cases below <;> rfl

/-- What is no `null` is laid over what is there. -/
theorem laid?_full {v : Json} (full : v.isNull = false) (below : Json) :
    laid? (some below) (some v) = some (below.overlay v) := by
  -- Only `null` adds nothing.
  cases v with
  | null => cases full
  | _ => rfl

/-- What is no `null` is put where nothing is. -/
theorem laid?_fresh {v : Json} (full : v.isNull = false) : laid? none (some v) = some v := by
  cases v with
  -- Only `null` adds nothing.
  | null => cases full
  | _ => rfl

/-- What is no object takes the place of what is there. -/
theorem overlay_eq {value : Json} (flat : ∀ members, value ≠ .object members) (below : Json) :
    overlay below value = value := by
  -- Only an object is laid member by member.
  cases value with
  | object members => exact absurd rfl (flat members)
  | _ => rfl

/-- A member is laid over what is under its key, and over nothing else. -/
theorem overlayMembers_cons (below : Members) (key : String) (value : Json)
    (rest : List (String × Json)) :
    ∃ laid : Members, overlayMembers below ((key, value) :: rest) = overlayMembers laid rest ∧
      (∀ name, laid.find? name =
        if key = name then laid? (below.find? name) (some value) else below.find? name) ∧
      (below.Pairwise (·.1 < ·.1) → laid.Pairwise (·.1 < ·.1)) := by
  by_cases null : value = .null
  · subst null
    refine ⟨below, by simp [overlayMembers, isNull], fun name => ?_, id⟩
    split <;> simp
  · have full : value.isNull = false := by
      cases value with
      | null => exact absurd rfl null
      | _ => rfl
    -- Whatever else it is, the member is put under its key.
    obtain ⟨new, laid, put⟩ : ∃ new, laid? (below.find? key) (some value) = some new ∧
        overlayMembers below ((key, value) :: rest) =
          overlayMembers (below.insert key new) rest := by
      rw [overlayMembers, full]
      cases below.find? key with
      | none => exact ⟨value, laid?_fresh full, rfl⟩
      | some old => exact ⟨overlay old value, laid?_full full old, rfl⟩
    refine ⟨below.insert key new, put, fun name => ?_, fun ordered =>
      Members.insert_ordered ordered _ _⟩
    split
    · next same => rw [← same, Members.find?_insert_self, laid]
    · next differ => exact Members.find?_insert_of_ne differ _ _

/-- Members laid over others leave them in the order of their keys. -/
theorem overlayMembers_ordered {below : Members} (ordered : below.Pairwise (·.1 < ·.1))
    (members : List (String × Json)) : (overlayMembers below members).Pairwise (·.1 < ·.1) := by
  -- Laying one more member keeps the order.
  induction members generalizing below with
  | nil => exact ordered
  | cons member rest ih =>
    obtain ⟨laid, step, -, keeps⟩ := overlayMembers_cons below member.1 member.2 rest
    rw [step]
    exact ih (keeps ordered)

/-- Where members are laid over others, what is found under a key is what the one was laid over the
other. -/
theorem find?_overlayMembers {members : Members} (ordered : members.Pairwise (·.1 < ·.1))
    (below : Members)
    (name : String) :
    Members.find? name (overlayMembers below members) =
      laid? (below.find? name) (members.find? name) := by
  induction members generalizing below with
  | nil => simp [overlayMembers, Members.find?]
  | cons member rest ih =>
    obtain ⟨laid, step, found, -⟩ := overlayMembers_cons below member.1 member.2 rest
    rw [step, ih (List.pairwise_cons.mp ordered).2, found, Members.find?]
    split
    · next same =>
      -- No later member has the key.
      rw [← same, Members.find?_eq_none_of_ordered ordered, laid?_none]
    · rfl

end Json

namespace Record

variable {draft α : Type} {r : Record draft α}

/-- How a record's draft is told from what stands under the names of its fields: each field is read
from what is under its name, and nothing is read from what is under another. -/
structure IsMade (r : Record draft α) (made : (String → Option Json) → draft) : Prop where
  empty : r.empty = made fun _ => none
  field : ∀ f ∈ r.fields, ∀ {look v d'}, f.fromJson (made look) v = .ok d' →
    d' = made (Function.update look f.name (some v))
  other : ∀ {name}, r.field? name = none →
    ∀ look v, made (Function.update look name v) = made look

/-- Whether a field is read from a value, whatever was read before. -/
def IsReadable (f : Field draft) (v : Json) : Prop := ∀ d, ∃ d', f.fromJson d v = .ok d'

/-- A field can be read from what its value is read from. -/
theorem isReadable_of {β : Type} {name : String} {optional : Bool} {get : draft → Option β}
    {set : draft → β → draft} {tree : TreeReader β} {json : Json → Except Fault β}
    {v : Json} {x : β}
    (reads : json v = .ok x) : IsReadable (Field.of name optional get set tree json) v := by
  intro d
  exact ⟨set d x, Outcome.map_eq_ok.mpr ⟨x, reads, rfl⟩⟩

/-- Members that stand in the order of their keys are read into the draft that is told from them. -/
theorem IsMade.readObject {made : (String → Option Json) → draft} (law : r.IsMade made)
    {members : Members}
    (ordered : members.Pairwise (·.1 < ·.1))
    (readable : ∀ f ∈ r.fields, ∀ v, members.find? f.name = some v → IsReadable f v)
    (look : String → Option Json) :
    r.readObject (made look) members =
      .ok (made fun name => (members.find? name).or (look name)) := by
  induction members generalizing look with
  | nil => simp [Record.readObject, Members.find?]
  | cons member rest ih =>
    obtain ⟨key, v⟩ := member
    have missing := Members.find?_eq_none_of_ordered ordered
    -- What is found among all members is what is found among the later ones and this one.
    have found : (fun name => (Members.find? name ((key, v) :: rest)).or (look name)) =
        Function.update (fun name => (Members.find? name rest).or (look name)) key (some v) := by
      funext name
      by_cases same : name = key
      · simp [same, Members.find?]
      · simp [same, Ne.symm same, Members.find?]
    have later : ∀ f ∈ r.fields, ∀ w, Members.find? f.name rest = some w →
        IsReadable f w := by
      intro f among w there
      refine readable f among w ?_
      rw [Members.find?, if_neg fun same => ?_, there]
      rw [show f.name = key from same.symm, missing] at there
      cases there
    have ih := ih (List.pairwise_cons.mp ordered).2 later
    rw [Record.readObject, found]
    split
    · next f named =>
      obtain ⟨among, called⟩ := field?_some named
      obtain ⟨d₁, read⟩ := readable f among v (by simp [Members.find?, called]) (made look)
      have told := law.field f among read
      rw [called] at told
      rw [read, told]
      refine (ih _).trans (congrArg _ (congrArg made ?_))
      funext name
      by_cases same : name = key
      · subst same
        simp [missing]
      · simp [same]
    · next unnamed => rw [ih look, law.other unnamed]

/-- Whether all fields of the record are found among members and can be read. -/
def IsIn (r : Record draft α) (members : Members) : Prop :=
  ∀ f ∈ r.fields, ∃ v, members.find? f.name = some v ∧ IsReadable f v

/-- The record of an object that has all its fields is that of the draft that is told from the
members. -/
theorem IsMade.ofJson {made : (String → Option Json) → draft} (law : r.IsMade made)
    {members : Members}
    (ordered : members.Pairwise (·.1 < ·.1)) (complete : r.IsIn members) :
    r.ofJson (.object members) = r.finish (made members.find?) := by
  -- Each name is found with what its field can read.
  have readable : ∀ f ∈ r.fields, ∀ v, members.find? f.name = some v → IsReadable f v := by
    intro f among v found
    obtain ⟨w, there, reads⟩ := complete f among
    obtain rfl : w = v := Option.some.inj (there.symm.trans found)
    exact reads
  have read := law.readObject ordered readable fun _ => none
  rw [← law.empty] at read
  simp [Record.ofJson, read, bind, Except.bind]

end Record

/-- What is read of what is found, if something is found and can be read. -/
def Json.readAs {β : Type} (read : Json → Except Fault β) (found : Option Json) : Option β :=
  found.bind fun v => (read v).toOption

/-- What can be read of what is found is read. -/
theorem Json.readAs_some {β : Type} {read : Json → Except Fault β} {v : Json} {x : β}
    (reads : read v = .ok x) :
    Json.readAs read (some v) = some x := by
  simp [Json.readAs, reads, Except.toOption]

/-- A natural number as a value has it. -/
abbrev Json.ofNat (n : Nat) : Json := .number (.integer n)

/-- A natural number below the bound is read as it is. -/
theorem Json.natural_ofNat (width : String) {bound n : Nat} (small : n < bound) :
    Json.natural width bound (.ofNat n) = .ok n := by
  simp [Json.natural, small]

namespace ListenSettings

/-- Where to listen, as it is told from what stands under each name. -/
def Draft.told (look : String → Option Json) : Draft where
  host := Json.readAs Json.text (look "host")
  port := Json.readAs (Json.natural "u16" wordBound) (look "port")
  basePath := Json.readAs Json.text (look "basePath")

/-- Each field is read from what stands under its name. -/
theorem isMade : record.IsMade Draft.told where
  empty := rfl
  -- Each of the three fields puts what it reads under its name.
  field := by
    intro f member look v d' reads
    simp only [record, List.mem_cons, List.not_mem_nil, or_false] at member
    rcases member with rfl | rfl | rfl
    all_goals
      obtain ⟨x, read, rfl⟩ := Outcome.map_eq_ok.mp reads
      simp [Draft.told, textField, naturalField, Field.of, Json.readAs_some read]
  other := by
    intro name unnamed look v
    simp [Record.field?, record, textField, naturalField, Field.of] at unnamed
    simp [Draft.told, unnamed]

/-- An object in which the parts of settings are found is read as the settings. -/
theorem ofJson_eq {members : Members} (ordered : members.Pairwise (·.1 < ·.1))
    {s : ListenSettings}
    (host : members.find? "host" = some (.string s.host))
    (port : members.find? "port" = some (.ofNat s.port))
    (small : s.port < wordBound) (basePath : members.find? "basePath" = some (.string s.basePath)) :
    record.ofJson (.object members) = .ok s := by
  have number := Json.natural_ofNat "u16" small
  -- What is found under each name is read as the setting itself.
  have told : Draft.told members.find? = ⟨some s.host, some s.port, some s.basePath⟩ := by
    rw [Draft.told, host, port, basePath, Json.readAs_some number]
    rfl
  have complete : record.IsIn members := by
    intro f member
    simp only [record, List.mem_cons, List.not_mem_nil, or_false] at member
    rcases member with rfl | rfl | rfl
    · exact ⟨_, host, Record.isReadable_of rfl⟩
    · exact ⟨_, port, Record.isReadable_of number⟩
    · exact ⟨_, basePath, Record.isReadable_of rfl⟩
  rw [isMade.ofJson ordered complete, told]
  rfl

end ListenSettings

namespace ConnectionSettings

/-- The timing and limits, as they are told from what stands under each name. -/
def Draft.told (look : String → Option Json) : Draft where
  pingInterval := Json.readAs (Json.natural "u64" longBound) (look "pingIntervalMs")
  pongWait := Json.readAs (Json.natural "u64" longBound) (look "pongWaitMs")
  writeWait := Json.readAs (Json.natural "u64" longBound) (look "writeWaitMs")
  maxMessageSize := Json.readAs (Json.natural "usize" longBound) (look "maxMessageSize")
  inboundQueue := Json.readAs (Json.natural "usize" longBound) (look "inboundQueue")

/-- Each field is read from what stands under its name. -/
theorem isMade : record.IsMade Draft.told where
  empty := rfl
  -- Each of the five fields puts what it reads under its name.
  field := by
    intro f member look v d' reads
    simp only [record, List.mem_cons, List.not_mem_nil, or_false] at member
    rcases member with rfl | rfl | rfl | rfl | rfl
    all_goals
      obtain ⟨x, read, rfl⟩ := Outcome.map_eq_ok.mp reads
      simp [Draft.told, naturalField, Field.of, Json.readAs_some read]
  other := by
    intro name unnamed look v
    simp [Record.field?, record, naturalField, Field.of] at unnamed
    simp [Draft.told, unnamed]

/-- An object in which the parts of settings are found is read as the settings. -/
theorem ofJson_eq {members : Members} (ordered : members.Pairwise (·.1 < ·.1))
    {s : ConnectionSettings}
    (ping : members.find? "pingIntervalMs" = some (.ofNat s.pingInterval))
    (pingSmall : s.pingInterval < longBound)
    (pong : members.find? "pongWaitMs" = some (.ofNat s.pongWait))
    (pongSmall : s.pongWait < longBound)
    (write : members.find? "writeWaitMs" = some (.ofNat s.writeWait))
    (writeSmall : s.writeWait < longBound)
    (size : members.find? "maxMessageSize" = some (.ofNat s.maxMessageSize))
    (sizeSmall : s.maxMessageSize < longBound)
    (queue : members.find? "inboundQueue" = some (.ofNat s.inboundQueue))
    (queueSmall : s.inboundQueue < longBound) :
    record.ofJson (.object members) = .ok s := by
  -- All five are numbers of a width, so they are read alike.
  have number (width : String) {n : Nat} (small : n < longBound) := Json.natural_ofNat width small
  have told : Draft.told members.find? =
      ⟨some s.pingInterval, some s.pongWait, some s.writeWait, some s.maxMessageSize,
        some s.inboundQueue⟩ := by
    rw [Draft.told, ping, pong, write, size, queue, Json.readAs_some (number _ pingSmall),
      Json.readAs_some (number _ pongSmall), Json.readAs_some (number _ writeSmall),
      Json.readAs_some (number _ sizeSmall), Json.readAs_some (number _ queueSmall)]
  have complete : record.IsIn members := by
    intro f member
    simp only [record, List.mem_cons, List.not_mem_nil, or_false] at member
    rcases member with rfl | rfl | rfl | rfl | rfl
    · exact ⟨_, ping, Record.isReadable_of (number _ pingSmall)⟩
    · exact ⟨_, pong, Record.isReadable_of (number _ pongSmall)⟩
    · exact ⟨_, write, Record.isReadable_of (number _ writeSmall)⟩
    · exact ⟨_, size, Record.isReadable_of (number _ sizeSmall)⟩
    · exact ⟨_, queue, Record.isReadable_of (number _ queueSmall)⟩
  rw [isMade.ofJson ordered complete, told]
  rfl

end ConnectionSettings

namespace LoggingSettings

/-- What is logged, as it is told from what stands under its name. -/
def Draft.told (look : String → Option Json) : Draft where
  level := Json.readAs Json.text (look "level")

/-- The field is read from what stands under its name. -/
theorem isMade : record.IsMade Draft.told where
  empty := rfl
  field := by
    -- The one field puts what it reads under its name.
    intro f member look v d' reads
    obtain rfl := List.mem_singleton.mp member
    obtain ⟨x, read, rfl⟩ := Outcome.map_eq_ok.mp reads
    simp [Draft.told, textField, Field.of, Json.readAs_some read]
  other := by
    intro name unnamed look v
    simp [Record.field?, record, textField, Field.of] at unnamed
    simp [Draft.told, unnamed]

/-- An object in which the part of settings is found is read as the settings. -/
theorem ofJson_eq {members : Members} (ordered : members.Pairwise (·.1 < ·.1))
    {s : LoggingSettings}
    (level : members.find? "level" = some (.string s.level)) :
    record.ofJson (.object members) = .ok s := by
  -- What is found under the name is read as the setting itself.
  have told : Draft.told members.find? = ⟨some s.level⟩ := by
    rw [Draft.told, level]
    rfl
  have complete : record.IsIn members := by
    intro f member
    obtain rfl := List.mem_singleton.mp member
    exact ⟨_, level, Record.isReadable_of rfl⟩
  rw [isMade.ofJson ordered complete, told]
  rfl

end LoggingSettings

namespace Settings

/-- The groups of settings, as they are told from what stands under each name. -/
def Draft.told (look : String → Option Json) : Draft where
  listen := Json.readAs ListenSettings.record.ofJson (look "server")
  connection := Json.readAs ConnectionSettings.record.ofJson (look "connection")
  logging := Json.readAs LoggingSettings.record.ofJson (look "logging")

/-- Each group is read from what stands under its name. -/
theorem isMade : record.IsMade Draft.told where
  empty := rfl
  -- Each of the three groups puts what it reads under its name.
  field := by
    intro f member look v d' reads
    simp only [record, List.mem_cons, List.not_mem_nil, or_false] at member
    rcases member with rfl | rfl | rfl
    all_goals
      obtain ⟨x, read, rfl⟩ := Outcome.map_eq_ok.mp reads
      simp [Draft.told, recordField, Field.of, Json.readAs_some read]
  other := by
    intro name unnamed look v
    simp [Record.field?, record, recordField, Field.of] at unnamed
    simp [Draft.told, unnamed]

/-- An object in which the groups of settings are found is read as the settings. -/
theorem ofJson_eq {members listen connection logging : Members}
    (ordered : members.Pairwise (·.1 < ·.1))
    {s : Settings} (server : members.find? "server" = some (.object listen))
    (listens : ListenSettings.record.ofJson (.object listen) = .ok s.listen)
    (link : members.find? "connection" = some (.object connection))
    (links : ConnectionSettings.record.ofJson (.object connection) = .ok s.connection)
    (log : members.find? "logging" = some (.object logging))
    (logs : LoggingSettings.record.ofJson (.object logging) = .ok s.logging) :
    ofJson (.object members) = .ok s := by
  -- What is found under each name is read as the group itself.
  have told :
      Draft.told members.find? = ⟨some s.listen, some s.connection, some s.logging⟩ := by
    rw [Draft.told, server, link, log, Json.readAs_some listens, Json.readAs_some links,
      Json.readAs_some logs]
  have complete : record.IsIn members := by
    intro f member
    simp only [record, List.mem_cons, List.not_mem_nil, or_false] at member
    rcases member with rfl | rfl | rfl
    · exact ⟨_, server, Record.isReadable_of listens⟩
    · exact ⟨_, link, Record.isReadable_of links⟩
    · exact ⟨_, log, Record.isReadable_of logs⟩
  rw [ofJson, isMade.ofJson ordered complete, told]
  rfl

end Settings

end WatchRelay
