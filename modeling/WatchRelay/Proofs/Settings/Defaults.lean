import WatchRelay.Proofs.Settings.Alike
import WatchRelay.Proofs.Settings.Loading

/-! The defaults that a file is laid over, and those of fields that it does not have: both fill the
same gaps, and so it does not matter whether a file leaves a setting out or has `null` for it. -/

namespace WatchRelay

namespace Json

variable {β : Type} {read : Json → Except Fault β} {unset : β}

/-- What is read of what is found under a name, and what stands for it where nothing is found. -/
def readOr (read : Json → Except Fault β) (unset : β) : Option Json → Except Fault β
  | none => .ok unset
  | some v => read v

/-- The same stands for a field where it is read alike. -/
theorem readAs_getD_congr {found found' : Option Json}
    (same : readOr read unset found = readOr read unset found') :
    (readAs read found).getD unset = (readAs read found').getD unset := by
  -- What is told is a function of the answer alone, whether the member was there or not.
  have told (found : Option Json) :
      (readAs read found).getD unset = (readOr read unset found).toOption.getD unset := by
    cases found <;> rfl
  rw [told, told, same]

/-- What is no object is replaced by whatever is laid over it. -/
theorem overlay_of_plain {below : Json} (plain : ∀ members, below ≠ .object members)
    (v : Json) :
    below.overlay v = v := by
  -- Only an object over an object is laid member by member, and the one below is none.
  cases v with
  | object members =>
    cases below with
    | object inner => exact absurd rfl (plain inner)
    | _ => rfl
  | _ => rfl

/-- What is laid over a default is read as if it stood there without its nulls and without the
default, if each value laid over the default is. -/
theorem readOr_laid {below : Json} (reads : read below = .ok unset) {found : Option Json}
    (each : ∀ v, found = some v → v.isNull = false →
      read (below.overlay v) = read v.dropNulls) :
    readOr read unset (laid? (some below) found) = readOr read unset (kept? found) := by
  -- A member that is not there, or is null, leaves the default, which reads as the value unset.
  cases found with
  | none => exact reads
  | some v =>
    cases null : v.isNull with
    | true =>
      rw [isNull_iff.mp null]
      exact reads
    | false =>
      rw [kept?_some null, laid?_full null, readOr, readOr, each v rfl null]

/-- A text is read as before where nulls are taken out. -/
theorem text_dropNulls (v : Json) : text v.dropNulls = text v := by
  cases v <;> rfl

/-- A number is read as before where nulls are taken out. -/
theorem natural_dropNulls (width : String) (bound : Nat) (v : Json) :
    natural width bound v.dropNulls = natural width bound v := by
  cases v <;> rfl

/-- A text laid over a default is read as if it stood there without the default. -/
theorem readOr_text (below : String) (found : Option Json) :
    readOr text below (laid? (some (.string below)) found) = readOr text below (kept? found) := by
  -- A text is no object, so what is laid over it takes its place.
  have reads : text (.string below) = .ok below := rfl
  refine readOr_laid reads fun v _ _ => ?_
  rw [overlay_of_plain (by simp), text_dropNulls]

/-- A number laid over a default is read as if it stood there without the default. -/
theorem readOr_natural (width : String) {bound below : Nat} (small : below < bound)
    (found : Option Json) :
    readOr (natural width bound) below (laid? (some (.ofNat below)) found) =
      readOr (natural width bound) below (kept? found) := by
  refine readOr_laid (natural_ofNat width small) fun v _ _ => ?_
  rw [overlay_of_plain (by simp), natural_dropNulls]

/-- The value without the nulls inside its members; those among the members themselves stay. -/
def dropInnerNulls : Json → Json
  | .object members => .object (members.map fun m => (m.1, m.2.dropNulls))
  | v => v.dropNulls

end Json

namespace Field

variable {draft β : Type} {name : String} {optional : Bool} {get : draft → Option β}
  {set : draft → β → draft}
  {tree : TreeReader β} {read : Json → Except Fault β}

/-- What is found for a field is refused alike where it is read alike. -/
theorem fault?_of_readOr {found found' : Option Json} (unset : β)
    (same : Json.readOr read unset found = Json.readOr read unset found') (d : draft) :
    found.bind ((of name optional get set tree read).fault? d) =
      found'.bind ((of name optional get set tree read).fault? d) := by
  -- A field finds fault exactly with what its reading refuses.
  have refused (found : Option Json) :
      found.bind ((of name optional get set tree read).fault? d) =
        Outcome.fault? (Json.readOr read unset found) := by
    cases found with
    | none => rfl
    | some v =>
      simp only [Option.bind_some, Field.fault?, of, Json.readOr]
      cases read v <;> rfl
  rw [refused, refused, same]

/-- A field whose reader does not see a change does not see it. -/
theorem fromJson_of_blind {v changed : Json} (blind : read changed = read v) (d : draft) :
    (of name optional get set tree read).fromJson d changed =
    (of name optional get set tree read).fromJson d v := by
  simp only [of, blind]

end Field

/-- Objects are read alike if under the name of each field the one has laid over a default what the
other has without its nulls. -/
theorem Record.IsSteady.ofJson_laid {draft α : Type} {r : Record draft α}
    {made : (String → Option Json) → draft}
    (steady : r.IsSteady) (law : r.IsMade made) {below above : Members}
    (ordered : below.Pairwise (·.1 < ·.1))
    (ordered' : above.Pairwise (·.1 < ·.1))
    (faults : ∀ f ∈ r.fields, (Json.laid? (below.find? f.name) (above.find? f.name)).bind
      (f.fault? r.empty) =
      (Json.kept? (above.find? f.name)).bind (f.fault? r.empty))
    (same : r.finish (made fun name => Json.laid? (below.find? name) (above.find? name)) =
      r.finish (made fun name => Json.kept? (above.find? name))) :
    r.ofJson (.object (Json.overlayMembers below above)) =
      r.ofJson (.object (Json.membersDropNulls above)) := by
  -- Both objects have at each name what the fields say of it, so they read alike.
  have laid := funext (Json.find?_overlayMembers ordered' below)
  have kept := funext (Json.find?_membersDropNulls ordered')
  refine steady.ofJson_congr law (Json.overlayMembers_ordered ordered above)
    (Json.membersDropNulls_ordered ordered') (fun f among => ?_) ?_
  · rw [congrFun laid, congrFun kept, faults f among]
  · rw [laid, kept, same]

namespace ListenSettings

/-- The fields are steady. -/
theorem isSteady : record.IsSteady where
  named := by simp [record, Record.field?, textField, naturalField, Field.of]
  -- There are three fields, and each reads its member on its own.
  reads := by
    intro f among v
    simp only [record, List.mem_cons, List.not_mem_nil, or_false] at among
    rcases among with rfl | rfl | rfl
    all_goals exact Record.reads_of v

/-- No field sees that nulls are taken out. -/
theorem isBlind : record.IsBlind Json.dropNulls := by
  -- The fields hold a text or a number, and neither looks inside what it is given.
  intro f among d v
  simp only [record, List.mem_cons, List.not_mem_nil, or_false] at among
  rcases among with rfl | rfl | rfl
  · exact Field.fromJson_of_blind (Json.text_dropNulls v) d
  · exact Field.fromJson_of_blind (Json.natural_dropNulls _ _ v) d
  · exact Field.fromJson_of_blind (Json.text_dropNulls v) d

/-- Laid over the defaults, members are read as without the defaults and their nulls. -/
theorem ofJson_laid {above : Members} (ordered : above.Pairwise (·.1 < ·.1)) :
    record.ofJson (.object (Json.overlayMembers (({} : Settings).members.group "server") above)) =
      record.ofJson (.object (Json.membersDropNulls above)) := by
  let unset : ListenSettings := {}
  -- The three fields are compared with their defaults, first for their faults, then for their
  -- values.
  have host := Json.readOr_text unset.host (above.find? "host")
  have port :=
    Json.readOr_natural "u16" (show unset.port < wordBound by decide) (above.find? "port")
  have path := Json.readOr_text unset.basePath (above.find? "basePath")
  refine isSteady.ofJson_laid isMade (({} : Settings).members_isOrdered.2 _ (by decide))
    ordered ?_ ?_
  · intro f among
    simp only [record, List.mem_cons, List.not_mem_nil, or_false] at among
    rcases among with rfl | rfl | rfl
    · exact Field.fault?_of_readOr _ host _
    · exact Field.fault?_of_readOr _ port _
    · exact Field.fault?_of_readOr _ path _
  · refine congrArg Except.ok ?_
    congr 1
    · exact Json.readAs_getD_congr host
    · exact Json.readAs_getD_congr port
    · exact Json.readAs_getD_congr path

end ListenSettings

namespace ConnectionSettings

/-- The fields are steady. -/
theorem isSteady : record.IsSteady where
  named := by simp [record, Record.field?, naturalField, Field.of]
  -- There are five fields, and each reads its member on its own.
  reads := by
    intro f among v
    simp only [record, List.mem_cons, List.not_mem_nil, or_false] at among
    rcases among with rfl | rfl | rfl | rfl | rfl
    all_goals exact Record.reads_of v

/-- No field sees that nulls are taken out. -/
theorem isBlind : record.IsBlind Json.dropNulls := by
  -- Every field holds a number, which does not look inside what it is given.
  intro f among d v
  simp only [record, List.mem_cons, List.not_mem_nil, or_false] at among
  rcases among with rfl | rfl | rfl | rfl | rfl
  all_goals exact Field.fromJson_of_blind (Json.natural_dropNulls _ _ v) d

/-- Laid over the defaults, members are read as without the defaults and their nulls. -/
theorem ofJson_laid {above : Members} (ordered : above.Pairwise (·.1 < ·.1)) :
    record.ofJson
      (.object (Json.overlayMembers (({} : Settings).members.group "connection") above)) =
      record.ofJson (.object (Json.membersDropNulls above)) := by
  let unset : ConnectionSettings := {}
  -- All five are numbers below their width, so one fact about them is enough.
  have number (width name : String) {below : Nat} (small : below < longBound) :=
    Json.readOr_natural width small (above.find? name)
  have ping := number "u64" "pingIntervalMs" (show unset.pingInterval < longBound by decide)
  have pong := number "u64" "pongWaitMs" (show unset.pongWait < longBound by decide)
  have write := number "u64" "writeWaitMs" (show unset.writeWait < longBound by decide)
  have size := number "usize" "maxMessageSize" (show unset.maxMessageSize < longBound by decide)
  have queue := number "usize" "inboundQueue" (show unset.inboundQueue < longBound by decide)
  refine isSteady.ofJson_laid isMade (({} : Settings).members_isOrdered.2 _ (by decide))
    ordered ?_ ?_
  · intro f among
    simp only [record, List.mem_cons, List.not_mem_nil, or_false] at among
    rcases among with rfl | rfl | rfl | rfl | rfl
    · exact Field.fault?_of_readOr _ ping _
    · exact Field.fault?_of_readOr _ pong _
    · exact Field.fault?_of_readOr _ write _
    · exact Field.fault?_of_readOr _ size _
    · exact Field.fault?_of_readOr _ queue _
  · refine congrArg Except.ok ?_
    congr 1
    · exact Json.readAs_getD_congr ping
    · exact Json.readAs_getD_congr pong
    · exact Json.readAs_getD_congr write
    · exact Json.readAs_getD_congr size
    · exact Json.readAs_getD_congr queue

end ConnectionSettings

namespace LoggingSettings

/-- The field is steady. -/
theorem isSteady : record.IsSteady where
  named := by simp [record, Record.field?, textField, Field.of]
  -- There is one field.
  reads := by
    intro f among v
    obtain rfl := List.mem_singleton.mp among
    exact Record.reads_of v

/-- The field does not see that nulls are taken out. -/
theorem isBlind : record.IsBlind Json.dropNulls := by
  -- The field holds a text, which does not look inside what it is given.
  intro f among d v
  obtain rfl := List.mem_singleton.mp among
  exact Field.fromJson_of_blind (Json.text_dropNulls v) d

/-- Laid over the default, members are read as without the default and their nulls. -/
theorem ofJson_laid {above : Members} (ordered : above.Pairwise (·.1 < ·.1)) :
    record.ofJson (.object (Json.overlayMembers (({} : Settings).members.group "logging") above)) =
      record.ofJson (.object (Json.membersDropNulls above)) := by
  let unset : LoggingSettings := {}
  -- The one field is compared with its default.
  have level := Json.readOr_text unset.level (above.find? "level")
  refine isSteady.ofJson_laid isMade (({} : Settings).members_isOrdered.2 _ (by decide))
    ordered ?_ ?_
  · intro f among
    obtain rfl := List.mem_singleton.mp among
    exact Field.fault?_of_readOr _ level _
  · refine congrArg Except.ok ?_
    congr 1
    exact Json.readAs_getD_congr level

end LoggingSettings

namespace Record

variable {draft α : Type} {r : Record draft α}

/-- A value laid over an object is read as the value without its nulls, if members laid over those
of the object are. -/
theorem IsBlind.ofJson_overlay (blind : r.IsBlind Json.dropNulls) {below : Members}
    (laid : ∀ {above : Members}, above.Pairwise (·.1 < ·.1) →
      r.ofJson (.object (Json.overlayMembers below above)) =
        r.ofJson (.object (Json.membersDropNulls above)))
    {v : Json} (ordered : v.IsOrdered) :
    r.ofJson ((Json.object below).overlay v) = r.ofJson v.dropNulls := by
  -- Only an object is laid over the group. Anything else takes its place and is read alone.
  cases ordered with
  | object sorted _ => exact laid sorted
  | @array items _ =>
    rw [Json.dropNulls, Json.itemsDropNulls_eq_map, blind.ofJson_array]
    rfl
  | _ => rfl

/-- A record does not see that nulls are taken out further inside than its own members. -/
theorem IsBlind.ofJson_dropInnerNulls (blind : r.IsBlind Json.dropNulls) (v : Json) :
    r.ofJson v.dropInnerNulls = r.ofJson v := by
  -- Objects and lists are read by their fields, which are blind. The rest has nothing inside.
  cases v with
  | object members => exact blind.ofJson_object members
  | array items =>
    rw [Json.dropInnerNulls, Json.dropNulls, Json.itemsDropNulls_eq_map, blind.ofJson_array]
    exact fun members same => by cases same
  | _ => rfl

end Record

namespace Settings

/-- The groups are steady. -/
theorem isSteady : record.IsSteady where
  named := by simp [record, Record.field?, recordField, Field.of]
  -- There are three groups, and each reads its member on its own.
  reads := by
    intro f among v
    simp only [record, List.mem_cons, List.not_mem_nil, or_false] at among
    rcases among with rfl | rfl | rfl
    all_goals exact Record.reads_of v

/-- No group sees that nulls are taken out further inside than its own members. -/
theorem isBlind : record.IsBlind Json.dropInnerNulls := by
  -- Each group is a record that is blind itself.
  intro f among d v
  simp only [record, List.mem_cons, List.not_mem_nil, or_false] at among
  rcases among with rfl | rfl | rfl
  · exact Field.fromJson_of_blind (ListenSettings.isBlind.ofJson_dropInnerNulls v) d
  · exact Field.fromJson_of_blind (ConnectionSettings.isBlind.ofJson_dropInnerNulls v) d
  · exact Field.fromJson_of_blind (LoggingSettings.isBlind.ofJson_dropInnerNulls v) d

/-- Laid over the defaults, an object is read as without the defaults and its nulls. -/
theorem ofJson_laid {above : Members} (ordered : (Json.object above).IsOrdered) :
    ofJson (({} : Settings).toJson.overlay (.object above)) =
      ofJson (Json.object above).dropNulls := by
  obtain ⟨sorted, inner⟩ : above.Pairwise (·.1 < ·.1) ∧ ∀ m ∈ above, m.2.IsOrdered := by
    cases ordered with
    | object sorted inner => exact ⟨sorted, inner⟩
  -- Each group is laid over the group of the defaults, which is read as the defaults.
  have group {draft β : Type} {r : Record draft β} (unset : β) (name : String)
      (reads : r.ofJson (.object (({} : Settings).members.group name)) = .ok unset)
      (laid : ∀ {v : Json}, v.IsOrdered →
        r.ofJson ((Json.object (({} : Settings).members.group name)).overlay v) =
          r.ofJson v.dropNulls) :
      Json.readOr r.ofJson unset
        (Json.laid? (some (.object (({} : Settings).members.group name))) (above.find? name)) =
        Json.readOr r.ofJson unset (Json.kept? (above.find? name)) :=
    Json.readOr_laid reads fun v found _ => laid (inner _ (Members.mem_of_find? found))
  have server := group {} "server" rfl
    (ListenSettings.isBlind.ofJson_overlay ListenSettings.ofJson_laid)
  have connection := group {} "connection" rfl
    (ConnectionSettings.isBlind.ofJson_overlay ConnectionSettings.ofJson_laid)
  have logging := group {} "logging" rfl
    (LoggingSettings.isBlind.ofJson_overlay LoggingSettings.ofJson_laid)
  refine isSteady.ofJson_laid isMade ({} : Settings).members_isOrdered.1 sorted ?_ ?_
  · intro f among
    simp only [record, List.mem_cons, List.not_mem_nil, or_false] at among
    rcases among with rfl | rfl | rfl
    · exact Field.fault?_of_readOr _ server _
    · exact Field.fault?_of_readOr _ connection _
    · exact Field.fault?_of_readOr _ logging _
  · refine congrArg Except.ok ?_
    congr 1
    · exact Json.readAs_getD_congr server
    · exact Json.readAs_getD_congr connection
    · exact Json.readAs_getD_congr logging

/-- The defaults are filled in alike where a value is laid over them and where fields are not there.

Without a `null`, any value is read as the same settings either way, or refused with the same fault.
It may be an object with whatever members, a list of the groups or nothing of the kind. -/
theorem defaults_are_filled_alike {v : Json} (ordered : v.IsOrdered) (free : v.IsNullFree) :
    ofJson (({} : Settings).toJson.overlay v) = ofJson v := by
  cases v with
  | object members => rw [ofJson_laid ordered, free.dropNulls_eq]
  -- What is no object takes the place of the defaults.
  | _ => rfl

/-- Of two groups that are at fault, it is the first in the order of their names either way; and a
group may be a list. -/
theorem defaults_are_filled_alike_refused :
    let faulty := Json.object
      [("connection", .object [("pongWaitMs", .string "9")]), ("server", .array [.bool true])]
    let listed := Json.object
      [("logging", .array [.string "debug"]), ("server", .object [("port", .ofNat 1)])]
    let defaults := ({} : Settings).toJson
    (faulty.IsOrdered ∧ faulty.IsNullFree ∧
      ofJson faulty = .error (.invalidType (.string "9") "u64") ∧
      ofJson (defaults.overlay faulty) = ofJson faulty) ∧
    listed.IsOrdered ∧ listed.IsNullFree ∧
      ofJson listed = .ok { listen := { port := 1 }, logging := { level := "debug" } } ∧
      ofJson (defaults.overlay listed) = ofJson listed := by
  intro faulty listed defaults
  -- Both values are built member by member, as their order and their nulls are told.
  have faultyOrdered : faulty.IsOrdered := by
    refine .object (by decide)
      (List.forall_mem_cons.mpr ⟨.object (by decide) ?_, List.forall_mem_singleton.mpr ?_⟩)
    · exact List.forall_mem_singleton.mpr (.string _)
    · exact .array (List.forall_mem_singleton.mpr (.bool _))
  have faultyFree : faulty.IsNullFree := by
    refine .object (List.forall_mem_cons.mpr ⟨.object ?_, List.forall_mem_singleton.mpr ?_⟩)
    · exact List.forall_mem_singleton.mpr (.string _)
    · exact .array (List.forall_mem_singleton.mpr (.bool _))
  have listedOrdered : listed.IsOrdered := by
    refine .object (by decide)
      (List.forall_mem_cons.mpr ⟨.array ?_, List.forall_mem_singleton.mpr ?_⟩)
    · exact List.forall_mem_singleton.mpr (.string _)
    · exact .object (by decide) (List.forall_mem_singleton.mpr (.number _))
  have listedFree : listed.IsNullFree := by
    refine .object (List.forall_mem_cons.mpr ⟨.array ?_, List.forall_mem_singleton.mpr ?_⟩)
    · exact List.forall_mem_singleton.mpr (.string _)
    · exact .object (List.forall_mem_singleton.mpr (.number _))
  exact ⟨⟨faultyOrdered, faultyFree, rfl, defaults_are_filled_alike faultyOrdered faultyFree⟩,
    listedOrdered, listedFree, rfl, defaults_are_filled_alike listedOrdered listedFree⟩

end Settings

end WatchRelay
