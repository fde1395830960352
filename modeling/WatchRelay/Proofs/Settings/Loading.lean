import WatchRelay.Proofs.Json.Reading
import WatchRelay.Proofs.Settings.Decoding
import WatchRelay.Proofs.Settings.Layers

/-! Which settings a file is loaded as in an environment, and when it is not loaded. -/

namespace WatchRelay

/-- A settings file that is missing, or that is a JSON object with certain members: its text is one
that the grammar allows, the strings and numbers in it stand for something, and no more than 127
containers are inside one another. -/
inductive SettingsFile.Holds : SettingsFile → Members → Prop where
  | absent : Holds .absent []
  | content {bytes : List UInt8} {text : String} {t : Tree} {members : Members}
      (decodes : Utf8.decode bytes = .ok text) (written : t.IsWritten text.toList)
      (stands : t.StandsFor (.object members)) (shallow : t.nesting ≤ 127) :
        Holds (.content bytes) members

/-- Members in the order of their keys, and so are those of each group. -/
def Members.IsOrdered (members : Members) : Prop :=
  members.Pairwise (·.1 < ·.1) ∧
    ∀ name ∈ Setting.groups, (members.group name).Pairwise (·.1 < ·.1)

namespace SettingsFile

/-- The members of a settings file are in order. -/
theorem Holds.isOrdered {file : SettingsFile} {members : Members} (holds : file.Holds members) :
    members.IsOrdered := by
  -- A file that is not there has no members. One that is there has those its text stands for.
  cases holds with
  | absent => exact ⟨.nil, fun name _ => .nil⟩
  | content _ _ stands _ =>
    obtain ⟨ordered, values⟩ := stands.members
    refine ⟨ordered, fun name _ => ?_⟩
    unfold Members.group
    split
    · next inner found =>
      obtain ⟨t, inside⟩ := values _ (Members.mem_of_find? found)
      exact inside.members.1
    · exact .nil

/-- A printed object without doubles is a settings file with its members. -/
theorem holds_print {members : Members} (exact : (Json.object members).IsExact)
    (shallow : (Json.object members).nesting ≤ 127) {bytes : List UInt8}
    (decodes : Utf8.decode bytes = .ok (Json.object members).print) :
    Holds (.content bytes) members := by
  -- What is printed of an exact value is read back as this value.
  have written := exact.every.isWritten_print
  obtain ⟨stands, shallow⟩ :=
    written.whole.standsFor (exact.toJson_tree (Nat.lt_succ_of_le shallow))
  exact .content decodes written stands shallow

end SettingsFile

/-- A text of ASCII characters is decoded from their numbers. -/
theorem Utf8.decode_ascii {cs : List Char} (ascii : ∀ c ∈ cs, c.toNat < 0x80) :
    decode (cs.map fun c => c.toNat.toUInt8) = .ok (String.ofList cs) := by
  -- The position is only told in faults, so it may be any.
  suffices all : ∀ pos, decodeFrom pos (cs.map fun c => c.toNat.toUInt8) = .ok cs by
    rw [decode, all]
    rfl
  induction cs with
  | nil => exact fun pos => rfl
  | cons c cs ih =>
    intro pos
    obtain ⟨small, later⟩ := List.forall_mem_cons.mp ascii
    have number : c.toNat.toUInt8.toNat = c.toNat :=
      UInt8.toNat_ofNat_of_lt (small.trans (by decide))
    have first : c.toNat.toUInt8 < 0x80 := by
      rw [UInt8.lt_iff_toNat_lt, number]
      exact small
    rw [List.map_cons, decodeFrom, if_pos first, ih later, number, Char.ofNat_toNat]
    rfl

namespace Setting

variable {α : Type} {k : Setting α}

/-- What the file and the default make of a setting: what the file gives, otherwise the default. -/
def IsHeld (k : Setting α) (members : Members) (v : α) : Prop :=
  k.IsIn members v ∨ (∀ w, ¬ k.IsIn members w) ∧ v = k.default

/-- Laid over the default, a setting of a file is what the file and the default make of it. -/
theorem IsPlain.laid (plain : k.IsPlain) {members : Members} (typed : k.IsTyped members) :
    ∃ v, k.fits v ∧ k.IsHeld members v ∧
      Json.laid? (some (k.toJson k.default)) ((members.group k.group).find? k.name) =
        some (k.toJson v) := by
  -- The member is missing, is null, or has a value that takes the place of the default.
  cases found : (members.group k.group).find? k.name with
  | none =>
    have absent (w : α) : ¬ k.IsIn members w := fun held => by cases found.symm.trans held
    exact ⟨k.default, plain.fits, .inr ⟨absent, rfl⟩, by simp [Json.laid?]⟩
  | some value =>
    obtain rfl | ⟨v, fits, rfl⟩ := typed value found
    · have absent (w : α) : ¬ k.IsIn members w := fun held =>
        plain.notNull w (Option.some.inj (held.symm.trans found))
      exact ⟨k.default, plain.fits, .inr ⟨absent, rfl⟩, by simp [Json.laid?]⟩
    · refine ⟨v, fits, .inl found, ?_⟩
      rw [Json.laid?, Json.overlay_eq (plain.notObject v)]
      exact plain.notNull v

/-- Where settings are what the file and the default make of them, the environment makes the layers
of them. -/
theorem IsOverridden.layered (overridden : k.IsOverridden) {members : Members} {s : Settings}
    (held : k.IsHeld members (k.get s)) (env : Environment) :
    k.IsLayered members env (k.get (s.override env)) := by
  -- The environment goes before the file, and the file before the default.
  by_cases given : ∃ v, k.Given env v
  · obtain ⟨v, given⟩ := given
    rw [overridden.takes given]
    exact .environment given
  · have unset := not_exists.mp given
    rw [overridden.keeps unset]
    rcases held with inFile | ⟨absent, same⟩
    · exact .file unset inFile
    · rw [same]
      exact .default unset absent

end Setting

namespace Settings

/-- The settings as members of a value. -/
def members (s : Settings) : Members :=
  match s.toJson with
  | .object members => members
  | _ => []

/-- Settings have a group of members under each name. -/
theorem find?_members (s : Settings) {name : String} (group : name ∈ Setting.groups) :
    s.members.find? name = some (.object (s.members.group name)) := by
  -- There are three groups, and each stands under its name.
  simp only [Setting.groups, List.mem_cons, List.not_mem_nil, or_false] at group
  rcases group with rfl | rfl | rfl <;>
    simp [members, toJson, Members.ofList, Members.group, Members.find?_insert_of_ne]

/-- The members of settings are in order. -/
theorem members_isOrdered (s : Settings) : s.members.IsOrdered := by
  have ordered (members : List (String × Json)) := (Members.ofList_ordered_subset members).1
  refine ⟨ordered _, fun name _ => ?_⟩
  unfold Members.group
  split
  · next inner found =>
    -- What is found is one of the three groups, each of which was put in order.
    have among := (Members.ofList_ordered_subset _).2 _ (Members.mem_of_find? found)
    simp only [List.mem_cons, Prod.mk.injEq, Json.object.injEq, List.not_mem_nil, or_false] at among
    rcases among with ⟨-, rfl⟩ | ⟨-, rfl⟩ | ⟨-, rfl⟩ <;> exact ordered _
  · exact .nil

/-- Settings have each setting among their members. -/
theorem isIn_members (s : Settings) {α : Type} {k : Setting α} (known : k.IsKnown) :
    k.IsIn s.members (k.get s) := by
  -- There are nine settings, and each stands in its group under its name.
  cases known with
  | amongTexts member =>
    simp only [Setting.texts, List.mem_cons, List.not_mem_nil, or_false] at member
    rcases member with rfl | rfl | rfl <;>
      simp [Setting.IsIn, Setting.text, members, toJson, Members.ofList, Members.group,
        Members.find?_insert_of_ne]
  | amongNumbers member =>
    simp only [Setting.numbers, List.mem_cons, List.not_mem_nil, or_false] at member
    rcases member with rfl | rfl | rfl | rfl | rfl | rfl <;>
      simp [Setting.IsIn, Setting.number, Setting.inRange, members, toJson, Members.ofList,
        Members.group, Members.find?_insert_of_ne]

/-- Each group of members laid over settings is laid over the group of the settings. -/
theorem find?_overlay_members (s : Settings) {members : Members} (ordered : members.IsOrdered)
    (typed : members.IsTyped) {name : String} (group : name ∈ Setting.groups) :
    Members.find? name (Json.overlayMembers s.members members) =
      some (.object (Json.overlayMembers (s.members.group name) (members.group name))) := by
  rw [Json.find?_overlayMembers ordered.1, find?_members s group, Members.group.eq_def members name]
  -- A group that is missing or null adds nothing, and any other is laid over the group there is.
  cases found : members.find? name with
  | none => simp [Json.laid?, Json.overlayMembers]
  | some value =>
    obtain rfl | ⟨inner, rfl⟩ := typed.groups name group value found
    · simp [Json.laid?, Json.overlayMembers]
    · simp [Json.laid?, Json.overlay]

/-- Settings of which each is found among members are read from them. -/
theorem ofJson_of_isIn {members : Members} (ordered : members.IsOrdered)
    (groups : ∀ name ∈ Setting.groups, members.find? name = some (.object (members.group name)))
    {s : Settings}
    (each : ∀ {α} {k : Setting α}, k.IsKnown →
      k.IsIn members (k.get s) ∧ k.fits (k.get s)) :
    ofJson (.object members) = .ok s := by
  -- The nine settings are what the three groups are read from, and the groups are the whole.
  have texts : ∀ k ∈ Setting.texts, k.IsIn members (k.get s) ∧ k.fits (k.get s) :=
    fun k member => each (.amongTexts member)
  have numbers : ∀ k ∈ Setting.numbers, k.IsIn members (k.get s) ∧ k.fits (k.get s) :=
    fun k member => each (.amongNumbers member)
  have inner := ordered.2
  simp only [Setting.texts, Setting.numbers, Setting.groups, List.forall_mem_cons]
    at texts numbers groups inner
  obtain ⟨⟨host, -⟩, ⟨path, -⟩, ⟨level, -⟩, -⟩ := texts
  obtain ⟨⟨port, portFits⟩, ⟨ping, pingFits⟩, ⟨pong, pongFits⟩,
      ⟨write, writeFits⟩, ⟨size, sizeFits⟩, ⟨queue, queueFits⟩, -⟩ := numbers
  obtain ⟨server, link, log, -⟩ := groups
  obtain ⟨listens, links, logs, -⟩ := inner
  exact ofJson_eq ordered.1 server (ListenSettings.ofJson_eq listens host port portFits path)
    link (ConnectionSettings.ofJson_eq links ping pingFits pong pongFits write writeFits size
      sizeFits queue queueFits)
    log (LoggingSettings.ofJson_eq logs level)

/-- Members laid over the defaults are read as what they and the defaults make of each setting. -/
theorem ofJson_overlay {members : Members} (ordered : members.IsOrdered) (typed : members.IsTyped) :
    ∃ s : Settings, ofJson (.object (Json.overlayMembers ({} : Settings).members members)) =
      .ok s ∧
      ∀ {α} {k : Setting α}, k.IsKnown → k.IsHeld members (k.get s) := by
  let defaults : Settings := {}
  let merged : Members := Json.overlayMembers defaults.members members
  -- The groups are laid over each other one by one.
  have found {name : String} (group : name ∈ Setting.groups) :=
    find?_overlay_members defaults ordered typed group
  have groups {name : String} (group : name ∈ Setting.groups) :
      merged.group name = Json.overlayMembers (defaults.members.group name)
        (members.group name) := by
    rw [Members.group, found group]
  have sorted : merged.IsOrdered := by
    refine ⟨Json.overlayMembers_ordered defaults.members_isOrdered.1 _, fun name group => ?_⟩
    rw [groups group]
    exact Json.overlayMembers_ordered (defaults.members_isOrdered.2 name group) _
  -- Each setting of the defaults is there, and what the file has for it is laid over it.
  have laid {α : Type} {k : Setting α} (known : k.IsKnown) :
      ∃ v, (k.IsIn merged v ∧ k.fits v) ∧ k.IsHeld members v := by
    have grouped := known.isPlain.grouped
    obtain ⟨v, fits, held, same⟩ := known.isPlain.laid (typed.settings known)
    have inDefaults : (defaults.members.group k.group).find? k.name = some (k.toJson k.default) :=
      defaults.isIn_members known
    refine ⟨v, ⟨?_, fits⟩, held⟩
    rw [Setting.IsIn, groups grouped, Json.find?_overlayMembers (ordered.2 _ grouped),
      inDefaults, same]
  obtain ⟨s, each⟩ := exists_of_each laid
  have reads :=
    ofJson_of_isIn sorted (fun name group => by rw [groups group, found group]) fun known =>
    (each known).1
  exact ⟨s, reads, fun known => (each known).2⟩

/-- A settings file with certain members is loaded as the settings of the members laid over the
defaults, under what the environment gives. -/
theorem load_of_holds {file : SettingsFile} {members : Members} (holds : file.Holds members)
    {s : Settings}
    (reads : ofJson (.object (Json.overlayMembers ({} : Settings).members members)) = .ok s)
    (env : Environment) :
    load file env = (s.override env).validate := by
  have resolved : resolve (some (.object members)) env = (s.override env).validate := by
    have overlay : ({} : Settings).toJson.overlay (.object members) =
        .object (Json.overlayMembers ({} : Settings).members members) := rfl
    simp only [resolve, orFail, overlay, reads]
    rfl
  cases holds with
  -- Over the defaults, no file is as good as an object without members.
  | absent => exact resolved
  | @content bytes text t members decodes written stands shallow =>
    have value : Json.ofText text = .ok (.object members) :=
      written.ofText_eq_ok.mpr ⟨stands, shallow⟩
    simp only [load, fileValue, decodes, value]
    exact resolved

/-- Settings that fit together. -/
structure IsConsistent (s : Settings) : Prop where
  ping : 0 < s.connection.pingInterval
  pong : s.connection.pingInterval < s.connection.pongWait
  write : 0 < s.connection.writeWait
  size : 0 < s.connection.maxMessageSize
  starts : s.listen.basePath.toList.head? = some '/'
  ends : s.listen.basePath.toList.getLast? = some '/'

/-- Settings are not in conflict exactly if they fit together. -/
theorem conflict?_eq_none {s : Settings} : s.conflict? = none ↔ s.IsConsistent := by
  simp only [conflict?]
  -- The checks are made one after the other, so each of them has passed.
  constructor
  · intro fits
    split_ifs at fits with timed slower size path
    obtain ⟨starts, ends⟩ := not_or.mp path
    exact ⟨by omega, by omega, by omega, by omega, not_not.mp starts, not_not.mp ends⟩
  · rintro ⟨ping, pong, write, size, starts, ends⟩
    rw [if_neg (by omega), if_neg (by omega), if_neg (by omega), if_neg (by simp [starts, ends])]

/-- Settings that fit together are validated, and others are in conflict. -/
theorem validate_cases (s : Settings) :
    (s.IsConsistent ∧ s.validate = .ok s) ∨
    (¬ s.IsConsistent ∧ ∃ c, s.validate = .error (.conflict c)) := by
  -- Settings are valid as long as no check finds a conflict.
  unfold validate
  rw [← conflict?_eq_none]
  cases s.conflict? with
  | none => exact .inl ⟨rfl, rfl⟩
  | some c => exact .inr ⟨by simp, c, rfl⟩

/-- What the layers make is validated. -/
theorem load_eq_validate {file : SettingsFile} {members : Members} (holds : file.Holds members)
    (typed : members.IsTyped) (env : Environment) :
    ∃ s, IsLayered members env s ∧ load file env = s.validate := by
  -- The file is read to the settings it lays over the defaults, and the variables go over these.
  obtain ⟨s, reads, each⟩ := ofJson_overlay holds.isOrdered typed
  exact ⟨s.override env, fun _ _ known => known.isOverridden.layered (each known) env,
    load_of_holds holds reads env⟩

end Settings

/-- The environment in which these variables are set and no others. -/
def Environment.of (set : List (String × String)) : Environment := fun name => set.lookup name

namespace Settings

variable {file : SettingsFile} {members : Members}

/-- With some values of the variables, whatever the file gives fits together. -/
theorem exists_consistent (members : Members) :
    ∃ env, ∀ s, IsLayered members env s → s.IsConsistent := by
  -- The variables set whatever the checks look at, so the file has no part in it.
  refine ⟨.of [("RELAY_PING_INTERVAL_MS", "100"), ("RELAY_PONG_WAIT_MS", "200"),
    ("RELAY_WRITE_WAIT_MS", "100"), ("RELAY_MAX_MESSAGE_SIZE", "256"), ("RELAY_BASE_PATH", "/")],
    fun s layered => ?_⟩
  have hundred : Spells "100" 100 := ⟨['1', '0', '0'], .inl rfl, by decide, by simp, rfl⟩
  have twoHundred : Spells "200" 200 := ⟨['2', '0', '0'], .inl rfl, by decide, by simp, rfl⟩
  have least : Spells "256" 256 := ⟨['2', '5', '6'], .inl rfl, by decide, by simp, rfl⟩
  have ping : s.connection.pingInterval = 100 :=
    layered.eq (.amongNumbers (.tail _ (.head _)))
      ⟨_, rfl, _, rfl, by decide, hundred, by decide, by decide⟩
  have pong : s.connection.pongWait = 200 :=
    layered.eq (.amongNumbers (.tail _ (.tail _ (.head _))))
      ⟨_, rfl, _, rfl, by decide, twoHundred, by decide, by decide⟩
  have write : s.connection.writeWait = 100 :=
    layered.eq (.amongNumbers (.tail _ (.tail _ (.tail _ (.head _)))))
      ⟨_, rfl, _, rfl, by decide, hundred, by decide, by decide⟩
  have size : s.connection.maxMessageSize = 256 :=
    layered.eq (.amongNumbers (.tail _ (.tail _ (.tail _ (.tail _ (.head _))))))
      ⟨_, rfl, _, rfl, by decide, least, by decide, by decide⟩
  have path : s.listen.basePath = "/" :=
    layered.eq (.amongTexts (.tail _ (.head _))) ⟨_, rfl, _, rfl, by decide, rfl⟩
  exact ⟨by omega, by omega, by omega, by omega, by rw [path]; rfl, by rw [path]; rfl⟩

/-- With some values of the variables, nothing that the file gives fits together. -/
theorem exists_inconsistent (members : Members) :
    ∃ env, ∀ s, IsLayered members env s → ¬ s.IsConsistent := by
  refine ⟨.of [("RELAY_PING_INTERVAL_MS", "100"), ("RELAY_PONG_WAIT_MS", "100")],
    -- The two variables alone give a conflict, whatever else is set.
    fun s layered consistent => ?_⟩
  have hundred : Spells "100" 100 := ⟨['1', '0', '0'], .inl rfl, by decide, by simp, rfl⟩
  have ping : s.connection.pingInterval = 100 :=
    layered.eq (.amongNumbers (.tail _ (.head _)))
      ⟨_, rfl, _, rfl, by decide, hundred, by decide, by decide⟩
  have pong : s.connection.pongWait = 100 :=
    layered.eq (.amongNumbers (.tail _ (.tail _ (.head _))))
      ⟨_, rfl, _, rfl, by decide, hundred, by decide, by decide⟩
  have faster := consistent.pong
  omega

/-- Settings come in layers: the environment over the file over the defaults.

A file that is missing, or is an object with sound members, is loaded in any environment.
It is loaded as the one combination of what the three give, exactly if this fits together.

So some environment makes the file load and another keeps it from loading.
Values that are not given may as well not be set. -/
theorem layers_are_loaded (holds : file.Holds members) (typed : members.IsTyped) :
    (∀ env, ∃! s, IsLayered members env s) ∧
      (∀ env s, load file env = .ok s ↔ IsLayered members env s ∧ s.IsConsistent) ∧
      (∃ env s, load file env = .ok s) ∧ (∃ env c, load file env = .error (.conflict c)) ∧
      ∀ env freed, Environment.IsFreed env freed → load file freed = load file env := by
  -- What is loaded is the one layering there is, if it passes the checks.
  have loads (env : Environment) (s : Settings) :
      load file env = .ok s ↔ IsLayered members env s ∧ s.IsConsistent := by
    obtain ⟨t, layered, loaded⟩ := load_eq_validate holds typed env
    rw [loaded]
    rcases validate_cases t with ⟨consistent, valid⟩ | ⟨inconsistent, c, invalid⟩
    · rw [valid]
      constructor
      · intro same
        cases same
        exact ⟨layered, consistent⟩
      · rintro ⟨layered', -⟩
        rw [layered.unique layered']
    · rw [invalid]
      constructor
      · intro same
        cases same
      · rintro ⟨layered', consistent⟩
        exact absurd (layered.unique layered' ▸ consistent) inconsistent
  refine ⟨fun env => ?_, loads, ?_, ?_, fun env freed frees => ?_⟩
  · obtain ⟨s, layered, -⟩ := load_eq_validate holds typed env
    exact ⟨s, layered, fun s' layered' => layered'.unique layered⟩
  -- The variables can always mend the settings, and they can always spoil them.
  · obtain ⟨env, consistent⟩ := exists_consistent members
    obtain ⟨s, layered, -⟩ := load_eq_validate holds typed env
    exact ⟨env, s, (loads env s).mpr ⟨layered, consistent s layered⟩⟩
  · obtain ⟨env, inconsistent⟩ := exists_inconsistent members
    obtain ⟨s, layered, loaded⟩ := load_eq_validate holds typed env
    rcases validate_cases s with ⟨consistent, -⟩ | ⟨-, c, invalid⟩
    · exact absurd consistent (inconsistent s layered)
    · exact ⟨env, c, loaded.trans invalid⟩
  -- What is taken away from the variables was ignored.
  · simp only [load, resolve, frees.override_eq]

/-- A file whose ping interval is too long for the default wait is loaded where a longer wait is
set, with a sign. -/
theorem layers_are_loaded_repaired :
    let file := SettingsFile.content
      (("\x7b\"connection\":\x7b\"pingIntervalMs\":20000,\"pongWaitMs\":null\x7d,\"x\":[1]\x7d"
        ).toList.map fun c => c.toNat.toUInt8)
    let env := Environment.of [("RELAY_PONG_WAIT_MS", "+30000")]
    let repaired : Settings := { connection := { pingInterval := 20000, pongWait := 30000 } }
    (∀ s, load file (.of []) ≠ .ok s) ∧ load file env = .ok repaired ∧
      ∃ members, file.Holds members ∧ members.IsTyped ∧ IsLayered members env repaired ∧
        repaired.IsConsistent := by
  intro file env repaired
  let connection : Members := [("pingIntervalMs", .ofNat 20000), ("pongWaitMs", .null)]
  let members : Members := [("connection", .object connection), ("x", .array [.ofNat 1])]
  have number (n : Nat) (small : (n : Int) < Nat.pow 2 64) : (Json.ofNat n).IsExact :=
    .integer (by omega) small
  -- The file is written from the members, so it holds them.
  have exact : (Json.object members).IsExact := by
    refine .object (by decide)
      (List.forall_mem_cons.mpr ⟨.object (by decide) ?_, List.forall_mem_singleton.mpr ?_⟩)
    · exact List.forall_mem_cons.mpr
        ⟨number _ (by decide), List.forall_mem_singleton.mpr .null⟩
    · exact .array (List.forall_mem_singleton.mpr (number _ (by decide)))
  have holds : file.Holds members := by
    refine SettingsFile.holds_print exact (by decide)
      ((Utf8.decode_ascii (by simp)).trans (congrArg _ ?_))
    decide +kernel
  -- Each setting is missing, null or of its type.
  have texts : ∀ k ∈ Setting.texts, k.IsTyped members := by
    simp [Setting.texts, Setting.IsTyped, Setting.text, Members.group, members, connection,
      Members.find?]
  have numbers : ∀ k ∈ Setting.numbers, k.IsTyped members := by
    simp [Setting.numbers, Setting.IsTyped, Setting.number, Setting.inRange, Members.group, members,
      connection, Members.find?, longBound]
    exact ⟨20000, by decide, rfl⟩
  have typed : members.IsTyped := by
    refine ⟨by simp [Setting.groups, members, Members.find?], fun known => ?_⟩
    cases known with
    | amongTexts member => exact texts _ member
    | amongNumbers member => exact numbers _ member
  obtain ⟨-, loads, -⟩ := layers_are_loaded holds typed
  have loaded : load file env = .ok repaired := by decide +kernel
  have fails : (load file (.of [])).toOption = none := by decide +kernel
  refine ⟨fun s loaded' => ?_, loaded, members, holds, typed, (loads env repaired).mp loaded⟩
  rw [loaded'] at fails
  cases fails

/-- A file that is loaded has a text with a value. -/
theorem exists_value_of_load {bytes : List UInt8} {text : String}
    (decodes : Utf8.decode bytes = .ok text)
    {env : Environment} {s : Settings} (loaded : load (.content bytes) env = .ok s) :
    ∃ v, Json.ofText text = .ok v := by
  -- A file is read as JSON before anything else is done with it.
  obtain ⟨value, reads, -⟩ := Outcome.bind_eq_ok.mp loaded
  simp only [fileValue, decodes] at reads
  cases read : Json.ofText text with
  | ok v => exact ⟨v, rfl⟩
  | error fault => simp [read, orFail, Except.mapError, Functor.map, Except.map] at reads

/-- A file is not loaded if a number in it is too large, though it has nothing but a member that is
no setting, and the defaults fit together. -/
theorem large_number_is_not_loaded :
    let text := "\x7b\"x\":1e999\x7d".toList
    ∃ members, (Tree.object members .closed).IsWritten text ∧
      (∀ p ∈ members, p.1.StandsFor "x") ∧
      ({} : Settings).IsConsistent ∧
        ∀ env s, load (.content (text.map fun c => c.toNat.toUInt8)) env ≠ .ok s := by
  intro text
  -- The text is written from the tree of a number that is no double.
  have number : Numeral.IsWritten ⟨false, ['1'], none, some (false, ['9', '9', '9'])⟩
      ['1', 'e', '9', '9', '9'] :=
    .parts ⟨⟨by simp, by simp⟩, by simp, by simp, by simp [IsDigits]⟩ (.bare (.inl rfl))
  have key : Spelling.IsKey ⟨[.plain 'x'], .closed⟩ ['"', 'x', '"'] :=
    .mk [] [] (@Spelling.isWritten_plain ['x'] (by simp)) (by simp) (by simp)
  have written : (Tree.object [(⟨[.plain 'x'], .closed⟩, .numeral _)] .closed).IsWritten text :=
    .object [((_, _), ['"', 'x', '"'], ['1', 'e', '9', '9', '9'])] [] (by simp)
      (List.forall_mem_singleton.mpr key)
      (List.forall_mem_singleton.mpr (.numeral number))
  have name : Spelling.read ⟨[.plain 'x'], .closed⟩ = .ok "x" := rfl
  -- No double is as large as the number.
  have tooLarge : Numeral.read ⟨false, ['1'], none, some (false, ['9', '9', '9'])⟩ = none := by
    have size : Numeral.digitsValue ['9', '9', '9'] = 999 := by decide
    have one : Double.ofNat? 1 = some ⟨false, 4503599627370496, -52⟩ := by decide
    have far : Numeral.scaleFrom ⟨false, 4503599627370496, -52⟩ 999 = none := by
      rw [Numeral.scaleFrom]
      decide
    simp [Numeral.read, Numeral.absorb, Numeral.assemble, size, one, far, Numeral.digitValue]
  have consistent : ({} : Settings).IsConsistent := conflict?_eq_none.mp (by decide)
  -- To load the file, its text would have to be read to a value, and so would the number.
  refine ⟨_, written, List.forall_mem_singleton.mpr (Spelling.read_eq_ok.mp name), consistent,
    fun env s loaded => ?_⟩
  obtain ⟨v, read⟩ := exists_value_of_load (Utf8.decode_ascii (by simp [text])) loaded
  rw [← @String.toList_ofList text] at written
  obtain ⟨stands, shallow⟩ := written.ofText_eq_ok.mp read
  have reads := stands.toJson shallow
  simp [Tree.toJson, Tree.membersToJson, Tree.readNumeral, tooLarge, deeper, name, Functor.map,
    Except.map, bind, Except.bind] at reads

end Settings

end WatchRelay
