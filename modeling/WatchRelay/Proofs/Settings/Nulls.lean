import WatchRelay.Proofs.Settings.Defaults

/-! Settings files with nulls in them: where the file is merged into the defaults, a null is as good
as nothing, and where it takes their place, it is a value of the wrong type. -/

namespace WatchRelay

namespace Record

variable {draft α β : Type} {r : Record draft α}

/-- A field cannot be read from what its reader refuses. -/
theorem not_isReadable_of {name : String} {optional : Bool} {get : draft → Option β}
    {set : draft → β → draft}
    {tree : TreeReader β} {read : Json → Except Fault β} {v : Json} {e : Fault}
    (refused : read v = .error e)
    (d : draft) : ¬ IsReadable (Field.of name optional get set tree read) v := by
  -- What is readable is read by the function that refuses it.
  intro readable
  obtain ⟨d', reads⟩ := readable d
  obtain ⟨x, there, -⟩ := Outcome.map_eq_ok.mp reads
  cases refused.symm.trans there

/-- An object is refused if it has a `null` under the name of a field that cannot be `null`. -/
theorem IsSteady.refuses_null (steady : r.IsSteady)
    (typed : ∀ f ∈ r.fields, ¬ IsReadable f .null)
    {members : Members} {name : String} (named : ∃ f ∈ r.fields, f.name = name)
    (null : members.find? name = some .null) : ∃ e, r.ofJson (.object members) = .error e := by
  obtain ⟨f, among, rfl⟩ := named
  exact steady.ofJson_object_refused among null (typed f among)

end Record

namespace Field

variable {draft : Type} {name : String}

/-- A text is no `null`. -/
theorem text_not_null {get : draft → Option String} {set : draft → String → draft}
    (d : draft) :
    ¬ Record.IsReadable (textField name get set) .null := Record.not_isReadable_of rfl d

/-- A number is no `null`. -/
theorem natural_not_null {width : String} {bound : Nat} {get : draft → Option Nat}
    {set : draft → Nat → draft}
    (d : draft) : ¬ Record.IsReadable (naturalField name width bound get set) .null :=
  Record.not_isReadable_of rfl d

end Field

/-- Where to listen is refused with a `null` for one of the settings. -/
theorem ListenSettings.refuses_null {members : Members} {name : String}
    (named : ∃ f ∈ record.fields, f.name = name)
    (null : members.find? name = some .null) :
    ∃ e, record.ofJson (.object members) = .error e := by
  -- None of the three fields takes a null.
  refine isSteady.refuses_null ?_ named null
  simp only [record, List.forall_mem_cons]
  exact ⟨Field.text_not_null {}, Field.natural_not_null {}, Field.text_not_null {}, by simp⟩

/-- Timing and limits are refused with a `null` for one of the settings. -/
theorem ConnectionSettings.refuses_null {members : Members} {name : String}
    (named : ∃ f ∈ record.fields, f.name = name) (null : members.find? name = some .null) :
    ∃ e, record.ofJson (.object members) = .error e := by
  -- None of the five fields takes a null.
  refine isSteady.refuses_null ?_ named null
  simp only [record, List.forall_mem_cons]
  exact ⟨Field.natural_not_null {}, Field.natural_not_null {}, Field.natural_not_null {},
    Field.natural_not_null {}, Field.natural_not_null {}, by simp⟩

/-- What is logged is refused with a `null` for the setting. -/
theorem LoggingSettings.refuses_null {members : Members} {name : String}
    (named : ∃ f ∈ record.fields, f.name = name)
    (null : members.find? name = some .null) :
    ∃ e, record.ofJson (.object members) = .error e := by
  -- The one field takes no null.
  refine isSteady.refuses_null ?_ named null
  simp only [record, List.forall_mem_cons]
  exact ⟨Field.text_not_null {}, by simp⟩

/-- Every setting is a field of its group. -/
theorem Setting.IsKnown.isField {α : Type} {k : Setting α} (known : k.IsKnown) :
    (k.group = "server" ∧ ∃ f ∈ ListenSettings.record.fields, f.name = k.name) ∨
      (k.group = "connection" ∧ ∃ f ∈ ConnectionSettings.record.fields, f.name = k.name) ∨
      (k.group = "logging" ∧ ∃ f ∈ LoggingSettings.record.fields, f.name = k.name) := by
  -- Each of the nine settings is a field of its group.
  cases known with
  | amongTexts member =>
    simp only [texts, List.mem_cons, List.not_mem_nil, or_false] at member
    rcases member with rfl | rfl | rfl <;>
      simp [text, ListenSettings.record, LoggingSettings.record, textField, naturalField, Field.of]
  | amongNumbers member =>
    simp only [numbers, List.mem_cons, List.not_mem_nil, or_false] at member
    rcases member with rfl | rfl | rfl | rfl | rfl | rfl <;>
      simp [number, inRange, ListenSettings.record, ConnectionSettings.record, textField,
        naturalField, Field.of]

namespace Settings

/-- A list of the groups is refused with a `null` for one of the settings of a group. -/
theorem list_refuses_null {items : List Json} {i : Nat} {members : Members}
    (place : items[i]? = some (.object members))
    {α : Type} {k : Setting α} (known : k.IsKnown) (group : Setting.groups[i]? = some k.group)
    (null : members.find? k.name = some .null) : ∃ e, ofJson (.array items) = .error e := by
  -- Each group has one place.
  have at_ {j : Nat} (there : Setting.groups[j]? = some k.group) : i = j :=
    (List.getElem?_inj (List.getElem?_eq_some_iff.mp group).1
      (show Setting.groups.Nodup by decide)).mp
      (group.trans there.symm)
  rcases known.isField with ⟨own, named⟩ | ⟨own, named⟩ | ⟨own, named⟩
  · obtain ⟨e, refused⟩ := ListenSettings.refuses_null named null
    obtain rfl : i = 0 := at_ (own ▸ rfl)
    exact isSteady.ofJson_array_refused rfl place (Record.not_isReadable_of refused {})
  · obtain ⟨e, refused⟩ := ConnectionSettings.refuses_null named null
    obtain rfl : i = 1 := at_ (own ▸ rfl)
    exact isSteady.ofJson_array_refused rfl place (Record.not_isReadable_of refused {})
  · obtain ⟨e, refused⟩ := LoggingSettings.refuses_null named null
    obtain rfl : i = 2 := at_ (own ▸ rfl)
    exact isSteady.ofJson_array_refused rfl place (Record.not_isReadable_of refused {})

/-- A file with a value is loaded as the value is resolved. -/
theorem load_of_fileValue {file : SettingsFile} {v : Json} (holds : fileValue file = .ok (some v))
    (env : Environment) : load file env = resolve (some v) env := by
  rw [load, holds]
  rfl

/-- The value of a file is held in order. -/
theorem isOrdered_of_fileValue {file : SettingsFile} {v : Json}
    (holds : fileValue file = .ok (some v)) :
    v.IsOrdered := by
  -- A file gives a value by its text, which is read to one in order.
  cases file with
  | absent => cases holds
  | directory => cases holds
  | content bytes =>
    simp only [fileValue] at holds
    cases decodes : Utf8.decode bytes with
    | error e =>
      rw [decodes] at holds
      cases holds
    | ok text =>
      rw [decodes] at holds
      obtain ⟨value, read, same⟩ := Outcome.map_eq_ok.mp holds
      cases same
      cases reads : Json.ofText text with
      | error fault =>
        rw [reads] at read
        cases read
      | ok v =>
        rw [reads] at read
        cases read
        exact Json.isOrdered_ofText reads

/-- Values that are read alike over the defaults are resolved alike. -/
theorem resolve_congr {v w : Json}
    (same : ofJson (({} : Settings).toJson.overlay v) = ofJson (({} : Settings).toJson.overlay w))
    (env : Environment) :
    resolve (some v) env = resolve (some w) env := by
  simp only [resolve, same]

/-- Nulls in a settings file are skipped.

A file whose value is no list and not `null` itself is loaded, in every environment, without them.
These are its members that are `null`, at any depth.

A list takes the place of the defaults.
It is loaded as the list without the nulls that are further inside than the members of its items.
Where an item has a `null` for a setting of the group whose place it is in, nothing is loaded. -/
theorem nulls_are_skipped {file : SettingsFile} {v : Json} (holds : fileValue file = .ok (some v))
    (solid : v ≠ .null)
    (env : Environment) :
    ((∀ items, v ≠ .array items) → ∀ other, fileValue other = .ok (some v.dropNulls) →
      load other env = load file env) ∧
      ∀ items, v = .array items →
        (∀ other, fileValue other = .ok (some (.array (items.map Json.dropInnerNulls))) →
          load other env = load file env) ∧
        ∀ (i : Nat) (members : Members), items[i]? = some (.object members) →
          ∀ {α : Type} {k : Setting α}, k.IsKnown → Setting.groups[i]? = some k.group →
            members.find? k.name = some .null →
            ∃ fault, load file env = .error (.json fault) := by
  have ordered := isOrdered_of_fileValue holds
  refine ⟨fun unlisted other cleared => ?_, fun items listed =>
    ⟨fun other cleared => ?_, ?_⟩⟩
  · rw [load_of_fileValue holds, load_of_fileValue cleared]
    refine resolve_congr ?_ env
    cases v with
    | object members =>
      -- Over the defaults, nothing is seen of nulls, and there are none left to take out.
      have cleared := ofJson_laid ordered.dropNulls
      rw [← Json.dropNulls, Json.dropNulls_dropNulls] at cleared
      rw [cleared, ofJson_laid ordered]
    | array items => exact absurd rfl (unlisted items)
    | null => exact absurd rfl solid
    | _ => rfl
  · subst listed
    rw [load_of_fileValue holds, load_of_fileValue cleared]
    -- The list takes the place of the defaults, with the nulls and without.
    have same : ofJson (({} : Settings).toJson.overlay (.array (items.map Json.dropInnerNulls))) =
        ofJson (({} : Settings).toJson.overlay (.array items)) := isBlind.ofJson_array items
    exact resolve_congr same env
  · intro i members place α k known group null
    subst listed
    obtain ⟨fault, refused⟩ := list_refuses_null place known group null
    have merged : ({} : Settings).toJson.overlay (.array items) = .array items := rfl
    refine ⟨fault, ?_⟩
    rw [load_of_fileValue holds]
    simp only [resolve, merged, refused]
    rfl

/-- A file with nulls for settings, for a group and in what is no setting is loaded as without them;
a list with a `null` for a setting in the second of its items is not loaded. -/
theorem nulls_are_skipped_nested :
    let file (text : String) : SettingsFile := .content (text.toList.map fun c => c.toNat.toUInt8)
    let nested :=
      file "\x7b\"logging\":null,\"server\":\x7b\"port\":null\x7d,\"x\":[\x7b\"y\":null\x7d]\x7d"
    let cleared := file "\x7b\"server\":\x7b\x7d,\"x\":[\x7b\x7d]\x7d"
    let listed := file "[\x7b\x7d,\x7b\"pongWaitMs\":null\x7d]"
    (∃ v, v ≠ .null ∧ fileValue nested = .ok (some v) ∧
      fileValue cleared = .ok (some v.dropNulls)) ∧
      load cleared (.of []) = load nested (.of []) ∧
        ∃ fault, load listed (.of []) = .error (.json fault) := by
  intro file nested cleared listed
  -- What the files hold is computed, and the two cases of the theorem are applied to it.
  let v := Json.object [("logging", .null), ("server", .object [("port", .null)]),
    ("x", .array [.object [("y", .null)]])]
  have holds : fileValue nested = .ok (some v) := by decide +kernel
  have without : fileValue cleared = .ok (some v.dropNulls) := by decide +kernel
  let items := [Json.object [], .object [("pongWaitMs", .null)]]
  have lists : fileValue listed = .ok (some (.array items)) := by decide +kernel
  obtain ⟨skips, -⟩ := nulls_are_skipped holds (by simp [v]) (.of [])
  obtain ⟨-, refuses⟩ := nulls_are_skipped lists (by simp) (.of [])
  refine ⟨⟨v, by simp [v], holds, without⟩, skips (by simp [v]) cleared without, ?_⟩
  have known := Setting.IsKnown.amongNumbers (.tail _ (.tail _ (.head _)))
  exact (refuses items rfl).2 1 _ rfl known rfl rfl

/-- A list with a `null` among the members of an item is not loaded, and without it the defaults
are. -/
theorem nulls_in_lists_are_kept :
    let file (text : String) : SettingsFile := .content (text.toList.map fun c => c.toNat.toUInt8)
    let listed := file "[\x7b\"host\":null\x7d]"
    let cleared := file "[\x7b\x7d]"
    ∃ v, fileValue listed = .ok (some v) ∧ fileValue cleared = .ok (some v.dropNulls) ∧
      load listed (.of []) = .error (.json (.invalidType .null "a string")) ∧
        load cleared (.of []) = .ok {} :=
  ⟨.array
    [.object
    [("host",
    .null)]], by decide +kernel, by decide +kernel, by decide +kernel, by decide +kernel⟩

end Settings

end WatchRelay
