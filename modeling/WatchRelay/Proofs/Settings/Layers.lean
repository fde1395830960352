import Mathlib.Data.List.Nodup
import WatchRelay.Settings.Load

/-! The layers that settings come in: the environment over a file over the defaults, one setting at
a time. -/

namespace WatchRelay

/-- A text spells a natural number with decimal digits, at least one, after an optional plus
sign. -/
def Spells (text : String) (n : Nat) : Prop :=
  ∃ ds, (text.toList = ds ∨ text.toList = '+' :: ds) ∧ ds ≠ [] ∧
    (∀ c ∈ ds, c.isDigit = true) ∧
    Nat.ofDigitChars 10 ds 0 = n

/-- One setting: where a file has it and as what, which variable gives it and how, and what it is in
the settings. -/
structure Setting (α : Type) where
  group : String
  name : String
  /-- The value in a file. -/
  toJson : α → Json
  /-- Whether the setting can be that. -/
  fits : α → Prop
  /-- The variable that gives it, if there is one. -/
  variableName : Option String
  /-- What a value of the variable stands for. -/
  spelled : String → α → Prop
  get : Settings → α

namespace Setting

/-- A setting that is a text, as its variable has it. -/
def text (group name variableName : String) (get : Settings → String) : Setting String where
  group := group
  name := name
  toJson := .string
  fits _ := True
  variableName := some variableName
  spelled text v := v = text
  get := get

/-- A setting that is a number below a bound, which no variable gives. -/
def number (group name : String) (bound : Nat) (get : Settings → Nat) : Setting Nat where
  group := group
  name := name
  toJson n := .number (.integer n)
  fits n := n < bound
  variableName := none
  spelled _ _ := False
  get := get

/-- A number that a variable gives within a range. -/
def inRange (k : Setting Nat) (variableName : String) (low high : Nat) : Setting Nat :=
  { k with
    variableName := some variableName
    spelled := fun text n => Spells text n ∧ low ≤ n ∧ n ≤ high }

/-- The settings that are texts. -/
def texts : List (Setting String) :=
  [text "server" "host" "RELAY_HOST" (·.listen.host),
    text "server" "basePath" "RELAY_BASE_PATH" (·.listen.basePath),
    text "logging" "level" "RELAY_LOG_LEVEL" (·.logging.level)]

/-- The settings that are numbers. -/
def numbers : List (Setting Nat) :=
  [(number "server" "port" wordBound (·.listen.port)).inRange "RELAY_PORT" 0 65535,
    (number "connection" "pingIntervalMs" longBound (·.connection.pingInterval)).inRange
      "RELAY_PING_INTERVAL_MS" 100 600000,
    (number "connection" "pongWaitMs" longBound (·.connection.pongWait)).inRange
      "RELAY_PONG_WAIT_MS" 100 3600000,
    (number "connection" "writeWaitMs" longBound (·.connection.writeWait)).inRange
      "RELAY_WRITE_WAIT_MS" 100 600000,
    (number "connection" "maxMessageSize" longBound (·.connection.maxMessageSize)).inRange
      "RELAY_MAX_MESSAGE_SIZE" 256 16777216,
    number "connection" "inboundQueue" longBound (·.connection.inboundQueue)]

/-- The settings there are. -/
inductive IsKnown : {α : Type} → Setting α → Prop where
  | amongTexts {k : Setting String} (member : k ∈ texts) : IsKnown k
  | amongNumbers {k : Setting Nat} (member : k ∈ numbers) : IsKnown k

/-- The names of the groups. -/
def groups : List String := ["server", "connection", "logging"]

end Setting

/-- The members of a group; none, where there is no such group. -/
def Members.group (members : Members) (name : String) : Members :=
  match members.find? name with
  | some (.object inner) => inner
  | _ => []

namespace Setting

variable {α : Type} (k : Setting α)

/-- The compiled value of a setting. -/
def default : α := k.get {}

/-- The environment gives a setting: its variable is set, not empty, and stands for the value. -/
def Given (env : Environment) (v : α) : Prop :=
  ∃ name ∈ k.variableName, ∃ text, env name = some text ∧ text ≠ "" ∧ k.spelled text v

/-- The members of a file give a setting. -/
def IsIn (members : Members) (v : α) : Prop :=
  (members.group k.group).find? k.name = some (k.toJson v)

/-- A setting is absent from a file, or `null`, or something that it can be. -/
def IsTyped (members : Members) : Prop :=
  ∀ v, (members.group k.group).find? k.name = some v → v = .null ∨ ∃ x, k.fits x ∧
    v = k.toJson x

/-- Which value a setting has: what the environment gives, otherwise what the file gives, otherwise
the default. -/
inductive IsLayered (members : Members) (env : Environment) : α → Prop where
  | environment {v : α} (given : k.Given env v) : IsLayered members env v
  | file {v : α} (unset : ∀ w, ¬ k.Given env w) (held : k.IsIn members v) :
      IsLayered members env v
  | default (unset : ∀ w, ¬ k.Given env w) (absent : ∀ w, ¬ k.IsIn members w) :
      IsLayered members env k.default

end Setting

/-- Members in which each group is absent, `null` or an object, and so is each setting or something
it can be. -/
structure Members.IsTyped (members : Members) : Prop where
  groups : ∀ name ∈ Setting.groups, ∀ v, members.find? name = some v → v = .null ∨
    ∃ inner, v = .object inner
  settings : ∀ {α} {k : Setting α}, k.IsKnown → k.IsTyped members

/-- Settings each of which is what the environment, the file or the default makes it. -/
def Settings.IsLayered (members : Members) (env : Environment) (s : Settings) : Prop :=
  ∀ ⦃α⦄ ⦃k : Setting α⦄, k.IsKnown → k.IsLayered members env (k.get s)

/-- A value that a variable does not give: the empty text, or where a number is awaited, one that
spells none in its range. -/
def Environment.IsIgnored (name text : String) : Prop :=
  text = "" ∨ ∃ k ∈ Setting.numbers, k.variableName = some name ∧ ∀ n, ¬ k.spelled text n

/-- An environment without some of the values that another has and its variables do not give. -/
def Environment.IsFreed (env freed : Environment) : Prop :=
  ∀ name, freed name = env name ∨ freed name = none ∧ ∃ text, env name = some text ∧
    IsIgnored name text

namespace Settings

/-- Settings can be put together one by one. -/
theorem exists_of_each {P : {α : Type} → Setting α → α → Prop}
    (each : ∀ {α} {k : Setting α}, k.IsKnown → ∃ v, P k v) :
    ∃ s : Settings, ∀ {α} {k : Setting α}, k.IsKnown → P k (k.get s) := by
  -- The settings are listed, so one value is taken for each of them.
  have texts : ∀ k ∈ Setting.texts, ∃ v, P k v := fun k member => each (.amongTexts member)
  have numbers : ∀ k ∈ Setting.numbers, ∃ v, P k v :=
    fun k member => each (.amongNumbers member)
  simp only [Setting.texts, Setting.numbers, List.forall_mem_cons] at texts numbers
  obtain ⟨⟨host, atHost⟩, ⟨path, atPath⟩, ⟨level, atLevel⟩, -⟩ := texts
  obtain ⟨⟨port, atPort⟩, ⟨ping, atPing⟩, ⟨pong, atPong⟩, ⟨write, atWrite⟩,
      ⟨size, atSize⟩, ⟨queue, atQueue⟩, -⟩ :=
    numbers
  refine ⟨⟨⟨host, port, path⟩, ⟨ping, pong, write, size, queue⟩, ⟨level⟩⟩,
    fun known => ?_⟩
  cases known with
  | amongTexts member =>
    simp only [Setting.texts, List.mem_cons, List.not_mem_nil, or_false] at member
    rcases member with rfl | rfl | rfl <;> assumption
  | amongNumbers member =>
    simp only [Setting.numbers, List.mem_cons, List.not_mem_nil, or_false] at member
    rcases member with rfl | rfl | rfl | rfl | rfl | rfl <;> assumption

/-- Settings that agree one by one are the same. -/
theorem eq_of_each {s s' : Settings} (each : ∀ {α} {k : Setting α}, k.IsKnown →
    k.get s = k.get s') : s = s' := by
  -- The settings are listed, and there is nothing else in the record.
  have texts : ∀ k ∈ Setting.texts, k.get s = k.get s' :=
    fun k member => each (.amongTexts member)
  have numbers : ∀ k ∈ Setting.numbers, k.get s = k.get s' :=
    fun k member => each (.amongNumbers member)
  simp only [Setting.texts, Setting.numbers, List.forall_mem_cons] at texts numbers
  obtain ⟨host, path, level, -⟩ := texts
  obtain ⟨port, ping, pong, write, size, queue, -⟩ := numbers
  obtain ⟨⟨_, _, _⟩, ⟨_, _, _, _, _⟩, ⟨_⟩⟩ := s
  obtain ⟨⟨_, _, _⟩, ⟨_, _, _, _, _⟩, ⟨_⟩⟩ := s'
  cases host; cases path; cases level
  cases port; cases ping; cases pong; cases write; cases size; cases queue
  rfl

end Settings

/-- A row of digits has a number exactly if there are some and all are digits. -/
theorem digitsNatural?_eq_some {ds : List Char} {n : Nat} :
    digitsNatural? ds = some n ↔ ds ≠ [] ∧ (∀ c ∈ ds, c.isDigit = true) ∧
    Nat.ofDigitChars 10 ds 0 = n := by
  -- The value of the digits is the one the library gives them.
  have value : Numeral.digitsValue ds = Nat.ofDigitChars 10 ds 0 := rfl
  have row : (!ds.isEmpty && ds.all Char.isDigit) = true ↔
      ds ≠ [] ∧ ∀ c ∈ ds, c.isDigit = true := by
    simp
  unfold digitsNatural?
  rw [value]
  split
  · next digits =>
    obtain ⟨nonempty, all⟩ := row.mp digits
    exact ⟨fun reads => ⟨nonempty, all, Option.some.inj reads⟩, fun ⟨_, _, same⟩ =>
      congrArg some same⟩
  · next other =>
    constructor
    · intro reads
      cases reads
    · rintro ⟨nonempty, digits, -⟩
      exact absurd (row.mpr ⟨nonempty, digits⟩) other

/-- The digits of a text are those behind the sign, if there is one. -/
theorem naturalOfText?_eq (bound : Nat) (text : String) :
    ∃ ds, (text.toList = '+' :: ds ∨ text.toList = ds ∧ ds.head? ≠ some '+') ∧
      naturalOfText? bound text = (digitsNatural? ds).bind fun n =>
        if n < bound then some n else none := by
  unfold naturalOfText?
  dsimp only
  -- A sign in front is taken off, and what is left is read as digits.
  split
  · next ds signed => exact ⟨ds, .inl signed, rfl⟩
  · next plain =>
    refine ⟨text.toList, .inr ⟨rfl, fun signed => ?_⟩, rfl⟩
    obtain ⟨ds, same⟩ := List.head?_eq_some_iff.mp signed
    exact plain ds same

/-- A text is a number below the bound exactly if it spells it. -/
theorem naturalOfText?_eq_some {bound : Nat} {text : String} {n : Nat} :
    naturalOfText? bound text = some n ↔ Spells text n ∧ n < bound := by
  obtain ⟨ds, sign, eq⟩ := naturalOfText?_eq bound text
  have spelled {n : Nat} : digitsNatural? ds = some n ↔ Spells text n := by
    rw [digitsNatural?_eq_some]
    constructor
    · exact fun row => ⟨ds, sign.symm.imp_left And.left, row⟩
    · rintro ⟨ds', behind, nonempty, digits, value⟩
      -- A sign is no digit, so the row is the same.
      obtain rfl : ds = ds' := by
        rcases sign with signed | ⟨plain, unsigned⟩ <;> rcases behind with plain' | signed'
        · rw [← plain', signed] at digits
          cases digits '+' List.mem_cons_self
        · exact (List.cons.inj (signed.symm.trans signed')).2
        · exact plain.symm.trans plain'
        · rw [plain] at signed'
          rw [signed'] at unsigned
          exact absurd rfl unsigned
      exact ⟨nonempty, digits, value⟩
  rw [eq, Option.bind_eq_some_iff]
  constructor
  · rintro ⟨m, reads, small⟩
    split at small
    · next below =>
      cases small
      exact ⟨spelled.mp reads, below⟩
    · cases small
  · rintro ⟨spells, small⟩
    exact ⟨n, spelled.mpr spells, if_pos small⟩

namespace Environment

variable {env : Environment} {name : String}

/-- A variable has a text exactly if it is set to it and the text is not empty. -/
theorem nonempty?_eq_some {text : String} :
    env.nonempty? name = some text ↔ env name = some text ∧ text ≠ "" := by
  simp [nonempty?, Option.filter_eq_some_iff]

/-- A variable has a number exactly if it spells one in the range. -/
theorem natural?_eq_some {bound low high n : Nat} (fits : high < bound) :
    env.natural? name bound low high = some n ↔
      ∃ text, env name = some text ∧ text ≠ "" ∧ Spells text n ∧ low ≤ n ∧
        n ≤ high := by
  simp only [natural?, naturalInRange?, Option.bind_eq_bind, Option.bind_eq_some_iff,
    nonempty?_eq_some, naturalOfText?_eq_some]
  -- The variable is set to a text that is not empty and spells a number in the range.
  constructor
  · rintro ⟨text, ⟨set, nonempty⟩, m, ⟨spells, -⟩, range⟩
    split at range
    · next within =>
      cases range
      exact ⟨text, set, nonempty, spells, within⟩
    · cases range
  · rintro ⟨text, set, nonempty, spells, range⟩
    exact ⟨text, ⟨set, nonempty⟩, n, ⟨spells, by omega⟩, if_pos range⟩

end Environment

namespace Setting

variable {α : Type} {k : Setting α}

/-- Where the environment gives a setting, it becomes that, and otherwise it stays what it is. -/
structure IsOverridden (k : Setting α) : Prop where
  takes : ∀ {env v}, k.Given env v → ∀ s : Settings, k.get (s.override env) = v
  keeps : ∀ {env}, (∀ v, ¬ k.Given env v) →
    ∀ s : Settings, k.get (s.override env) = k.get s

/-- A setting is overridden if it becomes what is found in the environment, and that is what is
given. -/
theorem isOverridden_of (found? : Environment → Option α)
    (found : ∀ {env v}, found? env = some v ↔ k.Given env v)
    (set : ∀ s env, k.get (Settings.override env s) = (found? env).getD (k.get s)) :
    k.IsOverridden where
  -- What is found is what is given, so it is set, and otherwise nothing is.
  takes given s := by rw [set, found.mpr given, Option.getD_some]
  keeps {env} unset s := by
    have nothing : found? env = none :=
      Option.eq_none_iff_forall_ne_some.mpr fun v something => unset v (found.mp something)
    rw [set, nothing, Option.getD_none]

/-- Every setting is overridden. -/
theorem IsKnown.isOverridden (known : k.IsKnown) : k.IsOverridden := by
  have givenText {group name variableName : String} {get : Settings → String} {env : Environment}
    {v : String} :
      env.nonempty? variableName = some v ↔ (text group name variableName get).Given env v := by
    simp [Given, text, Environment.nonempty?_eq_some]
  have givenNumber {k : Setting Nat} {variableName : String} {bound low high : Nat}
    (fits : high < bound)
      {env : Environment} {v : Nat} :
      env.natural? variableName bound low high = some v ↔
        (k.inRange variableName low high).Given env v := by
    simp [Given, inRange, Environment.natural?_eq_some fits]
  cases known with
  | amongTexts member =>
    simp only [texts, List.mem_cons, List.not_mem_nil, or_false] at member
    rcases member with rfl | rfl | rfl
    all_goals exact isOverridden_of _ givenText fun _ _ => rfl
  | amongNumbers member =>
    simp only [numbers, List.mem_cons, List.not_mem_nil, or_false] at member
    rcases member with rfl | rfl | rfl | rfl | rfl | rfl
    · exact isOverridden_of _ (givenNumber (by decide)) fun _ _ => rfl
    · exact isOverridden_of _ (givenNumber (by decide)) fun _ _ => rfl
    · exact isOverridden_of _ (givenNumber (by decide)) fun _ _ => rfl
    · exact isOverridden_of _ (givenNumber (by decide)) fun _ _ => rfl
    · exact isOverridden_of _ (givenNumber (by decide)) fun _ _ => rfl
    -- No variable gives the room of the queue.
    · refine isOverridden_of (fun _ => none) ?_ fun _ _ => rfl
      simp [Given, number]

/-- A setting of one of the groups, which can be its default: its values are told apart in a file,
and none of them is `null` or an object. -/
structure IsPlain (k : Setting α) : Prop where
  grouped : k.group ∈ groups
  fits : k.fits k.default
  injective : ∀ {v w}, k.toJson v = k.toJson w → v = w
  notNull : ∀ v, k.toJson v ≠ .null
  notObject : ∀ v inner, k.toJson v ≠ .object inner

/-- Every setting is plain. -/
theorem IsKnown.isPlain (known : k.IsKnown) : k.IsPlain := by
  have plainText {group name variableName : String} {get : Settings → String}
    (grouped : group ∈ groups) :
      (text group name variableName get).IsPlain :=
    ⟨grouped, trivial, Json.string.inj, by simp [text], by simp [text]⟩
  have plainNumber {group name : String} {bound : Nat} {get : Settings → Nat}
    (grouped : group ∈ groups)
      (fits : get {} < bound) : (number group name bound get).IsPlain :=
    ⟨grouped, fits, fun same => Int.ofNat.inj
      (Number.integer.inj (Json.number.inj same)), by simp [number], by simp [number]⟩
  -- The variable has no part in it.
  have inRange {k : Setting Nat} (plain : k.IsPlain) {variableName : String} {low high : Nat} :
      (k.inRange variableName low high).IsPlain :=
    ⟨plain.grouped, plain.fits, plain.injective, plain.notNull, plain.notObject⟩
  cases known with
  | amongTexts member =>
    simp only [texts, List.mem_cons, List.not_mem_nil, or_false] at member
    rcases member with rfl | rfl | rfl
    all_goals exact plainText (by decide)
  | amongNumbers member =>
    simp only [numbers, List.mem_cons, List.not_mem_nil, or_false] at member
    rcases member with rfl | rfl | rfl | rfl | rfl | rfl
    · exact inRange (plainNumber (by decide) (by decide))
    · exact inRange (plainNumber (by decide) (by decide))
    · exact inRange (plainNumber (by decide) (by decide))
    · exact inRange (plainNumber (by decide) (by decide))
    · exact inRange (plainNumber (by decide) (by decide))
    · exact plainNumber (by decide) (by decide)

/-- The layers make one value of a setting. -/
theorem IsKnown.unique (known : k.IsKnown) {members : Members} {env : Environment} {v w : α}
    (layered : k.IsLayered members env v) (layered' : k.IsLayered members env w) : v = w := by
  -- Of the three layers only one can apply, and it has one value for the setting.
  cases layered with
  | environment given =>
    cases layered' with
    | environment given' =>
      rw [← known.isOverridden.takes given {}, known.isOverridden.takes given' {}]
    | file unset _ | default unset _ => exact absurd given (unset v)
  | file unset held =>
    cases layered' with
    | environment given' => exact absurd given' (unset w)
    | file _ held' => exact known.isPlain.injective (Option.some.inj (held.symm.trans held'))
    | default _ absent => exact absurd held (absent v)
  | default unset absent =>
    cases layered' with
    | environment given' => exact absurd given' (unset w)
    | file _ held' => exact absurd held' (absent w)
    | default _ _ => rfl

/-- A setting is overridden alike by environments that give the same. -/
theorem IsKnown.override_eq (known : k.IsKnown) {env env' : Environment}
    (alike : ∀ v, k.Given env' v ↔ k.Given env v)
    (s : Settings) : k.get (s.override env') = k.get (s.override env) := by
  obtain ⟨takes, keeps⟩ := known.isOverridden
  -- A setting that is given is set, and any other keeps its value.
  by_cases given : ∃ v, k.Given env v
  · obtain ⟨v, given⟩ := given
    rw [takes given, takes ((alike v).mpr given)]
  · have unset := not_exists.mp given
    rw [keeps unset, keeps fun v given' => unset v ((alike v).mp given')]

/-- No two settings ask for the same variable. -/
theorem variableNames_nodup :
    (texts.map (·.variableName) ++ numbers.map (·.variableName)).Nodup := by
  decide

end Setting

/-- What the layers make of a setting that the environment gives is what it gives. -/
theorem Settings.IsLayered.eq {members : Members} {env : Environment} {s : Settings}
    (layered : IsLayered members env s)
    {α : Type} {k : Setting α} (known : k.IsKnown) {v : α} (given : k.Given env v) :
    k.get s = v :=
  known.unique (layered known) (.environment given)

/-- The layers make one combination of settings. -/
theorem Settings.IsLayered.unique {members : Members} {env : Environment} {s s' : Settings}
    (layered : IsLayered members env s) (layered' : IsLayered members env s') : s = s' :=
  eq_of_each fun known => known.unique (layered known) (layered' known)

namespace Environment

variable {env freed : Environment}

/-- What is left out of an environment is of no use to a setting. -/
theorem IsIgnored.useless {name text : String} (ignored : IsIgnored name text)
    (nonempty : text ≠ "") {α : Type}
    {k : Setting α} (known : k.IsKnown) (asked : k.variableName = some name) (v : α) :
    ¬ k.spelled text v := by
  obtain ⟨-, distinct, apart⟩ := List.nodup_append.mp Setting.variableNames_nodup
  rcases ignored with empty | ⟨k', member', asked', unspelled⟩
  · exact absurd empty nonempty
  · cases known with
    | amongTexts member =>
      -- No number asks for the variable of a text.
      refine absurd ?_ (apart _ (List.mem_map_of_mem member) _ (List.mem_map_of_mem member'))
      rw [asked, asked']
    | amongNumbers member =>
      obtain rfl := List.inj_on_of_nodup_map distinct member member' (asked.trans asked'.symm)
      exact unspelled v

/-- Without values that are not given, an environment gives what it gave. -/
theorem IsFreed.given_iff (frees : env.IsFreed freed) {α : Type} {k : Setting α}
    (known : k.IsKnown) (v : α) :
    k.Given freed v ↔ k.Given env v := by
  -- A variable that was taken away was ignored, so it gave nothing.
  constructor
  · rintro ⟨name, asked, text, set, given⟩
    rcases frees name with same | ⟨unset, -⟩
    · exact ⟨name, asked, text, same ▸ set, given⟩
    · cases unset.symm.trans set
  · rintro ⟨name, asked, text, set, nonempty, spelled⟩
    rcases frees name with same | ⟨-, text', set', ignored⟩
    · exact ⟨name, asked, text, same.trans set, nonempty, spelled⟩
    · obtain rfl : text = text' := Option.some.inj (set.symm.trans set')
      exact absurd spelled (ignored.useless nonempty known asked v)

/-- Values that are not given may as well not be set. -/
theorem IsFreed.override_eq (frees : env.IsFreed freed) (s : Settings) :
    s.override freed = s.override env :=
  Settings.eq_of_each fun known => known.override_eq (frees.given_iff known) s

end Environment

end WatchRelay
