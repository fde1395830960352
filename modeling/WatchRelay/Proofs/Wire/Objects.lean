import Mathlib.Data.List.Nodup
import WatchRelay.Proofs.Wire.Codec
import WatchRelay.Proofs.Wire.Frames

/-! A frame that is an object is read by its three fields alone, wherever they stand and whatever
else does. -/

namespace WatchRelay

/-- A word is that of an operation, or it is none's and unknown. -/
theorem Operation.ofWord_cases (word : String) :
    (∃ op ∈ all, op.word = word ∧ ofWord word = op) ∨
      ((∀ op ∈ all, op.word ≠ word) ∧ ofWord word = .unknown) := by
  -- The operation is looked for by its word, and what has none is unknown.
  unfold ofWord
  cases found : all.find? fun o => o.word == word with
  | none =>
    have none' := List.find?_eq_none.mp found
    exact .inr ⟨fun op among same => none' op among (by simpa using same), rfl⟩
  | some op =>
    have named := List.find?_some found
    exact .inl ⟨op, List.mem_of_find?_eq_some found, by simpa using named, rfl⟩

/-- A text names one of the catalog's kinds, or it is none's name and kept as it is. -/
theorem Kind.ofText_cases (text : String) :
    (∃ k : ResourceKind, k.name = text ∧ ofText text = .known k) ∨
      ((∀ k : ResourceKind, k.name ≠ text) ∧ ofText text = .unknown text) := by
  cases found : ResourceKind.ofName? text with
  | some k =>
    have named := List.find?_some found
    exact .inl ⟨k, by simpa using named, by simp [ofText, found]⟩
  | none =>
    refine .inr ⟨fun k same => ?_, by simp [ofText, found]⟩
    -- A kind would have been found by its name.
    rw [← same, ResourceKind.ofName?_name] at found
    cases found

/-- What a tree tells as a field: `null` tells nothing, and a string tells the text it stands
for. -/
inductive Tree.Tells : Tree → Option String → Prop where
  | null : Tells .null none
  | text {s : Spelling} {text : String} (stands : s.StandsFor text) : Tells (.string s) (some text)

namespace Request

/-- What members tell under a name that stands there at most once. -/
inductive Tell (name : String) (members : List (Spelling × Tree)) : Option String → Prop where
  | absent (others : ∀ p ∈ members, ¬ p.1.StandsFor name) : Tell name members none
  | alone {key : Spelling} {value : Tree} {rest : List (Spelling × Tree)} {told : Option String}
      (split : members.Perm ((key, value) :: rest)) (named : key.StandsFor name)
      (tells : value.Tells told)
      (others : ∀ p ∈ rest, ¬ p.1.StandsFor name) : Tell name members told

/-- What a frame asks for that tells an operation, a kind and a project, or leaves them out. -/
def asked (op kind project : Option String) : Request :=
  match op with
  | some "subscribe" => .subscribe (Kind.ofText (kind.getD "")) (project.getD "")
  | some "unsubscribe" => .unsubscribe (Kind.ofText (kind.getD ""))
  | some word => .ignored (Operation.ofWord word)
  | none => .ignored .unknown

/-- A frame asks for what its operation, its kind and its project tell. -/
theorem ofFields_eq_asked (op kind project : Option String) :
    ofFields ((op.map Operation.ofWord).getD .unknown) (kind.getD "") (project.getD "") =
      asked op kind project := by
  unfold asked
  split
  · rfl
  · rfl
  · next word subscribe unsubscribe =>
    -- Any other word is that of another operation, or of none.
    rw [Option.map_some, Option.getD_some]
    rcases Operation.ofWord_cases word with ⟨op, -, named, same⟩ | ⟨-, same⟩
    · rw [same]
      cases op with
      | subscribe => exact absurd named.symm subscribe
      | unsubscribe => exact absurd named.symm unsubscribe
      | _ => rfl
    · rw [same]
      rfl
  · rfl

section

variable {name : String} {members : List (Spelling × Tree)} {told : Option String}

/-- In which order members stand does not matter to what they tell. -/
theorem Tell.perm {members' : List (Spelling × Tree)} (tell : Tell name members told)
    (order : members'.Perm members) : Tell name members' told := by
  -- Who tells is found wherever it stands.
  cases tell with
  | absent others => exact .absent fun p member => others p (order.mem_iff.mp member)
  | alone split named tells others => exact .alone (order.trans split) named tells others

/-- Members under other names do not matter to what members tell. -/
theorem Tell.append {extra : List (Spelling × Tree)} (tell : Tell name members told)
    (others : ∀ p ∈ extra, ¬ p.1.StandsFor name) : Tell name (members ++ extra) told := by
  -- What is added does not tell the name, so the one who tells stays alone.
  have both {rest : List (Spelling × Tree)} (these : ∀ p ∈ rest, ¬ p.1.StandsFor name) :
      ∀ p ∈ rest ++ extra, ¬ p.1.StandsFor name := fun p member =>
    (List.mem_append.mp member).elim (these p) (others p)
  cases tell with
  | absent these => exact .absent (both these)
  | alone split named tells these =>
    exact .alone (split.append_right extra) named tells (both these)

/-- Under a name that stands at most once, every member that has the name tells what the members
tell. -/
theorem Tell.tells {p : Spelling × Tree} (tell : Tell name members told) (member : p ∈ members)
    (named : p.1.StandsFor name) : p.2.Tells told := by
  -- Only one member has the name, and it is the one that tells.
  cases tell with
  | absent others => exact absurd named (others p member)
  | alone split _ tells others =>
    rcases List.mem_cons.mp (split.mem_iff.mp member) with rfl | among
    · exact tells
    · exact absurd named (others p among)

/-- A member that names a field has a key that is read as its name. -/
theorem read_of_named {p : Spelling × Tree} {name : String} (named : named? p = some name) :
    p.1.read = .ok name ∧ name ∈ fieldNames := by
  -- A name that is known was read, and is among those of the fields.
  obtain ⟨spelled, known⟩ := Option.filter_eq_some_iff.mp named
  refine ⟨?_, by simpa using known⟩
  cases read : p.1.read with
  | error fault => simp [read, Except.toOption] at spelled
  | ok text => simpa [read, Except.toOption] using spelled

/-- A name that stands at most once is named by one member at most. -/
theorem Tell.count_le (tell : Tell name members told) :
    (members.filterMap named?).count name ≤ 1 := by
  -- A member that names a field has a key that stands for its name.
  have none' {rest : List (Spelling × Tree)} (others : ∀ p ∈ rest, ¬ p.1.StandsFor name) :
      (rest.filterMap named?).count name = 0 := by
    refine List.count_eq_zero.mpr fun among => ?_
    obtain ⟨p, member, named⟩ := List.mem_filterMap.mp among
    exact others p member (Spelling.read_eq_ok.mp (read_of_named named).1)
  cases tell with
  | absent others => exact (none' others).trans_le (Nat.zero_le 1)
  | alone split _ _ others =>
    rw [(split.filterMap named?).count_eq, List.filterMap_cons]
    split
    · exact (none' others).trans_le (Nat.zero_le 1)
    · rw [List.count_cons, none' others]
      split <;> omega

end

/-- A field that is read leaves what is seen of the others. -/
theorem record_keeps :
    record.Keeps "op" Draft.op ∧ record.Keeps "kind" Draft.kind ∧
    record.Keeps "project" Draft.project := by
  -- Each field puts what it reads in its own place of the draft.
  refine ⟨?_, ?_, ?_⟩ <;>
  · intro f member differ d d' depth t read
    rw [record_fields] at member
    simp only [List.mem_cons, List.not_mem_nil, or_false] at member
    rcases member with rfl | rfl | rfl <;>
    first
    | exact absurd rfl differ
    | obtain ⟨v, -, rfl⟩ := Outcome.map_eq_ok.mp read
      rfl

/-- An operation is read as what its tree tells. -/
theorem reads_op_of_tells {t : Tree} {told : Option String} (tells : t.Tells told) (depth : Nat) :
    Tree.optional Operation.reader depth t = .ok (told.map Operation.ofWord) := by
  -- A word is told by `null` or by a text, and no other shape tells one.
  cases tells with
  | null => rfl
  | text stands =>
    simp [Tree.optional, Operation.reader, Tree.word, Spelling.read_eq_ok.mpr stands, bind,
      Except.bind, Functor.map, Except.map]

/-- A kind and a project are read as what their trees tell. -/
theorem reads_text_of_tells {t : Tree} {told : Option String} (tells : t.Tells told) (depth : Nat) :
    Tree.optional Tree.text depth t = .ok told := by
  -- A text is told by `null` or as it stands.
  cases tells with
  | null => rfl
  | text stands =>
    simp [Tree.optional, Tree.text, Tree.readString, Spelling.read_eq_ok.mpr stands, Functor.map,
      Except.map]

/-- A field that is read into a draft is there behind members with what they tell under its name. -/
theorem Tell.filled {β : Type} {name : String} {members : List (Spelling × Tree)}
    {told : Option String}
    {depth : Nat} {d : Draft} {get : Draft → Option (Option β)} {set : Draft →
      Option β → Draft}
    {tree : TreeReader (Option β)} {json : Json → Except Fault (Option β)} {value : Option β}
    (tell : Tell name members told) (keeps : record.Keeps name get)
    (found : record.field? name = some (.of name true get set tree json)) (fresh : get {} = none)
    (sets : ∀ d v, get (set d v) = some v) (reads : ∀ t, t.Tells told →
      tree depth t = .ok value)
    (unsaid : told = none → value = none) (read : record.readMembers depth {} members = .ok d) :
    (get d).getD none = value := by
  -- Without a member the draft is as it was, and with one the field has read it.
  cases tell with
  | absent others =>
    have kept :=
      keeps.readMembers (fun p member same => others p member (Spelling.read_eq_ok.mp same)) read
    rw [kept, fresh, unsaid rfl]
    rfl
  | @alone key t rest _ split named tells others =>
    obtain ⟨d₀, d₁, own, kept⟩ := keeps.sees split (Spelling.read_eq_ok.mpr named) found
      (fun p member same => others p member (Spelling.read_eq_ok.mp same)) read
    rw [Field.fromTree_of d₀ (reads t tells)] at own
    obtain rfl := Except.ok.inj own
    rw [kept, sets]
    rfl

section

variable {members : List (Spelling × Tree)} {op kind project : Option String}

/-- Members that tell the three fields fit a frame, and none of the fields stands twice. -/
theorem fits_of_tell (keys : ∀ p ∈ members, ∃ name, p.1.StandsFor name)
    (skips : ∀ p ∈ members, p.2.skip = .ok ()) (tellsOp : Tell "op" members op)
    (tellsKind : Tell "kind" members kind) (tellsProject : Tell "project" members project) :
    (∀ p ∈ members, Fits p) ∧ (members.filterMap named?).Nodup := by
  -- What tells something is `null` or a text, which fits every field.
  have word {t : Tree} {told : Option String} (tells : t.Tells told) : t.IsWord ∧ t.IsText := by
    cases tells with
    | null => exact ⟨.null, .null⟩
    | text stands =>
      exact ⟨.string ⟨_, Spelling.read_eq_ok.mpr stands⟩,
        .string ⟨_, Spelling.read_eq_ok.mpr stands⟩⟩
  constructor
  · intro p member
    obtain ⟨name, named⟩ := keys p member
    refine ⟨name, Spelling.read_eq_ok.mpr named, ?_, ?_, fun _ => skips p member⟩
    · rintro rfl
      exact (word (tellsOp.tells member named)).1
    · rintro (rfl | rfl)
      · exact (word (tellsKind.tells member named)).2
      · exact (word (tellsProject.tells member named)).2
  · refine List.nodup_iff_count_le_one.mpr fun name => ?_
    by_cases known : name ∈ fieldNames
    · simp only [fieldNames, List.mem_cons, List.not_mem_nil, or_false] at known
      rcases known with rfl | rfl | rfl
      · exact tellsOp.count_le
      · exact tellsKind.count_le
      · exact tellsProject.count_le
    · -- Only the names of fields are counted.
      refine (List.count_eq_zero.mpr fun among => ?_).trans_le (Nat.zero_le 1)
      obtain ⟨p, -, named⟩ := List.mem_filterMap.mp among
      exact known (read_of_named named).2

/-- The tree of an object is read as what its members ask for. -/
theorem ofTree_asked (whole : ∀ p ∈ members, p.2.Whole)
    (keys : ∀ p ∈ members, ∃ name, p.1.StandsFor name)
    (skips : ∀ p ∈ members, p.2.skip = .ok ()) (tellsOp : Tell "op" members op)
    (tellsKind : Tell "kind" members kind) (tellsProject : Tell "project" members project) :
    record.ofTree depthLimit (.object members .closed) = .ok (asked op kind project) := by
  have deep : 1 < depthLimit - 1 := by decide
  have admits := (admits_iff deep whole).mpr
    (fits_of_tell keys skips tellsOp tellsKind tellsProject)
  obtain ⟨request, reads⟩ :=
    ofTree_object.mpr ⟨admits, (rfl : Tree.objectEnd .closed = .ok ())⟩
  rw [reads]
  -- The three fields of the draft are what the members tell.
  obtain ⟨depth, below, inner⟩ := Outcome.bind_eq_ok.mp reads
  obtain ⟨d, read, behind⟩ := Outcome.bind_eq_ok.mp inner
  obtain ⟨⟨⟩, -, finished⟩ := Outcome.bind_eq_ok.mp behind
  obtain ⟨keepsOp, keepsKind, keepsProject⟩ := record_keeps
  have op' : d.op.getD none = op.map Operation.ofWord :=
    tellsOp.filled keepsOp rfl rfl (fun _ _ => rfl) (fun _ tells => reads_op_of_tells tells depth)
      (fun unsaid => congrArg (Option.map _) unsaid) read
  have kind' : d.kind.getD none = kind :=
    tellsKind.filled keepsKind rfl rfl (fun _ _ => rfl)
      (fun _ tells => reads_text_of_tells tells depth) id read
  have project' : d.project.getD none = project :=
    tellsProject.filled keepsProject rfl rfl (fun _ _ => rfl)
      (fun _ tells => reads_text_of_tells tells depth)
      id read
  have made : request = ofFields ((d.op.getD none).getD .unknown) ((d.kind.getD none).getD "")
      ((d.project.getD none).getD "") := (Except.ok.inj finished).symm
  rw [made, op', kind', project', ofFields_eq_asked]

end

/-- A text of an object whose keys stand for texts and whose members tell an operation, a kind and a
project. -/
structure IsObject (text : String) (members : List (Spelling × Tree))
    (op kind project : Option String) : Prop where
  written : (Tree.object members .closed).IsWritten text.toList
  keys : ∀ p ∈ members, ∃ name, p.1.StandsFor name
  op : Tell "op" members op
  kind : Tell "kind" members kind
  project : Tell "project" members project

/-- An object is read as what its members ask for. -/
theorem IsObject.parse {text : String} {members : List (Spelling × Tree)}
    {op kind project : Option String}
    (object : IsObject text members op kind project) :
    parse text = .ok (asked op kind project) := by
  -- The text is read as the object alone, and each of its members is whole and can be skipped.
  have whole : ∀ p ∈ members, p.2.Whole := by
    cases object.written.whole with
    | object whole => exact whole
  have skips : ∀ p ∈ members, p.2.skip = .ok () := by
    obtain ⟨⟨⟩, inner, -⟩ := Outcome.bind_eq_ok.mp object.written.skip
    exact Tree.skip_of_skipMembers inner
  rw [Request.parse, readText, object.written.ofText]
  have read := ofTree_asked whole object.keys skips object.op object.kind object.project
  simp [read, bind, Except.bind]

/-- An object is read by its three fields alone.

Its text may have blanks around its lexemes and its members in any order.
It is taken if its keys stand for texts and each of the three fields stands at most once.
Each of these is `null` or a string that stands for a text, whatever else stands in the object.

It asks for what the three fields tell.
So neither another order nor members under other names change what is read.

The operation is that of its word, and the kind is known exactly if the text is the name of one. -/
theorem objects_are_read_by_fields :
    (∀ {text : String} {members : List (Spelling × Tree)} {op kind project : Option String},
      IsObject text members op kind project → parse text = .ok (asked op kind project)) ∧
    (∀ {text text' : String} {members members' extra : List (Spelling × Tree)}
      {op kind project : Option String}, IsObject text members op kind project →
      (Tree.object members' .closed).IsWritten text'.toList →
      members'.Perm (members ++ extra) →
      (∀ p ∈ extra, ∃ name, p.1.StandsFor name ∧ name ∉ fieldNames) →
      parse text' = parse text) ∧
    (∀ word, (∃ op ∈ Operation.all, op.word = word ∧ Operation.ofWord word = op) ∨
      ((∀ op ∈ Operation.all, op.word ≠ word) ∧ Operation.ofWord word = .unknown)) ∧
    (∀ text, (∃ k : ResourceKind, k.name = text ∧ Kind.ofText text = .known k) ∨
      ((∀ k : ResourceKind, k.name ≠ text) ∧ Kind.ofText text = .unknown text)) := by
  refine ⟨IsObject.parse, ?_, Operation.ofWord_cases, Kind.ofText_cases⟩
  intro text text' members members' extra op kind project object written order names
  -- What a key stands for is one text, so that a key of another name is none of a field.
  have others {name : String} (field : name ∈ fieldNames) :
      ∀ p ∈ extra, ¬ p.1.StandsFor name := by
    intro p member stands
    obtain ⟨other, stands', unknown⟩ := names p member
    exact unknown (stands.unique stands' ▸ field)
  have object' : IsObject text' members' op kind project := by
    refine ⟨written, fun p member => ?_, ?_, ?_, ?_⟩
    · rcases List.mem_append.mp (order.mem_iff.mp member) with old | new
      · exact object.keys p old
      · obtain ⟨name, stands, -⟩ := names p new
        exact ⟨name, stands⟩
    · exact (object.op.append (others (by decide))).perm order
    · exact (object.kind.append (others (by decide))).perm order
    · exact (object.project.append (others (by decide))).perm order
  rw [object.parse, object'.parse]

/-- A request with an escape in its operation and no kind is read the same behind a member that
holds a numeral too large for a number and a surrogate alone. -/
theorem objects_are_read_by_fields_subscribing :
    parse "\x7b\"op\": \"\\u0073ubscribe\",\"project\":\"p\"\x7d " =
      .ok (.subscribe (.unknown "") "p") ∧
      parse "\x7b\"x\":[1e999,\"\\ud800\"],\"project\":\"p\",\"op\":\"\\u0073ubscribe\"\x7d" =
        parse "\x7b\"op\": \"\\u0073ubscribe\",\"project\":\"p\"\x7d " := by
  obtain ⟨read, unchanged, -, -⟩ := objects_are_read_by_fields
  have key (name : List Char) (plain : ∀ c ∈ name, c ≠ '"' ∧ c ≠ '\\' ∧
    0x20 ≤ c.toNat) :
      Spelling.IsKey ⟨name.map .plain, .closed⟩ ('"' :: (name ++ ['"'])) :=
    .mk [] [] (Spelling.isWritten_plain plain) (by simp) (by simp)
  have op := key ['o', 'p'] (by simp)
  have project := key "project".toList (by simp)
  have name : Tree.IsWritten (.string ⟨[.plain 'p'], .closed⟩) ['"', 'p', '"'] :=
    .string (@Spelling.isWritten_plain ['p'] (by simp))
  -- The first letter of the operation is escaped.
  have zero : IsHexDigit '0' 0 := .decimal (n := 0) (by decide)
  have subscribe :
    Tree.IsWritten (.string ⟨.unit 0x73 :: "ubscribe".toList.map .plain, .closed⟩)
      "\"\\u0073ubscribe\"".toList :=
    .string (.cons (.unit zero zero (.decimal (n := 7) (by decide)) (.decimal (n := 3) (by decide)))
      (Spelling.isWritten_plain (by simp)))
  have number : Numeral.IsWritten ⟨false, ['1'], none, some (false, ['9', '9', '9'])⟩
      ['1', 'e', '9', '9', '9'] :=
    .parts ⟨⟨by simp, by simp⟩, by simp, by simp, by simp [IsDigits]⟩ (.bare (.inl rfl))
  have surrogate : Tree.IsWritten (.string ⟨[.unit 0xd800], .closed⟩) "\"\\ud800\"".toList :=
    .string
      (.cons (.unit (.lower (n := 3) (by decide)) (.decimal (n := 8) (by decide)) zero zero) .nil)
  have others :
      Tree.IsWritten (.array [.numeral _, .string _] .closed) "[1e999,\"\\ud800\"]".toList :=
    .array [(_, _), (_, "\"\\ud800\"".toList)] [] (by simp)
      (List.forall_mem_cons.mpr ⟨.numeral number, List.forall_mem_singleton.mpr surrogate⟩)
  -- The keys are those of two fields.
  have op' : Spelling.StandsFor ⟨[.plain 'o', .plain 'p'], .closed⟩ "op" :=
    Spelling.read_eq_ok.mp rfl
  have project' : Spelling.StandsFor ⟨"project".toList.map .plain, .closed⟩ "project" :=
    Spelling.read_eq_ok.mp rfl
  have object : IsObject "\x7b\"op\": \"\\u0073ubscribe\",\"project\":\"p\"\x7d "
      [(⟨[.plain 'o', .plain 'p'], .closed⟩,
        .string ⟨.unit 0x73 :: "ubscribe".toList.map .plain, .closed⟩),
        (⟨"project".toList.map .plain, .closed⟩, .string ⟨[.plain 'p'], .closed⟩)]
      (some "subscribe") none (some "p") := by
    refine ⟨?_, ?_, ?_, ?_, ?_⟩
    · refine .padded [] [' '] (.object
        [((_, _), _, ' ' :: "\"\\u0073ubscribe\"".toList), ((_, _), _, ['"', 'p', '"'])] []
        (by simp) (List.forall_mem_cons.mpr ⟨op, List.forall_mem_singleton.mpr project⟩)
        (List.forall_mem_cons.mpr ⟨?_, List.forall_mem_singleton.mpr name⟩)) (by simp)
        (List.forall_mem_singleton.mpr rfl)
      exact .padded [' '] [] subscribe (List.forall_mem_singleton.mpr rfl) (by simp)
    · exact List.forall_mem_cons.mpr
        ⟨⟨_, op'⟩, List.forall_mem_singleton.mpr ⟨_, project'⟩⟩
    · exact .alone (.refl _) op' (.text (Spelling.read_eq_ok.mp rfl))
        (List.forall_mem_singleton.mpr fun same => absurd (project'.unique same) (by decide))
    · exact .absent (List.forall_mem_cons.mpr ⟨fun same => absurd (op'.unique same) (by decide),
        List.forall_mem_singleton.mpr fun same => absurd (project'.unique same) (by decide)⟩)
    · exact .alone (.swap _ _ []) project' (.text (Spelling.read_eq_ok.mp rfl))
        (List.forall_mem_singleton.mpr fun same => absurd (op'.unique same) (by decide))
  have object' :
    (Tree.object [(⟨[.plain 'x'], .closed⟩, _), (⟨"project".toList.map .plain, .closed⟩, _),
    (⟨[.plain 'o', .plain 'p'], .closed⟩, _)] .closed).IsWritten
      "\x7b\"x\":[1e999,\"\\ud800\"],\"project\":\"p\",\"op\":\"\\u0073ubscribe\"\x7d".toList :=
    .object
      [((_, _), _, "[1e999,\"\\ud800\"]".toList), ((_, _), _, ['"', 'p', '"']),
        ((_, _), _, "\"\\u0073ubscribe\"".toList)] [] (by simp)
      (List.forall_mem_cons.mpr ⟨key ['x'] (by simp),
        List.forall_mem_cons.mpr ⟨project, List.forall_mem_singleton.mpr op⟩⟩)
      (List.forall_mem_cons.mpr
        ⟨others, List.forall_mem_cons.mpr ⟨name, List.forall_mem_singleton.mpr subscribe⟩⟩)
  -- The members stand the other way round, and the third is another one.
  refine ⟨read object, unchanged object object'
    (show List.Perm _ ([_, _] ++ [_]) from List.reverse_perm [_, _, _])
    (List.forall_mem_singleton.mpr ⟨"x", Spelling.read_eq_ok.mp rfl, by decide⟩)⟩

/-- An object whose only key is a surrogate alone is not read, though it tells none of the
fields. -/
theorem surrogate_key_is_not_read :
    ∃ members, (Tree.object members .closed).IsWritten "\x7b\"\\ud800\":1\x7d".toList ∧
      Tell "op" members none ∧
      Tell "kind" members none ∧ Tell "project" members none ∧
      ∀ request, parse "\x7b\"\\ud800\":1\x7d" ≠ .ok request := by
  have zero : IsHexDigit '0' 0 := .decimal (n := 0) (by decide)
  have surrogate : Spelling.IsWritten [.unit 0xd800] ['\\', 'u', 'd', '8', '0', '0'] :=
    .cons (.unit (.lower (n := 3) (by decide)) (.decimal (n := 8) (by decide)) zero zero) .nil
  have one : Numeral.IsWritten ⟨false, ['1'], none, none⟩ ['1'] :=
    .parts ⟨⟨by simp, by simp⟩, by simp, by simp, by simp⟩ .absent
  -- A surrogate alone stands for no text.
  have nameless (name : String) :
      ∀ p ∈
        [((⟨[.unit 0xd800], .closed⟩ : Spelling), Tree.numeral ⟨false, ['1'], none, none⟩)],
        ¬ p.1.StandsFor name := by
    refine List.forall_mem_singleton.mpr fun stands => ?_
    cases Spelling.read_eq_ok.mpr stands
  refine ⟨_, .object [((_, _), "\"\\ud800\"".toList, ['1'])] [] (by simp)
    (List.forall_mem_singleton.mpr (.mk [] [] surrogate (by simp) (by simp)))
    (List.forall_mem_singleton.mpr (.numeral one)), .absent (nameless _), .absent (nameless _),
    .absent (nameless _), fun request reads => ?_⟩
  have fails : (parse "\x7b\"\\ud800\":1\x7d").toOption = none := by decide +kernel
  rw [reads] at fails
  cases fails

end Request

end WatchRelay
