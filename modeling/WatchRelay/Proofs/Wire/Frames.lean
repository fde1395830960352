import WatchRelay.Connection.Receiver
import WatchRelay.Proofs.Json.Records

/-! Which texts a client may send: an object with the three fields of a frame, or an array of
them. -/

namespace WatchRelay

/-- A string that is spelled without a fault. -/
def Spelling.IsSound (s : Spelling) : Prop := ∃ text, s.read = .ok text

namespace Tree

/-- A tree that reads as a text, or as none: `null` or a string. -/
inductive IsText : Tree → Prop where
  | null : IsText .null
  | string {s : Spelling} (sound : s.IsSound) : IsText (.string s)

/-- A tree that reads as a word, or as none: `null`, a string, or an object whose only key is the
word and whose only value is `null`. -/
inductive IsWord : Tree → Prop where
  | null : IsWord .null
  | string {s : Spelling} (sound : s.IsSound) : IsWord (.string s)
  | key {s : Spelling} (sound : s.IsSound) : IsWord (.object [(s, .null)] .closed)

end Tree

namespace Request

/-- The operation is read from a word. -/
theorem reads_word {depth : Nat} {t : Tree} (word : t.IsWord) (deep : 1 < depth) :
    ∃ op, Tree.optional Operation.reader depth t = .ok op := by
  -- A word stands as a text, or as the one key of an object.
  cases word with
  | null => exact ⟨none, rfl⟩
  | @string s sound =>
    obtain ⟨text, spelled⟩ := sound
    refine ⟨some (Operation.ofWord text), ?_⟩
    simp [Tree.optional, Operation.reader, Tree.word, spelled, bind, Except.bind, Functor.map,
      Except.map]
  | @key s sound =>
    obtain ⟨text, spelled⟩ := sound
    refine ⟨some (Operation.ofWord text), ?_⟩
    have below : deeper depth = .ok (depth - 1) := if_neg (by omega)
    simp [Tree.optional, Operation.reader, Tree.word, Tree.unit, Tree.wordEnd, below, spelled, bind,
      Except.bind, Functor.map, Except.map]

/-- A whole tree from which an operation is read is a word. -/
theorem word_of_reads {depth : Nat} {t : Tree} (whole : t.Whole) {op : Option Operation}
    (reads : Tree.optional Operation.reader depth t = .ok op) : t.IsWord := by
  -- What is read is `null`, or it has one of the shapes a word has.
  unfold Tree.optional at reads
  split at reads
  · exact .null
  · cases reads
  · obtain ⟨inner, first, -⟩ := Outcome.map_eq_ok.mp reads
    rcases Tree.shape_of_word first with ⟨s, text, rfl, spelled, -⟩ |
      ⟨key, text, stop, rfl, -, spelled, -⟩
    · exact .string ⟨text, spelled⟩
    · cases whole
      exact .key ⟨text, spelled⟩

/-- A text is read from what is one. -/
theorem reads_text {depth : Nat} {t : Tree} (text : t.IsText) :
    ∃ content, Tree.optional Tree.text depth t = .ok content := by
  -- A text is read as it is spelled.
  cases text with
  | null => exact ⟨none, rfl⟩
  | @string s sound =>
    obtain ⟨content, spelled⟩ := sound
    exact ⟨some content, by simp [Tree.optional, Tree.text, Tree.readString, spelled, Functor.map,
      Except.map]⟩

/-- A tree from which a text is read is one. -/
theorem text_of_reads {depth : Nat} {t : Tree} {content : Option String}
    (reads : Tree.optional Tree.text depth t = .ok content) : t.IsText := by
  -- What is read is `null`, or it is a text.
  unfold Tree.optional at reads
  split at reads
  · exact .null
  · cases reads
  · obtain ⟨inner, first, -⟩ := Outcome.map_eq_ok.mp reads
    cases t with
    | string s => exact .string ⟨inner, first⟩
    | _ => cases first

/-- The operation of a frame as a field. -/
def opField : Field Draft :=
  .of "op" true (·.op) (fun d v => { d with op := some v })
    (Tree.optional Operation.reader) (fun _ => .error .expectedValue)

/-- The kind of a frame as a field. -/
def kindField : Field Draft :=
  .of "kind" true (·.kind) (fun d v => { d with kind := some v })
    (Tree.optional Tree.text) (fun v => some <$> v.text)

/-- The project of a frame as a field. -/
def projectField : Field Draft :=
  .of "project" true (·.project) (fun d v => { d with project := some v })
    (Tree.optional Tree.text) (fun v => some <$> v.text)

theorem record_fields : record.fields = [opField, kindField, projectField] := rfl

/-- The fields of a frame do not get into each other's way. -/
theorem record_apart : record.Apart where
  -- Each field is read into a place of its own, whatever the others have read.
  own f member d d' depth t read := by
    rw [record_fields] at member
    simp only [List.mem_cons, List.not_mem_nil, or_false] at member
    rcases member with rfl | rfl | rfl <;>
    · obtain ⟨v, -, rfl⟩ := Outcome.map_eq_ok.mp read
      rfl
  others f member g member' differ d d' depth t read := by
    rw [record_fields] at member member'
    simp only [List.mem_cons, List.not_mem_nil, or_false] at member member'
    rcases member with rfl | rfl | rfl <;> rcases member' with rfl | rfl | rfl <;>
    first
    | exact absurd rfl differ
    | obtain ⟨v, -, rfl⟩ := Outcome.map_eq_ok.mp read
      rfl
  alike f member depth t reads d := by
    obtain ⟨d₀, d₁, read⟩ := reads
    rw [record_fields] at member
    simp only [List.mem_cons, List.not_mem_nil, or_false] at member
    rcases member with rfl | rfl | rfl <;>
    · obtain ⟨v, value, -⟩ := Outcome.map_eq_ok.mp read
      exact ⟨_, Outcome.map_eq_ok.mpr ⟨v, value, rfl⟩⟩

/-- The names of the fields of a frame. -/
def fieldNames : List String := ["op", "kind", "project"]

/-- The field of a frame that a member names, if it names one. -/
def named? (p : Spelling × Tree) : Option String := p.1.read.toOption.filter (· ∈ fieldNames)

/-- What a member of a frame may be: an operation is a word, a kind and a project are texts, and
under any other name stands any value. -/
def Fits (p : Spelling × Tree) : Prop :=
  ∃ name, p.1.read = .ok name ∧ (name = "op" → p.2.IsWord) ∧
    (name = "kind" ∨ name = "project" → p.2.IsText) ∧
    (name ∉ fieldNames → p.2.skip = .ok ())

/-- The trees of frames: an object in which each field stands at most once, or an array of at most
the three fields in their order. -/
inductive IsFrame : Tree → Prop where
  | object {members : List (Spelling × Tree)} (fits : ∀ p ∈ members, Fits p)
      (once : (members.filterMap named?).Nodup) : IsFrame (.object members .closed)
  | array {items : List Tree} (few : items.length ≤ 3) (op : ∀ t ∈ items[0]?, t.IsWord)
      (kind : ∀ t ∈ items[1]?, t.IsText) (project : ∀ t ∈ items[2]?, t.IsText) :
      IsFrame (.array items .closed)

/-- The field of a frame with a name. -/
theorem field?_eq (name : String) : record.field? name =
    if name = "op" then some opField else if name = "kind" then some kindField
    else if name = "project" then some projectField else none := by
  -- A field is found by its name.
  have named (f : Field Draft) (text : String) (own : f.name = text) :
      (f.name == name) = decide (name = text) := by
    rw [own, Bool.eq_iff_iff, beq_iff_eq, decide_eq_true_iff]
    exact eq_comm
  rw [Record.field?, record_fields, List.find?_cons, List.find?_cons, List.find?_cons,
    List.find?_nil, named opField "op" rfl, named kindField "kind" rfl,
    named projectField "project" rfl]
  by_cases op : name = "op"
  · simp [op]
  by_cases kind : name = "kind"
  · simp [kind]
  by_cases project : name = "project" <;> simp [op, kind, project]

/-- A member names a field of a frame exactly if it has one of the three names. -/
theorem known?_eq (p : Spelling × Tree) : record.known? p = named? p := by
  unfold Record.known? named?
  -- The three names are those that are looked for, so each of them is told apart.
  congr 1
  funext name
  rw [field?_eq, Bool.eq_iff_iff, decide_eq_true_iff]
  by_cases op : name = "op"
  · simp [op, fieldNames]
  by_cases kind : name = "kind"
  · simp [kind, fieldNames]
  by_cases project : name = "project" <;> simp [op, kind, project, fieldNames]

/-- An operation can be read as a field from a whole tree exactly if it is a word. -/
theorem reads_op {depth : Nat} (deep : 1 < depth) {t : Tree} (whole : t.Whole) :
    opField.Reads depth t ↔ t.IsWord :=
  (Field.reads_of {}).trans
    ⟨fun ⟨_, reads⟩ => word_of_reads whole reads, fun word => reads_word word deep⟩

/-- A kind or a project can be read as a field exactly from what is a text. -/
theorem reads_of_text {depth : Nat} {t : Tree} :
    (kindField.Reads depth t ↔ t.IsText) ∧ (projectField.Reads depth t ↔ t.IsText) := by
  -- Both fields hold a text, and what is read does not depend on where it is put.
  have text : (∃ content, Tree.optional Tree.text depth t = .ok content) ↔ t.IsText :=
    ⟨fun ⟨_, reads⟩ => text_of_reads reads, reads_text⟩
  exact ⟨(Field.reads_of {}).trans text, (Field.reads_of {}).trans text⟩

/-- A word or a text stands behind a colon. -/
theorem colon_of_shape {t : Tree} (shape : t.IsWord ∨ t.IsText) (met : Option Lexeme) :
    t ≠ .noColon met := by
  rintro rfl
  rcases shape with shape | shape <;> cases shape

/-- A member with a whole value is taken exactly if it fits. -/
theorem takes_iff {depth : Nat} (deep : 1 < depth) {p : Spelling × Tree} (whole : p.2.Whole) :
    record.Takes depth p ↔ Fits p := by
  unfold Record.Takes Fits
  refine exists_congr fun name => and_congr_right fun _ => ?_
  rw [field?_eq]
  -- The name decides which of the three fields it is, if it is one.
  by_cases op : name = "op"
  · subst op
    simp only [if_true, reads_op deep whole]
    exact ⟨fun ⟨_, word⟩ => ⟨fun _ => word, by simp, by simp [fieldNames]⟩,
      fun ⟨word, _⟩ => ⟨colon_of_shape (.inl (word trivial)), word trivial⟩⟩
  by_cases kind : name = "kind"
  · subst kind
    simp only [if_neg op, if_true, reads_of_text.1]
    exact ⟨fun ⟨_, text⟩ => ⟨by simp, fun _ => text, by simp [fieldNames]⟩,
      fun ⟨_, text, _⟩ =>
        ⟨colon_of_shape (.inr (text (.inl trivial))), text (.inl trivial)⟩⟩
  by_cases project : name = "project"
  · subst project
    simp only [if_neg op, if_neg kind, if_true, reads_of_text.2]
    exact ⟨fun ⟨_, text⟩ => ⟨by simp, fun _ => text, by simp [fieldNames]⟩,
      fun ⟨_, text, _⟩ =>
        ⟨colon_of_shape (.inr (text (.inr trivial))), text (.inr trivial)⟩⟩
  · simp [op, kind, project, fieldNames]

/-- The members of an object with whole values are read exactly if each fits and no field stands
twice. -/
theorem admits_iff {depth : Nat} (deep : 1 < depth) {members : List (Spelling × Tree)}
    (whole : ∀ p ∈ members, p.2.Whole) :
    record.Admits depth {} members ↔
    (∀ p ∈ members, Fits p) ∧ (members.filterMap named?).Nodup := by
  have known : record.known? = named? := funext known?_eq
  -- What a field reads has the shape it asks for, and each name is met at most once.
  constructor
  · rintro ⟨takes, once, -⟩
    rw [known] at once
    exact ⟨fun p member => (takes_iff deep (whole p member)).mp (takes p member), once⟩
  · rintro ⟨fits, once⟩
    refine ⟨fun p member => (takes_iff deep (whole p member)).mpr (fits p member), ?_, ?_⟩
    · rwa [known]
    · -- Nothing is read yet.
      intro name _ f found
      obtain ⟨among, -⟩ := Record.field?_some found
      rw [record_fields] at among
      simp only [List.mem_cons, List.not_mem_nil, or_false] at among
      rcases among with rfl | rfl | rfl <;> rfl

/-- The ends of an array behind its last item. -/
theorem itemsEnd_ok {rest : List Tree} {stop : Stop} (ends : Record.itemsEnd rest stop = .ok ()) :
    rest = [] ∧ (stop = .closed ∨ stop = .broken) := by
  -- Nothing may be left, and the list may not stop at an item.
  cases rest with
  | nil =>
    cases stop with
    | closed => exact ⟨rfl, .inl rfl⟩
    | broken => exact ⟨rfl, .inr rfl⟩
    | item met => cases met <;> cases ends
    | _ => cases ends
  | cons _ _ =>
    cases stop with
    | item met => cases met <;> cases ends
    | _ => cases ends

/-- A frame is read from an object exactly if its members are admitted and nothing is missing behind
them. -/
theorem ofTree_object {members : List (Spelling × Tree)} {stop : Stop} :
    (∃ request, record.ofTree depthLimit (.object members stop) = .ok request) ↔
      record.Admits (depthLimit - 1) {} members ∧ Tree.objectEnd stop = .ok () := by
  rw [← Record.readMembers_isOk_iff record_apart]
  -- The members are read one level below the object, and then its end.
  constructor
  · rintro ⟨request, reads⟩
    obtain ⟨depth, below, inner⟩ := Outcome.bind_eq_ok.mp reads
    cases below
    obtain ⟨d, members, behind⟩ := Outcome.bind_eq_ok.mp inner
    obtain ⟨⟨⟩, ends, -⟩ := Outcome.bind_eq_ok.mp behind
    exact ⟨⟨d, members⟩, ends⟩
  · rintro ⟨⟨d, members⟩, ends⟩
    have below : deeper depthLimit = .ok (depthLimit - 1) := rfl
    obtain ⟨request, finished⟩ : ∃ request, record.finish d = .ok request := ⟨_, rfl⟩
    refine ⟨request, Outcome.bind_eq_ok.mpr
      ⟨_, below, Outcome.bind_eq_ok.mpr ⟨d, members, ?_⟩⟩⟩
    exact Outcome.bind_eq_ok.mpr ⟨(), ends, finished⟩

/-- A frame is read from an array exactly if it has at most three items, each is read as the field
in its place, and nothing is missing behind them. -/
theorem ofTree_array {items : List Tree} {stop : Stop} :
    (∃ request, record.ofTree depthLimit (.array items stop) = .ok request) ↔
      (stop = .closed ∨ stop = .broken) ∧ items.length ≤ 3 ∧
        ∀ p ∈ record.fields.zip items, p.1.Reads (depthLimit - 1) p.2 := by
  have below : deeper depthLimit = .ok (depthLimit - 1) := rfl
  -- The items are read in the order of the fields, and nothing may stand behind them.
  constructor
  · rintro ⟨request, reads⟩
    obtain ⟨depth, below', inner⟩ := Outcome.bind_eq_ok.mp reads
    cases below'
    obtain ⟨⟨d, rest⟩, read, behind⟩ := Outcome.bind_eq_ok.mp inner
    obtain ⟨value, -, last⟩ := Outcome.bind_eq_ok.mp behind
    obtain ⟨⟨⟩, ends, -⟩ := Outcome.bind_eq_ok.mp last
    obtain ⟨none, stops⟩ := itemsEnd_ok ends
    obtain ⟨left, all⟩ := Record.reads_of_readItems read
    -- Nothing is left behind the three fields.
    exact ⟨stops, List.drop_eq_nil_iff.mp (left.symm.trans none), all⟩
  · rintro ⟨stops, few, all⟩
    have ends : Tree.arrayEnd stop = .ok () := by rcases stops with rfl | rfl <;> rfl
    have spare : ∀ f ∈ record.fields, f.optional = true := by
      simp [record_fields, opField, kindField, projectField, Field.of]
    obtain ⟨d, reads⟩ := record_apart.readItems ends (fun _ member => member) spare all 0 {}
    obtain ⟨request, finished⟩ : ∃ request, record.finish d = .ok request := ⟨_, rfl⟩
    have none : items.drop record.fields.length = [] := List.drop_eq_nil_iff.mpr few
    rw [none] at reads
    have last : Record.itemsEnd [] stop = .ok () := by rcases stops with rfl | rfl <;> rfl
    refine ⟨request, Outcome.bind_eq_ok.mpr
      ⟨_, below, Outcome.bind_eq_ok.mpr ⟨_, reads, ?_⟩⟩⟩
    exact Outcome.bind_eq_ok.mpr ⟨request, finished, Outcome.bind_eq_ok.mpr ⟨(), last, rfl⟩⟩

/-- Whole items are read as the fields in their places exactly if they are a word and two texts. -/
theorem reads_zip {depth : Nat} (deep : 1 < depth) {items : List Tree}
    (whole : ∀ t ∈ items, t.Whole) :
    (∀ p ∈ record.fields.zip items, p.1.Reads depth p.2) ↔
      (∀ t ∈ items[0]?, t.IsWord) ∧ (∀ t ∈ items[1]?, t.IsText) ∧
      ∀ t ∈ items[2]?, t.IsText := by
  rw [record_fields]
  -- The places are told apart one by one.
  rcases items with _ | ⟨a, _ | ⟨b, _ | ⟨c, rest⟩⟩⟩
  · simp
  · simp [reads_op deep (whole a (by simp))]
  · simp [reads_op deep (whole a (by simp)), reads_of_text]
  · simp [reads_op deep (whole a (by simp)), reads_of_text]

/-- A field is not read from a tree that breaks off. -/
theorem not_reads_of_broken {f : Field Draft} (own : f ∈ record.fields) {depth : Nat} {t : Tree}
    (broken : t.Broken) : ¬ f.Reads depth t := by
  rintro ⟨d, d', read⟩
  rw [record_fields] at own
  simp only [List.mem_cons, List.not_mem_nil, or_false] at own
  -- A value that breaks off is no word and no text, so it is taken for neither.
  rcases own with rfl | rfl | rfl
  · obtain ⟨op, reads, -⟩ := Outcome.map_eq_ok.mp read
    exact broken.optional_ne_ok depth (fun value => broken.word_ne_ok depth value) op reads
  · obtain ⟨content, reads, -⟩ := Outcome.map_eq_ok.mp read
    exact broken.optional_ne_ok depth (fun value => broken.readString_ne_ok _ value) content reads
  · obtain ⟨content, reads, -⟩ := Outcome.map_eq_ok.mp read
    exact broken.optional_ne_ok depth (fun value => broken.readString_ne_ok _ value) content reads

/-- No frame is read from a tree that breaks off. -/
theorem ofTree_ne_ok_of_broken {t : Tree} (broken : t.Broken) (request : Request) :
    record.ofTree depthLimit t ≠ .ok request := by
  intro reads
  -- The tree breaks off at its own end or at the last value in it, and each of these is refused.
  cases broken with
  | missing met => cases reads
  | noColon met => cases reads
  | arrayStop items cut =>
    obtain ⟨stops, -⟩ := ofTree_array.mp ⟨request, reads⟩
    exact stops.elim cut.1 cut.2
  | @objectStop members stop cut =>
    obtain ⟨-, ends⟩ := ofTree_object.mp ⟨request, reads⟩
    exact (Tree.closed_of_objectEnd ends).elim cut.1 cut.2
  | @lastItem items last broken =>
    -- What breaks off stands in the place of a field.
    obtain ⟨-, few, all⟩ := ofTree_array.mp ⟨request, reads⟩
    rw [List.length_append, List.length_singleton] at few
    have inside : items.length < record.fields.length := few
    refine not_reads_of_broken (List.getElem_mem inside) broken
      (all (record.fields[items.length], _) ?_)
    have place : items.length < (record.fields.zip (items ++ [last])).length := by
      rw [List.length_zip, List.length_append, List.length_singleton]
      omega
    refine List.mem_iff_getElem.mpr ⟨items.length, place, ?_⟩
    rw [List.getElem_zip, List.getElem_concat_length rfl]
  -- The last member is read or skipped, and neither can be done with what breaks off.
  | @lastMember members key last broken =>
    obtain ⟨admits, -⟩ := ofTree_object.mp ⟨request, reads⟩
    obtain ⟨name, -, takes⟩ := admits.takes (key, last) (by simp)
    split at takes
    · next f found => exact not_reads_of_broken (Record.field?_some found).1 broken takes.2
    · exact broken.skip_ne_ok takes

/-- A frame is read from the tree of a text exactly if it is the tree of a frame. -/
theorem ofTree_isOk_iff {t : Tree} (sound : t.Whole ∨ t.Broken) :
    (∃ request, record.ofTree depthLimit t = .ok request) ↔ IsFrame t := by
  have deep : 1 < depthLimit - 1 := by decide
  -- A tree that breaks off is never read. A whole one is read if it is a frame.
  rcases sound with whole | broken
  · cases whole with
    | array whole =>
      rw [ofTree_array, reads_zip deep whole]
      constructor
      · rintro ⟨-, few, op, kind, project⟩
        exact .array few op kind project
      · rintro ⟨⟩
        next few op kind project => exact ⟨.inl rfl, few, op, kind, project⟩
    | object whole =>
      rw [ofTree_object, admits_iff deep whole]
      constructor
      · rintro ⟨⟨fits, once⟩, -⟩
        exact .object fits once
      · rintro ⟨⟩
        next fits once => exact ⟨⟨fits, once⟩, rfl⟩
    -- No other value is a frame.
    | _ => exact ⟨fun ⟨_, reads⟩ => (by cases reads), fun frame => (by cases frame)⟩
  · refine ⟨fun ⟨request, reads⟩ => absurd reads (ofTree_ne_ok_of_broken broken request),
      fun frame => ?_⟩
    -- The tree of a frame is closed.
    cases frame with
    | object _ _ =>
      cases broken with
      | objectStop _ cut => exact absurd rfl cut.1
    | array _ _ _ _ =>
      cases broken with
      | arrayStop _ cut => exact absurd rfl cut.1

/-- A text is read as a request exactly if nothing stands behind its tree and that is the tree of a
frame. -/
theorem parse_isOk_iff (text : String) :
    (∃ request, parse text = .ok request) ↔
      (Tree.ofText text).2 = false ∧ IsFrame (Tree.ofText text).1 := by
  rw [← ofTree_isOk_iff (Tree.ofText_sound text)]
  -- The text is read as one tree, with nothing but gaps behind it.
  constructor
  · rintro ⟨request, reads⟩
    obtain ⟨request', read, behind⟩ := Outcome.bind_eq_ok.mp reads
    split at behind
    · cases behind
    · next alone => exact ⟨Bool.eq_false_iff.mpr alone, request', read⟩
  · rintro ⟨alone, request, read⟩
    refine ⟨request, Outcome.bind_eq_ok.mpr ⟨request, read, ?_⟩⟩
    exact if_neg (Bool.eq_false_iff.mp alone)

/-- A client's text is taken exactly if it is a frame.

A frame is an object in which each of the three fields stands at most once.
It may also be an array of at most the three fields in their order.

The operation is `null`, a string, or the only key of an object with `null` under it.
The kind and the project are `null` or strings.

With any other text that is not too long the receiver fails, and no request comes of it. -/
theorem frames_alone_are_taken (text : String) :
    ((∃ request, parse text = .ok request) ↔
      (Tree.ofText text).2 = false ∧ IsFrame (Tree.ofText text).1) ∧
    (¬ ((Tree.ofText text).2 = false ∧ IsFrame (Tree.ofText text).1) →
      ∀ (r : Receiver) (now deadline : Nat) (rest : List InFrame), r.phase = .reading deadline →
        r.arrived = .text text :: rest → text.utf8ByteSize ≤ r.maxMessageSize →
        ∃ fault, r.step now false =
          some ({ r with arrived := [], phase := .finished .failed },
            some (.malformed fault))) := by
  -- A text that is no frame fails to parse, and the receiver hands this on as its failure.
  refine ⟨parse_isOk_iff text, fun other r now deadline rest reads first short => ?_⟩
  cases parsed : parse text with
  | ok request => exact absurd ((parse_isOk_iff text).mp ⟨request, parsed⟩) other
  | error fault =>
    have failed : (parse text).mapError SessionFailure.malformed = .error (.malformed fault) := by
      rw [parsed]
      rfl
    have means : Receiver.meaning r.maxMessageSize (.text text) = .fault (.malformed fault) := by
      simp [Receiver.meaning, Receiver.meaning.ofDecoded, Receiver.decode,
        Nat.not_lt.mpr short, failed]
    refine ⟨fault, ?_⟩
    simp [Receiver.step, reads, first, means, Receiver.fail, Receiver.finish,
      SessionFailure.isExpected]

/-- The receiver fails at an array of numbers. -/
theorem frames_alone_are_taken_numbers :
    ∃ fault, ({ Receiver.new 0 1000 100 1 with arrived := [.text "[1,2]"] } : Receiver).step 0
      false =
      some ({ Receiver.new 0 1000 100 1 with phase := .finished .failed },
        some (.malformed fault)) := by
  -- The text is a list of numbers, which the parser refuses.
  have fails : (parse "[1,2]").toOption = none := by decide +kernel
  obtain ⟨taken, refused⟩ := frames_alone_are_taken "[1,2]"
  refine refused (fun frame => ?_) _ 0 1000 [] rfl rfl (by decide)
  obtain ⟨request, parses⟩ := taken.mpr frame
  rw [parses] at fails
  cases fails

/-- An array is taken as a request to subscribe. -/
theorem array_is_taken :
    parse "[\"subscribe\",\"Registry\",\"p\"]" = .ok (.subscribe (.known .registry) "p") ∧
      ∃ items, (Tree.ofText "[\"subscribe\",\"Registry\",\"p\"]").1 = .array items .closed := by
  -- The array stands for the fields in their order.
  have reads : (parse "[\"subscribe\",\"Registry\",\"p\"]").toOption =
      some (.subscribe (.known .registry) "p") := by decide +kernel
  refine ⟨?_, _, rfl⟩
  cases parsed : parse "[\"subscribe\",\"Registry\",\"p\"]" with
  | error fault =>
    rw [parsed] at reads
    cases reads
  | ok request =>
    rw [parsed] at reads
    exact congrArg _ (Option.some.inj reads)

end Request

end WatchRelay
