import WatchRelay.Connection.Outlet
import WatchRelay.Connection.Receiver
import WatchRelay.Proofs.Text.Lowercase

/-! Which failures of a transport are the normal end of a connection: those with a sign of it
anywhere among their causes, however deep, and whatever else stands around it. -/

namespace WatchRelay

variable (ends : List Char → List Char → Bool)

namespace Cause

/-- Whether an error tells that the peer has gone: by its kind, or by a phrase in its text in lower
case. -/
def TellsClosure (c : Cause) : Prop :=
  (∃ kind ∈ [ErrorKind.connectionReset, .connectionAborted, .brokenPipe, .unexpectedEof],
    c.kind = some kind) ∨
    ∃ phrase ∈ ["connection closed", "closed connection"],
      phrase.toList <:+: lowercase ends [] c.text.toList

/-- A phrase is found among the ASCII letters in lower case if it stands in the text in lower
case. -/
theorem occursIn_lower (phrase : String)
    (known : phrase ∈ ["connection closed", "closed connection"])
    (text : List Char) :
    occursIn phrase.toList (text.map Char.toLower) = true ↔
    phrase.toList <:+: lowercase ends [] text := by
  -- Both phrases are plain, so lower case is lower case by whatever rule for the end of a word.
  have ascii {part : List Char} (checked : part.all (·.toNat < 0x80) = true) :
      ∀ c ∈ part, c.toNat < 0x80 := by
    simpa using checked
  have plain : IsPlain phrase.toList ∧ phrase.toList ≠ [] := by
    simp only [List.mem_cons, List.not_mem_nil, or_false] at known
    rcases known with rfl | rfl
    · exact ⟨⟨ascii (by decide), by decide, by decide⟩, by decide⟩
    · exact ⟨⟨ascii (by decide), by decide, by decide⟩, by decide⟩
  rw [occursIn_iff, plain.1.infix_lowercase ends plain.2]

/-- The four kinds of a gone peer are those that count as closures. -/
theorem kind_isClosure_iff (c : Cause) : c.kind.any ErrorKind.isClosure = true ↔
    ∃ kind ∈ [ErrorKind.connectionReset, .connectionAborted, .brokenPipe, .unexpectedEof],
      c.kind = some kind := by
  -- Of the kinds of errors these four are the closures.
  cases c.kind with
  | none => simp
  | some kind => cases kind <;> simp [ErrorKind.isClosure]

/-- An error counts as a closure if it tells of one. -/
theorem isClosure_iff (c : Cause) : c.isClosure = true ↔ c.TellsClosure ends := by
  have first := occursIn_lower ends "connection closed" (by simp) c.text.toList
  have second := occursIn_lower ends "closed connection" (by simp) c.text.toList
  -- The sign is the kind of the error, or one of the two phrases in its text.
  simp only [isClosure, TellsClosure, Bool.or_eq_true, kind_isClosure_iff, first, second]
  refine or_congr .rfl ?_
  simp

end Cause

/-- Chains that differ only in errors that are no signs: such errors are put in at any place, taken
out or moved past others. -/
inductive Rewraps (sign : Cause → Prop) : List Cause → List Cause → Prop where
  | same (chain : List Cause) : Rewraps sign chain chain
  | putIn (before after : List Cause) {c : Cause} (neutral : ¬ sign c) :
      Rewraps sign (before ++ after) (before ++ c :: after)
  | takeOut (before after : List Cause) {c : Cause} (neutral : ¬ sign c) :
      Rewraps sign (before ++ c :: after) (before ++ after)
  | swap (before after : List Cause) {c d : Cause} (neutral : ¬ sign c ∨ ¬ sign d) :
      Rewraps sign (before ++ c :: d :: after) (before ++ d :: c :: after)
  | trans {first second third : List Cause} (here : Rewraps sign first second)
      (later : Rewraps sign second third) :
      Rewraps sign first third

/-- A sign stays in a chain, and none comes into it, where other errors are put in, taken out or
moved. -/
theorem Rewraps.sign_iff {sign : Cause → Prop} {chain other : List Cause}
    (rewraps : Rewraps sign chain other) :
    (∃ c ∈ chain, sign c) ↔ ∃ c ∈ other, sign c := by
  -- Each move keeps every cause with the sign, wherever it stands.
  induction rewraps with
  | same => rfl
  | putIn before after neutral => simp [or_and_right, exists_or, neutral]
  | takeOut before after neutral => simp [or_and_right, exists_or, neutral]
  | swap before after => simp [or_and_right, exists_or, or_left_comm]
  | trans _ _ here later => exact here.trans later

namespace SessionFailure

/-- Whether a failure is absorbed: nothing is queued of it, and a receiver that meets it ends as if
the client had said goodbye. -/
def IsAbsorbed (f : SessionFailure) : Prop :=
  (∀ a : Alarms, a.report f = a) ∧ ∀ r : Receiver, (r.fail f).1.phase = .finished .peerClosed

/-- Whether a failure is escalated: it is queued unless the queue is full, and a receiver that meets
it fails. -/
def IsEscalated (f : SessionFailure) : Prop :=
  (∀ a : Alarms, a.report f = if a.queue.length <
    a.capacity then { a with queue := a.queue ++ [f] } else a) ∧
    ∀ r : Receiver, (r.fail f).1.phase = .finished .failed

/-- A failure is absorbed if it is the normal end of a connection. -/
theorem isAbsorbed_iff (f : SessionFailure) : f.IsAbsorbed ↔ f.isExpected = true := by
  constructor
  · intro absorbed
    -- How any receiver ends tells the two apart, even where the queue is full.
    have ended := absorbed.2 (.new 0 0 0 0)
    cases expected : f.isExpected with
    | true => rfl
    | false => simp [Receiver.fail, Receiver.finish, expected] at ended
  · intro expected
    exact ⟨fun a => by simp [Alarms.report, expected],
      fun r => by simp [Receiver.fail, Receiver.finish, expected]⟩

/-- Any other failure is escalated. -/
theorem isEscalated_iff (f : SessionFailure) : f.IsEscalated ↔ f.isExpected = false := by
  constructor
  -- What is escalated ends the receiver, which an expected failure does not.
  · intro escalated
    have ended := escalated.2 (.new 0 0 0 0)
    cases expected : f.isExpected with
    | true => simp [Receiver.fail, Receiver.finish, expected] at ended
    | false => rfl
  · intro unexpected
    exact ⟨fun a => by simp [Alarms.report, unexpected],
      fun r => by simp [Receiver.fail, Receiver.finish, unexpected]⟩

/-- A failure of the transport is the normal end of a connection if some error of its chain tells
so. -/
theorem isExpected_transport (chain : List Cause) :
    (transport chain).isExpected = true ↔ ∃ c ∈ chain, c.TellsClosure ends := by
  simp only [isExpected, List.any_eq_true, Cause.isClosure_iff ends]

/-- A failure of the transport is the normal end just if some error of its chain tells of a closure.

Then it is absorbed, and otherwise it is escalated.

The chain may have any length.
It makes no difference which other errors stand in it, and where. -/
theorem closures_show_through (chain : List Cause) :
    ((transport chain).isExpected = true ↔ ∃ c ∈ chain, c.TellsClosure ends) ∧
    ((transport chain).IsAbsorbed ↔ ∃ c ∈ chain, c.TellsClosure ends) ∧
    ((transport chain).IsEscalated ↔ ¬ ∃ c ∈ chain, c.TellsClosure ends) ∧
    ∀ other, Rewraps (Cause.TellsClosure ends) chain other →
      ((transport chain).IsAbsorbed ↔ (transport other).IsAbsorbed) ∧
        ((transport chain).IsEscalated ↔ (transport other).IsEscalated) := by
  -- A failure is judged by its causes alone.
  have absorbed (chain : List Cause) :
      (transport chain).IsAbsorbed ↔ ∃ c ∈ chain, c.TellsClosure ends :=
    (isAbsorbed_iff _).trans (isExpected_transport ends chain)
  have escalated (chain : List Cause) :
      (transport chain).IsEscalated ↔ ¬ ∃ c ∈ chain, c.TellsClosure ends := by
    rw [isEscalated_iff, ← Bool.not_eq_true, isExpected_transport ends chain]
  refine ⟨isExpected_transport ends chain, absorbed chain, escalated chain,
    fun other rewraps => ?_⟩
  rw [absorbed, absorbed, escalated, escalated, rewraps.sign_iff]
  exact ⟨.rfl, .rfl⟩

/-- A reset that is wrapped once is absorbed however it is wrapped; and a text that becomes no
phrase in lower case is escalated, in front of another error and behind it. -/
theorem closures_show_through_wrapped :
    let never : List Char → List Char → Bool := fun _ _ => false
    let outer : Cause := ⟨none, "websocket error"⟩
    let inner : Cause := ⟨some .other, "bad record"⟩
    let reset : Cause := ⟨some .connectionReset, "reset by peer"⟩
    let dotted : Cause := ⟨none, "CONNECT\u0130ON CLOSED"⟩
    (Rewraps (Cause.TellsClosure never) [outer, reset] [inner, reset, outer] ∧
      (transport [outer, reset]).IsAbsorbed ∧ (transport [inner, reset, outer]).IsAbsorbed) ∧
    Rewraps (Cause.TellsClosure never) [inner, dotted] [dotted, inner] ∧
      (transport [inner, dotted]).IsEscalated ∧ (transport [dotted, inner]).IsEscalated := by
  intro never outer inner reset dotted
  -- None but the reset has the sign. The dotted letter is no letter of the phrase.
  have neutral {c : Cause} (open_ : c.isClosure = false) : ¬ c.TellsClosure never := by
    rw [← Cause.isClosure_iff, open_]
    exact Bool.false_ne_true
  have wrapped : Rewraps (Cause.TellsClosure never) [outer, reset] [inner, reset, outer] :=
    .trans (.swap [] [] (.inl (neutral (by decide))))
      (.putIn [] [reset, outer] (neutral (by decide)))
  have turned : Rewraps (Cause.TellsClosure never) [inner, dotted] [dotted, inner] :=
    .swap [] [] (.inl (neutral (by decide)))
  obtain ⟨-, absorbed, -, same⟩ := closures_show_through never [outer, reset]
  obtain ⟨-, -, escalated, same'⟩ := closures_show_through never [inner, dotted]
  have signed : (transport [outer, reset]).IsAbsorbed :=
    absorbed.mpr ⟨reset, by simp, .inl ⟨.connectionReset, by simp, rfl⟩⟩
  have unsigned : (transport [inner, dotted]).IsEscalated := by
    refine escalated.mpr ?_
    rintro ⟨c, among, tells⟩
    simp only [List.mem_cons, List.not_mem_nil, or_false] at among
    rcases among with rfl | rfl
    · exact neutral (by decide) tells
    · exact neutral (by decide) tells
  exact ⟨⟨wrapped, signed, (same _ wrapped).1.mp signed⟩, turned, unsigned,
    (same' _ turned).2.mp unsigned⟩

end SessionFailure

end WatchRelay
