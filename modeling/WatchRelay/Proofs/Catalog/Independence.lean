import WatchRelay.Proofs.Catalog.Chronicle
import WatchRelay.Proofs.Catalog.Streams

/-! Kinds and watches of a catalog do not bear on one another: a kind with one watch of it goes its
own way, whatever is done about other kinds and with other watches. -/

namespace WatchRelay

/-- What is done about a kind, or with a watch of it. -/
inductive Concern where
  | upsert (project : String) (resource : Json)
  | remove (project name : String)
  | read
  | close

/-- How an action concerns a kind and a watch of it, if there is one: not, if it is about another
kind or if it opens, reads or closes another watch. -/
def HubAction.concern? (kind : ResourceKind) (watch : Option Nat) : HubAction → Option Concern
  | .upsert k project resource => if k = kind then some (.upsert project resource) else none
  | .remove k project name => if k = kind then some (.remove project name) else none
  | .read w => if some w = watch then some .read else none
  | .close w => if some w = watch then some .close else none
  | .openWatch _ _ => none

/-- What is answered to an action. -/
inductive HubAnswer where
  | upserted (result : Except CatalogFault Change)
  | removed (result : Except CatalogFault Json)
  | item (item : WatchItem)

namespace Hub

/-- What is answered to an action that concerns a kind and a watch of it. -/
def answer? (h : Hub) (kind : ResourceKind) (watch : Option Nat) : HubAction → Option HubAnswer
  | .upsert k project resource =>
    if k = kind then some (.upserted ((h.upsert k project resource).map (·.1))) else none
  | .remove k project name =>
    if k = kind then some (.removed ((h.remove k project name).map (·.1))) else none
  | .read w => if some w = watch then some (.item (h.read w).1) else none
  | .close _ | .openWatch _ _ => none

/-- What is answered to actions as far as they concern a kind and a watch of it, in order. -/
def answers (kind : ResourceKind) (watch : Option Nat) : Hub → List HubAction → List HubAnswer
  | _, [] => []
  | h, action :: rest =>
    (h.answer? kind watch action).toList ++ answers kind watch (h.act action) rest

end Hub

/-- A feed with one watch of it at most, apart from all others. -/
structure Lane where
  feed : Feed
  watch : Option Watch

namespace Lane

/-- What is answered to one who acts on the feed or the watch. -/
def answer? (l : Lane) (kind : ResourceKind) (room : Nat) : Concern → Option HubAnswer
  | .upsert project resource => some (.upserted ((l.feed.upsert project resource).map (·.1)))
  | .remove project name => some (.removed ((l.feed.remove kind project name).map (·.1)))
  | .read => some (.item (l.watch.elim .ended fun w => (w.next l.feed room).1))
  | .close => none

/-- What acting on the feed or the watch makes of them. -/
def meet (l : Lane) (kind : ResourceKind) (room : Nat) : Concern → Lane
  | .upsert project resource =>
    { l with feed := ((l.feed.upsert project resource).toOption.map (·.2)).getD l.feed }
  | .remove project name =>
    { l with feed := ((l.feed.remove kind project name).toOption.map (·.2)).getD l.feed }
  | .read => { l with watch := l.watch.map fun w => (w.next l.feed room).2 }
  | .close => { l with watch := none }

/-- What is answered to all that concerns the feed and the watch, in order. -/
def answers (kind : ResourceKind) (room : Nat) : Lane → List Concern → List HubAnswer
  | _, [] => []
  | l, c :: rest => (l.answer? kind room c).toList ++ answers kind room (l.meet kind room c) rest

/-- The feed and the watch after all that concerns them. -/
def after (l : Lane) (kind : ResourceKind) (room : Nat) (concerns : List Concern) : Lane :=
  concerns.foldl (fun l c => l.meet kind room c) l

end Lane

namespace Hub

/-- The feed of a kind with a watch of the catalog. -/
def lane (h : Hub) (kind : ResourceKind) (watch : Option Nat) : Lane :=
  ⟨h.feed kind, watch.bind h.watch?⟩

/-- Whether a number was given to a watch, and that is one of a kind. -/
def Holds (h : Hub) (kind : ResourceKind) (watch : Option Nat) : Prop :=
  ∀ id ∈ watch, id < h.nextWatch ∧ ∀ w, h.watch? id = some w → w.request.kind = kind

variable {h h' : Hub} {kind : ResourceKind} {watch : Option Nat}

/-- No action makes a watch one of another kind. -/
theorem Holds.act (holds : h.Holds kind watch) (action : HubAction) :
    (h.act action).Holds kind watch := by
  intro id member
  obtain ⟨known, own⟩ := holds id member
  have acts := h.act_acts kind action
  refine ⟨Nat.lt_of_lt_of_le known acts.frame.2, fun w found => ?_⟩
  by_cases reads : action = .read id
  · -- The watch is asked for the same after it is read.
    rw [reads, Hub.act, watch?_read, if_pos rfl, Option.map_eq_some_iff] at found
    obtain ⟨x, there, rfl⟩ := found
    exact (x.next_request _ _).symm ▸ own x there
  · by_cases closes : action = .close id
    · rw [closes, Hub.act, watch?_close, if_pos rfl] at found
      cases found
    · exact own w ((acts.watch? known reads closes).symm.trans found)

/-- An action is answered to whom it concerns as if there were only the feed and the watch. -/
theorem Holds.answer?_eq (holds : h.Holds kind watch) (action : HubAction) :
    h.answer? kind watch action =
      (action.concern? kind watch).bind ((h.lane kind watch).answer? kind h.room) := by
  -- An action that is no concern of the two is answered elsewhere. The others are answered from the
  -- lane.
  cases action with
  | upsert k project resource =>
    by_cases own : k = kind
    · subst own
      simp only [answer?, HubAction.concern?, if_true, Option.bind_some, Lane.answer?, lane,
        Hub.upsert]
      cases (h.feed k).upsert project resource <;> rfl
    · simp [answer?, HubAction.concern?, own]
  | remove k project name =>
    by_cases own : k = kind
    · subst own
      simp only [answer?, HubAction.concern?, if_true, Option.bind_some, Lane.answer?, lane,
        Hub.remove]
      cases (h.feed k).remove k project name <;> rfl
    · simp [answer?, HubAction.concern?, own]
  | openWatch request credentials => rfl
  | read w =>
    by_cases own : some w = watch
    · subst own
      cases there : h.watch? w with
      | none => simp [answer?, HubAction.concern?, Lane.answer?, lane, Hub.read, there]
      | some x =>
        have kinds := (holds w rfl).2 x there
        simp [answer?, HubAction.concern?, Lane.answer?, lane, read_item there, there, kinds]
    · simp [answer?, HubAction.concern?, own]
  | close w =>
    by_cases own : some w = watch
    · simp [answer?, HubAction.concern?, own, Lane.answer?]
    · simp [answer?, HubAction.concern?, own]

/-- The feed of a kind after a resource is put into some feed. -/
theorem feed_upsert (h : Hub) (k kind : ResourceKind) (project : String) (resource : Json) :
    (h.act (.upsert k project resource)).feed kind =
      if k = kind then (((h.feed k).upsert project resource).toOption.map (·.2)).getD (h.feed k)
      else h.feed kind := by
  -- What is refused leaves the feed, and what is taken is put in the feed of its kind.
  simp only [Hub.act, Hub.upsert]
  cases (h.feed k).upsert project resource with
  | error fault => split <;> simp_all [bind, Except.bind, Except.toOption]
  | ok result => exact feed_set h k kind result.2

/-- The feed of a kind after a resource is taken out of some feed. -/
theorem feed_remove (h : Hub) (k kind : ResourceKind) (project name : String) :
    (h.act (.remove k project name)).feed kind =
      if k = kind then (((h.feed k).remove k project name).toOption.map (·.2)).getD (h.feed k)
      else h.feed kind := by
  -- What is refused leaves the feed, and what is taken is put in the feed of its kind.
  simp only [Hub.act, Hub.remove]
  cases (h.feed k).remove k project name with
  | error fault => split <;> simp_all [bind, Except.bind, Except.toOption]
  | ok result => exact feed_set h k kind result.2

/-- Opening a watch changes no feed. -/
theorem feed_openWatch (h : Hub) (request : WatchRequest) (credentials : Credentials)
    (kind : ResourceKind) : (h.act (.openWatch request credentials)).feed kind = h.feed kind := by
  -- A watch is opened beside the feeds.
  simp only [Hub.act]
  split
  · next opened =>
    obtain ⟨-, rfl⟩ := openWatch_ok opened
    rfl
  · rfl

/-- An action does to a feed and a watch what it does if there are only they, if it concerns them,
and nothing otherwise. -/
theorem Holds.lane_act (holds : h.Holds kind watch) (action : HubAction) :
    (h.act action).lane kind watch =
      (action.concern? kind watch).elim (h.lane kind watch)
        ((h.lane kind watch).meet kind h.room) := by
  -- A watch that is neither read nor closed stays, also where others are opened.
  have stays (unread : ∀ id ∈ watch, action ≠ .read id)
      (unclosed : ∀ id ∈ watch, action ≠ .close id) :
      watch.bind (h.act action).watch? = watch.bind h.watch? := by
    cases watch with
    | none => rfl
    | some id =>
      exact (h.act_acts kind action).watch? (holds id rfl).1 (unread id rfl) (unclosed id rfl)
  cases action with
  | upsert k project resource =>
    rw [lane, stays (by simp) (by simp), feed_upsert, HubAction.concern?]
    -- A change concerns the watch when it is made in its own feed.
    split
    · next own => subst own; rfl
    · rfl
  | remove k project name =>
    rw [lane, stays (by simp) (by simp), feed_remove, HubAction.concern?]
    split
    · next own => subst own; rfl
    · rfl
  | openWatch request credentials =>
    rw [lane, stays (by simp) (by simp), feed_openWatch]
    rfl
  | read w =>
    have feeds : (h.act (.read w)).feed kind = h.feed kind :=
      congrArg (·.get kind) (h.read_frame w).1
    rw [lane, feeds, HubAction.concern?]
    split
    · next own =>
      subst own
      -- The watch is read from the feed of its own kind.
      have found : (h.act (.read w)).watch? w =
          (h.watch? w).map fun x => (x.next (h.feed kind) h.room).2 := by
        rw [Hub.act, watch?_read, if_pos rfl]
        cases there : h.watch? w with
        | none => rfl
        | some x => rw [Option.map_some, Option.map_some, (holds w rfl).2 x there]
      rw [Option.bind_some, found]
      rfl
    · next other =>
      rw [stays (fun id member same => other ?_) (by simp)]
      · rfl
      · cases same
        exact member.symm
  | close w =>
    have feeds : (h.act (.close w)).feed kind = h.feed kind := rfl
    rw [lane, feeds, HubAction.concern?]
    split
    -- Closing is asked of its own number only.
    · next own =>
      subst own
      rw [Option.bind_some, Hub.act, watch?_close, if_pos rfl]
      rfl
    · next other =>
      rw [stays (by simp) fun id member same => other ?_]
      · rfl
      · cases same
        exact member.symm

/-- Actions are answered to whom they concern as if there were only the feed and the watch, and do
to these what they do then. -/
theorem Holds.answers_eq (holds : h.Holds kind watch) (actions : List HubAction) :
    h.answers kind watch actions =
      (h.lane kind watch).answers kind h.room (actions.filterMap (·.concern? kind watch)) ∧
    (h.after actions).lane kind watch =
      (h.lane kind watch).after kind h.room (actions.filterMap (·.concern? kind watch)) := by
  -- The concerns are met one after the other, each from where the one before has led.
  induction actions generalizing h with
  | nil => exact ⟨rfl, rfl⟩
  | cons action rest ih =>
    obtain ⟨answers, lane⟩ := ih (holds.act action)
    have room := (h.act_acts kind action).frame.1
    have after : (h.act action).after rest = h.after (action :: rest) := rfl
    rw [holds.lane_act, room] at answers lane
    rw [after] at lane
    rw [Hub.answers, answers, lane, holds.answer?_eq]
    cases told : action.concern? kind watch with
    | none => simp [told]
    | some c => simp [told, Lane.answers, Lane.after]

/-- A call to change a resource of a kind is refused for what the feed of the kind holds. -/
theorem fault?_congr (feeds : h.feed kind = h'.feed kind) {call : HubAction}
    (own : call.kind? = some kind) : h.fault? call = h'.fault? call := by
  -- A call looks at nothing but the feed of its kind.
  cases call with
  | upsert k project resource =>
    obtain rfl := Option.some.inj own
    simp only [fault?, Hub.upsert, feeds]
    cases (h'.feed k).upsert project resource <;> rfl
  | remove k project name =>
    obtain rfl := Option.some.inj own
    simp only [fault?, Hub.remove, feeds]
    cases (h'.feed k).remove k project name <;> rfl
  | _ => cases own

/-- Without a watch, what concerns a kind is what is to change its resources. -/
theorem concerns_filter (kind : ResourceKind) (actions : List HubAction) :
    (actions.filter (·.kind? = some kind)).filterMap (·.concern? kind none) =
      actions.filterMap (·.concern? kind none) := by
  -- An action on another kind is no concern of this one.
  rw [List.filterMap_filter]
  refine congrArg (List.filterMap · actions) (funext fun action => ?_)
  cases action with
  | upsert k _ _ => by_cases own : k = kind <;> simp [HubAction.kind?, HubAction.concern?, own]
  | remove k _ _ => by_cases own : k = kind <;> simp [HubAction.kind?, HubAction.concern?, own]
  | _ => simp [HubAction.kind?, HubAction.concern?]

/-- A watch is refused if a token is required and there is none, and for no other reason. -/
theorem openWatch_error {request : WatchRequest} {credentials : Credentials}
    {failure : WatchFailure} : h.openWatch request credentials = .error failure ↔
      h.requireToken = true ∧ credentials.bearer = none ∧
        failure = .unauthenticated "bearer token required" := by
  -- A watch is refused only for a token that is missing.
  unfold openWatch
  split
  · next refused =>
    rw [Bool.and_eq_true, Option.isNone_iff_eq_none] at refused
    simp [refused, eq_comm]
  · next granted =>
    rw [Bool.and_eq_true, Option.isNone_iff_eq_none] at granted
    simp only [reduceCtorEq, false_iff]
    exact fun refused => granted ⟨refused.1, refused.2.1⟩

/-- Whether a token is required never changes. -/
theorem after_requireToken (h : Hub) (actions : List HubAction) :
    (h.after actions).requireToken = h.requireToken := by
  -- Whether a token is required is said at the start, and no action changes it.
  induction actions generalizing h with
  | nil => rfl
  | cons action rest ih =>
    refine (ih (h.act action)).trans ?_
    cases action with
    | upsert k project resource =>
      simp only [Hub.act, Hub.upsert]
      cases (h.feed k).upsert project resource <;> rfl
    | remove k project name =>
      simp only [Hub.act, Hub.remove]
      cases (h.feed k).remove k project name <;> rfl
    | openWatch request credentials =>
      simp only [Hub.act]
      split
      · next opened =>
        obtain ⟨-, rfl⟩ := openWatch_ok opened
        rfl
      · rfl
    | read watch =>
      simp only [Hub.act, Hub.read]
      split <;> rfl
    | close watch => rfl

/-- A watch that is opened on its feed is there on it. -/
theorem Fresh.lane_opened (fresh : h.Fresh) {request : WatchRequest} {credentials : Credentials}
    {id : Nat} (opened : h.openWatch request credentials = .ok (id, h')) :
    h'.Holds request.kind (some id) ∧
      h'.lane request.kind (some id) =
        ⟨h.feed request.kind, some ⟨request,
          if request.noReplay then [] else (h.feed request.kind).replay request,
          (h.feed request.kind).log.size, .live⟩⟩ := by
  -- The watch that is opened is the one with the next number, and it looks at the feed of its kind.
  have there := fresh.watch?_opened opened
  obtain ⟨rfl, rfl⟩ := openWatch_ok opened
  refine ⟨fun id member => ?_, ?_⟩
  · obtain rfl := Option.some.inj member
    refine ⟨Nat.lt_succ_self _, fun w found => ?_⟩
    obtain rfl := Option.some.inj (there.symm.trans found)
    rfl
  · rw [lane, Option.bind_some, there]
    rfl

/-- A request for a watch that is taken is taken by every catalog that requires a token if this one
does. -/
theorem openWatch_of_requireToken (same : h.requireToken = h'.requireToken) {request : WatchRequest}
    {credentials : Credentials} {result : Nat × Hub}
    (opens : h.openWatch request credentials = .ok result) :
    ∃ id opened, h'.openWatch request credentials = .ok (id, opened) := by
  cases opens' : h'.openWatch request credentials with
  | ok result => exact ⟨result.1, result.2, rfl⟩
  | error failure =>
    -- The one would be refused for what the other is refused for.
    rw [openWatch_error, ← same, ← openWatch_error, opens] at opens'
    cases opens'

/-- Two watches that open on one feed are answered alike from there on, and so are all calls on
their kind, as long as the same is done about the kind and with them. -/
theorem Fresh.opened_alike (fresh : h.Fresh) (fresh' : h'.Fresh) (room : h.room = h'.room)
    {request : WatchRequest} (feeds : h.feed request.kind = h'.feed request.kind)
    {credentials : Credentials} {id id' : Nat} {opened opened' : Hub}
    (opens : h.openWatch request credentials = .ok (id, opened))
    (opens' : h'.openWatch request credentials = .ok (id', opened')) {later later' : List HubAction}
    (alike : later.filterMap (·.concern? request.kind (some id)) =
      later'.filterMap (·.concern? request.kind (some id'))) :
    opened.answers request.kind (some id) later = opened'.answers request.kind (some id') later' ∧
      (opened.after later).feed request.kind = (opened'.after later').feed request.kind := by
  obtain ⟨holds, lane⟩ := fresh.lane_opened opens
  obtain ⟨holds', lane'⟩ := fresh'.lane_opened opens'
  have lanes : opened.lane request.kind (some id) = opened'.lane request.kind (some id') := by
    rw [lane, lane', feeds]
  have rooms : opened.room = opened'.room := by
    obtain ⟨-, rfl⟩ := openWatch_ok opens
    obtain ⟨-, rfl⟩ := openWatch_ok opens'
    exact room
  -- From one lane the same concerns lead the same way.
  obtain ⟨answers, after⟩ := holds.answers_eq later
  obtain ⟨answers', after'⟩ := holds'.answers_eq later'
  rw [lanes, alike, rooms] at answers after
  exact ⟨answers.trans answers'.symm, congrArg Lane.feed (after.trans after'.symm)⟩

/-- Watches bear on nothing else, and no kind on another.

Two histories may agree in what is done about a kind.
Then every call on the kind is answered alike in both, and its resources are the same.

If a watch of the kind opens in the one, it opens in the other.
It yields the same if the histories agree from there on about the kind and this watch.
How many other watches there are, and how slow they are, makes no difference.

So a call is refused only if it would be refused had nobody ever watched.

The watchers of a kind are the streams of it that were opened and not closed since.
A stream is closed when it is dropped or read to its end.
A watch that is refused for want of a token is none. -/
theorem watches_do_not_interfere (capacity : Nat) (requireToken : Bool) (kind : ResourceKind) :
    let start := empty capacity requireToken
    (∀ before₁ before₂ : List HubAction,
      before₁.filterMap (·.concern? kind none) = before₂.filterMap (·.concern? kind none) →
      start.answers kind none before₁ = start.answers kind none before₂ ∧
      (∀ project, (start.after before₁).list kind project =
        (start.after before₂).list kind project) ∧
      ∀ request credentials watch₁ opened₁, request.kind = kind →
        (start.after before₁).openWatch request credentials = .ok (watch₁, opened₁) →
        ∃ watch₂ opened₂,
          (start.after before₂).openWatch request credentials = .ok (watch₂, opened₂) ∧
          ∀ later₁ later₂ : List HubAction,
            later₁.filterMap (·.concern? kind (some watch₁)) =
              later₂.filterMap (·.concern? kind (some watch₂)) →
            opened₁.answers kind (some watch₁) later₁ =
              opened₂.answers kind (some watch₂) later₂ ∧
            ∀ project, (opened₁.after later₁).list kind project =
              (opened₂.after later₂).list kind project) ∧
    (∀ (actions : List HubAction) (call : HubAction), call.kind? = some kind →
      (start.after actions).fault? call =
        (start.after (actions.filter (·.kind? = some kind))).fault? call) ∧
    ∀ actions : List HubAction,
      (∃ streams : List Nat, streams.Nodup ∧
        (∀ id, id ∈ streams ↔ start.IsStream kind actions id) ∧
        (start.after actions).watchers kind = streams.length) ∧
      ∀ request credentials, requireToken = true → credentials.bearer = none →
        (start.after actions).openWatch request credentials =
          .error (.unauthenticated "bearer token required") ∧
        ((start.after actions).act (.openWatch request credentials)).watchers kind =
          (start.after actions).watchers kind := by
  intro start
  have fresh (actions : List HubAction) : (start.after actions).Fresh :=
    (start.after_frame actions).2.2 fun _ _ => rfl
  have unwatched : start.Holds kind none := fun _ member => by cases member
  -- The feed of the kind hangs on nothing but what is done about the kind.
  have feeds {a b : List HubAction}
      (alike : a.filterMap (·.concern? kind none) = b.filterMap (·.concern? kind none)) :
      (start.after a).feed kind = (start.after b).feed kind := by
    have lanes := (unwatched.answers_eq a).2
    rw [alike, ← (unwatched.answers_eq b).2] at lanes
    exact congrArg Lane.feed lanes
  refine ⟨fun before₁ before₂ alike => ⟨?_, fun project => ?_, ?_⟩,
    fun actions call own => ?_, fun actions =>
      ⟨?_, fun request credentials required missing => ?_⟩⟩
  -- What is answered before the opening hangs on the concerns with the kind.
  · rw [(unwatched.answers_eq before₁).1, (unwatched.answers_eq before₂).1, alike]
  · rw [list, feeds alike, list]
  -- The two hubs agree on all that is asked in the opening, so it succeeds in both.
  · intro request credentials watch₁ opened₁ own opens₁
    subst own
    have required :
        (start.after before₁).requireToken = (start.after before₂).requireToken := by
      rw [after_requireToken, after_requireToken]
    have room : (start.after before₁).room = (start.after before₂).room :=
      (start.after_frame before₁).1.trans (start.after_frame before₂).1.symm
    obtain ⟨watch₂, opened₂, opens₂⟩ := openWatch_of_requireToken required opens₁
    refine ⟨watch₂, opened₂, opens₂, fun later₁ later₂ alike' => ?_⟩
    obtain ⟨answers, feed⟩ :=
      (fresh before₁).opened_alike (fresh before₂) room (feeds alike) opens₁ opens₂ alike'
    exact ⟨answers, fun project => congrArg (Feed.list · project) feed⟩
  -- A fault of a call on the kind is found in the feed of the kind.
  · exact fault?_congr (feeds (concerns_filter kind actions).symm) own
  -- Each watch is counted once, and those counted are the open streams.
  · have distinct : (start.after actions).Distinct :=
      (fresh []).distinct_after List.nodup_nil actions
    obtain ⟨streams, once, members, count⟩ := distinct.watchers_eq kind
    exact ⟨streams, once, fun id =>
      (members id).trans ((fresh []).isStream_iff rfl actions), count⟩
  -- What is refused is not opened, so the count stays.
  · have refused : (start.after actions).openWatch request credentials =
        .error (.unauthenticated "bearer token required") :=
      openWatch_error.mpr ⟨(start.after_requireToken actions).trans required, missing, rfl⟩
    refine ⟨refused, ?_⟩
    simp only [Hub.act, refused]

/-- It holds of a watch beside others of its kind that are never read, that fall behind and that are
dropped, and beside changes to another kind, as compared with the watch alone. -/
theorem watches_do_not_interfere_crowded :
    let named (name : String) : Json := .object [("name", .string name)]
    let all : WatchRequest := ⟨.application, "", true⟩
    let project : WatchRequest := ⟨.application, "p", false⟩
    let crowded : List HubAction :=
      [.openWatch all default, .upsert .artifact "p" (named "x"),
        .upsert .application "p" (named "a"), .openWatch all default]
    let alone : List HubAction := [.upsert .application "p" (named "a")]
    let later (own : Nat) (others : List HubAction) : List HubAction :=
      [.read own, .upsert .application "q" (named "b")] ++ others ++
        [.upsert .application "p" (named "c"), .read own, .remove .application "p" "z"]
    let others : List HubAction :=
      [.read 1, .remove .artifact "p" "x", .close 1, .openWatch project default, .read 3]
    ∃ opened₁ opened₂,
      ((empty 1 false).after crowded).openWatch project default = .ok (2, opened₁) ∧
      ((empty 1 false).after alone).openWatch project default = .ok (0, opened₂) ∧
      (opened₁.after (later 2 others)).watchers .application = 3 ∧
      opened₁.answers .application (some 2) (later 2 others) =
        opened₂.answers .application (some 0) (later 0 []) := by
  -- The two watches are opened, and what follows is a concern of both.
  intro named all project crowded alone later others
  obtain ⟨opened₁, opens₁, count⟩ : ∃ opened₁,
      ((empty 1 false).after crowded).openWatch project default = .ok (2, opened₁) ∧
      (opened₁.after (later 2 others)).watchers .application = 3 :=
        ⟨_, rfl, by decide +kernel⟩
  obtain ⟨opened₂, opens₂⟩ : ∃ opened₂,
      ((empty 1 false).after alone).openWatch project default = .ok (0, opened₂) := ⟨_, rfl⟩
  obtain ⟨two, -⟩ := watches_do_not_interfere 1 false .application
  obtain ⟨-, -, opens⟩ := two crowded alone rfl
  obtain ⟨watch₂, opened, same, goes⟩ := opens project default 2 opened₁ rfl opens₁
  obtain ⟨rfl, rfl⟩ : watch₂ = 0 ∧ opened = opened₂ := by
    rw [opens₂] at same
    cases same
    exact ⟨rfl, rfl⟩
  exact ⟨opened₁, opened, opens₁, opens₂, count,
    (goes (later 2 others) (later 0 []) rfl).1⟩

end Hub

end WatchRelay
