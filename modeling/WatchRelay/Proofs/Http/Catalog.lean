import WatchRelay.Proofs.Http.Calls
import WatchRelay.Proofs.Trace

/-! The catalog over HTTP is a map: under each key is what was put there last, unless it was deleted
since. -/

namespace WatchRelay

namespace CatalogCall

variable {calls : List CatalogCall} {call : CatalogCall} {kind : ResourceKind} {key : ResourceKey}

/-- What a call leaves under a key: the resource it puts there, or none where it deletes; of another
key it says nothing. -/
def effect? (kind : ResourceKind) (key : ResourceKey) : CatalogCall → Option (Option Json)
  | .put k project name resource =>
    if k = kind ∧ ⟨project, name⟩ = key then some (some resource) else none
  | .delete k project name => if k = kind ∧ ⟨project, name⟩ = key then some none else none
  | .list _ _ => none

/-- The resource that calls leave under a key: the one that was put there last, unless it was
deleted since. -/
def present (calls : List CatalogCall) (kind : ResourceKind) (key : ResourceKey) : Option Json :=
  (calls.filterMap (effect? kind key)).getLast?.join

/-- What one more call leaves is there, and elsewhere what was there before. -/
theorem present_concat :
    present (calls ++ [call]) kind key = (call.effect? kind key).getD (present calls kind key) := by
  rw [present, Trace.filterMap_concat, present]
  cases call.effect? kind key <;> simp

end CatalogCall

namespace Hub

variable {h : Hub} {calls : List CatalogCall}

/-- Whether a catalog stores what calls leave under each key, in the order of the keys. -/
structure Mirrors (h : Hub) (calls : List CatalogCall) : Prop where
  sorted : ∀ kind, (h.feed kind).store.Sorted
  stored : ∀ kind key, (h.feed kind).store.find? key = CatalogCall.present calls kind key

/-- A catalog without resources mirrors no calls. -/
theorem mirrors_empty (capacity : Nat) (requireToken : Bool) :
    (empty capacity requireToken).Mirrors [] where
  -- Nothing is stored and nobody has called.
  sorted kind := by
    rw [feed_empty]
    exact List.Pairwise.nil
  stored kind key := by
    rw [feed_empty]
    rfl

/-- Where a call changes one store, in order, as it should, the catalog mirrors that call too. -/
theorem Mirrors.changed (mirrors : h.Mirrors calls) {kind : ResourceKind} {store : Store}
    {event : Event}
    {call : CatalogCall} (sorted : store.Sorted)
    (stored : ∀ key, store.find? key =
      (call.effect? kind key).getD ((h.feed kind).store.find? key))
    (elsewhere : ∀ other key, other ≠ kind → call.effect? other key = none) :
    (h.changed kind store event).Mirrors (calls ++ [call]) where
  -- In the changed feed the call is the last to tell, in the others it tells nothing.
  sorted other := by
    rw [Hub.changed, feed_set]
    split
    · exact sorted
    · exact mirrors.sorted other
  stored other key := by
    rw [Hub.changed, feed_set, CatalogCall.present_concat]
    split
    · next same =>
      subst same
      rw [stored, mirrors.stored]
    · next differ => rw [elsewhere other key (Ne.symm differ), mirrors.stored, Option.getD_none]

/-- The resources of a project that is not empty, each with its name, in the order of the bytes of
their names. -/
theorem Mirrors.list (mirrors : h.Mirrors calls) (kind : ResourceKind) {project : String}
    (filled : project ≠ "") :
    ∃ items : List (String × Json), h.list kind project = items.map (·.2) ∧
      items.Pairwise (utf8Bytes ·.1 < utf8Bytes ·.1) ∧
      ∀ name resource, (name, resource) ∈ items ↔
        CatalogCall.present calls kind ⟨project, name⟩ = some resource := by
  -- What is listed are the entries of the project, in the order of the store.
  let own : ResourceKey × Json → Bool :=
    fun entry => project.isEmpty || entry.1.project == project
  have own_iff : ∀ entry, own entry = true ↔ entry.1.project = project :=
    fun entry => by simp [own, filled]
  refine ⟨((h.feed kind).store.filter own).map fun entry => (entry.1.name, entry.2), ?_, ?_,
    fun name resource => ?_⟩
  · rw [List.map_map]
    rfl
  · -- In one project keys are in the order of their names.
    rw [List.pairwise_map, List.pairwise_filter]
    refine (mirrors.sorted kind).imp fun {a b} before a_own b_own => Utf8.utf8Bytes_lt ?_
    have same : a.1.project = b.1.project :=
      ((own_iff a).mp a_own).trans ((own_iff b).mp b_own).symm
    rcases ResourceKey.before_iff.mp before with less | ⟨-, less⟩
    · rw [same] at less
      exact absurd less (String.lt_irrefl _)
    · exact less
  · rw [← mirrors.stored]
    constructor
    · intro among
      obtain ⟨⟨key, value⟩, entry, same⟩ := List.mem_map.mp among
      obtain ⟨stands, own_⟩ := List.mem_filter.mp entry
      -- What is listed is under its key in the ordered store.
      obtain ⟨rfl, rfl⟩ := Prod.mk.inj same
      obtain rfl : key.project = project := (own_iff _).mp own_
      exact (mirrors.sorted kind).find? stands
    · intro found
      -- What is under a key of the project passes the filter.
      refine List.mem_map.mpr ⟨(⟨project, name⟩, resource),
        List.mem_filter.mpr ⟨Store.mem_of_find? found, ?_⟩, rfl⟩
      exact (own_iff _).mpr rfl

end Hub

namespace Site

variable {s : Site} {h : Hub} {calls : List CatalogCall} {r : HttpRequest}

/-- The calls among requests. -/
def callsAmong (s : Site) (requests : List (Health × HttpRequest)) : List CatalogCall :=
  requests.filterMap fun q => s.call? q.2

/-- The first request is the first call, if it is one. -/
theorem callsAmong_cons (q : Health × HttpRequest) (rest : List (Health × HttpRequest)) :
    s.callsAmong (q :: rest) = (s.call? q.2).toList ++ s.callsAmong rest := by
  unfold callsAmong
  cases asked : s.call? q.2 <;> simp [asked]

/-- The catalog after requests are answered one after the other, each at some health of the
relay. -/
def after (s : Site) (h : Hub) (requests : List (Health × HttpRequest)) : Hub :=
  requests.foldl (fun h q => (s.answer h q.1 q.2).2) h

/-- A catalog that mirrors calls mirrors the next as well, if a request is one. -/
theorem answer_mirrors (mirrors : h.Mirrors calls) (health : Health) (r : HttpRequest) :
    (s.answer h health r).2.Mirrors (calls ++ (s.call? r).toList) := by
  -- A request that is no catalog call changes nothing, each call changes what it says it does.
  cases asked : s.call? r with
  | none =>
    rw [answer_of_call?_eq_none asked]
    simpa using mirrors
  | some call =>
    cases call with
    | put kind project name resource =>
      obtain ⟨change, -, answered⟩ := answer_put h health asked
      rw [answered]
      refine mirrors.changed ((mirrors.sorted kind).insert _ _)
        (fun key => ?_) fun other key differ => ?_
      · -- The resource is under its key, and under the other keys nothing has changed.
        by_cases same : (⟨project, name⟩ : ResourceKey) = key
        · subst same
          simp [CatalogCall.effect?]
        · simp [CatalogCall.effect?, same, Store.find?_insert_of_ne same]
      · simp [CatalogCall.effect?, Ne.symm differ]
    | list kind project =>
      rw [answer_list h health asked]
      refine ⟨mirrors.sorted, fun other key => ?_⟩
      rw [Option.toList_some, CatalogCall.present_concat, mirrors.stored]
      rfl
    | delete kind project name =>
      have answered := answer_delete h health asked
      split at answered
      · rw [answered]
        refine mirrors.changed ((mirrors.sorted kind).erase _)
          (fun key => ?_) fun other key differ => ?_
        · by_cases same : (⟨project, name⟩ : ResourceKey) = key
          -- What was under the key is gone, and the other keys are as they were.
          · subst same
            simp [CatalogCall.effect?, (mirrors.sorted kind).find?_erase_self]
          · simp [CatalogCall.effect?, same, Store.find?_erase_of_ne same]
        · simp [CatalogCall.effect?, Ne.symm differ]
      · -- Nothing was under the key, and nothing is.
        next absent =>
        rw [answered]
        refine ⟨mirrors.sorted, fun other key => ?_⟩
        rw [Option.toList_some, CatalogCall.present_concat, mirrors.stored]
        by_cases same : kind = other ∧ (⟨project, name⟩ : ResourceKey) = key
        · obtain ⟨rfl, rfl⟩ := same
          rw [mirrors.stored] at absent
          simp [CatalogCall.effect?, absent]
        · simp [CatalogCall.effect?, same]

/-- After any requests the catalog mirrors the calls among them. -/
theorem after_mirrors (mirrors : h.Mirrors calls) (requests : List (Health × HttpRequest)) :
    (s.after h requests).Mirrors (calls ++ s.callsAmong requests) := by
  -- By induction on the requests, each of which adds the call that it makes.
  induction requests generalizing h calls with
  | nil => simpa [Site.callsAmong, after] using mirrors
  | cons q rest ih =>
    have later := ih (answer_mirrors (s := s) mirrors q.1 q.2)
    rwa [List.append_assoc, ← callsAmong_cons] at later

/-- Over HTTP the catalog is a map from kinds, projects and names.

This is said of any requests to a catalog that was empty.

A request to put a resource is told whether one was under its key.

One to delete is given what was put there last, or is told that nothing is there.
There is such a request for every name that is not empty.

One to list is given just what is there of the project, in the order of the bytes of the names.

Any other request on these routes is refused.
No request that is refused changes anything of a catalog, its events and its watches. -/
theorem catalog_refines_map (s : Site) (capacity : Nat) (requireToken : Bool)
    (past : List (Health × HttpRequest)) (health : Health) (r : HttpRequest) :
    let present := CatalogCall.present (s.callsAmong past)
    let response := (s.answer (s.after (.empty capacity requireToken) past) health r).1
    (∀ kind project name resource, s.call? r = some (.put kind project name resource) →
      response = if (present kind ⟨project, name⟩).isSome
        then .json 200 (recordChars [("change", jsonString "updated")])
        else .json 201 (recordChars [("change", jsonString "created")])) ∧
    (∀ kind project name, s.call? r = some (.delete kind project name) →
      (∀ resource, present kind ⟨project, name⟩ = some resource →
        response = .json 200 resource.chars) ∧
      (present kind ⟨project, name⟩ = none → response.status = 404)) ∧
    (∀ kind project name, s.hasCatalog = true → name ≠ "" →
      resourcePath kind project name ≠ s.watchPath →
      r.path = resourcePath kind project name → r.method = "DELETE" →
        s.call? r = some (.delete kind project name)) ∧
    (∀ kind project, s.call? r = some (.list kind project) →
      ∃ items : List (String × Json), items.Pairwise (utf8Bytes ·.1 < utf8Bytes ·.1) ∧
        (∀ name resource, (name, resource) ∈ items ↔
          present kind ⟨project, name⟩ = some resource) ∧
        response = .json 200 (recordChars [("items", (Json.array (items.map (·.2))).chars)])) ∧
    (s.IsOnCatalog r → s.call? r = none → 400 ≤ response.status ∧ response.status < 500) ∧
    ∀ h : Hub, 400 ≤ (s.answer h health r).1.status → (s.answer h health r).2 = h := by
  intro present response
  have mirrors : (s.after (.empty capacity requireToken) past).Mirrors (s.callsAmong past) := by
    simpa using after_mirrors (Hub.mirrors_empty capacity requireToken) past
  refine ⟨fun kind project name resource asked => ?_, fun kind project name asked => ?_,
    fun kind project name mounted filled other path method => ?_, fun kind project asked => ?_,
    refused_of_call?_eq_none, fun h => answer_of_status⟩
  · obtain ⟨change, which, answered⟩ :=
      answer_put (s.after (.empty capacity requireToken) past) health asked
    rw [mirrors.stored] at which
    rw [show response = _ from congrArg Prod.fst answered, which]
    -- Whether it was updated or created is told by what was there.
    cases (CatalogCall.present (s.callsAmong past) kind ⟨project, name⟩).isSome <;> rfl
  · have answered := answer_delete (s.after (.empty capacity requireToken) past) health asked
    rw [mirrors.stored] at answered
    refine ⟨fun resource there => ?_, fun absent => ?_⟩
    · rw [show CatalogCall.present (s.callsAmong past) kind ⟨project, name⟩ =
        some resource from there] at answered
      exact congrArg Prod.fst answered
    · rw [show CatalogCall.present (s.callsAmong past) kind ⟨project, name⟩ =
        none from absent] at answered
      rw [show response = _ from congrArg Prod.fst answered]
      rfl
  · have route := endpoint?_resourcePath mounted filled other
    rw [← path] at route
    have kind_ : kindOfPart? kind.name = some kind := by
      rw [kindOfPart?, percentDecode_plain (by cases kind <;> decide)]
      cases kind <;> rfl
    exact call?_eq_some.mpr
      (.delete route method kind_ (percentDecode_percentEncode project)
        (percentDecode_percentEncode name))
  · obtain ⟨items, listed, ordered, exact_⟩ := mirrors.list kind (project_ne_empty asked)
    refine ⟨items, ordered, exact_, ?_⟩
    rw [← listed]
    exact congrArg Prod.fst (answer_list _ health asked)

/-- A resource with a slash in its name is put twice and deleted, which tells its last state; a
second time it is not there. -/
theorem catalog_refines_map_slash :
    let s : Site := ⟨"/ws", true, false⟩
    let put (body : String) : Health × HttpRequest :=
      (⟨0, 0⟩, ⟨"PUT", "/catalog/Artifact/p", [("content-type", "application/json")],
        utf8Bytes body, false⟩)
    let delete : HttpRequest := ⟨"DELETE", "/catalog/Artifact/p/a%2fb", [], [], false⟩
    let past := [put "\x7b\"name\":\"a/b\"\x7d", put "\x7b\"name\":\"a/b\",\"size\":3\x7d"]
    (s.answer (s.after (.empty 4 false) past) ⟨0, 0⟩ delete).1 =
        .json 200 "\x7b\"name\":\"a/b\",\"size\":3\x7d".toList ∧
      (s.answer (s.after (.empty 4 false) (past ++ [(⟨0, 0⟩, delete)]))
        ⟨0, 0⟩ delete).1.status = 404 := by
  intro s put delete past
  -- The header is looked up without regard to its case.
  have declares (body : String) : (put body).2.declaresJson = true := by
    have lower : "content-type".toLower = "content-type" ∧
        "Content-Type".toLower = "content-type" := by
      decide +kernel
    have first : (put body).2.header? "Content-Type" = some "application/json" := by
      simp [put, HttpRequest.header?, lower.1, lower.2]
    rw [HttpRequest.declaresJson, HttpRequest.visibleHeader?, first, Option.filter_some,
      String.all_bool_eq]
    decide +kernel
  -- Each of the requests is read as what it asks for.
  have puts (body : String) (v : Json) (short : (utf8Bytes body).length ≤ HttpRequest.maxBodySize)
      (reads : Json.ofText body = .ok v) (named : v.name? = some "a/b") :
      s.call? (put body).2 = some (.put .artifact "p" "a/b" v) := by
    have read : (put body).2.jsonBody = .ok v := by
      have content : (put body).2.body = utf8Bytes body := rfl
      rw [HttpRequest.jsonBody, declares body, content, if_neg (by decide),
        if_neg (Nat.not_lt.mpr short), Utf8.decode_utf8Bytes]
      simp only [reads]
      rfl
    have route : s.endpoint? "/catalog/Artifact/p" = some (.resources "Artifact" "p") := by
      decide +kernel
    exact call?_eq_some.mpr (.put route rfl (by decide +kernel) (by decide +kernel) read named)
  have route : s.endpoint? delete.path = some (.resource "Artifact" "p" "a%2fb") := by
    decide +kernel
  have asked : s.call? delete = some (.delete .artifact "p" "a/b") :=
    call?_eq_some.mpr (.delete route rfl (by decide +kernel) (by decide +kernel)
      (by decide +kernel))
  -- The same name is put twice, so the second resource stands in the place of the first.
  have first :=
    puts "\x7b\"name\":\"a/b\"\x7d" (.object [("name", .string "a/b")]) (by decide +kernel)
    (by decide +kernel) (by decide +kernel)
  have second := puts "\x7b\"name\":\"a/b\",\"size\":3\x7d"
    (.object [("name", .string "a/b"), ("size", .number (.integer 3))])
    (by decide +kernel) (by decide +kernel) (by decide +kernel)
  have among : s.callsAmong past = [.put .artifact "p" "a/b" (.object [("name", .string "a/b")]),
      .put .artifact "p" "a/b"
        (.object [("name", .string "a/b"), ("size", .number (.integer 3))])] := by
    rw [callsAmong_cons, callsAmong_cons, first, second]
    rfl
  have later : s.callsAmong (past ++ [(⟨0, 0⟩, delete)]) =
      s.callsAmong past ++ [.delete .artifact "p" "a/b"] := by
    rw [among, List.cons_append, List.cons_append, List.nil_append, callsAmong_cons,
      callsAmong_cons, callsAmong_cons, first, second, asked]
    rfl
  constructor
  -- The deletion answers with what stood there, and the next one finds nothing.
  · have there : CatalogCall.present (s.callsAmong past) .artifact ⟨"p", "a/b"⟩ =
        some (.object [("name", .string "a/b"), ("size", .number (.integer 3))]) := by
      rw [among]
      simp [CatalogCall.present, CatalogCall.effect?]
    obtain ⟨-, deleted, -⟩ := catalog_refines_map s 4 false past ⟨0, 0⟩ delete
    rw [(deleted _ _ _ asked).1 _ there]
    exact congrArg (HttpResponse.json 200) (by decide +kernel)
  · have absent : CatalogCall.present (s.callsAmong (past ++ [(⟨0, 0⟩, delete)])) .artifact
        ⟨"p", "a/b"⟩ = none := by
      rw [later, CatalogCall.present_concat]
      simp [CatalogCall.effect?]
    obtain ⟨-, deleted, -⟩ :=
      catalog_refines_map s 4 false (past ++ [(⟨0, 0⟩, delete)]) ⟨0, 0⟩ delete
    exact (deleted _ _ _ asked).2 absent

end Site

end WatchRelay
