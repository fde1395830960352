import WatchRelay.Http.Service
import WatchRelay.Proofs.Catalog.Chronicle
import WatchRelay.Proofs.Http.Percent

/-! What requests ask of the catalog, and what comes of it: a resource is put, taken out or listed,
or the request is refused and nothing changes. -/

namespace WatchRelay

/-- What is asked of the catalog. -/
inductive CatalogCall where
  | put (kind : ResourceKind) (project name : String) (resource : Json)
  | list (kind : ResourceKind) (project : String)
  | delete (kind : ResourceKind) (project name : String)

/-- The name a value carries: an object does, in a text that is not empty. -/
def Json.name? : Json → Option String
  | .object members => ((Members.find? "name" members).bind Json.asString?).filter (· ≠ "")
  | .null | .bool _ | .number _ | .string _ | .array _ => none

/-- A resource has the name it carries. -/
theorem Json.name?_eq_some {resource : Json} {name : String} :
    resource.name? = some name ↔ resourceName resource = .ok name := by
  cases resource with
  | object members =>
    simp only [Json.name?, resourceName]
    cases (Members.find? "name" members).bind Json.asString? with
    | none => simp
    | some text =>
      -- The name is the text, unless that is empty.
      by_cases empty : text = ""
      · simp [empty]
      · simpa [empty] using fun same : text = name => same ▸ empty
  | _ => simp [Json.name?, resourceName]

/-- The catalog once resources of a kind are stored anew and the change is told on their feed. -/
def Hub.changed (h : Hub) (kind : ResourceKind) (store : Store) (event : Event) : Hub :=
  { h with feeds := h.feeds.set kind ⟨store, (h.feed kind).log.push event⟩ }

/-- The kind that a part of a path names. -/
def kindOfPart? (raw : String) : Option ResourceKind :=
  (percentDecode raw).bind ResourceKind.ofName?

namespace Site

/-- What a request asks of the catalog.

The parts of its path are percent-decoded, and a resource that is put is a JSON body that carries a
name. -/
def call? (s : Site) (r : HttpRequest) : Option CatalogCall :=
  match s.endpoint? r.path with
  | some (.resources kind project) => do
    let kind ← kindOfPart? kind
    let project ← percentDecode project
    if r.method = "PUT" then
      let resource ← r.jsonBody.toOption
      let name ← resource.name?
      some (.put kind project name resource)
    else if r.method = "GET" then some (.list kind project)
    else none
  | some (.resource kind project name) => do
    let kind ← kindOfPart? kind
    let project ← percentDecode project
    let name ← percentDecode name
    if r.method = "DELETE" then some (.delete kind project name) else none
  | _ => none

/-- Whether a request to put, get or delete is on one of the routes of the catalog. -/
def IsOnCatalog (s : Site) (r : HttpRequest) : Prop :=
  (r.method = "PUT" ∨ r.method = "GET" ∨ r.method = "DELETE") ∧
    ((∃ kind project, s.endpoint? r.path = some (.resources kind project)) ∨
      ∃ kind project name, s.endpoint? r.path = some (.resource kind project name))

variable {s : Site} {h : Hub} {health : Health} {r : HttpRequest} {kind : ResourceKind}
  {project name rawKind rawProject rawName : String} {resource : Json} {call : CatalogCall}

/-! ### Routes -/

/-- A part of a path is read where it can be decoded. -/
theorem part_eq_ok {label raw text : String} :
    HttpRequest.part label raw = .ok text ↔ percentDecode raw = some text := by
  unfold HttpRequest.part
  cases percentDecode raw <;> simp

/-- A kind is known where one is named. -/
theorem knownKind_eq_ok {text : String} :
    HttpRequest.knownKind text = .ok kind ↔ ResourceKind.ofName? text = some kind := by
  unfold HttpRequest.knownKind
  cases ResourceKind.ofName? text <;> simp

/-- The route to the resources of a project has a part for it that is not empty. -/
theorem rawProject_ne_empty {path : String}
    (route : s.endpoint? path = some (.resources rawKind rawProject)) :
    rawProject ≠ "" := by
  -- The watch path and the paths of the status pages are no paths of the catalog.
  have catalog : catalogEndpoint? path = some (.resources rawKind rawProject) := by
    unfold endpoint? at route
    repeat' split at route
    all_goals first | exact route | cases route
  -- The catalog has such an endpoint only for four parts with the last of them filled.
  unfold catalogEndpoint? at catalog
  split at catalog
  · split at catalog
    · cases catalog
    · next filled =>
      cases catalog
      simpa using filled
  · split at catalog <;> cases catalog
  · cases catalog

/-- A part without slashes is the first of those between slashes. -/
theorem splitSlashes_part {part : List Char} (whole : '/' ∉ part) (rest : List Char) :
    splitSlashes (part ++ '/' :: rest) = part :: splitSlashes rest := by
  -- No character of the part is a slash, so each of them is put to the part behind it.
  induction part with
  | nil => rfl
  | cons c part ih =>
    obtain ⟨other, whole⟩ := List.ne_and_not_mem_of_not_mem_cons whole
    rw [List.cons_append, splitSlashes, ih whole]
    exact fun same => other same.symm

/-- A text without slashes is one part. -/
theorem splitSlashes_last {part : List Char} (whole : '/' ∉ part) :
    splitSlashes part = [part] := by
  -- No character of the part is a slash, so the splitting reaches its end.
  induction part with
  | nil => rfl
  | cons c part ih =>
    obtain ⟨other, whole⟩ := List.ne_and_not_mem_of_not_mem_cons whole
    rw [splitSlashes, ih whole]
    exact fun same => other same.symm

/-- The path to a resource, with its project and its name percent-encoded. -/
def resourcePath (kind : ResourceKind) (project name : String) : String :=
  "/catalog/" ++ kind.name ++ "/" ++ percentEncode project ++ "/" ++ percentEncode name

/-- The path to a resource leads to it, unless it is the one that clients connect to. -/
theorem endpoint?_resourcePath (mounted : s.hasCatalog = true) (filled : name ≠ "")
    (other : resourcePath kind project name ≠ s.watchPath) :
    s.endpoint? (resourcePath kind project name) =
      some (.resource kind.name (percentEncode project) (percentEncode name)) := by
  have chars : (resourcePath kind project name).toList =
    [] ++ '/' :: ("catalog".toList ++ '/' :: (kind.name.toList ++
      '/' :: ((percentEncode project).toList ++ '/' :: (percentEncode name).toList))) := by
    simp [resourcePath]
  have plain : '/' ∉ kind.name.toList := by cases kind <;> decide
  have parts : splitSlashes (resourcePath kind project name).toList =
      [[], "catalog".toList, kind.name.toList, (percentEncode project).toList,
        (percentEncode name).toList] := by
    rw [chars, splitSlashes_part (by decide), splitSlashes_part (by decide),
      splitSlashes_part plain, splitSlashes_part (slash_not_mem_percentEncode _),
      splitSlashes_last (slash_not_mem_percentEncode _)]
  -- It is none of the paths that lead elsewhere, which have fewer parts.
  have elsewhere : ∀ path, (splitSlashes path.toList).length ≠ 5 →
      resourcePath kind project name ≠ path := by
    rintro path short rfl
    exact short (by rw [parts]; rfl)
  have named : (percentEncode name).isEmpty = false :=
    String.isEmpty_eq_false_iff.mpr (percentEncode_ne_empty filled)
  unfold endpoint?
  rw [if_neg other, if_neg (elsewhere _ (by decide)), if_neg (elsewhere _ (by decide)),
    if_pos mounted, catalogEndpoint?, parts]
  simp [named]

/-! ### Requests that are calls -/

/-- The ways in which a request asks something of the catalog. -/
inductive Asks (s : Site) (r : HttpRequest) : CatalogCall → Prop where
  | put {rawKind rawProject : String} {kind : ResourceKind} {project name : String}
      {resource : Json}
      (route : s.endpoint? r.path = some (.resources rawKind rawProject))
      (method : r.method = "PUT")
      (kind_ : kindOfPart? rawKind = some kind) (project_ : percentDecode rawProject = some project)
      (body : r.jsonBody = .ok resource) (named : resource.name? = some name) :
      Asks s r (.put kind project name resource)
  | list {rawKind rawProject : String} {kind : ResourceKind} {project : String}
      (route : s.endpoint? r.path = some (.resources rawKind rawProject))
      (method : r.method = "GET")
      (kind_ : kindOfPart? rawKind = some kind)
      (project_ : percentDecode rawProject = some project) :
      Asks s r (.list kind project)
  | delete {rawKind rawProject rawName : String} {kind : ResourceKind} {project name : String}
      (route : s.endpoint? r.path = some (.resource rawKind rawProject rawName))
      (method : r.method = "DELETE")
      (kind_ : kindOfPart? rawKind = some kind) (project_ : percentDecode rawProject = some project)
      (name_ : percentDecode rawName = some name) : Asks s r (.delete kind project name)

/-- A request asks what it is read as. -/
theorem call?_eq_some : s.call? r = some call ↔ s.Asks r call := by
  constructor
  -- A request that asks for a call has passed every test on the way.
  · intro read
    unfold call? at read
    split at read
    · next route =>
      obtain ⟨kind, kind_, read⟩ := Option.bind_eq_some_iff.mp read
      obtain ⟨project, project_, read⟩ := Option.bind_eq_some_iff.mp read
      split at read
      · next method =>
        obtain ⟨resource, body, read⟩ := Option.bind_eq_some_iff.mp read
        obtain ⟨name, named, read⟩ := Option.bind_eq_some_iff.mp read
        obtain rfl := Option.some.inj read
        exact .put route method kind_ project_ (Outcome.toOption_eq_some.mp body) named
      · split at read
        · next method =>
          obtain rfl := Option.some.inj read
          exact .list route method kind_ project_
        · cases read
    · next route =>
      obtain ⟨kind, kind_, read⟩ := Option.bind_eq_some_iff.mp read
      obtain ⟨project, project_, read⟩ := Option.bind_eq_some_iff.mp read
      obtain ⟨name, name_, read⟩ := Option.bind_eq_some_iff.mp read
      split at read
      · next method =>
        obtain rfl := Option.some.inj read
        exact .delete route method kind_ project_ name_
      · cases read
    · cases read
  -- The other way, each test on the way comes out as the call says.
  · rintro (⟨route, method, kind_, project_, body, named⟩ |
      ⟨route, method, kind_, project_⟩ |
      ⟨route, method, kind_, project_, name_⟩)
    · simp [call?, route, method, kind_, project_, body, named, Except.toOption]
    · simp [call?, route, method, kind_, project_]
    · simp [call?, route, method, kind_, project_, name_]

/-- What a request whose method an endpoint has is answered. -/
theorem answer_eq {e : Endpoint} (route : s.endpoint? r.path = some e)
    (allowed : e.methods.contains r.method = true)
    (whole : r.method ≠ "HEAD") :
    s.answer h health r =
      match s.serve h health r e with
      | .ok answered => answered
      | .error refusal => (refusal.response, h) := by
  have kept (answered : HttpResponse × Hub) :
      -- Only a request for the head has its body taken away.
      (if r.method = "HEAD" then answered.1.withoutBody else answered.1, answered.2) =
        answered := by
    rw [if_neg whole]
  unfold answer
  rw [route]
  exact (kept _).trans (if_pos allowed)

/-- When a resource is put. -/
theorem put_eq_ok {answered : HttpResponse × Hub} :
    h.put rawKind rawProject r = .ok answered ↔
      ∃ kind project resource change h', kindOfPart? rawKind = some kind ∧
        percentDecode rawProject = some project ∧
        r.jsonBody = .ok resource ∧ h.upsert kind project resource = .ok (change, h') ∧
        answered =
          (.json (if change = .created then 201 else 200)
            (recordChars [("change", jsonString change.word)]), h') := by
  -- Everything on the way succeeds, and what is answered is made from it.
  simp only [Hub.put, Outcome.bind_eq_ok, part_eq_ok, knownKind_eq_ok, Outcome.mapError_eq_ok,
    kindOfPart?, Option.bind_eq_some_iff, Prod.exists, Except.ok.injEq]
  constructor
  · rintro ⟨text, decodes, project, project_, resource, body, kind, known, change, h',
      taken, rfl⟩
    exact ⟨kind, project, resource, change, h', ⟨text, decodes, known⟩, project_, body,
      taken, rfl⟩
  · rintro ⟨kind, project, resource, change, h', ⟨text, decodes, known⟩, project_, body,
      taken, rfl⟩
    exact ⟨text, decodes, project, project_, resource, body, kind, known, change, h',
      taken, rfl⟩

/-- When resources are listed. -/
theorem get_eq_ok {response : HttpResponse} :
    h.get rawKind rawProject = .ok response ↔
      ∃ kind project, kindOfPart? rawKind = some kind ∧
        percentDecode rawProject = some project ∧
        response =
          .json 200 (recordChars [("items", (Json.array (h.list kind project)).chars)]) := by
  -- Everything on the way succeeds, and what is answered is made from it.
  simp only [Hub.get, Outcome.bind_eq_ok, part_eq_ok, knownKind_eq_ok, kindOfPart?,
    Option.bind_eq_some_iff, Except.ok.injEq]
  constructor
  · rintro ⟨text, decodes, project, project_, kind, known, rfl⟩
    exact ⟨kind, project, ⟨text, decodes, known⟩, project_, rfl⟩
  · rintro ⟨kind, project, ⟨text, decodes, known⟩, project_, rfl⟩
    exact ⟨text, decodes, project, project_, kind, known, rfl⟩

/-- When a resource is taken out. -/
theorem delete_eq_ok {answered : HttpResponse × Hub} :
    h.delete rawKind rawProject rawName = .ok answered ↔
      ∃ kind project name resource h', kindOfPart? rawKind = some kind ∧
        percentDecode rawProject = some project ∧
        percentDecode rawName = some name ∧ h.remove kind project name = .ok (resource, h') ∧
        answered = (.json 200 resource.chars, h') := by
  -- Everything on the way succeeds, and what is answered is made from it.
  simp only [Hub.delete, Outcome.bind_eq_ok, part_eq_ok, knownKind_eq_ok, Outcome.mapError_eq_ok,
    kindOfPart?, Option.bind_eq_some_iff, Prod.exists, Except.ok.injEq]
  constructor
  · rintro ⟨text, decodes, project, project_, name, name_, kind, known, resource, h',
      taken, rfl⟩
    exact ⟨kind, project, name, resource, h', ⟨text, decodes, known⟩, project_, name_,
      taken, rfl⟩
  · rintro ⟨kind, project, name, resource, h', ⟨text, decodes, known⟩, project_, name_,
      taken, rfl⟩
    exact ⟨text, decodes, project, project_, name, name_, kind, known, resource, h', taken, rfl⟩

/-- A resource that is put carries a name, and what is under it says whether it was there. -/
theorem upsert_eq_ok {change : Change} {h' : Hub} :
    h.upsert kind project resource = .ok (change, h') ↔
      ∃ name, resource.name? = some name ∧
        change =
          (if ((h.feed kind).store.find? ⟨project, name⟩).isSome then .updated else .created) ∧
        h' = h.changed kind ((h.feed kind).store.insert ⟨project, name⟩ resource)
          ⟨change, project, resource⟩ := by
  -- A resource with a name is always stored. Whether one was there tells the change.
  simp only [Hub.upsert, Feed.upsert, Outcome.bind_eq_ok, Prod.exists, Except.ok.injEq,
    Prod.mk.injEq, Json.name?_eq_some]
  constructor
  · rintro ⟨change, f, ⟨name, named, rfl, rfl⟩, rfl, rfl⟩
    exact ⟨name, named, rfl, rfl⟩
  · rintro ⟨name, named, rfl, rfl⟩
    exact ⟨_, _, ⟨name, named, rfl, rfl⟩, rfl, rfl⟩

/-- A resource that is taken out was there. -/
theorem remove_eq_ok {h' : Hub} :
    h.remove kind project name = .ok (resource, h') ↔
      (h.feed kind).store.find? ⟨project, name⟩ = some resource ∧
        h' = h.changed kind ((h.feed kind).store.erase ⟨project, name⟩)
          ⟨.deleted, project, resource⟩ := by
  simp only [Hub.remove, Feed.remove, Outcome.bind_eq_ok, Prod.exists, Except.ok.injEq,
    Prod.mk.injEq]
  -- A resource is removed exactly where one is stored.
  cases (h.feed kind).store.find? ⟨project, name⟩ with
  | none => simp
  | some stored =>
    simp only [Except.ok.injEq, Prod.mk.injEq, Option.some.injEq]
    constructor
    · rintro ⟨_, _, ⟨rfl, rfl⟩, rfl, rfl⟩
      exact ⟨rfl, rfl⟩
    · rintro ⟨rfl, rfl⟩
      exact ⟨_, _, ⟨rfl, rfl⟩, rfl, rfl⟩

/-- What a request to put a resource is answered, and what it makes of the catalog. -/
theorem answer_put (h : Hub) (health : Health)
    (asked : s.call? r = some (.put kind project name resource)) :
    ∃ change : Change, change =
      (if ((h.feed kind).store.find? ⟨project, name⟩).isSome then .updated else .created) ∧
      s.answer h health r =
        (.json (if change = .created then 201 else 200)
          (recordChars [("change", jsonString change.word)]),
          h.changed kind ((h.feed kind).store.insert ⟨project, name⟩ resource)
            ⟨change, project, resource⟩) := by
  refine ⟨_, rfl, ?_⟩
  -- The call gives all that the answer is made of, so the method is known to succeed.
  cases call?_eq_some.mp asked with
  | put route method kind_ project_ body named =>
    have taken := put_eq_ok.mpr ⟨kind, project, resource, _, _, kind_, project_, body,
      (upsert_eq_ok (h := h)).mpr ⟨name, named, rfl, rfl⟩, rfl⟩
    rw [answer_eq route (by rw [method]; rfl) (by rw [method]; decide), serve, if_pos method, taken]

/-- What a request to list resources is answered; it changes nothing. -/
theorem answer_list (h : Hub) (health : Health) (asked : s.call? r = some (.list kind project)) :
    s.answer h health r =
      (.json 200 (recordChars [("items", (Json.array (h.list kind project)).chars)]), h) := by
  -- The call gives all that the answer is made of, so the method is known to succeed.
  cases call?_eq_some.mp asked with
  | list route method kind_ project_ =>
    have given := (get_eq_ok (h := h)).mpr ⟨kind, project, kind_, project_, rfl⟩
    have other : r.method ≠ "PUT" := by rw [method]; decide
    rw [answer_eq route (by rw [method]; rfl) (by rw [method]; decide), serve, if_neg other, given]
    rfl

/-- The project whose resources are listed is not empty. -/
theorem project_ne_empty (asked : s.call? r = some (.list kind project)) : project ≠ "" := by
  -- The part of the path is not empty, and decoding never empties a part.
  cases call?_eq_some.mp asked with
  | list route method kind_ project_ =>
    exact ne_empty_of_percentDecode project_ (rawProject_ne_empty route)

/-- What a request to take out a resource is answered, and what it makes of the catalog. -/
theorem answer_delete (h : Hub) (health : Health)
    (asked : s.call? r = some (.delete kind project name)) :
    match (h.feed kind).store.find? ⟨project, name⟩ with
    | some resource =>
      s.answer h health r = (.json 200 resource.chars,
        h.changed kind ((h.feed kind).store.erase ⟨project, name⟩)
          ⟨.deleted, project, resource⟩)
    | none =>
      s.answer h health r = ((HttpRefusal.catalog (.notFound kind project name)).response, h) := by
  -- The call gives the parts, and what is stored under them decides the answer.
  cases call?_eq_some.mp asked with
  | @delete rawKind rawProject rawName _ _ _ route method kind_ project_ name_ =>
    rw [answer_eq route (by rw [method]; rfl) (by rw [method]; decide), serve]
    split
    · next resource found =>
      have taken := delete_eq_ok.mpr ⟨kind, project, name, resource, _, kind_, project_, name_,
        remove_eq_ok.mpr ⟨found, rfl⟩, rfl⟩
      rw [taken]
    · next absent =>
      obtain ⟨text, decodes, known⟩ := Option.bind_eq_some_iff.mp kind_
      -- Every part is read, so the refusal comes from the store itself.
      have refused : h.delete rawKind rawProject rawName =
          .error (.catalog (.notFound kind project name)) := by
        simp only [Hub.delete, part_eq_ok.mpr decodes, part_eq_ok.mpr project_,
          part_eq_ok.mpr name_, bind, Except.bind, knownKind_eq_ok.mpr known, Hub.remove,
          Feed.remove, absent, Except.mapError]
      rw [refused]

/-! ### Requests that are refused -/

/-- Every refusal says that the request is at fault. -/
theorem status_refusal (refusal : HttpRefusal) :
    400 ≤ refusal.response.status ∧ refusal.response.status < 500 := by
  -- The response says the status of the refusal, whatever else it says.
  have same : refusal.response.status = refusal.status := by
    unfold HttpRefusal.response
    split <;> rfl
  rw [same]
  unfold HttpRefusal.status
  split <;> decide

/-- What is served on a route to the resources of a project was asked for. -/
theorem asks_of_resources {answered : HttpResponse × Hub}
    (route : s.endpoint? r.path = some (.resources rawKind rawProject))
    (method : r.method = "PUT" ∨ r.method = "GET")
    (served : s.serve h health r (.resources rawKind rawProject) = .ok answered) :
    ∃ call, s.Asks r call := by
  -- The method that was served tells the call, with everything its success gives.
  rw [serve] at served
  split at served
  · next put =>
    obtain ⟨kind, project, resource, change, h', kind_, project_, body, taken, -⟩ :=
      put_eq_ok.mp served
    obtain ⟨name, named, -, -⟩ := upsert_eq_ok.mp taken
    exact ⟨_, .put route put kind_ project_ body named⟩
  · next other =>
    obtain ⟨response, given, -⟩ := Outcome.map_eq_ok.mp served
    obtain ⟨kind, project, kind_, project_, -⟩ := get_eq_ok.mp given
    exact ⟨_, .list route (method.resolve_left other) kind_ project_⟩

/-- What is served on a route to a resource was asked for. -/
theorem asks_of_resource {answered : HttpResponse × Hub}
    (route : s.endpoint? r.path = some (.resource rawKind rawProject rawName))
    (method : r.method = "DELETE")
    (served : s.serve h health r (.resource rawKind rawProject rawName) = .ok answered) :
    ∃ call, s.Asks r call := by
  -- What the success of the removal gives is all that the call is made of.
  obtain ⟨kind, project, name, resource, h', kind_, project_, name_, -, -⟩ :=
    delete_eq_ok.mp served
  exact ⟨_, .delete route method kind_ project_ name_⟩

/-- What is served leaves the catalog as it is, or it is what a call asked for. -/
theorem serve_eq_ok {e : Endpoint} {answered : HttpResponse × Hub}
    (route : s.endpoint? r.path = some e)
    (allowed : e.methods.contains r.method = true) (served : s.serve h health r e = .ok answered) :
    answered.2 = h ∨ (∃ call, s.Asks r call) ∧ answered.1.status < 400 := by
  -- Only the endpoints of the catalog touch the store, and their methods succeed with a status
  -- below 400.
  cases e with
  | watch =>
    obtain ⟨response, -, rfl⟩ := Outcome.map_eq_ok.mp served
    exact .inl rfl
  | health =>
    cases served
    exact .inl rfl
  | metrics =>
    cases served
    exact .inl rfl
  | resources rawKind rawProject =>
    by_cases method : r.method = "PUT"
    · refine .inr ⟨asks_of_resources route (.inl method) served, ?_⟩
      rw [serve, if_pos method] at served
      obtain ⟨kind, project, resource, change, h', -, -, -, -, rfl⟩ := put_eq_ok.mp served
      change (if change = .created then 201 else 200) < 400
      split <;> decide
    · rw [serve, if_neg method] at served
      obtain ⟨response, -, rfl⟩ := Outcome.map_eq_ok.mp served
      exact .inl rfl
  | resource rawKind rawProject rawName =>
    have method : r.method = "DELETE" := by simpa [Endpoint.methods] using allowed
    refine .inr ⟨asks_of_resource route method served, ?_⟩
    obtain ⟨kind, project, name, resource, h', -, -, -, -, rfl⟩ := delete_eq_ok.mp served
    exact show 200 < 400 by decide

/-- What is answered leaves the catalog as it is, or it is what a call asked for and no refusal. -/
theorem answer_keeps (s : Site) (h : Hub) (health : Health) (r : HttpRequest) :
    (s.answer h health r).2 = h ∨
      (∃ call, s.Asks r call) ∧ (s.answer h health r).1.status < 400 := by
  -- Taking the body away leaves the status.
  have kept : ∀ response : HttpResponse,
      (if r.method = "HEAD" then response.withoutBody else response).status =
        response.status := fun response => by split <;> rfl
  simp only [answer, kept]
  split
  · exact .inl rfl
  · next e route =>
    split
    · next allowed =>
      split
      · next answered served => exact serve_eq_ok route allowed served
      · exact .inl rfl
    · exact .inl rfl

/-- A request that asks for nothing leaves the catalog as it is. -/
theorem answer_of_call?_eq_none (nothing : s.call? r = none) : (s.answer h health r).2 = h := by
  -- Otherwise the request would ask for a call.
  refine (answer_keeps s h health r).resolve_right fun ⟨⟨call, asks⟩, _⟩ => ?_
  rw [call?_eq_some.mpr asks] at nothing
  cases nothing

/-- A request that is refused leaves the catalog as it is. -/
theorem answer_of_status (refused : 400 ≤ (s.answer h health r).1.status) :
    (s.answer h health r).2 = h :=
  (answer_keeps s h health r).resolve_right fun asks => Nat.not_lt.mpr refused asks.2

/-- A request on a route of the catalog that asks for nothing is refused. -/
theorem refused_of_call?_eq_none (on : s.IsOnCatalog r) (nothing : s.call? r = none) :
    400 ≤ (s.answer h health r).1.status ∧ (s.answer h health r).1.status < 500 := by
  -- It has a method of the catalog, so nothing but its endpoint decides what it is told.
  obtain ⟨method, routes⟩ := on
  have whole : r.method ≠ "HEAD" := by
    rcases method with same | same | same <;> rw [same] <;> decide
  have own : r.method ≠ "OPTIONS" := by
    rcases method with same | same | same <;> rw [same] <;> decide
  have unasked : ¬∃ call, s.Asks r call := by
    rintro ⟨call, asks⟩
    rw [call?_eq_some.mpr asks] at nothing
    cases nothing
  -- Whatever this endpoint were to serve would be a call.
  obtain ⟨e, route, unserved⟩ : ∃ e, s.endpoint? r.path = some e ∧
      (e.methods.contains r.method = true →
        ∀ answered, s.serve h health r e ≠ .ok answered) := by
    rcases routes with ⟨rawKind, rawProject, route⟩ | ⟨rawKind, rawProject, rawName, route⟩
    · refine ⟨_, route, fun allowed answered served =>
        unasked (asks_of_resources route ?_ served)⟩
      simpa [Endpoint.methods, whole] using allowed
    · refine ⟨_, route, fun allowed answered served =>
        unasked (asks_of_resource route ?_ served)⟩
      simpa [Endpoint.methods] using allowed
  -- Either the endpoint does not have the method, or what it does is refused.
  by_cases allowed : e.methods.contains r.method = true
  · rw [answer_eq route allowed whole]
    split
    · next answered served => exact absurd served (unserved allowed answered)
    · next refusal _ => exact status_refusal refusal
  · simp only [answer, route, if_neg allowed, if_neg whole, if_neg own]
    exact show 400 ≤ 405 ∧ 405 < 500 by decide

end Site

end WatchRelay
