import WatchRelay.Proofs.Json.Nulls
import WatchRelay.Proofs.Settings.Decoding

/-! Values laid over one another: laying the same value twice is laying it once, and values that do
not meet may be laid in either order. -/

namespace WatchRelay

/-- Members in the order of their keys are the same where the same is found under each key. -/
theorem Members.eq_of_find? {m n : Members} (mOrdered : m.Pairwise (·.1 < ·.1))
    (nOrdered : n.Pairwise (·.1 < ·.1))
    (same : ∀ key, m.find? key = n.find? key) : m = n := by
  induction m generalizing n with
  | nil =>
    cases n with
    | nil => rfl
    | cons first rest => simpa [find?] using same first.1
  | cons first rest ih =>
    cases n with
    | nil => simpa [find?] using same first.1
    | cons other others =>
      obtain ⟨key, value⟩ := first
      obtain ⟨key', value'⟩ := other
      obtain ⟨before, restOrdered⟩ := List.pairwise_cons.mp mOrdered
      obtain ⟨before', othersOrdered⟩ := List.pairwise_cons.mp nOrdered
      -- Either first key stands among the keys of the other side, which begin with the other first
      -- key.
      have keys : key = key' := by
        by_contra differ
        have there : find? key others = some value := by
          have := same key
          rwa [find?, find?, if_pos rfl, if_neg (Ne.symm differ), eq_comm] at this
        have back : find? key' rest = some value' := by
          have := same key'
          rwa [find?, find?, if_pos rfl, if_neg differ] at this
        exact String.lt_irrefl _
          (String.lt_trans (before' _ (mem_of_find? there)) (before _ (mem_of_find? back)))
      subst keys
      have values : value = value' := by
        have := same key
        rwa [find?, find?, if_pos rfl, if_pos rfl, Option.some.injEq] at this
      subst values
      refine congrArg _ (ih restOrdered othersOrdered fun name => ?_)
      by_cases shared : key = name
      · -- The first key does not stand a second time.
        rw [← shared, find?_eq_none_of_ordered mOrdered, find?_eq_none_of_ordered nOrdered]
      · have := same name
        rwa [find?, find?, if_neg shared, if_neg shared] at this

namespace Json

/-! ## The same value twice -/

/-- A value laid over itself changes nothing. -/
theorem overlay_self {v : Json} (ordered : v.IsOrdered) : v.overlay v = v := by
  -- By induction on the value: each member is laid over itself, or is a null and skipped.
  induction ordered with
  | @object members ordered _ ih =>
    refine congrArg Json.object
      (Members.eq_of_find? (overlayMembers_ordered ordered _) ordered fun key => ?_)
    rw [find?_overlayMembers ordered]
    cases found : Members.find? key members with
    | none => rfl
    | some value =>
      cases null : value.isNull with
      | true => rw [isNull_iff.mp null, laid?_null]
      | false => rw [laid?_full null, ih _ (Members.mem_of_find? found)]
  | _ => rfl

/-- What is under a key stays where a member is laid over it a second time. -/
theorem laid?_laid? {below above : Option Json} (own : ∀ v, above = some v → v.overlay v = v)
    (again : ∀ b v, below = some b → above = some v → (b.overlay v).overlay v = b.overlay v) :
    laid? (laid? below above) above = laid? below above := by
  -- A null above is skipped both times, and nothing below means the value above stands alone.
  cases above with
  | none => simp
  | some v =>
    cases null : v.isNull with
    | true => simp [isNull_iff.mp null]
    | false =>
      cases below with
      | none => rw [laid?_fresh null, laid?_full null, own v rfl]
      | some b => rw [laid?_full null, laid?_full null, again b v rfl rfl]

/-- A value laid over what it is laid over already changes nothing more. -/
theorem overlay_overlay {s : Json} (ordered : s.IsOrdered) {t : Json} (below : t.IsOrdered) :
    (t.overlay s).overlay s = t.overlay s := by
  -- The induction is on the value that is laid: under each key, its member is laid twice as well.
  induction ordered generalizing t with
  | @object members ordered all ih =>
    cases below with
    | @object inner innerOrdered innerAll =>
      have once := overlayMembers_ordered innerOrdered members
      refine congrArg Json.object
        (Members.eq_of_find? (overlayMembers_ordered once _) once fun key => ?_)
      rw [find?_overlayMembers ordered, find?_overlayMembers ordered]
      refine laid?_laid? (fun v found => ?_) fun b v under found => ?_
      · exact overlay_self (all _ (Members.mem_of_find? found))
      · exact ih _ (Members.mem_of_find? found) (innerAll _ (Members.mem_of_find? under))
    -- The object has taken the place of what is no object, and is laid over itself.
    | _ => exact overlay_self (.object ordered all)
  | _ => rfl

/-! ## Two values in either order -/

/-- The value under a path of keys, which leads through objects alone. -/
def at? : List String → Json → Option Json
  | [], v => some v
  | key :: path, .object members => (Members.find? key members).bind (at? path)
  | _ :: _, _ => none

/-- Whether a value is an object. -/
def IsObject (v : Json) : Prop := ∃ members, v = .object members

/-- Two values do not meet: under no path of keys do both have a value, unless both have an object
there. -/
def Apart (a b : Json) : Prop :=
  ∀ path v w, a.at? path = some v → b.at? path = some w → v.IsObject ∧ w.IsObject

namespace Apart

variable {a b : Members}

/-- Objects do not meet if what both have under a key does not. -/
theorem of_members (each : ∀ key v w, a.find? key = some v → b.find? key = some w →
    Apart v w) :
    Apart (.object a) (.object b) := by
  -- An empty path compares the two objects, a longer one enters a common member.
  intro path v w there there'
  cases path with
  | nil =>
    cases there
    cases there'
    exact ⟨⟨a, rfl⟩, b, rfl⟩
  | cons key path =>
    obtain ⟨x, found, there⟩ := Option.bind_eq_some_iff.mp there
    obtain ⟨y, found', there'⟩ := Option.bind_eq_some_iff.mp there'
    exact each key x y found found' path v w there there'

/-- What both of two objects that do not meet have under a key does not meet. -/
theorem under (apart : Apart (.object a) (.object b)) {key : String} {v w : Json}
    (found : a.find? key = some v)
    (found' : b.find? key = some w) : Apart v w := by
  -- A path inside a member is a path of the whole, one key longer.
  intro path x y there there'
  refine apart (key :: path) x y ?_ ?_
  · exact Option.bind_eq_some_iff.mpr ⟨v, found, there⟩
  · exact Option.bind_eq_some_iff.mpr ⟨w, found', there'⟩

end Apart

/-- What contains no `null` is none. -/
theorem IsNullFree.full {v : Json} (free : v.IsNullFree) : v.isNull = false := by
  cases free <;> rfl

/-- No member of an object without nulls contains one. -/
theorem IsNullFree.member {members : Members} (free : (Json.object members).IsNullFree)
    {key : String} {v : Json}
    (found : members.find? key = some v) : v.IsNullFree := by
  cases free with
  | object all => exact all _ (Members.mem_of_find? found)

/-- A value without nulls is the same laid over the empty object. -/
theorem overlay_empty {v : Json} (ordered : v.IsOrdered) (free : v.IsNullFree) :
    (Json.object []).overlay v = v := by
  -- Without null members nothing is skipped, so every key is found as it was.
  cases ordered with
  | @object members ordered _ =>
    refine congrArg Json.object
      (Members.eq_of_find? (overlayMembers_ordered .nil _) ordered fun key => ?_)
    rw [find?_overlayMembers ordered]
    cases found : Members.find? key members with
    | none => rfl
    | some v => exact laid?_fresh (free.member found).full
  | _ => rfl

/-- Whatever it is laid over, an object without nulls is laid over the members of an object: what is
no object is as good as one without members. -/
theorem IsOrdered.base {t : Json} (ordered : t.IsOrdered) :
    ∃ below : Members, (Json.object below).IsOrdered ∧
      ∀ members : Members, (Json.object members).IsOrdered →
      (Json.object members).IsNullFree →
      t.overlay (.object members) = .object (overlayMembers below members) := by
  -- A target that is no object is replaced by an empty one before the members are laid.
  cases ordered with
  | @object below ordered all => exact ⟨below, .object ordered all, fun _ _ _ => rfl⟩
  | _ =>
    exact ⟨[], .object .nil (by simp), fun members ordered free =>
      (overlay_empty ordered free).symm⟩

/-- What is under a key is the same in whichever order two members are laid over it. -/
theorem laid?_right_comm {below first second : Option Json} (ordered : ∀ v, below = some v →
    v.IsOrdered)
    (whole : ∀ v, first = some v ∨ second = some v → v.IsOrdered ∧ v.IsNullFree)
    (turns : ∀ v w, first = some v → second = some w → ∀ b : Json, b.IsOrdered →
      (b.overlay v).overlay w = (b.overlay w).overlay v) :
    laid? (laid? below first) second = laid? (laid? below second) first := by
  cases first with
  | none => simp
  | some v =>
    cases second with
    | none => simp
    | some w =>
      obtain ⟨vOrdered, vFree⟩ := whole v (.inl rfl)
      obtain ⟨wOrdered, wFree⟩ := whole w (.inr rfl)
      cases below with
      | some b =>
        rw [laid?_full vFree.full, laid?_full wFree.full, laid?_full wFree.full,
          laid?_full vFree.full, turns v w rfl rfl b (ordered b rfl)]
      | none =>
        -- Nothing is as good as an empty object.
        have swapped := turns v w rfl rfl (.object []) (.object .nil (by simp))
        rw [overlay_empty vOrdered vFree, overlay_empty wOrdered wFree] at swapped
        rw [laid?_fresh vFree.full, laid?_full wFree.full, laid?_fresh wFree.full,
          laid?_full vFree.full, swapped]

/-- Two values without nulls that do not meet may be laid over a third in either order. -/
theorem overlay_right_comm {a b t : Json} (aOrdered : a.IsOrdered) (bOrdered : b.IsOrdered)
    (tOrdered : t.IsOrdered)
    (aFree : a.IsNullFree) (bFree : b.IsNullFree) (apart : Apart a b) :
    (t.overlay a).overlay b = (t.overlay b).overlay a := by
  -- The induction is on the first of the two; the empty path shows that both are objects.
  induction aOrdered generalizing b t with
  | @object first ordered all ih =>
    obtain ⟨-, second, rfl⟩ := apart [] _ _ rfl rfl
    have aOrdered := IsOrdered.object ordered all
    obtain ⟨below, belowOrdered, base⟩ := tOrdered.base
    rw [base first aOrdered aFree, base second bOrdered bFree]
    cases belowOrdered with
    | object sorted among =>
      cases bOrdered with
      | object ordered' all' =>
        refine congrArg Json.object (Members.eq_of_find?
          (overlayMembers_ordered (overlayMembers_ordered sorted _) _)
          (overlayMembers_ordered (overlayMembers_ordered sorted _) _) fun key => ?_)
        simp only [find?_overlayMembers ordered, find?_overlayMembers ordered']
        refine laid?_right_comm (fun v found => among _ (Members.mem_of_find? found)) ?_ ?_
        · rintro v (found | found)
          · exact ⟨all _ (Members.mem_of_find? found), aFree.member found⟩
          · exact ⟨all' _ (Members.mem_of_find? found), bFree.member found⟩
        · intro v w found found' b bOrdered
          exact ih _ (Members.mem_of_find? found) (all' _ (Members.mem_of_find? found')) bOrdered
            (aFree.member found) (bFree.member found') (apart.under found found')
  | _ =>
    obtain ⟨⟨members, same⟩, -⟩ := apart [] _ _ rfl rfl
    cases same

/-- Laying a value over another repeats, and commutes for objects without nulls that are apart.

Laying a value over another a second time changes nothing, whatever the two are.

Two objects without nulls may be laid over any value in either order.
Under no path of keys may both have a value without both having an object there. -/
theorem overlays_repeat_and_commute :
    (∀ t s : Json, t.IsOrdered → s.IsOrdered → (t.overlay s).overlay s = t.overlay s) ∧
    ∀ (t : Json) (a b : Members), t.IsOrdered → (Json.object a).IsOrdered →
      (Json.object b).IsOrdered →
      (Json.object a).IsNullFree → (Json.object b).IsNullFree →
      Apart (.object a) (.object b) →
      (t.overlay (.object a)).overlay (.object b) = (t.overlay (.object b)).overlay (.object a) :=
  ⟨fun _ _ below ordered => overlay_overlay ordered below,
    fun _ _ _ below aOrdered bOrdered aFree bFree apart =>
      overlay_right_comm aOrdered bOrdered below aFree bFree apart⟩

/-- Two files that each bring a part of one group, where the target has a number in place of the
group, give the same whichever comes first; a file with a `null` in a new group changes nothing the
second time. -/
theorem overlays_repeat_and_commute_grouped :
    let target := Json.object [("items", .array [.ofNat 1]), ("server", .ofNat 8080)]
    let nulled := Json.object [("items", .null), ("server", .object [("host", .null)])]
    let ports : Members := [("server", .object [("port", .ofNat 9090)])]
    let hosts : Members := [("items", .array []), ("server", .object [("host", .string "relay")])]
    (target.IsOrdered ∧ nulled.IsOrdered ∧
      (target.overlay nulled).overlay nulled = target.overlay nulled) ∧
    (Json.object ports).IsOrdered ∧ (Json.object hosts).IsOrdered ∧
    (Json.object ports).IsNullFree ∧
      (Json.object hosts).IsNullFree ∧ Apart (.object ports) (.object hosts) ∧
      (target.overlay (.object ports)).overlay (.object hosts) =
        .object [("items", .array []),
          ("server", .object [("host", .string "relay"), ("port", .ofNat 9090)])] ∧
      (target.overlay (.object ports)).overlay (.object hosts) =
        (target.overlay (.object hosts)).overlay (.object ports) := by
  intro target nulled ports hosts
  have targetOrdered : target.IsOrdered := by
    refine .object (by decide)
      (List.forall_mem_cons.mpr ⟨.array ?_, List.forall_mem_singleton.mpr (.number _)⟩)
    exact List.forall_mem_singleton.mpr (.number _)
  have nulledOrdered : nulled.IsOrdered := by
    refine .object (by decide)
      (List.forall_mem_cons.mpr ⟨.null, List.forall_mem_singleton.mpr ?_⟩)
    exact .object (by decide) (List.forall_mem_singleton.mpr .null)
  have portsOrdered : (Json.object ports).IsOrdered := by
    refine .object (by decide) (List.forall_mem_singleton.mpr ?_)
    exact .object (by decide) (List.forall_mem_singleton.mpr (.number _))
  have hostsOrdered : (Json.object hosts).IsOrdered := by
    refine .object (by decide)
      (List.forall_mem_cons.mpr ⟨.array (by simp), List.forall_mem_singleton.mpr ?_⟩)
    exact .object (by decide) (List.forall_mem_singleton.mpr (.string _))
  have portsFree : (Json.object ports).IsNullFree :=
    .object (List.forall_mem_singleton.mpr (.object (List.forall_mem_singleton.mpr (.number _))))
  have hostsFree : (Json.object hosts).IsNullFree := by
    refine .object
      (List.forall_mem_cons.mpr ⟨.array (by simp), List.forall_mem_singleton.mpr ?_⟩)
    exact .object (List.forall_mem_singleton.mpr (.string _))
  -- Only the group of both is common to them.
  have apart : Apart (.object ports) (.object hosts) := by
    refine .of_members fun key v w found found' => ?_
    obtain ⟨rfl, rfl⟩ : key = "server" ∧ .object [("port", .ofNat 9090)] = v := by
      simpa [ports, Members.find?, eq_comm] using found
    obtain rfl : .object [("host", .string "relay")] = w := by
      simpa [hosts, Members.find?] using found'
    -- The two parts of the group have no key in common.
    refine .of_members fun key v w found found' => ?_
    obtain ⟨rfl, -⟩ : "port" = key ∧ _ := by simpa [Members.find?] using found
    simp [Members.find?] at found'
  exact ⟨⟨targetOrdered, nulledOrdered,
    overlays_repeat_and_commute.1 _ _ targetOrdered nulledOrdered⟩, portsOrdered, hostsOrdered,
    portsFree, hostsFree, apart, rfl, overlays_repeat_and_commute.2 _ _ _ targetOrdered portsOrdered
    hostsOrdered portsFree hostsFree apart⟩

end Json

end WatchRelay
