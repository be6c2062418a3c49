import NetbirdOperator.NetworkRouter.Model

/-!
# The peer group of a router

A router with no peers routes nothing, and one that is reported ready in that state tells nobody.
`Sound` says what a pass may send: no router names the empty group, and an object is reported ready
only with the id of the group it asks for.

The stages of `ensureDeployedPeers` wait for a child that is not ready, but not for one the cache
does not have yet: not found is dropped as an error, and what is returned instead is the empty group
id, which the caller takes for the group (`empty_group_reported_ready`). A pass is sound exactly
when it does not come to that: `BlindWrite` is the condition that a child is not seen and nothing
else stops the pass before the router is written.

## Main results

* `NetworkRouter.ensureDeployedPeers_eq_ok` — what the stages return
* `NetworkRouter.empty_group_reported_ready` — a first pass over a new object
* `NetworkRouter.soundPass_iff` — passes are sound but for blind writes
-/

namespace NetbirdOperator

open ControlLoop

namespace NetworkRouter

open Pass

variable {env : Env} {w w' w₀ : World} {o : CR} {c : Call} {child : Child} {r : String}
  {networkID : ℕ}

/-! ### The group an object asks for -/

/-- The reference denotes the group with that id. -/
def RefersTo (groups : Groups) (ns : String) (g : GroupReference) (id : String) : Prop :=
  match g.name, g.id, g.localRef with
  | some name, _, _ => groups.getByName name = .ok id
  | none, some i, _ => groups.get i = .ok id
  | none, none, some name => groups.getLocal ns name = .ok id
  | none, none, none => False

/-- The id is that of the Group with that name, the SetupKey with that name has an id, and all pods
of the DaemonSet with that name are ready. -/
structure Deployed (env : Env) (ns name id : String) : Prop where
  group : env.groups.getLocal ns name = .ok id
  setupKey : ∃ key, env.setupKeyStatus ns name = some key ∧ key ≠ ""
  daemonSet : ∃ ds, env.daemonSetStatus ns name = some ds ∧
    ds.desiredNumberScheduled ≠ 0 ∧ ds.numberReady = ds.desiredNumberScheduled

/-- The id is that of the group the object refers to, or of the peers it has deployed. -/
def PeerGroup (env : Env) (o : CR) (id : String) : Prop :=
  match o.spec.peers.group with
  | some g => RefersTo env.groups o.ns g id
  | none => Deployed env o.ns (routerName o) id

/-- **What a pass may send.** -/
def Sound (env : Env) : Sent → Prop
  | .applied _ => True
  | .router _ req => "" ∉ req.peerGroups
  | .ready o => o.status.groupID ≠ "" ∧ PeerGroup env o o.status.groupID

/-- From `w₀` on, only what may be sent was sent. -/
def SentSound (env : Env) (w₀ w : World) : Prop :=
  ∃ new, w.sent = w₀.sent ++ new ∧ ∀ s ∈ new, Sound env s

/-- A pass that sends only what may be sent. -/
def SoundPass (env : Env) (w : World) : Prop := SentSound env w (reconcile env w).2

theorem SentSound.refl : SentSound env w w := ⟨[], by simp, by simp⟩

theorem SentSound.record (h : SentSound env w₀ w) {s : Sent} (hs : Sound env s) :
    SentSound env w₀ { w with sent := w.sent ++ [s] } := by
  obtain ⟨new, hnew, hall⟩ := h
  refine ⟨new ++ [s], by simp [hnew], fun t ht => ?_⟩
  rcases List.mem_append.mp ht with ht | ht
  · exact hall t ht
  · obtain rfl := List.mem_singleton.mp ht
    exact hs

/-! ### The stages -/

/-- The world once a child is applied. -/
def World.withChild (w : World) (child : Child) : World :=
  { w with sent := w.sent ++ [.applied child] }

theorem apply_of_none (h : env.fault c = none) (w : World) :
    apply env c child w = (.ok (), w.withChild child) := by
  rw [apply, bind_of_ok (call_of_none h w)]
  rfl

theorem apply_of_some {f : Fault} (h : env.fault c = some f) (w : World) :
    apply env c child w = (.error (.api c f), w) := by
  rw [apply, bind_of_error (call_of_some h w)]

section Stage

variable {α : Type} {got : Except Err (Option α)} {ready : α → Bool} {waiting : String}
  {next : α → M String}

/-- A stage returns the empty id for a child that is not found, and what the next stages return for
one that is ready. -/
theorem stage_eq_ok :
    stage env c child got ready waiting next w = (.ok r, w') ↔
      env.fault c = none ∧
        ((got = .ok none ∧ r = "" ∧ w' = w.withChild child) ∨
          ∃ a, got = .ok (some a) ∧ ready a = true ∧
            next a (w.withChild child) = (.ok r, w')) := by
  cases hf : env.fault c with
  | some f => simp [stage, bind_of_error (apply_of_some hf w)]
  | none =>
    unfold stage
    rw [bind_of_ok (apply_of_none hf w)]
    match got with
    | .error e => simp
    | .ok none =>
      constructor
      · intro h
        obtain ⟨rfl, rfl⟩ : "" = r ∧ w.withChild child = w' := by simpa using h
        exact ⟨rfl, Or.inl ⟨rfl, rfl, rfl⟩⟩
      · rintro ⟨-, ⟨-, rfl, rfl⟩ | ⟨a, ha, -⟩⟩
        · rfl
        · simp at ha
    | .ok (some a) => by_cases ha : ready a = true <;> simp [ha]

theorem stage_triple {P : World → Prop} (hP : ∀ w, P w → P (w.withChild child))
    (hnext : ∀ a, Triple P (next a) (fun _ => P) fun _ => P) :
    Triple P (stage env c child got ready waiting next) (fun _ => P) fun _ => P := by
  have happly : Triple P (apply env c child) (fun _ => P) fun _ => P :=
    Triple.bind (call_triple fun _ _ => id) fun _ w hw => hP w hw
  refine Triple.bind happly fun _ => ?_
  match got with
  | .error e => exact fun _ hw => hw
  | .ok none => exact fun _ hw => hw
  | .ok (some a) =>
    by_cases ha : ready a = true
    · simpa only [ha, if_true] using hnext a
    · simp only [ha]
      exact fun _ hw => hw

end Stage

/-! ### What the group resolves to -/

theorem mem_of_map {x : Except GroupErr String} {ids : List String}
    (h : x.map (fun id => [] ++ [id]) = .ok ids) : ∀ id ∈ ids, x = .ok id := by
  cases x with
  | error e => simp [Except.map] at h
  | ok i =>
    obtain rfl : [i] = ids := by simpa [Except.map] using h
    simp

/-- A reference to a group yields at most its id. -/
theorem refersTo_of_getGroupIDs {groups : Groups} {ns : String} {g : GroupReference}
    {ids : List String} (h : getGroupIDs groups [g] ns = .ok ids) :
    ∀ id ∈ ids, RefersTo groups ns g id := by
  have hone : appendGroupID groups ns [] g = .ok ids := by
    simpa [getGroupIDs] using h
  obtain ⟨name, id, localRef⟩ := g
  match name, id, localRef with
  | some name, _, _ => exact mem_of_map hone
  | none, some id, _ => exact mem_of_map hone
  | none, none, some name =>
    cases hget : groups.getLocal ns name with
    | error e => simp [appendGroupID, hget, bind, Except.bind] at hone
    | ok id =>
      by_cases hid : id = ""
      · simp [appendGroupID, hget, hid, bind, Except.bind] at hone
      · obtain rfl : [id] = ids := by
          simpa [appendGroupID, hget, hid, bind, Except.bind] using hone
        simp [RefersTo, hget]
  | none, none, none =>
    obtain rfl : [] = ids := by simpa [appendGroupID] using hone
    simp

/-- On the way through the stages, the cache does not have a child that was just applied. Each
stage is reached only if the calls before it went through and the children before it are ready. -/
def Unseen (env : Env) (o : CR) : Prop :=
  env.fault .applyGroup = none ∧
    (env.groups.getLocal o.ns (routerName o) = .error .notFound ∨
      (∃ id, env.groups.getLocal o.ns (routerName o) = .ok id ∧ id ≠ "") ∧
        env.fault .applySetupKey = none ∧ env.fault .getSetupKey = none ∧
        (env.setupKeyStatus o.ns (routerName o) = none ∨
          (∃ key, env.setupKeyStatus o.ns (routerName o) = some key ∧ key ≠ "") ∧
            env.fault .applyDaemonSet = none ∧ env.fault .getDaemonSet = none ∧
            env.daemonSetStatus o.ns (routerName o) = none))

theorem getGroup_eq_none {ns name : String} :
    getGroup env ns name = .ok none ↔ env.groups.getLocal ns name = .error .notFound := by
  unfold getGroup
  split <;> simp_all

theorem getGroup_eq_some {ns name id : String} :
    getGroup env ns name = .ok (some id) ↔ env.groups.getLocal ns name = .ok id := by
  unfold getGroup
  split <;> simp_all

theorem getChild_eq_ok {α : Type} {status : String → String → Option α} {ns name : String}
    {found : Option α} :
    getChild env c status ns name = .ok found ↔ env.fault c = none ∧ status ns name = found := by
  unfold getChild
  split <;> simp_all

theorem podsReady_eq_true {ds : DaemonSetStatus} :
    ds.podsReady = true ↔
      ds.desiredNumberScheduled ≠ 0 ∧ ds.numberReady = ds.desiredNumberScheduled := by
  simp [DaemonSetStatus.podsReady]

/-- The calls of the stages go through. -/
def StagesGo (env : Env) : Prop :=
  env.fault .applyGroup = none ∧ env.fault .applySetupKey = none ∧ env.fault .getSetupKey = none ∧
    env.fault .applyDaemonSet = none ∧ env.fault .getDaemonSet = none

/-- **What the stages return**: the id of the deployed group, or the empty one if a child is not
seen. -/
theorem ensureDeployedPeers_eq_ok :
    (∃ w', ensureDeployedPeers env o w = (.ok r, w')) ↔
      (r ≠ "" ∧ StagesGo env ∧ Deployed env o.ns (routerName o) r) ∨ (r = "" ∧ Unseen env o) := by
  constructor
  · rintro ⟨w', h⟩
    obtain ⟨hgroup, ⟨hget, rfl, -⟩ | ⟨id, hget, hid, h⟩⟩ := stage_eq_ok.mp h
    · exact Or.inr ⟨rfl, hgroup, Or.inl (getGroup_eq_none.mp hget)⟩
    have hid : id ≠ "" := by simpa using hid
    have hget := getGroup_eq_some.mp hget
    obtain ⟨hkey, ⟨hgetKey, rfl, -⟩ | ⟨key, hgetKey, hne, h⟩⟩ := stage_eq_ok.mp h
    · obtain ⟨hread, hnone⟩ := getChild_eq_ok.mp hgetKey
      exact Or.inr ⟨rfl, hgroup, Or.inr ⟨⟨id, hget, hid⟩, hkey, hread, Or.inl hnone⟩⟩
    have hne : key ≠ "" := by simpa using hne
    obtain ⟨hread, hsome⟩ := getChild_eq_ok.mp hgetKey
    obtain ⟨hds, ⟨hgetDS, rfl, -⟩ | ⟨ds, hgetDS, hpods, h⟩⟩ := stage_eq_ok.mp h
    · obtain ⟨hreadDS, hnone⟩ := getChild_eq_ok.mp hgetDS
      exact Or.inr ⟨rfl, hgroup, Or.inr ⟨⟨id, hget, hid⟩, hkey, hread,
        Or.inr ⟨⟨key, hsome, hne⟩, hds, hreadDS, hnone⟩⟩⟩
    · obtain rfl : id = r := by simpa using congrArg Prod.fst h
      obtain ⟨hreadDS, hfound⟩ := getChild_eq_ok.mp hgetDS
      exact Or.inl ⟨hid, ⟨hgroup, hkey, hread, hds, hreadDS⟩, hget, ⟨key, hsome, hne⟩, ds, hfound,
        podsReady_eq_true.mp hpods⟩
  · rintro (⟨hid, ⟨hgroup, hkey, hread, hds, hreadDS⟩, hget, ⟨key, hsome, hne⟩, ds, hfound, hpods⟩ |
      ⟨rfl, hgroup, hmiss | ⟨⟨id, hget, hid⟩, hkey, hread, hrest⟩⟩)
    · refine ⟨_, stage_eq_ok.mpr ⟨hgroup, Or.inr ⟨r, getGroup_eq_some.mpr hget, by simpa using hid,
        stage_eq_ok.mpr ⟨hkey, Or.inr ⟨key, getChild_eq_ok.mpr ⟨hread, hsome⟩, by simpa using hne,
          stage_eq_ok.mpr ⟨hds, Or.inr ⟨ds, getChild_eq_ok.mpr ⟨hreadDS, hfound⟩,
            podsReady_eq_true.mpr hpods, rfl⟩⟩⟩⟩⟩⟩⟩
    · exact ⟨_, stage_eq_ok.mpr ⟨hgroup, Or.inl ⟨getGroup_eq_none.mpr hmiss, rfl, rfl⟩⟩⟩
    obtain hmiss | ⟨⟨key, hsome, hne⟩, hds, hreadDS, hmiss⟩ := hrest
    · refine ⟨_, stage_eq_ok.mpr ⟨hgroup, Or.inr ⟨id, getGroup_eq_some.mpr hget, by simpa using hid,
        stage_eq_ok.mpr ⟨hkey, Or.inl ⟨getChild_eq_ok.mpr ⟨hread, hmiss⟩, rfl, rfl⟩⟩⟩⟩⟩
    · refine ⟨_, stage_eq_ok.mpr ⟨hgroup, Or.inr ⟨id, getGroup_eq_some.mpr hget, by simpa using hid,
        stage_eq_ok.mpr ⟨hkey, Or.inr ⟨key, getChild_eq_ok.mpr ⟨hread, hsome⟩, by simpa using hne,
          stage_eq_ok.mpr ⟨hds, Or.inl ⟨getChild_eq_ok.mpr ⟨hreadDS, hmiss⟩, rfl, rfl⟩⟩⟩⟩⟩⟩⟩

/-- The group of the object is found, or its deployed peers are ready or not seen. -/
def FindsGroup (env : Env) (o : CR) : Prop :=
  match o.spec.peers.group with
  | some g => ∃ id, referencedGroup env o.ns g = .ok id
  | none => Unseen env o ∨ StagesGo env ∧ ∃ id, id ≠ "" ∧ Deployed env o.ns (routerName o) id

/-- **When a pass gets past its group.** -/
theorem exists_resolvePeerGroup_eq_ok :
    (∃ r w', resolvePeerGroup env o w = (.ok r, w')) ↔ FindsGroup env o := by
  unfold resolvePeerGroup FindsGroup
  cases o.spec.peers.group with
  | some g =>
    exact exists_congr fun r => ⟨fun ⟨_, h⟩ => congrArg Prod.fst h, fun h => ⟨w, Prod.ext h rfl⟩⟩
  | none =>
    simp only [ensureDeployedPeers_eq_ok]
    constructor
    · rintro ⟨r, ⟨hr, hgo, hdep⟩ | ⟨-, hunseen⟩⟩
      · exact Or.inr ⟨hgo, r, hr, hdep⟩
      · exact Or.inl hunseen
    · rintro (hunseen | ⟨hgo, id, hid, hdep⟩)
      · exact ⟨"", Or.inr ⟨rfl, hunseen⟩⟩
      · exact ⟨id, Or.inl ⟨hid, hgo, hdep⟩⟩

/-- What `resolvePeerGroup` returns is the group asked for, or the empty id of peers not seen. -/
theorem resolvePeerGroup_ok (h : resolvePeerGroup env o w = (.ok r, w')) :
    (r ≠ "" ∧ PeerGroup env o r) ∨ (r = "" ∧ o.spec.peers.group = none ∧ Unseen env o) := by
  unfold resolvePeerGroup at h
  unfold PeerGroup
  cases hg : o.spec.peers.group with
  | none =>
    rw [hg] at h
    obtain ⟨hr, -, hdep⟩ | ⟨hr, hunseen⟩ := ensureDeployedPeers_eq_ok.mp ⟨_, h⟩
    · exact Or.inl ⟨hr, hdep⟩
    · exact Or.inr ⟨hr, rfl, hunseen⟩
  | some g =>
    rw [hg] at h
    have h : referencedGroup env o.ns g = .ok r := congrArg Prod.fst h
    unfold referencedGroup at h
    split at h
    · simp at h
    · rename_i ids hids
      split at h
      · simp at h
      · rename_i hne
        obtain rfl : ids.headD "" = r := by simpa using h
        have hmem : ids.headD "" ∈ ids := by
          cases ids with
          | nil => simp at hne
          | cons i ids => simp
        exact Or.inl ⟨hne, refersTo_of_getGroupIDs hids _ hmem⟩

theorem SentSound.withChild (h : SentSound env w₀ w) (child : Child) :
    SentSound env w₀ (w.withChild child) := h.record trivial

/-- Resolving the group sends nothing but applies, and leaves the routers alone. -/
theorem resolvePeerGroup_triple (w₀ : World) :
    Triple (fun w => w.networks = w₀.networks ∧ SentSound env w₀ w) (resolvePeerGroup env o)
      (fun _ w => w.networks = w₀.networks ∧ SentSound env w₀ w)
      fun _ w => w.networks = w₀.networks ∧ SentSound env w₀ w := by
  have hchild : ∀ child (w : World), w.networks = w₀.networks ∧ SentSound env w₀ w →
      (w.withChild child).networks = w₀.networks ∧ SentSound env w₀ (w.withChild child) :=
    fun child w hw => ⟨hw.1, hw.2.withChild child⟩
  unfold resolvePeerGroup
  cases o.spec.peers.group with
  | none =>
    exact stage_triple (hchild _) fun _ => stage_triple (hchild _) fun _ =>
      stage_triple (hchild _) fun _ _ hw => hw
  | some g => exact Triple.of_unchanged (fun _ => rfl) fun _ _ => id

/-! ### The router's call -/

/-- The calls `upsertRouter` makes go through: the get of a recorded router, then the update of one
that exists or the create in place of one that does not. -/
def UpsertGoesThrough (env : Env) (routers : Store Router) : Option ℕ → Prop
  | none => env.fault .createRouter = none
  | some id =>
    env.fault .getRouter = none ∧
      env.fault (if (routers.get id).isSome then .updateRouter else .createRouter) = none

section Upsert

variable {routerID : Option ℕ} {id : ℕ} {req : Router}

/-- The world once a router of a network is written. -/
def World.withRouter (w : World) (networkID : ℕ) (routers : Store Router) (req : Router) : World :=
  { w with
    networks := setRouters networkID routers w.networks
    sent := w.sent ++ [.router networkID req] }

theorem updateRouter_of_none (h : env.fault .updateRouter = none)
    (hfound : ((w.networks networkID).get id).isSome = true) :
    updateRouter env networkID id req w =
      (.ok id, w.withRouter networkID ((w.networks networkID).update id req) req) := by
  rw [updateRouter, bind_of_ok (call_of_none h w), bind_of_ok (read_apply _ w), if_pos hfound]
  rfl

theorem createRouter_of_none (h : env.fault .createRouter = none) (w : World) :
    createRouter env networkID req w =
      (.ok (w.networks networkID).next,
        w.withRouter networkID ((w.networks networkID).create req) req) := by
  rw [createRouter, bind_of_ok (call_of_none h w)]
  rfl

theorem updateRouter_of_some {f : Fault} (h : env.fault .updateRouter = some f) (w : World) :
    updateRouter env networkID id req w = (.error (.api .updateRouter f), w) := by
  rw [updateRouter, bind_of_error (call_of_some h w)]

theorem createRouter_of_some {f : Fault} (h : env.fault .createRouter = some f) (w : World) :
    createRouter env networkID req w = (.error (.api .createRouter f), w) := by
  rw [createRouter, bind_of_error (call_of_some h w)]

theorem routerExists_of_none (h : env.fault .getRouter = none) (w : World) :
    routerExists env networkID id w = (.ok ((w.networks networkID).get id).isSome, w) := by
  rw [routerExists, bind_of_ok (call_of_none h w)]
  rfl

/-- Calls that go through write the router. -/
theorem upsertRouter_of_goesThrough (r : String) (spec : Spec)
    (h : UpsertGoesThrough env (w.networks networkID) routerID) :
    ∃ id routers, upsertRouter env networkID routerID r spec w =
      (.ok id, w.withRouter networkID routers (routerRequest spec r)) := by
  cases routerID with
  | none => exact ⟨_, _, createRouter_of_none h w⟩
  | some id =>
    obtain ⟨hget, hcall⟩ := h
    rw [upsertRouter, bind_of_ok (Mirror.verifyNetbirdID_of_ok (routerExists_of_none hget w))]
    cases hfound : ((w.networks networkID).get id).isSome with
    | true =>
      rw [hfound] at hcall
      exact ⟨_, _, updateRouter_of_none hcall hfound⟩
    | false =>
      rw [hfound] at hcall
      exact ⟨_, _, createRouter_of_none hcall w⟩

/-- If one of them does not, nothing is written. -/
theorem upsertRouter_of_not_goesThrough (r : String) (spec : Spec)
    (h : ¬ UpsertGoesThrough env (w.networks networkID) routerID) :
    ∃ e, upsertRouter env networkID routerID r spec w = (.error e, w) := by
  cases routerID with
  | none =>
    obtain ⟨f, hf⟩ := Option.ne_none_iff_exists'.mp h
    exact ⟨_, createRouter_of_some hf w⟩
  | some id =>
    cases hget : env.fault .getRouter with
    | some f =>
      have hexists : routerExists env networkID id w = (.error (.api .getRouter f), w) := by
        rw [routerExists, bind_of_error (call_of_some hget w)]
      exact ⟨_, by rw [upsertRouter, Mirror.verifyNetbirdID, bind_of_error (bind_of_error hexists)]⟩
    | none =>
      rw [upsertRouter, bind_of_ok (Mirror.verifyNetbirdID_of_ok (routerExists_of_none hget w))]
      cases hfound : ((w.networks networkID).get id).isSome with
      | true =>
        obtain ⟨f, hf⟩ := Option.ne_none_iff_exists'.mp fun hf => h ⟨hget, by rw [hfound]; exact hf⟩
        exact ⟨_, updateRouter_of_some hf w⟩
      | false =>
        obtain ⟨f, hf⟩ := Option.ne_none_iff_exists'.mp fun hf => h ⟨hget, by rw [hfound]; exact hf⟩
        exact ⟨_, createRouter_of_some hf w⟩

end Upsert

/-! ### Passes -/

/-- **The exception.** A live object whose network is resolved asks for deployed peers, the cache
does not have one of the children the pass gets to, and every other call up to the router's goes
through. The router the pass would update is the one on record, unless that is in another
network. -/
def BlindWrite (env : Env) (w : World) : Prop :=
  ∃ o networkID, w.cr = some o ∧ o.deleting = false ∧
    env.fault .get = none ∧ env.fault .patchFinalizer = none ∧ env.fault .getNetwork = none ∧
    env.networkStatus o.spec.networkRef = some (some networkID) ∧
    o.spec.peers.group = none ∧ Unseen env o ∧
    UpsertGoesThrough env (w.networks networkID)
      (if o.status.networkID ≠ none ∧ o.status.networkID ≠ some networkID then none
        else o.status.routerID)

theorem patchFinalizer_of_none (h : env.fault c = none) (w : World) :
    patch env c { o with finalizer := true } w =
      (.ok (), { w with cr := some { o with finalizer := true } }) := by
  rw [patch, bind_of_ok (call_of_none h w), modify_apply, if_neg (by simp)]

theorem patch_triple {P : World → Prop} (hP : ∀ w cr, P w → P { w with cr := cr }) :
    Triple P (patch env c o) (fun _ => P) fun _ => P :=
  Triple.bind (call_triple fun _ _ => id) fun _ w hw => hP w _ hw

theorem SentSound.withCR (cr : Option CR) (h : SentSound env w₀ w) :
    SentSound env w₀ { w with cr := cr } := h

theorem dependency_triple {e : Err} :
    Triple (SentSound env w₀) (dependency env o e) (fun _ => SentSound env w₀)
      fun _ => SentSound env w₀ := by
  cases e with
  | dependencyNotReady msg =>
    exact Triple.bind (patch_triple fun _ cr => SentSound.withCR cr) fun _ _ hw => hw
  | api | notFound | group => exact fun _ hw => hw

/-- A pass that has the group binds it, and reports the object ready with it. -/
theorem bindGroup_triple (hr : r ≠ "") (hgroup : PeerGroup env o r) :
    Triple (SentSound env w₀) (bindGroup env networkID o r) (fun _ => SentSound env w₀)
      fun _ => SentSound env w₀ := by
  have hreq : Sound env (.router networkID (routerRequest o.spec r)) := by
    simpa [Sound, routerRequest] using hr.symm
  have hupsert : Triple (SentSound env w₀)
      (upsertRouter env networkID o.status.routerID r o.spec) (fun _ => SentSound env w₀)
      fun _ => SentSound env w₀ := by
    intro w hw
    by_cases hgo : UpsertGoesThrough env (w.networks networkID) o.status.routerID
    · obtain ⟨id, routers, hup⟩ := upsertRouter_of_goesThrough r o.spec hgo
      rw [hup]
      exact hw.record hreq
    · obtain ⟨e, hup⟩ := upsertRouter_of_not_goesThrough r o.spec hgo
      rw [hup]
      exact hw
  refine Triple.bind hupsert fun id => ?_
  refine Triple.bind (patch_triple fun _ cr => SentSound.withCR cr) fun _ => ?_
  refine Triple.bind (Q := fun _ => SentSound env w₀) (fun w hw => ?_) fun _ _ hw => hw
  exact hw.record ⟨hr, hgroup⟩

/-- With the router's call failing, it does not matter which group the pass has. -/
theorem bindGroup_of_not_goesThrough
    (h : ¬ UpsertGoesThrough env (w₀.networks networkID) o.status.routerID) :
    Triple (fun w => w.networks = w₀.networks ∧ SentSound env w₀ w) (bindGroup env networkID o r)
      (fun _ => SentSound env w₀) fun _ => SentSound env w₀ := by
  intro w hw
  rw [← hw.1] at h
  obtain ⟨e, hup⟩ := upsertRouter_of_not_goesThrough r o.spec h
  rw [bindGroup, bind_of_error hup]
  exact hw.2

/-- Without a blind write, the group is known whenever the router is written. -/
theorem reconcileRouter_triple
    (hblind : o.spec.peers.group = none → Unseen env o →
      ¬ UpsertGoesThrough env (w₀.networks networkID) o.status.routerID) :
    Triple (fun w => w.networks = w₀.networks ∧ SentSound env w₀ w)
      (reconcileRouter env networkID o) (fun _ => SentSound env w₀)
      fun _ => SentSound env w₀ := by
  intro w hw
  rw [reconcileRouter, bind_of_ok (observe_apply _ w)]
  have hframe := (resolvePeerGroup_triple w₀).final hw (m := resolvePeerGroup env o)
  rcases hresolve : resolvePeerGroup env o w with ⟨outcome, w'⟩
  rw [hresolve] at hframe
  cases outcome with
  | error e => exact dependency_triple w' hframe.2
  | ok r =>
    obtain ⟨hr, hgroup⟩ | ⟨-, hnone, hunseen⟩ := resolvePeerGroup_ok hresolve
    · exact bindGroup_triple hr hgroup w' hframe.2
    · exact bindGroup_of_not_goesThrough (hblind hnone hunseen) w' hframe

theorem reconcileLive_triple (hcr : w₀.cr = some o) (hlive : o.deleting = false)
    (hget : env.fault .get = none) (hblind : ¬ BlindWrite env w₀) :
    Triple (fun w => w = w₀) (reconcileLive env o) (fun _ => SentSound env w₀)
      fun _ => SentSound env w₀ := by
  rintro w rfl
  rw [reconcileLive]
  cases hpatch : env.fault .patchFinalizer with
  | some f =>
    rw [patch, bind_of_error (bind_of_error (call_of_some hpatch w))]
    exact SentSound.refl
  | none =>
    rw [bind_of_ok (patchFinalizer_of_none hpatch w)]
    cases hnet : resolveNetworkID env o.spec.networkRef with
    | error e => exact dependency_triple _ SentSound.refl
    | ok networkID =>
      obtain ⟨hfault, hstatus⟩ := Mirror.dependencyID_eq_ok.mp hnet
      refine reconcileRouter_triple (o := withNetwork { o with finalizer := true } networkID)
        (fun hnone hunseen hgo => hblind ?_) _ ⟨rfl, SentSound.refl⟩
      exact ⟨o, networkID, hcr, hlive, hget, hpatch, hfault, hstatus, hnone, hunseen, hgo⟩

theorem reconcileDelete_triple :
    Triple (SentSound env w₀) (reconcileDelete env o) (fun _ => SentSound env w₀)
      fun _ => SentSound env w₀ := by
  have hrecorded : Triple (SentSound env w₀) (deleteRecorded env o) (fun _ => SentSound env w₀)
      fun _ => SentSound env w₀ := by
    unfold deleteRecorded
    split
    · exact Triple.bind (call_triple fun _ _ => id) fun _ _ hw => hw
    · exact fun _ hw => hw
  exact Triple.bind hrecorded fun _ =>
    Triple.bind (patch_triple fun _ cr => SentSound.withCR cr) fun _ _ hw => hw

theorem soundPass_of_not_blindWrite (h : ¬ BlindWrite env w) : SoundPass env w := by
  unfold SoundPass
  rw [reconcile]
  cases hget : env.fault .get with
  | some f =>
    rw [bind_of_error (call_of_some hget w)]
    exact SentSound.refl
  | none =>
    rw [bind_of_ok (call_of_none hget w), bind_of_ok (read_apply _ w)]
    cases hcr : w.cr with
    | none => exact SentSound.refl
    | some o =>
      cases hdel : o.deleting with
      | true =>
        simp only [hdel, if_true]
        exact reconcileDelete_triple.final SentSound.refl
      | false =>
        simp only [hdel]
        exact (reconcileLive_triple hcr hdel hget h).final rfl

/-- Once a router with the empty group is sent, it is there at the end of the pass. -/
theorem not_sentSound_of_prefix {new : List Sent} {req : Router} (hempty : "" ∈ req.peerGroups)
    (h : w₀.sent ++ (new ++ [.router networkID req]) <+: w.sent) : ¬ SentSound env w₀ w := by
  rintro ⟨all, hall, hsound⟩
  rw [hall, List.prefix_append_right_inj] at h
  exact hsound (.router networkID req) (h.subset (by simp)) hempty

theorem bindGroup_prefix
    (hgo : UpsertGoesThrough env (w.networks networkID) o.status.routerID) :
    w.sent ++ [.router networkID (routerRequest o.spec r)] <+:
      (bindGroup env networkID o r w).2.sent := by
  obtain ⟨id, routers, hup⟩ := upsertRouter_of_goesThrough r o.spec hgo
  rw [bindGroup, bind_of_ok hup]
  have hrest : ∀ s : List Sent,
      Triple (fun w' : World => s <+: w'.sent)
        (do
          patch env .patchReady (asReady o r id)
          record (.ready (asReady o r id))
          pure ⟨some resyncInterval⟩ : M Result)
        (fun _ w' => s <+: w'.sent) fun _ w' => s <+: w'.sent := by
    intro s
    refine Triple.bind (patch_triple fun _ _ hw => hw) fun _ => ?_
    exact fun _ hw => hw.trans (List.prefix_append _ _)
  exact (hrest _).final (List.prefix_refl _)

/-- A blind write sends a router with the empty group. -/
theorem not_soundPass_of_blindWrite (h : BlindWrite env w) : ¬ SoundPass env w := by
  obtain ⟨o, networkID, hcr, hlive, hget, hpatch, hfault, hstatus, hnone, hunseen, hgo⟩ := h
  let o₁ := withNetwork { o with finalizer := true } networkID
  let w₁ : World := { w with cr := some { o with finalizer := true } }
  obtain ⟨w₂, hpeers⟩ := (ensureDeployedPeers_eq_ok (o := o₁) (w := w₁)).mpr (Or.inr ⟨rfl, hunseen⟩)
  have hresolve : resolvePeerGroup env o₁ w₁ = (.ok "", w₂) := by
    rw [resolvePeerGroup, show o₁.spec.peers.group = none from hnone]
    exact hpeers
  -- up to the router's call, the pass has only applied children
  have hstart : w₁.networks = w.networks ∧ SentSound env w w₁ := ⟨rfl, SentSound.refl⟩
  obtain ⟨hnetworks, new, hsent, -⟩ := (resolvePeerGroup_triple w).ok hstart hresolve
  have hlast : reconcile env w = bindGroup env networkID o₁ "" w₂ := by
    have hnet : resolveNetworkID env o.spec.networkRef = .ok networkID :=
      Mirror.dependencyID_eq_ok.mpr ⟨hfault, hstatus⟩
    have hobserve : Pass.observe (resolvePeerGroup env o₁) w₁ = (.ok (.ok ""), w₂) := by
      rw [observe_apply, hresolve]
    rw [reconcile, bind_of_ok (call_of_none hget w), bind_of_ok (read_apply _ w), hcr]
    simp only [hlive]
    show reconcileLive env o w = _
    rw [reconcileLive, bind_of_ok (patchFinalizer_of_none hpatch w)]
    simp only [hnet]
    rw [reconcileRouter, bind_of_ok hobserve]
  have hprefix := bindGroup_prefix (w := w₂) (o := o₁) (r := "") (hnetworks ▸ hgo)
  rw [hsent, List.append_assoc] at hprefix
  unfold SoundPass
  rw [hlast]
  exact not_sentSound_of_prefix (by simp [routerRequest]) hprefix

/-- **The peer group of a router.** A pass sends no router with the empty group, and reports the
object ready only with the group it asks for, unless it comes to a blind write. -/
theorem soundPass_iff (env : Env) (w : World) : SoundPass env w ↔ ¬ BlindWrite env w :=
  ⟨fun h hblind => not_soundPass_of_blindWrite hblind h, soundPass_of_not_blindWrite⟩

/-! ### A first pass -/

/-- A new object that asks for deployed peers. -/
def newRouter : CR :=
  ⟨"default", "edge", 1, false, false, { networkRef := ⟨"lan", "default"⟩, peers := {} }, {}⟩

/-- The network is there, and the cache has none of the children yet. -/
def coldCache : Env where
  groups := ⟨fun _ => .error .notFound, fun _ => .error .notFound, fun _ _ => .error .notFound⟩
  networkStatus _ := some (some 7)
  setupKeyStatus _ _ := none
  daemonSetStatus _ _ := none
  clientImage := "netbird"
  fault _ := none

def newWorld : World := ⟨some newRouter, fun _ => .empty, []⟩

/-- The first pass applies the Group, does not find it in the cache, creates a router with the empty
group and reports the object ready. No SetupKey and no DaemonSet was applied. -/
theorem empty_group_reported_ready :
    (reconcile coldCache newWorld).1 = .ok ⟨some resyncInterval⟩ ∧
      (reconcile coldCache newWorld).2.sent =
        [.applied (groupChild newRouter), .router 7 ⟨true, true, 9999, [""]⟩,
          .ready (asReady (withNetwork { newRouter with finalizer := true } 7) "" 0)] ∧
      (reconcile coldCache newWorld).2.cr.map (fun o => (o.status.ready, o.status.groupID)) =
        some (some markTrue, "") ∧
      ¬ SoundPass coldCache newWorld := by
  refine ⟨by decide, by decide, by decide, ?_⟩
  rintro ⟨new, hnew, hsound⟩
  have hsent : (reconcile coldCache newWorld).2.sent = new := hnew
  have hmem : .router 7 ⟨true, true, 9999, [""]⟩ ∈ new := hsent ▸ by decide
  exact hsound _ hmem (by decide)

end NetworkRouter

end NetbirdOperator
