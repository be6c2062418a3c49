import NetbirdOperator.Coherence.OnRecord

/-!
# When a Network gets another network

A NetworkResource and a NetworkRouter name a Network object, and their passes put what they create
into the network that object reports. When the Network reports another one than on record, they
drop the id on record without a request to the account: "the recorded resource lived in the old
network", which was deleted out of band and took its resources and routers along. Nothing in these
controllers checks that. If it were not so, the resource or router would stay in the account, and
nobody would know of it any more.

It is so, because of what the three controllers do together. A Network reports another id only after
a pass found the old network gone. A reference cannot be edited, so that the id behind it changes
only with that of the Network; the name can come to stand for another Network, but not before the
old one was deleted, network and all. And the status is read through the operator's cache, which may
lag behind as long as it does not go back.

So everything a NetworkResource or NetworkRouter ever had on record is on record, or it is gone.
What was created and never recorded is another matter, see `LostWrites`.

## The account

The networks are kept apart from what is in them, and something in a network is there if both are
(`HasResource`, `HasRouter`). A pass may so go on in a network that is gone, where the account would
answer 404 and the pass give up; the record is the same either way, and a pass that gives up there
is among those with a failing call.

## Main results

* `NetworkMoves.Coherent.follows_sync` — when the cache learns of another network, the one it had is
  gone
* `NetworkMoves.unrecorded_gone` — what is not on record any more is gone
-/

namespace NetbirdOperator

open ControlLoop

namespace NetworkMoves

/-! ### The three controllers -/

/-- The Networks, what the operator's cache has of them, the NetworkResources and a NetworkRouter.
The account's networks are with the first, the resources and routers in them with the others. -/
structure State where
  networks : Network.World
  cache : CrossNamespaceReference → Option (Option ℕ)
  resources : NetworkResource.World
  router : NetworkRouter.World

/-- What happens: something to one of the three kinds, or the cache learns what the Network of that
name reports. -/
inductive Event where
  | network (ev : Network.Event)
  | resource (ev : NetworkResource.Event)
  | router (ev : NetworkRouter.Event)
  | sync (ref : CrossNamespaceReference)

/-- A pass over a NetworkResource reads the Network from the cache. -/
def resourceEvent (cache : CrossNamespaceReference → Option (Option ℕ)) :
    NetworkResource.Event → NetworkResource.Event
  | .reconcile uid env => .reconcile uid { env with networkStatus := cache }
  | ev => ev

/-- So does a pass over a NetworkRouter. -/
def routerEvent (cache : CrossNamespaceReference → Option (Option ℕ)) :
    NetworkRouter.Event → NetworkRouter.Event
  | .reconcile env => .reconcile { env with networkStatus := cache }
  | ev => ev

/-- `networkRef` of a NetworkResource is immutable. -/
def admitsResource (w : NetworkResource.World) : NetworkResource.Event → Bool
  | .user (.edit uid spec) => (w.objects.get uid).all fun o => o.spec.networkRef = spec.networkRef
  | _ => true

/-- `networkRef` of a NetworkRouter is immutable. -/
def admitsRouter (w : NetworkRouter.World) : NetworkRouter.Event → Bool
  | .edit spec => w.cr.all fun o => o.spec.networkRef = spec.networkRef
  | _ => true

/-- The effect of an event. An edit that is not admitted has none. -/
def step (s : State) : Event → State
  | .network ev => { s with networks := Network.step s.networks ev }
  | .resource ev =>
    if admitsResource s.resources ev then
      { s with resources := NetworkResource.step s.resources (resourceEvent s.cache ev) }
    else s
  | .router ev =>
    if admitsRouter s.router ev then
      { s with router := NetworkRouter.step s.router (routerEvent s.cache ev) }
    else s
  | .sync ref =>
    { s with cache := Function.update s.cache ref (Network.networkStatus s.networks ref) }

/-- An account with anything in it, a NetworkRouter that was just declared, and an empty cache. -/
def initial (networks : Store Network.NetbirdNetwork)
    (resources : ℕ → Store NetworkResource.Resource) (routers : ℕ → Store NetworkRouter.Router)
    (ns name : String) (spec : NetworkRouter.Spec) : State :=
  ⟨Network.initial networks, fun _ => none, NetworkResource.initial resources,
    NetworkRouter.initial ns name spec routers⟩

/-- The network is there, and the resource in it. -/
def HasResource (s : State) (i : ℕ × ℕ) : Prop :=
  s.networks.account.networks.Has i.1 ∧ (s.resources.account.networks i.1).Has i.2

/-- The network is there, and the router in it. -/
def HasRouter (s : State) (i : ℕ × ℕ) : Prop :=
  s.networks.account.networks.Has i.1 ∧ (s.router.networks i.1).Has i.2

variable {s : State} {ref : CrossNamespaceReference} {n : ℕ} {i : ℕ × ℕ}

/-- The network is the one the cache has for the reference, or it is gone. -/
def Follows (s : State) (ref : CrossNamespaceReference) (n : ℕ) : Prop :=
  s.cache ref = some (some n) ∨ Network.Spent s.networks.account n

/-- **What every state of a run has in common.** What the cache has of a Network is what that
reports, or gone; and what an object has on record is what the cache has, or gone. -/
structure Coherent (s : State) : Prop where
  named : Network.Named s.networks
  networks : Network.Kept s.networks
  resources : NetworkResource.Kept s.resources
  paired : NetworkRouter.AllPaired s.router
  held : NetworkRouter.Held s.router.cr
  cached : ∀ ref n, s.cache ref = some (some n) →
    Network.Reports s.networks ref n ∨ Network.Spent s.networks.account n
  resource : ∀ e ∈ s.resources.objects, ∀ n, e.val.status.recorded.networkID = some n →
    Follows s e.val.spec.networkRef n
  router : ∀ o, s.router.cr = some o → ∀ n, o.status.networkID = some n →
    Follows s o.spec.networkRef n

theorem Coherent.network (h : Coherent s) (ev : Network.Event) :
    Coherent { s with networks := Network.step s.networks ev } := by
  have hfollows : ∀ {ref n}, Follows s ref n →
      Follows { s with networks := Network.step s.networks ev } ref n :=
    fun hf => hf.imp_right fun hspent => hspent.step ev
  refine ⟨h.named.step ev, h.networks.step ev, h.resources, h.paired, h.held, fun ref n hn => ?_,
    fun e he n hn => hfollows (h.resource e he n hn),
    fun o ho n hn => hfollows (h.router o ho n hn)⟩
  rcases h.cached ref n hn with hreports | hspent
  · exact hreports.step h.networks ev
  · exact .inr (hspent.step ev)

theorem cache_sync (s : State) (ref ref' : CrossNamespaceReference) :
    (step s (.sync ref')).cache ref =
      if ref = ref' then Network.networkStatus s.networks ref' else s.cache ref :=
  Function.update_apply ..

/-- When the cache learns of another network, the one it had is gone. -/
theorem Coherent.follows_sync (h : Coherent s) (hf : Follows s ref n)
    (ref' : CrossNamespaceReference) : Follows (step s (.sync ref')) ref n := by
  rcases hf with hcache | hspent
  · by_cases href : ref = ref'
    · subst href
      rcases h.cached ref n hcache with hreports | hspent
      · refine .inl ?_
        rw [cache_sync, if_pos rfl]
        exact hreports.networkStatus h.named
      · exact .inr hspent
    · refine .inl ?_
      rw [cache_sync, if_neg href]
      exact hcache
  · exact .inr hspent

theorem Coherent.sync (h : Coherent s) (ref' : CrossNamespaceReference) :
    Coherent (step s (.sync ref')) := by
  refine ⟨h.named, h.networks, h.resources, h.paired, h.held, fun ref n hn => ?_,
    fun e he n hn => h.follows_sync (h.resource e he n hn) ref',
    fun o ho n hn => h.follows_sync (h.router o ho n hn) ref'⟩
  rw [cache_sync] at hn
  split at hn
  · next href => exact .inl (Network.reports_of_networkStatus (href ▸ hn))
  · exact h.cached ref n hn

/-- The network an object has on record after an event is the one it had, behind the same
reference, or the one in the cache. -/
theorem network_of_resource {w : NetworkResource.World} {ev : NetworkResource.Event}
    {cache : CrossNamespaceReference → Option (Option ℕ)} (hadmits : admitsResource w ev = true)
    {e : Entry NetworkResource.CR}
    (he : e ∈ (NetworkResource.step w (resourceEvent cache ev)).objects)
    (hn : e.val.status.recorded.networkID = some n) :
    (∃ e₀ ∈ w.objects, e₀.val.status.recorded.networkID = some n ∧
        e₀.val.spec.networkRef = e.val.spec.networkRef) ∨
      cache e.val.spec.networkRef = some (some n) := by
  cases ev with
  | reconcile uid env =>
    have heffect : Mirror.Effect (NetworkResource.mirror { env with networkStatus := cache }) w uid
        (NetworkResource.reconcile { env with networkStatus := cache } uid w).2 :=
      Mirror.reconcile_effect
    change e ∈ (NetworkResource.reconcile { env with networkStatus := cache } uid w).2.objects at he
    generalize (NetworkResource.reconcile { env with networkStatus := cache } uid w).2 = w'
      at heffect he
    cases heffect with
    | idle => exact .inl ⟨e, he, hn, rfl⟩
    | @applied o o' hget hlive hown hrec =>
      rcases Store.mem_update.mp he with ⟨he, -⟩ | ⟨rfl, -⟩
      · exact .inl ⟨e, he, hn, rfl⟩
      dsimp only at hn ⊢
      rcases hrec with hrec | hrec
      · exact .inl ⟨⟨uid, o⟩, Store.get_eq_some.mp hget, hrec ▸ hn, by rw [hown.spec]⟩
      · rcases NetworkResource.applyNetworkResource_cases { env with networkStatus := cache }
          (Mirror.withFinalizer o) w.account with ⟨-, hfail⟩ | ⟨n', req, id, hresolve, hok, -⟩
        · exact absurd hrec (hfail _)
        rw [← Except.ok.inj (hok.symm.trans hrec)] at hn
        obtain rfl := Option.some.inj hn
        refine .inr ?_
        rw [hown.spec]
        exact (Mirror.dependencyID_eq_ok.mp hresolve).2
    | kept hget hdel => exact .inl ⟨e, he, hn, rfl⟩
    | released hget hdel hout => exact .inl ⟨e, (Store.mem_delete.mp he).1, hn, rfl⟩
  | user ev =>
    change e ∈ w.objects.submit NetworkResource.fresh ev at he
    rcases w.objects.submit_cases NetworkResource.fresh ev with hs | ⟨ns, name, spec, -, hs⟩ |
      ⟨f, hf, spec, rfl, hs⟩ | ⟨f, hf, -, -, hs⟩ | ⟨f, hf, -, -, hs⟩ <;> rw [hs] at he
    · exact .inl ⟨e, he, hn, rfl⟩
    · rcases Store.mem_create.mp he with he | rfl
      · exact .inl ⟨e, he, hn, rfl⟩
      · cases hn
    · rcases Store.mem_update.mp he with ⟨he, -⟩ | ⟨rfl, -⟩
      · exact .inl ⟨e, he, hn, rfl⟩
      · refine .inl ⟨f, hf, hn, ?_⟩
        rw [admitsResource, Store.get_of_mem hf] at hadmits
        exact of_decide_eq_true hadmits
    · rcases Store.mem_update.mp he with ⟨he, -⟩ | ⟨rfl, -⟩
      · exact .inl ⟨e, he, hn, rfl⟩
      · exact .inl ⟨f, hf, hn, rfl⟩
    · exact .inl ⟨e, (Store.mem_delete.mp he).1, hn, rfl⟩
  | foreignCreate n resource => exact .inl ⟨e, he, hn, rfl⟩
  | foreignUpdate n id resource => exact .inl ⟨e, he, hn, rfl⟩
  | foreignDelete n id => exact .inl ⟨e, he, hn, rfl⟩

/-- The same for the NetworkRouter. -/
theorem network_of_router {w : NetworkRouter.World} {ev : NetworkRouter.Event}
    {cache : CrossNamespaceReference → Option (Option ℕ)} (hadmits : admitsRouter w ev = true)
    {o : NetworkRouter.CR} (ho : (NetworkRouter.step w (routerEvent cache ev)).cr = some o)
    (hn : o.status.networkID = some n) :
    (∃ o₀, w.cr = some o₀ ∧ o₀.status.networkID = some n ∧
        o₀.spec.networkRef = o.spec.networkRef) ∨ cache o.spec.networkRef = some (some n) := by
  cases ev with
  | reconcile env =>
    have heffect := NetworkRouter.reconcile_effect { env with networkStatus := cache } w
    change (NetworkRouter.reconcile { env with networkStatus := cache } w).2.cr = some o at ho
    rw [ho] at heffect
    generalize (NetworkRouter.reconcile { env with networkStatus := cache } w).2.networks = networks
      at heffect
    generalize hcr' : some o = cr' at heffect
    cases heffect with
    | idle => exact .inl ⟨o, hcr'.symm, hn, rfl⟩
    | @waited o₀ o' hcr hlive hwait =>
      obtain rfl := Option.some.inj hcr'
      rcases hwait.ids with ⟨hn', -⟩ | ⟨n', hstatus, hn', -⟩
      · exact .inl ⟨o₀, hcr, hn'.symm.trans hn, by rw [hwait.spec]⟩
      · obtain rfl := Option.some.inj (hn'.symm.trans hn)
        rw [hwait.spec]
        exact .inr hstatus
    | @bound o₀ o' n' id groupID networks hcr hlive hreaches hup hwritten =>
      obtain rfl := Option.some.inj hcr'
      rcases hwritten with ⟨rfl, -⟩ | ⟨rfl, -⟩
      · exact .inl ⟨o₀, hcr, hn, rfl⟩
      · obtain rfl : n' = n := Option.some.inj hn
        exact .inr hreaches.status
    | kept hcr hdel hsent => exact .inl ⟨o, hcr.trans hcr'.symm, hn, rfl⟩
    | released hcr hdel hsent => cases hcr'
  | edit spec =>
    obtain ⟨o', ho', rfl⟩ := Option.map_eq_some_iff.mp ho
    refine .inl ⟨o', ho', hn, ?_⟩
    rw [admitsRouter, ho'] at hadmits
    exact of_decide_eq_true hadmits
  | delete =>
    obtain ⟨o', ho', rfl⟩ := exists_of_marked ho
    exact .inl ⟨o', ho', hn, rfl⟩
  | foreignCreate n router => exact .inl ⟨o, ho, hn, rfl⟩
  | foreignUpdate n id router => exact .inl ⟨o, ho, hn, rfl⟩
  | foreignDelete n id => exact .inl ⟨o, ho, hn, rfl⟩

theorem Coherent.step (h : Coherent s) (ev : Event) : Coherent (step s ev) := by
  cases ev with
  | network ev => exact h.network ev
  | resource ev =>
    rw [NetworkMoves.step]
    split
    swap
    · exact h
    · next hadmits =>
      refine ⟨h.named, h.networks, h.resources.step _, h.paired, h.held, h.cached,
        fun e he n hn => ?_, h.router⟩
      rcases network_of_resource hadmits he hn with ⟨e₀, he₀, hn₀, href⟩ | hcache
      · exact href ▸ h.resource e₀ he₀ n hn₀
      · exact .inl hcache
  | router ev =>
    rw [NetworkMoves.step]
    split
    swap
    · exact h
    · next hadmits =>
      refine ⟨h.named, h.networks, h.resources, h.paired.step _, h.held.step _, h.cached,
        h.resource, fun o ho n hn => ?_⟩
      rcases network_of_router hadmits ho hn with ⟨o₀, ho₀, hn₀, href⟩ | hcache
      · exact href ▸ h.router o₀ ho₀ n hn₀
      · exact .inl hcache
  | sync ref => exact h.sync ref

theorem coherent_initial (networks : Store Network.NetbirdNetwork)
    (resources : ℕ → Store NetworkResource.Resource) (routers : ℕ → Store NetworkRouter.Router)
    (ns name : String) (spec : NetworkRouter.Spec) :
    Coherent (initial networks resources routers ns name spec) where
  named _ he := absurd he List.not_mem_nil
  networks := ⟨fun _ he => absurd he List.not_mem_nil, fun _ he => absurd he List.not_mem_nil⟩
  resources := ⟨fun _ he => absurd he List.not_mem_nil, fun _ he => absurd he List.not_mem_nil⟩
  paired o ho := by
    obtain rfl := Option.some.inj ho
    exact paired_none
  held o ho _ := by
    obtain rfl := Option.some.inj ho
    rfl
  cached _ _ hn := by cases hn
  resource _ he := absurd he List.not_mem_nil
  router o ho n hn := by
    obtain rfl := Option.some.inj ho
    cases hn

/-! ### What leaves the record -/

/-- A resource is gone with its network or by itself. -/
def ResourceGone (s : State) (i : ℕ × ℕ) : Prop :=
  Network.Spent s.networks.account i.1 ∨ NetworkResource.Spent s.resources.account i

/-- A router is gone with its network or by itself. -/
def RouterGone (s : State) (i : ℕ × ℕ) : Prop :=
  Network.Spent s.networks.account i.1 ∨ NetworkRouter.Spent s.router.networks i

theorem ResourceGone.step (h : ResourceGone s i) (ev : Event) : ResourceGone (step s ev) i := by
  cases ev with
  | network ev => exact h.imp_left fun hspent => hspent.step ev
  | resource ev =>
    rw [NetworkMoves.step]
    split
    · exact h.imp_right fun hspent => hspent.step _
    · exact h
  | router ev =>
    rw [NetworkMoves.step]
    split <;> exact h
  | sync ref => exact h

theorem RouterGone.step (h : RouterGone s i) (ev : Event) : RouterGone (step s ev) i := by
  cases ev with
  | network ev => exact h.imp_left fun hspent => hspent.step ev
  | resource ev =>
    rw [NetworkMoves.step]
    split <;> exact h
  | router ev =>
    rw [NetworkMoves.step]
    split
    · exact h.imp_right fun hspent => hspent.step _
    · exact h
  | sync ref => exact h

/-- A network that an object has on record and the cache has replaced is gone. -/
theorem Follows.spent_of_ne (h : Follows s ref n) {n' : ℕ} (hcache : s.cache ref = some (some n'))
    (hne : n' ≠ n) : Network.Spent s.networks.account n := by
  rcases h with hsame | hspent
  · rw [hsame] at hcache
    cases hcache
    exact absurd rfl hne
  · exact hspent

/-- **A resource on record**, from one step to the next. -/
theorem Coherent.resource_step (h : Coherent s) (hrec : NetworkResource.OnRecord s.resources i)
    (ev : Event) :
    NetworkResource.OnRecord (NetworkMoves.step s ev).resources i ∨
      ResourceGone (NetworkMoves.step s ev) i := by
  cases ev with
  | network ev => exact .inl hrec
  | resource ev =>
    rw [NetworkMoves.step]
    split
    swap
    · exact .inl hrec
    rcases hrec.step h.resources (resourceEvent s.cache ev) with hrec' | hspent | hmoves
    · exact .inl hrec'
    · exact .inr (.inr hspent)
    · cases ev with
      | reconcile uid env =>
        obtain ⟨o, hget, hn, n', hcache, hne⟩ := hmoves
        have hfollows := h.resource ⟨uid, o⟩ (Store.get_eq_some.mp hget) i.1 hn
        exact .inr (.inl (hfollows.spent_of_ne hcache hne))
      | user | foreignCreate | foreignUpdate | foreignDelete => exact hmoves.elim
  | router ev =>
    rw [NetworkMoves.step]
    split <;> exact .inl hrec
  | sync ref => exact .inl hrec

/-- **A router on record**, from one step to the next. -/
theorem Coherent.router_step (h : Coherent s) (hrec : NetworkRouter.OnRecord s.router.cr i)
    (ev : Event) :
    NetworkRouter.OnRecord (NetworkMoves.step s ev).router.cr i ∨
      RouterGone (NetworkMoves.step s ev) i := by
  cases ev with
  | network ev => exact .inl hrec
  | resource ev =>
    rw [NetworkMoves.step]
    split <;> exact .inl hrec
  | router ev =>
    rw [NetworkMoves.step]
    split
    swap
    · exact .inl hrec
    rcases hrec.step h.paired h.held (routerEvent s.cache ev) with hrec' | hspent | hmoves
    · exact .inl hrec'
    · exact .inr (.inr hspent)
    · cases ev with
      | reconcile env =>
        obtain ⟨o, ho, hn, n', hcache, hne⟩ := hmoves
        exact .inr (.inl ((h.router o ho i.1 hn).spent_of_ne hcache hne))
      | edit | delete | foreignCreate | foreignUpdate | foreignDelete => exact hmoves.elim
  | sync ref => exact .inl hrec

/-- What a step keeps on record or finds gone, a run does, if what is gone stays gone. -/
theorem Coherent.run_or {P Q : State → Prop}
    (hstep : ∀ s ev, Coherent s → P s → P (NetworkMoves.step s ev) ∨ Q (NetworkMoves.step s ev))
    (hgone : ∀ s ev, Q s → Q (NetworkMoves.step s ev)) (h : Coherent s) (hP : P s)
    (fs : List Event) : P (run NetworkMoves.step s fs) ∨ Q (run NetworkMoves.step s fs) := by
  refine (run_keeps (I := fun s => Coherent s ∧ (P s ∨ Q s)) ⟨h, .inl hP⟩ ?_).2
  rintro s ev ⟨h, hrec | hQ⟩
  · exact ⟨h.step ev, hstep s ev h hrec⟩
  · exact ⟨h.step ev, .inr (hgone s ev hQ)⟩

/-- **What is not on record any more is gone.** Take any run of the three controllers, wherever
their passes fail, with users' changes, a cache of the Networks that lags behind and any other
clients of the account. A resource or router that an object has on record at one time and none at a
later one is not in the account then: its network is gone, or it is gone from the network. -/
theorem unrecorded_gone (networks : Store Network.NetbirdNetwork)
    (resources : ℕ → Store NetworkResource.Resource) (routers : ℕ → Store NetworkRouter.Router)
    (ns name : String) (spec : NetworkRouter.Spec) (es fs : List Event) {s t : State}
    (hs : s = run step (initial networks resources routers ns name spec) es)
    (ht : t = run step s fs) (i : ℕ × ℕ) :
    (NetworkResource.OnRecord s.resources i → ¬ NetworkResource.OnRecord t.resources i →
        ¬ HasResource t i) ∧
      (NetworkRouter.OnRecord s.router.cr i → ¬ NetworkRouter.OnRecord t.router.cr i →
        ¬ HasRouter t i) := by
  have hcoherent : Coherent s := hs ▸ run_keeps
    (coherent_initial networks resources routers ns name spec) fun _ ev h => h.step ev
  subst ht
  refine ⟨fun hrec hno => ?_, fun hrec hno => ?_⟩
  · rintro ⟨hnetwork, hhas⟩
    have hrun := Coherent.run_or (P := fun s => NetworkResource.OnRecord s.resources _)
      (Q := fun s => ResourceGone s _) (fun _ ev h hrec => h.resource_step hrec ev)
      (fun _ ev h => h.step ev) hcoherent hrec fs
    rcases hrun.resolve_left hno with hspent | hspent
    · exact hspent.gone hnetwork
    · exact hspent.gone hhas
  · rintro ⟨hnetwork, hhas⟩
    have hrun := Coherent.run_or (P := fun s => NetworkRouter.OnRecord s.router.cr _)
      (Q := fun s => RouterGone s _) (fun _ ev h hrec => h.router_step hrec ev)
      (fun _ ev h => h.step ev) hcoherent hrec fs
    rcases hrun.resolve_left hno with hspent | hspent
    · exact hspent.gone hnetwork
    · exact hspent.gone hhas

/-- Every group is known under its name. -/
def allGroups : Groups := ⟨fun name => .ok name, fun id => .ok id, fun _ name => .ok name⟩

def resourceEnv : NetworkResource.Env := ⟨fun _ => none, allGroups, fun _ => none⟩

def routerEnv : NetworkRouter.Env :=
  ⟨allGroups, fun _ => none, fun _ _ => none, fun _ _ => none, "netbird", fun _ => none⟩

/-- A NetworkRouter with an existing group, in the network of the Network `infra/lan`. -/
def lanRouter : State :=
  initial .empty (fun _ => .empty) (fun _ => .empty) "infra" "edge"
    { networkRef := ⟨"lan", "infra"⟩, peers := { group := some { name := some "peers" } } }

/-- One round of passes. -/
def round : List Event :=
  [.network (.reconcile 0 fun _ => none), .sync ⟨"lan", "infra"⟩,
    .resource (.reconcile 0 resourceEnv), .router (.reconcile routerEnv)]

/-- The Network and a resource of it are declared. -/
def declared : List Event :=
  .network (.user (.create "infra" "lan" ⟨"lan", ""⟩)) ::
    .resource (.user (.create "infra" "db" ⟨⟨"lan", "infra"⟩, "db", "10.0.0.1/32", "", [], true⟩))
    :: round

/-- Somebody deletes the network, and the router and the resource follow to the next one. -/
theorem unrecorded_gone_replaced :
    ¬ HasResource (run step (run step lanRouter declared)
        (.network (.foreignDelete 0) :: round)) (0, 0) ∧
      ¬ HasRouter (run step (run step lanRouter declared)
        (.network (.foreignDelete 0) :: round)) (0, 0) := by
  have hgone := unrecorded_gone .empty (fun _ => .empty) (fun _ => .empty) "infra" "edge"
    { networkRef := ⟨"lan", "infra"⟩, peers := { group := some { name := some "peers" } } }
    declared (.network (.foreignDelete 0) :: round) rfl rfl (0, 0)
  exact ⟨hgone.1 (by decide +kernel) (by decide +kernel),
    hgone.2 (by decide +kernel) (by decide +kernel)⟩

end NetworkMoves

end NetbirdOperator
