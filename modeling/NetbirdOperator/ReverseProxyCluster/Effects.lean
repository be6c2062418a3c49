import NetbirdOperator.ReverseProxyCluster.Model

/-!
# What a pass of the ReverseProxyCluster controller can do

Every statement about the controller rests on two descriptions, one for each kind of pass, and they
hold whichever calls fail.

A pass over a live object leaves the other objects and the account's clusters alone, writes only
derivatives of its own object, and touches the custom domains in `ensureDomain` alone. There it can
do one of four things (`DomainEffect`): nothing, create the domain that is missing, replace a stale
registration, or, when the create of a replacement fails, drop it. Stale means what the guards of
`ensureDomain` establish.

A pass over an object that is being deleted drops the registration and the cluster the object
recorded, each unless another live object shares it, and lets go of the object only when it got
through all of it.

## Main results

* `reconcileLive_effect`, `reconcileLive_token` — the live pass
* `reconcileDelete_effect` — the deleting pass
* `reconcile_cases` — any pass is one of the two
-/

namespace NetbirdOperator

open ControlLoop

namespace ReverseProxyCluster

open Pass

variable {env : Env} {uid : ℕ} {rpc rpc' : CR} {w : World}

/-! ### Calls -/

/-! ### The objects a pass writes -/

/-- An object a live pass over `rpc` may have written: the specification is the user's, the token
and the finalizer stay, and what is on record about the cluster and the domain changes only under
`R`, the address to that of the specification. -/
structure Derived (R : Prop) (rpc o : CR) : Prop where
  spec : o.spec = rpc.spec
  deleting : o.deleting = rpc.deleting
  finalizer : rpc.finalizer = true → o.finalizer = true
  token : ∀ id, rpc.status.tokenID = some id → o.status.tokenID = some id
  address : o.status.clusterAddress = rpc.status.clusterAddress ∨
    (R ∧ o.status.clusterAddress = rpc.spec.clusterAddress)
  domain : o.status.domainID = rpc.status.domainID ∨ R

variable {R : Prop}

theorem Derived.refl (rpc : CR) : Derived R rpc rpc :=
  ⟨rfl, rfl, id, fun _ => id, Or.inl rfl, Or.inl rfl⟩

theorem Derived.trans {a b c : CR} (hab : Derived R a b) (hbc : Derived R b c) : Derived R a c where
  spec := hbc.spec.trans hab.spec
  deleting := hbc.deleting.trans hab.deleting
  finalizer := fun h => hbc.finalizer (hab.finalizer h)
  token := fun id h => hbc.token id (hab.token id h)
  address := by
    rcases hbc.address with h | h
    · rw [h]
      exact hab.address
    · rw [← hab.spec]
      exact Or.inr h
  domain := hbc.domain.elim (fun h => h ▸ hab.domain) Or.inr

/-- Writes to the status fields that neither the token, the cluster nor the domain depends on. -/
theorem Derived.of_status {o : CR} {st : Status} (h : Derived R rpc o)
    (ht : st.tokenID = o.status.tokenID) (ha : st.clusterAddress = o.status.clusterAddress)
    (hd : st.domainID = o.status.domainID) : Derived R rpc { o with status := st } :=
  h.trans ⟨rfl, rfl, id, fun _ hid => ht.trans hid, Or.inl ha, Or.inl hd⟩

theorem Derived.offline {o : CR} (h : Derived R rpc o) : Derived R rpc (offline o) :=
  h.of_status rfl rfl rfl

theorem Derived.enrolled {o : CR} (h : Derived R rpc o) (hR : R) (c : ProxyCluster) :
    Derived R rpc (enrolled o c) :=
  h.trans ⟨rfl, rfl, id, fun _ => id, Or.inr ⟨hR, rfl⟩, Or.inl rfl⟩

/-! ### Stages of a live pass -/

/-- What a moment of a live pass has in common with the world `w` it started in, with `H` for the
tokens and their log, and `G` for the custom domains, their log and the cache. -/
structure Stage (uid : ℕ) (R : Prop) (rpc : CR) (w : World) (H : Store ProxyToken → List ℕ → Prop)
    (G : Store Registration → List (Entry Registration) → ListCache ProxyCluster → Prop)
    (w' : World) : Prop where
  others : w'.rpcs.delete uid = w.rpcs.delete uid
  own : ∃ o, w'.rpcs.get uid = some o ∧ Derived R rpc o
  clusters : w'.clusters = w.clusters
  tokens : H w'.tokens w'.minted
  account : G w'.domains w'.created w'.cache

variable {H : Store ProxyToken → List ℕ → Prop}

/-- The part of a pass keeps every stage. -/
def Quiet (uid : ℕ) (R : Prop) (rpc : CR) (w : World) (H : Store ProxyToken → List ℕ → Prop)
    {α : Type} (m : M α) : Prop :=
  ∀ G, Triple (Stage uid R rpc w H G) m (fun _ => Stage uid R rpc w H G) fun _ =>
    Stage uid R rpc w H G

theorem Quiet.bind {α β : Type} {m : M α} {f : α → M β} (hm : Quiet uid R rpc w H m)
    (hf : ∀ a, Quiet uid R rpc w H (f a)) : Quiet uid R rpc w H (m >>= f) :=
  fun G => (hm G).bind fun a => hf a G

/-- The part of a pass keeps every stage and hands on a derivative of the object. -/
def Derives (uid : ℕ) (R : Prop) (rpc : CR) (w : World) (H : Store ProxyToken → List ℕ → Prop)
    (m : M CR) : Prop :=
  ∀ G, Triple (Stage uid R rpc w H G) m (fun r w' => Derived R rpc r ∧ Stage uid R rpc w H G w')
    fun _ => Stage uid R rpc w H G

/-- What follows a part of a pass that derives its object may rely on it. -/
theorem Derives.triple {β : Type} {m : M CR} {f : CR → M β} {G}
    {Q : β → World → Prop} {E : Err → World → Prop} (hm : Derives uid R rpc w H m)
    (hE : ∀ e w', Stage uid R rpc w H G w' → E e w')
    (hf : ∀ r, Derived R rpc r → Triple (Stage uid R rpc w H G) (f r) Q E) :
    Triple (Stage uid R rpc w H G) (m >>= f) Q E := by
  refine Triple.bind ((hm G).conseq (fun _ h => h) (fun _ _ h => h) hE) fun r => ?_
  rintro w₁ ⟨hr, hw⟩
  exact hf r hr w₁ hw

theorem quiet_pure {α : Type} (a : α) : Quiet uid R rpc w H (pure a) := fun _ _ h => h

theorem quiet_call (c : Call) : Quiet uid R rpc w H (call env c) :=
  fun _ => call_triple fun _ _ h => h

/-- Writing a derivative of the object is quiet. -/
theorem quiet_patch (hlive : rpc.deleting = false) (h : Derived R rpc rpc') (c : Call) :
    Quiet uid R rpc w H (patch env c uid rpc') := by
  intro G
  refine Triple.bind (call_triple fun _ _ h => h) fun _ => ?_
  intro w₁ hw
  obtain ⟨o, ho, -⟩ := hw.own
  refine ⟨(Store.delete_put ..).trans hw.others, ⟨rpc', ?_, h⟩, hw.clusters, hw.tokens, hw.account⟩
  show (w₁.rpcs.put uid rpc').get uid = some rpc'
  rw [Store.put_of_live (h.deleting.trans hlive)]
  exact Store.get_update_self ho rpc'

theorem quiet_notReady (hlive : rpc.deleting = false) (h : Derived R rpc rpc') (msg : String) :
    Quiet uid R rpc w H (notReady env uid rpc' msg) := by
  refine Quiet.bind (quiet_patch hlive ?_ _) fun _ => quiet_pure _
  exact h.of_status rfl rfl rfl

theorem quiet_validateDomain (hlive : rpc.deleting = false) (h : Derived R rpc rpc') :
    Quiet uid R rpc w H (validateDomain env uid rpc') := by
  rw [validateDomain]
  cases env.validate with
  | some msg => exact quiet_notReady hlive h _
  | none =>
    refine Quiet.bind (quiet_patch hlive ?_ _) fun _ => quiet_pure _
    exact h.of_status rfl rfl rfl

theorem derives_patchDomainID (hR : R) (hlive : rpc.deleting = false) (h : Derived R rpc rpc')
    (id : ℕ) : Derives uid R rpc w H (patchDomainID env uid rpc' id) := by
  intro G
  rw [patchDomainID]
  split
  · exact fun _ hw => ⟨h, hw⟩
  · have h' : Derived R rpc { rpc' with status := { rpc'.status with domainID := some id } } :=
      h.trans ⟨rfl, rfl, fun hf => hf, fun _ ht => ht, Or.inl rfl, Or.inr hR⟩
    exact (quiet_patch hlive h' _ G).bind fun _ _ hw => ⟨h', hw⟩

theorem quiet_recordDomain (hR : R) (hlive : rpc.deleting = false) (h : Derived R rpc rpc')
    (id : ℕ) : Quiet uid R rpc w H (recordDomain env uid rpc' id) := by
  intro G
  refine (derives_patchDomainID hR hlive h id).triple (fun _ _ hw => hw) fun r hr => ?_
  exact quiet_validateDomain hlive hr G

theorem quiet_applyWorkload (rpc' : CR) : Quiet uid R rpc w H (applyWorkload env rpc') := by
  have hzone : Quiet uid R rpc w H (ensureZone env rpc') := by
    rw [ensureZone]
    cases rpc'.spec.zoneRef with
    | some _ => exact quiet_pure _
    | none => exact quiet_call _
  exact hzone.bind fun _ => (quiet_call _).bind fun _ => quiet_call _

/-- Minting writes only the object, the tokens and the Secret. -/
theorem derives_mintToken (hH : ∀ t l, H t l) (hlive : rpc.deleting = false)
    (h : Derived R rpc rpc') : Derives uid R rpc w H (mintToken env uid rpc') := by
  intro G
  rw [mintToken]
  cases ht : rpc'.status.tokenID with
  | some id => exact fun _ hw => ⟨h, hw⟩
  | none =>
    refine Triple.bind (call_triple fun _ _ hw => hw) fun _ => ?_
    refine Triple.bind (Q := fun _ => Stage uid R rpc w H G) (fun _ hw => hw) fun id => ?_
    refine Triple.bind (Q := fun _ => Stage uid R rpc w H G)
      (fun _ hw => ⟨hw.others, hw.own, hw.clusters, hH _ _, hw.account⟩) fun _ => ?_
    refine Triple.bind (call_triple fun _ _ hw => hw) fun _ => ?_
    refine Triple.bind (Q := fun _ => Stage uid R rpc w H G)
      (fun _ hw => ⟨hw.others, hw.own, hw.clusters, hH _ _, hw.account⟩) fun _ => ?_
    have h' : Derived R rpc { rpc' with status := { rpc'.status with tokenID := some id } } :=
      h.trans ⟨rfl, rfl, fun hf => hf, fun _ hid => absurd (ht.symm.trans hid) (by simp),
        Or.inl rfl, Or.inl rfl⟩
    exact (quiet_patch hlive h' _ G).bind fun _ _ hw => ⟨h', hw⟩

/-! ### The custom domain -/

/-- The registration the object asks for. -/
def wanted (rpc : CR) : Registration := ⟨rpc.spec.domain, some rpc.spec.clusterAddress⟩

/-- What `ensureDomain` knows of a registration it takes away: it is one of the object's domain, and
its target is neither empty nor the object's own address, nor owned by another live object, nor in
the list of clusters that was fetched for the purpose and left in the cache. -/
structure Stale (env : Env) (uid : ℕ) (rpc : CR) (w : World) (cache : ListCache ProxyCluster)
    (d : Entry Registration) : Prop where
  mem : d ∈ w.domains
  domain : d.val.domain = rpc.spec.domain
  target_ne_empty : d.val.target ≠ ""
  target_ne : d.val.target ≠ rpc.spec.clusterAddress
  unowned : ∀ o ∈ w.rpcs, o.id ≠ uid → o.val.live = true → ownsCluster d.val.target o.val = false
  fetched : cache = ⟨w.clusters, true, env.now + listCacheTTL⟩
  gone : ∀ c ∈ w.clusters, c.address ≠ d.val.target

/-- What a live pass can do to the custom domains. -/
inductive DomainEffect (env : Env) (uid : ℕ) (rpc : CR) (w : World) (domains : Store Registration)
    (created : List (Entry Registration)) (cache : ListCache ProxyCluster) : Prop
  | unchanged (hd : domains = w.domains) (hc : created = w.created)
  | create (habsent : ∀ d ∈ w.domains, d.val.domain ≠ rpc.spec.domain)
      (hd : domains = w.domains.create (wanted rpc))
      (hc : created = w.created ++ [⟨w.domains.next, wanted rpc⟩])
  | drop (d : Entry Registration) (hstale : Stale env uid rpc w cache d)
      (hd : domains = w.domains.delete d.id) (hc : created = w.created)
  | replace (d : Entry Registration) (hstale : Stale env uid rpc w cache d)
      (hd : domains = (w.domains.delete d.id).create (wanted rpc))
      (hc : created = w.created ++ [⟨w.domains.next, wanted rpc⟩])

/-- Nothing has been done to the custom domains yet. -/
def Same (w : World) (domains : Store Registration) (created : List (Entry Registration))
    (cache : ListCache ProxyCluster) : Prop :=
  (domains = w.domains ∧ created = w.created) ∧ cache = w.cache

/-- Nothing either, and the cache holds some list. -/
def Searched (w : World) (domains : Store Registration) (created : List (Entry Registration))
    (_ : ListCache ProxyCluster) : Prop :=
  domains = w.domains ∧ created = w.created

/-- Nothing either, and the cache holds the list of clusters as it is. -/
def Fetched (env : Env) (w : World) (domains : Store Registration)
    (created : List (Entry Registration)) (cache : ListCache ProxyCluster) : Prop :=
  (domains = w.domains ∧ created = w.created) ∧
    cache = ⟨w.clusters, true, env.now + listCacheTTL⟩

section Account

variable {G G' : Store Registration → List (Entry Registration) → ListCache ProxyCluster → Prop}

theorem Stage.mono {w' : World} (h : Stage uid R rpc w H G w') (hG : ∀ d c k, G d c k → G' d c k) :
    Stage uid R rpc w H G' w' :=
  ⟨h.others, h.own, h.clusters, h.tokens, hG _ _ _ h.account⟩

theorem createDomain_triple {r : Registration} (hfail : ∀ d c k, G d c k → G' d c k)
    (hG : ∀ d c k, G d c k → G' (d.create r) (c ++ [⟨d.next, r⟩]) k) :
    Triple (Stage uid R rpc w H G) (createDomain env r) (fun _ => Stage uid R rpc w H G')
      fun _ => Stage uid R rpc w H G' := by
  refine Triple.bind (call_triple fun _ _ hw => hw.mono hfail) fun _ => ?_
  intro w₁ hw
  exact ⟨hw.others, hw.own, hw.clusters, hw.tokens, hG _ _ _ hw.account⟩

theorem deleteDomain_triple {id : ℕ} (G') (hG : ∀ d c k, G d c k → G' (d.delete id) c k)
    {E : Err → World → Prop} (hfail : ∀ e w', Stage uid R rpc w H G w' → E e w') :
    Triple (Stage uid R rpc w H G) (deleteDomain env id) (fun _ => Stage uid R rpc w H G') E := by
  refine Triple.bind (call_triple hfail) fun _ => ?_
  intro w₁ hw
  exact ⟨hw.others, hw.own, hw.clusters, hw.tokens, hG _ _ _ hw.account⟩

/-- The scan for another live object answers for the world the pass started in. -/
theorem anotherClusterMatches_triple {c : Call} {p : CR → Bool} {E : Err → World → Prop}
    (hfail : ∀ e w', Stage uid R rpc w H G w' → E e w') :
    Triple (Stage uid R rpc w H G) (anotherClusterMatches env c uid p)
      (fun b w' => Stage uid R rpc w H G w' ∧
        (b = false → ∀ o ∈ w.rpcs, o.id ≠ uid → o.val.live = true → p o.val = false)) E := by
  refine Triple.bind (call_triple hfail) fun _ => ?_
  intro w₁ hw
  refine ⟨hw, fun hb o ho hid => ?_⟩
  have ho₁ : o ∈ w₁.rpcs := (Store.mem_iff_of_delete_eq hw.others hid).mpr ho
  exact anotherLiveMatches_eq_false.mp hb o ho₁ hid

end Account

/-- The lookup of a cluster. One that is reported missing is missing from a list fetched now; one
that is found is in the account or in the list that was cached. -/
theorem getProxyClusterByAddress_triple {list refresh : Call} {address : String} {G}
    {E : Err → World → Prop} (hG : ∀ d c k, G d c k → Searched w d c k)
    (hfail : ∀ e w', Stage uid R rpc w H (Searched w) w' → E e w') :
    Triple (Stage uid R rpc w H G) (getProxyClusterByAddress env list refresh address)
      (fun found w' => match found with
        | some c => Stage uid R rpc w H (Searched w) w' ∧ c.address = address ∧
            (c ∈ w.clusters ∨ ∃ d l k, G d l k ∧ c ∈ k.items)
        | none => Stage uid R rpc w H (Fetched env w) w' ∧
            ∀ c ∈ w.clusters, c.address ≠ address) E := by
  intro w₁ hw
  have hfetch : ∀ {call items}, fetchClusters env call w₁ = .ok items → items = w.clusters := by
    intro call items hitems
    rw [fetchClusters] at hitems
    cases hf : env.fault call with
    | some f => simp [hf] at hitems
    | none =>
      rw [hf, Except.ok.injEq] at hitems
      rw [← hitems, hw.clusters]
  rw [getProxyClusterByAddress]
  rcases hr : w₁.cache.lookup env.now (fetchClusters env list w₁) (fetchClusters env refresh w₁)
    (fun c => c.address == address) with ⟨found, cache⟩
  have haccount : Searched w w₁.domains w₁.created w₁.cache := hG _ _ _ hw.account
  have hw' : Stage uid R rpc w H (Searched w) { w₁ with cache := cache } :=
    ⟨hw.others, hw.own, hw.clusters, hw.tokens, haccount⟩
  cases found with
  | error e => exact hfail e _ hw'
  | ok found =>
    cases found with
    | some c =>
      obtain ⟨haddr, hmem⟩ := ListCache.lookup_found hr
      refine ⟨hw', by simpa using haddr, ?_⟩
      rcases hmem with ⟨-, hmem⟩ | ⟨items, hitems, hmem⟩ | ⟨items, hitems, hmem⟩
      · exact Or.inr ⟨_, _, _, hw.account, hmem⟩
      · exact Or.inl (hfetch hitems ▸ hmem)
      · exact Or.inl (hfetch hitems ▸ hmem)
    | none =>
      obtain ⟨items, hitems, rfl, hgone⟩ := ListCache.lookup_missed hr
      obtain rfl := hfetch hitems
      refine ⟨⟨hw.others, hw.own, hw.clusters, hw.tokens, haccount, rfl⟩, fun c hc => ?_⟩
      simpa using hgone c hc

/-- A pass that stops before it writes to the custom domains has done nothing to them. -/
theorem Stage.quit {w' : World} (h : Stage uid R rpc w H (Searched w) w') :
    Stage uid R rpc w H (DomainEffect env uid rpc w) w' :=
  h.mono fun _ _ _ hs => .unchanged hs.1 hs.2

theorem Stage.searched {w' : World} (h : Stage uid R rpc w H (Same w) w') :
    Stage uid R rpc w H (Searched w) w' :=
  h.mono fun _ _ _ hs => hs.1

/-- **`ensureDomain`.** Whichever of its calls fails, it does one of four things to the custom
domains. -/
theorem ensureDomain_triple (h : Derived R rpc rpc') :
    Triple (Stage uid R rpc w H (Searched w)) (ensureDomain env uid rpc')
      (fun _ => Stage uid R rpc w H (DomainEffect env uid rpc w))
      fun _ => Stage uid R rpc w H (DomainEffect env uid rpc w) := by
  rw [ensureDomain, h.spec]
  refine Triple.bind (call_triple fun _ _ hw => hw.quit) fun _ => ?_
  refine Triple.bind (Q := fun found w₁ => Stage uid R rpc w H (Searched w) w₁ ∧
    found = w.domains.first fun d => d.domain == rpc.spec.domain) ?_ fun found => ?_
  · intro w₁ hw
    exact ⟨hw, congrArg (Store.first · _) hw.account.1⟩
  refine Triple.assume fun hfound => ?_
  cases found with
  | none =>
    have habsent := Store.first_eq_none.mp hfound.symm
    refine createDomain_triple ?_ ?_
    · exact fun _ _ _ hs => .unchanged hs.1 hs.2
    · rintro _ _ k ⟨rfl, rfl⟩
      exact .create (fun d hd => by simpa using habsent d hd) rfl rfl
  | some d =>
    have hmem : d ∈ w.domains := Store.mem_of_first hfound.symm
    have hdomain : d.val.domain = rpc.spec.domain := by simpa using Store.prop_of_first hfound.symm
    dsimp only
    split
    · exact fun _ hw => hw.quit
    rename_i htarget
    rw [not_or] at htarget
    refine Triple.bind (anotherClusterMatches_triple fun _ _ hw => hw.quit) fun owned => ?_
    refine Triple.assume fun hunowned => ?_
    cases owned with
    | true => exact fun _ hw => hw.quit
    | false =>
      refine Triple.bind
        (getProxyClusterByAddress_triple (fun _ _ _ hs => hs) fun _ _ hw => hw.quit)
        fun existing => ?_
      cases existing with
      | some c => exact fun _ hw => hw.1.quit
      | none =>
        refine Triple.assume fun hgone => ?_
        -- All guards have passed, and the cache holds the list that showed the target gone.
        have hstale : ∀ {k}, k = ⟨w.clusters, true, env.now + listCacheTTL⟩ →
            Stale env uid rpc w k d :=
          fun hk => ⟨hmem, hdomain, htarget.1, htarget.2, hunowned rfl, hk, hgone⟩
        refine Triple.bind (deleteDomain_triple (fun domains created cache =>
          (domains = w.domains.delete d.id ∧ created = w.created) ∧
            cache = ⟨w.clusters, true, env.now + listCacheTTL⟩) ?_ ?_) fun _ => ?_
        · rintro _ _ _ ⟨⟨rfl, rfl⟩, rfl⟩
          exact ⟨⟨rfl, rfl⟩, rfl⟩
        · exact fun _ _ hw => hw.mono fun _ _ _ hs => .unchanged hs.1.1 hs.1.2
        refine createDomain_triple ?_ ?_
        · rintro _ _ _ ⟨⟨rfl, rfl⟩, hk⟩
          exact .drop d (hstale hk) rfl rfl
        · rintro _ _ _ ⟨⟨rfl, rfl⟩, hk⟩
          exact .replace d (hstale hk) rfl rfl

/-! ### The live pass -/

theorem registerDomain_triple (hR : R) (hlive : rpc.deleting = false) (h : Derived R rpc rpc') :
    Triple (Stage uid R rpc w H (Searched w)) (registerDomain env uid rpc')
      (fun _ => Stage uid R rpc w H (DomainEffect env uid rpc w))
      fun _ => Stage uid R rpc w H (DomainEffect env uid rpc w) := by
  refine Triple.bind (Q := fun _ => Stage uid R rpc w H (DomainEffect env uid rpc w))
    (Triple.observe (ensureDomain_triple h)) fun outcome => ?_
  cases outcome with
  | ok id => exact quiet_recordDomain hR hlive h id _
  | error e =>
    cases e with
    | api c f => exact fun _ hw => hw
    | dependencyNotReady msg => exact quiet_notReady hlive h msg _

/-- The pass gets as far as the custom domain: the proxy Service has an address, and a cluster at
the object's address is in the account or in the cached list. -/
def Reaches (env : Env) (w : World) (rpc : CR) : Prop :=
  env.ingress ≠ [] ∧ ∃ c ∈ w.clusters ++ w.cache.items, c.address = rpc.spec.clusterAddress

instance (env : Env) (w : World) (rpc : CR) : Decidable (Reaches env w rpc) :=
  inferInstanceAs (Decidable (_ ∧ _))

/-- Step 4 and what follows it. -/
theorem awaitAddress_triple (hR : Reaches env w rpc → R) (hlive : rpc.deleting = false)
    (h : Derived R rpc rpc') :
    Triple (Stage uid R rpc w H (Same w)) (awaitAddress env uid rpc')
      (fun _ => Stage uid R rpc w H (DomainEffect env uid rpc w))
      fun _ => Stage uid R rpc w H (DomainEffect env uid rpc w) := by
  have hwait : ∀ {o : CR} (msg : String), Derived R rpc o →
      Triple (Stage uid R rpc w H (Searched w)) (notReady env uid (offline o) msg)
        (fun _ => Stage uid R rpc w H (DomainEffect env uid rpc w))
        fun _ => Stage uid R rpc w H (DomainEffect env uid rpc w) :=
    fun msg ho => (quiet_notReady hlive ho.offline msg _).conseq (fun _ hw => hw)
      (fun _ _ hw => hw.quit) fun _ _ hw => hw.quit
  rw [awaitAddress]
  cases haddrs : serviceAddresses env.ingress with
  | nil => exact (hwait _ h).of_pre fun _ hw => hw.searched
  | cons fa _ =>
    have hingress : env.ingress ≠ [] := by
      intro hnil
      rw [hnil] at haddrs
      simp [serviceAddresses] at haddrs
    have h' : Derived R rpc
        { rpc' with status := { rpc'.status with loadBalancerIP := fa.address } } :=
      h.of_status rfl rfl rfl
    refine Triple.bind (call_triple fun _ _ hw => hw.searched.quit) fun _ => ?_
    refine Triple.bind (getProxyClusterByAddress_triple (fun _ _ _ hs => hs.1)
      fun _ _ hw => hw.quit) fun found => ?_
    cases found with
    | none => exact (hwait _ h').of_pre fun _ hw => hw.1.mono fun _ _ _ hs => hs.1
    | some c =>
      refine Triple.assume fun hc => ?_
      have hreach : R := by
        refine hR ⟨hingress, c, List.mem_append.mpr (hc.2.imp_right ?_),
          hc.1.trans (congrArg _ h.spec)⟩
        rintro ⟨_, _, _, ⟨-, rfl⟩, hmem⟩
        exact hmem
      exact registerDomain_triple hreach hlive (h'.enrolled hreach c)

/-- All that follows the minting of the token. -/
theorem workload_triple (env : Env) (hR : Reaches env w rpc → R) (hlive : rpc.deleting = false)
    (h : Derived R rpc rpc') :
    Triple (Stage uid R rpc w H (Same w))
      (do applyWorkload env rpc'; awaitAddress env uid rpc')
      (fun _ => Stage uid R rpc w H (DomainEffect env uid rpc w))
      fun _ => Stage uid R rpc w H (DomainEffect env uid rpc w) :=
  Triple.bind ((quiet_applyWorkload rpc' _).conseq (fun _ hw => hw) (fun _ _ hw => hw)
    fun _ _ hw => hw.searched.quit) fun _ => awaitAddress_triple hR hlive h

/-- **The live pass.** -/
theorem reconcileLive_effect (env : Env) (hlive : rpc.deleting = false)
    (hget : w.rpcs.get uid = some rpc) :
    Stage uid (Reaches env w rpc) rpc w (fun _ _ => True) (DomainEffect env uid rpc w)
      (reconcileLive env uid rpc w).2 := by
  have hfin : Derived (Reaches env w rpc) rpc { rpc with finalizer := true } :=
    ⟨rfl, rfl, fun _ => rfl, fun _ => id, Or.inl rfl, Or.inl rfl⟩
  have hstart : Stage uid (Reaches env w rpc) rpc w (fun _ _ => True) (Same w) w :=
    ⟨rfl, ⟨rpc, hget, .refl rpc⟩, rfl, trivial, ⟨rfl, rfl⟩, rfl⟩
  refine Triple.final ?_ hstart
  refine Triple.bind ((quiet_patch hlive hfin _ _).conseq (fun _ hw => hw) (fun _ _ hw => hw)
    fun _ _ hw => hw.searched.quit) fun _ => ?_
  exact (derives_mintToken (fun _ _ => trivial) hlive hfin).triple
    (fun _ _ hw => hw.searched.quit) fun r hr => workload_triple env id hlive hr

/-- What a live pass without failures does about the token: it keeps the one it has or mints one,
and in the end the object has it on record. -/
structure TokenEffect (uid : ℕ) (rpc : CR) (w w' : World) (id : ℕ) : Prop where
  own : ∃ o, w'.rpcs.get uid = some o ∧ o.finalizer = true ∧ o.status.tokenID = some id
  tokens : (rpc.status.tokenID = some id ∧ w'.tokens = w.tokens ∧ w'.minted = w.minted) ∨
    (rpc.status.tokenID = none ∧ id = w.tokens.next ∧ (∃ t, w'.tokens = w.tokens.create t) ∧
      w'.minted = w.minted ++ [id])

theorem patch_of_faultFree (hfree : env.FaultFree) (c : Call) (rpc' : CR)
    (hlive : rpc'.deleting = false) (hget : w.rpcs.get uid = some rpc) :
    ∃ w', patch env c uid rpc' w = (.ok (), w') ∧ w'.rpcs.get uid = some rpc' ∧
      w'.tokens = w.tokens ∧ w'.minted = w.minted := by
  refine ⟨{ w with rpcs := w.rpcs.put uid rpc' }, ?_, ?_, rfl, rfl⟩
  · rw [patch, bind_of_ok (call_of_none (hfree c) w)]
    rfl
  · show (w.rpcs.put uid rpc').get uid = some rpc'
    rw [Store.put_of_live hlive]
    exact Store.get_update_self hget rpc'

theorem mintToken_of_faultFree (hfree : env.FaultFree) (rpc : CR) (hlive : rpc.deleting = false)
    (hfin : rpc.finalizer = true) (hget : w.rpcs.get uid = some rpc) :
    ∃ r w' id, mintToken env uid rpc w = (.ok r, w') ∧ r.deleting = false ∧ r.finalizer = true ∧
      r.status.tokenID = some id ∧ w'.rpcs.get uid = some r ∧ TokenEffect uid rpc w w' id := by
  rw [mintToken]
  cases ht : rpc.status.tokenID with
  | some id =>
    exact ⟨rpc, w, id, rfl, hlive, hfin, ht, hget, ⟨rpc, hget, hfin, ht⟩, Or.inl ⟨ht, rfl, rfl⟩⟩
  | none =>
    -- The world at the write of the token id: token and Secret are there, the object is as it was.
    let w₁ : World :=
      { w with
        tokens := w.tokens.create ⟨"k8s-" ++ rpc.ns ++ "-" ++ rpc.name⟩
        minted := w.minted ++ [w.tokens.next]
        secrets := applySecret rpc w.tokens.next w.secrets }
    let r : CR := { rpc with status := { rpc.status with tokenID := some w.tokens.next } }
    obtain ⟨w', hpatch, hstored, htok, hlog⟩ :=
      patch_of_faultFree (w := w₁) hfree .patchToken r hlive hget
    refine ⟨r, w', w.tokens.next, ?_, hlive, hfin, rfl, hstored, ⟨r, hstored, hfin, rfl⟩,
      Or.inr ⟨ht, rfl, ⟨_, htok⟩, hlog⟩⟩
    rw [call, hfree, call, hfree]
    show (patch env .patchToken uid r >>= fun _ => pure r) w₁ = (.ok r, w')
    rw [bind_of_ok hpatch]
    rfl

/-- **The token of a live pass.** Without failures no token is minted that the object does not
end up recording. -/
theorem reconcileLive_token (hfree : env.FaultFree) (hlive : rpc.deleting = false)
    (hget : w.rpcs.get uid = some rpc) :
    ∃ id, TokenEffect uid rpc w (reconcileLive env uid rpc w).2 id := by
  obtain ⟨w₁, hpatch, hget₁, htok₁, hlog₁⟩ := patch_of_faultFree hfree
    .patchFinalizer { rpc with finalizer := true } hlive hget
  obtain ⟨r, w₂, id, hmint, hlive₂, hfin₂, hid, hget₂, heffect⟩ :=
    mintToken_of_faultFree hfree { rpc with finalizer := true } hlive rfl hget₁
  have hstart : Stage uid True r w₂ (fun t l => t = w₂.tokens ∧ l = w₂.minted) (Same w₂) w₂ :=
    ⟨rfl, ⟨r, hget₂, .refl r⟩, rfl, ⟨rfl, rfl⟩, ⟨rfl, rfl⟩, rfl⟩
  have hend := Triple.final (workload_triple env (fun _ => trivial) hlive₂ (.refl r)) hstart
  rw [reconcileLive, bind_of_ok hpatch, bind_of_ok hmint]
  obtain ⟨o, ho, hder⟩ := hend.own
  refine ⟨id, ⟨o, ho, hder.finalizer hfin₂, hder.token id hid⟩, ?_⟩
  rw [hend.tokens.1, hend.tokens.2, ← htok₁, ← hlog₁]
  exact heffect.tokens

/-! ### The deleting pass -/

/-- The tokens without the object's own. -/
def tokensLeft (rpc : CR) (tokens : Store ProxyToken) : Store ProxyToken :=
  match rpc.status.tokenID with
  | none => tokens
  | some id => tokens.delete id

/-- The custom domains without the recorded one, unless it is shared. -/
def domainsLeft (uid : ℕ) (rpc : CR) (rpcs : Store CR) (domains : Store Registration) :
    Store Registration :=
  match rpc.status.domainID with
  | none => domains
  | some id =>
    match domains.get id with
    | none => domains
    | some d =>
      if anotherLiveMatches uid rpcs.entries (sharesDomain ⟨id, d⟩) then domains
      else domains.delete id

/-- The clusters without the recorded one, unless it is shared. -/
def clustersLeft (uid : ℕ) (rpc : CR) (rpcs : Store CR) (clusters : List ProxyCluster) :
    List ProxyCluster :=
  if rpc.status.clusterAddress = "" then clusters
  else if anotherLiveMatches uid rpcs.entries (ownsCluster rpc.status.clusterAddress) then clusters
  else clusters.filter fun c => c.address ≠ rpc.status.clusterAddress

theorem mem_tokensLeft {t : Entry ProxyToken} :
    t ∈ tokensLeft rpc w.tokens ↔ t ∈ w.tokens ∧ rpc.status.tokenID ≠ some t.id := by
  rw [tokensLeft]
  cases rpc.status.tokenID with
  | none => simp
  | some id => simp [eq_comm]

/-- A registration is left alone exactly when it is not the recorded one, or is shared. -/
theorem mem_domainsLeft {d : Entry Registration} :
    d ∈ domainsLeft uid rpc w.rpcs w.domains ↔ d ∈ w.domains ∧ (rpc.status.domainID = some d.id →
      ∃ o ∈ w.rpcs, o.id ≠ uid ∧ o.val.live = true ∧ sharesDomain d o.val = true) := by
  rw [domainsLeft]
  cases hid : rpc.status.domainID with
  | none => simp
  | some id =>
    dsimp only
    cases hget : w.domains.get id with
    | none =>
      have hne := Store.get_eq_none.mp hget
      exact ⟨fun hd => ⟨hd, fun h => absurd (Option.some.inj h).symm (hne d hd)⟩, fun hd => hd.1⟩
    | some r =>
      have hmem := Store.get_eq_some.mp hget
      have heq : d ∈ w.domains → d.id = id → d = ⟨id, r⟩ := fun hd h => Store.eq_of_id_eq hd hmem h
      dsimp only
      split
      · next hshared =>
        refine ⟨fun hd => ⟨hd, fun h => ?_⟩, fun hd => hd.1⟩
        rw [heq hd (Option.some.inj h).symm]
        exact anotherLiveMatches_eq_true.mp hshared
      · next hshared =>
        rw [Store.mem_delete]
        refine and_congr_right fun hd => ⟨fun hne h => absurd (Option.some.inj h).symm hne, ?_⟩
        rintro h rfl
        obtain ⟨o, ho⟩ := h rfl
        exact hshared (anotherLiveMatches_eq_true.mpr ⟨o, heq hd rfl ▸ ho⟩)

/-- A cluster is left alone exactly when it is not at the recorded address, or the address is
shared. -/
theorem mem_clustersLeft {c : ProxyCluster} :
    c ∈ clustersLeft uid rpc w.rpcs w.clusters ↔ c ∈ w.clusters ∧
      (rpc.status.clusterAddress = c.address → c.address ≠ "" →
        ∃ o ∈ w.rpcs, o.id ≠ uid ∧ o.val.live = true ∧ ownsCluster c.address o.val = true) := by
  rw [clustersLeft]
  split
  · next h => exact ⟨fun hc => ⟨hc, fun ha hne => absurd (ha.symm.trans h) hne⟩, fun hc => hc.1⟩
  split
  · next hshared =>
    refine ⟨fun hc => ⟨hc, fun ha _ => ?_⟩, fun hc => hc.1⟩
    rw [← ha]
    exact anotherLiveMatches_eq_true.mp hshared
  · next hne hshared =>
    rw [List.mem_filter, decide_eq_true_eq]
    refine and_congr_right fun hc => ⟨fun h ha => absurd ha.symm h, ?_⟩
    intro h ha
    rw [← ha] at hne hshared
    exact hshared (anotherLiveMatches_eq_true.mpr (h ha.symm hne))

/-- From `w` the part of a pass reaches `w'`, or a call failed and it leaves `w` as it is. -/
def AllOrNothing (env : Env) (m : M Unit) (w w' : World) : Prop :=
  m w = (.ok (), w') ∨ ∃ e, m w = (.error e, w) ∧ ¬ env.FaultFree

theorem call_cases (env : Env) (c : Call) (w : World) :
    call env c w = (.ok (), w) ∨ ∃ e, call env c w = (.error e, w) ∧ ¬ env.FaultFree := by
  rw [call]
  cases hf : env.fault c with
  | none => exact Or.inl rfl
  | some f => exact Or.inr ⟨_, rfl, fun hfree => by simp [hfree c] at hf⟩

/-- Behind a call that may fail, all or nothing stays all or nothing. -/
theorem AllOrNothing.after_call {c : Call} {m : M Unit} {w' : World}
    (h : AllOrNothing env m w w') : AllOrNothing env (do call env c; m) w w' := by
  rcases call_cases env c w with hc | ⟨e, hc, hf⟩
  · rwa [AllOrNothing, bind_of_ok hc]
  · exact Or.inr ⟨e, bind_of_error hc, hf⟩

theorem AllOrNothing.after_scan {c : Call} {p : CR → Bool} {m : Bool → M Unit} {w' : World}
    (h : AllOrNothing env (m (anotherLiveMatches uid w.rpcs.entries p)) w w') :
    AllOrNothing env (anotherClusterMatches env c uid p >>= m) w w' := by
  rcases call_cases env c w with hc | ⟨e, hc, hf⟩
  · have hscan : anotherClusterMatches env c uid p w =
        (.ok (anotherLiveMatches uid w.rpcs.entries p), w) := bind_of_ok hc
    rwa [AllOrNothing, bind_of_ok hscan]
  · have hscan : anotherClusterMatches env c uid p w = (.error e, w) := bind_of_error hc
    exact Or.inr ⟨e, bind_of_error hscan, hf⟩

theorem allOrNothing_revokeToken :
    AllOrNothing env (revokeToken env rpc) w { w with tokens := tokensLeft rpc w.tokens } := by
  rw [revokeToken, tokensLeft]
  cases rpc.status.tokenID with
  | none => exact Or.inl rfl
  | some id => exact AllOrNothing.after_call (Or.inl rfl)

theorem allOrNothing_dropDomain :
    AllOrNothing env (dropDomain env uid rpc) w
      { w with domains := domainsLeft uid rpc w.rpcs w.domains } := by
  rw [dropDomain, domainsLeft]
  cases rpc.status.domainID with
  | none => exact Or.inl rfl
  | some id =>
    refine AllOrNothing.after_call ?_
    rw [AllOrNothing, bind_of_ok (read_apply _ w)]
    dsimp only
    cases w.domains.get id with
    | none => exact Or.inl rfl
    | some d =>
      refine AllOrNothing.after_scan ?_
      dsimp only
      split
      · exact Or.inl rfl
      · exact AllOrNothing.after_call (Or.inl rfl)

theorem allOrNothing_dropCluster :
    AllOrNothing env (dropCluster env uid rpc) w
      { w with clusters := clustersLeft uid rpc w.rpcs w.clusters } := by
  rw [dropCluster, clustersLeft]
  split
  · exact Or.inl rfl
  · refine AllOrNothing.after_scan ?_
    split
    · exact Or.inl rfl
    · exact AllOrNothing.after_call (Or.inl rfl)

theorem allOrNothing_patch {c : Call} :
    AllOrNothing env (patch env c uid rpc) w { w with rpcs := w.rpcs.put uid rpc } :=
  AllOrNothing.after_call (Or.inl rfl)

/-- The account once everything the object recorded is dropped, the object itself still there. -/
def cleared (uid : ℕ) (rpc : CR) (w : World) : World :=
  { w with
    tokens := tokensLeft rpc w.tokens
    domains := domainsLeft uid rpc w.rpcs w.domains
    clusters := clustersLeft uid rpc w.rpcs w.clusters }

/-- What a deleting pass leaves behind when no call fails. -/
def finished (uid : ℕ) (rpc : CR) (w : World) : World :=
  { cleared uid rpc w with rpcs := w.rpcs.put uid { rpc with finalizer := false } }

theorem rpcs_finished (hdel : rpc.deleting = true) :
    (finished uid rpc w).rpcs = w.rpcs.delete uid := by
  rw [finished, Store.put, if_pos ⟨hdel, by simp⟩]

/-- How far a deleting pass can get. -/
inductive DeleteEffect (uid : ℕ) (rpc : CR) (w : World) : World → Prop
  | nothing : DeleteEffect uid rpc w w
  | revoked : DeleteEffect uid rpc w { w with tokens := tokensLeft rpc w.tokens }
  | dropped : DeleteEffect uid rpc w
      { w with
        tokens := tokensLeft rpc w.tokens, domains := domainsLeft uid rpc w.rpcs w.domains }
  | cleared : DeleteEffect uid rpc w (cleared uid rpc w)
  | finished : DeleteEffect uid rpc w (finished uid rpc w)

/-- **The deleting pass.** It stops at the first call that fails, and without failures it
finishes. -/
theorem reconcileDelete_effect (env : Env) (uid : ℕ) (rpc : CR) (w : World) :
    DeleteEffect uid rpc w (reconcileDelete env uid rpc w).2 ∧
      (env.FaultFree → (reconcileDelete env uid rpc w).2 = finished uid rpc w) := by
  have h₁ : AllOrNothing env (revokeToken env rpc) w { w with tokens := tokensLeft rpc w.tokens } :=
    allOrNothing_revokeToken
  have h₂ : AllOrNothing env (dropDomain env uid rpc) { w with tokens := tokensLeft rpc w.tokens }
      { w with
        tokens := tokensLeft rpc w.tokens, domains := domainsLeft uid rpc w.rpcs w.domains } :=
    allOrNothing_dropDomain
  have h₃ : AllOrNothing env (dropCluster env uid rpc)
      { w with tokens := tokensLeft rpc w.tokens, domains := domainsLeft uid rpc w.rpcs w.domains }
      (ReverseProxyCluster.cleared uid rpc w) := allOrNothing_dropCluster
  have h₄ : AllOrNothing env (patch env .patchRemoveFinalizer uid { rpc with finalizer := false })
      (ReverseProxyCluster.cleared uid rpc w) (ReverseProxyCluster.finished uid rpc w) :=
    allOrNothing_patch
  rw [reconcileDelete]
  rcases h₁ with h₁ | ⟨e, h₁, hf⟩
  swap
  · rw [bind_of_error h₁]
    exact ⟨.nothing, fun hfree => absurd hfree hf⟩
  rw [bind_of_ok h₁]
  rcases h₂ with h₂ | ⟨e, h₂, hf⟩
  swap
  · rw [bind_of_error h₂]
    exact ⟨.revoked, fun hfree => absurd hfree hf⟩
  rw [bind_of_ok h₂]
  rcases h₃ with h₃ | ⟨e, h₃, hf⟩
  swap
  · rw [bind_of_error h₃]
    exact ⟨.dropped, fun hfree => absurd hfree hf⟩
  rw [bind_of_ok h₃]
  rcases h₄ with h₄ | ⟨e, h₄, hf⟩
  swap
  · rw [bind_of_error h₄]
    exact ⟨.cleared, fun hfree => absurd hfree hf⟩
  rw [bind_of_ok h₄]
  exact ⟨.finished, fun _ => rfl⟩

/-! ### Any pass -/

/-- A pass over a uid does nothing, or is a deleting pass, or is a live one. -/
theorem reconcile_cases (env : Env) (uid : ℕ) (w : World) :
    (w.rpcs.get uid = none ∧ step w (.reconcile uid env) = w) ∨
      ∃ rpc, w.rpcs.get uid = some rpc ∧
        ((rpc.deleting = true ∧
            step w (.reconcile uid env) = (reconcileDelete env uid rpc w).2) ∨
          (rpc.deleting = false ∧
            step w (.reconcile uid env) = (reconcileLive env uid rpc w).2)) := by
  rw [step, reconcile, bind_of_ok (read_apply _ w)]
  cases w.rpcs.get uid with
  | none => exact Or.inl ⟨rfl, rfl⟩
  | some rpc =>
    refine Or.inr ⟨rpc, rfl, ?_⟩
    cases hd : rpc.deleting with
    | true => exact Or.inl ⟨rfl, by simp [hd]⟩
    | false => exact Or.inr ⟨rfl, by simp [hd]⟩

end ReverseProxyCluster

end NetbirdOperator
