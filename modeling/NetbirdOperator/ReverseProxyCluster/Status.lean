import NetbirdOperator.ReverseProxyCluster.Effects
import NetbirdOperator.ReverseProxyCluster.Records

/-!
# The status a pass leaves

`Effects` says what a pass does to the account. This module says what it writes to its own object.
Two kinds of fields have to be told apart. The token, the domain id and the recorded cluster address
are the keys a deletion needs, and a pass may replace one but not lose it (`Kept`), wherever it
gives up. The load balancer address and the connectivity are observations: a pass that returns no
error has made them, or has found that there is nothing to observe (`Ended`).

One exit is odd. Without an address of the proxy Service the connectivity is reset, but the load
balancer address stays what it was (`Ended.waiting`).

## Main results

* `ReverseProxyCluster.reconcile_status` — the object after a pass
* `ReverseProxyCluster.reconcile_others` — the other objects
-/

namespace NetbirdOperator

open ControlLoop

namespace ReverseProxyCluster

open Pass

variable {env : Env} {uid : ℕ} {rpc r o : CR} {w : World} {P Q : CR → Prop}

/-! ### The fields a deletion needs -/

/-- The object is still the same one, and no key that a deletion would use has been lost. -/
structure Kept (rpc o : CR) : Prop where
  ns : o.ns = rpc.ns
  name : o.name = rpc.name
  spec : o.spec = rpc.spec
  deleting : o.deleting = rpc.deleting
  token : rpc.status.tokenID.isSome → o.status.tokenID.isSome
  domain : rpc.status.domainID.isSome → o.status.domainID.isSome
  address : rpc.status.clusterAddress ≠ "" → o.status.clusterAddress ≠ ""

theorem Kept.refl (rpc : CR) : Kept rpc rpc := ⟨rfl, rfl, rfl, rfl, id, id, id⟩

/-- Writes to the other fields of the status. -/
theorem Kept.of_status {st : Status} (h : Kept rpc r) (ht : st.tokenID = r.status.tokenID)
    (hd : st.domainID = r.status.domainID) (ha : st.clusterAddress = r.status.clusterAddress) :
    Kept rpc { r with status := st } where
  ns := h.ns
  name := h.name
  spec := h.spec
  deleting := h.deleting
  token := fun hs => by simpa only [ht] using h.token hs
  domain := fun hs => by simpa only [hd] using h.domain hs
  address := fun hs => by simpa only [ha] using h.address hs

theorem Kept.withFinalizer (h : Kept rpc r) : Kept rpc { r with finalizer := true } := { h with }

theorem Kept.withToken (h : Kept rpc r) (id : ℕ) :
    Kept rpc { r with status := { r.status with tokenID := some id } } :=
  { h with token := fun _ => rfl }

theorem Kept.withDomain (h : Kept rpc r) (id : ℕ) :
    Kept rpc { r with status := { r.status with domainID := some id } } :=
  { h with domain := fun _ => rfl }

theorem Kept.offline (h : Kept rpc r) : Kept rpc (offline r) := h.of_status rfl rfl rfl

/-- The recorded address may change, but only to that of the specification. -/
theorem Kept.enrolled (h : Kept rpc r) (hspec : rpc.spec.clusterAddress ≠ "") (c : ProxyCluster) :
    Kept rpc (enrolled r c) :=
  have haddr : r.spec.clusterAddress ≠ "" := h.spec ▸ hspec
  { h with address := fun _ => haddr }

/-! ### The fields a pass observes -/

/-- The answer of step 5 in a pass started in `w`. -/
def found (env : Env) (w : World) (rpc : CR) : Except Err (Option ProxyCluster) :=
  (w.cache.lookup env.now (fetchClusters env .clusterList w) (fetchClusters env .clusterRefresh w)
    fun c => c.address == rpc.spec.clusterAddress).1

/-- What a pass that returns no error leaves of the load balancer address and the connectivity. -/
inductive Ended (env : Env) (w : World) (rpc : CR) (loadBalancerIP : String) (online : Bool)
    (connectedProxies : ℕ) : Prop
  | waiting (hnone : serviceAddresses env.ingress = [])
      (hip : loadBalancerIP = rpc.status.loadBalancerIP)
      (hoff : online = false ∧ connectedProxies = 0)
  | absent (fa : FamilyAddress) (hfa : fa ∈ serviceAddresses env.ingress)
      (hip : loadBalancerIP = fa.address) (hoff : online = false ∧ connectedProxies = 0)
  | resolved (fa : FamilyAddress) (hfa : fa ∈ serviceAddresses env.ingress)
      (hip : loadBalancerIP = fa.address) (c : ProxyCluster)
      (hc : found env w rpc = .ok (some c))
      (hseen : online = c.online ∧ connectedProxies = c.connectedProxies)

/-- What any pass leaves of the load balancer address: the one it found, or an observed one. -/
def Tried (env : Env) (rpc : CR) (loadBalancerIP : String) : Prop :=
  loadBalancerIP = rpc.status.loadBalancerIP ∨
    ∃ fa ∈ serviceAddresses env.ingress, loadBalancerIP = fa.address

theorem Ended.tried {ip : String} {online : Bool} {n : ℕ} (h : Ended env w rpc ip online n) :
    Tried env rpc ip := by
  cases h with
  | waiting _ hip _ => exact Or.inl hip
  | absent fa hfa hip _ => exact Or.inr ⟨fa, hfa, hip⟩
  | resolved fa hfa hip _ _ _ => exact Or.inr ⟨fa, hfa, hip⟩

/-- What every moment of a pass leaves of its object. -/
def Safe (env : Env) (rpc o : CR) : Prop := Kept rpc o ∧ Tried env rpc o.status.loadBalancerIP

/-- What the end of an error-free pass leaves of its object. -/
def Done (env : Env) (w : World) (rpc o : CR) : Prop :=
  Kept rpc o ∧
    Ended env w rpc o.status.loadBalancerIP o.status.online o.status.connectedProxies

/-! ### Writes -/

/-- The object is there and satisfies `P`. -/
def Own (uid : ℕ) (P : CR → Prop) (w : World) : Prop := ∃ o, w.rpcs.get uid = some o ∧ P o

theorem Own.mono {w' : World} (h : Own uid P w') (hPQ : ∀ o, P o → Q o) : Own uid Q w' := by
  obtain ⟨o, ho, hP⟩ := h
  exact ⟨o, ho, hPQ o hP⟩

/-- The object is there and satisfies `P`, and step 5 would be answered as at the start. -/
def Upto (w : World) (uid : ℕ) (P : CR → Prop) (w' : World) : Prop :=
  Own uid P w' ∧ w'.cache = w.cache ∧ w'.clusters = w.clusters

/-- Writing the object as the pass has it in memory. -/
theorem patch_upto (hlive : rpc.deleting = false) (hr : Kept rpc r) (hQ : Q r) (c : Call) :
    Triple (Upto w uid P) (patch env c uid r) (fun _ => Upto w uid Q) fun _ => Own uid P := by
  refine Triple.bind (call_triple fun _ _ h => h.1) fun _ => ?_
  rintro w' ⟨⟨o, ho, -⟩, hcache, hclusters⟩
  refine ⟨⟨r, ?_, hQ⟩, hcache, hclusters⟩
  show (w'.rpcs.put uid r).get uid = some r
  rw [Store.put_of_live (hr.deleting.trans hlive)]
  exact Store.get_update_self ho r

theorem patch_own (hlive : rpc.deleting = false) (hr : Kept rpc r) (hQ : Q r) (c : Call) :
    Triple (Own uid P) (patch env c uid r) (fun _ => Own uid Q) fun _ => Own uid P := by
  intro w' hown
  have hpatch : Triple (Upto w' uid P) (patch env c uid r) (fun _ => Own uid Q)
      fun _ => Own uid P :=
    (patch_upto hlive hr hQ c).conseq (fun _ h => h) (fun _ _ h => h.1) fun _ _ h => h
  exact hpatch w' ⟨hown, rfl, rfl⟩

/-! ### Parts of a pass that leave the objects alone -/

/-- The part of a pass writes no object. -/
def Apart {α : Type} (m : M α) : Prop := ∀ w, (m w).2.rpcs = w.rpcs

theorem Apart.bind {α β : Type} {m : M α} {f : α → M β} (hm : Apart m) (hf : ∀ a, Apart (f a)) :
    Apart (m >>= f) := by
  intro w
  have hw := hm w
  rcases h : m w with ⟨out, w'⟩
  rw [h] at hw
  cases out with
  | ok a =>
    rw [bind_of_ok h]
    exact (hf a w').trans hw
  | error e =>
    rw [bind_of_error h]
    exact hw

theorem apart_call (c : Call) : Apart (call env c) := by
  intro w
  rw [call]
  cases env.fault c <;> rfl

theorem apart_createDomain (d : Registration) : Apart (createDomain env d) :=
  (apart_call _).bind fun _ => Apart.bind (fun _ => rfl) fun _ => Apart.bind (fun _ => rfl)
    fun _ _ => rfl

theorem apart_ensureDomain (rpc : CR) : Apart (ensureDomain env uid rpc) := by
  refine (apart_call _).bind fun _ => Apart.bind (fun _ => rfl) fun registered => ?_
  cases registered with
  | none => exact apart_createDomain _
  | some d =>
    dsimp only
    split
    · exact fun _ => rfl
    refine ((apart_call _).bind fun _ _ => rfl).bind fun owned => ?_
    cases owned with
    | true => exact fun _ => rfl
    | false =>
      refine Apart.bind (fun _ => rfl) fun existing => ?_
      cases existing with
      | some _ => exact fun _ => rfl
      | none => exact ((apart_call _).bind fun _ _ => rfl).bind fun _ => apart_createDomain _

/-- What is known of the object survives a part that writes no object. -/
theorem Apart.own {α : Type} {m : M α} (hm : Apart m) :
    Triple (Own uid P) m (fun _ => Own uid P) fun _ => Own uid P := by
  refine Triple.of_final fun w' hw => ?_
  rwa [Own, hm w']

/-- The workload is applied by calls. -/
theorem applyWorkload_status (r : CR) :
    Triple (Upto w uid P) (applyWorkload env r) (fun _ => Upto w uid P) fun _ => Own uid P := by
  have hcall : ∀ c, Triple (Upto w uid P) (call env c) (fun _ => Upto w uid P) fun _ => Own uid P :=
    fun c => call_triple fun _ _ h => h.1
  have hzone : Triple (Upto w uid P) (ensureZone env r) (fun _ => Upto w uid P)
      fun _ => Own uid P := by
    rw [ensureZone]
    cases r.spec.zoneRef with
    | some _ => exact fun _ h => h
    | none => exact hcall _
  exact hzone.bind fun _ => (hcall _).bind fun _ => hcall _

/-! ### The live pass -/

section Live

variable (hlive : rpc.deleting = false)

include hlive

theorem notReady_status (hr : Done env w rpc r) (msg : String) :
    Triple (Own uid (Safe env rpc)) (notReady env uid r msg) (fun _ => Own uid (Done env w rpc))
      fun _ => Own uid (Safe env rpc) := by
  have hr' : Kept rpc { r with status := { r.status with ready := some (markFalse msg) } } :=
    hr.1.of_status rfl rfl rfl
  exact Triple.bind (patch_own hlive hr' ⟨hr', hr.2⟩ _) fun _ _ h => h

theorem recordDomain_status (hr : Done env w rpc r) (id : ℕ) :
    Triple (Own uid (Safe env rpc)) (recordDomain env uid r id) (fun _ => Own uid (Done env w rpc))
      fun _ => Own uid (Safe env rpc) := by
  have hvalidate : ∀ r', Done env w rpc r' → Triple (Own uid (Safe env rpc))
      (validateDomain env uid r') (fun _ => Own uid (Done env w rpc))
      fun _ => Own uid (Safe env rpc) := by
    intro r' hr'
    rw [validateDomain]
    cases env.validate with
    | some msg => exact notReady_status hlive hr' _
    | none =>
      have hkept : Kept rpc { r' with status := { r'.status with
          ready := some markTrue, observedGeneration := (r'.generation : ℤ) } } :=
        hr'.1.of_status rfl rfl rfl
      exact Triple.bind (patch_own hlive hkept ⟨hkept, hr'.2⟩ _) fun _ _ h => h
  rw [recordDomain, patchDomainID]
  split
  · exact hvalidate r hr
  · have hr' : Done env w rpc { r with status := { r.status with domainID := some id } } :=
      ⟨hr.1.withDomain id, hr.2⟩
    refine Triple.bind (Q := fun r' w' => Own uid (Safe env rpc) w' ∧ Done env w rpc r') ?_
      fun r' => Triple.assume (hvalidate r')
    refine Triple.bind (Q := fun _ => Own uid (Safe env rpc))
      (patch_own hlive hr'.1 ⟨hr'.1, hr'.2.tried⟩ _) fun _ _ h => ⟨h, hr'⟩

theorem registerDomain_status (hr : Done env w rpc r) :
    Triple (Own uid (Safe env rpc)) (registerDomain env uid r) (fun _ => Own uid (Done env w rpc))
      fun _ => Own uid (Safe env rpc) := by
  refine Triple.bind (Q := fun _ => Own uid (Safe env rpc))
    (Triple.observe (apart_ensureDomain r).own) fun outcome => ?_
  cases outcome with
  | ok id => exact recordDomain_status hlive hr id
  | error e =>
    cases e with
    | api c f => exact fun _ h => h
    | dependencyNotReady msg => exact notReady_status hlive hr msg

/-- Step 5 is answered from the account and the cache as the pass found them. -/
theorem awaitEnrollment_status (haddr : rpc.spec.clusterAddress ≠ "") (hr : Kept rpc r)
    {fa : FamilyAddress} (hfa : fa ∈ serviceAddresses env.ingress)
    (hip : r.status.loadBalancerIP = fa.address) :
    Triple (Upto w uid (Safe env rpc)) (awaitEnrollment env uid r)
      (fun _ => Own uid (Done env w rpc)) fun _ => Own uid (Safe env rpc) := by
  refine Triple.bind
    (Q := fun answer w' => Own uid (Safe env rpc) w' ∧ found env w rpc = .ok answer) ?_
    fun answer => Triple.assume fun hanswer => ?_
  · rintro w' ⟨hown, hcache, hclusters⟩
    have hfetch : ∀ c, fetchClusters env c w' = fetchClusters env c w := fun c => by
      rw [fetchClusters, fetchClusters, hclusters]
    rw [getProxyClusterByAddress, hr.spec, hcache, hfetch, hfetch]
    rcases hlook : w.cache.lookup env.now (fetchClusters env .clusterList w)
      (fetchClusters env .clusterRefresh w) (fun c => c.address == rpc.spec.clusterAddress) with
      ⟨answer, cache⟩
    cases answer with
    | error e => exact hown
    | ok answer => exact ⟨hown, by rw [found, hlook]⟩
  · cases answer with
    | none =>
      exact notReady_status hlive ⟨hr.offline, .absent fa hfa hip ⟨rfl, rfl⟩⟩ _
    | some c =>
      refine registerDomain_status hlive ⟨hr.enrolled haddr c, ?_⟩
      exact .resolved fa hfa hip c hanswer ⟨rfl, rfl⟩

theorem awaitAddress_status (haddr : rpc.spec.clusterAddress ≠ "") (hr : Kept rpc r)
    (hip : r.status.loadBalancerIP = rpc.status.loadBalancerIP) :
    Triple (Upto w uid (Safe env rpc)) (awaitAddress env uid r)
      (fun _ => Own uid (Done env w rpc)) fun _ => Own uid (Safe env rpc) := by
  rw [awaitAddress]
  cases haddrs : serviceAddresses env.ingress with
  | nil =>
    -- The reset does not cover the address.
    have hr' : Done env w rpc (offline r) := ⟨hr.offline, .waiting haddrs hip ⟨rfl, rfl⟩⟩
    exact (notReady_status hlive hr' _).of_pre fun _ h => h.1
  | cons fa rest =>
    refine Triple.bind (call_triple fun _ _ h => h.1) fun _ => ?_
    refine awaitEnrollment_status hlive haddr (hr.of_status rfl rfl rfl) ?_ rfl
    rw [haddrs]
    exact List.mem_cons_self

/-- Minting writes the object, with the address it has. -/
theorem mintToken_status (hr : Kept rpc r)
    (hip : r.status.loadBalancerIP = rpc.status.loadBalancerIP) :
    Triple (Upto w uid (Safe env rpc)) (mintToken env uid r)
      (fun r' w' => Upto w uid (Safe env rpc) w' ∧
        (Kept rpc r' ∧ r'.status.loadBalancerIP = rpc.status.loadBalancerIP))
      fun _ => Own uid (Safe env rpc) := by
  rw [mintToken]
  cases r.status.tokenID with
  | some _ => exact fun _ h => ⟨h, hr, hip⟩
  | none =>
    refine Triple.bind (call_triple fun _ _ h => h.1) fun _ => ?_
    refine Triple.bind (Q := fun _ => Upto w uid (Safe env rpc)) (fun _ h => h) fun id => ?_
    refine Triple.bind (Q := fun _ => Upto w uid (Safe env rpc)) (fun _ h => h) fun _ => ?_
    refine Triple.bind (call_triple fun _ _ h => h.1) fun _ => ?_
    refine Triple.bind (Q := fun _ => Upto w uid (Safe env rpc)) (fun _ h => h) fun _ => ?_
    have hr' := hr.withToken id
    refine Triple.bind (Q := fun _ => Upto w uid (Safe env rpc))
      (patch_upto hlive hr' ⟨hr', Or.inl hip⟩ _) fun _ => ?_
    exact fun _ h => ⟨h, hr', hip⟩

theorem reconcileLive_status (haddr : rpc.spec.clusterAddress ≠ "")
    (hget : w.rpcs.get uid = some rpc) :
    Triple (fun w' => w' = w) (reconcileLive env uid rpc) (fun _ => Own uid (Done env w rpc))
      fun _ => Own uid (Safe env rpc) := by
  have hstart : ∀ w', w' = w → Upto w uid (Safe env rpc) w' := by
    rintro w' rfl
    exact ⟨⟨rpc, hget, .refl rpc, Or.inl rfl⟩, rfl, rfl⟩
  have hr : Kept rpc { rpc with finalizer := true } := (Kept.refl rpc).withFinalizer
  refine Triple.of_pre ?_ hstart
  refine Triple.bind (Q := fun _ => Upto w uid (Safe env rpc))
    (patch_upto hlive hr ⟨hr, Or.inl rfl⟩ _) fun _ => ?_
  refine Triple.bind (mintToken_status hlive hr rfl) fun r => Triple.assume fun hr' => ?_
  refine Triple.bind (applyWorkload_status r) fun _ => ?_
  exact awaitAddress_status hlive haddr hr'.1 hr'.2

end Live

/-! ### Any pass -/

theorem apart_revokeToken (rpc : CR) : Apart (revokeToken env rpc) := by
  rw [revokeToken]
  cases rpc.status.tokenID with
  | none => exact fun _ => rfl
  | some _ => exact (apart_call _).bind fun _ _ => rfl

theorem apart_dropDomain (rpc : CR) : Apart (dropDomain env uid rpc) := by
  rw [dropDomain]
  cases rpc.status.domainID with
  | none => exact fun _ => rfl
  | some _ =>
    refine (apart_call _).bind fun _ => Apart.bind (fun _ => rfl) fun registered => ?_
    cases registered with
    | none => exact fun _ => rfl
    | some _ =>
      refine ((apart_call _).bind fun _ _ => rfl).bind fun shared => ?_
      cases shared with
      | true => exact fun _ => rfl
      | false => exact (apart_call _).bind fun _ _ => rfl

theorem apart_dropCluster (rpc : CR) : Apart (dropCluster env uid rpc) := by
  rw [dropCluster]
  split
  · exact fun _ => rfl
  refine ((apart_call _).bind fun _ _ => rfl).bind fun shared => ?_
  cases shared with
  | true => exact fun _ => rfl
  | false => exact (apart_call _).bind fun _ _ => rfl

/-- A deleting pass that returns no error has let go of the object; one that gives up has not
touched it. -/
theorem reconcileDelete_status (hdeleting : rpc.deleting = true) :
    Triple (Own uid P) (reconcileDelete env uid rpc) (fun _ w' => w'.rpcs.get uid = none)
      fun _ => Own uid P := by
  refine (apart_revokeToken rpc).own.bind fun _ => (apart_dropDomain rpc).own.bind fun _ => ?_
  refine (apart_dropCluster rpc).own.bind fun _ => ?_
  refine Triple.bind (Q := fun _ w' => w'.rpcs.get uid = none) ?_ fun _ _ h => h
  refine (apart_call _).own.bind fun _ w' _ => ?_
  show (w'.rpcs.put uid { rpc with finalizer := false }).get uid = none
  rw [Store.put, if_pos ⟨hdeleting, by simp⟩]
  exact Store.get_eq_none.mpr fun e he => (Store.mem_delete.mp he).2

/-- **The object after a pass.** A pass that returns no error has let go of it or made its
observations; wherever a pass gives up, the keys of a deletion are there. -/
theorem reconcile_status (haddr : rpc.spec.clusterAddress ≠ "")
    (hget : w.rpcs.get uid = some rpc) :
    Triple (fun w' => w' = w) (reconcile env uid)
      (fun _ w' => w'.rpcs.get uid = none ∨ (rpc.deleting = false ∧ Own uid (Done env w rpc) w'))
      fun _ => Own uid (Safe env rpc) := by
  refine Triple.bind (Q := fun answer w' => w' = w ∧ answer = some rpc) ?_
    fun answer => Triple.assume ?_
  · rintro w' rfl
    exact ⟨rfl, hget⟩
  rintro rfl
  dsimp only
  cases hdel : rpc.deleting with
  | false =>
    rw [if_neg (by simp)]
    exact (reconcileLive_status hdel haddr hget).conseq (fun _ h => h) (fun _ _ h => .inr ⟨rfl, h⟩)
      fun _ _ h => h
  | true =>
    rw [if_pos rfl]
    refine (reconcileDelete_status (P := Safe env rpc) hdel).conseq ?_ (fun _ _ h => .inl h)
      fun _ _ h => h
    rintro w' rfl
    exact ⟨rpc, hget, .refl rpc, Or.inl rfl⟩

/-- **The other objects.** A pass leaves them alone. -/
theorem reconcile_others (env : Env) (uid : ℕ) (w : World) :
    (reconcile env uid w).2.rpcs.delete uid = w.rpcs.delete uid := by
  show (step w (.reconcile uid env)).rpcs.delete uid = w.rpcs.delete uid
  rcases reconcile_cases env uid w with ⟨-, hstep⟩ | ⟨rpc, hget, ⟨-, hstep⟩ | ⟨hlive, hstep⟩⟩
  · rw [hstep]
  · rw [hstep]
    have heffect := (reconcileDelete_effect env uid rpc w).1
    generalize (reconcileDelete env uid rpc w).2 = w' at heffect ⊢
    cases heffect with
    | finished => exact Store.delete_put ..
    | _ => rfl
  · rw [hstep]
    exact (reconcileLive_effect env hlive hget).others

/-- An address of the Service is reported whenever it has one. -/
theorem serviceAddresses_eq_nil {ingress : List FamilyAddress} :
    serviceAddresses ingress = [] ↔ ingress = [] := by
  constructor
  · intro h
    cases ingress with
    | nil => rfl
    | cons fa rest =>
      have hfind := find?_serviceAddresses fa.family (fa :: rest)
      rw [h] at hfind
      simp at hfind
  · rintro rfl
    rfl

end ReverseProxyCluster

end NetbirdOperator
