import NetbirdOperator.Coherence.ChildIDs
import NetbirdOperator.DNSZone.Adoption
import NetbirdOperator.Group.Model
import NetbirdOperator.Network.Model
import NetbirdOperator.ReverseProxyService.PortDomains

/-!
# Objects that were deleted out of band

What others delete in NetBird, the next pass over the object puts back. The architecture document
says how: a recorded id is checked with a GET before it is used, because a GET of something that is
gone answers a clean 404 and an update may not. So nothing is assumed here of an update of what is
gone. In the hypotheses below the update may fail with anything, and all other calls go through.

Six of the seven kinds heal under these hypotheses. The recorded id is dropped, for a child also if
its parent was created anew under another id, and the pass creates the object, or adopts one that is
there already. ReverseProxyService does not check: it updates the recorded service at once, and
creates one only if the update is answered with a 404. It heals exactly if it is
(`ReverseProxyService.healed_iff`), and stays deleted otherwise (`deleted_service_stays_gone`).

## Main results

* `ReverseProxyService.healed_iff` — when it achieves it for a service
* `deleted_objects_heal` — all seven kinds
* `ReverseProxyService.deleted_service_stays_gone` — a service that is not healed
-/

namespace NetbirdOperator

open ControlLoop

open Pass

/-! ### Network -/

namespace Network

/-- One pass over a live object whose network is gone, with all calls but the update going through,
leaves a network with the object's content on record. -/
def Heals : Prop :=
  ∀ (fault : Mirror.Call Call → Option Fault) (w : World) (uid : ℕ) (net : CR),
    w.objects.get uid = some net → net.deleting = false →
    (∀ id, net.status.recorded.networkID = some id → ¬ w.account.networks.Has id) →
    (∀ c, c ≠ .own .updateNetwork → fault c = none) →
    ∃ net' id, (reconcile fault uid w).2.objects.get uid = some net' ∧
      net'.status.recorded.networkID = some id ∧
      (reconcile fault uid w).2.account.networks.get id = some (networkRequest net.spec)

theorem heals : Heals := by
  intro fault w uid net hget hlive hgone hcalls
  have happly : (mirror fault).apply (Mirror.withFinalizer net) w.account =
      (.ok ⟨some w.account.networks.next⟩,
        ⟨w.account.networks.create (networkRequest net.spec)⟩) :=
    bind_of_ok (Mirror.Shelf.upsert_of_gone (hcalls _ (by simp [upsertCalls]))
      (hcalls _ (by simp [upsertCalls])) hgone)
  rw [reconcile, Mirror.reconcile_recorded (hcalls _ (by simp)) (hcalls _ (by simp)) hget hlive
    happly (hcalls _ (by simp))]
  exact ⟨_, _, Store.get_update_self hget _, rfl, Store.get_create_next _ _⟩

end Network

/-! ### NetworkResource -/

namespace NetworkResource

variable {env : Env} {nr : CR} {a : Account} {n : ℕ} {req : Resource}

theorem applyNetworkResource_of_gone (hn : resolveNetworkID env nr.spec.networkRef = .ok n)
    (hreq : request env nr = .ok req) (hget : env.fault (.own .getResource) = none)
    (hcreate : env.fault (.own .createResource) = none)
    (hgone : ∀ id, keptID n nr.status.recorded = some id → ¬ (a.networks n).Has id) :
    applyNetworkResource env nr a =
      (.ok ⟨some n, some (a.networks n).next⟩,
        (resources n).set a ((a.networks n).create req)) := by
  have hupsert : (resources n).upsert env.fault upsertCalls (keptID n nr.status.recorded) req a =
      (.ok (a.networks n).next, (resources n).set a ((a.networks n).create req)) :=
    Mirror.Shelf.upsert_of_gone hget hcreate hgone
  rw [applyNetworkResource, hn, hreq]
  exact bind_of_ok hupsert

/-- The same for a resource, in the network the object is in now, which may have replaced the one on
record. -/
def Heals : Prop :=
  ∀ (env : Env) (w : World) (uid n : ℕ) (nr : CR) (req : Resource),
    w.objects.get uid = some nr → nr.deleting = false →
    env.networkStatus nr.spec.networkRef = some (some n) → request env nr = .ok req →
    Paired w.account.networks nr.status.recorded.networkID nr.status.recorded.resourceID →
    (∀ id, nr.status.recorded = ⟨some n, some id⟩ → ¬ (w.account.networks n).Has id) →
    (∀ c, c ≠ .own .updateResource → env.fault c = none) →
    ∃ nr' id, (reconcile env uid w).2.objects.get uid = some nr' ∧
      nr'.status.recorded = ⟨some n, some id⟩ ∧
      ((reconcile env uid w).2.account.networks n).get id = some req

theorem heals : Heals := by
  intro env w uid n nr req hget hlive hn hreq hpaired hgone hcalls
  have hresolve : resolveNetworkID env nr.spec.networkRef = .ok n :=
    Mirror.dependencyID_eq_ok.mpr ⟨hcalls _ (by simp), hn⟩
  have happly : (mirror env).apply (Mirror.withFinalizer nr) w.account =
      (.ok ⟨some n, some (w.account.networks n).next⟩,
        (resources n).set w.account ((w.account.networks n).create req)) :=
    applyNetworkResource_of_gone hresolve hreq (hcalls _ (by simp)) (hcalls _ (by simp))
      (hpaired.not_has_of_kept fun id hp hc => hgone id (by rw [← hp, ← hc]))
  rw [reconcile, Mirror.reconcile_recorded (hcalls _ (by simp)) (hcalls _ (by simp)) hget hlive
    happly (hcalls _ (by simp))]
  refine ⟨_, _, Store.get_update_self hget _, rfl, ?_⟩
  rw [show ((resources n).set w.account ((w.account.networks n).create req)).networks n = _ from
    (resources n).view_set _ _, Store.get_create_next]

end NetworkResource

/-! ### NetworkRouter -/

namespace NetworkRouter

variable {env : Env} {w : World} {o : CR} {n : ℕ} {groupID : String}

/-- A router on record is kept only in the network it is on record with. -/
theorem not_has_of_withNetwork
    (hpaired : Paired w.networks o.status.networkID o.status.routerID)
    (hgone : ∀ id, o.status.networkID = some n → o.status.routerID = some id →
      ¬ (w.networks n).Has id) :
    ∀ id, (withNetwork o n).status.routerID = some id → ¬ (w.networks n).Has id := by
  intro id hid
  obtain ⟨hnetwork, hrouter⟩ := hpaired.of_kept hid
  exact hgone id hnetwork hrouter

/-- A router that is gone is created, whatever an update would answer. -/
theorem upsertRouter_of_gone {routerID : Option ℕ} (spec : Spec)
    (hget : env.fault .getRouter = none) (hcreate : env.fault .createRouter = none)
    (hgone : ∀ id, routerID = some id → ¬ (w.networks n).Has id) :
    upsertRouter env n routerID groupID spec w =
      (.ok (w.networks n).next, w.withRouter n ((w.networks n).create
        (routerRequest spec groupID)) (routerRequest spec groupID)) := by
  have hverified : Mirror.verifyNetbirdID routerID (routerExists env n) w = (.ok none, w) :=
    Mirror.verifyNetbirdID_of_gone (fun _ => routerExists_of_none hget w) hgone
  rw [upsertRouter, bind_of_ok hverified]
  exact createRouter_of_none hcreate w

/-- The same for a router, with a peer group that the pass resolves. -/
def Heals : Prop :=
  ∀ (env : Env) (w : World) (n : ℕ) (o : CR) (groupID : String),
    w.cr = some o → o.deleting = false →
    env.networkStatus o.spec.networkRef = some (some n) →
    (∀ w', (resolvePeerGroup env o w').1 = .ok groupID) → groupID ≠ "" →
    Paired w.networks o.status.networkID o.status.routerID →
    (∀ id, o.status.networkID = some n → o.status.routerID = some id → ¬ (w.networks n).Has id) →
    (∀ c, c ≠ .updateRouter → env.fault c = none) →
    ∃ o' id, (reconcile env w).2.cr = some o' ∧ o'.status.networkID = some n ∧
      o'.status.routerID = some id ∧ PeerGroup env o groupID ∧
      ((reconcile env w).2.networks n).get id = some (routerRequest o.spec groupID)

theorem heals : Heals := by
  intro env w n o groupID hcr hlive hn hpeers hne hpaired hgone hcalls
  have hcalls' : ∀ {c}, c ≠ .updateRouter → env.fault c = none := fun hc => hcalls _ hc
  let o₁ : CR := { o with finalizer := true }
  let w₁ : World := { w with cr := some o₁ }
  have hgroup : (resolvePeerGroup env (withNetwork o₁ n) w₁).1 = .ok groupID := hpeers w₁
  have hpeer : PeerGroup env o groupID := by
    rcases resolvePeerGroup_ok (Prod.ext hgroup rfl) with h | ⟨h, -⟩
    · exact h.2
    · exact absurd h hne
  have hkeeps := (resolvePeerGroup_keeps env (withNetwork o₁ n) (some o₁) w.networks).final
    (s := w₁) ⟨rfl, rfl⟩
  rcases hrun : resolvePeerGroup env (withNetwork o₁ n) w₁ with ⟨out, w₂⟩
  rw [hrun] at hgroup hkeeps
  obtain rfl : out = .ok groupID := hgroup
  obtain ⟨hcr₂, hnetworks₂⟩ := hkeeps
  dsimp only at hcr₂ hnetworks₂
  have hgone₂ : ∀ id, (withNetwork o₁ n).status.routerID = some id → ¬ (w₂.networks n).Has id := by
    rw [hnetworks₂]
    exact not_has_of_withNetwork hpaired hgone
  have hupsert : upsertRouter env n (withNetwork o₁ n).status.routerID groupID
      (withNetwork o₁ n).spec w₂ = _ :=
    upsertRouter_of_gone o.spec (hcalls' (by simp)) (hcalls' (by simp)) hgone₂
  obtain ⟨hnetworks, hcr'⟩ := bindGroup_of_ok rfl hupsert
  have hnetwork : resolveNetworkID env o.spec.networkRef = .ok n :=
    Mirror.dependencyID_eq_ok.mpr ⟨hcalls' (by simp), hn⟩
  rw [reconcile_of_group (hcalls' (by simp)) (hcalls' (by simp)) hnetwork hcr hlive hrun, hcr',
    hnetworks, if_pos (hcalls' (by simp))]
  refine ⟨_, _, rfl, rfl, rfl, hpeer, ?_⟩
  show (setRouters n _ w₂.networks n).get _ = _
  rw [setRouters, Function.update_self, Store.get_create_next]

end NetworkRouter

/-! ### DNSZone -/

namespace DNSZone

variable {env : Env} {z : CR} {a : Account} {req : Zone}

/-- With an expired cache, a zone that is gone is replaced by one of the declared name if there is
one, and created otherwise. Only the former takes an update. -/
theorem applyDNSZone_of_gone (hreq : request env.groups z = .ok req)
    (hcache : a.cache.fresh env.now = false) (hgone : Unrecorded z a)
    (hcalls : ∀ c, c ≠ .own .updateZone → env.fault c = none)
    (hupdate : a.zones.first (named z.spec.name) ≠ none → env.fault (.own .updateZone) = none) :
    ∃ id a', applyDNSZone env z a = (.ok ⟨some id⟩, a') ∧ a'.zones.get id = some req := by
  have hcall : ∀ {c : Call} (a : Account), c ≠ .updateZone → call env c a = (.ok (), a) := by
    intro c a hc
    exact call_of_none (hcalls _ (by simpa using hc)) a
  have hexists : ∀ id, zoneExists env id a = (.ok (a.zones.get id).isSome, a) := by
    intro id
    have hget : getZone env id a = (.ok (a.zones.get id), a) := bind_of_ok (hcall a (by simp))
    rw [zoneExists, bind_of_ok hget]
    rfl
  have hverify : verifyZone env z a = (.ok none, a) :=
    Mirror.verifyNetbirdID_of_gone hexists hgone
  have hfetch : ∀ c, c ≠ .updateZone → fetchZones env c a = .ok a.zones.entries := by
    intro c hc
    rw [fetchZones, hcalls _ (by simpa using hc)]
  obtain ⟨c, hlookup⟩ := ListCache.lookup_expired hcache (hfetch .listZones (by simp))
    (hfetch .refreshZones (by simp)) fun e => e.val.name == z.spec.name
  have hadopt : adoptZone env z none a =
      (.ok ((a.zones.first (named z.spec.name)).map Entry.id), { a with cache := c }) := by
    have hfound : getDNSZoneByName env z.spec.name a =
        (.ok (a.zones.first (named z.spec.name)), { a with cache := c }) := by
      rw [getDNSZoneByName, hlookup]
      rfl
    rw [adoptZone, bind_of_ok hfound]
    rfl
  rw [applyDNSZone_of_ok hreq, bind_of_ok hverify, bind_of_ok hadopt]
  cases hfirst : a.zones.first (named z.spec.name) with
  | none =>
    have hcreate : createZone env req { a with cache := c } =
        (.ok a.zones.next, ⟨a.zones.create req, c, a.created ++ [a.zones.next]⟩) := by
      rw [createZone, bind_of_ok (hcall _ (by simp))]
      rfl
    exact ⟨_, _, bind_of_ok hcreate, Store.get_create_next _ _⟩
  | some e =>
    have hhas : a.zones.Has e.id := ⟨e, Store.mem_of_first hfirst, rfl⟩
    have hsome : (a.zones.get e.id).isSome = true := Store.isSome_get.mpr hhas
    have hput : updateZone env e.id req { a with cache := c } =
        (.ok true, { a with zones := a.zones.update e.id req, cache := c }) := by
      rw [updateZone, bind_of_ok (call_of_none (hupdate (by simp [hfirst])) _)]
      show (Except.ok (a.zones.get e.id).isSome, _) = _
      rw [hsome]
    have hupsert : upsertZone env req (some e.id) { a with cache := c } =
        (.ok e.id, { a with zones := a.zones.update e.id req, cache := c }) := by
      rw [upsertZone, bind_of_ok hput]
      rfl
    exact ⟨_, _, bind_of_ok hupsert, hhas.get_update req⟩

/-- The same for a zone. One of the declared name that is there already is updated, and that update
goes through. -/
def Heals : Prop :=
  ∀ (env : Env) (w : World) (uid : ℕ) (z : CR) (req : Zone),
    w.objects.get uid = some z → z.deleting = false → request env.groups z = .ok req →
    w.account.cache.fresh env.now = false →
    (∀ id, z.status.recorded.zoneID = some id → ¬ w.account.zones.Has id) →
    (∀ c, c ≠ .own .updateZone → env.fault c = none) →
    ((∃ e ∈ w.account.zones, e.val.name = z.spec.name) → env.fault (.own .updateZone) = none) →
    ∃ z' id, (reconcile env uid w).2.objects.get uid = some z' ∧
      z'.status.recorded.zoneID = some id ∧
      (reconcile env uid w).2.account.zones.get id = some req

theorem heals : Heals := by
  intro env w uid z req hget hlive hreq hcache hgone hcalls hupdate
  have hadoptee : w.account.zones.first (named z.spec.name) ≠ none →
      env.fault (.own .updateZone) = none := by
    intro hne
    obtain ⟨e, he⟩ := Option.ne_none_iff_exists'.mp hne
    exact hupdate ⟨e, Store.mem_of_first he, by simpa [named] using Store.prop_of_first he⟩
  obtain ⟨id, a', happly, hcontent⟩ := applyDNSZone_of_gone (z := Mirror.withFinalizer z) hreq
    hcache hgone hcalls hadoptee
  rw [reconcile, Mirror.reconcile_recorded (m := mirror env) (hcalls _ (by simp))
    (hcalls _ (by simp)) hget hlive happly (hcalls _ (by simp))]
  exact ⟨_, _, Store.get_update_self hget _, rfl, hcontent⟩

end DNSZone

/-! ### DNSRecord -/

namespace DNSRecord

variable {env : Env} {rec : CR} {a : Account} {z : ℕ}

/-- A record that is gone is replaced by one that matches if there is one, and created otherwise.
Only the former takes an update. -/
theorem applyDNSRecord_of_gone (hz : resolveZoneID env rec.spec.zoneRef = .ok z)
    (hgone : ∀ id, keptID z rec.status.recorded = some id → ¬ (a.zones z).Has id)
    (hcalls : ∀ c, c ≠ .own .updateRecord → env.fault c = none)
    (hupdate : (a.zones z).first (matchesSpec env rec.spec) ≠ none →
      env.fault (.own .updateRecord) = none) :
    ∃ id a', applyDNSRecord env rec a = (.ok ⟨some z, some id⟩, a') ∧
      (a'.zones z).get id = some (recordRequest rec.spec) := by
  have hcall : ∀ {c : Call} (a : Account), c ≠ .updateRecord → call env c a = (.ok (), a) := by
    intro c a hc
    exact call_of_none (hcalls _ (by simpa using hc)) a
  have hexists : ∀ id, recordExists env z id a = (.ok ((a.zones z).get id).isSome, a) :=
    fun _ => bind_of_ok (hcall a (by simp))
  have hverify : Mirror.verifyNetbirdID (keptID z rec.status.recorded) (recordExists env z) a =
      (.ok none, a) :=
    Mirror.verifyNetbirdID_of_gone hexists hgone
  have hadopt : adoptRecord env z rec.spec none a =
      (.ok (((a.zones z).first (matchesSpec env rec.spec)).map Entry.id), a) :=
    bind_of_ok (hcall a (by simp))
  have hlift : (lift (resolveZoneID env rec.spec.zoneRef) : M ℕ) a = (.ok z, a) := by
    rw [hz]
    rfl
  rw [applyDNSRecord, bind_of_ok hlift, bind_of_ok hverify, bind_of_ok hadopt]
  cases hfirst : (a.zones z).first (matchesSpec env rec.spec) with
  | none =>
    have hcreate : createRecord env z (recordRequest rec.spec) a =
        (.ok (a.zones z).next, a.set z ((a.zones z).create (recordRequest rec.spec))) := by
      rw [createRecord, bind_of_ok (hcall _ (by simp))]
      rfl
    refine ⟨_, _, bind_of_ok hcreate, ?_⟩
    rw [zones_set_self, Store.get_create_next]
  | some e =>
    have hhas : (a.zones z).Has e.id := ⟨e, Store.mem_of_first hfirst, rfl⟩
    have hsome : ((a.zones z).get e.id).isSome = true := Store.isSome_get.mpr hhas
    have hput : updateRecord env z e.id (recordRequest rec.spec) a =
        (.ok true, a.set z ((a.zones z).update e.id (recordRequest rec.spec))) := by
      rw [updateRecord, bind_of_ok (call_of_none (hupdate (by simp [hfirst])) _)]
      show (Except.ok ((a.zones z).get e.id).isSome, _) = _
      rw [hsome]
    have hupsert : upsertRecord env z (recordRequest rec.spec) (some e.id) a =
        (.ok e.id, a.set z ((a.zones z).update e.id (recordRequest rec.spec))) := by
      rw [upsertRecord, bind_of_ok hput]
      rfl
    refine ⟨_, _, bind_of_ok hupsert, ?_⟩
    rw [zones_set_self, hhas.get_update]

/-- The same for a record, in the zone the object is in now, which may have replaced the one on
record. A record that matches and is there already is updated, and that update goes through. -/
def Heals : Prop :=
  ∀ (env : Env) (w : World) (uid z : ℕ) (rec : CR),
    w.objects.get uid = some rec → rec.deleting = false →
    env.zoneStatus rec.spec.zoneRef = some (some z) →
    Paired w.account.zones rec.status.recorded.zoneID rec.status.recorded.recordID →
    (∀ id, rec.status.recorded = ⟨some z, some id⟩ → ¬ (w.account.zones z).Has id) →
    (∀ c, c ≠ .own .updateRecord → env.fault c = none) →
    ((∃ e ∈ w.account.zones z, matchesSpec env rec.spec e.val = true) →
      env.fault (.own .updateRecord) = none) →
    ∃ rec' id, (reconcile env uid w).2.objects.get uid = some rec' ∧
      rec'.status.recorded = ⟨some z, some id⟩ ∧
      ((reconcile env uid w).2.account.zones z).get id = some (recordRequest rec.spec)

theorem heals : Heals := by
  intro env w uid z rec hget hlive hz hpaired hgone hcalls hupdate
  have hresolve : resolveZoneID env rec.spec.zoneRef = .ok z :=
    Mirror.dependencyID_eq_ok.mpr ⟨hcalls _ (by simp), hz⟩
  have hadoptee : (w.account.zones z).first (matchesSpec env rec.spec) ≠ none →
      env.fault (.own .updateRecord) = none := by
    intro hne
    obtain ⟨e, he⟩ := Option.ne_none_iff_exists'.mp hne
    exact hupdate ⟨e, Store.mem_of_first he, Store.prop_of_first he⟩
  have happlied : ∃ id a', applyDNSRecord env (Mirror.withFinalizer rec) w.account =
      (.ok ⟨some z, some id⟩, a') ∧ (a'.zones z).get id = some (recordRequest rec.spec) :=
    applyDNSRecord_of_gone hresolve
      (hpaired.not_has_of_kept fun id hp hc => hgone id (by rw [← hp, ← hc])) hcalls hadoptee
  obtain ⟨id, a', happly, hcontent⟩ := happlied
  rw [reconcile, Mirror.reconcile_recorded (m := mirror env) (hcalls _ (by simp))
    (hcalls _ (by simp)) hget hlive happly (hcalls _ (by simp))]
  exact ⟨_, _, Store.get_update_self hget _, rfl, hcontent⟩

end DNSRecord

/-! ### Group -/

namespace Group

/-- A pass over a live object whose group is gone: the finalizer, the get, the create and the
status. No update is sent. -/
def healingPass : List Event :=
  [.reconcile, .message none, .message none, .message none, .message none]

/-- The same for a group, whose pass is one of messages. -/
def Heals : Prop :=
  ∀ (s : State) (o : CR) (id : ℕ), s.cr = some o → s.pending = none → o.deleting = false →
    o.status.groupID = some id → ¬ s.groups.Has id →
    ∃ o' id' g, (run step s healingPass).cr = some o' ∧ (run step s healingPass).pending = none ∧
      o'.status.groupID = some id' ∧ (run step s healingPass).groups.get id' = some g ∧
      g.name = o.spec.name

theorem heals : Heals := by
  intro s o id hcr hpending hlive hid hgone
  have hnone : s.groups.get id = none := Store.get_eq_none.mpr fun e he hide => hgone ⟨e, he, hide⟩
  obtain ⟨cr, groups, pending, result, others⟩ := s
  dsimp only at hcr hpending hnone
  subst hcr hpending
  have hbegin : step ⟨some o, groups, none, result, others⟩ .reconcile =
      ⟨some o, groups, some (.patchFinalizer o), result, others⟩ := by
    simp [step, begin, firstMessage, hlive, State.continue]
  have hfinalizer : step ⟨some o, groups, some (.patchFinalizer o), result, others⟩
      (.message none) =
      ⟨some { o with finalizer := true }, groups, some (.getGroup o id), result, others⟩ := by
    simp [step, deliver, answer, patch, ensureGroup, hid, State.continue]
  have hget : step
      ⟨some { o with finalizer := true }, groups, some (.getGroup o id), result, others⟩
      (.message none) =
      ⟨some { o with finalizer := true }, groups, some (.createGroup o), result, others⟩ := by
    simp [step, deliver, answer, gotGroup, hnone, State.continue]
  rw [healingPass, run_cons, hbegin, run_cons, hfinalizer, run_cons, hget]
  refine ⟨asReady groups.next o.generation { o with finalizer := true }, groups.next,
    GroupRequest.group ⟨o.spec.name, none, none⟩, ?_, rfl, rfl, ?_, rfl⟩
  · simp [step, deliver, answer, patch, asReady, State.continue, State.finish]
  · simp [step, deliver, answer, patch, asReady, State.continue, State.finish,
      Store.get_create_next]

end Group

/-! ### ReverseProxyService -/

namespace ReverseProxyService

variable {env : Env} {o : CR} {a a' : Account} {cluster : ProxyCluster} {req : ServiceRequest}
  {id : ℕ}

/-- The object's proxy cluster is there, and its request can be made of it. -/
structure Requests (env : Env) (o : CR) (a : Account) (cluster : ProxyCluster)
    (req : ServiceRequest) : Prop where
  expired : a.cache.fresh env.now = false
  found : a.clusters.find? (fun c => c.address == o.spec.proxyCluster) = some cluster
  request : serviceRequest env o cluster.address = .ok req

/-- An object with a service on record that is gone asks for its update all the same, and it depends
on the answer what becomes of it. -/
theorem applyReverseProxyService_of_gone (hreq : Requests env o a cluster req)
    (hrec : o.status.recorded.serviceID = some id) (hgone : ¬ a.services.Has id)
    (hcalls : ∀ c, c ≠ .own .updateService → env.fault c = none) :
    ∃ c, applyReverseProxyService env o a =
      match env.fault (.own .updateService) with
      | none => (.ok ⟨some a.services.next, req.domain⟩,
          { a with services := a.services.create req, cache := c })
      | some f => (.error (.api (.own .updateService) f), { a with cache := c }) := by
  have hfetch : ∀ c, c ≠ .updateService → fetchClusters env c a = .ok a.clusters := by
    intro c hc
    rw [fetchClusters, hcalls _ (by simpa using hc)]
  obtain ⟨c, hlookup⟩ := ListCache.lookup_expired hreq.expired (hfetch .listClusters (by simp))
    (hfetch .refreshClusters (by simp)) fun c => c.address == o.spec.proxyCluster
  have hcluster : proxyCluster env o a = (.ok cluster, { a with cache := c }) := by
    have hfound : getProxyClusterByAddress env o.spec.proxyCluster a =
        (.ok (some cluster), { a with cache := c }) := by
      rw [getProxyClusterByAddress, hlookup, hreq.found]
    rw [proxyCluster, bind_of_ok hfound]
    rfl
  have hsent : sentRequest env o a = some req :=
    sentRequest_eq_some.mpr ⟨cluster, congrArg Prod.fst hcluster, hreq.request⟩
  have heq := applyReverseProxyService_eq env o a
  rw [hsent, hcluster, hrec] at heq
  obtain ⟨r, s, hstored, happly⟩ := heq
  refine ⟨c, happly.trans ?_⟩
  cases hstored with
  | updated hid hhas _ => exact absurd (Option.some.inj hid ▸ hhas) hgone
  | created hgone' _ => rw [(hgone' id rfl).2]; rfl
  | notUpdated _ hcall => rw [hcall]; rfl
  | notCreated _ hcall => rw [hcalls _ (by simp)] at hcall; cases hcall

/-- The object has a service on record that is there, with the content that was requested. -/
def Healed (w : World) (uid : ℕ) (req : ServiceRequest) : Prop :=
  ∃ o id, w.objects.get uid = some o ∧ o.status.recorded.serviceID = some id ∧
    w.account.services.get id = some req

/-- For a service it depends on what an update of the one that is gone is answered with. -/
theorem healed_iff {w : World} {uid : ℕ} (hget : w.objects.get uid = some o)
    (hlive : o.deleting = false) (hreq : Requests env o w.account cluster req)
    (hrec : o.status.recorded.serviceID = some id) (hgone : ¬ w.account.services.Has id)
    (hcalls : ∀ c, c ≠ .own .updateService → env.fault c = none) :
    Healed (reconcile env uid w).2 uid req ↔ env.fault (.own .updateService) = none := by
  have hsame : serviceRequest env (Mirror.withFinalizer o) cluster.address =
      serviceRequest env o cluster.address := by
    apply serviceRequest_congr <;> rfl
  have hreq' : Requests env (Mirror.withFinalizer o) w.account cluster req :=
    ⟨hreq.expired, hreq.found, hsame.trans hreq.request⟩
  obtain ⟨c, happly⟩ := applyReverseProxyService_of_gone hreq' hrec hgone hcalls
  cases hfault : env.fault (.own .updateService) with
  | none =>
    rw [hfault] at happly
    rw [reconcile, Mirror.reconcile_recorded (m := mirror env) (hcalls _ (by simp))
      (hcalls _ (by simp)) hget hlive happly (hcalls _ (by simp))]
    refine iff_of_true ⟨_, _, Store.get_update_self hget _, rfl, ?_⟩ rfl
    exact Store.get_create_next _ _
  | some f =>
    rw [hfault] at happly
    refine iff_of_false ?_ (by simp)
    rintro ⟨o', id', ho', hid', hcontent⟩
    -- The pass gives up with the account and the record as they were.
    have hpass : (reconcile env uid w).2 =
        ⟨w.objects.update uid (Mirror.withFinalizer o), { w.account with cache := c }⟩ := by
      rw [reconcile, Mirror.reconcile_of_get (hcalls _ (by simp)) hget, if_neg (by simp [hlive]),
        Mirror.reconcileLive_of_patched (hcalls _ (by simp)) hlive,
        show (mirror env).apply (Mirror.withFinalizer o) w.account = _ from happly]
      rfl
    rw [hpass] at ho' hcontent
    obtain rfl := Option.some.inj ((Store.get_update_self hget _).symm.trans ho')
    obtain rfl := Option.some.inj (hrec.symm.trans hid')
    exact hgone (Store.has_of_get hcontent)

end ReverseProxyService

/-! ### All kinds -/

section

open ReverseProxyService

/-- **What is deleted out of band comes back.** One pass heals an object of any of the other six
kinds, with nothing assumed of an update of what is gone. It heals a ReverseProxyService exactly if
that update is answered with a 404. -/
theorem deleted_objects_heal (env : ReverseProxyService.Env) (w : ReverseProxyService.World)
    (uid id : ℕ) (o : ReverseProxyService.CR) (cluster : ProxyCluster) (req : ServiceRequest)
    (hget : w.objects.get uid = some o) (hlive : o.deleting = false)
    (hreq : Requests env o w.account cluster req) (hrec : o.status.recorded.serviceID = some id)
    (hgone : ¬ w.account.services.Has id)
    (hcalls : ∀ c, c ≠ .own .updateService → env.fault c = none) :
    (Network.Heals ∧ NetworkResource.Heals ∧ NetworkRouter.Heals ∧ DNSZone.Heals ∧
        DNSRecord.Heals ∧ Group.Heals) ∧
      (Healed (ReverseProxyService.reconcile env uid w).2 uid req ↔
        env.fault (.own .updateService) = none) :=
  ⟨⟨Network.heals, NetworkResource.heals, NetworkRouter.heals, DNSZone.heals, DNSRecord.heals,
    Group.heals⟩, healed_iff hget hlive hreq hrec hgone hcalls⟩

end

namespace ReverseProxyService

/-- An update fails with something else than a 404, all other calls go through. -/
def refusing : Env :=
  { dnsEnv [⟨"", 53⟩] with
    now := 2 * listCacheTTL
    fault := fun c => if c = .own .updateService then some .other else none }

/-- The service of an object was created, and deleted out of band. -/
def strayWorld : World :=
  let w := (reconcile (dnsEnv [⟨"", 53⟩]) 0 ⟨Store.empty.create (dnsObject .tcp 53), gateAccount⟩).2
  { w with account := { w.account with services := w.account.services.delete 0 } }

/-- A pass in which the update is answered with a 404 brings the service back. -/
theorem deleted_objects_heal_service :
    ∃ req, Healed (reconcile { refusing with fault := fun _ => none } 0 strayWorld).2 0 req :=
  ⟨_, (deleted_objects_heal { refusing with fault := fun _ => none } strayWorld 0 0 _ _ _ rfl rfl
    ⟨by decide +kernel, rfl, rfl⟩ rfl (by decide +kernel) fun _ _ => rfl).2.mpr rfl⟩

/-- The id of the service the object has on record. -/
def recordedID (w : World) : Option ℕ :=
  (w.objects.get 0).bind fun o => o.status.recorded.serviceID

/-- **A service that is not healed.** The cache is expired and all calls but the update go through.
The pass ends with the id of the deleted service still on record, and no service. -/
theorem deleted_service_stays_gone :
    (∀ c, c ≠ .own .updateService → refusing.fault c = none) ∧
      strayWorld.account.cache.fresh refusing.now = false ∧
      recordedID strayWorld = some 0 ∧ strayWorld.account.services.entries = [] ∧
      recordedID (reconcile refusing 0 strayWorld).2 = some 0 ∧
      (reconcile refusing 0 strayWorld).2.account.services.entries = [] := by
  refine ⟨fun c hc => if_neg hc, ?_⟩
  decide +kernel

end ReverseProxyService

end NetbirdOperator
