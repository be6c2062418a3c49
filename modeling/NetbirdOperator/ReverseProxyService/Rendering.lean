import Mathlib.Data.List.Forall2
import NetbirdOperator.ReverseProxyService.PortDomains

/-!
# What a ReverseProxyService is rendered to

The request decides whether a service is reachable from the mesh only or from anywhere. This module
says what a request looks like, for every object the CRD admits and whatever is found in the
cluster, and that there is none if anything it needs cannot be resolved.

`applyReverseProxyService` reads, builds one request, and sends it. `sentRequest` is the request it
gets to, if it does; by `applyReverseProxyService_eq` the rest of the function stores that request,
so nothing else can be sent. The request is described for each mode by a structure
(`HTTPRequest`, `L4Request`), and its parts come from one lemma for each of the resolvers:
`resolveBackend_ok`, `resolveL4Backend_ok` and `getGroupIDs_ok`.

The rules of the CRD matter in two places. A private service has access groups, and each reference
to a group has exactly one of its fields, so the list of ids a private service is sent with is not
empty; and a service that is not HTTP has one backend.

## Main results

* `ReverseProxyService.rendered_fail_closed` — the request, and when there is none
-/

namespace NetbirdOperator

open ControlLoop

namespace ReverseProxyService

variable {env : Env} {o : CR} {a : Account} {cluster : Cluster} {ns svcName address : String}
  {b : Backend} {i : ℕ}

/-! ### The rules of the CRD -/

/-- The validation rules on the specification of a ReverseProxyService. An unset mode is `http`. -/
structure Admissible (spec : Spec) : Prop where
  minBackends : spec.backends ≠ []
  maxBackends : spec.backends.length ≤ 64
  proxyCluster : spec.proxyCluster ≠ ""
  domain : spec.domain ≠ ""
  portRange : ∀ p ∈ spec.listenPort, 0 ≤ p ∧ p ≤ 65535
  groupFields : ∀ ref ∈ spec.accessGroups, ref.OneField
  privateGroups : spec.isPrivate = some true → spec.accessGroups ≠ []
  privateHTTP : spec.isPrivate = some true → spec.mode = .http
  portNotHTTP : spec.listenPort ≠ none → spec.mode ≠ .http
  l4Port : spec.mode ≠ .http → ∃ p, spec.listenPort = some p ∧ 0 < p
  proxyProtocol : spec.proxyProtocol = some true → spec.mode = .tcp ∨ spec.mode = .tls
  l4Backend : spec.mode ≠ .http → spec.backends.length = 1

/-! ### Backends -/

/-- Where a Service is dialed: at its name in the cluster, or, if it is a LoadBalancer, at the name
of a record it is advertised with. -/
inductive DialedAt (cluster : Cluster) (ns svcName : String) : ServiceType → String → Prop
  | inCluster (kind : String) : DialedAt cluster ns svcName (.other kind) (clusterName ns svcName)
  | advertised (r : DNSRecord) (hr : r ∈ cluster.records) (hns : r.ns = ns)
      (hlabel : r.loadBalancer = some svcName) : DialedAt cluster ns svcName .loadBalancer r.name

theorem backendHost_ok {fault : Call → Option Fault} {svc : Service} {host : String}
    (h : backendHost cluster fault ns svcName svc = .ok host) :
    DialedAt cluster ns svcName svc.type host ∧
      backendHost cluster (fun _ => none) ns svcName svc = .ok host := by
  unfold backendHost at h ⊢
  cases htype : svc.type with
  | other kind =>
    rw [htype] at h
    obtain rfl : clusterName ns svcName = host := Except.ok.inj h
    exact ⟨.inCluster kind, rfl⟩
  | loadBalancer =>
    rw [htype] at h
    unfold backendFQDN at h ⊢
    dsimp only at h ⊢
    split at h
    · cases h
    · split at h
      · cases h
      · next r hr =>
        obtain rfl : r.name = host := Except.ok.inj h
        obtain ⟨hns, hlabel⟩ : r.ns = ns ∧ r.loadBalancer = some svcName := by
          simpa using List.find?_some hr
        exact ⟨.advertised r (List.mem_of_find?_eq_some hr) hns hlabel, rfl⟩

/-- A backend that resolves is a Service with ports, dialed where its type says. Had no read been
due to fail, it would have resolved to the same. -/
theorem resolveBackend_ok {fault : Call → Option Fault} {want : ℤ} {r : String × ℤ × String}
    (h : resolveBackend cluster fault ns svcName want = .ok r) :
    (∃ svc, cluster.service ns svcName = some svc ∧ DialedAt cluster ns svcName svc.type r.1) ∧
      resolveBackend cluster (fun _ => none) ns svcName want = .ok r := by
  unfold resolveBackend at h ⊢
  dsimp only
  split at h
  · cases h
  · cases h
  · next svc _ hsvc =>
    rw [hsvc]
    dsimp only
    split at h
    · cases h
    · obtain ⟨host, hhost, h⟩ := bind_eq_ok.mp h
      obtain ⟨hdialed, hcalm⟩ := backendHost_ok hhost
      obtain rfl := Except.ok.inj h
      exact ⟨⟨svc, rfl, hdialed⟩, bind_eq_ok.mpr ⟨host, hcalm, rfl⟩⟩

/-- The target of a backend in HTTP mode. -/
structure HTTPTarget (cluster : Cluster) (ns address : String) (b : Backend) (t : ServiceTarget) :
    Prop where
  targetType : t.targetType = .cluster
  targetID : t.targetID = address
  host : ∃ svc host, cluster.service ns b.serviceRef = some svc ∧ t.host = some host ∧
    DialedAt cluster ns b.serviceRef svc.type host
  direct : ∃ options, t.options = some options ∧ options.directUpstream = some true
  path : t.path = if b.path ≠ "" then some b.path else none

theorem httpTarget_ok {fault : Call → Option Fault} {t : ServiceTarget}
    (h : httpTarget cluster fault address ns b = .ok t) :
    HTTPTarget cluster ns address b t ∧
      httpTarget cluster (fun _ => none) address ns b = .ok t := by
  unfold httpTarget at h ⊢
  obtain ⟨⟨host, port, name⟩, hres, h⟩ := bind_eq_ok.mp h
  obtain ⟨⟨svc, hsvc, hdialed⟩, hcalm⟩ := resolveBackend_ok hres
  obtain rfl := Except.ok.inj h
  refine ⟨⟨rfl, rfl, ⟨svc, host, hsvc, rfl, hdialed⟩, ⟨_, rfl, rfl⟩, rfl⟩, ?_⟩
  exact bind_eq_ok.mpr ⟨_, hcalm, rfl⟩

/-- In HTTP mode the loop makes one target for each backend, in their order. -/
theorem renderTargets_http (hmode : (serviceMode o.spec.mode).1 = .http) {backends : List Backend}
    {label : String} {rendered : List ServiceTarget × String}
    (h : renderTargets env o address i label backends = .ok rendered) :
    List.Forall₂
      (fun b t => httpTarget env.reads.toCluster (fun _ => none) address o.ns b = .ok t)
      backends rendered.1 ∧ rendered.2 = label := by
  induction backends generalizing i rendered with
  | nil =>
    obtain rfl : ([], label) = rendered := Except.ok.inj h
    exact ⟨.nil, rfl⟩
  | cons b backends ih =>
    rw [renderTargets, if_pos hmode] at h
    obtain ⟨found, hfound, h⟩ := bind_eq_ok.mp h
    obtain ⟨t, ht, rfl⟩ := map_eq_ok.mp hfound
    obtain ⟨rest, hrest, h⟩ := bind_eq_ok.mp h
    obtain rfl := Except.ok.inj h
    obtain ⟨htargets, hlabel⟩ := ih hrest
    exact ⟨.cons (httpTarget_ok (mapError_eq_ok.mp ht)).2 htargets, hlabel⟩

/-- The target of the one backend of another mode. -/
structure L4Target (reads : Reads) (ns : String) (b : Backend) (t : ServiceTarget) : Prop where
  targetType : t.targetType = .host
  host : t.host = none
  path : t.path = none
  service : ∃ svc, reads.service ns b.serviceRef = some svc ∧ svc.type = .loadBalancer
  targetID : ∃ r ∈ reads.resources, r.ns = ns ∧ r.loadBalancer = some b.serviceRef ∧
    t.targetID = r.resourceID ∧ r.resourceID ≠ ""

theorem insertBack_perm {α : Type} (less : α → α → Bool) (x : α) (ys : List α) :
    (insertBack less x ys).Perm (x :: ys) := by
  induction ys with
  | nil => exact .refl _
  | cons y ys ih =>
    rw [insertBack]
    split
    · exact (ih.cons y).trans (.swap x y ys)
    · exact .refl _

/-- A sort rearranges. -/
theorem sortSlice_perm {α : Type} (less : α → α → Bool) (xs : List α) :
    (sortSlice less xs).Perm xs := by
  have hfold : ∀ sorted : List α,
      (xs.foldl (fun sorted x => insertBack less x sorted) sorted).Perm (xs.reverse ++ sorted) := by
    induction xs with
    | nil => exact fun sorted => .refl _
    | cons x xs ih =>
      intro sorted
      rw [List.foldl_cons, List.reverse_cons, List.append_assoc]
      exact (ih _).trans ((insertBack_perm less x sorted).append_left _)
  exact (List.reverse_perm _).trans ((hfold []).trans (by simp [List.reverse_perm]))

theorem preferL4Resource_mem {ipFamilyOf : String → Option ReverseProxyCluster.IPFamily}
    {items : List NetworkResource} {r : NetworkResource}
    (h : preferL4Resource ipFamilyOf items = some r) : r ∈ items :=
  (sortSlice_perm _ items).mem_iff.mp (List.mem_of_mem_head? h)

/-- An L4 backend that resolves is a LoadBalancer Service, and what it resolves to is the id of a
NetworkResource it is advertised by. -/
theorem resolveL4Backend_ok {want : ℤ} {id : String} {p : ServicePort}
    (h : resolveL4Backend env i ns svcName want = .ok (id, p)) :
    (∃ svc, env.reads.service ns svcName = some svc ∧ svc.type = .loadBalancer) ∧
      ∃ r ∈ env.reads.resources, r.ns = ns ∧ r.loadBalancer = some svcName ∧
        id = r.resourceID ∧ r.resourceID ≠ "" := by
  unfold resolveL4Backend at h
  split at h
  · cases h
  · cases h
  · next svc _ hsvc =>
    split_ifs at h with htype
    split at h
    · cases h
    · obtain ⟨found, hres, h⟩ := bind_eq_ok.mp h
      obtain ⟨rfl, -⟩ := Prod.mk.inj (Except.ok.inj h)
      refine ⟨⟨svc, hsvc, not_not.mp htype⟩, ?_⟩
      unfold resolveL4Resource at hres
      split at hres
      · cases hres
      · dsimp only at hres
        split at hres
        · cases hres
        · next pick hpick =>
          split_ifs at hres with hid
          obtain ⟨hmem, hlabel⟩ := List.mem_filter.mp (preferL4Resource_mem hpick)
          obtain ⟨hns, hlabel⟩ := of_decide_eq_true hlabel
          exact ⟨pick, hmem, hns, hlabel, (Except.ok.inj hres).symm, hid⟩

theorem l4Target_ok {rendered : ServiceTarget × String}
    (h : l4Target env o i b = .ok rendered) :
    L4Target env.reads o.ns b rendered.1 ∧
      rendered.1.options = if takesProxyProtocol (serviceMode o.spec.mode).1 then
        o.spec.proxyProtocol.map fun v => { proxyProtocol := some v } else none := by
  unfold l4Target at h
  obtain ⟨⟨id, p⟩, hres, h⟩ := bind_eq_ok.mp h
  obtain ⟨hservice, hresource⟩ := resolveL4Backend_ok hres
  obtain rfl := Except.ok.inj h
  exact ⟨⟨rfl, rfl, rfl, hservice, hresource⟩, rfl⟩

/-! ### Groups -/

/-- What a reference adds does not depend on the ids before it. -/
theorem appendGroupID_eq (groups : Groups) (ns : String) (ids : List String)
    (ref : GroupReference) :
    appendGroupID groups ns ids ref = (appendGroupID groups ns [] ref).map (ids ++ ·) := by
  have hadd : ∀ found : Except GroupErr String,
      found.map (fun id => ids ++ [id]) = (found.map fun id => [] ++ [id]).map (ids ++ ·) :=
    fun found => by cases found <;> rfl
  obtain ⟨name, id, localRef⟩ := ref
  cases name with
  | some name => exact hadd (groups.getByName name)
  | none =>
    cases id with
    | some id => exact hadd (groups.get id)
    | none =>
      cases localRef with
      | none => exact congrArg _ (List.append_nil ids).symm
      | some name =>
        simp only [appendGroupID]
        cases groups.getLocal ns name with
        | error e => rfl
        | ok id => by_cases hid : id = "" <;> simp [bind, Except.bind, Except.map, hid]

/-- A reference with exactly one field adds exactly one id. -/
theorem appendGroupID_singleton {groups : Groups} {ref : GroupReference} (hone : ref.OneField)
    {out : List String} (h : appendGroupID groups ns [] ref = .ok out) : ∃ id, out = [id] := by
  unfold appendGroupID at h
  split at h
  · obtain ⟨id, -, rfl⟩ := map_eq_ok.mp h
    exact ⟨id, rfl⟩
  · obtain ⟨id, -, rfl⟩ := map_eq_ok.mp h
    exact ⟨id, rfl⟩
  · obtain ⟨id, -, h⟩ := bind_eq_ok.mp h
    split_ifs at h
    exact ⟨id, (Except.ok.inj h).symm⟩
  · next hname hid hlocal => simp [GroupReference.OneField, hname, hid, hlocal] at hone

theorem appendGroupID_ok {groups : Groups} {ref : GroupReference} (hone : ref.OneField)
    {ids out : List String} (h : appendGroupID groups ns ids ref = .ok out) :
    ∃ id, out = ids ++ [id] ∧ GroupReference.Resolves groups ns ref id := by
  rw [appendGroupID_eq] at h
  obtain ⟨added, hadded, rfl⟩ := map_eq_ok.mp h
  obtain ⟨id, rfl⟩ := appendGroupID_singleton hone hadded
  exact ⟨id, rfl, bind_eq_ok.mpr ⟨[id], hadded, rfl⟩⟩

theorem foldlM_appendGroupID {groups : Groups} {refs : List GroupReference} {ids out : List String}
    (hone : ∀ ref ∈ refs, ref.OneField)
    (h : refs.foldlM (appendGroupID groups ns) ids = .ok out) :
    ∃ found, out = ids ++ found ∧ List.Forall₂ (GroupReference.Resolves groups ns) refs found := by
  induction refs generalizing ids with
  | nil =>
    obtain rfl := Except.ok.inj h
    exact ⟨[], (List.append_nil _).symm, .nil⟩
  | cons ref refs ih =>
    obtain ⟨mid, hmid, h⟩ := bind_eq_ok.mp h
    obtain ⟨id, rfl, hres⟩ := appendGroupID_ok (hone ref List.mem_cons_self) hmid
    obtain ⟨found, rfl, hfound⟩ := ih (fun r hr => hone r (List.mem_cons_of_mem _ hr)) h
    exact ⟨id :: found, by simp, .cons hres hfound⟩

/-- References with one field each resolve one by one, in their order. -/
theorem getGroupIDs_ok {groups : Groups} {refs : List GroupReference} {ids : List String}
    (hone : ∀ ref ∈ refs, ref.OneField) (h : getGroupIDs groups refs ns = .ok ids) :
    List.Forall₂ (GroupReference.Resolves groups ns) refs ids := by
  obtain ⟨found, rfl, hfound⟩ := foldlM_appendGroupID hone h
  exact hfound

/-! ### The request -/

theorem serviceRequest_ok {req : ServiceRequest} (h : serviceRequest env o address = .ok req) :
    ∃ targets label groups,
      renderTargets env o address 0 "" o.spec.backends = .ok (targets, label) ∧
      accessGroupIDs env o = .ok groups ∧ req = requestOf o targets label groups := by
  unfold serviceRequest at h
  dsimp only at h
  by_cases hmany : (serviceMode o.spec.mode).1 ≠ .http ∧ 1 < o.spec.backends.length
  · rw [if_pos hmany] at h
    cases h
  rw [if_neg hmany] at h
  obtain ⟨⟨targets, label⟩, hrender, h⟩ := bind_eq_ok.mp h
  obtain ⟨groups, hgroups, h⟩ := bind_eq_ok.mp h
  exact ⟨targets, label, groups, hrender, hgroups, (Except.ok.inj h).symm⟩

/-- What is sent for an object in HTTP mode. -/
structure HTTPRequest (env : Env) (o : CR) (address : String) (req : ServiceRequest) : Prop where
  mode : req.mode = .http
  targets : ∃ ts, req.targets.Perm ts ∧
    List.Forall₂ (HTTPTarget env.reads.toCluster o.ns address) o.spec.backends ts
  isPrivate : req.isPrivate = o.spec.isPrivate
  hasGroups : req.accessGroups.isSome = true ↔ o.spec.isPrivate = some true
  groups : ∀ ids ∈ req.accessGroups,
    ids ≠ [] ∧ List.Forall₂ (GroupReference.Resolves env.groups o.ns) o.spec.accessGroups ids
  listenPort : req.listenPort = none

/-- What is sent for an object in another mode. -/
structure L4Request (env : Env) (o : CR) (req : ServiceRequest) : Prop where
  mode : req.mode ≠ .http
  target : ∃ b t, o.spec.backends = [b] ∧ req.targets = [t] ∧ L4Target env.reads o.ns b t ∧
    ∀ options ∈ t.options, options.proxyProtocol ≠ none → req.mode = .tcp ∨ req.mode = .tls
  isPrivate : req.isPrivate = none
  groups : req.accessGroups = none
  listenPort : req.listenPort = o.spec.listenPort

theorem serviceMode_eq_http {mode : ReverseProxyMode} :
    (serviceMode mode).1 = .http ↔ mode = .http := by
  cases mode <;> simp [serviceMode]

/-- The access groups of an object the CRD admits: only a private one has some, and then they are
the ids of its references. -/
theorem accessGroupIDs_ok (hvalid : Admissible o.spec) {groups : Option (List String)}
    (h : accessGroupIDs env o = .ok groups) :
    (groups.isSome = true ↔ o.spec.isPrivate = some true) ∧
      ∀ ids ∈ groups, ids ≠ [] ∧
        List.Forall₂ (GroupReference.Resolves env.groups o.ns) o.spec.accessGroups ids := by
  unfold accessGroupIDs at h
  split_ifs at h with hprivate
  · obtain ⟨ids, hids, h⟩ := bind_eq_ok.mp h
    have hresolved := getGroupIDs_ok hvalid.groupFields (mapError_eq_ok.mp hids)
    -- As many ids as references, and there are some.
    have hne : ids ≠ [] := by
      rintro rfl
      exact hvalid.privateGroups hprivate.2 (List.forall₂_nil_right_iff.mp hresolved)
    rw [if_neg hne] at h
    obtain rfl := Except.ok.inj h
    refine ⟨⟨fun _ => hprivate.2, fun _ => rfl⟩, fun ids' hids' => ?_⟩
    obtain rfl := Option.some.inj hids'
    exact ⟨hne, hresolved⟩
  · obtain rfl := Except.ok.inj h
    refine ⟨⟨fun hsome => (by cases hsome), fun hp => ?_⟩, fun ids hids => (by cases hids)⟩
    exact absurd ⟨serviceMode_eq_http.mpr (hvalid.privateHTTP hp), hp⟩ hprivate

theorem httpRequest_of_ok (hvalid : Admissible o.spec) (hmode : o.spec.mode = .http)
    {req : ServiceRequest} (h : serviceRequest env o address = .ok req) :
    HTTPRequest env o address req := by
  obtain ⟨targets, label, groups, hrender, hgroups, rfl⟩ := serviceRequest_ok h
  have hhttp := serviceMode_eq_http.mpr hmode
  obtain ⟨hhas, hids⟩ := accessGroupIDs_ok hvalid hgroups
  refine ⟨hhttp, ⟨targets, sortSlice_perm _ _, ?_⟩, if_pos hhttp, hhas, hids, if_pos hhttp⟩
  exact (renderTargets_http hhttp hrender).1.imp fun _ _ ht => (httpTarget_ok ht).1

theorem l4Request_of_ok (hvalid : Admissible o.spec) (hmode : o.spec.mode ≠ .http)
    {req : ServiceRequest} (h : serviceRequest env o address = .ok req) :
    L4Request env o req := by
  obtain ⟨targets, label, groups, hrender, hgroups, rfl⟩ := serviceRequest_ok h
  have hl4 : (serviceMode o.spec.mode).1 ≠ .http :=
    fun hhttp => hmode (serviceMode_eq_http.mp hhttp)
  obtain ⟨b, hb⟩ := List.length_eq_one_iff.mp (hvalid.l4Backend hmode)
  rw [hb, renderTargets_l4 hl4] at hrender
  obtain ⟨⟨t, label'⟩, ht, heq⟩ := map_eq_ok.mp hrender
  obtain ⟨rfl, rfl⟩ := Prod.mk.inj heq
  obtain ⟨htarget, hoptions⟩ := l4Target_ok ht
  refine ⟨hl4, ⟨b, t, hb, rfl, htarget, fun options hmem _ => ?_⟩, if_neg hl4, ?_, if_neg hl4⟩
  · -- Options are set only in a mode that takes the PROXY protocol.
    rw [hoptions] at hmem
    show (serviceMode o.spec.mode).1 = .tcp ∨ (serviceMode o.spec.mode).1 = .tls
    cases hm : o.spec.mode with
    | http => exact absurd hm hmode
    | tcp => exact Or.inl rfl
    | tls => exact Or.inr rfl
    | udp => rw [hm] at hmem; cases hmem
  · cases groups with
    | none => rfl
    | some ids =>
      exact absurd (hvalid.privateHTTP ((accessGroupIDs_ok hvalid hgroups).1.mp rfl)) hmode

/-! ### What cannot be resolved -/

/-- The backend at position `i` is resolved, the way of the object's mode. -/
def ResolvedAt (env : Env) (o : CR) (i : ℕ) (b : Backend) : Prop :=
  if (serviceMode o.spec.mode).1 = .http then
    ∃ r, resolveBackend env.reads.toCluster (fun c => env.fault (.own (.backend i c))) o.ns
      b.serviceRef b.port = .ok r
  else ∃ r, resolveL4Backend env i o.ns b.serviceRef b.port = .ok r

theorem resolvedAt_of_renderTargets {backends : List Backend} {label : String}
    {rendered : List ServiceTarget × String}
    (h : renderTargets env o address i label backends = .ok rendered) {j : ℕ}
    (hb : backends[j]? = some b) : ResolvedAt env o (i + j) b := by
  induction backends generalizing i j label rendered with
  | nil => simp at hb
  | cons b' backends ih =>
    -- The first backend is resolved, and the loop goes on with the others.
    obtain ⟨label', rest, hhere, hrest⟩ : ∃ label' rest, ResolvedAt env o i b' ∧
        renderTargets env o address (i + 1) label' backends = .ok rest := by
      unfold ResolvedAt
      rw [renderTargets] at h
      split_ifs at h ⊢ with hmode
      · obtain ⟨found, hfound, h⟩ := bind_eq_ok.mp h
        obtain ⟨rest, hrest, -⟩ := bind_eq_ok.mp h
        obtain ⟨t, ht, -⟩ := map_eq_ok.mp hfound
        obtain ⟨r, hr, -⟩ := bind_eq_ok.mp (mapError_eq_ok.mp ht)
        exact ⟨_, rest, ⟨r, hr⟩, hrest⟩
      · obtain ⟨found, hfound, h⟩ := bind_eq_ok.mp h
        obtain ⟨rest, hrest, -⟩ := bind_eq_ok.mp h
        obtain ⟨r, hr, -⟩ := bind_eq_ok.mp hfound
        exact ⟨_, rest, ⟨r, hr⟩, hrest⟩
    cases j with
    | zero =>
      obtain rfl : b' = b := by simpa using hb
      exact hhere
    | succ j =>
      have hnext := ih hrest (j := j) (by simpa using hb)
      rwa [Nat.add_assoc, Nat.add_comm 1] at hnext

/-- Something the request needs cannot be resolved: a backend, or a group of a private service. -/
def Unresolved (env : Env) (o : CR) : Prop :=
  (∃ i b, o.spec.backends[i]? = some b ∧ ¬ ResolvedAt env o i b) ∨
    (o.spec.isPrivate = some true ∧
      ∃ e, getGroupIDs env.groups o.spec.accessGroups o.ns = .error e)

theorem sentRequest_of_unresolved (hvalid : Admissible o.spec) (h : Unresolved env o) :
    sentRequest env o a = none := by
  by_contra hsome
  obtain ⟨req, hsent⟩ := Option.ne_none_iff_exists'.mp hsome
  obtain ⟨found, -, hreq⟩ := sentRequest_eq_some.mp hsent
  obtain ⟨targets, label, groups, hrender, hgroups, -⟩ := serviceRequest_ok hreq
  rcases h with ⟨i, b, hb, hnot⟩ | ⟨hprivate, e, he⟩
  · have hres := resolvedAt_of_renderTargets hrender hb
    rw [Nat.zero_add] at hres
    exact hnot hres
  · rw [accessGroupIDs, he,
      if_pos ⟨serviceMode_eq_http.mpr (hvalid.privateHTTP hprivate), hprivate⟩] at hgroups
    cases hgroups

/-- **A ReverseProxyService is rendered fail-closed.** For an object the CRD admits, whatever the
cluster, the account and the failing calls are: if a request is sent, it looks as its mode has it
look, and is all that becomes of the services (`Stored`); if something it needs cannot be resolved,
none is sent, and the apply fails with the services as they were. -/
theorem rendered_fail_closed (env : Env) (o : CR) (a : Account) (hvalid : Admissible o.spec) :
    (∀ req, sentRequest env o a = some req →
      (∃ found : ProxyCluster, (proxyCluster env o a).1 = .ok found ∧
        found.address = o.spec.proxyCluster ∧
        (o.spec.mode = .http → HTTPRequest env o found.address req) ∧
        (o.spec.mode ≠ .http → L4Request env o req)) ∧
      ∃ r s, Stored env req o.status.recorded.serviceID a.services r s ∧
        applyReverseProxyService env o a =
          (r.map fun id => ⟨some id, req.domain⟩,
            { (proxyCluster env o a).2 with services := s })) ∧
    (Unresolved env o → sentRequest env o a = none) ∧
    (sentRequest env o a = none → (∃ e, (applyReverseProxyService env o a).1 = .error e) ∧
      (applyReverseProxyService env o a).2.services = a.services) := by
  have heq := applyReverseProxyService_eq env o a
  refine ⟨fun req hsent => ?_, sentRequest_of_unresolved hvalid, fun hnone => ?_⟩
  · rw [hsent] at heq
    refine ⟨?_, heq⟩
    obtain ⟨found, hcluster, hreq⟩ := sentRequest_eq_some.mp hsent
    exact ⟨found, hcluster, proxyCluster_ok hcluster,
      fun hmode => httpRequest_of_ok hvalid hmode hreq,
      fun hmode => l4Request_of_ok hvalid hmode hreq⟩
  · rw [hnone] at heq
    obtain ⟨e, he⟩ := heq
    rw [he]
    exact ⟨⟨e, rfl⟩, proxyCluster_services env o a⟩

/-- A private service for the group `devs`. -/
def privateObject : CR where
  ns := "shop"
  name := "admin"
  generation := 1
  deleting := false
  finalizer := true
  spec :=
    { backends := [⟨"web", 0, "/admin"⟩], proxyCluster := "gate.example.com"
      domain := "admin.example.com", isPrivate := some true
      accessGroups := [{ name := some "devs" }] }
  status := { recorded := {} }

/-- Its backend is a Service inside the cluster, and its group is there. -/
def privateEnv : Env where
  now := 0
  groups :=
    { getByName := fun name => if name = "devs" then .ok "g1" else .error .notFound
      get := fun _ => .error .notFound
      getLocal := fun _ _ => .error .notFound }
  reads :=
    { service := fun _ name =>
        if name = "web" then some ⟨.other "ClusterIP", [⟨"http", 80⟩]⟩ else none
      records := []
      resources := [] }
  ipFamilyOf _ := none
  fault _ := none

theorem privateObject_admissible : Admissible privateObject.spec where
  minBackends := by decide
  maxBackends := by decide
  proxyCluster := by decide
  domain := by decide
  portRange := by simp [privateObject]
  groupFields := by decide
  privateGroups _ := by decide
  privateHTTP _ := rfl
  portNotHTTP h := absurd rfl h
  l4Port h := absurd rfl h
  proxyProtocol h := by cases h
  l4Backend h := absurd rfl h

theorem rendered_fail_closed_private :
    ∃ req, sentRequest privateEnv privateObject gateAccount = some req ∧
      req.accessGroups = some ["g1"] ∧
      HTTPRequest privateEnv privateObject "gate.example.com" req := by
  have hsent : ∃ req ∈ sentRequest privateEnv privateObject gateAccount,
      req.accessGroups = some ["g1"] := by decide +kernel
  obtain ⟨req, hreq, hgroups⟩ := hsent
  obtain ⟨⟨found, -, haddress, hhttp, -⟩, -⟩ :=
    (rendered_fail_closed _ _ _ privateObject_admissible).1 req hreq
  have hrequest := hhttp rfl
  rw [haddress] at hrequest
  exact ⟨req, hreq, hgroups, hrequest⟩

end ReverseProxyService

end NetbirdOperator
