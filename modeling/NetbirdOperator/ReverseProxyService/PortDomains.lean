import NetbirdOperator.ReverseProxyService.Apply

/-!
# The domains of ports

NetBird has one service per domain. TCP and UDP connections are told apart by the port they come in
on, so several objects may publish several ports of one host, and each gets a domain of its own: the
host with a label at the end of its first one. The label is that of the port behind it, which is to
say the name, or else the number, of the port of the backend Service. Neither the listen port nor
the mode is part of it.

So the domains of two objects with one host differ exactly if their backend ports have different
labels, which is not something the listen ports decide.

## Main results

* `ReverseProxyService.portLabelDomain_inj` — the domain of a port has its label
* `ReverseProxyService.applyReverseProxyService_ok` — what is registered is what is recorded
* `ReverseProxyService.service_domains_distinct_iff` — when the domains of some objects are distinct
* `ReverseProxyService.tcp_and_udp_port_collide` — one port of two protocols
-/

namespace NetbirdOperator

open ControlLoop Strings

namespace ReverseProxyService

open Pass

variable {env : Env} {o : CR} {a : Account}

/-! ### Labels -/

theorem portLabelDomain_inj {host l l' : String} :
    portLabelDomain host l = portLabelDomain host l' ↔ l = l' := by
  refine ⟨fun h => ?_, fun h => h ▸ rfl⟩
  rw [portLabelDomain, portLabelDomain] at h
  split at h
  · exact (String.append_right_inj _).mp h
  · rw [String.append_left_inj, String.append_left_inj] at h
    exact (String.append_right_inj _).mp h

/-- The port of the Service that a backend is dialed at, if the Service is there and has ports. -/
def servicePort (cluster : Cluster) (ns : String) (b : Backend) : Option ServicePort :=
  (cluster.service ns b.serviceRef).bind fun svc =>
    match svc.ports with
    | [] => none
    | first :: rest => some (backendPort first (first :: rest) b.port)

/-- The label of the port of an object's backend. -/
def backendLabel (env : Env) (o : CR) : Option String :=
  (o.spec.backends.head?.bind (servicePort env.reads.toCluster o.ns)).map portLabel

/-- An object that publishes a port, as the CRD admits it. -/
structure PortRouted (spec : Spec) : Prop where
  mode : spec.mode = .tcp ∨ spec.mode = .udp
  listenPort : spec.listenPort ≠ none
  backends : spec.backends.length = 1

theorem PortRouted.ne_http {spec : Spec} (h : PortRouted spec) :
    (serviceMode spec.mode).1 ≠ .http ∧ isPortRouted (serviceMode spec.mode).1 = true := by
  rcases h.mode with hm | hm <;> rw [hm] <;> decide

/-- A backend that is resolved has a Service with the port it is resolved to. -/
theorem servicePort_of_resolved {i : ℕ} {ns id : String} {b : Backend} {p : ServicePort}
    (h : resolveL4Backend env i ns b.serviceRef b.port = .ok (id, p)) :
    servicePort env.reads.toCluster ns b = some p := by
  unfold resolveL4Backend at h
  rw [servicePort]
  split at h
  · cases h
  · cases h
  · next svc _ hsvc =>
    split_ifs at h
    split at h
    · cases h
    · next first rest hports =>
      obtain ⟨resourceID, -, h⟩ := bind_eq_ok.mp h
      obtain ⟨-, rfl⟩ := Prod.mk.inj (Except.ok.inj h)
      rw [hsvc, Option.bind_some, hports]

theorem label_of_l4Target {i : ℕ} {b : Backend} {target : ServiceTarget} {label : String}
    (h : l4Target env o i b = .ok (target, label)) :
    (servicePort env.reads.toCluster o.ns b).map portLabel = some label := by
  obtain ⟨⟨id, p⟩, hres, h⟩ := bind_eq_ok.mp h
  obtain ⟨-, rfl⟩ := Prod.mk.inj (Except.ok.inj h)
  rw [servicePort_of_resolved hres]
  rfl

/-- The one backend of an object that publishes a port is its one target. -/
theorem renderTargets_l4 {address : String} (hne : (serviceMode o.spec.mode).1 ≠ .http)
    (b : Backend) :
    renderTargets env o address 0 "" [b] = (l4Target env o 0 b).map fun t => ([t.1], t.2) := by
  rw [renderTargets, if_neg hne]
  cases l4Target env o 0 b <;> rfl

/-- The request for an object that publishes a port has the domain of its backend's port. -/
theorem domain_of_request {address : String} {req : ServiceRequest} (hport : PortRouted o.spec)
    (h : serviceRequest env o address = .ok req) :
    ∃ label, backendLabel env o = some label ∧
      req.domain = portLabelDomain o.spec.domain label := by
  obtain ⟨hne, hrouted⟩ := hport.ne_http
  obtain ⟨b, hb⟩ := List.length_eq_one_iff.mp hport.backends
  rw [serviceRequest, if_neg (by simp [hb]), hb, renderTargets_l4 hne] at h
  obtain ⟨rendered, hrendered, h⟩ := bind_eq_ok.mp h
  obtain ⟨⟨target, label⟩, htarget, rfl⟩ := map_eq_ok.mp hrendered
  obtain ⟨groups, -, h⟩ := bind_eq_ok.mp h
  refine ⟨label, ?_, ?_⟩
  · rw [backendLabel, hb]
    exact label_of_l4Target htarget
  · rw [← Except.ok.inj h]
    exact if_pos ⟨hrouted, hport.listenPort⟩

/-! ### Registration -/

/-- **What is registered is what is recorded.** An apply that returns leaves the service it records
with the request for the object. -/
theorem applyReverseProxyService_ok {r : Recorded}
    (h : (applyReverseProxyService env o a).1 = .ok r) :
    ∃ address req id, serviceRequest env o address = .ok req ∧ r = ⟨some id, req.domain⟩ ∧
      (applyReverseProxyService env o a).2.services.get id = some req := by
  have heq := applyReverseProxyService_eq env o a
  cases hsent : sentRequest env o a with
  | none =>
    rw [hsent] at heq
    obtain ⟨e, he⟩ := heq
    rw [he] at h
    cases h
  | some req =>
    rw [hsent] at heq
    obtain ⟨answer, s, hstored, happly⟩ := heq
    obtain ⟨found, -, hreq⟩ := sentRequest_eq_some.mp hsent
    rw [happly] at h ⊢
    obtain ⟨id, rfl, rfl⟩ := map_eq_ok.mp h
    exact ⟨found.address, req, id, hreq, rfl, hstored.get⟩

/-- **The domains of some objects with one host are distinct exactly if the labels of their backend
ports are**, whatever the applies find in the cluster and in the account. -/
theorem service_domains_distinct_iff {ι : Type} (domain : String) (o : ι → CR) (env : ι → Env)
    (a : ι → Account) (r : ι → Recorded) (hport : ∀ i, PortRouted (o i).spec)
    (hdomain : ∀ i, (o i).spec.domain = domain)
    (hok : ∀ i, (applyReverseProxyService (env i) (o i) (a i)).1 = .ok (r i)) :
    (Function.Injective fun i => (r i).serviceDomain) ↔
      Function.Injective fun i => backendLabel (env i) (o i) := by
  have hlabel : ∀ i, ∃ label, backendLabel (env i) (o i) = some label ∧
      (r i).serviceDomain = portLabelDomain domain label := by
    intro i
    obtain ⟨address, req, id, hreq, hr, -⟩ := applyReverseProxyService_ok (hok i)
    obtain ⟨label, hlabel, hdom⟩ := domain_of_request (hport i) hreq
    exact ⟨label, hlabel, by rw [hr, hdom, hdomain i]⟩
  have heq : ∀ i j, (r i).serviceDomain = (r j).serviceDomain ↔
      backendLabel (env i) (o i) = backendLabel (env j) (o j) := by
    intro i j
    obtain ⟨l, hl, hi⟩ := hlabel i
    obtain ⟨l', hl', hj⟩ := hlabel j
    rw [hi, hj, hl, hl', portLabelDomain_inj, Option.some_inj]
  constructor
  · exact fun h i j hij => h ((heq i j).mpr hij)
  · exact fun h i j hij => h ((heq i j).mp hij)

/-- A LoadBalancer Service `dns` with these ports, and the NetworkResource it is advertised by. -/
def dnsEnv (ports : List ServicePort) : Env where
  now := 0
  groups := ⟨fun _ => .error .notFound, fun _ => .error .notFound, fun _ _ => .error .notFound⟩
  reads :=
    { service := fun _ name => if name = "dns" then some ⟨.loadBalancer, ports⟩ else none
      records := []
      resources := [⟨"shop", "dns-ipv4", some "dns", "192.0.2.10", "r1"⟩] }
  ipFamilyOf _ := some .ipv4
  fault _ := none

/-- An object that publishes port 53 of the Service `dns` under `ns.example.com`. -/
def dnsObject (mode : ReverseProxyMode) (port : ℤ) : CR where
  ns := "shop"
  name := "dns-" ++ (serviceMode mode).1.text
  generation := 1
  deleting := false
  finalizer := true
  spec :=
    { backends := [⟨"dns", port, ""⟩], mode := mode, listenPort := some 53
      proxyCluster := "gate.example.com", domain := "ns.example.com" }
  status := { recorded := {} }

/-- An account with the proxy cluster, and no services. -/
def gateAccount : Account := ⟨.empty, [⟨"c1", "gate.example.com"⟩], .new⟩

/-- The modes of the two objects. -/
def dnsMode : Bool → ReverseProxyMode
  | true => .tcp
  | false => .udp

theorem service_domains_distinct_numbered :
    Function.Injective fun b : Bool =>
      if b then "ns-53.example.com" else "ns-5353.example.com" := by
  refine (service_domains_distinct_iff "ns.example.com"
    (fun b => dnsObject (dnsMode b) (if b then 53 else 5353)) (fun _ => dnsEnv [⟨"", 53⟩])
    (fun _ => gateAccount)
    (fun b => ⟨some 0, if b then "ns-53.example.com" else "ns-5353.example.com"⟩) ?_
    (fun _ => rfl) (by decide +kernel)).mpr ?_
  · exact fun b => ⟨by cases b <;> decide, by simp [dnsObject], rfl⟩
  · have hlabels : ∀ b b' : Bool,
        backendLabel (dnsEnv [⟨"", 53⟩]) (dnsObject (dnsMode b) (if b then 53 else 5353)) =
          backendLabel (dnsEnv [⟨"", 53⟩]) (dnsObject (dnsMode b') (if b' then 53 else 5353)) →
        b = b' := by decide +kernel
    exact fun b b' => hlabels b b'

/-- **One port of two protocols.** The Service has port 53 for UDP and for TCP, and each is
published by an object of its own. Both are registered under the name of the first. -/
theorem tcp_and_udp_port_collide :
    let env := dnsEnv [⟨"dns-udp", 53⟩, ⟨"dns-tcp", 53⟩]
    let registered := applyReverseProxyService env (dnsObject .udp 53) gateAccount
    registered.1 = .ok ⟨some 0, "ns-dns-udp.example.com"⟩ ∧
      (applyReverseProxyService env (dnsObject .tcp 53) registered.2).1 =
        .ok ⟨some 1, "ns-dns-udp.example.com"⟩ := by
  decide +kernel

end ReverseProxyService

end NetbirdOperator
