import NetbirdOperator.ReverseProxyService.PortDomains
import NetbirdOperator.ReverseProxyService.Rendering

/-!
# The port a backend is dialed at

The port of a backend is a plain integer of the object, of 64 bits and without bounds. It is looked
for among the ports of the Service, and the one that is found is dialed. One that is not found is
dialed all the same, without a name, but on the way it becomes an `int32`, which is what the port of
a Service is. The first is a comparison of integers, the second a conversion that keeps the low 32
bits.

So a port outside the range of an `int32` is found nowhere and becomes another number, possibly that
of a port the Service has, and the target is written with it. Nothing is reported. Inside the range
the port that is dialed is the one that was asked for, or the first of the Service if none was, and
the name is that of the first port of the Service with that number.

## Main results

* `ReverseProxyService.asRequested_backendPort_iff` — `backendPort`, on the ports of a Service
* `ReverseProxyService.dialed_port_requested_iff` — what the two resolutions hand to their targets
* `ReverseProxyService.port_wraps_onto_another` — a port that becomes another one
-/

namespace NetbirdOperator

open ControlLoop

namespace ReverseProxyService

variable {first : ServicePort} {rest ports : List ServicePort} {want : ℤ}

/-! ### The range of an int32 -/

/-- The number is one an `int32` can be. -/
def FitsInt32 (n : ℤ) : Prop := -2 ^ 31 ≤ n ∧ n < 2 ^ 31

instance (n : ℤ) : Decidable (FitsInt32 n) := inferInstanceAs (Decidable (_ ∧ _))

theorem int32_eq_iff {n : ℤ} : int32 n = n ↔ FitsInt32 n := by
  constructor
  · intro h
    have hle := Int.le_bmod (x := n) (m := 2 ^ 32) (by decide)
    have hlt := Int.bmod_lt (x := n) (m := 2 ^ 32) (by decide)
    rw [int32] at h
    rw [FitsInt32]
    omega
  · rintro ⟨hle, hlt⟩
    rw [int32]
    exact Int.bmod_eq_of_le (by omega) (by omega)

/-! ### What was asked for -/

/-- The port number a backend asks for, which is the first of the Service if it leaves it open. -/
def askedPort (ports : List ServicePort) (want : ℤ) : Option ℤ :=
  if want = 0 then ports.head?.map ServicePort.port else some want

/-- The name of the first port with that number, if there is one. -/
def portName (ports : List ServicePort) (n : ℤ) : String :=
  ((ports.find? fun sp => sp.port = n).map ServicePort.name).getD ""

/-- The port and its name are the ones a backend asks for. -/
structure AsRequested (ports : List ServicePort) (want port : ℤ) (name : String) : Prop where
  number : some port = askedPort ports want
  named : name = portName ports port

/-- The first port of the Service is the first with its number. -/
theorem asRequested_first : AsRequested (first :: rest) 0 first.port first.name := by
  have hfind : (first :: rest).find? (fun sp => sp.port = first.port) = some first :=
    List.find?_cons_of_pos (by simp)
  refine ⟨rfl, ?_⟩
  rw [portName, hfind]
  rfl

/-- A port that is in range is dialed as it is, whether the Service has it or not. -/
theorem asRequested_of_fits (hfits : FitsInt32 want) :
    AsRequested (first :: rest) want (backendPort first (first :: rest) want).port
      (backendPort first (first :: rest) want).name := by
  rw [backendPort]
  split_ifs with hzero
  · subst hzero
    exact asRequested_first
  · cases hfind : (first :: rest).find? fun sp => sp.port = want with
    | some sp =>
      have hport : sp.port = want := by simpa using List.find?_some hfind
      refine ⟨?_, ?_⟩
      · rw [Option.getD_some, hport, askedPort, if_neg hzero]
      · rw [Option.getD_some, hport, portName, hfind]
        rfl
    | none =>
      refine ⟨?_, ?_⟩
      · rw [Option.getD_none, int32_eq_iff.mpr hfits, askedPort, if_neg hzero]
      · rw [Option.getD_none, int32_eq_iff.mpr hfits, portName, hfind]
        rfl

/-- A port out of range is no port of the Service, and becomes another number. -/
theorem backendPort_ne_of_not_fits (first : ServicePort) (hports : ∀ p ∈ ports, FitsInt32 p.port)
    (hfits : ¬ FitsInt32 want) : want ≠ 0 ∧ (backendPort first ports want).port ≠ want := by
  have hzero : want ≠ 0 := by
    rintro rfl
    exact hfits (by decide)
  refine ⟨hzero, ?_⟩
  have hnone : (ports.find? fun sp => sp.port = want) = none := by
    rw [List.find?_eq_none]
    intro p hp heq
    exact hfits (of_decide_eq_true heq ▸ hports p hp)
  rw [backendPort, if_neg hzero, hnone, Option.getD_none]
  exact fun heq => hfits (int32_eq_iff.mp heq)

/-- **The port of a backend** is the one that was asked for exactly if an `int32` can be it. -/
theorem asRequested_backendPort_iff (hports : ∀ p ∈ first :: rest, FitsInt32 p.port) :
    AsRequested (first :: rest) want (backendPort first (first :: rest) want).port
        (backendPort first (first :: rest) want).name ↔
      FitsInt32 want := by
  refine ⟨fun h => ?_, asRequested_of_fits⟩
  by_contra hfits
  obtain ⟨hzero, hne⟩ := backendPort_ne_of_not_fits first hports hfits
  have hport := h.number
  rw [askedPort, if_neg hzero] at hport
  exact hne (Option.some.inj hport)

/-! ### What is resolved -/

section

variable {cluster : Cluster} {fault : Call → Option Fault} {ns : String} {svc : Service}

/-- What a backend is resolved to is the port of its Service. -/
theorem servicePort_of_resolveBackend {b : Backend} {r : String × ℤ × String}
    (h : resolveBackend cluster fault ns b.serviceRef b.port = .ok r) :
    ∃ p, servicePort cluster ns b = some p ∧ r.2 = (p.port, p.name) := by
  unfold resolveBackend at h
  rw [servicePort]
  split at h
  · cases h
  · cases h
  · next svc _ hsvc =>
    split at h
    · cases h
    · next first rest hports =>
      obtain ⟨host, -, h⟩ := bind_eq_ok.mp h
      obtain rfl := Except.ok.inj h
      exact ⟨_, by rw [hsvc, Option.bind_some, hports], rfl⟩

/-- The port of a Service that a backend is dialed at is the one it asks for exactly if it is in
range. -/
theorem asRequested_servicePort_iff {b : Backend} {p : ServicePort}
    (hsvc : cluster.service ns b.serviceRef = some svc)
    (hports : ∀ p ∈ svc.ports, FitsInt32 p.port) (h : servicePort cluster ns b = some p) :
    AsRequested svc.ports b.port p.port p.name ↔ FitsInt32 b.port := by
  rw [servicePort, hsvc, Option.bind_some] at h
  cases hlist : svc.ports with
  | nil =>
    rw [hlist] at h
    cases h
  | cons first rest =>
    rw [hlist] at h hports
    obtain rfl := Option.some.inj h
    exact asRequested_backendPort_iff hports

end

/-- **The dialed port.** Whatever the two resolutions of a backend answer, the port and the name are
those that were asked for exactly if an `int32` can be that port; and the port they answer is that
of the target. -/
theorem dialed_port_requested_iff (env : Env) (o : CR) (i : ℕ) (b : Backend) (svc : Service)
    (hsvc : env.reads.service o.ns b.serviceRef = some svc)
    (hports : ∀ p ∈ svc.ports, FitsInt32 p.port) :
    (∀ fault host port name,
      resolveBackend env.reads.toCluster fault o.ns b.serviceRef b.port = .ok (host, port, name) →
        (AsRequested svc.ports b.port port name ↔ FitsInt32 b.port) ∧
          ∀ address, ∃ t, httpTarget env.reads.toCluster fault address o.ns b = .ok t ∧
            t.port = port) ∧
    (∀ id p, resolveL4Backend env i o.ns b.serviceRef b.port = .ok (id, p) →
      (AsRequested svc.ports b.port p.port p.name ↔ FitsInt32 b.port) ∧
        ∃ t label, l4Target env o i b = .ok (t, label) ∧ t.port = p.port) := by
  constructor
  · intro fault host port name h
    obtain ⟨p, hp, heq⟩ := servicePort_of_resolveBackend h
    obtain ⟨rfl, rfl⟩ := Prod.mk.inj heq
    refine ⟨asRequested_servicePort_iff hsvc hports hp, fun address => ?_⟩
    exact ⟨_, bind_eq_ok.mpr ⟨_, h, rfl⟩, rfl⟩
  · intro id p h
    refine ⟨asRequested_servicePort_iff hsvc hports (servicePort_of_resolved h), ?_⟩
    exact ⟨_, _, bind_eq_ok.mpr ⟨_, h, rfl⟩, rfl⟩

/-- A LoadBalancer Service `web` with port 80, advertised over IPv4. -/
def webEnv : Env :=
  { dnsEnv [] with
    reads :=
      { service := fun _ name =>
          if name = "web" then some ⟨.loadBalancer, [⟨"http", 80⟩]⟩ else none
        records := [⟨"shop", some "web", "web-shop.example.com"⟩]
        resources := [⟨"shop", "web-ipv4", some "web", "192.0.2.10", "r1"⟩] } }

theorem dialed_port_requested_undeclared :
    AsRequested [⟨"http", 80⟩] 8080 8080 "" ∧
      ∃ t label, l4Target webEnv (dnsObject .tcp 8080) 0 ⟨"web", 8080, ""⟩ = .ok (t, label) ∧
        t.port = 8080 := by
  have h := (dialed_port_requested_iff webEnv (dnsObject .tcp 8080) 0 ⟨"web", 8080, ""⟩
    ⟨.loadBalancer, [⟨"http", 80⟩]⟩ rfl (by decide)).2 "r1" ⟨"", 8080⟩ (by decide +kernel)
  exact ⟨h.1.mpr (by decide), h.2⟩

/-- **A port that becomes another one.** The Service has port 80, and the object asks for the port
that is 80 in its low 32 bits. Both resolutions answer 80, and without its name. -/
theorem port_wraps_onto_another :
    resolveBackend webEnv.reads.toCluster (fun _ => none) "shop" "web" 4294967376 =
        .ok ("web-shop.example.com", 80, "") ∧
      resolveL4Backend webEnv 0 "shop" "web" 4294967376 = .ok ("r1", ⟨"", 80⟩) ∧
      ¬ AsRequested [⟨"http", 80⟩] 4294967376 80 "" := by
  refine ⟨by decide +kernel, by decide +kernel, fun h => ?_⟩
  exact absurd h.number (by decide)

end ReverseProxyService

end NetbirdOperator
