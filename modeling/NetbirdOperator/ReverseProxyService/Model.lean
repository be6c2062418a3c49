import Mathlib.Algebra.Group.Int.Defs
import Mathlib.Algebra.Group.Nat.Defs
import NetbirdOperator.Reconcile

/-!
# The backends of a ReverseProxyService

The HTTP targets of `applyReverseProxyService`, with `resolveBackend`, `backendFQDN` and
`backendPort` (`internal/controller/reverseproxyservice_mirror.go`): where the proxy dials a
backend. A backend names a Service of the object's namespace. One of type LoadBalancer is dialed at
the name it is advertised under in the mesh, any other at its name in the cluster.

## Main definitions

* `ReverseProxyService.Cluster` — the Services and the DNSRecords that are read
* `ReverseProxyService.resolveBackend` — the host, the port and the port's name
* `ReverseProxyService.httpTarget` — the target of a backend in HTTP mode
-/

namespace NetbirdOperator

namespace ReverseProxyService

/-! ### What is read of the cluster -/

inductive ServiceType where
  | loadBalancer
  | other (name : String)
  deriving DecidableEq, Repr

/-- A port of a Service, which is an `int32`. -/
structure ServicePort where
  name : String
  port : ℤ
  deriving DecidableEq, Repr

structure Service where
  type : ServiceType
  ports : List ServicePort
  deriving DecidableEq, Repr

/-- A backend of a ReverseProxyService. An unset port is 0, an unset path is empty. -/
structure Backend where
  serviceRef : String
  port : ℤ
  path : String
  deriving DecidableEq, Repr

/-- A DNSRecord object, with the value of its `netbird.io/loadbalancer` label. -/
structure DNSRecord where
  ns : String
  loadBalancer : Option String
  name : String
  deriving DecidableEq, Repr

/-- The cluster as a pass reads it. -/
structure Cluster where
  service : String → String → Option Service
  records : List DNSRecord

/-- The reads that can fail. -/
inductive Call where
  | getService
  | listRecords
  deriving DecidableEq, Repr

inductive Err where
  | api (c : Call) (f : Fault)
  | dependencyNotReady (msg : String)
  deriving DecidableEq, Repr

/-! ### Resolution -/

/-- The conversion of an `int` to an `int32`. -/
def int32 (n : ℤ) : ℤ := Int.bmod n (2 ^ 32)

/-- `backendPort`: the port asked for, with the name it has in the Service if it is one of its
ports; the Service's first port if none is asked for. -/
def backendPort (first : ServicePort) (ports : List ServicePort) (want : ℤ) : ServicePort :=
  if want = 0 then first
  else (ports.find? fun sp => sp.port = want).getD ⟨"", int32 want⟩

/-- `backendFQDN`: the name the LoadBalancer controller published. -/
def backendFQDN (cluster : Cluster) (fault : Call → Option Fault) (ns svcName : String) :
    Except Err String :=
  match fault .listRecords with
  | some f => .error (.api .listRecords f)
  | none =>
    match cluster.records.find? fun r => r.ns = ns ∧ r.loadBalancer = some svcName with
    | none =>
      .error (.dependencyNotReady ("dependency not ready: Service " ++ ns ++ "/" ++ svcName ++
        " not advertised (no DNSRecord)"))
    | some record => .ok record.name

/-- The host of a Service that is not advertised. -/
def clusterName (ns svcName : String) : String := svcName ++ "." ++ ns ++ ".svc.cluster.local"

/-- The host of a Service, by its type. -/
def backendHost (cluster : Cluster) (fault : Call → Option Fault) (ns svcName : String)
    (svc : Service) : Except Err String :=
  match svc.type with
  | .loadBalancer => backendFQDN cluster fault ns svcName
  | .other _ => .ok (clusterName ns svcName)

/-- `resolveBackend`: the host the proxy dials, the port, and that port's name. -/
def resolveBackend (cluster : Cluster) (fault : Call → Option Fault) (ns svcName : String)
    (want : ℤ) : Except Err (String × ℤ × String) :=
  match fault .getService, cluster.service ns svcName with
  | some f, _ => .error (.api .getService f)
  | none, none =>
    .error (.dependencyNotReady ("dependency not ready: Service " ++ ns ++ "/" ++ svcName ++
      " not found"))
  | none, some svc =>
    match svc.ports with
    | [] =>
      .error (.dependencyNotReady ("dependency not ready: Service " ++ ns ++ "/" ++ svcName ++
        " has no ports"))
    | first :: rest => do
      let host ← backendHost cluster fault ns svcName svc
      let p := backendPort first (first :: rest) want
      .ok (host, p.port, p.name)

/-! ### HTTP targets -/

inductive ServiceTargetProtocol where
  | http | tcp | udp
  deriving DecidableEq, Repr

inductive ServiceTargetType where
  | cluster | host
  deriving DecidableEq, Repr

/-- `api.ServiceTargetOptions`. -/
structure ServiceTargetOptions where
  directUpstream : Option Bool := none
  proxyProtocol : Option Bool := none
  deriving DecidableEq, Repr

/-- `api.ServiceTarget`. -/
structure ServiceTarget where
  enabled : Bool
  host : Option String
  port : ℤ
  protocol : ServiceTargetProtocol
  targetType : ServiceTargetType
  targetID : String
  options : Option ServiceTargetOptions
  path : Option String
  deriving DecidableEq, Repr

/-- The body of the loop over the backends, in HTTP mode. The target references the cluster by its
address. -/
def httpTarget (cluster : Cluster) (fault : Call → Option Fault) (address ns : String)
    (b : Backend) : Except Err ServiceTarget := do
  let (host, port, _) ← resolveBackend cluster fault ns b.serviceRef b.port
  .ok
    { enabled := true
      host := some host
      port := port
      protocol := .http
      targetType := .cluster
      targetID := address
      options := some { directUpstream := some true }
      path := if b.path ≠ "" then some b.path else none }

/-! ### What resolves -/

section

variable {cluster : Cluster} {ns svcName : String} {want : ℤ}

/-- A Service that is not there is waited for. -/
theorem resolveBackend_of_absent (h : cluster.service ns svcName = none) :
    resolveBackend cluster (fun _ => none) ns svcName want =
      .error (.dependencyNotReady ("dependency not ready: Service " ++ ns ++ "/" ++ svcName ++
        " not found")) := by
  rw [resolveBackend, h]

/-- A Service that is not advertised resolves to its name in the cluster. -/
theorem resolveBackend_of_other {kind : String} {first : ServicePort} {rest : List ServicePort}
    (h : cluster.service ns svcName = some ⟨.other kind, first :: rest⟩) :
    resolveBackend cluster (fun _ => none) ns svcName want =
      .ok (clusterName ns svcName, (backendPort first (first :: rest) want).port,
        (backendPort first (first :: rest) want).name) := by
  rw [resolveBackend, h]
  rfl

end

end ReverseProxyService

end NetbirdOperator
