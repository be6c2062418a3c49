import Mathlib.Data.Int.Notation
import NetbirdOperator.ControlLoop.Pass
import NetbirdOperator.ControlLoop.Run
import NetbirdOperator.Mirror
import NetbirdOperator.Reconcile

/-!
# The NetworkRouter controller

`internal/controller/networkrouter_controller.go`, with `resolveNetworkID` of `mirror.go`. A
NetworkRouter object stands for a router of a NetBird network: a group of peers that route its
traffic. The group is one the object refers to, or that of peers the operator deploys, and then the
controller applies a Group, a SetupKey and a DaemonSet and waits for each of them.

The three are read back through the operator's cache, which lags behind the API server: an object
that was just applied may be reported not found. The cache is an input of a pass and unrelated to
what the pass applied.

## What is left out

The parts of the DaemonSet that are the same for every object (probes, volumes, capabilities,
the constant environment variables), owner references and events.

## Main definitions

* `NetworkRouter.World`, `Env`, `Call` — state, inputs and failure points
* `NetworkRouter.ensureDeployedPeers`, `resolvePeerGroup`, `upsertRouter`, `reconcile` — the source
  functions
* `NetworkRouter.Event`, `step` — the controller among users and other clients of the account
-/

namespace NetbirdOperator

open ControlLoop

namespace NetworkRouter

/-! ### Objects and routers -/

/-- How the netbird-client DaemonSet is deployed; an empty text is an unset one. -/
structure RouterDeploy where
  nodeSelector : List (String × String) := []
  image : String := ""
  logLevel : String := ""
  deriving DecidableEq, Repr

/-- The routing peers: an existing group, or deployed ones. -/
structure Peers where
  group : Option GroupReference := none
  deploy : Option RouterDeploy := none
  deriving DecidableEq, Repr

structure Spec where
  networkRef : CrossNamespaceReference
  peers : Peers
  masquerade : Bool := true
  metric : ℤ := 9999
  enabled : Bool := true
  deriving DecidableEq, Repr

structure Status where
  observedGeneration : ℤ := -1
  ready : Option Condition := none
  networkID : Option ℕ := none
  routerID : Option ℕ := none
  groupID : String := ""
  deriving DecidableEq, Repr

/-- The custom resource. -/
abbrev CR := Object Spec Status

/-- A router of a network, which is also what a request to create or update one says. -/
structure Router where
  enabled : Bool
  masquerade : Bool
  metric : ℤ
  peerGroups : List String
  deriving DecidableEq, Repr

/-- The objects a pass applies for deployed peers. -/
inductive Child where
  | group (ns name groupName : String)
  | setupKey (ns name groupName : String) (ephemeral : Bool) (autoGroup : String)
  | daemonSet (ns name image logLevel secretName : String) (nodeSelector : List (String × String))
  deriving DecidableEq, Repr

/-- What a pass sent and was not refused: an applied child, a router created or updated in a
network, the object with its `Ready` condition set. -/
inductive Sent where
  | applied (child : Child)
  | router (networkID : ℕ) (req : Router)
  | ready (o : CR)
  deriving DecidableEq, Repr

/-- What a pass works on: the object and the routers of each network. The requests sent are a record
of the run, which no pass reads. -/
structure World where
  cr : Option CR
  networks : ℕ → Store Router
  sent : List Sent

/-- The calls of a pass that can fail, one for each place in the source. -/
inductive Call where
  | get | patchFinalizer | getNetwork | applyGroup | applySetupKey | getSetupKey | applyDaemonSet
  | getDaemonSet | getRouter | updateRouter | createRouter | patchNotReady | patchReady
  | deleteRouter | patchRemoveFinalizer
  deriving DecidableEq, Repr

/-- How a pass gives up. -/
inductive Err where
  | api (c : Call) (f : Fault)
  | notFound (c : Call)
  | group (e : GroupErr)
  | dependencyNotReady (msg : String)
  deriving DecidableEq, Repr

structure DaemonSetStatus where
  desiredNumberScheduled : ℤ
  numberReady : ℤ
  deriving DecidableEq, Repr

/-- The inputs of a pass that are not part of the world. The statuses are what the cache answers:
`none` for an object it does not have, `some none` and `some ""` for one with no id yet. -/
structure Env where
  groups : Groups
  networkStatus : CrossNamespaceReference → Option (Option ℕ)
  setupKeyStatus : String → String → Option String
  daemonSetStatus : String → String → Option DaemonSetStatus
  clientImage : String
  fault : Call → Option Fault

/-- A pass of this controller. -/
abbrev M := Pass World Err

/-! ### Calls -/

/-- The call `c`, as far as it can fail. -/
abbrev call (env : Env) (c : Call) : M Unit := Pass.call (env.fault c) (.api c)

/-- `sp.Patch`. An object that is being deleted and has lost its finalizer is gone. -/
def patch (env : Env) (c : Call) (o : CR) : M Unit := do
  call env c
  Pass.modify fun w => { w with cr := if o.deleting ∧ ¬ o.finalizer then none else some o }

/-- Add to the record of what was sent. -/
def record (s : Sent) : M Unit := Pass.modify fun w => { w with sent := w.sent ++ [s] }

/-- `Apply` of a child. -/
def apply (env : Env) (c : Call) (child : Child) : M Unit := do
  call env c
  record (.applied child)

/-- The account with the routers of one network replaced. -/
def setRouters (networkID : ℕ) (routers : Store Router) (networks : ℕ → Store Router) :
    ℕ → Store Router :=
  Function.update networks networkID routers

/-- `Routers(networkID).Get`; `false` is a 404. -/
def routerExists (env : Env) (networkID id : ℕ) : M Bool := do
  call env .getRouter
  Pass.read fun w => ((w.networks networkID).get id).isSome

/-- `Routers(networkID).Update`. -/
def updateRouter (env : Env) (networkID id : ℕ) (req : Router) : M ℕ := do
  call env .updateRouter
  let found ← Pass.read fun w => ((w.networks networkID).get id).isSome
  if found then do
    Pass.modify fun w =>
      { w with networks := setRouters networkID ((w.networks networkID).update id req) w.networks }
    record (.router networkID req)
    pure id
  else Pass.throw (.notFound .updateRouter)

/-- `Routers(networkID).Create`, answered with a fresh id. -/
def createRouter (env : Env) (networkID : ℕ) (req : Router) : M ℕ := do
  call env .createRouter
  let id ← Pass.read fun w => (w.networks networkID).next
  Pass.modify fun w =>
    { w with networks := setRouters networkID ((w.networks networkID).create req) w.networks }
  record (.router networkID req)
  pure id

/-- `Routers(networkID).Delete`, where a 404 is not an error. -/
def deleteRouter (env : Env) (networkID id : ℕ) : M Unit := do
  call env .deleteRouter
  Pass.modify fun w =>
    { w with networks := setRouters networkID ((w.networks networkID).delete id) w.networks }

/-! ### The network -/

/-- `resolveNetworkID`, in this controller. -/
abbrev resolveNetworkID (env : Env) (ref : CrossNamespaceReference) : Except Err ℕ :=
  Mirror.resolveNetworkID (.api .getNetwork) .dependencyNotReady (env.fault .getNetwork)
    (env.networkStatus ref) ref

/-- The object with the network it is in. A router on record in another network is gone with it. -/
def withNetwork (o : CR) (networkID : ℕ) : CR :=
  { o with
    status :=
      { o.status with
        networkID := some networkID
        routerID :=
          if o.status.networkID ≠ none ∧ o.status.networkID ≠ some networkID then none
          else o.status.routerID } }

/-! ### The peer group -/

/-- The name of the Group, the SetupKey and the DaemonSet of deployed peers. -/
def routerName (o : CR) : String := o.name ++ "-router"

def groupName (o : CR) : String := "networkrouter-" ++ o.ns ++ "-" ++ o.name

def groupChild (o : CR) : Child := .group o.ns (routerName o) (groupName o)

def setupKeyChild (o : CR) : Child :=
  .setupKey o.ns (routerName o) (groupName o) true (routerName o)

/-- `ensureDaemonSet`, up to its apply: what the object configures of the DaemonSet. -/
def daemonSetChild (env : Env) (o : CR) : Child :=
  let deploy := o.spec.peers.deploy.getD {}
  .daemonSet o.ns (routerName o)
    (if deploy.image ≠ "" then deploy.image else env.clientImage)
    (if deploy.logLevel ≠ "" then deploy.logLevel else "info")
    ("setup-key-" ++ routerName o) deploy.nodeSelector

/-- The cached Group of deployed peers, by the group id in its status. -/
def getGroup (env : Env) (ns name : String) : Except Err (Option String) :=
  match env.groups.getLocal ns name with
  | .ok groupID => .ok (some groupID)
  | .error .notFound => .ok none
  | .error e => .error (.group e)

/-- A cached read of another child. -/
def getChild {α : Type} (env : Env) (c : Call) (status : String → String → Option α)
    (ns name : String) : Except Err (Option α) :=
  match env.fault c with
  | some f => .error (.api c f)
  | none => .ok (status ns name)

/-- The cached SetupKey of deployed peers, by the key id in its status. -/
def getSetupKey (env : Env) : String → String → Except Err (Option String) :=
  getChild env .getSetupKey env.setupKeyStatus

def getDaemonSet (env : Env) : String → String → Except Err (Option DaemonSetStatus) :=
  getChild env .getDaemonSet env.daemonSetStatus

/-- All pods of the DaemonSet are ready, and there are some. -/
def DaemonSetStatus.podsReady (ds : DaemonSetStatus) : Bool :=
  ¬ (ds.desiredNumberScheduled = 0 ∨ ds.numberReady ≠ ds.desiredNumberScheduled)

/-- One stage of `ensureDeployedPeers`: apply a child, read it back, and go on once it is ready.
A child that is not found is not an error, and ends the function with the empty group id
(`return "", client.IgnoreNotFound(err)`). -/
def stage {α : Type} (env : Env) (c : Call) (child : Child) (got : Except Err (Option α))
    (ready : α → Bool) (waiting : String) (next : α → M String) : M String := do
  apply env c child
  match got with
  | .error e => Pass.throw e
  | .ok none => pure ""
  | .ok (some a) =>
    if ready a then next a
    else Pass.throw (.dependencyNotReady ("dependency not ready: " ++ waiting))

/-- `ensureDeployedPeers`: the Group, the SetupKey and the DaemonSet, one after the other. -/
def ensureDeployedPeers (env : Env) (o : CR) : M String :=
  stage env .applyGroup (groupChild o) (getGroup env o.ns (routerName o)) (· ≠ "")
    "router group not ready" fun groupID =>
  stage env .applySetupKey (setupKeyChild o) (getSetupKey env o.ns (routerName o)) (· ≠ "")
    "router setup key not ready" fun _ =>
  stage env .applyDaemonSet (daemonSetChild env o) (getDaemonSet env o.ns (routerName o))
    DaemonSetStatus.podsReady "router pods not ready" fun _ =>
  pure groupID

/-- The group the object refers to. -/
def referencedGroup (env : Env) (ns : String) (g : GroupReference) : Except Err String :=
  match getGroupIDs env.groups [g] ns with
  | .error e => .error (.group e)
  | .ok ids =>
    if ids.headD "" = "" then
      .error (.dependencyNotReady "dependency not ready: peer group not resolved")
    else .ok (ids.headD "")

/-- `resolvePeerGroup`. -/
def resolvePeerGroup (env : Env) (o : CR) : M String :=
  match o.spec.peers.group with
  | some g => Pass.lift (referencedGroup env o.ns g)
  | none => ensureDeployedPeers env o

/-! ### The router -/

/-- The request the specification makes, for a peer group. -/
def routerRequest (spec : Spec) (groupID : String) : Router :=
  ⟨spec.enabled, spec.masquerade, spec.metric, [groupID]⟩

/-- `upsertRouter`: update the recorded router, or create one if there is none, or none any more. -/
def upsertRouter (env : Env) (networkID : ℕ) (routerID : Option ℕ) (groupID : String)
    (spec : Spec) : M ℕ := do
  let verified ← Mirror.verifyNetbirdID routerID (routerExists env networkID)
  match verified with
  | some id => updateRouter env networkID id (routerRequest spec groupID)
  | none => createRouter env networkID (routerRequest spec groupID)

/-! ### Reconcile -/

/-- `dependency`: wait for what is not ready, give up on any other error. -/
def dependency (env : Env) (o : CR) : Err → M Result
  | .dependencyNotReady msg => do
    patch env .patchNotReady
      { o with status := { o.status with ready := some (markFalse msg) } }
    pure ⟨some dependencyRetry⟩
  | e => Pass.throw e

/-- The object with the group and the router it stands for, reported ready. -/
def asReady (o : CR) (groupID : String) (routerID : ℕ) : CR :=
  { o with
    status :=
      { o.status with
        groupID := groupID
        routerID := some routerID
        ready := some markTrue
        observedGeneration := (o.generation : ℤ) } }

/-- The end of a pass, once the peer group is known. -/
def bindGroup (env : Env) (networkID : ℕ) (o : CR) (groupID : String) : M Result := do
  let routerID ← upsertRouter env networkID o.status.routerID groupID o.spec
  patch env .patchReady (asReady o groupID routerID)
  record (.ready (asReady o groupID routerID))
  pure ⟨some resyncInterval⟩

/-- `Reconcile` once the network is resolved. -/
def reconcileRouter (env : Env) (networkID : ℕ) (o : CR) : M Result := do
  let outcome ← Pass.observe (resolvePeerGroup env o)
  match outcome with
  | .error e => dependency env o e
  | .ok groupID => bindGroup env networkID o groupID

/-- `Reconcile` on an object that is not being deleted. -/
def reconcileLive (env : Env) (o : CR) : M Result := do
  let o := { o with finalizer := true }
  patch env .patchFinalizer o
  match resolveNetworkID env o.spec.networkRef with
  | .error e => dependency env o e
  | .ok networkID => reconcileRouter env networkID (withNetwork o networkID)

/-- Delete the recorded router. -/
def deleteRecorded (env : Env) (o : CR) : M Unit :=
  match o.status.networkID, o.status.routerID with
  | some networkID, some id => deleteRouter env networkID id
  | _, _ => pure ()

/-- `reconcileDelete`. -/
def reconcileDelete (env : Env) (o : CR) : M Result := do
  deleteRecorded env o
  patch env .patchRemoveFinalizer { o with finalizer := false }
  pure ⟨none⟩

/-- `NetworkRouterReconciler.Reconcile`. An object that is gone is not an error. -/
def reconcile (env : Env) : M Result := do
  call env .get
  let found ← Pass.read fun w => w.cr
  match found with
  | none => pure ⟨none⟩
  | some o => if o.deleting then reconcileDelete env o else reconcileLive env o

/-! ### The controller among the others -/

/-- What happens to the world: a pass, the user's changes, and what others do to the routers of a
network. -/
inductive Event where
  | reconcile (env : Env)
  | edit (spec : Spec)
  | delete
  | foreignCreate (networkID : ℕ) (router : Router)
  | foreignUpdate (networkID id : ℕ) (router : Router)
  | foreignDelete (networkID id : ℕ)

/-- The effect of an event. -/
def step (w : World) : Event → World
  | .reconcile env => (reconcile env w).2
  | .edit spec =>
    { w with cr := w.cr.map fun o => { o with spec := spec, generation := o.generation + 1 } }
  | .delete =>
    { w with
      cr := w.cr.bind fun o => if o.finalizer then some { o with deleting := true } else none }
  | .foreignCreate n router =>
    { w with networks := setRouters n ((w.networks n).create router) w.networks }
  | .foreignUpdate n id router =>
    { w with networks := setRouters n ((w.networks n).update id router) w.networks }
  | .foreignDelete n id => { w with networks := setRouters n ((w.networks n).delete id) w.networks }

/-- An object that was just created, in an account with any routers. -/
def initial (ns name : String) (spec : Spec) (networks : ℕ → Store Router) : World :=
  ⟨some ⟨ns, name, 1, false, false, spec, {}⟩, networks, []⟩

end NetworkRouter

end NetbirdOperator
