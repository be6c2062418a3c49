import NetbirdOperator.ControlLoop.Run
import NetbirdOperator.SetupKey.Model

/-!
# The ClusterProxy controller

`internal/controller/clusterproxy_controller.go`. A ClusterProxy object makes the API server of the
cluster reachable for peers: the controller applies a SetupKey, waits until that has an id, and then
applies a Secret with the operator's API key and the Deployment of the proxy. All three are named
after the object.

There is no finalizer and nothing in NetBird to clean up, so a pass over an object that is being
deleted does nothing. A pass that waits for the key reports nothing either: it is the SetupKey's
change that starts the next one, since the controller owns it.

## What is left out

The parts of the Deployment that are the same for every object (probe, spread constraints, security
context, resources, the name of the pod), owner references, and the `api-key` entry's name.

## Main definitions

* `ClusterProxy.World`, `Env`, `Call` — state, inputs and failure points
* `ClusterProxy.reconcile` — the source function

## Main results

* `ClusterProxy.reconcile_gets`, `reconcile_sends` — how far a pass gets and what it sends
-/

namespace NetbirdOperator

open ControlLoop

namespace ClusterProxy

/-! ### Objects -/

structure Spec where
  clusterName : String
  apiServer : String := "https://kubernetes.default.svc.cluster.local"
  serviceAccountName : String
  groups : List GroupReference := []
  replicas : Option ℤ := none
  deriving DecidableEq, Repr

structure Status where
  observedGeneration : ℤ := -1
  ready : Option Condition := none
  deriving DecidableEq, Repr

/-- The custom resource. -/
abbrev CR := Object Spec Status

/-- What an object configures of the Deployment. -/
structure Deployment where
  selectorLabels : List (String × String)
  replicas : ℤ
  serviceAccountName : String
  image : String
  args : List String
  setupKeySecret : String
  apiKeySecret : String
  deriving DecidableEq, Repr

/-- The objects a pass applies. -/
inductive Child where
  | setupKey (ns name : String) (spec : SetupKey.Spec)
  | secret (ns name apiKey : String)
  | deployment (ns name : String) (spec : Deployment)
  deriving DecidableEq, Repr

/-- What a pass sent and was not refused. -/
inductive Sent where
  | applied (child : Child)
  | ready (o : CR)
  deriving DecidableEq, Repr

/-- What a pass works on. The requests sent are a record of the run, which no pass reads. -/
structure World where
  cr : Option CR
  sent : List Sent

/-- The calls of a pass that can fail, one for each place in the source. -/
inductive Call where
  | get | applySetupKey | getSetupKey | applySecret | applyDeployment | patchReady
  deriving DecidableEq, Repr

/-- How a pass gives up. -/
inductive Err where
  | api (c : Call) (f : Fault)
  deriving DecidableEq, Repr

/-- The inputs of a pass that are not part of the world. The status is what the cache answers, by
the key id in it: `none` for a SetupKey it does not have. -/
structure Env where
  apiKey : String
  managementURL : String
  kubeApiProxyImage : String
  /-- Eight hex digits of the SHA-256 of the object's uid. -/
  uniqueSuffix : String
  setupKeyStatus : String → String → Option String
  fault : Call → Option Fault

/-- A pass of this controller. -/
abbrev M := Pass World Err

/-! ### Calls -/

/-- The call `c`, as far as it can fail. -/
abbrev call (env : Env) (c : Call) : M Unit := Pass.call (env.fault c) (.api c)

/-- Add to the record of what was sent. -/
def record (s : Sent) : M Unit := Pass.modify fun w => { w with sent := w.sent ++ [s] }

/-- `Apply` of a child. -/
def apply (env : Env) (c : Call) (child : Child) : M Unit := do
  call env c
  record (.applied child)

/-! ### The children -/

/-- The name of the SetupKey, the Secret and the Deployment. -/
def resourceName (o : CR) : String := "clusterproxy-" ++ o.name

def setupKeyChild (env : Env) (o : CR) : Child :=
  .setupKey o.ns (resourceName o)
    { name := "clusterproxy-" ++ env.uniqueSuffix
      ephemeral := true
      allowExtraDnsLabels := true
      autoGroups := o.spec.groups.filterMap GroupReference.narrowed }

def secretChild (env : Env) (o : CR) : Child := .secret o.ns (resourceName o) env.apiKey

def deploymentChild (env : Env) (o : CR) : Child :=
  .deployment o.ns (resourceName o)
    { selectorLabels :=
        [("app.kubernetes.io/name", "clusterproxy"), ("app.kubernetes.io/instance", o.name)]
      replicas := o.spec.replicas.getD 3
      serviceAccountName := o.spec.serviceAccountName
      image := env.kubeApiProxyImage
      args :=
        ["--setup-key", "$(SETUP_KEY)", "--api-key", "$(API_KEY)", "--instance-name", "$(POD_NAME)",
          "--cluster-name", o.spec.clusterName, "--kubernetes-api-server", o.spec.apiServer,
          "--management-url", env.managementURL]
      setupKeySecret := SetupKey.secretName (resourceName o)
      apiKeySecret := resourceName o }

/-! ### Reconcile -/

/-- The object, reported ready. -/
def asReady (o : CR) : CR :=
  { o with
    status := { o.status with ready := some markTrue, observedGeneration := (o.generation : ℤ) } }

/-- The end of a pass, once the SetupKey has an id. -/
def deploy (env : Env) (o : CR) : M Result := do
  apply env .applySecret (secretChild env o)
  apply env .applyDeployment (deploymentChild env o)
  call env .patchReady
  Pass.modify fun w => { w with cr := some (asReady o) }
  record (.ready (asReady o))
  pure ⟨none⟩

/-- `Reconcile` on an object that is not being deleted. A SetupKey that the cache does not have yet,
and one without an id, end the pass without an error. -/
def reconcileLive (env : Env) (o : CR) : M Result := do
  apply env .applySetupKey (setupKeyChild env o)
  call env .getSetupKey
  match env.setupKeyStatus o.ns (resourceName o) with
  | none => pure ⟨none⟩
  | some setupKeyID => if setupKeyID = "" then pure ⟨none⟩ else deploy env o

/-- `ClusterProxyReconciler.Reconcile`. An object that is gone is not an error. -/
def reconcile (env : Env) : M Result := do
  call env .get
  let found ← Pass.read fun w => w.cr
  match found with
  | none => pure ⟨none⟩
  | some o => if o.deleting then pure ⟨none⟩ else reconcileLive env o

/-! ### What a pass sends -/

open Pass

variable {env : Env} {w : World} {o : CR} {sent : List Sent}

/-- The children of an object. -/
def children (env : Env) (o : CR) : List Child :=
  [setupKeyChild env o, secretChild env o, deploymentChild env o]

/-- All that a pass over an object can send, in order. -/
def requests (env : Env) (o : CR) : List Sent :=
  (children env o).map .applied ++ [.ready (asReady o)]

/-- The SetupKey is there, with an id. -/
def KeyReady (env : Env) (o : CR) : Prop :=
  ∃ id, env.setupKeyStatus o.ns (resourceName o) = some id ∧ id ≠ ""

/-- From `w₀` on, the first `n` requests of the sequence were sent, and no others. -/
def Sending (env : Env) (w₀ : World) (o : CR) (n : ℕ) (w : World) : Prop :=
  w.sent = w₀.sent ++ (requests env o).take n

/-- **What a pass sends**: the beginning of the sequence of a live object, and only the SetupKey
while that is not ready. -/
inductive Sends (env : Env) (w w' : World) : Prop where
  | nothing (h : w'.sent = w.sent)
  | some {o : CR} {n : ℕ} (hcr : w.cr = some o) (hlive : o.deleting = false)
      (hkey : 1 < n → KeyReady env o) (h : Sending env w o n w')

theorem apply_of_some {c : Call} {f : Fault} (h : env.fault c = some f) (child : Child)
    (w : World) : apply env c child w = (.error (.api c f), w) := by
  rw [apply, bind_of_error (call_of_some h w)]

/-- One more request is sent. -/
theorem apply_of_none {c : Call} {child : Child} {n : ℕ} (h : env.fault c = none)
    (hnext : (requests env o)[n]? = some (.applied child)) :
    apply env c child ⟨some o, sent ++ (requests env o).take n⟩ =
      (.ok (), ⟨some o, sent ++ (requests env o).take (n + 1)⟩) := by
  rw [apply, bind_of_ok (call_of_none h _), List.take_add_one, hnext, ← List.append_assoc]
  rfl

/-- **How far a pass over a live object gets.** It fails somewhere in the sequence of its requests;
or it ends after the first one, as the SetupKey is not ready; or it sends them all. -/
inductive Gets (env : Env) (sent : List Sent) (o : CR) : Except Err Result × World → Prop
  | failed (e : Err) (n : ℕ) (hkey : 1 < n → KeyReady env o) :
      Gets env sent o (.error e, ⟨some o, sent ++ (requests env o).take n⟩)
  | waits (hkey : ¬ KeyReady env o) :
      Gets env sent o (.ok ⟨none⟩, ⟨some o, sent ++ (requests env o).take 1⟩)
  | done (hkey : KeyReady env o) :
      Gets env sent o (.ok ⟨none⟩, ⟨some (asReady o), sent ++ requests env o⟩)

/-- The object stays, and what was sent is a beginning of the requests. -/
theorem Gets.world {r : Except Err Result × World} (h : Gets env sent o r) :
    (∃ o', r.2.cr = some o') ∧
      ∃ n, (1 < n → KeyReady env o) ∧ r.2.sent = sent ++ (requests env o).take n := by
  cases h with
  | failed e n hkey => exact ⟨⟨o, rfl⟩, n, hkey, rfl⟩
  | waits hkey => exact ⟨⟨o, rfl⟩, 1, fun h => absurd h (Nat.lt_irrefl 1), rfl⟩
  | done hkey => exact ⟨⟨asReady o, rfl⟩, 4, fun _ => hkey, rfl⟩

theorem deploy_gets (hkey : KeyReady env o) :
    Gets env sent o (deploy env o ⟨some o, sent ++ (requests env o).take 1⟩) := by
  rw [deploy]
  cases hsecret : env.fault .applySecret with
  | some f =>
    rw [bind_of_error (apply_of_some hsecret _ _)]
    exact .failed _ 1 fun _ => hkey
  | none =>
    rw [bind_of_ok (apply_of_none hsecret rfl)]
    cases hdeployment : env.fault .applyDeployment with
    | some f =>
      rw [bind_of_error (apply_of_some hdeployment _ _)]
      exact .failed _ 2 fun _ => hkey
    | none =>
      rw [bind_of_ok (apply_of_none hdeployment rfl)]
      cases hready : env.fault .patchReady with
      | some f =>
        rw [bind_of_error (call_of_some hready _)]
        exact .failed _ 3 fun _ => hkey
      | none =>
        rw [bind_of_ok (call_of_none hready _)]
        have hall : (sent ++ (requests env o).take 3) ++ [.ready (asReady o)] =
            sent ++ requests env o := List.append_assoc _ _ _
        show Gets env sent o (.ok ⟨none⟩, ⟨some (asReady o), _⟩)
        rw [hall]
        exact .done hkey

theorem reconcileLive_gets : Gets env sent o (reconcileLive env o ⟨some o, sent⟩) := by
  have hstart : (⟨some o, sent⟩ : World) = ⟨some o, sent ++ (requests env o).take 0⟩ := by
    rw [List.take_zero, List.append_nil]
  have hearly : ∀ n, n ≤ 1 → 1 < n → KeyReady env o := fun n hn h => absurd hn (by omega)
  rw [reconcileLive, hstart]
  cases happly : env.fault .applySetupKey with
  | some f =>
    rw [bind_of_error (apply_of_some happly _ _)]
    exact .failed _ 0 (hearly 0 (Nat.zero_le 1))
  | none =>
    rw [bind_of_ok (apply_of_none happly rfl)]
    cases hget : env.fault .getSetupKey with
    | some f =>
      rw [bind_of_error (call_of_some hget _)]
      exact .failed _ 1 (hearly 1 (Nat.le_refl 1))
    | none =>
      rw [bind_of_ok (call_of_none hget _)]
      cases hstatus : env.setupKeyStatus o.ns (resourceName o) with
      | none =>
        refine .waits ?_
        rintro ⟨id, hid, -⟩
        exact absurd (hstatus.symm.trans hid) (by simp)
      | some id =>
        dsimp only
        split
        · next hempty =>
          refine .waits ?_
          rintro ⟨id', hid, hne⟩
          obtain rfl := Option.some.inj (hstatus.symm.trans hid)
          exact hne hempty
        · next hne => exact deploy_gets ⟨id, hstatus, hne⟩

theorem reconcile_gets (hlive : o.deleting = false) :
    Gets env sent o (reconcile env ⟨some o, sent⟩) := by
  rw [reconcile]
  cases hget : env.fault .get with
  | some f =>
    rw [bind_of_error (call_of_some hget _)]
    have hfailed : Gets env sent o
        (.error (.api .get f), ⟨some o, sent ++ (requests env o).take 0⟩) :=
      .failed _ 0 fun h => absurd h (by omega)
    rwa [List.take_zero, List.append_nil] at hfailed
  | none =>
    rw [bind_of_ok (call_of_none hget _), bind_of_ok (read_apply _ _)]
    simp only [hlive]
    exact reconcileLive_gets

/-- There is nothing to do for an object that is gone or being deleted. -/
theorem reconcile_of_not_live (h : ∀ o, w.cr = some o → o.deleting = true) :
    (reconcile env w).2 = w := by
  rw [reconcile]
  cases hget : env.fault .get with
  | some f => rw [bind_of_error (call_of_some hget _)]
  | none =>
    rw [bind_of_ok (call_of_none hget _), bind_of_ok (read_apply _ _)]
    cases hcr : w.cr with
    | none => rfl
    | some o =>
      simp only [h o hcr]
      rfl

/-- **A pass sends the beginning of a fixed sequence**, wherever it gives up. -/
theorem reconcile_sends (env : Env) (w : World) : Sends env w (reconcile env w).2 := by
  by_cases hall : ∀ o, w.cr = some o → o.deleting = true
  · exact .nothing (by rw [reconcile_of_not_live hall])
  · push Not at hall
    obtain ⟨o, hcr, hnot⟩ := hall
    have hlive := Bool.eq_false_iff.mpr hnot
    have hgets : Gets env w.sent o (reconcile env ⟨some o, w.sent⟩) := reconcile_gets hlive
    obtain ⟨-, n, hkey, hsent⟩ := hgets.world
    rw [← hcr] at hsent
    exact .some hcr hlive hkey hsent

end ClusterProxy

end NetbirdOperator
