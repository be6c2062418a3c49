import Mathlib.Data.List.AList
import Mathlib.Data.String.Basic
import NetbirdOperator.ControlLoop.Pass
import NetbirdOperator.Reconcile
import NetbirdOperator.SetupKey.Model
import NetbirdOperator.Sorting
import NetbirdOperator.Strings

/-!
# The Pod webhook

`internal/webhook/v1/pod_webhook.go`. A Pod that is created is shown to the webhook, which may
change it before it is stored. The SidecarProfiles of its namespace are looked through for those
that select it, and the one that is first by name decides: a container with the NetBird client is
added to the Pod, among the init containers or among the others, and an annotation names the
profile.

The Pod is the state of the pass, and the pass writes it in place. So where a step fails matters,
and the order of the steps here is that of the source.

## What is given

What the libraries do is an input: whether a label selector is valid and what it matches, how a
container is written as JSON and read back over another, and what a strategic merge patch makes of
two such texts. So is the sort, of which only the promise is known that it sorts.

`R` stands for what fields hold that nothing here looks at, with the default value for an object in
which none of them is set, and `L` for label selectors.

## Main definitions

* `PodWebhook.Pod`, `Container`, `SidecarProfile` — the objects
* `PodWebhook.Libraries`, `Env` — what is given, the cluster, and which calls fail
* `PodWebhook.PodNetbirdInjector.default` — the source function
-/

namespace NetbirdOperator

open ControlLoop Sorting Strings

namespace PodWebhook

variable {R L : Type}

/-! ### Pods -/

abbrev StringMap := AList fun _ : String => String

/-- `corev1.ContainerRestartPolicy`. -/
inductive ContainerRestartPolicy where
  | always
  | other (name : String)
  deriving DecidableEq, Repr

/-- `corev1.EnvVarSource`. -/
inductive EnvVarSource (R : Type) where
  | secretKeyRef (name key : String)
  | other (source : R)
  deriving DecidableEq, Repr

/-- `corev1.EnvVar`. -/
structure EnvVar (R : Type) where
  name : String
  value : String := ""
  valueFrom : Option (EnvVarSource R) := none
  deriving DecidableEq, Repr

/-- `corev1.SecurityContext`. -/
structure SecurityContext (R : Type) where
  addedCapabilities : List String
  rest : R
  deriving DecidableEq, Repr

/-- `corev1.Container`. -/
structure Container (R : Type) where
  name : String
  image : String
  env : List (EnvVar R)
  securityContext : Option (SecurityContext R)
  restartPolicy : Option ContainerRestartPolicy
  rest : R
  deriving DecidableEq, Repr

/-- `corev1.Pod`. It has a namespace; its annotations may be a nil map. -/
structure Pod (R : Type) where
  ns : String
  ns_ne : ns ≠ ""
  labels : StringMap
  annotations : Option StringMap
  initContainers : List (Container R)
  containers : List (Container R)
  rest : R

/-! ### Profiles -/

/-- `InjectionMode`. The custom resource definition admits the first two. -/
inductive InjectionMode where
  | sidecar
  | container
  | other (name : String)
  deriving DecidableEq, Repr

structure ContainerOverride (R : Type) where
  image : String := ""
  env : List (EnvVar R) := []
  securityContext : Option (SecurityContext R) := none
  startupProbe : Option R := none
  livenessProbe : Option R := none
  readinessProbe : Option R := none
  deriving DecidableEq, Repr

structure SidecarProfile (R L : Type) where
  ns : String
  name : String
  setupKeyRef : String
  podSelector : Option L
  injectionMode : InjectionMode
  extraDNSLabels : List String
  containerOverride : Option (ContainerOverride R)
  deriving DecidableEq, Repr

/-- The comparison of the sort. -/
def nameLess (p q : SidecarProfile R L) : Bool := p.name < q.name

theorem byKey_nameLess : ByKey (nameLess (R := R) (L := L)) SidecarProfile.name :=
  fun _ _ => decide_eq_true_iff

/-! ### What is given -/

/-- The functions of the libraries. Texts are what is marshalled, and also what errors say. -/
structure Libraries (R L : Type) where
  /-- `LabelSelector.Size`. -/
  size : L → ℕ
  /-- `metav1.LabelSelectorAsSelector`, with the `Matches` of the selector it returns. -/
  labelSelectorAsSelector : L → Except String (StringMap → Bool)
  marshal : Container R → Except String String
  marshalOverride : ContainerOverride R → Except String String
  strategicMergePatch : String → String → Except String String
  /-- `json.Unmarshal`, into a container that already has values. -/
  unmarshal : String → Container R → Except String (Container R)
  /-- `slices.SortFunc`, by name. -/
  sortFunc : List (SidecarProfile R L) → List (SidecarProfile R L)
  sorts : ∀ ps, Sorts nameLess ps (sortFunc ps)

/-- The objects the webhook reads. Two profiles of one namespace have different names. -/
structure Cluster (R L : Type) where
  profiles : List (SidecarProfile R L)
  unique : (profiles.map fun p => (p.ns, p.name)).Nodup
  setupKeys : List SetupKey.CR

/-- The calls that can fail. -/
inductive Call where
  | listProfiles
  | getSetupKey
  deriving DecidableEq, Repr

inductive Err where
  | api (c : Call) (f : Fault)
  | notFound (ns name : String)
  | library (msg : String)
  | invalid (msg : String)
  deriving DecidableEq, Repr

/-- The inputs of an admission that are not part of the Pod. -/
structure Env (R L : Type) where
  cluster : Cluster R L
  fault : Call → Option Fault

/-- An admission, which works on the Pod itself. -/
abbrev M (R : Type) := Pass (Pod R) Err

/-! ### Selection -/

/-- The profiles of a namespace, which are all profiles if the namespace is empty. -/
def listProfiles (env : Env R L) (ns : String) : Except Err (List (SidecarProfile R L)) :=
  match env.fault .listProfiles with
  | some f => .error (.api .listProfiles f)
  | none => .ok (env.cluster.profiles.filter fun p => ns = "" ∨ p.ns = ns)

/-- The body of the loop over the profiles: whether the profile is for Pods with these labels. A
selector that is not there or is empty selects all. -/
def selects (lib : Libraries R L) (labels : StringMap) (p : SidecarProfile R L) :
    Except Err Bool :=
  match p.podSelector with
  | none => .ok true
  | some podSelector =>
    if lib.size podSelector = 0 then .ok true
    else do
      let selector ← (lib.labelSelectorAsSelector podSelector).mapError .library
      .ok (selector labels)

/-- The loop over the profiles. -/
def matchingProfiles (lib : Libraries R L) (labels : StringMap) :
    List (SidecarProfile R L) → Except Err (List (SidecarProfile R L))
  | [] => .ok []
  | p :: rest => do
    let selected ← selects lib labels p
    let matching ← matchingProfiles lib labels rest
    .ok (if selected then p :: matching else matching)

/-- The first profile in alphabetical order, if there is one. -/
def firstProfile (lib : Libraries R L) (ps : List (SidecarProfile R L)) :
    Option (SidecarProfile R L) :=
  if 1 < ps.length then (lib.sortFunc ps).head? else ps.head?

/-! ### The container -/

structure PodNetbirdInjector where
  managementURL : String
  clientImage : String
  deriving DecidableEq, Repr

def setupKeySecretKey : String := "setup-key"

def sidecarProfileAnnotation : String := "netbird.io/sidecar-profile"

def getSetupKey (env : Env R L) (ns name : String) : Except Err SetupKey.CR :=
  match env.fault .getSetupKey with
  | some f => .error (.api .getSetupKey f)
  | none =>
    match env.cluster.setupKeys.find? fun key => key.ns = ns ∧ key.name = name with
    | none => .error (.notFound ns name)
    | some setupKey => .ok setupKey

def PodNetbirdInjector.envVars (d : PodNetbirdInjector) (setupKey : SetupKey.CR)
    (p : SidecarProfile R L) : List (EnvVar R) :=
  [{ name := "NB_SETUP_KEY"
     valueFrom := some (.secretKeyRef (SetupKey.secretName setupKey.name) setupKeySecretKey) },
   { name := "NB_MANAGEMENT_URL", value := d.managementURL }] ++
  if p.extraDNSLabels = [] then []
  else [{ name := "NB_EXTRA_DNS_LABELS", value := join p.extraDNSLabels ',' }]

/-- The container before the override. -/
def PodNetbirdInjector.container [Inhabited R] (d : PodNetbirdInjector) (setupKey : SetupKey.CR)
    (p : SidecarProfile R L) : Container R where
  name := "netbird"
  image := d.clientImage
  env := d.envVars setupKey p
  securityContext := some ⟨["NET_ADMIN"], default⟩
  restartPolicy := none
  rest := default

/-- The override of a profile, merged into the container by way of JSON. -/
def overridden (lib : Libraries R L) (container : Container R) :
    Option (ContainerOverride R) → Except String (Container R)
  | none => .ok container
  | some containerOverride => do
    let baseJSON ← lib.marshal container
    let overrideJSON ← lib.marshalOverride containerOverride
    let mergedJSON ← lib.strategicMergePatch baseJSON overrideJSON
    lib.unmarshal mergedJSON container

/-! ### The injection -/

/-- Set the annotation, in a new map if there is none. -/
def annotate (name : String) : M R Unit := do
  Pass.modify fun pod => { pod with annotations := some (pod.annotations.getD ∅) }
  Pass.modify fun pod =>
    { pod with annotations := pod.annotations.map (·.insert sidecarProfileAnnotation name) }

/-- The switch over the mode. -/
def place (container : Container R) : InjectionMode → M R Unit
  | .sidecar =>
    Pass.modify fun pod =>
      { pod with
        initContainers := pod.initContainers ++ [{ container with restartPolicy := some .always }] }
  | .container => Pass.modify fun pod => { pod with containers := pod.containers ++ [container] }
  | .other name => Pass.throw (.invalid ("unknown injection mode " ++ name))

/-- `PodNetbirdInjector.Default`. -/
def PodNetbirdInjector.default [Inhabited R] (d : PodNetbirdInjector) (lib : Libraries R L)
    (env : Env R L) : M R Unit := do
  let pod ← Pass.read id
  let listed ← Pass.lift (listProfiles env pod.ns)
  let sidecarProfiles ← Pass.lift (matchingProfiles lib pod.labels listed)
  match firstProfile lib sidecarProfiles with
  | none => pure ()
  | some sidecarProfile => do
    let setupKey ← Pass.lift (getSetupKey env pod.ns sidecarProfile.setupKeyRef)
    let container ← Pass.lift
      ((overridden lib (d.container setupKey sidecarProfile)
        sidecarProfile.containerOverride).mapError .library)
    place container sidecarProfile.injectionMode
    annotate sidecarProfile.name

end PodWebhook

end NetbirdOperator
