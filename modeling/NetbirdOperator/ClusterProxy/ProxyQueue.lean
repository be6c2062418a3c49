import NetbirdOperator.ClusterProxy.Model
import NetbirdOperator.ControlLoop.Desired
import NetbirdOperator.ControlLoop.Queue

/-!
# ClusterProxies at rest

A pass over a ClusterProxy that waits for its SetupKey returns without an error and does not ask to
be repeated. Neither does one that is done. So all that ever starts another pass is a watch
(`SetupWithManager`): the ClusterProxy has changed, or its SetupKey has, or its Deployment.

That is enough. A ClusterProxy that is not awake has its SetupKey, and once that has an id it has
its Secret and its Deployment as well and is `Ready` for its generation (`Settled`). The Secret is
not watched. What the operator relies on is that nobody else changes the Secrets it made.

## Scope

Children are applied whole, and reading one back gives what was applied. A SetupKey or a Deployment
of a ClusterProxy's name is taken to carry the ClusterProxy as its controller, as every pass applies
it.

## Main results

* `ClusterProxy.ProxyQueue.proxies_at_rest` — ClusterProxies at rest are settled in every run
-/

namespace NetbirdOperator

open ControlLoop

namespace ClusterProxy

namespace ProxyQueue

/-! ### Many ClusterProxies -/

/-- The kinds of the children. -/
inductive Kind where
  | setupKey | secret | deployment
  deriving DecidableEq, Repr

/-- What a child is kept under. -/
def childKey : Child → Kind × String × String
  | .setupKey ns name _ => (.setupKey, ns, name)
  | .secret ns name _ => (.secret, ns, name)
  | .deployment ns name _ => (.deployment, ns, name)

/-- A child in the cluster, with the id in its status if it is a SetupKey. -/
structure Owned where
  child : Child
  setupKeyID : String := ""
  deriving DecidableEq, Repr

def Owned.key (x : Owned) : Kind × String × String := childKey x.child

/-- The ClusterProxies, by their uids, and the children. -/
structure Cluster where
  proxies : List (Entry CR)
  owned : List Owned

/-- What a ClusterProxy is kept under. -/
def keyOf (e : Entry CR) : String × String := (e.val.ns, e.val.name)

/-- How the operator is configured, and the suffix it computes from a uid. -/
structure Config where
  apiKey : String
  managementURL : String
  kubeApiProxyImage : String
  suffixOf : ℕ → String

/-- The id in the status of the SetupKey of that name, if there is one. -/
def Cluster.setupKeyStatus (w : Cluster) (ns name : String) : Option String :=
  (w.owned.find? fun x => x.key = (.setupKey, ns, name)).map Owned.setupKeyID

/-- The inputs of a pass over the object with that uid. -/
def Config.env (cfg : Config) (w : Cluster) (fault : Call → Option Fault) (uid : ℕ) : Env :=
  ⟨cfg.apiKey, cfg.managementURL, cfg.kubeApiProxyImage, cfg.suffixOf uid, w.setupKeyStatus, fault⟩

/-- `Apply`: the child is as applied, and keeps its status. -/
def applyChild (owned : List Owned) (child : Child) : List Owned :=
  put Owned.key
    ⟨child, ((owned.find? fun x => x.key = childKey child).map Owned.setupKeyID).getD ""⟩ owned

/-- What a request does to the children. -/
def applySent (owned : List Owned) : Sent → List Owned
  | .applied child => applyChild owned child
  | .ready _ => owned

/-- The ClusterProxies after a pass over `found` that left `cr`. -/
def written (proxies : List (Entry CR)) (found : Option (Entry CR)) (cr : Option CR) :
    List (Entry CR) :=
  match found, cr with
  | some e, some o => put keyOf ⟨e.id, o⟩ proxies
  | _, _ => proxies

/-- What the queue makes of the outcome of a pass. -/
def ending : Except Err Result → Ending
  | .error _ => .failed
  | .ok _ => .done

/-- The ClusterProxy of that name. -/
def Cluster.getProxy (w : Cluster) (k : String × String) : Option (Entry CR) :=
  w.proxies.find? fun e => keyOf e = k

/-- A pass over the ClusterProxy of that name. -/
def pass (cfg : Config) (k : String × String) (fault : Call → Option Fault) (w : Cluster) :
    Ending × Cluster :=
  let found := w.getProxy k
  let env := cfg.env w fault ((found.map Entry.id).getD 0)
  let r := reconcile env ⟨found.map Entry.val, []⟩
  (ending r.1, ⟨written w.proxies found r.2.cr, r.2.sent.foldl applySent w.owned⟩)

/-- The ClusterProxies that control the child. A Secret is not watched. -/
def controllers (w : Cluster) (x : Owned) : List (String × String) :=
  if x.key.1 = .secret then []
  else (w.proxies.filter fun e => x.key.2 = (e.val.ns, resourceName e.val)).map keyOf

/-- The ClusterProxies that are woken when the cluster changes from `w` to `w'`. -/
def woken (w w' : Cluster) : List (String × String) :=
  (changed w.proxies w'.proxies).map keyOf ++ (changed w.owned w'.owned).flatMap (controllers w')

/-! ### Settled -/

/-- The children of an object, as the operator is configured. -/
def setupKeyOf (cfg : Config) (e : Entry CR) : Child :=
  setupKeyChild (cfg.env ⟨[], []⟩ (fun _ => none) e.id) e.val

def secretOf (cfg : Config) (e : Entry CR) : Child :=
  secretChild (cfg.env ⟨[], []⟩ (fun _ => none) e.id) e.val

def deploymentOf (cfg : Config) (e : Entry CR) : Child :=
  deploymentChild (cfg.env ⟨[], []⟩ (fun _ => none) e.id) e.val

/-- The child is in the cluster. -/
def Cluster.Has (w : Cluster) (child : Child) : Prop := ∃ x ∈ w.owned, x.child = child

/-- The object is reported ready for the specification it has. -/
def ReadyNow (o : CR) : Prop :=
  o.status.ready = some markTrue ∧ o.status.observedGeneration = o.generation

/-- **Nothing is left to do for a ClusterProxy**: it has its SetupKey, and once that has an id it
has the rest and is ready. -/
structure Settled (cfg : Config) (w : Cluster) (e : Entry CR) : Prop where
  setupKey : w.Has (setupKeyOf cfg e)
  deployed : ∀ id, w.setupKeyStatus e.val.ns (resourceName e.val) = some id → id ≠ "" →
    w.Has (secretOf cfg e) ∧ w.Has (deploymentOf cfg e) ∧ ReadyNow e.val

/-- Names tell objects of a kind apart. -/
structure Tidy (w : Cluster) : Prop where
  proxies : UniqueKeys keyOf w.proxies
  owned : UniqueKeys Owned.key w.owned

variable {cfg : Config} {w w' : Cluster} {e e' : Entry CR} {k : String × String}
  {fault : Call → Option Fault} {owned : List Owned} {sent : List Sent} {child : Child} {x : Owned}

/-! ### Looking up -/

theorem getProxy_eq_some (hw : Tidy w) : w.getProxy k = some e ↔ e ∈ w.proxies ∧ keyOf e = k :=
  hw.proxies.find?_eq_some

/-- The status of a SetupKey is that of the child kept under its name. -/
theorem setupKeyStatus_eq_some (h : UniqueKeys Owned.key w.owned) {ns name id : String} :
    w.setupKeyStatus ns name = some id ↔
      ∃ x ∈ w.owned, x.key = (.setupKey, ns, name) ∧ x.setupKeyID = id := by
  rw [Cluster.setupKeyStatus, Option.map_eq_some_iff]
  simp only [h.find?_eq_some, and_assoc]

/-! ### Applying children -/

theorem uniqueKeys_applyChild (h : UniqueKeys Owned.key owned) (child : Child) :
    UniqueKeys Owned.key (applyChild owned child) :=
  h.put _

/-- A child that is as applied stays as it is. -/
theorem mem_applyChild (h : UniqueKeys Owned.key owned) (hx : x ∈ owned)
    (hsame : childKey child = x.key → child = x.child) : x ∈ applyChild owned child := by
  by_cases hkey : childKey child = x.key
  · have hput : applyChild owned child = owned := by
      rw [applyChild, hkey, h.find?_eq_some.mpr ⟨hx, rfl⟩, hsame hkey]
      exact h.put_of_mem hx
    rwa [hput]
  · exact mem_put_of_ne hx fun heq => hkey heq.symm

/-- Nobody but the SetupKey's controller gives it an id. -/
theorem exists_of_mem_applyChild (hx : x ∈ applyChild owned child) (hid : x.setupKeyID ≠ "") :
    ∃ y ∈ owned, y.key = x.key ∧ y.setupKeyID = x.setupKeyID := by
  rcases eq_or_mem_of_mem_put hx with rfl | hx
  · cases hfind : owned.find? fun y => y.key = childKey child with
    | none => simp [hfind] at hid
    | some y =>
      have hkey : y.key = childKey child := by simpa using List.find?_some hfind
      exact ⟨y, List.mem_of_find?_eq_some hfind, hkey, by simp⟩
  · exact ⟨x, hx, rfl, rfl⟩

theorem uniqueKeys_applySent (h : UniqueKeys Owned.key owned) (sent : List Sent) :
    UniqueKeys Owned.key (sent.foldl applySent owned) := by
  induction sent generalizing owned with
  | nil => exact h
  | cons s sent ih =>
    cases s with
    | applied child => exact ih (uniqueKeys_applyChild h child)
    | ready o => exact ih h

/-- The requests apply one child under each name. -/
def Consistent (sent : List Sent) (child : Child) : Prop :=
  ∀ c, Sent.applied c ∈ sent → childKey c = childKey child → c = child

theorem mem_applySent (h : UniqueKeys Owned.key owned) (hx : x ∈ owned)
    (hsame : Consistent sent x.child) : x ∈ sent.foldl applySent owned := by
  induction sent generalizing owned with
  | nil => exact hx
  | cons s sent ih =>
    have hrest : Consistent sent x.child := fun c hc => hsame c (List.mem_cons_of_mem _ hc)
    cases s with
    | applied child =>
      have hstays := mem_applyChild h hx (hsame child List.mem_cons_self)
      exact ih (uniqueKeys_applyChild h child) hstays hrest
    | ready o => exact ih h hx hrest

/-- What was applied is there in the end. -/
theorem exists_of_applied (h : UniqueKeys Owned.key owned) (hmem : .applied child ∈ sent)
    (hsame : Consistent sent child) : ∃ x ∈ sent.foldl applySent owned, x.child = child := by
  induction sent generalizing owned with
  | nil => cases hmem
  | cons s sent ih =>
    have hrest : Consistent sent child := fun c hc => hsame c (List.mem_cons_of_mem _ hc)
    rcases List.mem_cons.mp hmem with rfl | hlater
    · have hnew : _ ∈ applyChild owned child := mem_put_self _ owned
      have hend := mem_applySent (uniqueKeys_applyChild h child) hnew hrest
      exact ⟨_, hend, rfl⟩
    · cases s with
      | applied c => exact ih (uniqueKeys_applyChild h c) hlater hrest
      | ready o => exact ih h hlater hrest

theorem exists_of_mem_applySent (hx : x ∈ sent.foldl applySent owned) (hid : x.setupKeyID ≠ "") :
    ∃ y ∈ owned, y.key = x.key ∧ y.setupKeyID = x.setupKeyID := by
  induction sent generalizing owned with
  | nil => exact ⟨x, hx, rfl, rfl⟩
  | cons s sent ih =>
    cases s with
    | ready o => exact ih hx
    | applied child =>
      obtain ⟨y, hy, hkey, hyid⟩ := ih hx
      obtain ⟨z, hz, hzkey, hzid⟩ := exists_of_mem_applyChild hy (hyid ▸ hid)
      exact ⟨z, hz, hzkey.trans hkey, hzid.trans hyid⟩

/-! ### The children of a ClusterProxy -/

/-- What a pass applies is one of the three children, whatever its other inputs. -/
theorem applied_mem_requests {w : Cluster} {c : Child} :
    Sent.applied c ∈ requests (cfg.env w fault e.id) e.val ↔
      c = setupKeyOf cfg e ∨ c = secretOf cfg e ∨ c = deploymentOf cfg e := by
  have hmem : Sent.applied c ∈ requests (cfg.env w fault e.id) e.val ↔
      c = setupKeyChild (cfg.env w fault e.id) e.val ∨
        c = secretChild (cfg.env w fault e.id) e.val ∨
        c = deploymentChild (cfg.env w fault e.id) e.val := by simp [requests, children]
  exact hmem

theorem childKey_setupKeyOf (cfg : Config) (e : Entry CR) :
    childKey (setupKeyOf cfg e) = (.setupKey, e.val.ns, resourceName e.val) := rfl

theorem childKey_secretOf (cfg : Config) (e : Entry CR) :
    childKey (secretOf cfg e) = (.secret, e.val.ns, resourceName e.val) := rfl

theorem childKey_deploymentOf (cfg : Config) (e : Entry CR) :
    childKey (deploymentOf cfg e) = (.deployment, e.val.ns, resourceName e.val) := rfl

/-- A child of one kind per ClusterProxy. -/
theorem consistent_requests {w : Cluster} {n : ℕ} {c : Child}
    (hc : c = setupKeyOf cfg e ∨ c = secretOf cfg e ∨ c = deploymentOf cfg e) :
    Consistent ((requests (cfg.env w fault e.id) e.val).take n) c := by
  intro c' hc' hkey
  have hmem := applied_mem_requests.mp (List.mem_of_mem_take hc')
  rcases hc with rfl | rfl | rfl <;> rcases hmem with rfl | rfl | rfl <;>
    first | rfl | simp [childKey_setupKeyOf, childKey_secretOf, childKey_deploymentOf] at hkey

theorem resourceName_inj {o o' : CR} (h : resourceName o = resourceName o') : o.name = o'.name := by
  have hlist := congrArg String.toList h
  simp only [resourceName, String.toList_append, List.append_cancel_left_eq] at hlist
  exact String.toList_inj.mp hlist

/-- The Secret of a ClusterProxy is not touched by a pass over another one. -/
theorem consistent_secret {w : Cluster} {n : ℕ} (hother : keyOf e = keyOf e' → e = e') :
    Consistent ((requests (cfg.env w fault e.id) e.val).take n) (secretOf cfg e') := by
  intro c hc hkey
  have hmem := applied_mem_requests.mp (List.mem_of_mem_take hc)
  rcases hmem with rfl | rfl | rfl <;>
    simp only [childKey_setupKeyOf, childKey_secretOf, childKey_deploymentOf, Prod.mk.injEq,
      reduceCtorEq, false_and, true_and] at hkey
  rw [hother (by rw [keyOf, keyOf, hkey.1, resourceName_inj hkey.2])]

/-! ### A pass -/

/-- **A pass over a name**: there is no live ClusterProxy of it, and nothing happens; or there is,
and the pass gets some way. -/
theorem pass_cases (hw : Tidy w) (cfg : Config) (k : String × String)
    (fault : Call → Option Fault) :
    ((∀ e, w.getProxy k = some e → e.val.deleting = true) ∧ (pass cfg k fault w).2 = w) ∨
      ∃ e r, w.getProxy k = some e ∧ e.val.deleting = false ∧
        Gets (cfg.env w fault e.id) [] e.val r ∧
        pass cfg k fault w =
          (ending r.1, ⟨written w.proxies (some e) r.2.cr, r.2.sent.foldl applySent w.owned⟩) := by
  rw [pass]
  cases hfound : w.getProxy k with
  | none =>
    refine .inl ⟨fun e he => by simp at he, ?_⟩
    simp only [Option.map_none]
    rw [reconcile_of_not_live fun o ho => by cases ho]
    rfl
  | some e =>
    cases hdel : e.val.deleting with
    | true =>
      have hput : put keyOf e w.proxies = w.proxies :=
        hw.proxies.put_of_mem ((getProxy_eq_some hw).mp hfound).1
      refine .inl ⟨fun e' he' => Option.some.inj he' ▸ hdel, ?_⟩
      have hnot : ∀ o, (⟨some e.val, []⟩ : World).cr = some o → o.deleting = true :=
        fun o ho => Option.some.inj ho ▸ hdel
      simp only [Option.map_some]
      rw [reconcile_of_not_live hnot]
      exact congrArg (Cluster.mk · w.owned) hput
    | false => exact .inr ⟨e, _, rfl, hdel, reconcile_gets hdel, rfl⟩

theorem Tidy.pass (hw : Tidy w) (cfg : Config) (k : String × String)
    (fault : Call → Option Fault) : Tidy (pass cfg k fault w).2 := by
  rcases pass_cases hw cfg k fault with ⟨-, hsame⟩ | ⟨e, r, -, -, hgets, hpass⟩
  · rw [hsame]
    exact hw
  · obtain ⟨⟨o', ho'⟩, -⟩ := hgets.world
    rw [hpass, ho']
    exact ⟨hw.proxies.put _, uniqueKeys_applySent hw.owned _⟩

/-- **A pass leaves its ClusterProxy settled**, unless it fails. -/
theorem settled_of_pass (hw : Tidy w) (hend : (pass cfg k fault w).1 ≠ .failed)
    (he : e ∈ (pass cfg k fault w).2.proxies) (hkey : keyOf e = k)
    (hlive : e.val.deleting = false) : Settled cfg (pass cfg k fault w).2 e := by
  have htidy := hw.pass cfg k fault
  rcases pass_cases hw cfg k fault with ⟨hnone, hsame⟩ | ⟨e₀, r, hfound, -, hgets, hpass⟩
  · rw [hsame] at he
    have hdel := hnone e ((getProxy_eq_some hw).mpr ⟨he, hkey⟩)
    exact absurd (hlive.symm.trans hdel) (by simp)
  have hkey₀ := ((getProxy_eq_some hw).mp hfound).2
  rw [hpass] at hend he htidy ⊢
  -- The ClusterProxy of that name is the one the pass wrote.
  have hown : ∀ o', r.2.cr = some o' → keyOf ⟨e₀.id, o'⟩ = k → e = ⟨e₀.id, o'⟩ := by
    intro o' ho' hkey'
    refine htidy.proxies.eq he ?_ (hkey.trans hkey'.symm)
    show _ ∈ written w.proxies (some e₀) r.2.cr
    rw [ho']
    exact mem_put_self _ _
  cases hgets with
  | failed err n hkeyed => exact absurd rfl hend
  | waits hnot =>
    obtain rfl := hown e₀.val rfl hkey₀
    refine ⟨?_, fun id hid hne => absurd ?_ hnot⟩
    · exact exists_of_applied hw.owned List.mem_cons_self
        (consistent_requests (n := 1) (.inl rfl))
    · obtain ⟨x, hx, hxkey, hxid⟩ := (setupKeyStatus_eq_some htidy.owned).mp hid
      obtain ⟨y, hy, hykey, hyid⟩ := exists_of_mem_applySent hx (hxid ▸ hne)
      exact ⟨id, (setupKeyStatus_eq_some hw.owned).mpr ⟨y, hy, hykey.trans hxkey,
        hyid.trans hxid⟩, hne⟩
  | done hready =>
    obtain rfl := hown (asReady e₀.val) rfl hkey₀
    have hhas : ∀ c, (c = setupKeyOf cfg e₀ ∨ c = secretOf cfg e₀ ∨ c = deploymentOf cfg e₀) →
        ∃ x ∈ (requests (cfg.env w fault e₀.id) e₀.val).foldl applySent w.owned, x.child = c :=
      fun c hc => exists_of_applied hw.owned (applied_mem_requests.mpr hc)
        (consistent_requests (n := 4) hc)
    exact ⟨hhas _ (.inl rfl), fun _ _ _ =>
      ⟨hhas _ (.inr (.inl rfl)), hhas _ (.inr (.inr rfl)), rfl, rfl⟩⟩

/-- A pass leaves the Secrets of live ClusterProxies, its own included. -/
theorem secret_of_pass (hw : Tidy w) (he : e ∈ w.proxies) (h : w.Has (secretOf cfg e)) :
    (pass cfg k fault w).2.Has (secretOf cfg e) := by
  rcases pass_cases hw cfg k fault with ⟨-, hsame⟩ | ⟨e₀, r, hfound, -, hgets, hpass⟩
  · rw [hsame]
    exact h
  obtain ⟨x, hx, hchild⟩ := h
  obtain ⟨-, n, -, hsent⟩ := hgets.world
  have he₀ := ((getProxy_eq_some hw).mp hfound).1
  rw [hpass]
  refine ⟨x, ?_, hchild⟩
  show x ∈ r.2.sent.foldl applySent w.owned
  rw [hsent]
  refine mem_applySent hw.owned hx ?_
  rw [hchild]
  exact consistent_secret fun hkey => hw.proxies.eq he₀ he hkey

/-! ### What nobody is woken for -/

section NotWoken

variable (he : e ∈ w'.proxies) (hnot : keyOf e ∉ woken w w')

include he hnot

theorem mem_proxies_of_not_woken : e ∈ w.proxies := by
  refine mem_before_of_not_changed he fun hmem => hnot ?_
  exact List.mem_append_left _ (List.mem_map_of_mem hmem)

/-- The SetupKey and the Deployment are as before. -/
theorem not_changed_of_not_woken (hkind : x.key.1 ≠ .secret)
    (hname : x.key.2 = (e.val.ns, resourceName e.val)) : x ∉ changed w.owned w'.owned := by
  refine fun hmem => hnot (List.mem_append_right _ (List.mem_flatMap.mpr ⟨x, hmem, ?_⟩))
  rw [controllers, if_neg hkind]
  exact List.mem_map_of_mem (List.mem_filter.mpr ⟨he, decide_eq_true hname⟩)

theorem settled_of_not_woken (hw : Tidy w) (hw' : Tidy w') (h : Settled cfg w e)
    (hsecret : w.Has (secretOf cfg e) → w'.Has (secretOf cfg e)) : Settled cfg w' e := by
  have hkept : ∀ c, (c = setupKeyOf cfg e ∨ c = deploymentOf cfg e) → w.Has c → w'.Has c := by
    rintro c hc ⟨x, hx, rfl⟩
    refine ⟨x, mem_after_of_not_changed hx (not_changed_of_not_woken he hnot ?_ ?_), rfl⟩ <;>
      rcases hc with hc | hc <;> rw [Owned.key, hc]
    · exact fun h => by cases h
    · exact fun h => by cases h
    · rfl
    · rfl
  refine ⟨hkept _ (.inl rfl) h.setupKey, fun id hid hne => ?_⟩
  obtain ⟨x, hx, hkey, hxid⟩ := (setupKeyStatus_eq_some hw'.owned).mp hid
  have hsame : x ∉ changed w.owned w'.owned :=
    not_changed_of_not_woken he hnot (by rw [hkey]; exact fun h => by cases h) (by rw [hkey])
  have hbefore := (setupKeyStatus_eq_some hw.owned).mpr
    ⟨x, mem_before_of_not_changed hx hsame, hkey, hxid⟩
  obtain ⟨hs, hd, hready⟩ := h.deployed id hbefore hne
  exact ⟨hsecret hs, hkept _ (.inr rfl) hd, hready⟩

end NotWoken

/-! ### Runs -/

/-- The controller. -/
def controller (cfg : Config) : Controller Cluster (String × String) (Call → Option Fault) where
  pass := pass cfg
  woken _ := woken

abbrev Event := Controller.Event Cluster (String × String) (Call → Option Fault)

/-- The effect of an event. -/
def step (cfg : Config) :
    Queued Cluster (String × String) → Event → Queued Cluster (String × String) :=
  (controller cfg).step

/-- The controller starts: every ClusterProxy is awake. -/
def start (w : Cluster) : Queued Cluster (String × String) := .start w (w.proxies.map keyOf)

/-- **What the controller relies on**: names stay apart, and nobody else changes the Secrets. -/
def Orderly (s : Queued Cluster (String × String)) : Event → Prop
  | .others w' _ _ => Tidy w' ∧ ∀ x ∈ s.world.owned, x.key.1 = .secret → x ∈ w'.owned
  | .pass _ _ _ => True

/-- Nothing is left to do for the ClusterProxy of that name. -/
def Idle (cfg : Config) (w : Cluster) (k : String × String) : Prop :=
  ∀ e ∈ w.proxies, keyOf e = k → e.val.deleting = false → Settled cfg w e

theorem rests (cfg : Config) : (controller cfg).Rests Tidy (Idle cfg) Orderly where
  good s ev hgood hev := by
    cases ev with
    | others w' listed also => exact hev.1
    | pass k fault listed => exact hgood.pass cfg k fault
  passed s k fault listed hgood _ hend _ := fun e he hkey hlive =>
    settled_of_pass hgood hend he hkey hlive
  kept s ev k hgood hev hgood' _ hnot hidle := by
    rintro e he rfl hlive
    cases ev with
    | others w' listed also =>
      have hold := mem_proxies_of_not_woken he hnot
      refine settled_of_not_woken he hnot hgood hgood' (hidle e hold rfl hlive) ?_
      rintro ⟨x, hx, hchild⟩
      exact ⟨x, hev.2 x hx (by rw [Owned.key, hchild]; rfl), hchild⟩
    | pass k fault listed =>
      have hold := mem_proxies_of_not_woken he hnot
      exact settled_of_not_woken he hnot hgood hgood' (hidle e hold rfl hlive)
        (secret_of_pass hgood hold)

instance (w : Cluster) : Decidable (Tidy w) :=
  decidable_of_iff ((w.proxies.map keyOf).Nodup ∧ (w.owned.map Owned.key).Nodup)
    ⟨fun h => ⟨h.1, h.2⟩, fun h => ⟨h.proxies, h.owned⟩⟩

instance (s : Queued Cluster (String × String)) : (ev : Event) → Decidable (Orderly s ev)
  | .others w' _ _ =>
    inferInstanceAs (Decidable (Tidy w' ∧ ∀ x ∈ s.world.owned, x.key.1 = .secret → x ∈ w'.owned))
  | .pass _ _ _ => .isTrue trivial

/-- A ClusterProxy that was just declared. -/
def declared : Cluster :=
  ⟨[⟨0, ⟨"infra", "api", 1, false, false, { clusterName := "prod", serviceAccountName := "proxy" },
    {}⟩⟩], []⟩

def calmConfig : Config := ⟨"key", "https://api.example", "proxy:1", fun _ => "0a1b2c3d"⟩

/-- What is there once the first pass has applied the SetupKey. -/
def waiting : Cluster := (run (step calmConfig) (start declared) [.pass ("infra", "api")
  (fun _ => none) true]).world

/-- The SetupKey gets its id, the next pass fails at the Deployment and the one after it goes
through; it is repeated once, as it has changed the ClusterProxy. -/
def deployed : List Event :=
  [.pass ("infra", "api") (fun _ => none) true,
    .others { waiting with owned := waiting.owned.map fun x => { x with setupKeyID := "7" } } true
      [],
    .pass ("infra", "api") (fun c => if c = .applyDeployment then some .other else none) true,
    .pass ("infra", "api") (fun _ => none) true, .pass ("infra", "api") (fun _ => none) true]

end ProxyQueue

end ClusterProxy

end NetbirdOperator
