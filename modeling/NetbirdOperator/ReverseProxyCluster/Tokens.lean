import NetbirdOperator.ControlLoop.Ledger
import NetbirdOperator.ReverseProxyCluster.Cleanup
import NetbirdOperator.ReverseProxyCluster.Status

/-!
# Enrollment tokens

A proxy enrolls with a token. Three places have to agree about it: the account, which has the
token, the Secret, which has the plain token the account answered once, and the status, which has
the id. A live pass writes all three, in this order, and only while the status has no id.

So there are two ways to come apart. Once the id is on record the pass looks at neither the Secret
nor the account again, and what somebody else took away stays away (`token_usable_iff`,
`lost_secret_not_restored`). And between the first write and the last the token is in nobody's
status; a pass that gives up there leaves it in the account, the next pass mints another, and the
deletion revokes only the id on record (`tokens_revoked_iff`, `unrecorded_token_left_behind`). The
object and the tokens are a ledger, and the second is its slip.

## Main results

* `ReverseProxyCluster.reconcileLive_outcome` — every live pass has one of three outcomes
* `token_usable_iff` — when the proxy has a usable token after a pass without failures
* `tokens_revoked_iff` — the runs after which every token is revoked in the end
-/

namespace NetbirdOperator

open ControlLoop Ledger

namespace ReverseProxyCluster

open Pass

variable {env : Env} {uid : ℕ} {rpc r : CR} {w w' w₁ : World}

/-! ### Passes over one object -/

theorem step_live (hget : w.rpcs.get uid = some rpc) (hlive : rpc.deleting = false) :
    step w (.reconcile uid env) = (reconcileLive env uid rpc w).2 := by
  rw [step, reconcile, bind_of_ok (read_apply _ w), hget]
  simp [hlive]

theorem step_deleting (hget : w.rpcs.get uid = some rpc) (hdel : rpc.deleting = true) :
    step w (.reconcile uid env) = (reconcileDelete env uid rpc w).2 := by
  rw [step, reconcile, bind_of_ok (read_apply _ w), hget]
  simp [hdel]

theorem step_gone (hget : w.rpcs.get uid = none) : step w (.reconcile uid env) = w := by
  rw [step, reconcile, bind_of_ok (read_apply _ w), hget]
  rfl

theorem step_others (env : Env) (uid : ℕ) (w : World) :
    (step w (.reconcile uid env)).rpcs.delete uid = w.rpcs.delete uid :=
  reconcile_others env uid w

/-! ### What the later steps leave alone -/

/-- The two objects are one, as far as its Secret and its token go. -/
structure Bears (rpc o : CR) : Prop where
  ns : o.ns = rpc.ns
  name : o.name = rpc.name
  deleting : o.deleting = rpc.deleting
  finalizer : rpc.finalizer = true → o.finalizer = true
  token : o.status.tokenID = rpc.status.tokenID

theorem Bears.refl (rpc : CR) : Bears rpc rpc := ⟨rfl, rfl, rfl, id, rfl⟩

/-- Writes to the other fields of the status. -/
theorem Bears.of_status {st : Status} (h : Bears rpc r) (ht : st.tokenID = r.status.tokenID) :
    Bears rpc { r with status := st } :=
  { h with token := ht.trans h.token }

/-- The object stands as it does in `rpc`, and tokens and Secrets as they do in `w`. -/
structure Standing (uid : ℕ) (rpc : CR) (w w' : World) : Prop where
  own : ∃ o, w'.rpcs.get uid = some o ∧ Bears rpc o
  tokens : w'.tokens = w.tokens
  minted : w'.minted = w.minted
  secrets : w'.secrets = w.secrets

section Live

variable (hlive : rpc.deleting = false)

include hlive

theorem keeps_patch (hr : Bears rpc r) (c : Call) :
    Keeps (Standing uid rpc w) (patch env c uid r) := by
  refine (keeps_call _ _).bind fun _ => keeps_modify fun w₁ h => ?_
  obtain ⟨o, ho, -⟩ := h.own
  refine ⟨⟨r, ?_, hr⟩, h.tokens, h.minted, h.secrets⟩
  show (w₁.rpcs.put uid r).get uid = some r
  rw [Store.put_of_live (hr.deleting.trans hlive)]
  exact Store.get_update_self ho r

theorem keeps_notReady (hr : Bears rpc r) (msg : String) :
    Keeps (Standing uid rpc w) (notReady env uid r msg) := by
  refine Keeps.bind (keeps_patch hlive ?_ _) fun _ => keeps_pure _
  exact hr.of_status rfl

theorem keeps_validateDomain (hr : Bears rpc r) :
    Keeps (Standing uid rpc w) (validateDomain env uid r) := by
  rw [validateDomain]
  cases env.validate with
  | some msg => exact keeps_notReady hlive hr _
  | none =>
    refine Keeps.bind (keeps_patch hlive ?_ _) fun _ => keeps_pure _
    exact hr.of_status rfl

theorem keeps_recordDomain (hr : Bears rpc r) (id : ℕ) :
    Keeps (Standing uid rpc w) (recordDomain env uid r id) := by
  rw [recordDomain, patchDomainID]
  split
  · exact keeps_validateDomain hlive hr
  · have hr' : Bears rpc { r with status := { r.status with domainID := some id } } :=
      hr.of_status rfl
    refine Triple.bind (Q := fun r' w' => Standing uid rpc w w' ∧ Bears rpc r') ?_
      fun r' => Triple.assume fun hr' => keeps_validateDomain hlive hr'
    exact Triple.bind (keeps_patch hlive hr' _) fun _ _ h => ⟨h, hr'⟩

omit hlive in
theorem keeps_createDomain (d : Registration) :
    Keeps (Standing uid rpc w) (createDomain env d) := by
  refine (keeps_call _ _).bind fun _ => (keeps_read _).bind fun _ => ?_
  refine Keeps.bind (keeps_modify fun _ h => ?_) fun _ => keeps_pure _
  exact ⟨h.own, h.tokens, h.minted, h.secrets⟩

omit hlive in
theorem keeps_getProxyClusterByAddress (list refresh : Call) (address : String) :
    Keeps (Standing uid rpc w) (getProxyClusterByAddress env list refresh address) :=
  Triple.of_final fun _ h => ⟨h.own, h.tokens, h.minted, h.secrets⟩

omit hlive in
theorem keeps_ensureDomain (r : CR) : Keeps (Standing uid rpc w) (ensureDomain env uid r) := by
  refine (keeps_call _ _).bind fun _ => (keeps_read _).bind fun registered => ?_
  cases registered with
  | none => exact keeps_createDomain _
  | some d =>
    dsimp only
    split
    · exact keeps_pure _
    refine ((keeps_call _ _).bind fun _ => keeps_read _).bind fun owned => ?_
    cases owned with
    | true => exact keeps_throw _
    | false =>
      refine (keeps_getProxyClusterByAddress _ _ _).bind fun existing => ?_
      cases existing with
      | some _ => exact keeps_throw _
      | none =>
        refine Keeps.bind ((keeps_call _ _).bind fun _ => keeps_modify fun _ h => ?_)
          fun _ => keeps_createDomain _
        exact ⟨h.own, h.tokens, h.minted, h.secrets⟩

theorem keeps_registerDomain (hr : Bears rpc r) :
    Keeps (Standing uid rpc w) (registerDomain env uid r) := by
  refine (keeps_ensureDomain r).observe.bind fun outcome => ?_
  cases outcome with
  | ok id => exact keeps_recordDomain hlive hr id
  | error e =>
    cases e with
    | api c f => exact keeps_throw _
    | dependencyNotReady msg => exact keeps_notReady hlive hr msg

theorem keeps_awaitAddress (hr : Bears rpc r) :
    Keeps (Standing uid rpc w) (awaitAddress env uid r) := by
  rw [awaitAddress]
  cases serviceAddresses env.ingress with
  | nil =>
    refine keeps_notReady hlive ?_ _
    exact hr.of_status rfl
  | cons fa rest =>
    refine (keeps_call _ _).bind fun _ => ?_
    refine (keeps_getProxyClusterByAddress _ _ _).bind fun enrollment => ?_
    cases enrollment with
    | none =>
      refine keeps_notReady hlive ?_ _
      exact hr.of_status rfl
    | some c =>
      refine keeps_registerDomain hlive ?_
      exact hr.of_status rfl

/-- Steps 2 to 6 leave the token alone, wherever they give up. -/
theorem keeps_workload (hr : Bears rpc r) :
    Keeps (Standing uid rpc w) (do applyWorkload env r; awaitAddress env uid r) := by
  have hzone : Keeps (Standing uid rpc w) (ensureZone env r) := by
    rw [ensureZone]
    cases r.spec.zoneRef with
    | some _ => exact keeps_pure _
    | none => exact keeps_call _ _
  refine (hzone.bind fun _ => ?_).bind fun _ => keeps_awaitAddress hlive hr
  exact (keeps_call _ _).bind fun _ => keeps_call _ _

end Live

/-! ### The outcome of a live pass -/

/-- The pass gets a token from the account: the status has no id, and the pass gets that far. -/
def Mints (env : Env) (rpc : CR) : Prop :=
  rpc.status.tokenID = none ∧ env.fault .patchFinalizer = none ∧ env.fault .tokenCreate = none

/-- The object with its finalizer. -/
def withFinalizer (rpc : CR) : CR := { rpc with finalizer := true }

theorem bears_withFinalizer (rpc : CR) : Bears rpc (withFinalizer rpc) :=
  ⟨rfl, rfl, rfl, fun _ => rfl, rfl⟩

/-- The object with its finalizer and its token on record. -/
def withToken (rpc : CR) (id : ℕ) : CR :=
  { rpc with finalizer := true, status := { rpc.status with tokenID := some id } }

/-- The account with one more token, and the Secrets as they are given. -/
def mint (rpc : CR) (secrets : List Secret) (w : World) : World :=
  { w with
    tokens := w.tokens.create ⟨"k8s-" ++ rpc.ns ++ "-" ++ rpc.name⟩
    minted := w.minted ++ [w.tokens.next]
    secrets := secrets }

/-- What a live pass does about tokens. -/
inductive TokenOutcome (env : Env) (uid : ℕ) (rpc : CR) (w w' : World) : Prop
  | kept (hmint : ¬ Mints env rpc) (h : Standing uid rpc w w')
  | lost (hmint : Mints env rpc)
      (hfault : ¬ (env.fault .applySecret = none ∧ env.fault .patchToken = none))
      (secrets : List Secret) (h : Standing uid (withFinalizer rpc) (mint rpc secrets w) w')
  | recorded (hmint : Mints env rpc)
      (hcalls : env.fault .applySecret = none ∧ env.fault .patchToken = none)
      (h : Standing uid (withToken rpc w.tokens.next)
        (mint rpc (applySecret rpc w.tokens.next w.secrets) w) w')

/-- The minting itself, call by call. The object in `w` has its finalizer already. -/
theorem mintToken_cases (env : Env) (uid : ℕ) (w : World) (hnone : rpc.status.tokenID = none) :
    (∃ e, env.fault .tokenCreate ≠ none ∧ mintToken env uid (withFinalizer rpc) w = (.error e, w)) ∨
      (∃ e secrets, env.fault .tokenCreate = none ∧
        ¬ (env.fault .applySecret = none ∧ env.fault .patchToken = none) ∧
        mintToken env uid (withFinalizer rpc) w = (.error e, mint rpc secrets w)) ∨
      (env.fault .tokenCreate = none ∧
        (env.fault .applySecret = none ∧ env.fault .patchToken = none) ∧
        mintToken env uid (withFinalizer rpc) w =
          (.ok (withToken rpc w.tokens.next),
            { mint rpc (applySecret rpc w.tokens.next w.secrets) w with
              rpcs := w.rpcs.put uid (withToken rpc w.tokens.next) })) := by
  have hnone' : (withFinalizer rpc).status.tokenID = none := hnone
  rw [mintToken, hnone']
  cases hcreate : env.fault .tokenCreate with
  | some f =>
    rw [call, hcreate]
    exact Or.inl ⟨_, by simp, rfl⟩
  | none =>
    rw [call, hcreate]
    refine Or.inr ?_
    cases hsecret : env.fault .applySecret with
    | some f =>
      rw [call, hsecret]
      exact Or.inl ⟨_, w.secrets, rfl, by simp, rfl⟩
    | none =>
      rw [call, hsecret]
      cases hpatch : env.fault .patchToken with
      | some f =>
        simp only [patch, call, hpatch]
        exact Or.inl ⟨_, applySecret rpc w.tokens.next w.secrets, trivial, by simp, rfl⟩
      | none =>
        simp only [patch, call, hpatch]
        exact Or.inr ⟨trivial, ⟨trivial, trivial⟩, rfl⟩

/-- **The live pass.** Whichever of its calls fail, it leaves the tokens alone, or mints one and
records it, or mints one and loses it. -/
theorem reconcileLive_outcome (env : Env) (hlive : rpc.deleting = false)
    (hget : w.rpcs.get uid = some rpc) :
    TokenOutcome env uid rpc w (reconcileLive env uid rpc w).2 := by
  have hpatch : patch env .patchFinalizer uid (withFinalizer rpc) =
      (do call env .patchFinalizer
          Pass.modify fun w => { w with rpcs := w.rpcs.put uid (withFinalizer rpc) }) := rfl
  cases hfin : env.fault .patchFinalizer with
  | some f =>
    rw [call, hfin] at hpatch
    have hstop : reconcileLive env uid rpc w = (.error (.api .patchFinalizer f), w) :=
      bind_of_error (congrFun hpatch w)
    rw [hstop]
    refine .kept (fun h => ?_) ⟨⟨rpc, hget, .refl rpc⟩, rfl, rfl, rfl⟩
    rw [h.2.1] at hfin
    exact absurd hfin (by simp)
  | none =>
    let w₁ : World := { w with rpcs := w.rpcs.put uid (withFinalizer rpc) }
    have hget₁ : w₁.rpcs.get uid = some (withFinalizer rpc) := by
      show (w.rpcs.put uid (withFinalizer rpc)).get uid = some (withFinalizer rpc)
      rw [Store.put_of_live (o := withFinalizer rpc) hlive]
      exact Store.get_update_self hget _
    have hstart : reconcileLive env uid rpc w =
        (mintToken env uid (withFinalizer rpc) >>= fun r => do
          applyWorkload env r; awaitAddress env uid r) w₁ := by
      rw [call, hfin] at hpatch
      exact bind_of_ok (congrFun hpatch w)
    rw [hstart]
    cases htoken : rpc.status.tokenID with
    | some id =>
      have hmint : mintToken env uid (withFinalizer rpc) w₁ = (.ok (withFinalizer rpc), w₁) := by
        have htoken' : (withFinalizer rpc).status.tokenID = some id := htoken
        rw [mintToken, htoken']
        rfl
      rw [bind_of_ok hmint]
      refine .kept (fun h => absurd (htoken.symm.trans h.1) (by simp)) ?_
      refine Triple.final (keeps_workload hlive (bears_withFinalizer rpc)) ?_
      exact ⟨⟨_, hget₁, bears_withFinalizer rpc⟩, rfl, rfl, rfl⟩
    | none =>
      rcases mintToken_cases env uid w₁ htoken with
        ⟨e, hcreate, hmint⟩ | ⟨e, secrets, hcreate, hfault, hmint⟩ | ⟨hcreate, hcalls, hmint⟩
      · rw [bind_of_error hmint]
        refine .kept (fun h => hcreate h.2.2) ?_
        exact ⟨⟨_, hget₁, bears_withFinalizer rpc⟩, rfl, rfl, rfl⟩
      · rw [bind_of_error hmint]
        exact .lost ⟨htoken, hfin, hcreate⟩ hfault secrets ⟨⟨_, hget₁, .refl _⟩, rfl, rfl, rfl⟩
      · rw [bind_of_ok hmint]
        refine .recorded ⟨htoken, hfin, hcreate⟩ hcalls ?_
        have hlive' : (withToken rpc w.tokens.next).deleting = false := hlive
        refine Triple.final (keeps_workload hlive' (.refl _)) ?_
        refine ⟨⟨_, ?_, .refl _⟩, rfl, rfl, rfl⟩
        show (w₁.rpcs.put uid (withToken rpc w.tokens.next)).get uid = some _
        rw [Store.put_of_live hlive']
        exact Store.get_update_self hget₁ _

/-! ### A usable token -/

/-- What the Deployment of the object reads as its token: the plain token in the Secret it refers
to, given by the id it is the plain token of. -/
def secretToken (rpc : CR) (secrets : List Secret) : Option ℕ :=
  (secrets.find? fun s => s.ns = rpc.ns ∧ s.name = proxyResourceName rpc).map Secret.token

/-- The proxy can enroll: the Secret has the plain token of the id on record, and the account has
the token. -/
def Usable (w : World) (rpc : CR) : Prop :=
  ∃ id ∈ rpc.status.tokenID, secretToken rpc w.secrets = some id ∧ w.tokens.Has id

instance (w : World) (rpc : CR) : Decidable (Usable w rpc) :=
  inferInstanceAs (Decidable (∃ id ∈ rpc.status.tokenID, _ ∧ _))

theorem secretToken_congr {o : CR} (h : Bears rpc o) (secrets : List Secret) :
    secretToken o secrets = secretToken rpc secrets := by
  have hname : proxyResourceName o = proxyResourceName rpc :=
    congrArg ("reverseproxycluster-" ++ ·) h.name
  simp only [secretToken, h.ns, hname]

theorem secretToken_applySecret (rpc : CR) (id : ℕ) (secrets : List Secret) :
    secretToken rpc (applySecret rpc id secrets) = some id := by
  have hown : decide (rpc.ns = rpc.ns ∧ proxyResourceName rpc = proxyResourceName rpc) = true :=
    decide_eq_true ⟨rfl, rfl⟩
  rw [secretToken, applySecret, List.find?_cons, hown]
  rfl

/-- Whether the token is usable depends on nothing that `Standing` does not cover. -/
theorem Standing.usable_iff (h : Standing uid rpc w w') :
    ∃ o, w'.rpcs.get uid = some o ∧ (Usable w' o ↔ Usable w rpc) := by
  obtain ⟨o, ho, hbears⟩ := h.own
  refine ⟨o, ho, ?_⟩
  rw [Usable, Usable, hbears.token, secretToken_congr hbears, h.secrets, h.tokens]

/-- What somebody else may take out of the cluster or the account. -/
inductive Loss where
  | secret (ns name : String)
  | token (id : ℕ)

/-- The controller among the others, with losses. -/
def stepWithLoss (w : World) : Event ⊕ Loss → World
  | .inl ev => step w ev
  | .inr (.secret ns name) =>
    { w with secrets := w.secrets.filter fun s => ¬ (s.ns = ns ∧ s.name = name) }
  | .inr (.token id) => { w with tokens := w.tokens.delete id }

/-- **A usable token.** After a pass without failures over a live object, in whatever world, the
proxy has a usable token if and only if the pass found no token on record, or one that was usable
already. -/
theorem token_usable_iff (env : Env) (w : World) (uid : ℕ) (rpc : CR) (hfree : env.FaultFree)
    (hget : w.rpcs.get uid = some rpc) (hlive : rpc.live = true) :
    ∃ o, (step w (.reconcile uid env)).rpcs.get uid = some o ∧
      (Usable (step w (.reconcile uid env)) o ↔
        rpc.status.tokenID = none ∨ Usable w rpc) := by
  have hdel : rpc.deleting = false := by simpa [Object.live] using hlive
  rw [step_live hget hdel]
  cases reconcileLive_outcome env hdel hget with
  | kept hmint h =>
    obtain ⟨o, ho, hiff⟩ := h.usable_iff
    have hsome : rpc.status.tokenID ≠ none := fun hnone => hmint ⟨hnone, hfree _, hfree _⟩
    exact ⟨o, ho, hiff.trans (or_iff_right hsome).symm⟩
  | lost hmint hfault => exact absurd ⟨hfree _, hfree _⟩ hfault
  | recorded hmint hcalls h =>
    obtain ⟨o, ho, hiff⟩ := h.usable_iff
    refine ⟨o, ho, iff_of_true (hiff.mpr ?_) (Or.inl hmint.1)⟩
    exact ⟨w.tokens.next, rfl, secretToken_applySecret rpc _ _, Store.has_create_next _ _⟩

/-- An object whose first pass mints its token, and then a loss. -/
def lossRun (loss : Loss) : List (Event ⊕ Loss) :=
  [.inl (.user (.create "proxies" "a" (.plain "a.example" "apps.example"))),
    .inl (.reconcile 0 calm), .inr loss]

/-- The first pass over the object gives the proxy a usable token. -/
theorem token_usable_first :
    ∃ o ∈ (step (run step (.initial .empty [] .empty)
        [.user (.create "proxies" "a" (.plain "a.example" "apps.example"))])
        (.reconcile 0 calm)).rpcs.get 0,
      Usable (step (run step (.initial .empty [] .empty)
        [.user (.create "proxies" "a" (.plain "a.example" "apps.example"))])
        (.reconcile 0 calm)) o := by
  obtain ⟨o, ho, hiff⟩ := token_usable_iff calm
    (run step (.initial .empty [] .empty)
      [.user (.create "proxies" "a" (.plain "a.example" "apps.example"))])
    0 ⟨"proxies", "a", 1, false, false, (.plain "a.example" "apps.example"), {}⟩
    (fun _ => rfl) (by decide) rfl
  exact ⟨o, ho, hiff.mpr (Or.inl rfl)⟩

/-- **A lost Secret is not restored**, and neither is a lost token: the next pass, in which no call
fails, leaves the proxy without a usable one. -/
theorem lost_secret_not_restored :
    calm.FaultFree ∧ ∀ loss ∈ [Loss.secret "proxies" "reverseproxycluster-a", .token 0],
      ∃ rpc ∈ (run stepWithLoss (.initial .empty [] .empty) (lossRun loss)).rpcs.get 0,
        rpc.live = true ∧
        ∃ o ∈ (step (run stepWithLoss (.initial .empty [] .empty) (lossRun loss))
            (.reconcile 0 calm)).rpcs.get 0,
          ¬ Usable (step (run stepWithLoss (.initial .empty [] .empty) (lossRun loss))
            (.reconcile 0 calm)) o :=
  ⟨fun _ => rfl, by decide⟩

/-! ### Tokens on record -/

/-- The event declares no new object. -/
def NoCreate : Event → Prop
  | .user (.create _ _ _) => False
  | _ => True

/-- The condition on an event: a pass that gets a token from the account also writes the Secret
and the status. -/
def RecordsMinted (w : World) : Event → Prop
  | .reconcile uid env =>
    ∀ rpc, w.rpcs.get uid = some rpc → rpc.deleting = false → Mints env rpc →
      env.fault .applySecret = none ∧ env.fault .patchToken = none
  | _ => True

/-- There is no object but the first. -/
def Single (w : World) : Prop := ∀ o ∈ w.rpcs, o.id = 0

/-- What the object has on record, and the tokens. -/
def ledger (w : World) : Ledger ProxyToken :=
  ⟨(w.rpcs.get 0).map fun o => o.status.tokenID, w.tokens⟩

theorem ledger_of_get (hget : w.rpcs.get 0 = some rpc) :
    ledger w = ⟨some rpc.status.tokenID, w.tokens⟩ := by
  rw [ledger, hget]
  rfl

theorem ledger_of_none (hget : w.rpcs.get 0 = none) : ledger w = ⟨none, w.tokens⟩ := by
  rw [ledger, hget]
  rfl

/-- One object, which has nothing on record before the controller holds it, in an account whose
tokens since the first `n₀` are those the controller minted. -/
structure Minting (n₀ : ℕ) (w : World) : Prop where
  single : Single w
  fresh : ∀ o, w.rpcs.get 0 = some o → o.finalizer = false → o.status.tokenID = none
  le_next : n₀ ≤ w.tokens.next
  minted : ∀ t ∈ w.tokens, t.id ∈ w.minted ↔ n₀ ≤ t.id

variable {e : Event} {n₀ : ℕ}

/-- Tokens and objects are written by passes and users alone. -/
theorem step_cases (w : World) (e : Event) :
    (∃ uid env, e = .reconcile uid env) ∨ (∃ ev, e = .user ev) ∨
      (RecordsMinted w e ∧ (step w e).rpcs = w.rpcs ∧ (step w e).tokens = w.tokens ∧
        (step w e).minted = w.minted) := by
  cases e with
  | reconcile uid env => exact Or.inl ⟨uid, env, rfl⟩
  | user ev => exact Or.inr (Or.inl ⟨ev, rfl⟩)
  | enroll c =>
    rw [step]
    split <;> exact Or.inr (Or.inr ⟨trivial, rfl, rfl, rfl⟩)
  | unenroll address => exact Or.inr (Or.inr ⟨trivial, rfl, rfl, rfl⟩)
  | foreignCreate d =>
    rw [step]
    split <;> exact Or.inr (Or.inr ⟨trivial, rfl, rfl, rfl⟩)
  | foreignDelete id => exact Or.inr (Or.inr ⟨trivial, rfl, rfl, rfl⟩)

/-- The objects after a pass: the others as before, and its own only if it was there. -/
theorem exists_of_mem_reconcile {o : Entry CR} (h : o ∈ (step w (.reconcile uid env)).rpcs) :
    ∃ f ∈ w.rpcs, f.id = o.id := by
  have hothers := step_others env uid w
  by_cases hid : o.id = uid
  · rcases reconcile_cases env uid w with ⟨-, hs⟩ | ⟨rpc, hget, -⟩
    · rw [hs] at h
      exact ⟨o, h, rfl⟩
    · exact ⟨⟨uid, rpc⟩, Store.get_eq_some.mp hget, hid.symm⟩
  · exact ⟨o, (Store.mem_iff_of_delete_eq hothers hid).mp h, rfl⟩

theorem Single.step (h : Single w) (he : NoCreate e) : Single (step w e) := by
  intro o ho
  have hold : ∃ f ∈ w.rpcs, f.id = o.id := by
    rcases step_cases w e with ⟨uid, env, rfl⟩ | ⟨ev, rfl⟩ | ⟨-, hrpcs, -⟩
    · exact exists_of_mem_reconcile ho
    · refine Store.exists_of_mem_submit (fun ns name spec hev => ?_) ho
      rw [hev] at he
      exact he
    · exact ⟨o, hrpcs ▸ ho, rfl⟩
  obtain ⟨f, hf, hid⟩ := hold
  exact hid ▸ h f hf

/-- What the objects on the way to `w'` are does not matter to the tokens. -/
theorem Minting.of_tokens (h : Minting n₀ w) (hsingle : Single w')
    (hfresh : ∀ o, w'.rpcs.get 0 = some o → o.finalizer = false → o.status.tokenID = none)
    (hnext : w'.tokens.next = w.tokens.next) (htokens : ∀ t ∈ w'.tokens, t ∈ w.tokens)
    (hminted : w'.minted = w.minted) : Minting n₀ w' := by
  refine ⟨hsingle, hfresh, hnext ▸ h.le_next, fun t ht => ?_⟩
  rw [hminted]
  exact h.minted t (htokens t ht)

/-- A token more, which the controller minted. -/
theorem minted_create (h : Minting n₀ w) (secrets : List Secret) :
    ∀ t ∈ (mint rpc secrets w).tokens, t.id ∈ (mint rpc secrets w).minted ↔ n₀ ≤ t.id := by
  intro t ht
  show t.id ∈ w.minted ++ [w.tokens.next] ↔ _
  rw [List.mem_append, List.mem_singleton]
  rcases Store.mem_create.mp ht with ht | rfl
  · have hlt := Store.id_lt_next ht
    rw [← h.minted t ht]
    exact or_iff_left (by omega)
  · exact iff_of_true (Or.inr rfl) h.le_next

/-! ### Passes -/

section Live

variable (hget : w.rpcs.get 0 = some rpc) (houtcome : TokenOutcome env 0 rpc w w')

include hget houtcome

theorem Minting.live_pass (h : Minting n₀ w) (hsingle : Single w') : Minting n₀ w' := by
  -- An object that the pass leaves unheld was so before, and nothing went on its record.
  have hfresh : ∀ {r : CR} {w₁ : World}, Standing 0 r w₁ w' →
      (r.finalizer = false → r.status.tokenID = none) →
      ∀ o, w'.rpcs.get 0 = some o → o.finalizer = false → o.status.tokenID = none := by
    intro r w₁ hstand hr o ho hfin
    obtain ⟨o', ho', hbears⟩ := hstand.own
    obtain rfl := Option.some.inj (ho'.symm.trans ho)
    rw [hbears.token]
    refine hr (Bool.eq_false_iff.mpr fun hheld => ?_)
    exact absurd ((hbears.finalizer hheld).symm.trans hfin) (by simp)
  cases houtcome with
  | kept _ hstand =>
    refine h.of_tokens hsingle (hfresh hstand (h.fresh rpc hget)) ?_ ?_ hstand.minted <;>
      rw [hstand.tokens]
    exact fun _ ht => ht
  | lost _ _ secrets hstand =>
    refine ⟨hsingle, hfresh hstand fun hfin => absurd hfin (by simp [withFinalizer]), ?_, ?_⟩ <;>
      rw [hstand.tokens]
    · exact Nat.le_succ_of_le h.le_next
    · rw [hstand.minted]
      exact minted_create h secrets
  | recorded _ _ hstand =>
    refine ⟨hsingle, hfresh hstand fun hfin => absurd hfin (by simp [withToken]), ?_, ?_⟩ <;>
      rw [hstand.tokens]
    · exact Nat.le_succ_of_le h.le_next
    · rw [hstand.minted]
      exact minted_create h _

/-- **Live passes.** A token that is minted goes on record, unless a write is lost. -/
theorem live_books :
    Books (Mints env rpc → env.fault .applySecret = none ∧ env.fault .patchToken = none)
      (ledger w) (ledger w') := by
  have hafter : ∀ {r : CR} {w₁ : World}, Standing 0 r w₁ w' →
      ledger w' = ⟨some r.status.tokenID, w₁.tokens⟩ := by
    intro r w₁ hstand
    obtain ⟨o, ho, hbears⟩ := hstand.own
    rw [ledger_of_get ho, hbears.token, hstand.tokens]
  rw [ledger_of_get hget]
  cases houtcome with
  | kept hmint hstand =>
    rw [hafter hstand]
    exact Or.inl ⟨fun h => absurd h hmint, .idle⟩
  | lost hmint hfault secrets hstand =>
    rw [hafter hstand]
    exact Or.inr ⟨fun h => hfault (h hmint), .create rfl _⟩
  | recorded hmint hcalls hstand =>
    rw [hafter hstand]
    refine Or.inl ⟨fun _ => hcalls, .create rfl (fun i hi => ?_) _⟩
    exact absurd (hmint.1.symm.trans hi) (by simp)

end Live

theorem Minting.deleting_pass (h : Minting n₀ w) (hdel : rpc.deleting = true)
    (heffect : DeleteEffect 0 rpc w w') (hsingle : Single w') : Minting n₀ w' := by
  have hleft : ∀ t ∈ tokensLeft rpc w.tokens, t ∈ w.tokens :=
    fun t ht => (mem_tokensLeft.mp ht).1
  have hnext : (tokensLeft rpc w.tokens).next = w.tokens.next := next_without _ _
  cases heffect with
  | nothing => exact h
  | revoked | dropped | cleared => exact h.of_tokens hsingle h.fresh hnext hleft rfl
  | finished =>
    refine h.of_tokens hsingle (fun o ho => ?_) hnext hleft rfl
    rw [rpcs_finished hdel, Store.get_delete_self] at ho
    cases ho

/-- **Deleting passes** revoke what is on record before they let the object go. -/
theorem deleting_step (hget : w.rpcs.get 0 = some rpc) (hdel : rpc.deleting = true)
    (heffect : DeleteEffect 0 rpc w w') : Step (ledger w) (ledger w') := by
  rw [ledger_of_get hget]
  cases heffect with
  | nothing =>
    rw [ledger_of_get hget]
    exact .idle
  | revoked | dropped | cleared =>
    show Step _ ⟨(w.rpcs.get 0).map fun o => o.status.tokenID, tokensLeft rpc w.tokens⟩
    rw [hget]
    exact .remove rfl
  | finished =>
    rw [ledger_of_none (by rw [rpcs_finished hdel]; exact Store.get_delete_self _ _)]
    exact .release rfl

/-! ### Runs -/

theorem Minting.user (h : Minting n₀ w) {ev : UserEvent Spec} (he : NoCreate (.user ev)) :
    Minting n₀ (step w (.user ev)) := by
  refine h.of_tokens (h.single.step he) (fun o ho hfin => ?_) rfl (fun _ ht => ht) rfl
  have hmem : (⟨0, o⟩ : Entry CR) ∈ w.rpcs.submit {} ev := Store.get_eq_some.mp ho
  rcases Store.of_mem_submit hmem with ⟨hs, -⟩ | ⟨f, hf, -, hs, hfin', -⟩
  · rw [show o.status = {} from hs]
  · rw [show o.status = f.val.status from hs]
    exact h.fresh f.val (h.single f hf ▸ Store.get_of_mem hf) (hfin'.symm.trans hfin)

/-- **User events.** Tokens are recorded, not declared, so no user takes one off the record. -/
theorem Minting.user_step (h : Minting n₀ w) {ev : UserEvent Spec} (he : NoCreate (.user ev)) :
    Step (ledger w) (ledger (step w (.user ev))) := by
  have hsubmit : ledger (step w (.user ev)) =
      ⟨((w.rpcs.submit {} ev).get 0).map fun o => o.status.tokenID, w.tokens⟩ := rfl
  rw [hsubmit]
  have hwritten : ∀ {f : Entry CR} {o : CR}, f ∈ w.rpcs → o.status = f.val.status →
      Step (ledger w) ⟨((w.rpcs.update f.id o).get 0).map fun o => o.status.tokenID, w.tokens⟩ := by
    intro f o hf hs
    have hget : w.rpcs.get 0 = some f.val := h.single f hf ▸ Store.get_of_mem hf
    rw [h.single f hf, Store.get_update_self hget, ledger_of_get hget, Option.map_some, hs]
    exact .idle
  rcases w.rpcs.submit_cases {} ev with hs | ⟨ns, name, spec, rfl, -⟩ | ⟨f, hf, spec, -, hs⟩ |
    ⟨f, hf, -, -, hs⟩ | ⟨f, hf, -, hfin, hs⟩
  · rw [hs]
    exact .idle
  · exact he.elim
  · rw [hs]
    exact hwritten hf rfl
  · rw [hs]
    exact hwritten hf rfl
  · have hget : w.rpcs.get 0 = some f.val := h.single f hf ▸ Store.get_of_mem hf
    rw [hs, h.single f hf, Store.get_delete_self, ledger_of_get hget, h.fresh f.val hget hfin]
    exact step_release_none _

/-- **What an event does.** -/
theorem Minting.step (h : Minting n₀ w) (he : NoCreate e) :
    Minting n₀ (step w e) ∧ Books (RecordsMinted w e) (ledger w) (ledger (step w e)) := by
  have hsingle := h.single.step he
  rcases step_cases w e with ⟨uid, env, rfl⟩ | ⟨ev, rfl⟩ | ⟨hrecords, hrpcs, htokens, hminted⟩
  · rcases reconcile_cases env uid w with ⟨hnone, hs⟩ | ⟨rpc, hget, hpass⟩
    · rw [hs]
      exact ⟨h, Or.inl ⟨fun rpc hget => absurd (hnone.symm.trans hget) (by simp), .idle⟩⟩
    obtain rfl : uid = 0 := h.single _ (Store.get_eq_some.mp hget)
    rcases hpass with ⟨hdel, hs⟩ | ⟨hlive, hs⟩ <;> rw [hs] at hsingle ⊢
    · have heffect := (reconcileDelete_effect env 0 rpc w).1
      refine ⟨h.deleting_pass hdel heffect hsingle, Or.inl ⟨fun rpc' hget' hlive => ?_,
        deleting_step hget hdel heffect⟩⟩
      obtain rfl := Option.some.inj (hget.symm.trans hget')
      exact absurd (hdel.symm.trans hlive) (by simp)
    · have houtcome := reconcileLive_outcome env hlive hget
      have hiff : RecordsMinted w (.reconcile 0 env) ↔
          (Mints env rpc → env.fault .applySecret = none ∧ env.fault .patchToken = none) := by
        refine ⟨fun hrec => hrec rpc hget hlive, fun hrec rpc' hget' _ => ?_⟩
        obtain rfl := Option.some.inj (hget.symm.trans hget')
        exact hrec
      rw [Books, hiff]
      exact ⟨h.live_pass hget houtcome hsingle, live_books hget houtcome⟩
  · exact ⟨h.user he, Or.inl ⟨trivial, h.user_step he⟩⟩
  · refine ⟨?_, Or.inl ⟨hrecords, ?_⟩⟩
    · refine h.of_tokens hsingle ?_ (by rw [htokens]) (by rw [htokens]; exact fun _ ht => ht)
        hminted
      rw [hrpcs]
      exact h.fresh
    · rw [ledger, ledger, hrpcs, htokens]
      exact .idle

theorem keepsBooks (n₀ : ℕ) :
    KeepsBooks step ledger (Minting n₀) (fun _ e => NoCreate e) RecordsMinted where
  inv _ _ hw he := (hw.step he).1
  books _ _ hw he := (hw.step he).2

/-! ### Revocation -/

/-- At most one token minted for the object is live, and none once the object is gone. -/
def Revoked (w : World) : Prop :=
  (∀ t ∈ w.tokens, ∀ u ∈ w.tokens, t.id ∈ w.minted → u.id ∈ w.minted → t = u) ∧
    (w.rpcs.get 0 = none → ∀ t ∈ w.tokens, t.id ∉ w.minted)

theorem Minting.revoked_of_mirrored (h : Minting n₀ w) (hm : Mirrored n₀ (ledger w)) :
    Revoked w := by
  refine ⟨fun t ht u hu htm hum => ?_, fun hnone t ht htm => ?_⟩
  · exact hm.one t ht u hu ((h.minted t ht).mp htm) ((h.minted u hu).mp hum)
  · have hle := (h.minted t ht).mp htm
    have hlt := hm.none_left (by rw [ledger_of_none hnone]) t ht
    omega

/-- The account and one new object. -/
def declared (ns name : String) (spec : Spec) (domains : Store Registration)
    (clusters : List ProxyCluster) (tokens : Store ProxyToken) : World :=
  step (.initial domains clusters tokens) (.user (.create ns name spec))

/-- Deleting the object, and one pass without failures. -/
def removal : List Event := [.user (.delete 0), .reconcile 0 calm]

/-- After its removal the object is gone. -/
theorem get_removal (w : World) : (run step w removal).rpcs.get 0 = none := by
  show (step (step w (.user (.delete 0))) (.reconcile 0 calm)).rpcs.get 0 = none
  have hsubmit : (step w (.user (.delete 0))).rpcs = w.rpcs.submit {} (.delete 0) := rfl
  rw [Store.submit] at hsubmit
  cases hget : w.rpcs.get 0 with
  | none =>
    rw [hget] at hsubmit
    rw [step_gone (hsubmit ▸ hget), hsubmit]
    exact hget
  | some rpc =>
    rw [hget] at hsubmit
    dsimp only at hsubmit
    cases hfin : rpc.finalizer with
    | false =>
      rw [if_neg (by simp [hfin])] at hsubmit
      rw [step_gone (hsubmit ▸ Store.get_delete_self _ _), hsubmit]
      exact Store.get_delete_self _ _
    | true =>
      rw [if_pos hfin] at hsubmit
      have hget' : (step w (.user (.delete 0))).rpcs.get 0 = some { rpc with deleting := true } :=
        hsubmit ▸ Store.get_update_self hget _
      rw [step_deleting hget' rfl, (reconcileDelete_effect calm 0 _ _).2 fun _ => rfl,
        rpcs_finished rfl]
      exact Store.get_delete_self _ _

theorem minting_declared (ns name : String) (spec : Spec) (domains : Store Registration)
    (clusters : List ProxyCluster) (tokens : Store ProxyToken) :
    Minting tokens.next (declared ns name spec domains clusters tokens) := by
  refine ⟨fun o ho => ?_, fun o ho _ => ?_, Nat.le_refl _, fun t ht => ?_⟩
  · rw [List.mem_singleton.mp ho]
    rfl
  · rw [← Option.some.inj ho]
  · have hlt := Store.id_lt_next ht
    exact iff_of_false List.not_mem_nil (Nat.not_le_of_lt hlt)

theorem recordsMinted_of_inBand (he : InBand e) : RecordsMinted w e := by
  cases e with
  | reconcile uid env => exact fun _ _ _ _ => ⟨he _, he _⟩
  | _ => trivial

/-- **Revocation.** Take one object and any run of passes, any of whose calls may fail, among edits
and the deletion of the object. Every continuation without failures keeps at most one live token
for the object, and none once it is gone, if and only if each pass of the run that got a token from
the account also wrote the Secret and the status. -/
theorem tokens_revoked_iff (ns name : String) (spec : Spec) (domains : Store Registration)
    (clusters : List ProxyCluster) (tokens : Store ProxyToken) (es : List Event)
    (hes : ∀ e ∈ es, NoCreate e) :
    (∀ fs, (∀ e ∈ fs, NoCreate e ∧ InBand e) →
        Revoked (run step (declared ns name spec domains clusters tokens) (es ++ fs))) ↔
      Along es fun pre e =>
        RecordsMinted (run step (declared ns name spec domains clusters tokens) pre) e := by
  have hstart := minting_declared ns name spec domains clusters tokens
  have hkeeps := keepsBooks tokens.next
  have hrun : ∀ fs, (∀ e ∈ fs, NoCreate e) → Along (es ++ fs) fun _ e => NoCreate e :=
    fun fs hfs => along_append.mpr ⟨along_of_forall hes, along_of_forall hfs⟩
  have hminting : ∀ fs, (∀ e ∈ fs, NoCreate e) → Minting tokens.next
      (run step (declared ns name spec domains clusters tokens) (es ++ fs)) :=
    fun fs hfs => run_invariant (C := fun _ e => NoCreate e) (hrun fs hfs) hstart hkeeps.inv
  constructor
  · intro h
    by_contra hlost
    have hcreate : ∀ e ∈ removal, NoCreate e := by simp [removal, NoCreate]
    -- The deletion of the object does not reach what is off the record.
    obtain ⟨t, ht, hle, -⟩ := hkeeps.leftBehind hstart (hrun removal hcreate) rfl
      fun hrec => hlost hrec.left
    have hrevoked := h removal (by simp [removal, NoCreate, InBand, Env.FaultFree, calm])
    refine hrevoked.2 ?_ t ht (((hminting removal hcreate).minted t ht).mpr hle)
    rw [run_append]
    exact get_removal _
  · intro h fs hfs
    have hcreate : ∀ e ∈ fs, NoCreate e := fun e he => (hfs e he).1
    refine (hminting fs hcreate).revoked_of_mirrored (hkeeps.mirrored hstart (hrun fs hcreate) ?_)
    refine along_append.mpr ⟨h, fun pre e post hsplit => ?_⟩
    exact recordsMinted_of_inBand (hfs e (by rw [hsplit]; simp)).2

/-- A pass, the deletion, and the pass that carries it out leave no token. -/
theorem tokens_revoked_calm :
    Revoked (run step (declared "proxies" "a" (.plain "a.example" "apps.example") .empty [] .empty)
      ([.reconcile 0 calm] ++ removal)) := by
  refine (tokens_revoked_iff "proxies" "a" (.plain "a.example" "apps.example") .empty [] .empty
    [.reconcile 0 calm] (by simp [NoCreate])).mpr (fun pre e post hsplit => ?_) removal
    (by simp [removal, NoCreate, InBand, Env.FaultFree, calm])
  have he : e ∈ [Event.reconcile 0 calm] := by rw [hsplit]; simp
  rw [List.mem_singleton.mp he]
  exact recordsMinted_of_inBand fun _ => rfl

/-- A pass whose write of the Secret fails. -/
def secretFails : Env :=
  { calm with fault := fun c => if c = .applySecret then some .other else none }

/-- **A token left behind.** The first pass mints a token and fails to write the Secret, the second
mints another, and the deletion revokes only the second. -/
theorem unrecorded_token_left_behind :
    let w := run step
      (declared "proxies" "a" (.plain "a.example" "apps.example") .empty [] .empty)
      [.reconcile 0 secretFails, .reconcile 0 calm]
    (∃ t ∈ w.tokens, ∃ u ∈ w.tokens, t.id ∈ w.minted ∧ u.id ∈ w.minted ∧ t ≠ u) ∧
      (run step w removal).rpcs.get 0 = none ∧
      ∃ t ∈ (run step w removal).tokens, t.id ∈ (run step w removal).minted := by
  decide

end ReverseProxyCluster

end NetbirdOperator
