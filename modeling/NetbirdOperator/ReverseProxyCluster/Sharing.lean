import NetbirdOperator.ReverseProxyCluster.Effects

/-!
# Sharing custom domains and clusters

Two guard rails of the ReverseProxyCluster controller, for every interleaving of passes with user
edits, enrollments and other clients of the account, and whichever calls fail.

The first is about taking away: a pass never deletes what another live object uses. The one
exception is a registration that points at a cluster nobody has, which `ensureDomain` repairs.

The second is about fighting: objects that declare one domain do not take turns in re-pointing it.
A registration that points at the address of a live object declaring its domain is *settled*; a
settled registration stays for as long as specifications stay, and everything a pass creates is
settled. So each domain sees at most one creation.

## Main results

* `reconcile_keeps_shared` — what a pass may take away from others
* `registrations_settle` — at most one creation per domain, and settled registrations stay
-/

namespace NetbirdOperator

open ControlLoop

namespace ReverseProxyCluster

variable {env : Env} {uid : ℕ} {rpc : CR} {w w' : World}

/-! ### Taking away -/

theorem ownsCluster_eq_false {target : String} {o : CR} :
    ownsCluster target o = false ↔
      o.spec.clusterAddress ≠ target ∧ o.status.clusterAddress ≠ target := by
  simp [ownsCluster]

theorem sharesDomain_eq_true {d : Entry Registration} {o : CR} :
    sharesDomain d o = true ↔ o.spec.domain = d.val.domain ∨ o.status.domainID = some d.id := by
  simp [sharesDomain]

/-- What a live pass takes away is stale. -/
theorem DomainEffect.stale_of_lost {domains : Store Registration}
    {created : List (Entry Registration)} {cache : ListCache ProxyCluster}
    (h : DomainEffect env uid rpc w domains created cache) {d : Entry Registration}
    (hd : d ∈ w.domains) (hlost : d ∉ domains) : Stale env uid rpc w cache d := by
  cases h with
  | unchanged hs _ => exact absurd (hs ▸ hd) hlost
  | create _ hs _ => exact absurd (hs ▸ Store.mem_create.mpr (Or.inl hd)) hlost
  | drop e hstale hs _ =>
    rw [hs] at hlost
    have hid := Store.id_eq_of_not_mem_delete hd hlost
    rwa [Store.eq_of_id_eq hd hstale.mem hid]
  | replace e hstale hs _ =>
    rw [hs, Store.mem_create, not_or] at hlost
    have hid := Store.id_eq_of_not_mem_delete hd hlost.1
    rwa [Store.eq_of_id_eq hd hstale.mem hid]

/-- What a deleting pass takes away from the custom domains, no other live object shares. -/
theorem DeleteEffect.unshared_of_lost (h : DeleteEffect uid rpc w w') {d : Entry Registration}
    (hd : d ∈ w.domains) (hlost : d ∉ w'.domains) {o : Entry CR} (ho : o ∈ w.rpcs)
    (hid : o.id ≠ uid) (hlive : o.val.live = true) : sharesDomain d o.val = false := by
  have key : d ∉ domainsLeft uid rpc w.rpcs w.domains → sharesDomain d o.val = false := by
    intro hleft
    rw [mem_domainsLeft] at hleft
    by_contra hshared
    exact hleft ⟨hd, fun _ => ⟨o, ho, hid, hlive, by simpa using hshared⟩⟩
  cases h with
  | nothing => exact absurd hd hlost
  | revoked => exact absurd hd hlost
  | dropped => exact key hlost
  | cleared => exact key hlost
  | finished => exact key hlost

/-- Nor does it take away a cluster another live object owns. -/
theorem DeleteEffect.unowned_of_lost (h : DeleteEffect uid rpc w w') {c : ProxyCluster}
    (hc : c ∈ w.clusters) (hlost : c ∉ w'.clusters) {o : Entry CR} (ho : o ∈ w.rpcs)
    (hid : o.id ≠ uid) (hlive : o.val.live = true) : ownsCluster c.address o.val = false := by
  have key : c ∉ clustersLeft uid rpc w.rpcs w.clusters → ownsCluster c.address o.val = false := by
    intro hleft
    rw [mem_clustersLeft] at hleft
    by_contra howned
    exact hleft ⟨hc, fun _ _ => ⟨o, ho, hid, hlive, by simpa using howned⟩⟩
  cases h with
  | nothing => exact absurd hc hlost
  | revoked => exact absurd hc hlost
  | dropped => exact absurd hc hlost
  | cleared => exact key hlost
  | finished => exact key hlost

/-- **What a pass may take away.** After any run, whatever fails in the pass: a registration that
another live object declares or records is only taken away by the repair of `ensureDomain`, in a
pass over a live object, and then it is `Stale`; a cluster that another live object declares or
records is never taken away. -/
theorem reconcile_keeps_shared (w₀ : World) (es : List Event) (uid : ℕ) (env : Env)
    (hw : w = run step w₀ es) (hw' : w' = step w (.reconcile uid env)) {o : Entry CR}
    (ho : o ∈ w.rpcs) (hid : o.id ≠ uid) (hlive : o.val.live = true) :
    (∀ d ∈ w.domains, d ∉ w'.domains →
      o.val.spec.domain = d.val.domain ∨ o.val.status.domainID = some d.id →
        ∃ rpc, w.rpcs.get uid = some rpc ∧ rpc.live = true ∧ Stale env uid rpc w w'.cache d) ∧
      ∀ c ∈ w.clusters, c ∉ w'.clusters →
        o.val.spec.clusterAddress ≠ c.address ∧ o.val.status.clusterAddress ≠ c.address := by
  subst hw hw'
  rcases reconcile_cases env uid (run step w₀ es) with ⟨-, hs⟩ | ⟨rpc, hget, ⟨-, hs⟩ | ⟨hrpc, hs⟩⟩
  · rw [hs]
    exact ⟨fun d hd hlost => absurd hd hlost, fun c hc hlost => absurd hc hlost⟩
  · have heffect := (reconcileDelete_effect env uid rpc (run step w₀ es)).1
    rw [← hs] at heffect
    refine ⟨fun d hd hlost hshared => ?_, fun c hc hlost => ?_⟩
    · have := heffect.unshared_of_lost hd hlost ho hid hlive
      rw [sharesDomain_eq_true.mpr hshared] at this
      exact absurd this (by decide)
    · exact ownsCluster_eq_false.mp (heffect.unowned_of_lost hc hlost ho hid hlive)
  · have heffect := reconcileLive_effect env hrpc hget
    rw [← hs] at heffect
    refine ⟨fun d hd hlost _ => ⟨rpc, hget, by rw [Object.live, hrpc]; rfl, ?_⟩,
      fun c hc hlost => ?_⟩
    · exact heffect.account.stale_of_lost hd hlost
    · rw [heffect.clusters] at hlost
      exact absurd hc hlost

/-- A pass in which nothing fails and the proxy Service has an address. -/
def calm : Env := ⟨0, [⟨.ipv4, "10.0.0.1"⟩], none, fun _ => none⟩

/-- Two objects declare one domain, which another client registered for a cluster that is gone. -/
def staleRun : List Event :=
  [.user (.create "proxies" "a" (.plain "a.example" "apps.example")),
    .user (.create "proxies" "b" (.plain "b.example" "apps.example")),
    .enroll ⟨"a.example", true, 1⟩,
    .foreignCreate ⟨"apps.example", some "gone.example"⟩]

/-- The repair does happen: the pass over the first object takes the registration away although the
second one declares its domain. -/
theorem reconcile_keeps_shared_repair :
    ∃ rpc w, w = run step (.initial .empty [] .empty) staleRun ∧
      (⟨0, "apps.example", some "gone.example"⟩ : Entry Registration) ∈ w.domains ∧
      (⟨0, "apps.example", some "gone.example"⟩ : Entry Registration) ∉
        (step w (.reconcile 0 calm)).domains ∧
      w.rpcs.get 0 = some rpc ∧ rpc.live = true ∧
      Stale calm 0 rpc w (step w (.reconcile 0 calm)).cache
        ⟨0, "apps.example", some "gone.example"⟩ := by
  have hmem : (⟨0, "apps.example", some "gone.example"⟩ : Entry Registration) ∈
      (run step (.initial .empty [] .empty) staleRun).domains := by decide
  have hlost : (⟨0, "apps.example", some "gone.example"⟩ : Entry Registration) ∉
      (step (run step (.initial .empty [] .empty) staleRun) (.reconcile 0 calm)).domains := by
    decide
  obtain ⟨rpc, hrpc⟩ := (reconcile_keeps_shared (.initial .empty [] .empty) staleRun 0 calm rfl rfl
    (o := ⟨1, "proxies", "b", 1, false, false, (.plain "b.example" "apps.example"), {}⟩)
    (by decide) (by decide) (by decide)).1 _ hmem hlost (Or.inl rfl)
  exact ⟨rpc, _, rfl, hmem, hlost, hrpc⟩

/-! ### No fighting -/

/-- At most one registration for each domain. -/
def OnePerDomain (domains : Store Registration) : Prop :=
  ∀ d ∈ domains, ∀ e ∈ domains, d.val.domain = e.val.domain → d = e

/-- The registration points at the address of a live object that declares its domain. -/
def Settled (rpcs : Store CR) (d : Entry Registration) : Prop :=
  ∃ o ∈ rpcs, o.val.live = true ∧ o.val.spec.domain = d.val.domain ∧
    o.val.spec.clusterAddress = d.val.target

/-- A list of passes, each over some uid in some environment. -/
def passes (ps : List (ℕ × Env)) : List Event := ps.map fun p => .reconcile p.1 p.2

theorem Stale.not_settled {cache : ListCache ProxyCluster} {d : Entry Registration}
    (h : Stale env uid rpc w cache d) (hget : w.rpcs.get uid = some rpc) : ¬ Settled w.rpcs d := by
  rintro ⟨o, ho, hlive, -, haddr⟩
  by_cases hid : o.id = uid
  · rw [Store.val_eq_of_get hget ho hid] at haddr
    exact h.target_ne haddr.symm
  · exact (ownsCluster_eq_false.mp (h.unowned o ho hid hlive)).1 haddr

/-- What a live pass writes to its object keeps every registration settled that is. -/
theorem Stage.settled {R H G} (h : Stage uid R rpc w H G w') (hget : w.rpcs.get uid = some rpc)
    {d : Entry Registration} (hd : Settled w.rpcs d) : Settled w'.rpcs d := by
  obtain ⟨o, ho, hlive, hdomain, haddr⟩ := hd
  by_cases hid : o.id = uid
  · obtain ⟨o', ho', hder⟩ := h.own
    have hown := Store.val_eq_of_get hget ho hid
    refine ⟨⟨uid, o'⟩, Store.get_eq_some.mp ho', ?_, ?_, ?_⟩
    · rw [Object.live, hder.deleting, ← hown]
      exact hlive
    · rw [hder.spec, ← hown]
      exact hdomain
    · rw [hder.spec, ← hown]
      exact haddr
  · exact ⟨o, (Store.mem_iff_of_delete_eq h.others hid).mpr ho, hlive, hdomain, haddr⟩

/-- The registration a live pass creates is settled. -/
theorem Stage.settled_wanted {R H G} (h : Stage uid R rpc w H G w') (hlive : rpc.deleting = false)
    (id : ℕ) : Settled w'.rpcs ⟨id, wanted rpc⟩ := by
  obtain ⟨o, ho, hder⟩ := h.own
  refine ⟨⟨uid, o⟩, Store.get_eq_some.mp ho, ?_, ?_, ?_⟩
  · rw [Object.live, hder.deleting, hlive]
    rfl
  · rw [hder.spec]
    rfl
  · rw [hder.spec]
    rfl

/-- What holds all along a run of passes over live objects: they stay live, no domain has two
registrations, and what the run created is still there, settled, one for each domain. -/
structure Settling (w₀ w : World) : Prop where
  live : ∀ o ∈ w.rpcs, o.val.deleting = false
  one : OnePerDomain w.domains
  log : ∃ new, w.created = w₀.created ++ new ∧ (new.map fun d => d.val.domain).Nodup ∧
    ∀ d ∈ new, d ∈ w.domains ∧ Settled w.rpcs d

theorem OnePerDomain.delete {domains : Store Registration} (h : OnePerDomain domains) (id : ℕ) :
    OnePerDomain (domains.delete id) :=
  fun d hd e he => h d (Store.mem_delete.mp hd).1 e (Store.mem_delete.mp he).1

theorem OnePerDomain.create {domains : Store Registration} {r : Registration}
    (h : OnePerDomain domains) (habsent : ∀ d ∈ domains, d.val.domain ≠ r.domain) :
    OnePerDomain (domains.create r) := by
  intro d hd e he hde
  rcases Store.mem_create.mp hd with hd | rfl <;> rcases Store.mem_create.mp he with he | rfl
  · exact h d hd e he hde
  · exact absurd hde (habsent d hd)
  · exact absurd hde.symm (habsent e he)
  · rfl

/-- Without the one registration of a domain there is none. -/
theorem OnePerDomain.absent_delete {domains : Store Registration} (h : OnePerDomain domains)
    {d : Entry Registration} (hd : d ∈ domains) :
    ∀ e ∈ domains.delete d.id, e.val.domain ≠ d.val.domain := by
  intro e he hde
  obtain ⟨hmem, hid⟩ := Store.mem_delete.mp he
  exact hid (congrArg Entry.id (h e hmem d hd hde))

/-- Whatever a pass does to the registrations, there stays at most one for each domain. -/
theorem DomainEffect.onePerDomain {domains : Store Registration}
    {created : List (Entry Registration)} {cache : ListCache ProxyCluster}
    (h : DomainEffect env uid rpc w domains created cache) (hone : OnePerDomain w.domains) :
    OnePerDomain domains := by
  cases h with
  | unchanged hd _ => exact hd ▸ hone
  | create habsent hd _ => exact hd ▸ hone.create habsent
  | drop d _ hd _ => exact hd ▸ hone.delete d.id
  | replace d hstale hd _ =>
    rw [hd]
    refine (hone.delete d.id).create ?_
    rw [show (wanted rpc).domain = d.val.domain from hstale.domain.symm]
    exact hone.absent_delete hstale.mem

/-- A creation is recorded as such: the new registration is settled, and the first of its domain. -/
theorem Settling.log_concat {w₀ : World} {new : List (Entry Registration)} {d : Entry Registration}
    (hnodup : (new.map fun d => d.val.domain).Nodup)
    (hnew : ∀ e ∈ new, e ∈ w'.domains ∧ Settled w'.rpcs e)
    (hfirst : ∀ e ∈ new, e.val.domain ≠ d.val.domain) (hd : d ∈ w'.domains)
    (hsettled : Settled w'.rpcs d) (hc : w'.created = w₀.created ++ new ++ [d]) :
    ∃ new, w'.created = w₀.created ++ new ∧ (new.map fun d => d.val.domain).Nodup ∧
      ∀ e ∈ new, e ∈ w'.domains ∧ Settled w'.rpcs e := by
  refine ⟨new ++ [d], by rw [hc, List.append_assoc], ?_, ?_⟩
  · rw [List.map_append, List.map_singleton, List.nodup_append]
    refine ⟨hnodup, List.nodup_singleton _, ?_⟩
    intro n hn m hm
    obtain ⟨e, he, rfl⟩ := List.mem_map.mp hn
    rw [List.mem_singleton.mp hm]
    exact hfirst e he
  · intro e he
    rcases List.mem_append.mp he with he | he
    · exact hnew e he
    · rw [List.mem_singleton.mp he]
      exact ⟨hd, hsettled⟩

/-- **Step.** A pass keeps `Settling`, and takes away nothing that is settled. -/
theorem Settling.of_pass {w₀ : World} (h : Settling w₀ w) (uid : ℕ) (env : Env) :
    Settling w₀ (step w (.reconcile uid env)) ∧
      ∀ d ∈ w.domains, Settled w.rpcs d →
        d ∈ (step w (.reconcile uid env)).domains ∧
          Settled (step w (.reconcile uid env)).rpcs d := by
  rcases reconcile_cases env uid w with ⟨-, hs⟩ | ⟨rpc, hget, ⟨hrpc, -⟩ | ⟨hrpc, hs⟩⟩
  · rw [hs]
    exact ⟨h, fun d hd hsettled => ⟨hd, hsettled⟩⟩
  · rw [h.live _ (Store.get_eq_some.mp hget)] at hrpc
    exact absurd hrpc (by decide)
  have heffect := reconcileLive_effect env hrpc hget
  rw [← hs] at heffect
  generalize step w (.reconcile uid env) = w' at heffect
  have hkept : ∀ d ∈ w.domains, Settled w.rpcs d → d ∈ w'.domains ∧ Settled w'.rpcs d := by
    intro d hd hsettled
    refine ⟨?_, heffect.settled hget hsettled⟩
    by_contra hlost
    exact (heffect.account.stale_of_lost hd hlost).not_settled hget hsettled
  refine ⟨⟨?_, heffect.account.onePerDomain h.one, ?_⟩, hkept⟩
  · intro o ho
    by_cases hid : o.id = uid
    · obtain ⟨o', ho', hder⟩ := heffect.own
      rw [Store.val_eq_of_get ho' ho hid, hder.deleting, hrpc]
    · exact h.live o ((Store.mem_iff_of_delete_eq heffect.others hid).mp ho)
  · obtain ⟨new, hlog, hnodup, hnew⟩ := h.log
    have hnew' : ∀ d ∈ new, d ∈ w'.domains ∧ Settled w'.rpcs d :=
      fun d hd => hkept d (hnew d hd).1 (hnew d hd).2
    cases heffect.account with
    | unchanged _ hc => exact ⟨new, hc.trans hlog, hnodup, hnew'⟩
    | drop d _ _ hc => exact ⟨new, hc.trans hlog, hnodup, hnew'⟩
    | create habsent hd hc =>
      refine Settling.log_concat hnodup hnew' (fun e he => habsent e (hnew e he).1) ?_
        (heffect.settled_wanted hrpc _) (by rw [hc, hlog])
      rw [hd]
      exact Store.mem_create.mpr (Or.inr rfl)
    | replace d hstale hd hc =>
      -- Nothing this run created has the domain: it would be settled, and is the stale one.
      have hfirst : ∀ e ∈ new, e.val.domain ≠ rpc.spec.domain := by
        intro e he hdomain
        obtain ⟨hmem, hsettled⟩ := hnew e he
        rw [h.one e hmem d hstale.mem (hdomain.trans hstale.domain.symm)] at hsettled
        exact hstale.not_settled hget hsettled
      refine Settling.log_concat hnodup hnew' hfirst ?_ (heffect.settled_wanted hrpc _)
        (by rw [hc, hlog])
      rw [hd]
      exact Store.mem_create.mpr (Or.inr rfl)

/-- **Run.** -/
theorem Settling.of_passes {w₀ : World} (h : Settling w₀ w) (ps : List (ℕ × Env)) :
    Settling w₀ (run step w (passes ps)) ∧
      ∀ d ∈ w.domains, Settled w.rpcs d → d ∈ (run step w (passes ps)).domains := by
  induction ps generalizing w with
  | nil => exact ⟨h, fun d hd _ => hd⟩
  | cons p ps ih =>
    obtain ⟨hstep, hkept⟩ := h.of_pass p.1 p.2
    obtain ⟨hrun, hrest⟩ := ih hstep
    exact ⟨hrun, fun d hd hs => hrest d (hkept d hd hs).1 (hkept d hd hs).2⟩

/-- **No fighting over registrations.** A run of passes over live objects whose specifications stay
as they are, from an account with at most one registration for each domain, creates at most one
registration for each domain, keeps them at most one each, and never takes away or re-points a
registration once it is settled. It makes no difference which calls fail. -/
theorem registrations_settle (w₀ : World) (hlive : ∀ o ∈ w₀.rpcs, o.val.live = true)
    (hone : OnePerDomain w₀.domains) (ps : List (ℕ × Env)) :
    OnePerDomain (run step w₀ (passes ps)).domains ∧
      (∃ new, (run step w₀ (passes ps)).created = w₀.created ++ new ∧
        ∀ domain, new.countP (fun d => d.val.domain = domain) ≤ 1) ∧
      ∀ d ∈ (run step w₀ (passes ps)).domains, Settled (run step w₀ (passes ps)).rpcs d →
        ∀ qs, d ∈ (run step w₀ (passes (ps ++ qs))).domains := by
  have hstart : Settling w₀ w₀ := by
    refine ⟨fun o ho => ?_, hone, [], by simp, List.nodup_nil, by simp⟩
    simpa [Object.live] using hlive o ho
  have hps := (hstart.of_passes ps).1
  refine ⟨hps.one, ?_, fun d hd hs qs => ?_⟩
  · obtain ⟨new, hlog, hnodup, -⟩ := hps.log
    refine ⟨new, hlog, fun domain => ?_⟩
    have hcount := List.nodup_iff_count_le_one.mp hnodup domain
    rw [List.count, List.countP_map] at hcount
    refine Nat.le_trans (Nat.le_of_eq ?_) hcount
    refine List.countP_congr fun d _ => ?_
    simp
  · rw [passes, List.map_append, run_append]
    exact (hps.of_passes qs).2 d hd hs

/-- Two objects that declare one domain settle on the address of whichever comes first. -/
theorem registrations_settle_two :
    (⟨1, "apps.example", some "a.example"⟩ : Entry Registration) ∈
      (run step (run step (.initial .empty [] .empty) staleRun)
        (passes ([(0, calm), (1, calm)] ++ [(0, calm), (1, calm)]))).domains :=
  (registrations_settle (run step (.initial .empty [] .empty) staleRun) (by decide)
    (by unfold OnePerDomain; decide) [(0, calm), (1, calm)]).2.2 _ (by decide)
    (by unfold Settled; decide) [(0, calm), (1, calm)]

end ReverseProxyCluster

end NetbirdOperator
