import Mathlib.Data.List.Infix
import NetbirdOperator.ControlLoop.Stake
import NetbirdOperator.ReverseProxyCluster.Sharing

/-!
# The last object cleans up

Custom domains and clusters are shared, and are to be dropped by the last object that uses them. A
deleting pass drops what its object has on record, and only that. So what a run leaves behind is
decided by what ties objects to registrations over the whole run: the record in a status, or, while
there is none, the declaration of a live object that a later pass would record. In the words of
`Stake`, a registration that nobody has a stake in is left behind for good.

Passes without failures keep every stake but one: a live pass that gets as far as the custom domain
overwrites what is on record with what the specification says now, so after a rename the old
registration loses its record (`renamed_domain_left_behind`). Users end stakes too, by deleting or
editing an object that declares a registration it has not recorded. `Careful` is the condition that
no event ends the last stake in something the run created or recorded, and under it nothing is left
behind.

## Main results

* `renamed_domain_left_behind` — a run that leaves a custom domain behind
* `last_object_cleans_up` — careful runs leave nothing behind
-/

namespace NetbirdOperator

open ControlLoop

namespace ReverseProxyCluster

variable {env : Env} {uid : ℕ} {rpc : CR} {w w' : World} {k : Stake Spec Status}

/-! ### Runs without outside interference -/

/-- The event is neither a failing pass nor the work of another client of the account. -/
def InBand : Event → Prop
  | .reconcile _ env => env.FaultFree
  | .foreignCreate _ => False
  | .foreignDelete _ => False
  | _ => True

/-- The run of one object: registered, renamed, registered again, and deleted. -/
def renamedRun : List Event :=
  [.user (.create "proxies" "a" (.plain "a.example" "old.example")),
    .enroll ⟨"a.example", true, 1⟩,
    .reconcile 0 calm,
    .user (.edit 0 (.plain "a.example" "new.example")),
    .reconcile 0 calm,
    .user (.delete 0),
    .reconcile 0 calm]

/-- **A custom domain left behind.** After the rename the pass records the new registration over the
old one, which nobody drops when the object goes. -/
theorem renamed_domain_left_behind :
    (∀ e ∈ renamedRun, InBand e) ∧
      (run step (.initial .empty [] .empty) renamedRun).rpcs.entries = [] ∧
      ∃ d ∈ (run step (.initial .empty [] .empty) renamedRun).domains,
        d ∈ (run step (.initial .empty [] .empty) renamedRun).created := by
  refine ⟨?_, by decide, by decide⟩
  simp [renamedRun, InBand, Env.FaultFree, calm]

/-! ### Stakes -/

/-- What ties an object to a custom-domain registration. -/
def domainStake (d : Entry Registration) : Stake Spec Status where
  declares spec := spec.domain = d.val.domain
  records status := status.domainID = some d.id

/-- What ties an object to a cluster. -/
def clusterStake (address : String) : Stake Spec Status where
  declares spec := spec.clusterAddress = address
  records status := status.clusterAddress = address

/-- What ties an object to its token. It cannot be declared. -/
def tokenStake (id : ℕ) : Stake Spec Status where
  declares _ := False
  records status := status.tokenID = some id

instance (d : Entry Registration) : DecidablePred (domainStake d).declares :=
  fun _ => inferInstanceAs (Decidable (_ = _))

instance (d : Entry Registration) : DecidablePred (domainStake d).records :=
  fun _ => inferInstanceAs (Decidable (_ = _))

instance (address : String) : DecidablePred (clusterStake address).declares :=
  fun _ => inferInstanceAs (Decidable (_ = _))

instance (address : String) : DecidablePred (clusterStake address).records :=
  fun _ => inferInstanceAs (Decidable (_ = _))

/-- The event does not end the last stake: where a user takes back a declaration that was not
recorded, or a pass that gets as far as the custom domain is about to overwrite a record that the
specification no longer agrees with, another object has a stake. -/
def KeepsStake (k : Stake Spec Status) (w : World) : Event → Prop
  | .user ev => k.KeptBy w.rpcs ev
  | .reconcile uid env =>
    ∀ o ∈ w.rpcs, o.id = uid → o.val.live = true → Reaches env w o.val →
      k.records o.val.status → ¬ k.declares o.val.spec → k.Held (w.rpcs.delete uid)
  | _ => True

instance [DecidablePred k.declares] [DecidablePred k.records] (w : World) (e : Event) :
    Decidable (KeepsStake k w e) := by
  cases e <;> dsimp only [KeepsStake] <;> infer_instance

/-- A live pass keeps a resource held under `KeepsStake`, if short of the custom domain it leaves
the record alone. -/
theorem Stage.held {H G} (h : Stage uid (Reaches env w rpc) rpc w H G w')
    (hget : w.rpcs.get uid = some rpc) (hlive : rpc.deleting = false)
    (hrecord : ∀ o, Derived (Reaches env w rpc) rpc o → ¬ Reaches env w rpc →
      k.records rpc.status → k.records o.status)
    (hkeeps : KeepsStake k w (.reconcile uid env)) (hheld : k.Held w.rpcs) : k.Held w'.rpcs := by
  refine hheld.of_others h.others fun e he hid hof => ?_
  rw [Store.val_eq_of_get hget he hid] at hof
  obtain ⟨o, ho, hder⟩ := h.own
  have hmem : (⟨uid, o⟩ : Entry CR) ∈ w'.rpcs := Store.get_eq_some.mp ho
  have hrpc : rpc.live = true := by rw [Object.live, hlive]; rfl
  by_cases hd : k.declares rpc.spec
  · have holive : o.live = true := by rw [Object.live, hder.deleting, hlive]; rfl
    exact Or.inr ⟨_, hmem, Or.inr ⟨holive, hder.spec ▸ hd⟩⟩
  have hr : k.records rpc.status := hof.resolve_right fun h => hd h.2
  by_cases hreach : Reaches env w rpc
  · exact Or.inl (hkeeps ⟨uid, rpc⟩ (Store.get_eq_some.mp hget) rfl hrpc hreach hr hd)
  · exact Or.inr ⟨_, hmem, Or.inl (hrecord o hder hreach hr)⟩

/-- A deleting pass keeps a resource held that it leaves in place because another object shares
it. -/
theorem held_of_finished (hget : w.rpcs.get uid = some rpc) (hdel : rpc.deleting = true)
    (hshared : k.records rpc.status → ∃ o ∈ w.rpcs, o.id ≠ uid ∧ k.Of o.val)
    (hheld : k.Held w.rpcs) : k.Held (finished uid rpc w).rpcs := by
  refine hheld.of_others (Store.delete_put ..) fun e he hid hof => Or.inl ?_
  rw [Store.val_eq_of_get hget he hid] at hof
  rcases hof with hr | ⟨hlive, -⟩
  · obtain ⟨o, ho, hne, hk⟩ := hshared hr
    exact ⟨o, Store.mem_delete.mpr ⟨ho, hne⟩, hk⟩
  · rw [Object.live, hdel] at hlive
    exact absurd hlive (by decide)

/-! ### Tended worlds -/

/-- Everything the run created, and every cluster at an address it recorded, has somebody with a
stake in it. -/
structure Tended (recorded : String → Prop) (w : World) : Prop where
  /-- The controller records nothing on an object before it holds it. -/
  fresh : ∀ o ∈ w.rpcs, o.val.finalizer = false → o.val.status = {}
  domains : ∀ d ∈ w.domains, d ∈ w.created → (domainStake d).Held w.rpcs
  clusters : ∀ c ∈ w.clusters, recorded c.address → (clusterStake c.address).Held w.rpcs
  tokens : ∀ t ∈ w.tokens, t.id ∈ w.minted → (tokenStake t.id).Held w.rpcs

variable {recorded : String → Prop}

theorem Tended.user (h : Tended recorded w) (hne : ∀ a, recorded a → a ≠ "") {ev : UserEvent Spec}
    (hdomain : ∀ d ∈ w.domains, d ∈ w.created → (domainStake d).KeptBy w.rpcs ev)
    (hcluster : ∀ c ∈ w.clusters, recorded c.address → (clusterStake c.address).KeptBy w.rpcs ev) :
    Tended recorded (step w (.user ev)) where
  fresh := by
    intro o ho hfin
    rcases Store.of_mem_submit ho with ⟨hs, -⟩ | ⟨f, hf, -, hs, hfin', -⟩
    · exact hs
    · rw [hs]
      exact h.fresh f hf (hfin'.symm.trans hfin)
  domains := by
    intro d hd hc
    refine (h.domains d hd hc).submit (fun o ho hfin => ?_) (hdomain d hd hc)
    rw [h.fresh o ho hfin]
    exact fun hr => Option.some_ne_none _ hr.symm
  clusters := by
    intro c hc hr
    refine (h.clusters c hc hr).submit (fun o ho hfin => ?_) (hcluster c hc hr)
    rw [h.fresh o ho hfin]
    exact fun ha => hne _ hr ha.symm
  tokens := by
    intro t ht hm
    refine (h.tokens t ht hm).submit (fun o ho hfin => ?_) ?_
    · rw [h.fresh o ho hfin]
      exact fun hr => Option.some_ne_none _ hr.symm
    · cases ev with
      | create ns name spec => trivial
      | edit uid spec => exact fun _ _ _ _ hd => hd.elim
      | delete uid => exact fun _ _ _ _ hd => hd.elim

/-- A registration that is there after a live pass and was created by the controller was there
before, or is the one the object asks for. -/
theorem DomainEffect.mem_or_wanted {domains : Store Registration}
    {created : List (Entry Registration)} {cache : ListCache ProxyCluster}
    (h : DomainEffect env uid rpc w domains created cache) {d : Entry Registration}
    (hd : d ∈ domains) (hc : d ∈ created) :
    (d ∈ w.domains ∧ d ∈ w.created) ∨ d.val = wanted rpc := by
  have hlog : ∀ {id}, d ∈ w.created ++ [⟨id, wanted rpc⟩] → d ∈ w.created ∨ d.val = wanted rpc := by
    intro id hmem
    rcases List.mem_append.mp hmem with hmem | hmem
    · exact Or.inl hmem
    · rw [List.mem_singleton.mp hmem]
      exact Or.inr rfl
  cases h with
  | unchanged hs hl => exact Or.inl ⟨hs ▸ hd, hl ▸ hc⟩
  | drop e _ hs hl =>
    rw [hs] at hd
    exact Or.inl ⟨(Store.mem_delete.mp hd).1, hl ▸ hc⟩
  | create _ hs hl =>
    rw [hs] at hd
    rcases Store.mem_create.mp hd with hd | rfl
    · exact (hlog (hl ▸ hc)).imp_left fun hc => ⟨hd, hc⟩
    · exact Or.inr rfl
  | replace e _ hs hl =>
    rw [hs] at hd
    rcases Store.mem_create.mp hd with hd | rfl
    · exact (hlog (hl ▸ hc)).imp_left fun hc => ⟨(Store.mem_delete.mp hd).1, hc⟩
    · exact Or.inr rfl

/-- The tokens after a live pass without failures. -/
theorem TokenEffect.held {id : ℕ} (h : TokenEffect uid rpc w w' id)
    (hget : w.rpcs.get uid = some rpc) (hothers : w'.rpcs.delete uid = w.rpcs.delete uid)
    (htokens : ∀ t ∈ w.tokens, t.id ∈ w.minted → (tokenStake t.id).Held w.rpcs) :
    ∀ t ∈ w'.tokens, t.id ∈ w'.minted → (tokenStake t.id).Held w'.rpcs := by
  obtain ⟨o, ho, -, hid⟩ := h.own
  have hself : (tokenStake id).Held w'.rpcs := ⟨⟨uid, o⟩, Store.get_eq_some.mp ho, Or.inl hid⟩
  intro t ht hm
  rcases h.tokens with ⟨hrec, htok, hlog⟩ | ⟨hnone, hnext, ⟨tok, htok⟩, hlog⟩
  · rw [htok] at ht
    rw [hlog] at hm
    refine (htokens t ht hm).of_others hothers fun e he heid hof => Or.inr ?_
    rw [Store.val_eq_of_get hget he heid] at hof
    obtain rfl : id = t.id := Option.some.inj (hrec.symm.trans (hof.resolve_right fun hd => hd.2))
    exact hself
  · rw [htok] at ht
    rcases Store.mem_create.mp ht with ht | rfl
    · have hlt := Store.id_lt_next ht
      rw [hlog, List.mem_append, List.mem_singleton] at hm
      have hm' : t.id ∈ w.minted := hm.resolve_right (by omega)
      refine (htokens t ht hm').of_others hothers fun e he heid hof => ?_
      rw [Store.val_eq_of_get hget he heid] at hof
      exact absurd (hnone.symm.trans (hof.resolve_right fun hd => hd.2)) (by simp)
    · rw [← hnext]
      exact hself

theorem Tended.live_pass (h : Tended recorded w) (hfree : env.FaultFree)
    (hget : w.rpcs.get uid = some rpc) (hlive : rpc.deleting = false)
    (hdomain : ∀ d ∈ w.domains, d ∈ w.created → KeepsStake (domainStake d) w (.reconcile uid env))
    (hcluster : ∀ c ∈ w.clusters, recorded c.address →
      KeepsStake (clusterStake c.address) w (.reconcile uid env)) :
    Tended recorded (reconcileLive env uid rpc w).2 := by
  have hstage := reconcileLive_effect env hlive hget
  obtain ⟨id, htoken⟩ := reconcileLive_token hfree hlive hget
  generalize (reconcileLive env uid rpc w).2 = w' at hstage htoken
  refine ⟨?_, ?_, ?_, htoken.held hget hstage.others h.tokens⟩
  · intro e he hef
    by_cases heid : e.id = uid
    · obtain ⟨o, ho, hfin, -⟩ := htoken.own
      rw [Store.val_eq_of_get ho he heid, hfin] at hef
      exact absurd hef (by decide)
    · exact h.fresh e ((Store.mem_iff_of_delete_eq hstage.others heid).mp he) hef
  · intro d hd hc
    rcases hstage.account.mem_or_wanted hd hc with ⟨hd, hc⟩ | hwanted
    · exact hstage.held hget hlive
        (fun _ hder hreach hr => (hder.domain.resolve_right hreach).trans hr) (hdomain d hd hc)
        (h.domains d hd hc)
    · obtain ⟨o, ho, hl, hdecl, -⟩ := hstage.settled_wanted hlive d.id
      exact ⟨o, ho, Or.inr ⟨hl, hdecl.trans (congrArg _ hwanted.symm)⟩⟩
  · intro c hc hr
    rw [hstage.clusters] at hc
    refine hstage.held hget hlive (fun _ hder hreach hrec => ?_) (hcluster c hc hr)
      (h.clusters c hc hr)
    exact (hder.address.resolve_right fun hR => hreach hR.1).trans hrec

theorem Tended.deleting_pass (h : Tended recorded w) (hne : ∀ a, recorded a → a ≠ "")
    (hget : w.rpcs.get uid = some rpc) (hdel : rpc.deleting = true) :
    Tended recorded (finished uid rpc w) where
  fresh := by
    intro o ho hfin
    rw [rpcs_finished hdel] at ho
    exact h.fresh o (Store.mem_delete.mp ho).1 hfin
  domains := by
    intro d hd hc
    obtain ⟨hd, hshared⟩ := mem_domainsLeft.mp hd
    refine held_of_finished hget hdel (fun hr => ?_) (h.domains d hd hc)
    obtain ⟨o, ho, hid, hlive, hs⟩ := hshared hr
    exact ⟨o, ho, hid, (sharesDomain_eq_true.mp hs).elim (fun hs => Or.inr ⟨hlive, hs⟩) Or.inl⟩
  clusters := by
    intro c hc hr
    obtain ⟨hc, hshared⟩ := mem_clustersLeft.mp hc
    refine held_of_finished hget hdel (fun hrec => ?_) (h.clusters c hc hr)
    obtain ⟨o, ho, hid, hlive, hs⟩ := hshared hrec (hne _ hr)
    refine ⟨o, ho, hid, ?_⟩
    by_contra hnot
    simp only [Stake.Of, clusterStake, not_or, not_and] at hnot
    rw [ownsCluster_eq_false.mpr ⟨hnot.2 hlive, hnot.1⟩] at hs
    exact absurd hs (by decide)
  tokens := by
    intro t ht hm
    obtain ⟨ht, hkept⟩ := mem_tokensLeft.mp ht
    exact held_of_finished hget hdel (fun hr => absurd hr hkept) (h.tokens t ht hm)

/-! ### Careful runs -/

/-- Some object had the address on record at some moment of the run. -/
def EverRecorded (w₀ : World) (es : List Event) (address : String) : Prop :=
  address ≠ "" ∧
    ∃ pre ∈ es.inits, ∃ o ∈ (run step w₀ pre).rpcs, o.val.status.clusterAddress = address

/-- A proxy enrolls at an address the run recorded only while somebody has a stake in it. -/
def EnrollsHeld (recorded : String → Prop) (w : World) : Event → Prop
  | .enroll c => recorded c.address → (clusterStake c.address).Held w.rpcs
  | _ => True

/-- **The condition on an event.** After the events `pre` of a run from `w₀`, the event does not end
the last stake in a custom domain the run created, nor in a cluster at an address it recorded, and
brings no such cluster back that nobody has a stake in. -/
def Careful (w₀ : World) (pre : List Event) (e : Event) : Prop :=
  (∀ d ∈ (run step w₀ pre).domains, d ∈ (run step w₀ pre).created →
      KeepsStake (domainStake d) (run step w₀ pre) e) ∧
    (∀ c ∈ (run step w₀ pre).clusters, EverRecorded w₀ pre c.address →
      KeepsStake (clusterStake c.address) (run step w₀ pre) e) ∧
    EnrollsHeld (EverRecorded w₀ pre) (run step w₀ pre) e

instance (w₀ : World) (es : List Event) (address : String) :
    Decidable (EverRecorded w₀ es address) :=
  inferInstanceAs (Decidable (_ ∧ _))

instance (recorded : String → Prop) [DecidablePred recorded] (w : World) (e : Event) :
    Decidable (EnrollsHeld recorded w e) := by
  cases e <;> dsimp only [EnrollsHeld] <;> infer_instance

instance (w₀ : World) (pre : List Event) (e : Event) : Decidable (Careful w₀ pre e) :=
  inferInstanceAs (Decidable (_ ∧ _ ∧ _))

theorem everRecorded_concat {w₀ : World} {es : List Event} {e : Event} {address : String}
    (h : EverRecorded w₀ (es ++ [e]) address) :
    EverRecorded w₀ es address ∨ (clusterStake address).Held (run step w₀ (es ++ [e])).rpcs := by
  obtain ⟨hne, pre, hpre, o, ho, ha⟩ := h
  rcases List.prefix_concat_iff.mp ((List.mem_inits _ _).mp hpre) with rfl | hpre
  · exact Or.inr ⟨o, ho, Or.inl ha⟩
  · exact Or.inl ⟨hne, pre, (List.mem_inits _ _).mpr hpre, o, ho, ha⟩

theorem Tended.extend {recorded' : String → Prop} (h : Tended recorded w)
    (hr : ∀ a, recorded' a → recorded a ∨ (clusterStake a).Held w.rpcs) : Tended recorded' w :=
  ⟨h.fresh, h.domains, fun c hc ha => (hr _ ha).elim (h.clusters c hc) id, h.tokens⟩

/-- **Step.** A careful event without outside interference leaves a tended world tended. -/
theorem Tended.of_event {w₀ : World} {es : List Event} {e : Event}
    (h : Tended (EverRecorded w₀ es) (run step w₀ es)) (hband : InBand e)
    (hcareful : Careful w₀ es e) :
    Tended (EverRecorded w₀ (es ++ [e])) (run step w₀ (es ++ [e])) := by
  obtain ⟨hdomain, hcluster, henroll⟩ := hcareful
  have hne : ∀ a, EverRecorded w₀ es a → a ≠ "" := fun _ ha => ha.1
  refine Tended.extend (?_ : Tended (EverRecorded w₀ es) _) fun a => everRecorded_concat
  rw [run_concat]
  cases e with
  | user ev => exact h.user hne hdomain hcluster
  | reconcile uid env =>
    rcases reconcile_cases env uid (run step w₀ es) with
      ⟨-, hs⟩ | ⟨rpc, hget, ⟨hrpc, hs⟩ | ⟨hrpc, hs⟩⟩
    · rwa [hs]
    · rw [hs, (reconcileDelete_effect env uid rpc _).2 hband]
      exact h.deleting_pass hne hget hrpc
    · rw [hs]
      exact h.live_pass hband hget hrpc hdomain hcluster
  | enroll c =>
    rw [step]
    split
    · exact h
    · refine ⟨h.fresh, h.domains, fun k hk hr => ?_, h.tokens⟩
      rcases List.mem_append.mp hk with hk | hk
      · exact h.clusters k hk hr
      · rw [List.mem_singleton.mp hk] at hr ⊢
        exact henroll hr
  | unenroll address =>
    exact ⟨h.fresh, h.domains, fun k hk => h.clusters k (List.mem_of_mem_filter hk), h.tokens⟩
  | foreignCreate r => exact hband.elim
  | foreignDelete id => exact hband.elim

/-- **The last object cleans up.** A run without failures and outside interference whose events are
all careful, and at whose end every object is gone, leaves behind no custom domain it created, no
token it minted, and no cluster at an address it recorded. -/
theorem last_object_cleans_up (domains : Store Registration) (clusters : List ProxyCluster)
    (tokens : Store ProxyToken) (es : List Event) {w₀ w : World}
    (hw₀ : w₀ = .initial domains clusters tokens) (hw : w = run step w₀ es)
    (hband : ∀ e ∈ es, InBand e) (hcareful : Along es (Careful w₀))
    (hgone : w.rpcs.entries = []) :
    (∀ d ∈ w.domains, d ∉ w.created) ∧ (∀ t ∈ w.tokens, t.id ∉ w.minted) ∧
      ∀ c ∈ w.clusters, ¬ EverRecorded w₀ es c.address := by
  have hsteps : Along es fun pre e => InBand e ∧ Careful w₀ pre e := by
    intro pre e post hes
    exact ⟨hband e (by rw [hes]; simp), hcareful pre e post hes⟩
  have hstart : Tended (EverRecorded w₀ []) (run step w₀ []) := by
    subst hw₀
    refine ⟨fun o ho => absurd ho List.not_mem_nil, fun d _ hc => absurd hc List.not_mem_nil, ?_,
      fun t _ hm => absurd hm List.not_mem_nil⟩
    rintro c - ⟨-, pre, hpre, o, ho, -⟩
    obtain rfl := List.prefix_nil.mp ((List.mem_inits _ _).mp hpre)
    exact absurd ho List.not_mem_nil
  have hend : Tended (EverRecorded w₀ es) (run step w₀ es) :=
    run_induction (I := fun es => Tended (EverRecorded w₀ es) (run step w₀ es)) hsteps hstart
      fun fs e h he => h.of_event he.1 he.2
  rw [← hw] at hend
  have hnobody : ∀ {k : Stake Spec Status}, ¬ k.Held w.rpcs := Stake.not_held_of_empty hgone
  exact ⟨fun d hd hc => hnobody (hend.domains d hd hc),
    fun t ht hm => hnobody (hend.tokens t ht hm),
    fun c hc hr => hnobody (hend.clusters c hc hr)⟩

/-- Two objects share a domain and a cluster, and are deleted one after the other. -/
def sharedRun : List Event :=
  [.user (.create "proxies" "a" (.plain "a.example" "apps.example")),
    .user (.create "proxies" "b" (.plain "a.example" "apps.example")),
    .enroll ⟨"a.example", true, 1⟩,
    .reconcile 0 calm,
    .reconcile 1 calm,
    .user (.delete 0),
    .reconcile 0 calm,
    .user (.delete 1),
    .reconcile 1 calm]

/-- The second of two objects cleans up what it shared with the first. -/
theorem last_object_cleans_up_shared :
    (run step (.initial .empty [] .empty) sharedRun).created =
        [⟨0, "apps.example", some "a.example"⟩] ∧
      ∀ d ∈ (run step (.initial .empty [] .empty) sharedRun).domains,
        d ∉ (run step (.initial .empty [] .empty) sharedRun).created :=
  ⟨by decide, (last_object_cleans_up .empty [] .empty sharedRun rfl rfl
    (by simp [sharedRun, InBand, Env.FaultFree, calm]) (by decide) (by decide)).1⟩

end ReverseProxyCluster

end NetbirdOperator
