import NetbirdOperator.Coherence.OnRecord
import NetbirdOperator.Coherence.ReadyTruth
import NetbirdOperator.Mirror.Recovery

/-!
# A round of passes puts the account in order

For Networks, NetworkResources and ReverseProxyServices, whose objects have their entries of the
account to themselves. Passes may have failed at any call, and other clients may have created,
changed and deleted what they liked: once every live object has had a pass that went through, each
is `Ready` for its generation and has an entry of its own with what its specification asks for.

## Main results

* `ReadyTruth.restored_after_round`
-/

namespace NetbirdOperator

open ControlLoop

namespace ReadyTruth

open Mirror.PrivateKind (NoReuse Passes Restored isReady)

/-- **A round of passes puts the account in order.** Take any run, wherever its passes fail and
whatever users and other clients do in it, as long as the account gives no id out twice. Then let
there be a round: passes that go through, at least one over each live object, in any order. After
that every live object is ready for its generation, it has an entry on record that no other object
has, and the entry is there with what the specification asks for, as a pass of the round resolved
it. -/
theorem restored_after_round (kind : Kind) (a : kind.kind.A) (es fs : List kind.kind.Event)
    (hes : Along es fun pre ev => NoReuse (run kind.kind.step (kind.kind.start a) pre) ev)
    (hfs : Along fs fun pre ev =>
      Passes (run kind.kind.step (run kind.kind.step (kind.kind.start a) es) pre) ev)
    (hall : ∀ e ∈ (run kind.kind.step (kind.kind.start a) es).objects, e.val.deleting = false →
      ∃ env, .reconcile e.id env ∈ fs)
    {e : Entry (Object kind.kind.S (Mirror.Status kind.kind.R))}
    (he : e ∈ (run kind.kind.step (kind.kind.start a) (es ++ fs)).objects)
    (hlive : e.val.deleting = false) :
    isReady e.val ∧ ∃ i x, kind.kind.key e.val.status.recorded = some i ∧
      kind.kind.get (run kind.kind.step (kind.kind.start a) (es ++ fs)).account i = some x ∧
      (∃ env, .reconcile e.id env ∈ fs ∧ kind.kind.Asks env e.val i x) ∧
      ∀ e' ∈ (run kind.kind.step (kind.kind.start a) (es ++ fs)).objects,
        kind.kind.key e'.val.status.recorded = some i → e' = e := by
  rw [run_append] at he ⊢
  have howned := run_invariant (C := NoReuse) (I := Mirror.PrivateKind.Owned) hes
    (Mirror.PrivateKind.owned_start a) fun _ ev h hev => h.step ev hev
  obtain ⟨hready, i, x, hkey, hget, hasks⟩ :=
    Mirror.PrivateKind.restored_of_round howned hfs hall he hlive
  have hend := run_invariant (C := Passes) (I := Mirror.PrivateKind.Owned) hfs howned
    fun _ ev h hev => h.step ev hev.noReuse
  exact ⟨hready, i, x, hkey, hget, hasks, fun e' he' hkey' =>
    hend.exclusive e' he' e he i hkey' hkey⟩

/-- Network 7 is there, and every group is known. -/
def inNetworkSeven (fault : Mirror.Call NetworkResource.Call → Option Fault) :
    NetworkResource.Env :=
  ⟨fun _ => some (some 7), ⟨.ok, .ok, fun _ => .ok⟩, fault⟩

/-- Two resources are declared. The status of the second is lost after its resource was created. -/
def halfDone : List resourceKind.Event :=
  [.user (.create "infra" "db" (⟨⟨"lan", "infra"⟩, "db", "10.0.0.1/32", "", [], true⟩ :
      NetworkResource.Spec)),
    .user (.create "infra" "web" (⟨⟨"lan", "infra"⟩, "web", "10.0.0.2/32", "", [], true⟩ :
      NetworkResource.Spec)),
    .reconcile 0 (inNetworkSeven fun _ => none),
    .reconcile 1 (inNetworkSeven fun c => if c = .patchReady then some .other else none)]

/-- The account after that. -/
def halfDoneAccount : NetworkResource.Account :=
  (run resourceKind.step (resourceKind.start ⟨fun _ => .empty⟩) halfDone).account

/-- Then somebody changes the address of the first one. -/
def spoiled : List resourceKind.Event :=
  halfDone ++ [.account ((NetworkResource.resources 7).set halfDoneAccount
    ((halfDoneAccount.networks 7).update 0 ⟨"db", "192.168.0.1/32", none, false, []⟩))]

def round : List resourceKind.Event :=
  [.reconcile 1 (inNetworkSeven fun _ => none), .reconcile 0 (inNetworkSeven fun _ => none)]

/-- After a round the first resource has its address back. -/
theorem restored_after_round_spoiled :
    ∃ e ∈ (run resourceKind.step (resourceKind.start ⟨fun _ => .empty⟩)
        (spoiled ++ round)).objects, e.val.name = "db" ∧ isReady e.val ∧
      ∃ i x, resourceKind.get (run resourceKind.step (resourceKind.start ⟨fun _ => .empty⟩)
          (spoiled ++ round)).account i = some x ∧
        ∃ env, NetworkResource.request env e.val = .ok x := by
  have hnoReuse : Along spoiled fun pre ev =>
      NoReuse (run resourceKind.step (resourceKind.start ⟨fun _ => .empty⟩) pre) ev := by
    refine along_concat.mpr ⟨fun pre ev post hev => ?_, fun i hi => ?_⟩
    · have hmem : ev ∈ halfDone := by
        rw [hev]
        simp
      simp only [halfDone, List.mem_cons, List.not_mem_nil, or_false] at hmem
      rcases hmem with rfl | rfl | rfl | rfl <;> trivial
    · exact NetworkResource.Issued.set hi (Nat.le_refl _)
  have hall : ∀ e ∈ (run resourceKind.step (resourceKind.start ⟨fun _ => .empty⟩)
      spoiled).objects, e.val.deleting = false → ∃ env, .reconcile e.id env ∈ round := by
    intro e he _
    have hids : ∀ e ∈ (run resourceKind.step (resourceKind.start ⟨fun _ => .empty⟩)
        spoiled).objects.entries, e.id = 0 ∨ e.id = 1 := by decide +kernel
    rcases hids e he with h | h <;> rw [h]
    · exact ⟨_, List.mem_cons_of_mem _ (List.mem_singleton_self _)⟩
    · exact ⟨_, List.mem_cons_self⟩
  have hround : Along round fun pre ev => Passes (run resourceKind.step
      (run resourceKind.step (resourceKind.start ⟨fun _ => .empty⟩) spoiled) pre) ev := by
    decide +kernel
  obtain ⟨e, he, hname, hlive⟩ :
      ∃ e ∈ (run resourceKind.step (resourceKind.start ⟨fun _ => .empty⟩)
        (spoiled ++ round)).objects.entries, e.val.name = "db" ∧ e.val.deleting = false := by
    decide +kernel
  obtain ⟨hready, i, x, -, hget, ⟨env, -, hasks⟩, -⟩ := restored_after_round .resource
    ⟨fun _ => .empty⟩ spoiled round hnoReuse hround hall he hlive
  exact ⟨e, he, hname, hready, i, x, hget, env, hasks.2⟩

end ReadyTruth

end NetbirdOperator
