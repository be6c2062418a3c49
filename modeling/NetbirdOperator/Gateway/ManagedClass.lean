import NetbirdOperator.ControlLoop.Desired
import NetbirdOperator.ControlLoop.Queue
import NetbirdOperator.Gateway.Model

/-!
# The managed class

`GatewayClassReconciler` of `internal/controller/gateway_controller.go`. It accepts every
GatewayClass of the operator's controller name, and keeps the one it manages: `Start` applies it
when the operator becomes active, and a pass over its name that finds it gone applies it again. A
class of that name with another controller name cannot be taken over, since the field is immutable;
the apply fails, and `Start` only logs that.

Nothing is retried by a timer. What keeps the managed class is the watch: a class that is there is
reported when it goes. So one that was never there is not missed. If `Start` fails while there is no
class of the name, no pass will ever make up for it (`missing_after_failed_start`); in every other
case the class is there or its name is awake, in every state of every run (`classes_at_rest`).

## Main results

* `ManagedClass.classes_at_rest` — classes at rest are accepted, and the managed one is there
* `ManagedClass.missing_after_failed_start` — a failed start is final
-/

namespace NetbirdOperator

open ControlLoop

namespace ManagedClass

open Pass
open Gateway (StatusCondition)
open GatewayAPI (gatewayController)

/-! ### The source functions -/

/-- A GatewayClass. -/
structure ClassObject where
  name : String
  controllerName : String
  description : Option String
  generation : ℕ
  accepted : Option StatusCondition := none
  deriving DecidableEq, Repr

abbrev World := List ClassObject

/-- The calls of a pass that can fail. -/
inductive Call where
  | get | apply | updateStatus
  deriving DecidableEq, Repr

/-- How a pass gives up: a call fails, or the API server refuses to change a controller name. -/
inductive Err where
  | failed (call : Call) (fault : Fault)
  | immutable
  deriving DecidableEq, Repr

abbrev M := Pass World Err

abbrev call (fault : Call → Option Fault) (c : Call) : M Unit := Pass.call (fault c) (.failed c)

def getClass (w : World) (name : String) : Option ClassObject := w.find? fun gc => gc.name = name

def managedDescription : String := "NetBird reverse-proxy gateway (operator-managed)"

/-- The class as it is created. -/
def fresh (managed : String) : ClassObject :=
  ⟨managed, gatewayController, some managedDescription, 1, none⟩

/-- A class with the description applied, which is another generation. -/
def ClassObject.described (gc : ClassObject) : ClassObject :=
  { gc with description := some managedDescription, generation := gc.generation + 1 }

/-- Server-side apply of the managed class. An unchanged specification is no new generation. -/
def applyClass (managed : String) : M Unit := fun w =>
  match getClass w managed with
  | none => (.ok (), w ++ [fresh managed])
  | some gc =>
    if gc.controllerName ≠ gatewayController then (.error .immutable, w)
    else if gc.description = some managedDescription then (.ok (), w)
    else (.ok (), put ClassObject.name gc.described w)

/-- `ensure`. -/
def ensure (managed : String) (fault : Call → Option Fault) : M Unit := do
  if managed = "" then pure ()
  else
    call fault .apply
    applyClass managed

/-- The condition of an accepted class. -/
def acceptedCondition (generation : ℕ) : StatusCondition :=
  ⟨true, "Accepted", "Accepted by the NetBird reverse-proxy gateway controller", generation⟩

/-- A class as a pass accepts it. -/
def ClassObject.acceptedNow (gc : ClassObject) : ClassObject :=
  { gc with accepted := some (acceptedCondition gc.generation) }

/-- `GatewayClassReconciler.Reconcile`. -/
def reconcile (managed : String) (fault : Call → Option Fault) (name : String) : M Unit := do
  call fault .get
  let gc ← Pass.read fun w => getClass w name
  match gc with
  | none => if name = managed then ensure managed fault else pure ()
  | some gc =>
    if gc.controllerName ≠ gatewayController then pure ()
    else
      call fault .updateStatus
      Pass.modify (put ClassObject.name gc.acceptedNow)

/-- `Start`: what the operator leaves when it becomes active. A failure is only logged. -/
def start (managed : String) (fault : Call → Option Fault) (w : World) : World :=
  (ensure managed fault w).2

variable {managed name : String} {fault : Call → Option Fault} {w w' : World} {gc : ClassObject}

/-! ### What a pass does -/

/-- Every outcome of a pass over the classes of a name. -/
inductive Outcome (managed name : String) (w : World) : Except Err Unit → World → Prop
  | gaveUp (e : Err) : Outcome managed name w (.error e) w
  | absent (hnone : getClass w name = none) (hother : name = managed → managed = "") :
      Outcome managed name w (.ok ()) w
  | foreign (gc : ClassObject) (hgc : getClass w name = some gc)
      (hother : gc.controllerName ≠ gatewayController) : Outcome managed name w (.ok ()) w
  | created (hnone : getClass w name = none) (hname : name = managed) (hne : managed ≠ "") :
      Outcome managed name w (.ok ()) (w ++ [fresh managed])
  | accepted (gc : ClassObject) (hgc : getClass w name = some gc)
      (hown : gc.controllerName = gatewayController) :
      Outcome managed name w (.ok ()) (put ClassObject.name gc.acceptedNow w)

/-- Every outcome of an apply of the managed class. -/
inductive Ensured (managed : String) (w : World) : Except Err Unit → World → Prop
  | gaveUp (e : Err) : Ensured managed w (.error e) w
  | unmanaged (hempty : managed = "") : Ensured managed w (.ok ()) w
  | created (hne : managed ≠ "") (hnone : getClass w managed = none) :
      Ensured managed w (.ok ()) (w ++ [fresh managed])
  | found (gc : ClassObject) (hgc : getClass w managed = some gc) : Ensured managed w (.ok ()) w
  | described (gc : ClassObject) (hgc : getClass w managed = some gc) :
      Ensured managed w (.ok ()) (put ClassObject.name gc.described w)

theorem ensure_outcome (managed : String) (fault : Call → Option Fault) (w : World) :
    Ensured managed w (ensure managed fault w).1 (ensure managed fault w).2 := by
  rw [ensure]
  split
  · next hempty => exact .unmanaged hempty
  next hne =>
  cases happly : fault .apply with
  | some f =>
    rw [bind_of_error (call_of_some happly w)]
    exact .gaveUp _
  | none =>
    rw [bind_of_ok (call_of_none happly w), applyClass]
    cases hgc : getClass w managed with
    | none => exact .created hne hgc
    | some gc =>
      dsimp only
      split
      · exact .gaveUp _
      · split
        · exact .found gc hgc
        · exact .described gc hgc

/-- **The outcomes of a pass.** -/
theorem reconcile_outcome (managed : String) (fault : Call → Option Fault) (name : String)
    (w : World) : Outcome managed name w (reconcile managed fault name w).1
      (reconcile managed fault name w).2 := by
  rw [reconcile]
  cases hget : fault .get with
  | some f =>
    rw [bind_of_error (call_of_some hget w)]
    exact .gaveUp _
  | none =>
    rw [bind_of_ok (call_of_none hget w), bind_of_ok (read_apply _ w)]
    cases hgc : getClass w name with
    | none =>
      dsimp only
      split
      · next hname =>
        subst hname
        have hensured := ensure_outcome name fault w
        rcases hrun : ensure name fault w with ⟨r, w'⟩
        rw [hrun] at hensured
        cases hensured with
        | gaveUp e => exact .gaveUp e
        | unmanaged hempty => exact .absent hgc fun _ => hempty
        | created hne hnone => exact .created hgc rfl hne
        | found gc hgc' => exact absurd (hgc.symm.trans hgc') (by simp)
        | described gc hgc' => exact absurd (hgc.symm.trans hgc') (by simp)
      · next hname => exact .absent hgc fun h => absurd h hname
    | some gc =>
      dsimp only
      split
      · next hother => exact .foreign gc hgc hother
      · next hown =>
        cases hupdate : fault .updateStatus with
        | some f =>
          rw [bind_of_error (call_of_some hupdate w)]
          exact .gaveUp _
        | none =>
          rw [bind_of_ok (call_of_none hupdate w)]
          exact .accepted gc hgc (not_not.mp hown)

theorem getClass_eq_none : getClass w name = none ↔ name ∉ w.map ClassObject.name := by
  rw [getClass, List.find?_eq_none]
  simp

theorem mem_of_getClass (h : getClass w name = some gc) : gc ∈ w := List.mem_of_find?_eq_some h

theorem name_of_getClass (h : getClass w name = some gc) : gc.name = name := by
  simpa using List.find?_some h

theorem getClass_of_mem (hw : UniqueKeys ClassObject.name w) (h : gc ∈ w) :
    getClass w gc.name = some gc :=
  hw.find?_eq_some.mpr ⟨h, rfl⟩

/-- Writing a class that is there keeps the names. -/
theorem put_names (hgc : getClass w name = some gc) (gc' : ClassObject)
    (hname : gc'.name = gc.name) :
    (put ClassObject.name gc' w).map ClassObject.name = w.map ClassObject.name := by
  rw [map_key_put, hname, if_pos (List.mem_map_of_mem (mem_of_getClass hgc))]

/-- Adding a class under a free name keeps the names apart. -/
theorem unique_created (hw : UniqueKeys ClassObject.name w) (hnone : getClass w managed = none) :
    UniqueKeys ClassObject.name (w ++ [fresh managed]) := by
  rw [UniqueKeys, List.map_append]
  exact hw.append (List.nodup_singleton _) (by simpa [fresh] using getClass_eq_none.mp hnone)

/-- A pass keeps the names apart. -/
theorem Outcome.unique {r : Except Err Unit} (h : Outcome managed name w r w')
    (hw : UniqueKeys ClassObject.name w) : UniqueKeys ClassObject.name w' := by
  cases h with
  | gaveUp e => exact hw
  | absent hnone hother => exact hw
  | foreign gc hgc hother => exact hw
  | created hnone hname hne =>
    subst hname
    exact unique_created hw hnone
  | accepted gc hgc hown => exact hw.put _

/-- A pass leaves the classes of other controllers as they are. -/
theorem Outcome.foreign_kept {r : Except Err Unit} (h : Outcome managed name w r w')
    (hw : UniqueKeys ClassObject.name w) {other : ClassObject} (hmem : other ∈ w)
    (hforeign : other.controllerName ≠ gatewayController) : other ∈ w' := by
  cases h with
  | gaveUp e => exact hmem
  | absent hnone hother => exact hmem
  | foreign gc hgc hother => exact hmem
  | created hnone hname hne => exact List.mem_append_left _ hmem
  | accepted gc hgc hown =>
    refine mem_put_of_ne hmem fun hkey => hforeign ?_
    have hsame : other = gc := hw.eq hmem (mem_of_getClass hgc) hkey
    rw [hsame, hown]

/-- Only a pass over its own name creates the managed class. -/
theorem Outcome.absent_kept {r : Except Err Unit} (h : Outcome managed name w r w')
    (hname : name ≠ managed) (hnone : getClass w managed = none) : getClass w' managed = none := by
  cases h with
  | gaveUp e => exact hnone
  | absent hnone' hother => exact hnone
  | foreign gc hgc hother => exact hnone
  | created hnone' hsame hne => exact absurd hsame hname
  | accepted gc hgc hown =>
    rw [getClass_eq_none] at hnone ⊢
    rwa [put_names hgc gc.acceptedNow rfl]

/-! ### Runs -/

/-- What the queue makes of the outcome of a pass. -/
def ending : Except Err Unit → Ending
  | .error _ => .failed
  | .ok () => .done

/-- The controller. It watches the classes, and lists nothing. -/
def controller (managed : String) : Controller World String (Call → Option Fault) where
  pass name fault w :=
    (ending (reconcile managed fault name w).1, (reconcile managed fault name w).2)
  woken _ w w' := (changed w w').map ClassObject.name

abbrev Event := Controller.Event World String (Call → Option Fault)

/-- The operator becomes active: `Start` has run, and every class is awake. -/
def startQueue (managed : String) (fault : Call → Option Fault) (w : World) : Queued World String :=
  .start (start managed fault w) ((start managed fault w).map ClassObject.name)

/-- The state after some events. -/
def after (managed : String) (fault : Call → Option Fault) (w : World) (es : List Event) :
    Queued World String :=
  run (controller managed).step (startQueue managed fault w) es

/-- Names of classes stay apart. -/
def Orderly : Event → Prop
  | .others w _ _ => UniqueKeys ClassObject.name w
  | .pass _ _ _ => True

/-- A class of the name is accepted if it is the operator's, and is there if it is the managed one.
-/
structure Idle (managed : String) (w : World) (name : String) : Prop where
  accepted : ∀ gc, getClass w name = some gc → gc.controllerName = gatewayController →
    gc.accepted = some (acceptedCondition gc.generation)
  present : name = managed → managed ≠ "" → (getClass w name).isSome = true

theorem getClass_of_not_woken (hw : UniqueKeys ClassObject.name w)
    (hnot : name ∉ (changed w w').map ClassObject.name) : getClass w' name = getClass w name := by
  refine find?_eq_of_not_changed (fun c hc c' hc' hkey hkey' => ?_) fun c hc => ?_
  · rw [decide_eq_true_iff] at hkey hkey'
    exact hw.eq hc hc' (hkey.trans hkey'.symm)
  · exact decide_eq_false fun hkey => hnot (List.mem_map.mpr ⟨c, hc, hkey⟩)

theorem Idle.of_not_woken (hw : UniqueKeys ClassObject.name w)
    (hnot : name ∉ (changed w w').map ClassObject.name) (h : Idle managed w name) :
    Idle managed w' name := by
  have hsame := getClass_of_not_woken hw hnot
  exact ⟨fun gc => hsame ▸ h.accepted gc, fun hname hne => hsame ▸ h.present hname hne⟩

/-- A pass that does not fail and whose writes wake nobody has left nothing to do. -/
theorem Outcome.idle (hw : UniqueKeys ClassObject.name w) (h : Outcome managed name w (.ok ()) w')
    (hnot : name ∉ (changed w w').map ClassObject.name) : Idle managed w' name := by
  have hchanged : ∀ c, c.name = name → c ∈ w' → c ∈ w := fun c hname hmem =>
    mem_before_of_not_changed hmem fun hc => hnot (List.mem_map.mpr ⟨c, hc, hname⟩)
  refine Idle.of_not_woken hw hnot ?_
  cases h with
  | absent hnone hother =>
    exact ⟨fun gc hgc => absurd (hnone.symm.trans hgc) (by simp),
      fun hname hne => absurd (hother hname) hne⟩
  | foreign gc hgc hother =>
    refine ⟨fun gc' hgc' hown => ?_, fun _ _ => by rw [hgc]; rfl⟩
    obtain rfl := Option.some.inj (hgc.symm.trans hgc')
    exact absurd hown hother
  | created hnone hname hne =>
    have hmem := hchanged (fresh managed) hname.symm
      (List.mem_append_right _ (List.mem_singleton_self _))
    exact absurd (hname ▸ List.mem_map_of_mem hmem) (getClass_eq_none.mp hnone)
  | accepted gc hgc hown =>
    -- The condition that was written was there already.
    have hname := name_of_getClass hgc
    have hmem := hchanged gc.acceptedNow hname (mem_put_self _ _)
    have hsame : gc.acceptedNow = gc := hw.eq hmem (mem_of_getClass hgc) rfl
    refine ⟨fun gc' hgc' _ => ?_, fun _ _ => by rw [hgc]; rfl⟩
    obtain rfl := Option.some.inj (hgc.symm.trans hgc')
    exact (congrArg ClassObject.accepted hsame).symm

/-- The classes come to rest. -/
theorem rests (managed : String) :
    (controller managed).Rests (UniqueKeys ClassObject.name) (Idle managed) fun _ => Orderly where
  good s e hw he := by
    cases e with
    | others w listed also => exact he
    | pass name fault listed => exact (reconcile_outcome managed fault name s.world).unique hw
  passed s name fault listed hw _ hend hnot := by
    have houtcome := reconcile_outcome managed fault name s.world
    rcases hrun : reconcile managed fault name s.world with ⟨r, w'⟩
    simp only [controller, hrun] at houtcome hend ⊢
    cases r with
    | error e => exact absurd rfl hend
    | ok _ =>
      refine houtcome.idle hw ?_
      simpa only [Controller.wakes, Controller.after, controller, hrun] using hnot
  kept s e name hw _ _ _ hnot hidle := by
    cases e with
    | others w listed also => exact hidle.of_not_woken hw hnot
    | pass name' fault listed => exact hidle.of_not_woken hw hnot

theorem Ensured.unique {r : Except Err Unit} (h : Ensured managed w r w')
    (hw : UniqueKeys ClassObject.name w) : UniqueKeys ClassObject.name w' := by
  cases h with
  | gaveUp e => exact hw
  | unmanaged hempty => exact hw
  | created hne hnone => exact unique_created hw hnone
  | found gc hgc => exact hw
  | described gc hgc => exact hw.put _

/-- An apply that succeeds leaves a class of the name, and any apply keeps one. -/
theorem Ensured.present {r : Except Err Unit} (h : Ensured managed w r w') (hne : managed ≠ "")
    (hsome : r = .ok () ∨ managed ∈ w.map ClassObject.name) :
    managed ∈ w'.map ClassObject.name := by
  cases h with
  | gaveUp e => exact hsome.resolve_left (by simp)
  | unmanaged hempty => exact absurd hempty hne
  | created _ hnone => simp [fresh]
  | found gc hgc => exact List.mem_map.mpr ⟨gc, mem_of_getClass hgc, name_of_getClass hgc⟩
  | described gc hgc =>
    rw [put_names hgc gc.described rfl]
    exact List.mem_map.mpr ⟨gc, mem_of_getClass hgc, name_of_getClass hgc⟩

/-- The operator starts with every class awake. -/
theorem atRest_start (hsome : (ensure managed fault w).1 = .ok () ∨
    managed ∈ w.map ClassObject.name) : AtRest (Idle managed) (startQueue managed fault w) := by
  intro name hname
  refine ⟨fun gc hgc => absurd ?_ hname, ?_⟩
  · exact List.mem_map.mpr ⟨gc, mem_of_getClass hgc, name_of_getClass hgc⟩
  · rintro rfl hne
    exact absurd ((ensure_outcome name fault w).present hne hsome) hname

/-- **Classes at rest.** The operator becomes active; its apply of the managed class succeeds, or
there is a class of that name. Then in every state of every run a class of the operator's controller
name that is not awake is accepted for its generation, the managed class is there unless its name is
awake, and no pass touches a class of another controller. -/
theorem classes_at_rest (managed : String) (fault : Call → Option Fault) (w : World)
    (hw : UniqueKeys ClassObject.name w)
    (hsome : (ensure managed fault w).1 = .ok () ∨ managed ∈ w.map ClassObject.name)
    (es : List Event) (h : ∀ e ∈ es, Orderly e) :
    (∀ gc ∈ (after managed fault w es).world, gc.name ∉ (after managed fault w es).awake →
        gc.controllerName = gatewayController →
          gc.accepted = some (acceptedCondition gc.generation)) ∧
      (managed ≠ "" → managed ∉ (after managed fault w es).awake →
        managed ∈ (after managed fault w es).world.map ClassObject.name) ∧
      ∀ gc ∈ (after managed fault w es).world, gc.controllerName ≠ gatewayController →
        ∀ fault' name, gc ∈ (reconcile managed fault' name (after managed fault w es).world).2 := by
  have hstart := (ensure_outcome managed fault w).unique hw
  obtain ⟨hunique, hrest⟩ := (rests managed).run (s := startQueue managed fault w) hstart
    (atRest_start hsome) (along_of_forall h)
  refine ⟨fun gc hgc hawake hown => ?_, fun hne hawake => ?_, fun gc hgc hother fault' name => ?_⟩
  · exact (hrest gc.name hawake).accepted gc (getClass_of_mem hunique hgc) hown
  · obtain ⟨gc, hgc⟩ := Option.isSome_iff_exists.mp ((hrest managed hawake).present rfl hne)
    exact List.mem_map.mpr ⟨gc, mem_of_getClass hgc, name_of_getClass hgc⟩
  · exact (reconcile_outcome managed fault' name _).foreign_kept hunique hgc hother

/-- No call fails. -/
def calm : Call → Option Fault := fun _ => none

/-- The class is accepted, deleted by somebody else, created again and accepted. -/
def deletedAndRecreated : List Event :=
  [.pass "netbird" calm true, .pass "netbird" calm true, .others [] true [],
    .pass "netbird" calm true, .pass "netbird" calm true, .pass "netbird" calm true]

/-- The class that was deleted is there again. -/
theorem classes_at_rest_recreated :
    "netbird" ∉ (after "netbird" calm [] deletedAndRecreated).awake ∧
      "netbird" ∈ (after "netbird" calm [] deletedAndRecreated).world.map ClassObject.name := by
  have horderly : ∀ e ∈ deletedAndRecreated, Orderly e := by
    simp [deletedAndRecreated, Orderly, UniqueKeys]
  have hrest : "netbird" ∉ (after "netbird" calm [] deletedAndRecreated).awake := by
    decide +kernel
  exact ⟨hrest, (classes_at_rest "netbird" calm [] List.nodup_nil (.inl rfl) deletedAndRecreated
    horderly).2.1 (by decide) hrest⟩

/-- Nobody else creates a class of the managed name, or has it looked at. -/
def LeavesAlone (managed : String) : Event → Prop
  | .others w _ also => managed ∉ w.map ClassObject.name ∧ managed ∉ also
  | .pass _ _ _ => True

/-- There is no managed class, and no pass over its name is due. -/
structure Missing (managed : String) (s : Queued World String) : Prop where
  absent : managed ∉ s.world.map ClassObject.name
  notDue : ¬ s.Due managed

theorem not_mem_changed_names (h : managed ∉ w.map ClassObject.name)
    (h' : managed ∉ w'.map ClassObject.name) :
    managed ∉ (changed w w').map ClassObject.name := by
  intro hmem
  obtain ⟨gc, hgc, hname⟩ := List.mem_map.mp hmem
  rcases List.mem_append.mp (List.mem_of_mem_filter hgc) with hold | hnew
  · exact h (hname ▸ List.mem_map_of_mem hold)
  · exact h' (hname ▸ List.mem_map_of_mem hnew)

theorem Missing.step {s : Queued World String} (h : Missing managed s) (e : Event)
    (he : LeavesAlone managed e) : Missing managed ((controller managed).step s e) := by
  obtain ⟨hawake, htimed⟩ := not_or.mp h.notDue
  cases e with
  | others w listed also =>
    refine ⟨he.1, not_or.mpr ⟨fun hmem => ?_, htimed⟩⟩
    rcases List.mem_append.mp hmem with hwoken | hold
    · rcases List.mem_append.mp hwoken with hwoken | halso
      · exact not_mem_changed_names h.absent he.1 hwoken
      · exact he.2 halso
    · exact hawake hold
  | pass name fault listed =>
    rw [Controller.step]
    split
    · next hdue =>
      have hname : name ≠ managed := by
        rintro rfl
        exact h.notDue hdue
      have habsent : managed ∉ (reconcile managed fault name s.world).2.map ClassObject.name :=
        getClass_eq_none.mp ((reconcile_outcome managed fault name s.world).absent_kept hname
          (getClass_eq_none.mpr h.absent))
      refine ⟨habsent, not_or.mpr ⟨fun hmem => ?_, fun hmem => ?_⟩⟩
      · rcases List.mem_append.mp hmem with hfailed | hmem
        · split at hfailed
          · exact hname (List.mem_singleton.mp hfailed).symm
          · simp at hfailed
        rcases List.mem_append.mp hmem with hwoken | hold
        · exact not_mem_changed_names h.absent habsent hwoken
        · exact hawake (List.mem_of_mem_filter hold)
      · rcases List.mem_append.mp hmem with hagain | hold
        · split at hagain
          · exact hname (List.mem_singleton.mp hagain).symm
          · simp at hagain
        · exact htimed (List.mem_of_mem_filter hold)
    · exact h

/-- **A failed start is final.** If the apply of `Start` fails while there is no class of the
managed name, then in every run in which nobody else creates one, there is never a managed class and
no pass over its name is ever due. -/
theorem missing_after_failed_start (managed : String) (fault : Call → Option Fault) (w : World)
    (habsent : managed ∉ w.map ClassObject.name) (hfailed : (ensure managed fault w).1 ≠ .ok ())
    (es : List Event) (hes : ∀ e ∈ es, LeavesAlone managed e) :
    managed ∉ (after managed fault w es).world.map ClassObject.name ∧
      ¬ (after managed fault w es).Due managed := by
  have hsame : start managed fault w = w := by
    have houtcome := ensure_outcome managed fault w
    rcases hrun : ensure managed fault w with ⟨r, w'⟩
    rw [start, hrun]
    rw [hrun] at houtcome hfailed
    cases houtcome with
    | gaveUp e => rfl
    | _ => exact absurd rfl hfailed
  have hstart : Missing managed (startQueue managed fault w) := by
    refine ⟨?_, not_or.mpr ⟨?_, List.not_mem_nil⟩⟩
    · show managed ∉ (start managed fault w).map ClassObject.name
      rwa [hsame]
    · show managed ∉ (start managed fault w).map ClassObject.name
      rwa [hsame]
  have hmissing := run_invariant (C := fun _ e => LeavesAlone managed e)
    (I := Missing managed) (along_of_forall hes) hstart fun s e hs he => hs.step e he
  exact ⟨hmissing.absent, hmissing.notDue⟩

/-- Applying fails. -/
def refusing : Call → Option Fault := fun c => if c = .apply then some .other else none

/-- A class of another controller comes, and is looked at. -/
def otherClass : List Event :=
  [.others [⟨"nginx", "nginx.org/gateway", none, 1, none⟩] true [], .pass "nginx" calm true]

theorem missing_after_failed_start_otherClass :
    "netbird" ∉ (after "netbird" refusing [] otherClass).world.map ClassObject.name ∧
      ¬ (after "netbird" refusing [] otherClass).Due "netbird" := by
  refine missing_after_failed_start "netbird" refusing [] (by simp) (fun h => nomatch h)
    otherClass ?_
  simp [otherClass, LeavesAlone]

end ManagedClass

end NetbirdOperator
