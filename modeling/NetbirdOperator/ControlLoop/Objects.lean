import NetbirdOperator.ControlLoop.Store

/-!
# Declarative objects and their life cycle

The objects a control loop serves are declared by users: a specification the user writes and a
status the loop writes back. Deleting one is a request. While the loop holds its finalizer on the
object, a delete only marks it; the object goes away when the finalizer is taken off. An object
that was never given the finalizer goes away at once.

`Object S T` is such an object; the store that holds the objects of one kind issues the uid an
object keeps for life. `UserEvent S` is what users do, `Store.submit` its effect, and `Store.put`
the loop's own write.

## Main results

* `Store.submit_cases` — a user event as one store operation
* `Store.of_mem_submit`, `origin_of_mem_submit` — users write no status and rename nothing
* `Store.delete_put` — the loop's own write touches one object
-/

namespace ControlLoop

/-- An object of one kind, without its uid. -/
structure Object (S T : Type*) where
  /-- The namespace it lives in. -/
  ns : String
  /-- Its name, unique in that namespace. -/
  name : String
  /-- Counts the specifications the object has had. -/
  generation : ℕ
  /-- A delete was requested. -/
  deleting : Bool
  /-- The loop holds the object until it has cleaned up. -/
  finalizer : Bool
  /-- What the user declares. -/
  spec : S
  /-- What the loop recorded. -/
  status : T
  deriving DecidableEq, Repr

/-- A live object: nobody asked for its deletion. -/
def Object.live {S T : Type*} (o : Object S T) : Bool := !o.deleting

/-- What a delete request leaves of an object, where it is not gone at once. -/
theorem exists_of_marked {S T : Type*} {cr : Option (Object S T)} {o' : Object S T}
    (h : (cr.bind fun o => if o.finalizer then some { o with deleting := true } else none) =
      some o') : ∃ o, cr = some o ∧ o' = { o with deleting := true } := by
  obtain ⟨o, ho, hmarked⟩ := Option.bind_eq_some_iff.mp h
  split at hmarked
  · exact ⟨o, ho, (Option.some.inj hmarked).symm⟩
  · cases hmarked

/-- What users do to the objects of a kind. -/
inductive UserEvent (S : Type*) where
  /-- Declare a new object. -/
  | create (ns name : String) (spec : S)
  /-- Change a specification. -/
  | edit (uid : ℕ) (spec : S)
  /-- Ask for a deletion. -/
  | delete (uid : ℕ)
  deriving DecidableEq, Repr

namespace Store

variable {S T : Type*} {s : Store (Object S T)} {uid : ℕ} {o : Object S T} {e : Entry (Object S T)}

/-- The effect of a user event. A new object starts with the status `fresh`; a name that is taken
is refused. -/
def submit (fresh : T) (s : Store (Object S T)) : UserEvent S → Store (Object S T)
  | .create ns name spec =>
    if s.entries.any fun e => e.val.ns = ns ∧ e.val.name = name then s
    else s.create ⟨ns, name, 1, false, false, spec, fresh⟩
  | .edit uid spec =>
    match s.get uid with
    | none => s
    | some o => s.update uid { o with spec := spec, generation := o.generation + 1 }
  | .delete uid =>
    match s.get uid with
    | none => s
    | some o => if o.finalizer then s.update uid { o with deleting := true } else s.delete uid

/-- The loop's own write. An object that is being deleted and has lost its finalizer is gone. -/
def put (s : Store (Object S T)) (uid : ℕ) (o : Object S T) : Store (Object S T) :=
  if o.deleting ∧ ¬ o.finalizer then s.delete uid else s.update uid o

theorem put_of_live (h : o.deleting = false) : s.put uid o = s.update uid o := by
  simp [put, h]

/-- Without its own object, a write of the loop is not to be seen. -/
theorem delete_put (s : Store (Object S T)) (uid : ℕ) (o : Object S T) :
    (s.put uid o).delete uid = s.delete uid := by
  unfold put
  split
  · exact delete_delete s uid
  · exact delete_update s uid o

/-- The three ways a user event can change the objects of a kind. -/
theorem submit_cases (fresh : T) (s : Store (Object S T)) (ev : UserEvent S) :
    s.submit fresh ev = s ∨
    (∃ ns name spec, ev = .create ns name spec ∧
      s.submit fresh ev = s.create ⟨ns, name, 1, false, false, spec, fresh⟩) ∨
    (∃ e ∈ s, ∃ spec, ev = .edit e.id spec ∧
      s.submit fresh ev =
        s.update e.id { e.val with spec := spec, generation := e.val.generation + 1 }) ∨
    (∃ e ∈ s, ev = .delete e.id ∧ e.val.finalizer = true ∧
      s.submit fresh ev = s.update e.id { e.val with deleting := true }) ∨
    (∃ e ∈ s, ev = .delete e.id ∧ e.val.finalizer = false ∧
      s.submit fresh ev = s.delete e.id) := by
  cases ev with
  | create ns name spec =>
    simp only [submit]
    split
    · exact Or.inl rfl
    · exact Or.inr (Or.inl ⟨ns, name, spec, rfl, rfl⟩)
  | edit uid spec =>
    simp only [submit]
    cases h : s.get uid with
    | none => exact Or.inl rfl
    | some o =>
      exact Or.inr (Or.inr (Or.inl ⟨⟨uid, o⟩, get_eq_some.mp h, spec, rfl, rfl⟩))
  | delete uid =>
    simp only [submit]
    cases h : s.get uid with
    | none => exact Or.inl rfl
    | some o =>
      have hmem : (⟨uid, o⟩ : Entry (Object S T)) ∈ s := get_eq_some.mp h
      cases hf : o.finalizer with
      | true => exact Or.inr (Or.inr (Or.inr (Or.inl ⟨⟨uid, o⟩, hmem, rfl, hf, by simp [hf]⟩)))
      | false => exact Or.inr (Or.inr (Or.inr (Or.inr ⟨⟨uid, o⟩, hmem, rfl, hf, by simp [hf]⟩)))

/-- Users write no status. An object after a user event is a new one, or was there before with the
status and the finalizer it has now, and live if it is. -/
theorem of_mem_submit {fresh : T} {ev : UserEvent S} (h : e ∈ s.submit fresh ev) :
    (e.val.status = fresh ∧ e.val.finalizer = false ∧ e.id = s.next) ∨
      ∃ f ∈ s, f.id = e.id ∧ e.val.status = f.val.status ∧ e.val.finalizer = f.val.finalizer ∧
        (e.val.live = true → f.val.live = true) := by
  have hold : e ∈ s → ∃ f ∈ s, f.id = e.id ∧ e.val.status = f.val.status ∧
      e.val.finalizer = f.val.finalizer ∧ (e.val.live = true → f.val.live = true) :=
    fun he => ⟨e, he, rfl, rfl, rfl, id⟩
  rcases s.submit_cases fresh ev with hs | ⟨ns, name, spec, -, hs⟩ | ⟨f, hf, spec, -, hs⟩ |
    ⟨f, hf, -, -, hs⟩ | ⟨f, hf, -, -, hs⟩ <;> rw [hs] at h
  · exact Or.inr (hold h)
  · rcases mem_create.mp h with h | rfl
    · exact Or.inr (hold h)
    · exact Or.inl ⟨rfl, rfl, rfl⟩
  · rcases mem_update.mp h with ⟨h, -⟩ | ⟨rfl, -⟩
    · exact Or.inr (hold h)
    · exact Or.inr ⟨f, hf, rfl, rfl, rfl, id⟩
  · rcases mem_update.mp h with ⟨h, -⟩ | ⟨rfl, -⟩
    · exact Or.inr (hold h)
    · exact Or.inr ⟨f, hf, rfl, rfl, rfl, fun hl => absurd hl (by simp [Object.live])⟩
  · exact Or.inr (hold (mem_delete.mp h).1)

/-- Users rename nothing. An object after a user event is a new one under a name that was free, or
was there before under its name. -/
theorem origin_of_mem_submit {fresh : T} {ev : UserEvent S} (h : e ∈ s.submit fresh ev) :
    (e.id = s.next ∧ e.val.status = fresh ∧
        ∀ f ∈ s, ¬ (f.val.ns = e.val.ns ∧ f.val.name = e.val.name)) ∨
      ∃ f ∈ s, f.id = e.id ∧ f.val.ns = e.val.ns ∧ f.val.name = e.val.name ∧
        e.val.status = f.val.status := by
  have hold : e ∈ s → ∃ f ∈ s, f.id = e.id ∧ f.val.ns = e.val.ns ∧ f.val.name = e.val.name ∧
      e.val.status = f.val.status :=
    fun he => ⟨e, he, rfl, rfl, rfl, rfl⟩
  have hwritten : ∀ {f : Entry (Object S T)} {o : Object S T}, f ∈ s → e ∈ s.update f.id o →
      o.ns = f.val.ns → o.name = f.val.name → o.status = f.val.status →
      ∃ f ∈ s, f.id = e.id ∧ f.val.ns = e.val.ns ∧ f.val.name = e.val.name ∧
        e.val.status = f.val.status := by
    intro f o hf he hns hname hstatus
    rcases mem_update.mp he with ⟨he, -⟩ | ⟨rfl, -⟩
    · exact hold he
    · exact ⟨f, hf, rfl, hns.symm, hname.symm, hstatus⟩
  cases ev with
  | create ns name spec =>
    rw [submit] at h
    split at h
    · exact Or.inr (hold h)
    · next hfree =>
      rcases mem_create.mp h with h | rfl
      · exact Or.inr (hold h)
      · refine Or.inl ⟨rfl, rfl, fun f hf htaken => hfree ?_⟩
        exact List.any_eq_true.mpr ⟨f, hf, by simpa using htaken⟩
  | edit uid spec =>
    rw [submit] at h
    cases hget : s.get uid with
    | none => exact Or.inr (hold (by simpa only [hget] using h))
    | some o =>
      simp only [hget] at h
      exact Or.inr (hwritten (get_eq_some.mp hget) h rfl rfl rfl)
  | delete uid =>
    rw [submit] at h
    cases hget : s.get uid with
    | none => exact Or.inr (hold (by simpa only [hget] using h))
    | some o =>
      simp only [hget] at h
      split at h
      · exact Or.inr (hwritten (get_eq_some.mp hget) h rfl rfl rfl)
      · exact Or.inr (hold (mem_delete.mp h).1)

/-- Only a declaration brings in a new object. -/
theorem exists_of_mem_submit {fresh : T} {ev : UserEvent S}
    (hev : ∀ ns name spec, ev ≠ .create ns name spec) (h : e ∈ s.submit fresh ev) :
    ∃ f ∈ s, f.id = e.id := by
  rcases s.submit_cases fresh ev with hs | ⟨ns, name, spec, hs, -⟩ | ⟨f, hf, spec, -, hs⟩ |
    ⟨f, hf, -, -, hs⟩ | ⟨f, hf, -, -, hs⟩
  · exact ⟨e, hs ▸ h, rfl⟩
  · exact absurd hs (hev ns name spec)
  · rw [hs] at h
    rcases mem_update.mp h with ⟨h, -⟩ | ⟨rfl, -⟩
    · exact ⟨e, h, rfl⟩
    · exact ⟨f, hf, rfl⟩
  · rw [hs] at h
    rcases mem_update.mp h with ⟨h, -⟩ | ⟨rfl, -⟩
    · exact ⟨e, h, rfl⟩
    · exact ⟨f, hf, rfl⟩
  · rw [hs] at h
    exact ⟨e, (mem_delete.mp h).1, rfl⟩

/-- The specification after a user event is the one of the event or was there before. -/
theorem spec_of_mem_submit {P : S → Prop} {fresh : T} {ev : UserEvent S}
    (hold : ∀ f ∈ s, P f.val.spec) (hcreate : ∀ ns name spec, ev = .create ns name spec → P spec)
    (hedit : ∀ uid spec, ev = .edit uid spec → P spec) (h : e ∈ s.submit fresh ev) :
    P e.val.spec := by
  rcases s.submit_cases fresh ev with hs | ⟨ns, name, spec, hev, hs⟩ | ⟨f, hf, spec, hev, hs⟩ |
    ⟨f, hf, -, -, hs⟩ | ⟨f, hf, -, -, hs⟩ <;> rw [hs] at h
  · exact hold e h
  · rcases mem_create.mp h with h | rfl
    · exact hold e h
    · exact hcreate ns name spec hev
  · rcases mem_update.mp h with ⟨h, -⟩ | ⟨rfl, -⟩
    · exact hold e h
    · exact hedit f.id spec hev
  · rcases mem_update.mp h with ⟨h, -⟩ | ⟨rfl, -⟩
    · exact hold e h
    · exact hold f hf
  · exact hold e (mem_delete.mp h).1

end Store

end ControlLoop
