import ATenBound.Integration.Concurrent

/-!
# Concurrent callers that keep the frameworks in agreement

`create_propagate_race` breaks the agreement of `State` and `Attributes`; so
does a delta that is itself a scope's `State` map, read once before and once
after another caller writes it. What is left is safe
(`concurrent_frameworks_agree`): take deltas that no scope or atom holds
(`Operation.DeltaFree`), and let each caller start only beside running callers
it is compatible with (`Config.StartsCompatibly`: other IDs, two
`CreateBoundaryScope` calls, or two `PropagateState` calls whose deltas agree on
their shared keys). Then a `PropagateState` whose Hypermind merge succeeded
succeeds, a failing one changes nothing, and once every caller has returned
each scope's `State` map reads as its atom's `Attributes` map.

The invariant is per ID (`Config.AgreesAt`): a key no pending delta names reads
the same in both maps, and between `RegisterScope` and `AddAtom` the `State` is
a new empty map.
-/

namespace ATenBound.Integration

open TensorLogic Hypermind ATenSpace UnifiedFramework

variable {V : Type}

/-! ## Calls that may run at once -/

/-- Two maps that agree on every key they share. -/
def Agree (m m' : GoMap V) : Prop :=
  ∀ k v v', m.lookup k = some v → m'.lookup k = some v' → v = v'

instance [DecidableEq V] (m m' : GoMap V) : Decidable (Agree m m') :=
  decidable_of_iff (∀ entry ∈ m.entries, ∀ v' ∈ m'.lookup entry.1, entry.2 = v')
    ⟨fun agree k v v' mine theirs => agree ⟨k, v⟩ (AList.mem_lookup_iff.mp mine) v' theirs,
      fun agree entry member v' theirs =>
        agree entry.1 entry.2 v' (AList.mem_lookup_iff.mpr member) theirs⟩

theorem Agree.refl (m : GoMap V) : Agree m m :=
  fun _ _ _ mine theirs => Option.some.inj (mine.symm.trans theirs)

theorem Agree.symm {m m' : GoMap V} (agree : Agree m m') : Agree m' m :=
  fun k v v' mine theirs => (agree k v' v theirs mine).symm

namespace Operation

/-- Two calls that may run at once, their deltas read in `heap`: on different
IDs, two `CreateBoundaryScope` calls, or two `PropagateState` calls whose deltas
agree on every key they share. -/
def Compatible (heap : Heap V) : Operation → Operation → Prop
  | .createBoundaryScope _ _, .createBoundaryScope _ _ => True
  | .propagateState scopeID state, .propagateState other state' =>
      scopeID = other → Agree (heap.maps state) (heap.maps state')
  | operation, other => operation.scopeID ≠ other.scopeID

instance [DecidableEq V] (heap : Heap V) (operation other : Operation) :
    Decidable (operation.Compatible heap other) := by
  cases operation <;> cases other <;> unfold Compatible <;> infer_instance

variable {heap heap' : Heap V} {operation other : Operation}

theorem compatible_self (heap : Heap V) (operation : Operation) :
    operation.Compatible heap operation := by
  cases operation
  · trivial
  · exact fun _ => Agree.refl _

theorem Compatible.symm (compatible : operation.Compatible heap other) :
    other.Compatible heap operation := by
  cases operation <;> cases other
  · trivial
  · exact Ne.symm compatible
  · exact Ne.symm compatible
  · exact fun same => (compatible same.symm).symm

theorem Compatible.of_maps (compatible : operation.Compatible heap other)
    (same : ∀ scopeID state, operation = .propagateState scopeID state ∨
      other = .propagateState scopeID state → heap'.maps state = heap.maps state) :
    operation.Compatible heap' other := by
  cases operation <;> cases other
  · trivial
  · exact compatible
  · exact compatible
  · intro sameID
    rw [same _ _ (.inl rfl), same _ _ (.inr rfl)]
    exact compatible sameID

theorem not_compatible_propagate_create {scopeID scopeType : String} {state : MapRef} :
    ¬ (Operation.propagateState scopeID state).Compatible heap (.createBoundaryScope scopeID scopeType) :=
  fun apart => apart rfl

end Operation

/-- A caller that neither is about to call `AddAtom` nor is between the two
merges of `PropagateState`. -/
def Pc.Quiet : Pc → Prop
  | .addAtom | .getAtom | .attributesMerge _ => False
  | _ => True

theorem Pc.quiet_of_isReturned {pc : Pc} (returned : pc.isReturned) : pc.Quiet := by
  cases pc <;> first | exact True.intro | cases returned

namespace Caller

def isFresh : Caller → Bool
  | ⟨.createBoundaryScope _ _, .registerVariable⟩ | ⟨.propagateState _ _, .hypermindMerge⟩ => true
  | _ => false

def isRunning (caller : Caller) : Bool :=
  !caller.isFresh && !caller.pc.isReturned

/-- A `CreateBoundaryScope` of `scopeID` about to call `AddAtom`. -/
def AddingAtom (scopeID : String) (caller : Caller) : Prop :=
  ∃ scopeType, caller = ⟨.createBoundaryScope scopeID scopeType, .addAtom⟩

/-- A `PropagateState` of the delta `state` into `scopeID` between its Hypermind
merge and its merge into `Attributes`. -/
def Pending (scopeID : String) (state : MapRef) (caller : Caller) : Prop :=
  caller = ⟨.propagateState scopeID state, .getAtom⟩ ∨
    ∃ attributes, caller = ⟨.propagateState scopeID state, .attributesMerge attributes⟩

variable {id : String} {state : MapRef} {caller : Caller}

theorem AddingAtom.scopeID (adding : caller.AddingAtom id) : caller.operation.scopeID = id := by
  obtain ⟨_, rfl⟩ := adding
  rfl

theorem Pending.scopeID (pending : caller.Pending id state) : caller.operation.scopeID = id := by
  rcases pending with rfl | ⟨_, rfl⟩ <;> rfl

theorem AddingAtom.operation (adding : caller.AddingAtom id) :
    ∃ scopeType, caller.operation = .createBoundaryScope id scopeType := by
  obtain ⟨scopeType, rfl⟩ := adding
  exact ⟨scopeType, rfl⟩

theorem AddingAtom.pc (adding : caller.AddingAtom id) : caller.pc = .addAtom := by
  obtain ⟨_, rfl⟩ := adding
  rfl

theorem Pending.operation (pending : caller.Pending id state) :
    caller.operation = .propagateState id state := by
  rcases pending with rfl | ⟨_, rfl⟩ <;> rfl

theorem AddingAtom.isRunning (adding : caller.AddingAtom id) : caller.isRunning := by
  obtain ⟨_, rfl⟩ := adding
  rfl

theorem Pending.isRunning (pending : caller.Pending id state) : caller.isRunning := by
  rcases pending with rfl | ⟨_, rfl⟩ <;> rfl

theorem not_addingAtom_of_quiet (quiet : caller.pc.Quiet) : ¬ caller.AddingAtom id := by
  rintro ⟨_, rfl⟩
  exact quiet

theorem not_pending_of_quiet (quiet : caller.pc.Quiet) : ¬ caller.Pending id state := by
  rintro (rfl | ⟨_, rfl⟩) <;> exact quiet

end Caller

/-! ## Callers after one step -/

section Set

variable {callers : List Caller} {i : Nat} {old new : Caller}

theorem mem_set_or_eq_old (found : callers[i]? = some old) {caller : Caller}
    (member : caller ∈ callers) : caller ∈ callers.set i new ∨ caller = old := by
  obtain ⟨j, atJ⟩ := List.mem_iff_getElem?.mp member
  by_cases same : i = j
  · subst same
    exact .inr (Option.some.inj (atJ.symm.trans found))
  · exact .inl (List.mem_iff_getElem?.mpr ⟨j, by rw [List.getElem?_set_ne same]; exact atJ⟩)

theorem mem_set_new (found : callers[i]? = some old) : new ∈ callers.set i new :=
  List.mem_set _ _ (List.getElem?_eq_some_iff.mp found).1 _

/-- A property that the stepping caller has before its step exactly when it has
it after holds of some caller before the step exactly when it does after. -/
theorem exists_set_iff (found : callers[i]? = some old) {P : Caller → Prop}
    (same : P new ↔ P old) :
    (∃ caller ∈ callers.set i new, P caller) ↔ ∃ caller ∈ callers, P caller := by
  constructor
  · rintro ⟨caller, member, holds⟩
    rcases List.mem_or_eq_of_mem_set member with kept | rfl
    · exact ⟨caller, kept, holds⟩
    · exact ⟨old, List.getElem?_mem found, same.mp holds⟩
  · rintro ⟨caller, member, holds⟩
    rcases mem_set_or_eq_old found member with kept | rfl
    · exact ⟨caller, kept, holds⟩
    · exact ⟨new, mem_set_new found, same.mpr holds⟩

theorem mem_set_iff_of_ne (found : callers[i]? = some old) {caller : Caller}
    (notNew : caller ≠ new) (notOld : caller ≠ old) :
    caller ∈ callers.set i new ↔ caller ∈ callers :=
  ⟨fun member => (List.mem_or_eq_of_mem_set member).resolve_right notNew,
    fun member => (mem_set_or_eq_old found member).resolve_right notOld⟩

theorem exists_of_exists_set {P : Caller → Prop} (lost : ¬ P new) :
    (∃ caller ∈ callers.set i new, P caller) → ∃ caller ∈ callers, P caller := by
  rintro ⟨caller, member, holds⟩
  rcases List.mem_or_eq_of_mem_set member with kept | rfl
  · exact ⟨caller, kept, holds⟩
  · exact absurd holds lost

theorem exists_set_of_exists (found : callers[i]? = some old) {P : Caller → Prop}
    (absent : ¬ P old) :
    (∃ caller ∈ callers, P caller) → ∃ caller ∈ callers.set i new, P caller := by
  rintro ⟨caller, member, holds⟩
  rcases mem_set_or_eq_old found member with kept | rfl
  · exact ⟨caller, kept, holds⟩
  · exact absurd holds absent

end Set

/-! ## The invariant -/

namespace World

/-- `w'` differs from `w` only at `scopeID`: its scope, its atom, the maps it
holds, and maps allocated since. -/
structure FrameAt (scopeID : String) (w w' : World V) : Prop where
  next_le : w.heap.next ≤ w'.heap.next
  scopes : ∀ id, id ≠ scopeID → (id ∈ w'.framework.hypermind.scopes ↔
    id ∈ w.framework.hypermind.scopes) ∧ w'.stateRef id = w.stateRef id
  atoms : ∀ id, id ≠ scopeID → (id ∈ w'.framework.aTenSpace.atoms ↔
    id ∈ w.framework.aTenSpace.atoms) ∧ w'.attributesRef id = w.attributesRef id
  maps : ∀ ref, ref < w.heap.next → ¬ w.Holds scopeID ref → w'.heap.maps ref = w.heap.maps ref
  holds : ∀ ref, w'.Holds scopeID ref →
    w.Holds scopeID ref ∨ w.heap.next ≤ ref ∧ ref < w'.heap.next

variable {scopeID id : String} {w w' : World V}

theorem FrameAt.holds_iff (frame : w.FrameAt scopeID w') (apart : id ≠ scopeID) (ref : MapRef) :
    w'.Holds id ref ↔ w.Holds id ref := by
  simp only [World.Holds, (frame.scopes id apart).2, (frame.atoms id apart).2]

theorem FrameAt.deltaFree (frame : w.FrameAt scopeID w') {operation : Operation}
    (free : operation.DeltaFree w) : operation.DeltaFree w' := by
  cases operation with
  | createBoundaryScope => trivial
  | propagateState _ state =>
      obtain ⟨below, unheld⟩ := free
      refine ⟨lt_of_lt_of_le below frame.next_le, fun other held => ?_⟩
      by_cases same : other = scopeID
      · subst same
        rcases frame.holds state held with old | ⟨fresh, -⟩
        · exact unheld _ old
        · exact absurd below (not_lt.mpr fresh)
      · exact unheld other ((frame.holds_iff same state).mp held)

theorem FrameAt.maps_of_free (frame : w.FrameAt scopeID w') {other : String} {state : MapRef}
    (free : (Operation.propagateState other state).DeltaFree w) :
    w'.heap.maps state = w.heap.maps state :=
  frame.maps state free.1 (free.2 scopeID)

end World

namespace Config

/-- A `CreateBoundaryScope` of `scopeID` is about to call `AddAtom`. -/
def AddingAtom (cfg : Config V) (scopeID : String) : Prop :=
  ∃ caller ∈ cfg.callers, caller.AddingAtom scopeID

/-- A `PropagateState` of the delta `state` into `scopeID` is between its two
merges. -/
def Pending (cfg : Config V) (scopeID : String) (state : MapRef) : Prop :=
  ∃ caller ∈ cfg.callers, caller.Pending scopeID state

/-- A call that may run beside every caller running in `cfg`. -/
def Admits (cfg : Config V) (operation : Operation) : Prop :=
  ∀ other ∈ cfg.callers, other.isRunning → operation.Compatible cfg.world.heap other.operation

instance [DecidableEq V] (cfg : Config V) (operation : Operation) :
    Decidable (cfg.Admits operation) := by
  unfold Admits
  infer_instance

/-- Each caller that takes its first step along the schedule may run beside
every caller then running. -/
def StartsCompatibly : Config V → List Nat → Prop
  | _, [] => True
  | cfg, i :: rest =>
      (∀ caller ∈ cfg.callers[i]?, caller.isFresh → cfg.Admits caller.operation) ∧
        (cfg.step i).StartsCompatibly rest

def decStartsCompatibly [DecidableEq V] :
    ∀ (cfg : Config V) (schedule : List Nat), Decidable (cfg.StartsCompatibly schedule)
  | _, [] => isTrue trivial
  | cfg, i :: rest =>
      have := decStartsCompatibly (cfg.step i) rest
      inferInstanceAs (Decidable ((∀ caller ∈ cfg.callers[i]?, caller.isFresh →
        cfg.Admits caller.operation) ∧ (cfg.step i).StartsCompatibly rest))

instance [DecidableEq V] (cfg : Config V) (schedule : List Nat) :
    Decidable (cfg.StartsCompatibly schedule) :=
  decStartsCompatibly cfg schedule

/-- What holds of one scope ID at every step of a run of compatible callers. -/
structure AgreesAt (cfg : Config V) (scopeID : String) : Prop where
  addingAtom : cfg.AddingAtom scopeID → scopeID ≠ "" ∧ ∃ stateRef,
    cfg.world.stateRef scopeID = some stateRef ∧
      ∀ k, (cfg.world.heap.maps stateRef).lookup k = none
  atom_of_scope : scopeID ∈ cfg.world.framework.hypermind.scopes →
    scopeID ∈ cfg.world.framework.aTenSpace.atoms ∨ cfg.AddingAtom scopeID
  scope_of_pending : ∀ state, cfg.Pending scopeID state →
    scopeID ∈ cfg.world.framework.hypermind.scopes
  mergeTarget : ∀ state attributes,
    (⟨.propagateState scopeID state, .attributesMerge attributes⟩ : Caller) ∈ cfg.callers →
      attributes = cfg.world.attributesRef scopeID
  contents : scopeID ∈ cfg.world.framework.hypermind.scopes → ¬ cfg.AddingAtom scopeID →
    ∃ stateRef attributesRef, cfg.world.stateRef scopeID = some stateRef ∧
      cfg.world.attributesRef scopeID = some attributesRef ∧
      (∀ state, cfg.Pending scopeID state → ∀ k v, (cfg.world.heap.maps state).lookup k = some v →
        (cfg.world.heap.maps stateRef).lookup k = some v) ∧
      ∀ k, (∀ state, cfg.Pending scopeID state → (cfg.world.heap.maps state).lookup k = none) →
        (cfg.world.heap.maps stateRef).lookup k = (cfg.world.heap.maps attributesRef).lookup k

/-- The invariant of runs of compatible callers with free deltas. -/
structure Inv (cfg : Config V) : Prop where
  compatible : ∀ caller ∈ cfg.callers, caller.isRunning → cfg.Admits caller.operation
  deltaFree : ∀ caller ∈ cfg.callers, caller.operation.DeltaFree cfg.world
  allocated : ∀ id ref, cfg.world.Holds id ref → ref < cfg.world.heap.next
  separate : ∀ id other ref, cfg.world.Holds id ref → cfg.world.Holds other ref → id = other
  agreesAt : ∀ scopeID, cfg.AgreesAt scopeID

/-! ## Steps that keep the invariant of other IDs -/

variable {cfg cfg' : Config V}

/-- An ID's invariant carries over to a configuration that agrees at the ID:
same scope and atom, same contents of the ID's maps and of its pending deltas,
same callers of the ID up to a merge caller that targets the ID's
`Attributes`. -/
theorem AgreesAt.transport {scopeID : String} (agree : cfg.AgreesAt scopeID)
    (memScopes : scopeID ∈ cfg'.world.framework.hypermind.scopes ↔
      scopeID ∈ cfg.world.framework.hypermind.scopes)
    (stateRefEq : cfg'.world.stateRef scopeID = cfg.world.stateRef scopeID)
    (memAtoms : scopeID ∈ cfg'.world.framework.aTenSpace.atoms ↔
      scopeID ∈ cfg.world.framework.aTenSpace.atoms)
    (attributesRefEq : cfg'.world.attributesRef scopeID = cfg.world.attributesRef scopeID)
    (kept : ∀ ref, cfg.world.Holds scopeID ref → cfg'.world.heap.maps ref = cfg.world.heap.maps ref)
    (adding : cfg'.AddingAtom scopeID ↔ cfg.AddingAtom scopeID)
    (pending : ∀ state, cfg'.Pending scopeID state ↔ cfg.Pending scopeID state)
    (deltas : ∀ state, cfg.Pending scopeID state →
      cfg'.world.heap.maps state = cfg.world.heap.maps state)
    (merging : ∀ state attributes,
      (⟨.propagateState scopeID state, .attributesMerge attributes⟩ : Caller) ∈ cfg'.callers →
        (⟨.propagateState scopeID state, .attributesMerge attributes⟩ : Caller) ∈ cfg.callers ∨
          attributes = cfg.world.attributesRef scopeID) :
    cfg'.AgreesAt scopeID := by
  refine ⟨?_, ?_, ?_, ?_, ?_⟩
  · rw [adding, stateRefEq]
    intro isAdding
    obtain ⟨named, stateRef, held, empty⟩ := agree.addingAtom isAdding
    exact ⟨named, stateRef, held, by rw [kept stateRef (.inl held)]; exact empty⟩
  · rw [memScopes, memAtoms, adding]
    exact agree.atom_of_scope
  · intro state isPending
    rw [memScopes]
    exact agree.scope_of_pending state ((pending state).mp isPending)
  · intro state attributes member
    rw [attributesRefEq]
    exact (merging state attributes member).elim (agree.mergeTarget state attributes) id
  · rw [memScopes, adding, stateRefEq, attributesRefEq]
    intro registered noAdding
    obtain ⟨stateRef, attributesRef, held, attributes, values, same⟩ :=
      agree.contents registered noAdding
    refine ⟨stateRef, attributesRef, held, attributes, fun state isPending => ?_, fun k absent => ?_⟩
    · have before := (pending state).mp isPending
      rw [kept stateRef (.inl held), deltas state before]
      exact values state before
    · rw [kept stateRef (.inl held), kept attributesRef (.inr attributes)]
      refine same k fun state before => ?_
      rw [← deltas state before]
      exact absent state ((pending state).mpr before)

theorem Inv.pending_free (inv : cfg.Inv) {scopeID : String} {state : MapRef}
    (pending : cfg.Pending scopeID state) :
    (Operation.propagateState scopeID state).DeltaFree cfg.world := by
  obtain ⟨caller, member, callerPending⟩ := pending
  rw [← callerPending.operation]
  exact inv.deltaFree caller member

/-- A step that changes the world only at the stepping caller's ID keeps the
invariant of every other ID. -/
theorem AgreesAt.of_frameAt (inv : cfg.Inv) {i : Nat} {caller : Caller}
    (found : cfg.callers[i]? = some caller) {pc : Pc} {w' : World V}
    (frame : cfg.world.FrameAt caller.operation.scopeID w') {id : String}
    (apart : id ≠ caller.operation.scopeID) :
    (⟨w', cfg.callers.set i ⟨caller.operation, pc⟩⟩ : Config V).AgreesAt id := by
  have onOther : ∀ other : Caller, other.operation.scopeID = id →
      (other ∈ cfg.callers.set i ⟨caller.operation, pc⟩ ↔ other ∈ cfg.callers) := by
    intro other onID
    refine mem_set_iff_of_ne found ?_ ?_ <;> rintro rfl <;> exact apart onID.symm
  obtain ⟨memScopes, stateRefEq⟩ := frame.scopes id apart
  obtain ⟨memAtoms, attributesRefEq⟩ := frame.atoms id apart
  exact (inv.agreesAt id).transport memScopes stateRefEq memAtoms attributesRefEq
    (fun ref held => frame.maps ref (inv.allocated _ ref held)
      fun heldHere => apart (inv.separate _ _ ref held heldHere))
    ⟨fun ⟨other, member, adding⟩ => ⟨other, (onOther other adding.scopeID).mp member, adding⟩,
      fun ⟨other, member, adding⟩ => ⟨other, (onOther other adding.scopeID).mpr member, adding⟩⟩
    (fun _ => ⟨fun ⟨other, member, pending⟩ =>
        ⟨other, (onOther other pending.scopeID).mp member, pending⟩,
      fun ⟨other, member, pending⟩ =>
        ⟨other, (onOther other pending.scopeID).mpr member, pending⟩⟩)
    (fun _ pending => frame.maps_of_free (inv.pending_free pending))
    (fun state attributes member => .inl ((onOther
      ⟨.propagateState id state, .attributesMerge attributes⟩ rfl).mp member))

/-- A step of a caller that changes the world only at the caller's ID, may run
beside the running callers, and keeps the invariant of its ID keeps the whole
invariant. -/
theorem Inv.of_step (inv : cfg.Inv) {i : Nat} {caller : Caller}
    (found : cfg.callers[i]? = some caller) (scopeID : String)
    (onID : caller.operation.scopeID = scopeID) {pc : Pc} {w' : World V}
    (frame : cfg.world.FrameAt scopeID w')
    (admitted : (⟨caller.operation, pc⟩ : Caller).isRunning → cfg.Admits caller.operation)
    (agree : (⟨w', cfg.callers.set i ⟨caller.operation, pc⟩⟩ : Config V).AgreesAt scopeID) :
    (⟨w', cfg.callers.set i ⟨caller.operation, pc⟩⟩ : Config V).Inv := by
  subst onID
  have origin : ∀ other ∈ cfg.callers.set i ⟨caller.operation, pc⟩,
      ∃ before ∈ cfg.callers, before.operation = other.operation := by
    intro other member
    rcases List.mem_or_eq_of_mem_set member with kept | rfl
    · exact ⟨other, kept, rfl⟩
    · exact ⟨caller, List.getElem?_mem found, rfl⟩
  have free : ∀ other ∈ cfg.callers.set i ⟨caller.operation, pc⟩,
      other.operation.DeltaFree cfg.world := fun other member => by
    obtain ⟨before, beforeMember, same⟩ := origin other member
    exact same ▸ inv.deltaFree before beforeMember
  have back : ∀ id ref, w'.Holds id ref → cfg.world.Holds id ref ∨
      id = caller.operation.scopeID ∧ cfg.world.heap.next ≤ ref ∧ ref < w'.heap.next := by
    intro id ref held
    by_cases same : id = caller.operation.scopeID
    · subst same
      exact (frame.holds ref held).imp_right fun fresh => ⟨rfl, fresh⟩
    · exact .inl ((frame.holds_iff same ref).mp held)
  refine ⟨fun one member running other member' running' => ?_,
    fun other member => frame.deltaFree (free other member), ?_, ?_, fun id => ?_⟩
  · have before : one.operation.Compatible cfg.world.heap other.operation := by
      rcases List.mem_or_eq_of_mem_set member with old | rfl <;>
        rcases List.mem_or_eq_of_mem_set member' with old' | rfl
      · exact inv.compatible one old running other old' running'
      · exact (admitted running' one old running).symm
      · exact admitted running other old' running'
      · exact Operation.compatible_self _ _
    refine before.of_maps fun _ state propagating => ?_
    rcases propagating with propagating | propagating
    · exact frame.maps_of_free (propagating ▸ free one member)
    · exact frame.maps_of_free (propagating ▸ free other member')
  · intro id ref held
    rcases back id ref held with old | ⟨-, -, fresh⟩
    · exact lt_of_lt_of_le (inv.allocated id ref old) frame.next_le
    · exact fresh
  · intro id other ref held heldOther
    rcases back id ref held with old | ⟨rfl, fresh, -⟩ <;>
      rcases back other ref heldOther with old' | ⟨rfl, fresh', -⟩
    · exact inv.separate id other ref old old'
    · exact absurd fresh' (not_le.mpr (inv.allocated id ref old))
    · exact absurd fresh (not_le.mpr (inv.allocated other ref old'))
    · rfl
  · by_cases same : id = caller.operation.scopeID
    · exact same ▸ agree
    · exact AgreesAt.of_frameAt inv found frame same

/-- A step that keeps the maps, the scopes, the atom IDs, the `Attributes`
references, and the stepping caller's part in the invariant. -/
theorem Inv.of_sameView (inv : cfg.Inv) {i : Nat} {caller : Caller}
    (found : cfg.callers[i]? = some caller) (scopeID : String)
    (onID : caller.operation.scopeID = scopeID) {pc : Pc} {w' : World V}
    (heap : w'.heap = cfg.world.heap)
    (hypermind : w'.framework.hypermind = cfg.world.framework.hypermind)
    (atoms : ∀ id, id ∈ w'.framework.aTenSpace.atoms ↔ id ∈ cfg.world.framework.aTenSpace.atoms)
    (attributes : ∀ id, w'.attributesRef id = cfg.world.attributesRef id)
    (admitted : (⟨caller.operation, pc⟩ : Caller).isRunning → cfg.Admits caller.operation)
    (adding : (⟨caller.operation, pc⟩ : Caller).AddingAtom scopeID ↔ caller.AddingAtom scopeID)
    (pending : ∀ state, (⟨caller.operation, pc⟩ : Caller).Pending scopeID state ↔
      caller.Pending scopeID state)
    (merge : ∀ state attributes, (⟨caller.operation, pc⟩ : Caller) =
      ⟨.propagateState scopeID state, .attributesMerge attributes⟩ →
        attributes = cfg.world.attributesRef scopeID) :
    (⟨w', cfg.callers.set i ⟨caller.operation, pc⟩⟩ : Config V).Inv := by
  have stateRefEq : ∀ id, w'.stateRef id = cfg.world.stateRef id := by
    intro id
    simp only [World.stateRef, hypermind]
  refine inv.of_step found scopeID onID ⟨by rw [heap], fun id _ => ⟨by rw [hypermind], stateRefEq id⟩,
    fun id _ => ⟨atoms id, attributes id⟩, fun ref _ _ => by rw [heap], fun ref held => .inl ?_⟩
    admitted ?_
  · simpa only [World.Holds, stateRefEq, attributes] using held
  · refine (inv.agreesAt _).transport (by rw [hypermind]) (stateRefEq _) (atoms _) (attributes _)
      (fun ref _ => by rw [heap]) (exists_set_iff found adding)
      (fun state => exists_set_iff found (pending state)) (fun _ _ => by rw [heap])
      fun state attributes member => ?_
    rcases List.mem_or_eq_of_mem_set member with kept | isNew
    · exact .inl kept
    · exact .inr (merge state attributes isNew.symm)

theorem Inv.of_noop (inv : cfg.Inv) {i : Nat} {caller : Caller}
    (found : cfg.callers[i]? = some caller) :
    (⟨cfg.world, cfg.callers.set i ⟨caller.operation, caller.pc⟩⟩ : Config V).Inv :=
  inv.of_sameView found _ rfl rfl rfl (fun _ => Iff.rfl) (fun _ => rfl)
    (inv.compatible caller (List.getElem?_mem found)) Iff.rfl (fun _ => Iff.rfl)
    fun state attributes isMerge => (inv.agreesAt _).mergeTarget state attributes
      (isMerge ▸ List.getElem?_mem found)

/-- A step between two quiet `pc`s that keeps the maps, the scopes, the atom IDs
and the `Attributes` references. -/
theorem Inv.of_quiet (inv : cfg.Inv) {i : Nat} {caller : Caller}
    (found : cfg.callers[i]? = some caller) (admits : cfg.Admits caller.operation)
    (quiet : caller.pc.Quiet) {pc : Pc} (quiet' : pc.Quiet)
    {w' : World V} (heap : w'.heap = cfg.world.heap)
    (hypermind : w'.framework.hypermind = cfg.world.framework.hypermind)
    (atoms : ∀ id, id ∈ w'.framework.aTenSpace.atoms ↔ id ∈ cfg.world.framework.aTenSpace.atoms)
    (attributes : ∀ id, w'.attributesRef id = cfg.world.attributesRef id) :
    (⟨w', cfg.callers.set i ⟨caller.operation, pc⟩⟩ : Config V).Inv :=
  inv.of_sameView found _ rfl heap hypermind atoms attributes (fun _ => admits)
    (iff_of_false (Caller.not_addingAtom_of_quiet quiet') (Caller.not_addingAtom_of_quiet quiet))
    (fun _ => iff_of_false (Caller.not_pending_of_quiet quiet') (Caller.not_pending_of_quiet quiet))
    fun _ _ isMerge => by
      obtain ⟨-, merging⟩ := Caller.mk.inj isMerge
      subst merging
      exact quiet'.elim

theorem Inv.of_quiet_of_aTenSpace (inv : cfg.Inv) {i : Nat} {caller : Caller}
    (found : cfg.callers[i]? = some caller) (admits : cfg.Admits caller.operation)
    (quiet : caller.pc.Quiet) {pc : Pc} (quiet' : pc.Quiet)
    {w' : World V} (heap : w'.heap = cfg.world.heap)
    (hypermind : w'.framework.hypermind = cfg.world.framework.hypermind)
    (aTenSpace : w'.framework.aTenSpace = cfg.world.framework.aTenSpace) :
    (⟨w', cfg.callers.set i ⟨caller.operation, pc⟩⟩ : Config V).Inv :=
  inv.of_quiet found admits quiet quiet' heap hypermind (fun _ => by rw [aTenSpace])
    fun _ => by simp only [World.attributesRef, aTenSpace]

/-- No `CreateBoundaryScope` of an ID is about to call `AddAtom` beside a
`PropagateState` of the ID that may run. -/
theorem not_addingAtom_of_admits {scopeID : String} {state : MapRef}
    (admits : cfg.Admits (.propagateState scopeID state)) : ¬ cfg.AddingAtom scopeID :=
  fun ⟨other, member, adding⟩ => by
    obtain ⟨_, creating⟩ := adding.operation
    have compatible := admits other member adding.isRunning
    rw [creating] at compatible
    exact Operation.not_compatible_propagate_create compatible

/-- A `PropagateState` that may run agrees with every pending delta of its ID on
their shared keys. -/
theorem deltas_agree {scopeID : String} {state state' : MapRef} {other : Caller}
    (admits : cfg.Admits (.propagateState scopeID state)) (member : other ∈ cfg.callers)
    (pending : other.Pending scopeID state') :
    Agree (cfg.world.heap.maps state) (cfg.world.heap.maps state') := by
  have compatible := admits other member pending.isRunning
  rw [pending.operation] at compatible
  exact compatible rfl

theorem Inv.atom_of_pending (inv : cfg.Inv) {caller : Caller} (member : caller ∈ cfg.callers)
    {scopeID : String} {state : MapRef} (pending : caller.Pending scopeID state) :
    scopeID ∈ cfg.world.framework.aTenSpace.atoms :=
  ((inv.agreesAt scopeID).atom_of_scope
    ((inv.agreesAt scopeID).scope_of_pending state ⟨caller, member, pending⟩)).resolve_right
    (not_addingAtom_of_admits
      (pending.operation ▸ inv.compatible caller member pending.isRunning))

/-- The merge into `Attributes` targets the atom's map, which is not nil. -/
theorem Inv.mergeTarget_some (inv : cfg.Inv) {scopeID : String} {state : MapRef}
    {attributes : Option MapRef}
    (member : (⟨.propagateState scopeID state, .attributesMerge attributes⟩ : Caller) ∈ cfg.callers) :
    ∃ attributesRef, attributes = some attributesRef ∧
      cfg.world.attributesRef scopeID = some attributesRef := by
  have pending : cfg.Pending scopeID state := ⟨_, member, .inr ⟨attributes, rfl⟩⟩
  obtain ⟨-, attributesRef, -, attributesHeld, -⟩ := (inv.agreesAt scopeID).contents
    ((inv.agreesAt scopeID).scope_of_pending state pending)
    (not_addingAtom_of_admits (inv.compatible _ member rfl))
  exact ⟨attributesRef, ((inv.agreesAt scopeID).mergeTarget state attributes member).trans
    attributesHeld, attributesHeld⟩

/-- After a step whose caller is not about to merge into `Attributes`, every
merge caller is one from before. -/
theorem mergeTarget_set {callers : List Caller} {i : Nat} {new : Caller} {scopeID : String}
    {target : Option MapRef} (notMerge : ∀ attributes, new.pc ≠ .attributesMerge attributes)
    (before : ∀ state attributes,
      (⟨.propagateState scopeID state, .attributesMerge attributes⟩ : Caller) ∈ callers →
        attributes = target) (state : MapRef) (attributes : Option MapRef)
    (member : (⟨.propagateState scopeID state, .attributesMerge attributes⟩ : Caller) ∈
      callers.set i new) : attributes = target := by
  rcases List.mem_or_eq_of_mem_set member with kept | isNew
  · exact before state attributes kept
  · exact absurd (congrArg Caller.pc isNew).symm (notMerge attributes)

/-! ## The steps of `CreateBoundaryScope` -/

theorem World.attributesRef_insert (w : World V) (heap : Heap V) (atomID id : String)
    (atom : Atom) :
    World.attributesRef ⟨heap, { w.framework with aTenSpace := { w.framework.aTenSpace with
        atoms := w.framework.aTenSpace.atoms.insert atomID atom } }⟩ id =
      if id = atomID then atom.attributes else w.attributesRef id := by
  by_cases same : id = atomID
  · subst same
    simp [World.attributesRef, AList.lookup_insert]
  · simp [World.attributesRef, AList.lookup_insert_ne same, same]

/-- `RegisterScope` gives the scope a new empty `State`, and its caller moves on
to `AddAtom`. -/
theorem Inv.step_registerScope (inv : cfg.Inv) {i : Nat} {scopeID scopeType : String}
    (found : cfg.callers[i]? = some ⟨.createBoundaryScope scopeID scopeType, .registerScope⟩)
    (named : scopeID ≠ "") :
    (⟨((Operation.createBoundaryScope scopeID scopeType).step .registerScope cfg.world).2,
      cfg.callers.set i ⟨.createBoundaryScope scopeID scopeType,
        ((Operation.createBoundaryScope scopeID scopeType).step .registerScope cfg.world).1⟩⟩ :
        Config V).Inv := by
  have stateRefs : ∀ id, World.stateRef ⟨(cfg.world.heap.alloc ∅).2, { cfg.world.framework with
      hypermind := { cfg.world.framework.hypermind with
        scopes := cfg.world.framework.hypermind.scopes.insert scopeID
          ⟨scopeID, "", scopeType, [], some cfg.world.heap.next⟩ } }⟩ id =
        if id = scopeID then some cfg.world.heap.next else cfg.world.stateRef id := fun id =>
    MultiScopeArchitecture.stateRef_insert _ _ _ _
  simp only [Operation.step_registerScope cfg.world named]
  refine inv.of_step found scopeID rfl ⟨by simp, fun id apart => ⟨?_, ?_⟩,
    fun id _ => ⟨Iff.rfl, rfl⟩, fun ref below _ => (Heap.alloc_extends _ _).maps_eq ref below,
    fun ref held => ?_⟩
    (fun _ => inv.compatible _ (List.getElem?_mem found) rfl) ⟨?_, ?_, ?_, ?_, ?_⟩
  · simp [AList.mem_insert, apart]
  · rw [stateRefs, if_neg apart]
  · rcases held with held | held
    · rw [stateRefs, if_pos rfl, Option.some.injEq] at held
      exact .inr ⟨held ▸ le_refl _, by simp [← held]⟩
    · exact .inl (.inr held)
  · intro _
    refine ⟨named, cfg.world.heap.next, by rw [stateRefs, if_pos rfl], fun k => ?_⟩
    simp
  · exact fun _ => .inr ⟨_, mem_set_new found, scopeType, rfl⟩
  · exact fun _ _ => (AList.mem_insert _).mpr (.inl rfl)
  · exact mergeTarget_set (fun _ => Pc.noConfusion) (inv.agreesAt scopeID).mergeTarget
  · exact fun _ noAdding => absurd ⟨_, mem_set_new found, scopeType, rfl⟩ noAdding

/-- `AddAtom` gives the atom a new empty `Attributes`; the scope's `State` is
empty then, so the two maps agree. -/
theorem Inv.step_addAtom (inv : cfg.Inv) {i : Nat} {scopeID scopeType : String}
    (found : cfg.callers[i]? = some ⟨.createBoundaryScope scopeID scopeType, .addAtom⟩) :
    (⟨((Operation.createBoundaryScope scopeID scopeType).step .addAtom cfg.world).2,
      cfg.callers.set i ⟨.createBoundaryScope scopeID scopeType,
        ((Operation.createBoundaryScope scopeID scopeType).step .addAtom cfg.world).1⟩⟩ :
        Config V).Inv := by
  have self := List.getElem?_mem found
  have admits : cfg.Admits (.createBoundaryScope scopeID scopeType) := inv.compatible _ self rfl
  obtain ⟨named, stateRef, held, empty⟩ :=
    (inv.agreesAt scopeID).addingAtom ⟨_, self, scopeType, rfl⟩
  have apart : ∀ other ∈ cfg.callers, other.isRunning → ∀ state,
      ¬ other.operation = .propagateState scopeID state := fun other member running state same =>
    Operation.not_compatible_propagate_create (same ▸ (admits other member running).symm)
  have below : stateRef < cfg.world.heap.next := inv.allocated _ _ (.inl held)
  have attributesRefs := World.attributesRef_insert cfg.world (cfg.world.heap.alloc ∅).2 scopeID
  simp only [Operation.step_addAtom cfg.world named]
  refine inv.of_step found scopeID rfl ⟨by simp, fun id _ => ⟨Iff.rfl, rfl⟩,
    fun id other => ⟨by simp [AList.mem_insert, other], by rw [attributesRefs, if_neg other]⟩,
    fun ref below _ => (Heap.alloc_extends _ _).maps_eq ref below, fun ref held => ?_⟩
    (fun _ => admits) ⟨?_, fun _ => .inl ((AList.mem_insert _).mpr (.inl rfl)), ?_, ?_, ?_⟩
  · rcases held with held | held
    · exact .inl (.inl held)
    · rw [attributesRefs, if_pos rfl, Option.some.injEq] at held
      exact .inr ⟨held ▸ le_refl _, by simp [← held]⟩
  · intro adding
    obtain ⟨other, member, otherAdding⟩ :=
      exists_of_exists_set (by exact Caller.not_addingAtom_of_quiet trivial) adding
    obtain ⟨-, otherRef, otherHeld, otherEmpty⟩ :=
      (inv.agreesAt scopeID).addingAtom ⟨other, member, otherAdding⟩
    exact ⟨named, otherRef, otherHeld, fun k => by
      rw [(Heap.alloc_extends _ _).maps_eq _ (inv.allocated _ _ (.inl otherHeld))]
      exact otherEmpty k⟩
  · rintro state ⟨other, member, pending⟩
    rcases List.mem_or_eq_of_mem_set member with kept | rfl
    · exact absurd pending.operation (apart other kept pending.isRunning state)
    · exact absurd pending (Caller.not_pending_of_quiet trivial)
  · intro state attributes member
    rcases List.mem_or_eq_of_mem_set member with kept | isNew
    · exact absurd rfl (apart _ kept rfl state)
    · cases isNew
  · refine fun _ _ => ⟨stateRef, cfg.world.heap.next, held, by rw [attributesRefs, if_pos rfl],
      fun state ⟨other, member, pending⟩ => ?_, fun k _ => ?_⟩
    · rcases List.mem_or_eq_of_mem_set member with kept | rfl
      · exact absurd pending.operation (apart other kept pending.isRunning state)
      · exact absurd pending (Caller.not_pending_of_quiet trivial)
    · rw [(Heap.alloc_extends _ _).maps_eq _ below, empty k]
      simp

/-! ## The steps of `PropagateState` -/

/-- The Hypermind merge puts the delta into the scope's `State`; its caller is
then pending with that delta. -/
theorem Inv.step_hypermindMerge (inv : cfg.Inv) {i : Nat} {scopeID : String} {state : MapRef}
    (found : cfg.callers[i]? = some ⟨.propagateState scopeID state, .hypermindMerge⟩)
    (admits : cfg.Admits (.propagateState scopeID state))
    (registered : scopeID ∈ cfg.world.framework.hypermind.scopes) :
    (⟨((Operation.propagateState scopeID state).step .hypermindMerge cfg.world).2,
      cfg.callers.set i ⟨.propagateState scopeID state,
        ((Operation.propagateState scopeID state).step .hypermindMerge cfg.world).1⟩⟩ :
        Config V).Inv := by
  have self := List.getElem?_mem found
  have noAdding : ¬ cfg.AddingAtom scopeID := not_addingAtom_of_admits admits
  obtain ⟨stateRef, attributesRef, held, attributes, values, same⟩ :=
    (inv.agreesAt scopeID).contents registered noAdding
  obtain ⟨scope, scopeFound, scopeHeld⟩ := Option.bind_eq_some.mp held
  have delta : ∀ {other : Caller}, other ∈ cfg.callers → ∀ {state' : MapRef},
      other.operation = .propagateState scopeID state' →
        (cfg.world.heap.write stateRef (mergeInto (cfg.world.heap.maps stateRef)
          (cfg.world.heap.maps state))).maps state' = cfg.world.heap.maps state' := by
    intro other member state' propagating
    have free : (Operation.propagateState scopeID state').DeltaFree cfg.world :=
      propagating ▸ inv.deltaFree _ member
    rw [Heap.write_maps, if_neg fun (same : state' = stateRef) => free.2 scopeID (same ▸ .inl held)]
  simp only [Operation.step_hypermindMerge cfg.world scopeFound scopeHeld]
  refine inv.of_step found scopeID rfl ⟨le_refl _, fun _ _ => ⟨Iff.rfl, rfl⟩,
    fun _ _ => ⟨Iff.rfl, rfl⟩, fun ref _ notHeld => ?_, fun ref held => .inl held⟩ (fun _ => admits)
    ⟨fun adding => absurd (exists_of_exists_set (by exact fun adding => Pc.noConfusion adding.pc) adding)
        noAdding,
      fun _ => ((inv.agreesAt scopeID).atom_of_scope registered).imp_right
        fun adding => absurd adding noAdding, fun _ _ => registered, ?_, fun _ _ => ?_⟩
  · rw [Heap.write_maps, if_neg fun (same : ref = stateRef) => notHeld (.inl (same ▸ held))]
  · exact mergeTarget_set (fun _ => Pc.noConfusion) (inv.agreesAt scopeID).mergeTarget
  · refine ⟨stateRef, attributesRef, held, attributes, ?_, fun k absent => ?_⟩
    · rintro state' ⟨other, member, pending⟩ k v given
      simp only [Heap.write_maps, if_true]
      rcases List.mem_or_eq_of_mem_set member with kept | rfl
      · rw [delta kept pending.operation] at given
        exact lookup_mergeInto_of_agree (values state' ⟨other, kept, pending⟩ k v given)
          fun v' mine => deltas_agree admits kept pending k v' v mine given
      · obtain rfl := (Operation.propagateState.inj pending.operation).2
        rw [delta self rfl] at given
        simp [lookup_mergeInto, given]
    · have absentHere : (cfg.world.heap.maps state).lookup k = none := by
        rw [← delta self rfl]
        exact absent state ⟨_, mem_set_new found, .inl rfl⟩
      have absentBefore : ∀ state', cfg.Pending scopeID state' →
          (cfg.world.heap.maps state').lookup k = none := fun state' ⟨other, member, pending⟩ => by
        rw [← delta member pending.operation]
        exact absent state' (exists_set_of_exists found (Caller.not_pending_of_quiet trivial)
          ⟨other, member, pending⟩)
      by_cases shared : attributesRef = stateRef
      · rw [shared]
      · simp only [Heap.write_maps, if_true, if_neg shared, lookup_mergeInto, absentHere,
          Option.none_or]
        exact same k absentBefore

/-- `GetAtom` finds the atom, since the scope is registered and no atom of the
ID is being replaced; its caller then holds the atom's `Attributes`. -/
theorem Inv.step_getAtom (inv : cfg.Inv) {i : Nat} {scopeID : String} {state : MapRef}
    (found : cfg.callers[i]? = some ⟨.propagateState scopeID state, .getAtom⟩) :
    (⟨((Operation.propagateState scopeID state).step .getAtom cfg.world).2,
      cfg.callers.set i ⟨.propagateState scopeID state,
        ((Operation.propagateState scopeID state).step .getAtom cfg.world).1⟩⟩ :
        Config V).Inv := by
  have self := List.getElem?_mem found
  obtain ⟨atom, atomFound⟩ := Option.isSome_iff_exists.mp
    (AList.lookup_isSome.mpr (inv.atom_of_pending self (.inl rfl)))
  simp only [Operation.step_getAtom cfg.world atomFound]
  refine inv.of_sameView found scopeID rfl rfl rfl (fun _ => Iff.rfl) (fun _ => rfl)
    (fun _ => inv.compatible _ self rfl)
    (iff_of_false (by rintro ⟨_, ⟨⟩⟩) (by rintro ⟨_, ⟨⟩⟩))
    (fun state' => ?_) fun state' attributes isMerge => ?_
  · simp [Caller.Pending, eq_comm]
  · obtain ⟨-, merging⟩ := Caller.mk.inj isMerge
    rw [← Pc.attributesMerge.inj merging]
    simp [World.attributesRef, atomFound]

/-- The merge into `Attributes` makes the atom's map agree again on the
delta's keys; its caller returns. -/
theorem Inv.step_attributesMerge (inv : cfg.Inv) {i : Nat} {scopeID : String} {state : MapRef}
    {attributes : Option MapRef}
    (found : cfg.callers[i]? = some ⟨.propagateState scopeID state, .attributesMerge attributes⟩) :
    (⟨((Operation.propagateState scopeID state).step (.attributesMerge attributes) cfg.world).2,
      cfg.callers.set i ⟨.propagateState scopeID state,
        ((Operation.propagateState scopeID state).step (.attributesMerge attributes)
          cfg.world).1⟩⟩ : Config V).Inv := by
  have self := List.getElem?_mem found
  have admits : cfg.Admits (.propagateState scopeID state) := inv.compatible _ self rfl
  have selfPending : cfg.Pending scopeID state := ⟨_, self, .inr ⟨attributes, rfl⟩⟩
  have registered := (inv.agreesAt scopeID).scope_of_pending state selfPending
  have noAdding : ¬ cfg.AddingAtom scopeID := not_addingAtom_of_admits admits
  obtain ⟨attributesRef, rfl, attributesHeld⟩ := inv.mergeTarget_some self
  obtain ⟨stateRef, target, held, targetHeld, values, same⟩ :=
    (inv.agreesAt scopeID).contents registered noAdding
  obtain rfl : attributesRef = target := Option.some.inj (attributesHeld.symm.trans targetHeld)
  have pendingBefore : ∀ state',
      (⟨cfg.world, cfg.callers.set i ⟨.propagateState scopeID state, .returned (.ok ())⟩⟩ :
        Config V).Pending scopeID state' → cfg.Pending scopeID state' :=
    fun _ => exists_of_exists_set (Caller.not_pending_of_quiet trivial)
  have delta : ∀ {state' : MapRef}, cfg.Pending scopeID state' →
      (cfg.world.heap.write attributesRef (mergeInto (cfg.world.heap.maps attributesRef)
        (cfg.world.heap.maps state))).maps state' = cfg.world.heap.maps state' := by
    intro state' pending
    have free := inv.pending_free pending
    rw [Heap.write_maps, if_neg fun (same : state' = attributesRef) =>
      free.2 scopeID (same ▸ .inr attributesHeld)]
  simp only [Operation.step_attributesMerge]
  refine inv.of_step found scopeID rfl ⟨le_refl _, fun _ _ => ⟨Iff.rfl, rfl⟩,
    fun _ _ => ⟨Iff.rfl, rfl⟩, fun ref _ notHeld => ?_, fun ref held => .inl held⟩ (fun _ => admits)
    ⟨fun adding => absurd (exists_of_exists_set (by exact Caller.not_addingAtom_of_quiet trivial) adding)
        noAdding,
      fun _ => ((inv.agreesAt scopeID).atom_of_scope registered).imp_right
        fun adding => absurd adding noAdding, fun _ _ => registered, ?_, fun _ _ => ?_⟩
  · rw [Heap.write_maps, if_neg fun (same : ref = attributesRef) =>
      notHeld (.inr (same ▸ attributesHeld))]
  · exact mergeTarget_set (fun _ => Pc.noConfusion) (inv.agreesAt scopeID).mergeTarget
  · refine ⟨stateRef, attributesRef, held, attributesHeld, ?_, fun k absent => ?_⟩
    · rintro state' pending k v given
      have before := pendingBefore state' pending
      have ⟨other, member, otherPending⟩ := before
      rw [delta before] at given
      have stateHas := values state' before k v given
      by_cases shared : stateRef = attributesRef
      · subst shared
        simp only [Heap.write_maps, if_true]
        exact lookup_mergeInto_of_agree stateHas
          fun v' mine => deltas_agree admits member otherPending k v' v mine given
      · simpa [Heap.write_maps, shared] using stateHas
    · have merged : (mergeInto (cfg.world.heap.maps attributesRef) (cfg.world.heap.maps state)).lookup k =
          (cfg.world.heap.maps stateRef).lookup k := by
        rw [lookup_mergeInto]
        cases mine : (cfg.world.heap.maps state).lookup k with
        | some v => exact (values state selfPending k v mine).symm
        | none =>
            refine (same k fun state' pending => ?_).symm
            obtain ⟨other, member, otherPending⟩ := pending
            rcases mem_set_or_eq_old found member with kept | rfl
            · rw [← delta ⟨other, member, otherPending⟩]
              exact absent state' ⟨other, kept, otherPending⟩
            · rw [← (Operation.propagateState.inj otherPending.operation).2]
              exact mine
      by_cases shared : stateRef = attributesRef
      · rw [shared]
      · simp only [Heap.write_maps, if_true, if_neg shared]
        exact merged.symm

/-! ## Runs -/

theorem Inv.step (inv : cfg.Inv) (i : Nat)
    (starts : ∀ caller ∈ cfg.callers[i]?, caller.isFresh → cfg.Admits caller.operation) :
    (cfg.step i).Inv := by
  cases found : cfg.callers[i]? with
  | none => simpa only [Config.step, found] using inv
  | some caller =>
      have admits : caller.isFresh ∨ caller.isRunning → cfg.Admits caller.operation :=
        fun active => active.elim (starts caller found)
          (inv.compatible caller (List.getElem?_mem found))
      rw [step_of_getElem? found]
      obtain ⟨operation, pc⟩ := caller
      cases operation with
      | createBoundaryScope scopeID scopeType =>
          cases pc with
          | registerVariable =>
              obtain ⟨next, heap, hypermind, aTenSpace⟩ :=
                @Operation.step_registerVariable V cfg.world scopeID scopeType
              refine inv.of_quiet_of_aTenSpace found (admits (.inl rfl)) trivial ?_ heap hypermind
                aTenSpace
              rcases next with next | ⟨_, next⟩ <;> rw [next] <;> trivial
          | registerScope =>
              by_cases named : scopeID = ""
              · subst named
                obtain ⟨same, _, returned⟩ := @Operation.step_registerScope_empty V cfg.world scopeType
                rw [same, returned]
                exact inv.of_quiet_of_aTenSpace found (admits (.inr rfl)) trivial (by trivial) rfl rfl rfl
              · exact inv.step_registerScope found named
          | addAtom => exact inv.step_addAtom found
          | attachTensor =>
              obtain ⟨⟨_, returned⟩, heap, hypermind, atoms, attributes⟩ :=
                @Operation.step_attachTensor V cfg.world scopeID scopeType
              exact inv.of_quiet found (admits (.inr rfl)) trivial (by rw [returned]; trivial) heap
                hypermind atoms attributes
          | _ => exact inv.of_noop found
      | propagateState scopeID state =>
          cases pc with
          | hypermindMerge =>
              by_cases registered : scopeID ∈ cfg.world.framework.hypermind.scopes
              · exact inv.step_hypermindMerge found (admits (.inl rfl)) registered
              · obtain ⟨same, _, returned⟩ :=
                  @Operation.step_hypermindMerge_of_not_mem V cfg.world scopeID state registered
                rw [same, returned]
                exact inv.of_quiet_of_aTenSpace found (admits (.inl rfl)) trivial (by trivial) rfl rfl rfl
          | getAtom => exact inv.step_getAtom found
          | attributesMerge => exact inv.step_attributesMerge found
          | _ => exact inv.of_noop found

theorem Inv.run : ∀ {cfg : Config V} {schedule : List Nat}, cfg.Inv → cfg.StartsCompatibly schedule →
    (cfg.run schedule).Inv
  | _, [], inv, _ => inv
  | _, i :: _, inv, ⟨starts, rest⟩ => (inv.step i starts).run rest

theorem start_quiet (w : World V) (operations : List Operation) :
    ∀ caller ∈ (start w operations).callers, caller.pc.Quiet := by
  intro caller member
  obtain ⟨operation, -, rfl⟩ := List.mem_map.mp member
  cases operation <;> trivial

/-- Callers with free deltas about to start on a world where the frameworks
agree. -/
theorem Inv.start {w : World V} (agree : w.Agreement) {operations : List Operation}
    (free : ∀ operation ∈ operations, operation.DeltaFree w) : (start w operations).Inv := by
  have quiet := start_quiet w operations
  refine ⟨fun caller member running => ?_, fun caller member => ?_, agree.allocated, agree.separate,
    fun scopeID => ⟨fun ⟨caller, member, adding⟩ =>
        absurd adding (Caller.not_addingAtom_of_quiet (quiet _ member)),
      fun registered => .inl ((agree.atoms_iff scopeID).mpr registered),
      fun _ ⟨caller, member, pending⟩ =>
        absurd pending (Caller.not_pending_of_quiet (quiet _ member)),
      fun _ _ member => (quiet _ member).elim, fun registered _ => ?_⟩⟩
  · obtain ⟨operation, -, rfl⟩ := List.mem_map.mp member
    cases operation <;> cases running
  · obtain ⟨operation, operationMember, rfl⟩ := List.mem_map.mp member
    exact free operation operationMember
  · obtain ⟨stateRef, attributesRef, held, attributesHeld, same⟩ := agree.mapsAgree scopeID registered
    exact ⟨stateRef, attributesRef, held, attributesHeld,
      fun _ ⟨caller, member, pending⟩ => absurd pending (Caller.not_pending_of_quiet (quiet _ member)),
      fun k _ => congrArg (AList.lookup k) same⟩

end Config

/-- From a world reached by sequential calls that keep the scope maps, run
concurrent `CreateBoundaryScope` and `PropagateState` callers whose deltas no
scope or atom holds, under a schedule where each caller starts only beside
running callers it is compatible with. Once every caller has returned, each
scope's `State` map has the entries of the `Attributes` map of the atom with its
ID. At every point a `PropagateState` past its Hypermind merge does not fail in
its next step, and a Hypermind merge that fails changes nothing. -/
theorem concurrent_frameworks_agree (calls : List (Call V))
    (keeps : ∀ call ∈ calls, call.KeepsScopeMaps) (operations : List Operation)
    (free : ∀ operation ∈ operations, operation.DeltaFree ((World.init : World V).run calls))
    (schedule : List Nat)
    (compatible : (Config.start ((World.init : World V).run calls) operations).StartsCompatibly
      schedule) :
    let cfg := (Config.start ((World.init : World V).run calls) operations).run schedule
    (cfg.Quiescent → ∀ scopeID ∈ cfg.world.framework.hypermind.scopes,
        ∃ stateRef attributesRef, cfg.world.stateRef scopeID = some stateRef ∧
          cfg.world.attributesRef scopeID = some attributesRef ∧
          ∀ k, (cfg.world.heap.maps stateRef).lookup k =
            (cfg.world.heap.maps attributesRef).lookup k) ∧
      (∀ caller ∈ cfg.callers, ∀ scopeID state, caller.Pending scopeID state → ∀ err,
        (caller.operation.step caller.pc cfg.world).1 ≠ .returned (.error err)) ∧
      ∀ caller ∈ cfg.callers, ∀ err w', caller.operation.step .hypermindMerge cfg.world =
        (.returned (.error err), w') → w' = cfg.world := by
  intro cfg
  have inv : cfg.Inv := (Config.Inv.start (World.init_agreement.run keeps) free).run compatible
  refine ⟨fun quiescent scopeID registered => ?_, fun caller member scopeID state pending err => ?_,
    fun ⟨operation, pc⟩ _ err w' failed => ?_⟩
  · obtain ⟨stateRef, attributesRef, held, attributesHeld, -, same⟩ :=
      (inv.agreesAt scopeID).contents registered fun ⟨caller, member, adding⟩ =>
        Caller.not_addingAtom_of_quiet (Pc.quiet_of_isReturned (quiescent caller member)) adding
    exact ⟨stateRef, attributesRef, held, attributesHeld, fun k => same k
      fun _ ⟨caller, member, pending⟩ => absurd pending
        (Caller.not_pending_of_quiet (Pc.quiet_of_isReturned (quiescent caller member)))⟩
  · rcases pending with rfl | ⟨attributes, rfl⟩
    · obtain ⟨atom, atomFound⟩ := Option.isSome_iff_exists.mp
        (AList.lookup_isSome.mpr (inv.atom_of_pending member (.inl rfl)))
      simp [Operation.step_getAtom _ atomFound]
    · obtain ⟨attributesRef, rfl, -⟩ := inv.mergeTarget_some member
      simp [Operation.step_attributesMerge]
  · cases operation with
    | createBoundaryScope => cases failed
    | propagateState => exact Operation.step_hypermindMerge_error _ failed

/-- `org-1` created and then given a delta, in turn, while a `PropagateState`
into `org-0` runs beside both: the two calls on `org-1` never overlap, and its
maps end in agreement. -/
theorem concurrent_frameworks_agree_in_turn :
    let calls : List (Call Nat) :=
      [.createBoundaryScope "org-0" "org", .makeMap ((∅ : GoMap Nat).insert "load" 1)]
    let operations : List Operation :=
      [.createBoundaryScope "org-1" "org", .propagateState "org-1" 2, .propagateState "org-0" 2]
    let schedule := [0, 2, 0, 2, 0, 0, 1, 2, 1, 1]
    let start := Config.start ((World.init : World Nat).run calls) operations
    let cfg := start.run schedule
    (∀ call ∈ calls, call.KeepsScopeMaps) ∧
      (∀ operation ∈ operations, operation.DeltaFree ((World.init : World Nat).run calls)) ∧
      start.StartsCompatibly schedule ∧ cfg.Quiescent ∧
      ∃ stateRef attributesRef, cfg.world.stateRef "org-1" = some stateRef ∧
        cfg.world.attributesRef "org-1" = some attributesRef ∧
        ∀ k, (cfg.world.heap.maps stateRef).lookup k = (cfg.world.heap.maps attributesRef).lookup k := by
  refine ⟨?keeps, ?free, ?compatible, ?quiescent,
    (concurrent_frameworks_agree _ ?keeps _ ?free _ ?compatible).1 ?quiescent "org-1" (by decide)⟩
  case keeps => simp [Call.KeepsScopeMaps]
  case free => decide
  case compatible => decide
  case quiescent => decide

/-- Two `PropagateState` calls whose deltas disagree on a key race as well: each
map keeps the delta merged into it last. -/
example :
    let calls : List (Call Nat) := [.createBoundaryScope "x" "t",
      .makeMap ((∅ : GoMap Nat).insert "k" 1), .makeMap ((∅ : GoMap Nat).insert "k" 2)]
    let cfg := (Config.start ((World.init : World Nat).run calls)
      [.propagateState "x" 2, .propagateState "x" 3]).run [0, 1, 1, 1, 0, 0]
    cfg.Quiescent ∧ (cfg.world.heap.maps 0).lookup "k" = some 2 ∧
      (cfg.world.heap.maps 1).lookup "k" = some 1 := by
  decide

/-- A delta that is another scope's `State` map is read at each merge: `a`
merges `b`'s empty `State`, `b` then gets `k`, and `a`'s `Attributes` merge
reads `k`. -/
example :
    let calls : List (Call Nat) := [.createBoundaryScope "a" "t", .createBoundaryScope "b" "t",
      .makeMap ((∅ : GoMap Nat).insert "k" 1)]
    let cfg := (Config.start ((World.init : World Nat).run calls)
      [.propagateState "a" 2, .propagateState "b" 4]).run [0, 0, 1, 1, 1, 0]
    cfg.Quiescent ∧ cfg.world.stateRef "a" = some 0 ∧ cfg.world.attributesRef "a" = some 1 ∧
      (cfg.world.heap.maps 0).lookup "k" = none ∧ (cfg.world.heap.maps 1).lookup "k" = some 1 := by
  decide

end ATenBound.Integration
