import ATenBound.Integration.Basic
import ATenBound.Hypermind.Registry
import ATenBound.ATenSpace.Properties

/-!
# The three frameworks agree on every scope

`CreateBoundaryScope` writes one scope into each framework, and the framework's
`PropagateState` merges one delta into the scope's `State` and into the atom's
`Attributes`. Over every run of framework calls, mixed with the component calls
that leave the variable, scope, atom and tensor maps alone (`KeepsScopeMaps`):

* the variables, the scopes and the atoms have the same IDs; every such atom
  names the tensor `id ++ "_tensor"`, which the store holds; the scope's `State`
  map and the atom's `Attributes` map have the same contents (`Agreement`);
* so `CreateBoundaryScope` fails only on an empty ID, `PropagateState` only on an
  ID never created, both changing nothing then, and `QueryScope` finds all three
  records or none (`frameworks_agree`).

Whatever the calls, every link of the space ends at atoms (`links_resolve`).
-/

namespace ATenBound.Integration

open TensorLogic Hypermind ATenSpace UnifiedFramework

variable {V : Type}

namespace Call

/-- The calls after which the frameworks still agree: the framework's own, and
the component calls that change neither the variable, scope, atom and tensor
maps nor a scope's `State` map (Hypermind's `PropagateState` changes the
latter). -/
def KeepsScopeMaps : Call V → Prop
  | .registerVariable _ | .registerScope _ | .propagateScopeState _ _ | .addAtom _
  | .attachTensor _ _ => False
  | _ => True

end Call

namespace World

def stateRef (w : World V) (scopeID : String) : Option MapRef :=
  w.framework.hypermind.stateRef scopeID

def attributesRef (w : World V) (atomID : String) : Option MapRef :=
  (w.framework.aTenSpace.atoms.lookup atomID).bind (·.attributes)

/-- `ref` is the `State` map of scope `id` or the `Attributes` map of atom `id`. -/
def Holds (w : World V) (id : String) (ref : MapRef) : Prop :=
  w.stateRef id = some ref ∨ w.attributesRef id = some ref

/-- The frameworks agree on every scope ID, and the maps they hold for one ID
are allocated and held for no other ID. -/
structure Agreement (w : World V) : Prop where
  variables_iff : ∀ id, id ∈ w.framework.tensorLogic.vars ↔ id ∈ w.framework.hypermind.scopes
  atoms_iff : ∀ id, id ∈ w.framework.aTenSpace.atoms ↔ id ∈ w.framework.hypermind.scopes
  tensorAttached : ∀ id atom, w.framework.aTenSpace.atoms.lookup id = some atom →
    atom.tensorID = id ++ "_tensor" ∧
      w.framework.aTenSpace.tensorStore.lookup (id ++ "_tensor") = some (scopeTensor id)
  mapsAgree : ∀ id ∈ w.framework.hypermind.scopes, ∃ stateRef attributesRef,
    w.stateRef id = some stateRef ∧ w.attributesRef id = some attributesRef ∧
      w.heap.maps stateRef = w.heap.maps attributesRef
  allocated : ∀ id ref, w.Holds id ref → ref < w.heap.next
  separate : ∀ id other ref, w.Holds id ref → w.Holds other ref → id = other

/-- `w'` has the variable, scope, atom and tensor maps of `w`, and a heap that
only allocated maps. -/
structure SameScopeMaps (w w' : World V) : Prop where
  vars : w'.framework.tensorLogic.vars = w.framework.tensorLogic.vars
  scopes : w'.framework.hypermind.scopes = w.framework.hypermind.scopes
  atoms : w'.framework.aTenSpace.atoms = w.framework.aTenSpace.atoms
  tensorStore : w'.framework.aTenSpace.tensorStore = w.framework.aTenSpace.tensorStore
  heap : w.heap.Extends w'.heap

theorem init_agreement : (init : World V).Agreement where
  variables_iff _ := by simp [init, newUnifiedFramework, newFramework, newMultiScopeArchitecture]
  atoms_iff _ := by simp [init, newUnifiedFramework, newSpace, newMultiScopeArchitecture]
  tensorAttached _ _ found := by simp [init, newUnifiedFramework, newSpace] at found
  mapsAgree _ registered := by simp [init, newUnifiedFramework, newMultiScopeArchitecture] at registered
  allocated _ _ held := by
    simp [Holds, stateRef, attributesRef, MultiScopeArchitecture.stateRef, init,
      newUnifiedFramework, newMultiScopeArchitecture, newSpace] at held
  separate _ _ _ held := by
    simp [Holds, stateRef, attributesRef, MultiScopeArchitecture.stateRef, init,
      newUnifiedFramework, newMultiScopeArchitecture, newSpace] at held

end World

/-! ## One call -/

section Step

variable (w : World V)

/-- `DefineBoundary` appends a boundary and maybe allocates its `Properties`. -/
theorem World.sameScopeMaps_defineBoundary (boundary : Option DomainBoundary) :
    w.SameScopeMaps ⟨(w.framework.aTenSpace.defineBoundary w.heap boundary).2.1,
      { w.framework with aTenSpace := (w.framework.aTenSpace.defineBoundary w.heap boundary).2.2 }⟩ := by
  refine ⟨rfl, rfl, (w.framework.aTenSpace.defineBoundary_links w.heap boundary).2, ?_, ?_⟩ <;>
    rcases boundary with _ | boundary
  · rfl
  · by_cases named : boundary.id = "" <;> simp [Space.defineBoundary, named]
  · exact .refl _
  · by_cases named : boundary.id = "" <;>
      simp [Space.defineBoundary, named, Heap.Extends.refl, Heap.makeIfNil_extends]

/-- What a call that keeps the scope maps can do: leave them alone (all but two
calls), create a scope, or propagate a delta. -/
theorem Call.keepsScopeMaps_cases {call : Call V} (keeps : call.KeepsScopeMaps) :
    (w.SameScopeMaps (call.exec w).2 ∧
      ∀ scopeID scopeType, call ≠ .createBoundaryScope scopeID scopeType) ∨
      (∃ scopeID scopeType, call = .createBoundaryScope scopeID scopeType) ∨
      ∃ scopeID state, call = .propagateState scopeID state := by
  cases call with
  | makeMap contents =>
      exact .inl ⟨⟨rfl, rfl, rfl, rfl, Heap.alloc_extends _ _⟩, fun _ _ => Call.noConfusion⟩
  | defineEquation eq =>
      exact .inl ⟨⟨by cases eq <;> rfl, rfl, rfl, rfl, .refl _⟩, fun _ _ => Call.noConfusion⟩
  | connectPeer peer =>
      exact .inl ⟨⟨rfl,
        Hypermind.Action.exec_connectPeer_scopes ⟨w.heap, w.framework.hypermind⟩ peer,
        rfl, rfl, .refl _⟩, fun _ _ => Call.noConfusion⟩
  | addLink link =>
      refine .inl ⟨⟨rfl, rfl, (w.framework.aTenSpace.addLink_grows link).1, ?_, .refl _⟩,
        fun _ _ => Call.noConfusion⟩
      rcases link with _ | link
      · rfl
      · simp only [Call.exec, Space.addLink]
        split_ifs <;> rfl
  | defineBoundary boundary =>
      exact .inl ⟨w.sameScopeMaps_defineBoundary boundary, fun _ _ => Call.noConfusion⟩
  | defineDomainBoundary boundaryID boundaryType atomIDs =>
      refine .inl ⟨?_, fun _ _ => Call.noConfusion⟩
      simp only [Call.exec, defineDomainBoundary_snd]
      exact w.sameScopeMaps_defineBoundary _
  | createBoundaryScope scopeID scopeType => exact .inr (.inl ⟨scopeID, scopeType, rfl⟩)
  | propagateState scopeID state => exact .inr (.inr ⟨scopeID, state, rfl⟩)
  | registerVariable | registerScope | propagateScopeState | addAtom | attachTensor =>
      exact keeps.elim

@[simp]
theorem Call.exec_createBoundaryScope_empty (scopeType : String) :
    ((Call.createBoundaryScope "" scopeType).exec w).2 = w :=
  rfl

@[simp]
theorem Call.exec_propagateState_framework (scopeID : String) (state : GoMap V) :
    ((Call.propagateState scopeID state).exec w).2.framework = w.framework :=
  propagateState_framework _ _ _ _

theorem Call.exec_propagateState_of_not_mem {scopeID : String} (state : GoMap V)
    (unregistered : scopeID ∉ w.framework.hypermind.scopes) :
    (Call.propagateState scopeID state).exec w =
      (.error (.wrap (.new .invalidParameter "hypermind.(MultiScopeArchitecture).PropagateState"
        s!"scope {scopeID} not found") "integration.(UnifiedFramework).PropagateState" ""), w) := by
  simp [Call.exec, propagateState_of_not_mem _ _ _ (AList.lookup_eq_none.mpr unregistered)]

section Create

variable {scopeID : String} (scopeType : String)

theorem World.stateRef_createBoundaryScope (named : scopeID ≠ "") (id : String) :
    ((Call.createBoundaryScope scopeID scopeType).exec w).2.stateRef id =
      if id = scopeID then some w.heap.next else w.stateRef id := by
  by_cases same : id = scopeID
  · subst same
    simp [Call.exec, createBoundaryScope_of_ne _ _ _ named, World.stateRef,
      MultiScopeArchitecture.stateRef]
  · simp [Call.exec, createBoundaryScope_of_ne _ _ _ named, World.stateRef,
      MultiScopeArchitecture.stateRef, same]

theorem World.attributesRef_createBoundaryScope (named : scopeID ≠ "") (id : String) :
    ((Call.createBoundaryScope scopeID scopeType).exec w).2.attributesRef id =
      if id = scopeID then some (w.heap.next + 1) else w.attributesRef id := by
  by_cases same : id = scopeID
  · subst same
    simp [Call.exec, createBoundaryScope_of_ne _ _ _ named, World.attributesRef]
  · simp [Call.exec, createBoundaryScope_of_ne _ _ _ named, World.attributesRef, same]

theorem World.holds_createBoundaryScope (named : scopeID ≠ "") (id : String) (ref : MapRef) :
    ((Call.createBoundaryScope scopeID scopeType).exec w).2.Holds id ref ↔
      if id = scopeID then ref = w.heap.next ∨ ref = w.heap.next + 1 else w.Holds id ref := by
  by_cases same : id = scopeID <;>
    simp [World.Holds, w.stateRef_createBoundaryScope scopeType named,
      w.attributesRef_createBoundaryScope scopeType named, same, eq_comm]

theorem World.maps_createBoundaryScope_of_lt (named : scopeID ≠ "") {ref : MapRef}
    (below : ref < w.heap.next) :
    ((Call.createBoundaryScope scopeID scopeType).exec w).2.heap.maps ref = w.heap.maps ref := by
  simp [Call.exec, createBoundaryScope_of_ne _ _ _ named, Nat.ne_of_lt below,
    Nat.ne_of_lt (Nat.lt_succ_of_lt below)]

end Create

end Step

/-! ## The agreement over runs -/

namespace World

variable {w : World V}

/-- The agreement reads only the scope maps and the allocated maps. -/
theorem Agreement.of_sameScopeMaps {w' : World V} (agree : w.Agreement)
    (same : w.SameScopeMaps w') : w'.Agreement := by
  obtain ⟨vars, scopes, atoms, tensorStore, heap⟩ := same
  have stateRefEq : w'.stateRef = w.stateRef := by
    funext id
    simp only [stateRef, MultiScopeArchitecture.stateRef, scopes]
  have attributesRefEq : w'.attributesRef = w.attributesRef := by
    funext id
    simp only [attributesRef, atoms]
  have holdsEq : w'.Holds = w.Holds := by
    funext id ref
    simp only [Holds, stateRefEq, attributesRefEq]
  refine ⟨?_, ?_, ?_, ?_, ?_, ?_⟩
  · rw [vars, scopes]
    exact agree.variables_iff
  · rw [atoms, scopes]
    exact agree.atoms_iff
  · rw [atoms, tensorStore]
    exact agree.tensorAttached
  · rw [scopes, stateRefEq, attributesRefEq]
    intro id registered
    obtain ⟨stateRef, attributesRef, held, attributes, same⟩ := agree.mapsAgree id registered
    refine ⟨stateRef, attributesRef, held, attributes, ?_⟩
    rw [heap.maps_eq _ (agree.allocated id _ (.inl held)),
      heap.maps_eq _ (agree.allocated id _ (.inr attributes)), same]
  · rw [holdsEq]
    exact fun id ref held => lt_of_lt_of_le (agree.allocated id ref held) heap.next_le
  · rw [holdsEq]
    exact agree.separate

/-- The agreement of `w` with a heap that allocated nothing more and keeps the
two maps of every scope equal. -/
theorem Agreement.withHeap (agree : w.Agreement) {heap : Heap V} (next : heap.next = w.heap.next)
    (mapsAgree : ∀ id stateRef attributesRef, w.stateRef id = some stateRef →
      w.attributesRef id = some attributesRef → w.heap.maps stateRef = w.heap.maps attributesRef →
        heap.maps stateRef = heap.maps attributesRef) :
    (⟨heap, w.framework⟩ : World V).Agreement where
  variables_iff := agree.variables_iff
  atoms_iff := agree.atoms_iff
  tensorAttached := agree.tensorAttached
  mapsAgree id registered := by
    obtain ⟨stateRef, attributesRef, held, attributes, agrees⟩ := agree.mapsAgree id registered
    exact ⟨stateRef, attributesRef, held, attributes, mapsAgree id _ _ held attributes agrees⟩
  allocated id ref held := next ▸ agree.allocated id ref held
  separate := agree.separate

theorem Agreement.createBoundaryScope (agree : w.Agreement) (scopeID scopeType : String) :
    ((Call.createBoundaryScope scopeID scopeType).exec w).2.Agreement := by
  by_cases named : scopeID = ""
  · subst named
    exact agree
  have holds := w.holds_createBoundaryScope scopeType named
  refine ⟨fun id => ?_, fun id => ?_, fun id atom found => ?_, fun id registered => ?_,
    fun id ref held => ?_, fun id other ref held heldOther => ?_⟩
  · simp [Call.exec, createBoundaryScope_of_ne _ _ _ named, AList.mem_insert,
      agree.variables_iff id]
  · simp [Call.exec, createBoundaryScope_of_ne _ _ _ named, AList.mem_insert, agree.atoms_iff id]
  · simp only [Call.exec, createBoundaryScope_of_ne _ _ _ named] at found ⊢
    by_cases same : id = scopeID
    · subst same
      simp only [AList.lookup_insert, Option.some.injEq] at found
      subst found
      simp [AList.lookup_insert]
    · rw [AList.lookup_insert_ne same] at found
      rw [AList.lookup_insert_ne fun tensorSame => same (scopeTensor_id_inj tensorSame)]
      exact agree.tensorAttached id atom found
  · rw [w.stateRef_createBoundaryScope scopeType named,
      w.attributesRef_createBoundaryScope scopeType named]
    by_cases same : id = scopeID
    · subst same
      simp [Call.exec, createBoundaryScope_of_ne _ _ _ named]
    · simp only [Call.exec, createBoundaryScope_of_ne _ _ _ named, AList.mem_insert, same,
        false_or] at registered
      obtain ⟨stateRef, attributesRef, held, attributes, agrees⟩ := agree.mapsAgree id registered
      refine ⟨stateRef, attributesRef, by simp [same, held], by simp [same, attributes], ?_⟩
      rw [w.maps_createBoundaryScope_of_lt scopeType named (agree.allocated id _ (.inl held)),
        w.maps_createBoundaryScope_of_lt scopeType named (agree.allocated id _ (.inr attributes)),
        agrees]
  · rw [holds] at held
    simp only [Call.exec, createBoundaryScope_of_ne _ _ _ named, Heap.alloc_next]
    split_ifs at held
    · dsimp only [MapRef] at held ⊢
      omega
    · have := agree.allocated id ref held
      dsimp only [MapRef] at this ⊢
      omega
  · rw [holds] at held heldOther
    split_ifs at held heldOther with same sameOther
    · rw [same, sameOther]
    · have := agree.allocated other ref heldOther
      dsimp only [MapRef] at this held
      omega
    · have := agree.allocated id ref held
      dsimp only [MapRef] at this heldOther
      omega
    · exact agree.separate id other ref held heldOther

/-- Under the agreement, `PropagateState` of a registered ID merges the delta
into its `State` map and then into its `Attributes` map, and succeeds. -/
theorem Agreement.exec_propagateState_of_mem (agree : w.Agreement) {scopeID : String}
    (registered : scopeID ∈ w.framework.hypermind.scopes) (state : GoMap V) :
    ∃ stateRef attributesRef, w.stateRef scopeID = some stateRef ∧
      w.attributesRef scopeID = some attributesRef ∧
      (Call.propagateState scopeID state).exec w =
        (.ok (), ⟨(w.heap.write stateRef (mergeInto (w.heap.maps stateRef) state)).write
          attributesRef (mergeInto ((w.heap.write stateRef
            (mergeInto (w.heap.maps stateRef) state)).maps attributesRef) state), w.framework⟩) := by
  obtain ⟨stateRef, attributesRef, held, attributes, -⟩ := agree.mapsAgree scopeID registered
  obtain ⟨scope, found, scopeHeld⟩ := Option.bind_eq_some.mp held
  obtain ⟨atom, atomFound, atomAttributes⟩ := Option.bind_eq_some.mp attributes
  exact ⟨stateRef, attributesRef, held, attributes, by
    simp [Call.exec, propagateState_of_lookup _ _ _ found scopeHeld atomFound atomAttributes]⟩

theorem Agreement.propagateState (agree : w.Agreement) (scopeID : String) (state : GoMap V) :
    ((Call.propagateState scopeID state).exec w).2.Agreement := by
  by_cases registered : scopeID ∈ w.framework.hypermind.scopes
  · obtain ⟨stateRef, attributesRef, held, attributes, step⟩ :=
      agree.exec_propagateState_of_mem registered state
    rw [step]
    refine agree.withHeap rfl fun id stateRef' attributesRef' held' attributes' agrees => ?_
    by_cases same : id = scopeID
    · subst same
      rw [held, Option.some.injEq] at held'
      rw [attributes, Option.some.injEq] at attributes'
      subst held' attributes'
      by_cases shared : stateRef = attributesRef
      · rw [shared]
      · simp [shared, Ne.symm shared, agrees]
    · have apart : ∀ ref, w.Holds id ref → ref ≠ stateRef ∧ ref ≠ attributesRef :=
        fun ref heldHere => ⟨fun eq => same (agree.separate _ _ _ heldHere (eq ▸ .inl held)),
          fun eq => same (agree.separate _ _ _ heldHere (eq ▸ .inr attributes))⟩
      have stateApart := apart _ (.inl held')
      have attributesApart := apart _ (.inr attributes')
      simp only [Heap.write_maps, if_neg stateApart.1, if_neg stateApart.2,
        if_neg attributesApart.1, if_neg attributesApart.2]
      exact agrees
  · rw [Call.exec_propagateState_of_not_mem w state registered]
    exact agree

theorem Agreement.exec (agree : w.Agreement) {call : Call V} (keeps : call.KeepsScopeMaps) :
    (call.exec w).2.Agreement := by
  rcases Call.keepsScopeMaps_cases w keeps with
    ⟨same, -⟩ | ⟨scopeID, scopeType, rfl⟩ | ⟨scopeID, state, rfl⟩
  · exact agree.of_sameScopeMaps same
  · exact agree.createBoundaryScope scopeID scopeType
  · exact agree.propagateState scopeID state

theorem Agreement.run : ∀ {w : World V} {calls : List (Call V)}, w.Agreement →
    (∀ call ∈ calls, call.KeepsScopeMaps) → (w.run calls).Agreement
  | _, [], agree, _ => agree
  | _, _ :: _, agree, keeps =>
      (agree.exec (keeps _ (.head _))).run fun call member => keeps call (.tail _ member)

/-- Only a `CreateBoundaryScope` of a non-empty ID registers a scope. -/
theorem mem_scopes_exec (w : World V) {call : Call V} (keeps : call.KeepsScopeMaps)
    (id : String) :
    id ∈ (call.exec w).2.framework.hypermind.scopes ↔ id ∈ w.framework.hypermind.scopes ∨
      ∃ scopeType, call = .createBoundaryScope id scopeType ∧ id ≠ "" := by
  rcases Call.keepsScopeMaps_cases w keeps with
    ⟨same, notCreate⟩ | ⟨scopeID, scopeType, rfl⟩ | ⟨scopeID, state, rfl⟩
  · simp [same.scopes, notCreate]
  · by_cases named : scopeID = ""
    · subst named
      simp only [Call.exec_createBoundaryScope_empty, Call.createBoundaryScope.injEq]
      constructor
      · exact .inl
      · rintro (registered | ⟨_, ⟨rfl, -⟩, named⟩)
        · exact registered
        · exact absurd rfl named
    · simp only [Call.exec, createBoundaryScope_of_ne _ _ _ named, AList.mem_insert,
        Call.createBoundaryScope.injEq]
      constructor
      · rintro (rfl | registered)
        · exact .inr ⟨scopeType, ⟨rfl, rfl⟩, named⟩
        · exact .inl registered
      · rintro (registered | ⟨_, ⟨rfl, -⟩, -⟩)
        · exact .inr registered
        · exact .inl rfl
  · simp

theorem mem_scopes_run {w : World V} :
    ∀ {calls : List (Call V)}, (∀ call ∈ calls, call.KeepsScopeMaps) → ∀ id,
      id ∈ (w.run calls).framework.hypermind.scopes ↔ id ∈ w.framework.hypermind.scopes ∨
        ∃ scopeType, .createBoundaryScope id scopeType ∈ calls ∧ id ≠ ""
  | [], _, id => by simp
  | call :: rest, keeps, id => by
      rw [run_cons, mem_scopes_run (fun call member => keeps call (.tail _ member)),
        mem_scopes_exec w (keeps call (.head _))]
      simp only [List.mem_cons]
      constructor
      · rintro ((registered | ⟨scopeType, rfl, named⟩) | ⟨scopeType, member, named⟩)
        · exact .inl registered
        · exact .inr ⟨scopeType, .inl rfl, named⟩
        · exact .inr ⟨scopeType, .inr member, named⟩
      · rintro (registered | ⟨scopeType, rfl | member, named⟩)
        · exact .inl (.inl registered)
        · exact .inl (.inr ⟨scopeType, rfl, named⟩)
        · exact .inr ⟨scopeType, member, named⟩

theorem createBoundaryScope_fails_iff (w : World V) (scopeID scopeType : String) :
    ((Call.createBoundaryScope scopeID scopeType).exec w).1 ≠ .ok () ↔ scopeID = "" := by
  by_cases named : scopeID = ""
  · subst named
    simp [Call.exec, createBoundaryScope_empty]
  · simp [Call.exec, createBoundaryScope_of_ne _ _ _ named, named]

theorem Agreement.propagateState_fails_iff (agree : w.Agreement) (scopeID : String)
    (state : GoMap V) :
    ((Call.propagateState scopeID state).exec w).1 ≠ .ok () ↔
      scopeID ∉ w.framework.hypermind.scopes := by
  by_cases registered : scopeID ∈ w.framework.hypermind.scopes
  · obtain ⟨_, _, -, -, step⟩ := agree.exec_propagateState_of_mem registered state
    simp [step, registered]
  · simp [Call.exec_propagateState_of_not_mem w state registered, registered]

/-- Under the agreement, `QueryScope` finds the variable, the scope and the atom
of an ID, or none of them. -/
theorem Agreement.queryScope (agree : w.Agreement) (scopeID : String) :
    (∃ v scope atom,
      w.framework.queryScope scopeID = .ok ⟨scopeID, some v, some scope, some atom⟩) ∨
      w.framework.queryScope scopeID = .ok ⟨scopeID, none, none, none⟩ := by
  by_cases registered : scopeID ∈ w.framework.hypermind.scopes
  · obtain ⟨v, named⟩ := Option.isSome_iff_exists.mp
      (AList.lookup_isSome.mpr ((agree.variables_iff scopeID).mpr registered))
    obtain ⟨scope, found⟩ := Option.isSome_iff_exists.mp (AList.lookup_isSome.mpr registered)
    obtain ⟨atom, atomFound⟩ := Option.isSome_iff_exists.mp
      (AList.lookup_isSome.mpr ((agree.atoms_iff scopeID).mpr registered))
    exact .inl ⟨v, scope, atom, by simp [UnifiedFramework.queryScope, Framework.evaluate,
      MultiScopeArchitecture.getScope, Space.getAtom, Except.toOption, named, found, atomFound]⟩
  · have unnamed := AList.lookup_eq_none.mpr (mt (agree.variables_iff scopeID).mp registered)
    have missing := AList.lookup_eq_none.mpr (mt (agree.atoms_iff scopeID).mp registered)
    right
    simp [UnifiedFramework.queryScope, Framework.evaluate, MultiScopeArchitecture.getScope,
      Space.getAtom, Except.toOption, unnamed, AList.lookup_eq_none.mpr registered, missing]

end World

/-! ## The three frameworks agree -/

open World in
/-- Over every run of framework calls mixed with component calls that leave the
scope maps alone: the frameworks agree; `CreateBoundaryScope` fails exactly on
the empty ID and `PropagateState` exactly on an ID never created, both changing
nothing then; and `QueryScope` finds all three records of an ID or none. -/
theorem frameworks_agree (calls : List (Call V)) (keeps : ∀ call ∈ calls, call.KeepsScopeMaps) :
    let w := (init : World V).run calls
    w.Agreement ∧
      (∀ scopeID scopeType,
        ((Call.createBoundaryScope scopeID scopeType).exec w).1 ≠ .ok () ↔ scopeID = "") ∧
      (∀ scopeID scopeType, ((Call.createBoundaryScope scopeID scopeType).exec w).1 ≠ .ok () →
        ((Call.createBoundaryScope scopeID scopeType).exec w).2 = w) ∧
      (∀ scopeID state, ((Call.propagateState scopeID state).exec w).1 ≠ .ok () ↔
        ¬ ∃ scopeType, .createBoundaryScope scopeID scopeType ∈ calls ∧ scopeID ≠ "") ∧
      (∀ scopeID state, ((Call.propagateState scopeID state).exec w).1 ≠ .ok () →
        ((Call.propagateState scopeID state).exec w).2 = w) ∧
      ∀ scopeID, (∃ v scope atom,
          w.framework.queryScope scopeID = .ok ⟨scopeID, some v, some scope, some atom⟩) ∨
        w.framework.queryScope scopeID = .ok ⟨scopeID, none, none, none⟩ := by
  intro w
  have agree : w.Agreement := init_agreement.run keeps
  have created : ∀ scopeID, scopeID ∈ w.framework.hypermind.scopes ↔
      ∃ scopeType, .createBoundaryScope scopeID scopeType ∈ calls ∧ scopeID ≠ "" := by
    intro scopeID
    rw [mem_scopes_run keeps]
    simp [init, newUnifiedFramework, newMultiScopeArchitecture]
  refine ⟨agree, createBoundaryScope_fails_iff w, fun scopeID scopeType failed => ?_,
    fun scopeID state => by rw [agree.propagateState_fails_iff, created],
    fun scopeID state failed => ?_, agree.queryScope⟩
  · rw [(createBoundaryScope_fails_iff w scopeID scopeType).mp failed]
    rfl
  · rw [Call.exec_propagateState_of_not_mem w state
      ((agree.propagateState_fails_iff scopeID state).mp failed)]

/-- Two scopes created, a delta propagated to one and a peer connected: the
frameworks agree afterwards. -/
theorem frameworks_agree_two_orgs :
    let calls : List (Call String) :=
      [.createBoundaryScope "org-1" "org", .createBoundaryScope "org-2" "org",
        .propagateState "org-1" ((∅ : GoMap String).insert "status" "active"), .connectPeer none]
    (∀ call ∈ calls, call.KeepsScopeMaps) ∧ ((World.init : World String).run calls).Agreement :=
  ⟨by simp [Call.KeepsScopeMaps], (frameworks_agree _ (by simp [Call.KeepsScopeMaps])).1⟩

/-! ## Links -/

theorem Call.exec_linksResolve (w : World V) (call : Call V)
    (resolve : w.framework.aTenSpace.LinksResolve) :
    (call.exec w).2.framework.aTenSpace.LinksResolve := by
  cases call with
  | addAtom atom => exact Space.addAtom_linksResolve resolve _ atom
  | addLink link => exact Space.addLink_linksResolve resolve link
  | attachTensor atomID tensor => exact Space.attachTensor_linksResolve resolve atomID tensor
  | defineBoundary boundary => exact Space.defineBoundary_linksResolve resolve _ boundary
  | createBoundaryScope scopeID scopeType =>
      by_cases named : scopeID = ""
      · subst named
        exact resolve
      · simp only [Call.exec, createBoundaryScope_of_ne _ _ _ named]
        exact resolve.of_grows (fun _ kept => (AList.mem_insert _).mpr (.inr kept))
          ⟨[], (List.append_nil _).symm, by simp⟩
  | defineDomainBoundary boundaryID boundaryType atomIDs =>
      simp only [Call.exec, defineDomainBoundary_snd]
      exact Space.defineBoundary_linksResolve resolve _ _
  | propagateState scopeID state =>
      rw [Call.exec_propagateState_framework]
      exact resolve
  | makeMap | registerVariable | defineEquation | registerScope | propagateScopeState
  | connectPeer => exact resolve

/-- Whatever the calls, every link of the space ends at atoms, so both ends of
every link `GetLinksForAtom` returns are found by `GetAtom`. -/
theorem links_resolve (calls : List (Call V)) :
    let s := ((World.init : World V).run calls).framework.aTenSpace
    (∀ link ∈ s.links, link.source ∈ s.atoms ∧ link.target ∈ s.atoms) ∧
      ∀ atomID, ∀ link ∈ s.getLinksForAtom atomID,
        (∃ atom, s.getAtom link.source = .ok atom) ∧ ∃ atom, s.getAtom link.target = .ok atom := by
  have resolve := @World.run_induction V (fun w => w.framework.aTenSpace.LinksResolve)
    Call.exec_linksResolve World.init calls Space.newSpace_linksResolve
  exact ⟨resolve, Space.getLinksForAtom_resolve resolve⟩

end ATenBound.Integration
