import ATenBound.Integration.Agreement

/-!
# Concurrent callers of the framework

`UnifiedFramework` and TensorLogic's `Framework` hold no lock; Hypermind and
ATenSpace lock themselves for one method call, and the merge loop of
`PropagateState` runs unlocked. A call is a sequence of atomic steps:

* `CreateBoundaryScope`: `RegisterVariable`, `RegisterScope`, `AddAtom`,
  `AttachTensor`, stopping at the first error;
* `PropagateState`: the Hypermind merge, `GetAtom`, then the merge loop into the
  atom's `Attributes`. The delta is the caller's map, read at both merges.

That a TensorLogic call or the unlocked loop is one step is an assumption: in Go
these are racy map writes. A schedule says whose step comes next. Run alone, a
caller makes the sequential call (`run_alone_propagateState`); interleaved, a
`PropagateState` can fail on a scope that has no atom yet (`create_propagate_race`).
-/

namespace ATenBound.Integration

open TensorLogic Hypermind ATenSpace UnifiedFramework

variable {V : Type}

/-- A call of the framework made by a concurrent caller; `state` is the
reference of the delta's map. -/
inductive Operation where
  | createBoundaryScope (scopeID scopeType : String)
  | propagateState (scopeID : String) (state : MapRef)

/-- Where a caller stands: the atomic step it takes next, or what it returned.
`attributesMerge` holds the `Attributes` of the atom `GetAtom` returned. -/
inductive Pc where
  | registerVariable
  | registerScope
  | addAtom
  | attachTensor
  | hypermindMerge
  | getAtom
  | attributesMerge (attributes : Option MapRef)
  | returned (result : Except Err Unit)

def Pc.isReturned : Pc → Bool
  | .returned _ => true
  | _ => false

namespace Operation

def scopeID : Operation → String
  | .createBoundaryScope scopeID _ => scopeID
  | .propagateState scopeID _ => scopeID

def entry : Operation → Pc
  | .createBoundaryScope _ _ => .registerVariable
  | .propagateState _ _ => .hypermindMerge

/-- One atomic step of a call at `pc`: the next `pc` and the world after it. A
returned call, or a `pc` the call never reaches, does nothing. -/
def step : Operation → Pc → World V → Pc × World V
  | .createBoundaryScope scopeID _, .registerVariable, w =>
      match w.framework.tensorLogic.registerVariable (some (scopeVariable scopeID)) with
      | (.error err, tensorLogic) =>
          (.returned (.error (err.wrapIn "integration.(UnifiedFramework).CreateBoundaryScope" "")),
            ⟨w.heap, { w.framework with tensorLogic }⟩)
      | (.ok _, tensorLogic) => (.registerScope, ⟨w.heap, { w.framework with tensorLogic }⟩)
  | .createBoundaryScope scopeID scopeType, .registerScope, w =>
      match w.framework.hypermind.registerScope w.heap (some ⟨scopeID, "", scopeType, [], none⟩) with
      | (.error err, heap, hypermind) =>
          (.returned (.error (err.wrapIn "integration.(UnifiedFramework).CreateBoundaryScope" "")),
            ⟨heap, { w.framework with hypermind }⟩)
      | (.ok _, heap, hypermind) => (.addAtom, ⟨heap, { w.framework with hypermind }⟩)
  | .createBoundaryScope scopeID _, .addAtom, w =>
      match w.framework.aTenSpace.addAtom w.heap
          (some ⟨scopeID, aggregateAtom, scopeID, none, ""⟩) with
      | (.error err, heap, aTenSpace) =>
          (.returned (.error (err.wrapIn "integration.(UnifiedFramework).CreateBoundaryScope" "")),
            ⟨heap, { w.framework with aTenSpace }⟩)
      | (.ok _, heap, aTenSpace) => (.attachTensor, ⟨heap, { w.framework with aTenSpace }⟩)
  | .createBoundaryScope scopeID _, .attachTensor, w =>
      match w.framework.aTenSpace.attachTensor scopeID (some (scopeTensor scopeID)) with
      | (.error err, aTenSpace) =>
          (.returned (.error (err.wrapIn "integration.(UnifiedFramework).CreateBoundaryScope" "")),
            ⟨w.heap, { w.framework with aTenSpace }⟩)
      | (.ok _, aTenSpace) => (.returned (.ok ()), ⟨w.heap, { w.framework with aTenSpace }⟩)
  | .propagateState scopeID state, .hypermindMerge, w =>
      match w.framework.hypermind.propagateState w.heap scopeID (w.heap.maps state) with
      | (.error err, heap) =>
          (.returned (.error (err.wrapIn "integration.(UnifiedFramework).PropagateState" "")),
            ⟨heap, w.framework⟩)
      | (.ok _, heap) => (.getAtom, ⟨heap, w.framework⟩)
  | .propagateState scopeID _, .getAtom, w =>
      match w.framework.aTenSpace.getAtom scopeID with
      | .error err =>
          (.returned (.error (err.wrapIn "integration.(UnifiedFramework).PropagateState" "")), w)
      | .ok atom => (.attributesMerge atom.attributes, w)
  | .propagateState _ state, .attributesMerge attributes, w =>
      match attributes with
      | none =>
          if (w.heap.maps state).keys = [] then (.returned (.ok ()), w)
          else (.returned (.error Err.nilMapWrite), w)
      | some ref =>
          (.returned (.ok ()),
            ⟨w.heap.write ref (mergeInto (w.heap.maps ref) (w.heap.maps state)), w.framework⟩)
  | _, pc, w => (pc, w)

/-! ### The steps one by one -/

section Steps

variable (w : World V) {scopeID scopeType : String}

/-- `RegisterVariable` changes the variables only, and never leads to `AddAtom`
or to a merge. -/
theorem step_registerVariable :
    let next := (createBoundaryScope scopeID scopeType).step .registerVariable w
    (next.1 = .registerScope ∨ ∃ result, next.1 = .returned result) ∧ next.2.heap = w.heap ∧
      next.2.framework.hypermind = w.framework.hypermind ∧
      next.2.framework.aTenSpace = w.framework.aTenSpace := by
  by_cases named : scopeID = "" <;>
    simp [step, Framework.registerVariable, scopeVariable, named]

theorem step_registerScope_empty :
    ((createBoundaryScope "" scopeType).step .registerScope w).2 = w ∧
      ∃ result, ((createBoundaryScope "" scopeType).step .registerScope w).1 = .returned result :=
  ⟨rfl, _, rfl⟩

theorem step_registerScope (named : scopeID ≠ "") :
    (createBoundaryScope scopeID scopeType).step .registerScope w =
      (.addAtom, ⟨(w.heap.alloc ∅).2, { w.framework with
        hypermind := { w.framework.hypermind with
          scopes := w.framework.hypermind.scopes.insert scopeID
            ⟨scopeID, "", scopeType, [], some w.heap.next⟩ } }⟩) := by
  simp [step, MultiScopeArchitecture.registerScope, named]

theorem step_addAtom (named : scopeID ≠ "") :
    (createBoundaryScope scopeID scopeType).step .addAtom w =
      (.attachTensor, ⟨(w.heap.alloc ∅).2, { w.framework with
        aTenSpace := { w.framework.aTenSpace with
          atoms := w.framework.aTenSpace.atoms.insert scopeID
            ⟨scopeID, aggregateAtom, scopeID, some w.heap.next, ""⟩ } }⟩) := by
  simp [step, Space.addAtom, named]

/-- `AttachTensor` returns, and changes no map, no scope, no atom ID and no
`Attributes` reference. -/
theorem step_attachTensor :
    let next := (createBoundaryScope scopeID scopeType).step .attachTensor w
    (∃ result, next.1 = .returned result) ∧ next.2.heap = w.heap ∧
      next.2.framework.hypermind = w.framework.hypermind ∧
      (∀ id, id ∈ next.2.framework.aTenSpace.atoms ↔ id ∈ w.framework.aTenSpace.atoms) ∧
      ∀ id, next.2.attributesRef id = w.attributesRef id := by
  cases found : w.framework.aTenSpace.atoms.lookup scopeID with
  | none => simp [step, Space.attachTensor, found]
  | some atom =>
      refine ⟨by simp [step, Space.attachTensor, found], by simp [step, Space.attachTensor, found],
        by simp [step, Space.attachTensor, found], fun id => ?_, fun id => ?_⟩
      · simp only [step, Space.attachTensor, found, AList.mem_insert]
        exact ⟨fun member => member.elim (· ▸ AList.lookup_isSome.mp (by simp [found]))
          fun kept => kept, .inr⟩
      · by_cases same : id = scopeID
        · subst same
          simp [step, Space.attachTensor, found, World.attributesRef]
        · simp [step, Space.attachTensor, found, World.attributesRef, AList.lookup_insert_ne same]

theorem step_hypermindMerge_of_not_mem {state : MapRef}
    (unregistered : scopeID ∉ w.framework.hypermind.scopes) :
    ((propagateState scopeID state).step .hypermindMerge w).2 = w ∧
      ∃ result, ((propagateState scopeID state).step .hypermindMerge w).1 = .returned result := by
  simp [step, MultiScopeArchitecture.propagateState, AList.lookup_eq_none.mpr unregistered]

theorem step_hypermindMerge {state : MapRef} {scope : DistributedScope} {stateRef : MapRef}
    (registered : w.framework.hypermind.scopes.lookup scopeID = some scope)
    (held : scope.state = some stateRef) :
    (propagateState scopeID state).step .hypermindMerge w =
      (.getAtom, ⟨w.heap.write stateRef (mergeInto (w.heap.maps stateRef) (w.heap.maps state)),
        w.framework⟩) := by
  simp [step, MultiScopeArchitecture.propagateState, registered, held,
    MultiScopeArchitecture.propagateToPeers]

theorem step_hypermindMerge_error {state : MapRef} {err : Err} {w' : World V}
    (failed : (propagateState scopeID state).step .hypermindMerge w = (.returned (.error err), w')) :
    w' = w := by
  cases registered : w.framework.hypermind.scopes.lookup scopeID with
  | none =>
      simp only [step, MultiScopeArchitecture.propagateState, registered, Prod.mk.injEq] at failed
      exact failed.2.symm
  | some scope =>
      cases held : scope.state with
      | none =>
          by_cases empty : (w.heap.maps state).keys = [] <;>
            simp [step, MultiScopeArchitecture.propagateState, registered, held, empty,
              MultiScopeArchitecture.propagateToPeers] at failed
          exact failed.2.symm
      | some stateRef => simp [step_hypermindMerge w registered held] at failed

theorem step_getAtom {state : MapRef} {atom : Atom}
    (found : w.framework.aTenSpace.atoms.lookup scopeID = some atom) :
    (propagateState scopeID state).step .getAtom w = (.attributesMerge atom.attributes, w) := by
  simp [step, Space.getAtom, found]

theorem step_attributesMerge {state : MapRef} (attributesRef : MapRef) :
    (propagateState scopeID state).step (.attributesMerge (some attributesRef)) w =
      (.returned (.ok ()), ⟨w.heap.write attributesRef
        (mergeInto (w.heap.maps attributesRef) (w.heap.maps state)), w.framework⟩) :=
  rfl

end Steps

end Operation

/-- A concurrent caller: its call and where it stands. -/
structure Caller where
  operation : Operation
  pc : Pc

/-- A world and the callers running on it. -/
structure Config (V : Type) where
  world : World V
  callers : List Caller

namespace Config

def start (w : World V) (operations : List Operation) : Config V :=
  ⟨w, operations.map fun operation => ⟨operation, operation.entry⟩⟩

/-- Caller `i` takes its next step; a schedule entry naming no caller does
nothing. -/
def step (cfg : Config V) (i : Nat) : Config V :=
  match cfg.callers[i]? with
  | none => cfg
  | some caller =>
      let (pc, world) := caller.operation.step caller.pc cfg.world
      ⟨world, cfg.callers.set i ⟨caller.operation, pc⟩⟩

def run (cfg : Config V) : List Nat → Config V
  | [] => cfg
  | i :: rest => (cfg.step i).run rest

theorem step_of_getElem? {cfg : Config V} {i : Nat} {caller : Caller}
    (found : cfg.callers[i]? = some caller) :
    cfg.step i = ⟨(caller.operation.step caller.pc cfg.world).2,
      cfg.callers.set i ⟨caller.operation, (caller.operation.step caller.pc cfg.world).1⟩⟩ := by
  simp [step, found]

@[simp]
theorem run_nil (cfg : Config V) : cfg.run [] = cfg :=
  rfl

@[simp]
theorem run_cons (cfg : Config V) (i : Nat) (rest : List Nat) :
    cfg.run (i :: rest) = (cfg.step i).run rest :=
  rfl

/-- Every caller has returned. -/
def Quiescent (cfg : Config V) : Prop :=
  ∀ caller ∈ cfg.callers, caller.pc.isReturned

instance : DecidablePred (Quiescent : Config V → Prop) :=
  fun cfg => inferInstanceAs (Decidable (∀ caller ∈ cfg.callers, caller.pc.isReturned))

private theorem set_of_getElem? {α : Type} {l : List α} {i : Nat} {a : α}
    (found : l[i]? = some a) : l.set i a = l :=
  List.ext_getElem? fun j => by
    by_cases same : i = j
    · subst same
      rw [List.getElem?_set_self (List.getElem?_eq_some_iff.mp found).1, found]
    · exact List.getElem?_set_ne same

theorem operations_step (cfg : Config V) (i : Nat) :
    (cfg.step i).callers.map Caller.operation = cfg.callers.map Caller.operation := by
  cases found : cfg.callers[i]? with
  | none => simp only [step, found]
  | some caller =>
      rw [step_of_getElem? found, List.map_set]
      exact set_of_getElem? (by simp [found])

theorem operations_run : ∀ (cfg : Config V) (schedule : List Nat),
    (cfg.run schedule).callers.map Caller.operation = cfg.callers.map Caller.operation
  | _, [] => rfl
  | cfg, i :: rest => (operations_run (cfg.step i) rest).trans (operations_step cfg i)

theorem operations_start (w : World V) (operations : List Operation) :
    (start w operations).callers.map Caller.operation = operations :=
  (List.map_map _ _ _).trans (List.map_id operations)

end Config

/-! ## Deltas no scope or atom holds -/

theorem World.mem_keys_of_holds {w : World V} {id : String} {ref : MapRef} (held : w.Holds id ref) :
    id ∈ w.framework.hypermind.scopes.keys ++ w.framework.aTenSpace.atoms.keys := by
  rcases held with held | held
  · obtain ⟨_, found, -⟩ := Option.bind_eq_some.mp held
    exact List.mem_append_left _ (AList.mem_keys.mpr (AList.lookup_isSome.mp (by simp [found])))
  · obtain ⟨_, found, -⟩ := Option.bind_eq_some.mp held
    exact List.mem_append_right _ (AList.mem_keys.mpr (AList.lookup_isSome.mp (by simp [found])))

instance (w : World V) (id : String) (ref : MapRef) : Decidable (w.Holds id ref) := by
  unfold World.Holds
  infer_instance

/-- The delta of a `PropagateState` is an allocated map that no scope or atom
holds, so no merge writes into it. -/
def Operation.DeltaFree (w : World V) : Operation → Prop
  | .createBoundaryScope _ _ => True
  | .propagateState _ state => state < w.heap.next ∧ ∀ id, ¬ w.Holds id state

instance (w : World V) : DecidablePred (Operation.DeltaFree w)
  | .createBoundaryScope _ _ => isTrue trivial
  | .propagateState _ state =>
      decidable_of_iff (state < w.heap.next ∧ ∀ id ∈ w.framework.hypermind.scopes.keys ++
          w.framework.aTenSpace.atoms.keys, ¬ w.Holds id state)
        (and_congr_right fun _ => ⟨fun free id held => free id (World.mem_keys_of_holds held) held,
          fun free id _ => free id⟩)

/-! ## Run alone, a caller is the sequential call -/

/-- A `CreateBoundaryScope` caller that runs alone makes the sequential call. -/
theorem run_alone_createBoundaryScope (w : World V) (scopeID scopeType : String) :
    (Config.start w [.createBoundaryScope scopeID scopeType]).run [0, 0, 0, 0] =
      ⟨((Call.createBoundaryScope scopeID scopeType).exec w).2,
        [⟨.createBoundaryScope scopeID scopeType,
          .returned ((Call.createBoundaryScope scopeID scopeType).exec w).1⟩]⟩ := by
  by_cases named : scopeID = ""
  · subst named
    simp [Config.start, Config.step, Operation.entry, Operation.step, Framework.registerVariable,
      scopeVariable, Call.exec, createBoundaryScope_empty, Err.wrapIn]
  · simp [Config.start, Config.step, Operation.entry, Operation.step, Framework.registerVariable,
      scopeVariable, named, MultiScopeArchitecture.registerScope, Space.addAtom,
      Space.attachTensor, Call.exec, createBoundaryScope_of_ne _ _ _ named]

/-- A `PropagateState` caller that runs alone makes the sequential call with its
delta's contents, unless the delta is the scope's own `State` map. -/
theorem run_alone_propagateState (w : World V) (scopeID : String) (state : MapRef)
    (apart : w.stateRef scopeID ≠ some state) :
    (Config.start w [.propagateState scopeID state]).run [0, 0, 0] =
      ⟨((Call.propagateState scopeID (w.heap.maps state)).exec w).2,
        [⟨.propagateState scopeID state,
          .returned ((Call.propagateState scopeID (w.heap.maps state)).exec w).1⟩]⟩ := by
  rcases merged : w.framework.hypermind.propagateState w.heap scopeID (w.heap.maps state) with
    ⟨result, heap⟩
  have kept : heap.maps state = w.heap.maps state := by
    simpa only [merged] using w.framework.hypermind.propagateState_maps_of_ne w.heap
      (w.heap.maps state) apart
  cases result with
  | error err =>
      simp [Config.start, Config.step, Operation.entry, Operation.step, Call.exec,
        UnifiedFramework.propagateState, merged]
  | ok _ =>
      cases found : w.framework.aTenSpace.getAtom scopeID with
      | error err =>
          simp [Config.start, Config.step, Operation.entry, Operation.step, Call.exec,
            UnifiedFramework.propagateState, merged, found]
      | ok atom =>
          cases attributes : atom.attributes with
          | none =>
              by_cases empty : (w.heap.maps state).keys = [] <;>
                simp [Config.start, Config.step, Operation.entry, Operation.step, Call.exec,
                  UnifiedFramework.propagateState, merged, found, attributes, empty, kept]
          | some ref =>
              simp [Config.start, Config.step, Operation.entry, Operation.step, Call.exec,
                UnifiedFramework.propagateState, merged, found, attributes, kept]

/-! ## The race -/

/-- `CreateBoundaryScope("x")` and `PropagateState("x", {k: 1})` on a new
framework, the delta a map no scope holds: the merge lands in the new scope's
`State`, `GetAtom` finds no atom yet and `PropagateState` fails; then the atom
gets an empty `Attributes`. Every caller has returned, and the two maps of `x`
differ. -/
theorem create_propagate_race :
    ¬ ∀ (calls : List (Call Nat)) (operations : List Operation) (schedule : List Nat),
      (∀ call ∈ calls, call.KeepsScopeMaps) →
      (∀ operation ∈ operations, operation.DeltaFree ((World.init : World Nat).run calls)) →
      let cfg := (Config.start ((World.init : World Nat).run calls) operations).run schedule
      cfg.Quiescent → ∀ scopeID ∈ cfg.world.framework.hypermind.scopes,
        ∃ stateRef attributesRef, cfg.world.stateRef scopeID = some stateRef ∧
          cfg.world.attributesRef scopeID = some attributesRef ∧
          ∀ k, (cfg.world.heap.maps stateRef).lookup k =
            (cfg.world.heap.maps attributesRef).lookup k := by
  intro agreeOnceReturned
  obtain ⟨stateRef, attributesRef, held, attributes, same⟩ :=
    agreeOnceReturned [.makeMap ((∅ : GoMap Nat).insert "k" 1)]
      [.createBoundaryScope "x" "t", .propagateState "x" 0] [0, 0, 1, 1, 0, 0]
      (by simp [Call.KeepsScopeMaps]) (by decide) (by decide) "x" (by decide)
  have stateOne : stateRef = 1 := Option.some.inj (held.symm.trans (by decide))
  have attributesTwo : attributesRef = 2 := Option.some.inj (attributes.symm.trans (by decide))
  subst stateOne attributesTwo
  exact absurd (same "k") (by decide)

end ATenBound.Integration
