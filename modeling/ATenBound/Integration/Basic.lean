import ATenBound.TensorLogic
import ATenBound.Hypermind.Basic
import ATenBound.ATenSpace.Basic

/-!
# `internal/integration`: the unified framework

`UnifiedFramework` holds the three frameworks; its methods call theirs one
after another and stop at the first error, keeping whatever the earlier calls
did. All three share the process's heap.

`World` is a process holding a unified framework, and `Call` every call a
client can make on it: the framework's own methods, and the methods of the
three components, which it exposes as fields.
-/

namespace ATenBound.Integration

open TensorLogic Hypermind ATenSpace

structure UnifiedFramework where
  tensorLogic : Framework
  hypermind : MultiScopeArchitecture
  aTenSpace : Space

/-- `NewUnifiedFramework`; none of the three constructors fails. -/
def newUnifiedFramework : UnifiedFramework :=
  ⟨newFramework, newMultiScopeArchitecture, newSpace⟩

/-- `ScopeInfo`; `none` stands for a nil pointer. -/
structure ScopeInfo where
  id : String
  tensorVariable : Option Variable
  distributedScope : Option DistributedScope
  atom : Option Atom

namespace UnifiedFramework

variable {V : Type}

/-- The tensor variable `CreateBoundaryScope` registers for a scope. -/
def scopeVariable (scopeID : String) : Variable :=
  ⟨scopeID, ["entity", "property"], [], hybridType⟩

/-- The tensor `CreateBoundaryScope` attaches to a scope's atom. -/
def scopeTensor (scopeID : String) : Tensor :=
  ⟨scopeID ++ "_tensor", [10, 10], "float64", "cpu"⟩

@[simp]
theorem scopeTensor_id (scopeID : String) : (scopeTensor scopeID).id = scopeID ++ "_tensor" :=
  rfl

theorem scopeTensor_id_inj {scopeID other : String}
    (same : scopeID ++ "_tensor" = other ++ "_tensor") : scopeID = other :=
  String.ext (List.append_cancel_right (congrArg String.data same))

theorem scopeTensor_id_ne_empty (scopeID : String) : scopeID ++ "_tensor" ≠ "" := fun empty => by
  simpa using congrArg String.data empty

/-- `IntegrateWithBoundary`: the three hooks in turn. -/
def integrateWithBoundary (u : UnifiedFramework) : Except Err Unit :=
  let op := "integration.(UnifiedFramework).IntegrateWithBoundary"
  match u.tensorLogic.integrateWithBoundary with
  | .error err => .error (err.wrapIn op "tensor logic integration failed")
  | .ok _ =>
  match u.hypermind.integrateWithBoundary with
  | .error err => .error (err.wrapIn op "hypermind integration failed")
  | .ok _ =>
  match u.aTenSpace.integrateWithBoundary with
  | .error err => .error (err.wrapIn op "atenspace integration failed")
  | .ok _ => .ok ()

/-- `CreateBoundaryScope`: a tensor variable, a distributed scope with a nil
`State`, an aggregate atom with nil `Attributes`, and a tensor attached to it. -/
def createBoundaryScope (u : UnifiedFramework) (heap : Heap V) (scopeID scopeType : String) :
    Except Err Unit × Heap V × UnifiedFramework :=
  let op := "integration.(UnifiedFramework).CreateBoundaryScope"
  match u.tensorLogic.registerVariable (some (scopeVariable scopeID)) with
  | (.error err, tensorLogic) => (.error (err.wrapIn op ""), heap, { u with tensorLogic })
  | (.ok _, tensorLogic) =>
  match u.hypermind.registerScope heap (some ⟨scopeID, "", scopeType, [], none⟩) with
  | (.error err, heap, hypermind) =>
      (.error (err.wrapIn op ""), heap, { u with tensorLogic, hypermind })
  | (.ok _, heap, hypermind) =>
  match u.aTenSpace.addAtom heap (some ⟨scopeID, aggregateAtom, scopeID, none, ""⟩) with
  | (.error err, heap, aTenSpace) =>
      (.error (err.wrapIn op ""), heap, ⟨tensorLogic, hypermind, aTenSpace⟩)
  | (.ok _, heap, aTenSpace) =>
  match aTenSpace.attachTensor scopeID (some (scopeTensor scopeID)) with
  | (.error err, aTenSpace) =>
      (.error (err.wrapIn op ""), heap, ⟨tensorLogic, hypermind, aTenSpace⟩)
  | (.ok _, aTenSpace) => (.ok (), heap, ⟨tensorLogic, hypermind, aTenSpace⟩)

/-- `QueryScope`: each component's view of the ID, nil where it fails. -/
def queryScope (u : UnifiedFramework) (scopeID : String) : Except Err ScopeInfo :=
  .ok ⟨scopeID, (u.tensorLogic.evaluate scopeID).toOption,
    (u.hypermind.getScope scopeID).toOption, (u.aTenSpace.getAtom scopeID).toOption⟩

def defineDomainBoundary (u : UnifiedFramework) (heap : Heap V)
    (boundaryID boundaryType : String) (atomIDs : List String) :
    Except Err Unit × Heap V × UnifiedFramework :=
  match u.aTenSpace.defineBoundary heap
      (some ⟨boundaryID, boundaryID, boundaryType, atomIDs, none⟩) with
  | (.error err, heap, aTenSpace) =>
      (.error (err.wrapIn "integration.(UnifiedFramework).DefineDomainBoundary" ""), heap,
        { u with aTenSpace })
  | (.ok _, heap, aTenSpace) => (.ok (), heap, { u with aTenSpace })

/-- `PropagateState`: the hypermind merge, then the same merge into the
`Attributes` of the atom with the ID. The first step is not undone when the
atom is missing. -/
def propagateState (u : UnifiedFramework) (heap : Heap V) (scopeID : String)
    (state : GoMap V) : Except Err Unit × Heap V × UnifiedFramework :=
  let op := "integration.(UnifiedFramework).PropagateState"
  match u.hypermind.propagateState heap scopeID state with
  | (.error err, heap) => (.error (err.wrapIn op ""), heap, u)
  | (.ok _, heap) =>
  match u.aTenSpace.getAtom scopeID with
  | .error err => (.error (err.wrapIn op ""), heap, u)
  | .ok atom =>
      match atom.attributes with
      | none =>
          if state.keys = [] then (.ok (), heap, u) else (.error Err.nilMapWrite, heap, u)
      | some ref => (.ok (), heap.write ref (mergeInto (heap.maps ref) state), u)

/-! ## Spec lemmas -/

/-- `CreateBoundaryScope` of a non-empty ID: all four calls succeed; the scope's
`State` is the next map allocated and the atom's `Attributes` the one after. -/
theorem createBoundaryScope_of_ne (u : UnifiedFramework) (heap : Heap V) {scopeID : String}
    (scopeType : String) (named : scopeID ≠ "") :
    u.createBoundaryScope heap scopeID scopeType =
      (.ok (), ((heap.alloc ∅).2.alloc ∅).2,
        ⟨{ u.tensorLogic with
            vars := u.tensorLogic.vars.insert scopeID (scopeVariable scopeID) },
          { u.hypermind with
            scopes := u.hypermind.scopes.insert scopeID
              ⟨scopeID, "", scopeType, [], some heap.next⟩ },
          { u.aTenSpace with
            atoms := u.aTenSpace.atoms.insert scopeID
              ⟨scopeID, aggregateAtom, scopeID, some (heap.next + 1), scopeID ++ "_tensor"⟩
            tensorStore :=
              u.aTenSpace.tensorStore.insert (scopeID ++ "_tensor") (scopeTensor scopeID) }⟩) := by
  simp [createBoundaryScope, Framework.registerVariable, scopeVariable, named,
    MultiScopeArchitecture.registerScope, Space.addAtom, Space.attachTensor, scopeTensor]

/-- `CreateBoundaryScope` of the empty ID fails at `RegisterVariable`, before
any change. -/
theorem createBoundaryScope_empty (u : UnifiedFramework) (heap : Heap V) (scopeType : String) :
    u.createBoundaryScope heap "" scopeType =
      (.error (.wrap (.new .invalidParameter
        "tensorlogic.(Framework).RegisterVariable" "variable name is empty")
        "integration.(UnifiedFramework).CreateBoundaryScope" ""), heap, u) :=
  rfl

theorem defineDomainBoundary_snd (u : UnifiedFramework) (heap : Heap V)
    (boundaryID boundaryType : String) (atomIDs : List String) :
    (u.defineDomainBoundary heap boundaryID boundaryType atomIDs).2 =
      let defined := u.aTenSpace.defineBoundary heap
        (some ⟨boundaryID, boundaryID, boundaryType, atomIDs, none⟩)
      (defined.2.1, { u with aTenSpace := defined.2.2 }) := by
  unfold defineDomainBoundary
  split <;> simp_all

/-- `PropagateState` writes map contents only: the records stay as they are. -/
@[simp]
theorem propagateState_framework (u : UnifiedFramework) (heap : Heap V) (scopeID : String)
    (state : GoMap V) : (u.propagateState heap scopeID state).2.2 = u := by
  unfold propagateState
  split
  · rfl
  · split
    · rfl
    · split
      · split <;> rfl
      · rfl

theorem propagateState_of_not_mem (u : UnifiedFramework) (heap : Heap V) {scopeID : String}
    (state : GoMap V) (unregistered : u.hypermind.scopes.lookup scopeID = none) :
    u.propagateState heap scopeID state =
      (.error (.wrap (.new .invalidParameter "hypermind.(MultiScopeArchitecture).PropagateState"
        s!"scope {scopeID} not found") "integration.(UnifiedFramework).PropagateState" ""),
        heap, u) := by
  simp [propagateState, MultiScopeArchitecture.propagateState, unregistered, Err.wrapIn]

/-- `PropagateState` of a scope whose `State` map is `stateRef` and of an ID
with no atom: the merge into `State` stays, and the call fails. -/
theorem propagateState_of_no_atom (u : UnifiedFramework) (heap : Heap V) {scopeID : String}
    (state : GoMap V) {scope : DistributedScope} {stateRef : MapRef}
    (registered : u.hypermind.scopes.lookup scopeID = some scope)
    (held : scope.state = some stateRef) (missing : u.aTenSpace.atoms.lookup scopeID = none) :
    u.propagateState heap scopeID state =
      (.error (.wrap (.new .invalidParameter "atenspace.(Space).GetAtom"
        s!"atom {scopeID} not found") "integration.(UnifiedFramework).PropagateState" ""),
        heap.write stateRef (mergeInto (heap.maps stateRef) state), u) := by
  simp [propagateState, MultiScopeArchitecture.propagateState, registered, held,
    MultiScopeArchitecture.propagateToPeers, Space.getAtom, missing, Err.wrapIn]

/-- `PropagateState` of a scope whose `State` map is `stateRef` and an atom
whose `Attributes` map is `attributesRef`: the delta merged into both, in turn. -/
theorem propagateState_of_lookup (u : UnifiedFramework) (heap : Heap V) {scopeID : String}
    (state : GoMap V) {scope : DistributedScope} {atom : Atom} {stateRef attributesRef : MapRef}
    (registered : u.hypermind.scopes.lookup scopeID = some scope)
    (held : scope.state = some stateRef) (found : u.aTenSpace.atoms.lookup scopeID = some atom)
    (attributes : atom.attributes = some attributesRef) :
    u.propagateState heap scopeID state =
      (.ok (), (heap.write stateRef (mergeInto (heap.maps stateRef) state)).write attributesRef
        (mergeInto ((heap.write stateRef (mergeInto (heap.maps stateRef) state)).maps
          attributesRef) state), u) := by
  simp only [propagateState, MultiScopeArchitecture.propagateState, registered, held,
    MultiScopeArchitecture.propagateToPeers, Space.getAtom, found, attributes]

end UnifiedFramework

/-! ## Runs of calls -/

structure World (V : Type) where
  heap : Heap V
  framework : UnifiedFramework

/-- Every call that changes a `World`: the writing methods of the framework and
of its three components, and a map literal of the caller. -/
inductive Call (V : Type) where
  | makeMap (contents : GoMap V)
  | registerVariable (v : Option Variable)
  | defineEquation (eq : Option TensorEquation)
  | registerScope (scope : Option DistributedScope)
  | propagateScopeState (scopeID : String) (state : GoMap V)
  | connectPeer (peer : Option Peer)
  | addAtom (atom : Option Atom)
  | addLink (link : Option Link)
  | attachTensor (atomID : String) (tensor : Option Tensor)
  | defineBoundary (boundary : Option DomainBoundary)
  | createBoundaryScope (scopeID scopeType : String)
  | defineDomainBoundary (boundaryID boundaryType : String) (atomIDs : List String)
  | propagateState (scopeID : String) (state : GoMap V)

namespace Call

variable {V : Type}

def exec : Call V → World V → Except Err Unit × World V
  | .makeMap contents, w => (.ok (), ⟨(w.heap.alloc contents).2, w.framework⟩)
  | .registerVariable v, w =>
      let (result, tensorLogic) := w.framework.tensorLogic.registerVariable v
      (result, ⟨w.heap, { w.framework with tensorLogic }⟩)
  | .defineEquation eq, w =>
      let (result, tensorLogic) := w.framework.tensorLogic.defineEquation eq
      (result, ⟨w.heap, { w.framework with tensorLogic }⟩)
  | .registerScope scope, w =>
      let (result, heap, hypermind) := w.framework.hypermind.registerScope w.heap scope
      (result, ⟨heap, { w.framework with hypermind }⟩)
  | .propagateScopeState scopeID state, w =>
      let (result, heap) := w.framework.hypermind.propagateState w.heap scopeID state
      (result, ⟨heap, w.framework⟩)
  | .connectPeer peer, w =>
      let (result, hypermind) := w.framework.hypermind.connectPeer peer
      (result, ⟨w.heap, { w.framework with hypermind }⟩)
  | .addAtom atom, w =>
      let (result, heap, aTenSpace) := w.framework.aTenSpace.addAtom w.heap atom
      (result, ⟨heap, { w.framework with aTenSpace }⟩)
  | .addLink link, w =>
      let (result, aTenSpace) := w.framework.aTenSpace.addLink link
      (result, ⟨w.heap, { w.framework with aTenSpace }⟩)
  | .attachTensor atomID tensor, w =>
      let (result, aTenSpace) := w.framework.aTenSpace.attachTensor atomID tensor
      (result, ⟨w.heap, { w.framework with aTenSpace }⟩)
  | .defineBoundary boundary, w =>
      let (result, heap, aTenSpace) := w.framework.aTenSpace.defineBoundary w.heap boundary
      (result, ⟨heap, { w.framework with aTenSpace }⟩)
  | .createBoundaryScope scopeID scopeType, w =>
      let (result, heap, framework) := w.framework.createBoundaryScope w.heap scopeID scopeType
      (result, ⟨heap, framework⟩)
  | .defineDomainBoundary boundaryID boundaryType atomIDs, w =>
      let (result, heap, framework) :=
        w.framework.defineDomainBoundary w.heap boundaryID boundaryType atomIDs
      (result, ⟨heap, framework⟩)
  | .propagateState scopeID state, w =>
      let (result, heap, framework) := w.framework.propagateState w.heap scopeID state
      (result, ⟨heap, framework⟩)

end Call

namespace World

variable {V : Type}

def init : World V :=
  ⟨Heap.empty, newUnifiedFramework⟩

def run (w : World V) : List (Call V) → World V
  | [] => w
  | call :: rest => (call.exec w).2.run rest

@[simp]
theorem run_nil (w : World V) : w.run [] = w :=
  rfl

@[simp]
theorem run_cons (w : World V) (call : Call V) (rest : List (Call V)) :
    w.run (call :: rest) = (call.exec w).2.run rest :=
  rfl

theorem run_induction (motive : World V → Prop)
    (step : ∀ w (call : Call V), motive w → motive (call.exec w).2) :
    ∀ {w : World V} (calls : List (Call V)), motive w → motive (w.run calls)
  | _, [], holds => holds
  | w, call :: rest, holds => run_induction motive step rest (step w call holds)

end World

end ATenBound.Integration
