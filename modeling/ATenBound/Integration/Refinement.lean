import ATenBound.Integration.Atomicity

/-!
# The framework implements a registry of scopes

To its callers, `UnifiedFramework` is a registry of scopes: each ID has a type
and the entries merged into it. `CreateBoundaryScope` of a non-empty ID creates
the scope, or re-creates it, with no entries; `PropagateState` of a registered
ID merges a delta into it, the delta's keys winning. `ScopeRegistry` states
this with no components, no heap and no map references.

Over any run of calls that keep the scope maps (`framework_refines_registry`),
the registry the world implements (`World.registry`) is the abstract registry
after the same requests, each `CreateBoundaryScope` and `PropagateState` fails
exactly when the abstract request is refused, and each scope's atom reads the
entries of its `State` map. One simulation lemma per kind of call is combined in
`Agreement.registry_exec`, and the run follows by induction.
-/

namespace ATenBound.Integration

open TensorLogic Hypermind ATenSpace UnifiedFramework

variable {V : Type}

/-! ## The abstract registry -/

/-- A scope as its callers see it: its type, and what each key reads. -/
structure ScopeEntry (V : Type) where
  type : String
  contents : String → Option V

abbrev ScopeRegistry (V : Type) := String → Option (ScopeEntry V)

namespace ScopeRegistry

def empty : ScopeRegistry V := fun _ => none

/-- A call as a request to the registry: whether it is granted, and the registry
after it. A call that is no request (`none`) leaves the registry alone. -/
def step (r : ScopeRegistry V) : Call V → Option Bool × ScopeRegistry V
  | .createBoundaryScope scopeID scopeType =>
      if scopeID = "" then (some false, r)
      else (some true, Function.update r scopeID (some ⟨scopeType, fun _ => none⟩))
  | .propagateState scopeID delta =>
      match r scopeID with
      | none => (some false, r)
      | some entry => (some true, Function.update r scopeID
          (some ⟨entry.type, fun k => (delta.lookup k).or (entry.contents k)⟩))
  | _ => (none, r)

def run (r : ScopeRegistry V) : List (Call V) → ScopeRegistry V
  | [] => r
  | call :: rest => (r.step call).2.run rest

def answers (r : ScopeRegistry V) : List (Call V) → List (Option Bool)
  | [] => []
  | call :: rest => (r.step call).1 :: (r.step call).2.answers rest

end ScopeRegistry

/-- A call's result agrees with the registry's answer: it succeeded exactly when
the request was granted. -/
def Answered (result : Except Err Unit) : Option Bool → Prop
  | none => True
  | some granted => result.isOk = granted

def World.results (w : World V) : List (Call V) → List (Except Err Unit)
  | [] => []
  | call :: rest => (call.exec w).1 :: (call.exec w).2.results rest

/-! ## The registry a world implements -/

namespace World

/-- Each scope's type, and what its `State` map reads. -/
def registry (w : World V) : ScopeRegistry V := fun scopeID =>
  (w.framework.hypermind.scopes.lookup scopeID).map fun scope =>
    ⟨scope.type, fun k => scope.state.bind fun ref => (w.heap.maps ref).lookup k⟩

theorem registry_congr {w w' : World V} {scopeID : String}
    (scopes : w'.framework.hypermind.scopes.lookup scopeID =
      w.framework.hypermind.scopes.lookup scopeID)
    (maps : ∀ ref, w.stateRef scopeID = some ref → w'.heap.maps ref = w.heap.maps ref) :
    w'.registry scopeID = w.registry scopeID := by
  simp only [registry, scopes]
  cases found : w.framework.hypermind.scopes.lookup scopeID with
  | none => rfl
  | some scope =>
      simp only [Option.map_some', Option.some.injEq, ScopeEntry.mk.injEq, true_and]
      funext k
      cases held : scope.state with
      | none => rfl
      | some ref =>
          simp only [Option.some_bind]
          rw [maps ref (by simp [World.stateRef, MultiScopeArchitecture.stateRef, found, held])]

variable {w : World V}

theorem Agreement.registry_of_sameScopeMaps (agree : w.Agreement) {w' : World V}
    (same : w.SameScopeMaps w') : w'.registry = w.registry :=
  funext fun scopeID => registry_congr (by rw [same.scopes]) fun ref held =>
    same.heap.maps_eq ref (agree.allocated scopeID ref (.inl held))

theorem Agreement.registry_createBoundaryScope (agree : w.Agreement) (scopeID scopeType : String) :
    ((Call.createBoundaryScope scopeID scopeType).exec w).2.registry =
        (w.registry.step (.createBoundaryScope scopeID scopeType)).2 ∧
      Answered ((Call.createBoundaryScope scopeID scopeType).exec w).1
        (w.registry.step (.createBoundaryScope scopeID scopeType)).1 := by
  by_cases named : scopeID = ""
  · subst named
    exact ⟨rfl, rfl⟩
  refine ⟨funext fun id => ?_, by simp [Answered, Call.exec, createBoundaryScope_of_ne _ _ _ named,
    ScopeRegistry.step, named, Except.isOk, Except.toBool]⟩
  simp only [ScopeRegistry.step, named, if_false]
  by_cases same : id = scopeID
  · subst same
    simp [registry, Call.exec, createBoundaryScope_of_ne _ _ _ named]
  · rw [Function.update_noteq same]
    refine registry_congr ?_ fun ref held =>
      w.maps_createBoundaryScope_of_lt scopeType named (agree.allocated id ref (.inl held))
    simp [Call.exec, createBoundaryScope_of_ne _ _ _ named, AList.lookup_insert_ne same]

private theorem lookup_write_write (heap : Heap V) (stateRef attributesRef : MapRef)
    (delta : GoMap V) (k : String) :
    (((heap.write stateRef (mergeInto (heap.maps stateRef) delta)).write attributesRef
        (mergeInto ((heap.write stateRef (mergeInto (heap.maps stateRef) delta)).maps
          attributesRef) delta)).maps stateRef).lookup k =
      (delta.lookup k).or ((heap.maps stateRef).lookup k) := by
  by_cases shared : stateRef = attributesRef
  · subst shared
    simp only [Heap.write_maps, if_true, lookup_mergeInto]
    cases delta.lookup k <;> rfl
  · simp only [Heap.write_maps, if_neg shared, if_true, lookup_mergeInto]

theorem Agreement.registry_propagateState (agree : w.Agreement) (scopeID : String)
    (delta : GoMap V) :
    ((Call.propagateState scopeID delta).exec w).2.registry =
        (w.registry.step (.propagateState scopeID delta)).2 ∧
      Answered ((Call.propagateState scopeID delta).exec w).1
        (w.registry.step (.propagateState scopeID delta)).1 := by
  by_cases registered : scopeID ∈ w.framework.hypermind.scopes
  · obtain ⟨stateRef, attributesRef, held, attributesHeld, step⟩ :=
      agree.exec_propagateState_of_mem registered delta
    obtain ⟨scope, found, scopeHeld⟩ := Option.bind_eq_some.mp held
    have entry : w.registry scopeID = some ⟨scope.type, fun k =>
        (w.heap.maps stateRef).lookup k⟩ := by
      simp [registry, found, scopeHeld]
    simp only [ScopeRegistry.step, entry, step]
    refine ⟨funext fun id => ?_, rfl⟩
    by_cases same : id = scopeID
    · subst same
      simp only [registry, found, scopeHeld, Option.map_some', Option.some_bind,
        Function.update_same, lookup_write_write]
    · rw [Function.update_noteq same]
      refine registry_congr rfl fun ref heldHere => ?_
      have apart : ∀ other, w.Holds scopeID other → ref ≠ other := fun other heldThere equal =>
        same (agree.separate _ _ _ (.inl heldHere) (equal ▸ heldThere))
      simp only [Heap.write_maps, if_neg (apart _ (.inl held)), if_neg (apart _ (.inr attributesHeld))]
  · have refused : w.registry.step (.propagateState scopeID delta) = (some false, w.registry) := by
      simp [ScopeRegistry.step, registry, AList.lookup_eq_none.mpr registered]
    rw [refused, Call.exec_propagateState_of_not_mem w delta registered]
    exact ⟨rfl, rfl⟩

/-- Every call that keeps the scope maps implements its request to the registry. -/
theorem Agreement.registry_exec (agree : w.Agreement) {call : Call V}
    (keeps : call.KeepsScopeMaps) :
    (call.exec w).2.registry = (w.registry.step call).2 ∧
      Answered (call.exec w).1 (w.registry.step call).1 := by
  cases call with
  | createBoundaryScope scopeID scopeType => exact agree.registry_createBoundaryScope scopeID scopeType
  | propagateState scopeID delta => exact agree.registry_propagateState scopeID delta
  | _ =>
      rcases Call.keepsScopeMaps_cases w keeps with ⟨same, -⟩ | ⟨_, _, other⟩ | ⟨_, _, other⟩
      · exact ⟨agree.registry_of_sameScopeMaps same, trivial⟩
      all_goals cases other

/-- Over a run of calls that keep the scope maps, from a world where the
frameworks agree, the world implements the registry after the same requests, and
every call succeeds exactly when its request is granted. -/
theorem Agreement.registry_run : ∀ {w : World V} {calls : List (Call V)}, w.Agreement →
    (∀ call ∈ calls, call.KeepsScopeMaps) →
    (w.run calls).registry = w.registry.run calls ∧
      List.Forall₂ Answered (w.results calls) (w.registry.answers calls)
  | _, [], _, _ => ⟨rfl, .nil⟩
  | _, call :: _, agree, keeps => by
      obtain ⟨registry, answered⟩ := agree.registry_exec (keeps call (.head _))
      obtain ⟨registry', answered'⟩ :=
        (agree.exec (keeps call (.head _))).registry_run fun other member => keeps other (.tail _ member)
      rw [registry] at registry' answered'
      exact ⟨registry', .cons answered answered'⟩

end World

/-- Over every run of calls from a new framework that keep the scope maps, the
framework implements the abstract registry of scopes: the registry it
implements is the abstract one after the same requests, every
`CreateBoundaryScope` and `PropagateState` succeeds exactly when its request is
granted, and the `Attributes` map of each scope's atom reads the scope's
entries. -/
theorem framework_refines_registry (calls : List (Call V))
    (keeps : ∀ call ∈ calls, call.KeepsScopeMaps) :
    let w := (World.init : World V).run calls
    w.registry = ScopeRegistry.empty.run calls ∧
      List.Forall₂ Answered ((World.init : World V).results calls)
        (ScopeRegistry.empty.answers calls) ∧
      ∀ scopeID entry, w.registry scopeID = some entry → ∃ attributesRef,
        w.attributesRef scopeID = some attributesRef ∧
          ∀ k, (w.heap.maps attributesRef).lookup k = entry.contents k := by
  intro w
  have agree : w.Agreement := World.init_agreement.run keeps
  obtain ⟨registry, answered⟩ := World.init_agreement.registry_run keeps
  refine ⟨registry, answered, fun scopeID entry found => ?_⟩
  obtain ⟨scope, scopeFound, rfl⟩ := Option.map_eq_some'.mp found
  obtain ⟨stateRef, attributesRef, held, attributesHeld, same⟩ :=
    agree.mapsAgree scopeID (AList.lookup_isSome.mp (by simp [scopeFound]))
  have scopeHeld : scope.state = some stateRef := by
    simpa [World.stateRef, MultiScopeArchitecture.stateRef, scopeFound] using held
  exact ⟨attributesRef, attributesHeld, fun k => by simp [scopeHeld, same]⟩

/-- A scope created, given an entry, and created again: the second
`CreateBoundaryScope` empties it, and a `PropagateState` into an ID with no
scope is refused. -/
theorem framework_refines_registry_recreate :
    let calls : List (Call Nat) := [.createBoundaryScope "org-0" "org",
      .propagateState "org-0" ((∅ : GoMap Nat).insert "load" 1),
      .createBoundaryScope "org-0" "team", .propagateState "org-9" ∅]
    (∀ call ∈ calls, call.KeepsScopeMaps) ∧
      ((World.init : World Nat).run calls).registry = ScopeRegistry.empty.run calls := by
  refine ⟨?keeps, (framework_refines_registry _ ?keeps).1⟩
  case keeps => simp [Call.KeepsScopeMaps]

end ATenBound.Integration
