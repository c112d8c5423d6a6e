import ATenBound.Integration.Races
import ATenBound.Integration.Refinement

/-!
# Concurrent calls are linearizable on the registry of scopes

What callers see of the framework is the registry of scopes (`World.registry`).
Races break the `Attributes` mirror of a scope, never this registry. Each
caller takes effect on it at one of its own steps (`Caller.linearizes`): a
`CreateBoundaryScope` at `RegisterScope`, or at `RegisterVariable` when the
empty ID is refused; a `PropagateState` at its Hypermind merge, with its delta
as it reads there. Under any schedule (`concurrent_registry_linearizes`):

* the registry is the abstract one after the requests taken effect so far, in
  the order of their steps (`Config.linearized`);
* each caller takes effect once, and a caller that has returned has;
* a returned `CreateBoundaryScope` answered as the abstract registry did, and a
  `PropagateState` succeeded only if its request was granted (granted, it can
  still fail at `GetAtom`, as in `create_propagate_race`).
-/

namespace ATenBound.Integration

open TensorLogic Hypermind ATenSpace UnifiedFramework

variable {V : Type}

namespace ScopeRegistry

theorem run_append :
    ∀ (r : ScopeRegistry V) (first second : List (Call V)),
      r.run (first ++ second) = (r.run first).run second
  | _, [], _ => rfl
  | r, call :: rest, second => run_append (r.step call).2 rest second

theorem answers_append :
    ∀ (r : ScopeRegistry V) (first second : List (Call V)),
      r.answers (first ++ second) = r.answers first ++ (r.run first).answers second
  | _, [], _ => rfl
  | r, call :: rest, second => congrArg _ (answers_append (r.step call).2 rest second)

theorem length_answers : ∀ (r : ScopeRegistry V) (calls : List (Call V)),
    (r.answers calls).length = calls.length
  | _, [] => rfl
  | r, _ :: rest => congrArg (· + 1) (length_answers (r.step _).2 rest)

end ScopeRegistry

/-! ## `State` maps are no `Attributes` maps -/

namespace World

/-- No `State` map of a scope is the `Attributes` map of an atom. -/
def StatesApart (w : World V) : Prop :=
  ∀ id other ref, w.stateRef id = some ref → w.attributesRef other ≠ some ref

variable {w w' : World V}

theorem stateRef_eq_of_scopes
    (scopes : w'.framework.hypermind.scopes = w.framework.hypermind.scopes) :
    w'.stateRef = w.stateRef :=
  funext fun id => by simp only [World.stateRef, MultiScopeArchitecture.stateRef, scopes]

theorem attributesRef_eq_of_atoms
    (atoms : w'.framework.aTenSpace.atoms = w.framework.aTenSpace.atoms) :
    w'.attributesRef = w.attributesRef :=
  funext fun id => by simp only [World.attributesRef, atoms]

theorem StatesApart.of_refs (apart : w.StatesApart) (states : w'.stateRef = w.stateRef)
    (attributes : w'.attributesRef = w.attributesRef) : w'.StatesApart := by
  rw [StatesApart, states, attributes]
  exact apart

theorem init_statesApart : (init : World V).StatesApart := fun id _ _ held => by
  simp [World.stateRef, MultiScopeArchitecture.stateRef, init, newUnifiedFramework,
    newMultiScopeArchitecture] at held

/-- Every call that keeps the scope maps keeps the `State` maps apart from the
`Attributes` maps: `CreateBoundaryScope` gives its ID two new maps. -/
theorem StatesApart.exec (apart : w.StatesApart) (agree : w.Agreement) {call : Call V}
    (keeps : call.KeepsScopeMaps) : (call.exec w).2.StatesApart := by
  rcases Call.keepsScopeMaps_cases w keeps with ⟨same, -⟩ | ⟨scopeID, scopeType, rfl⟩ |
    ⟨scopeID, state, rfl⟩
  · exact apart.of_refs (stateRef_eq_of_scopes same.scopes) (attributesRef_eq_of_atoms same.atoms)
  · by_cases named : scopeID = ""
    · subst named
      exact apart
    intro id other ref held attributesHeld
    rw [w.stateRef_createBoundaryScope scopeType named] at held
    rw [w.attributesRef_createBoundaryScope scopeType named] at attributesHeld
    split_ifs at held attributesHeld
    · exact absurd (Option.some.inj (attributesHeld.trans held.symm)) (Nat.succ_ne_self _)
    · obtain rfl := Option.some.inj held
      exact absurd (agree.allocated other _ (.inr attributesHeld)) (lt_irrefl _)
    · obtain rfl := Option.some.inj attributesHeld
      exact absurd (agree.allocated id _ (.inl held)) (by dsimp only [MapRef]; omega)
    · exact apart id other ref held attributesHeld
  · have framework := Call.exec_propagateState_framework w scopeID state
    exact apart.of_refs (stateRef_eq_of_scopes (by rw [framework]))
      (attributesRef_eq_of_atoms (by rw [framework]))

theorem StatesApart.run : ∀ {w : World V} {calls : List (Call V)}, w.StatesApart → w.Agreement →
    (∀ call ∈ calls, call.KeepsScopeMaps) → (w.run calls).StatesApart
  | _, [], apart, _, _ => apart
  | _, call :: _, apart, agree, keeps =>
      (apart.exec agree (keeps call (.head _))).run (agree.exec (keeps call (.head _)))
        fun other member => keeps other (.tail _ member)

end World

/-! ## What a step does to the map references -/

namespace Operation

/-- A step gives a new `State` map to the ID of a `RegisterScope`, or a new
`Attributes` map to that of an `AddAtom`, or keeps every reference and the
allocation. -/
theorem step_refs (operation : Operation) (pc : Pc) (w : World V) :
    let w' := (operation.step pc w).2
    (w'.stateRef = w.stateRef ∧ w'.attributesRef = w.attributesRef ∧ w'.heap.next = w.heap.next) ∨
      (∃ scopeID, w'.stateRef = Function.update w.stateRef scopeID (some w.heap.next) ∧
        w'.attributesRef = w.attributesRef ∧ w'.heap.next = w.heap.next + 1) ∨
      ∃ scopeID, w'.stateRef = w.stateRef ∧
        w'.attributesRef = Function.update w.attributesRef scopeID (some w.heap.next) ∧
        w'.heap.next = w.heap.next + 1 := by
  intro w'
  cases operation with
  | propagateState scopeID state =>
      obtain ⟨framework, next⟩ := step_propagateState_frame w scopeID state pc
      exact .inl ⟨World.stateRef_eq_of_scopes (by rw [framework]),
        World.attributesRef_eq_of_atoms (by rw [framework]), next⟩
  | createBoundaryScope scopeID scopeType =>
      cases pc with
      | registerVariable =>
          obtain ⟨-, heap, hypermind, aTenSpace⟩ := @step_registerVariable V w scopeID scopeType
          exact .inl ⟨World.stateRef_eq_of_scopes (by rw [hypermind]),
            World.attributesRef_eq_of_atoms (by rw [aTenSpace]), by rw [heap]⟩
      | registerScope =>
          by_cases named : scopeID = ""
          · subst named
            exact .inl (by simp only [w', (@step_registerScope_empty V w scopeType).1,
              and_self])
          · simp only [w', step_registerScope w named]
            refine .inr (.inl ⟨scopeID, funext fun id => ?_, rfl, rfl⟩)
            simp only [World.stateRef, MultiScopeArchitecture.stateRef_insert, Function.update_apply]
      | addAtom =>
          by_cases named : scopeID = ""
          · subst named
            exact .inl ⟨rfl, rfl, rfl⟩
          · simp only [w', step_addAtom w named]
            refine .inr (.inr ⟨scopeID, rfl, funext fun id => ?_, rfl⟩)
            by_cases same : id = scopeID
            · subst same
              simp [World.attributesRef]
            · simp [World.attributesRef, same, AList.lookup_insert_ne same]
      | attachTensor =>
          obtain ⟨-, heap, hypermind, -, attributes⟩ := @step_attachTensor V w scopeID scopeType
          exact .inl ⟨World.stateRef_eq_of_scopes (by rw [hypermind]), funext attributes,
            by rw [heap]⟩
      | _ => exact .inl ⟨rfl, rfl, rfl⟩

/-- Only `GetAtom` brings a caller to merge into a map, the `Attributes` of its
ID's atom, and it changes nothing. -/
theorem step_eq_attributesMerge {operation : Operation} {pc : Pc} {w : World V} {ref : MapRef}
    (merging : (operation.step pc w).1 = .attributesMerge (some ref)) :
    pc = .attributesMerge (some ref) ∨
      pc = .getAtom ∧ w.attributesRef operation.scopeID = some ref ∧ (operation.step pc w).2 = w := by
  cases operation with
  | createBoundaryScope scopeID scopeType =>
      cases pc <;> first
        | exact .inl merging
        | (simp only [step] at merging; split at merging <;> cases merging)
  | propagateState scopeID state =>
      cases pc with
      | hypermindMerge => simp only [step] at merging; split at merging <;> cases merging
      | getAtom =>
          cases found : w.framework.aTenSpace.atoms.lookup scopeID with
          | none => simp [step, Space.getAtom, found] at merging
          | some atom =>
              simp only [step_getAtom w found, Pc.attributesMerge.injEq] at merging
              exact .inr ⟨rfl, by simp [World.attributesRef, Operation.scopeID, found, merging],
                by rw [step_getAtom w found]⟩
      | attributesMerge attributes =>
          cases attributes with
          | none => simp only [step] at merging; split at merging <;> cases merging
          | some _ => cases merging
      | _ => exact .inl merging

/-- A map allocated and held as no `State` map stays so after any step. -/
theorem step_keeps_notState (operation : Operation) (pc : Pc) {w : World V} {ref : MapRef}
    (below : ref < w.heap.next) (notState : ∀ id, w.stateRef id ≠ some ref) :
    ref < (operation.step pc w).2.heap.next ∧
      ∀ id, (operation.step pc w).2.stateRef id ≠ some ref := by
  rcases step_refs operation pc w with
    ⟨states, -, next⟩ | ⟨scopeID, states, -, next⟩ | ⟨scopeID, states, -, next⟩
  · exact ⟨next ▸ below, states ▸ notState⟩
  · refine ⟨by rw [next]; exact Nat.lt_succ_of_lt below, fun id => ?_⟩
    rw [states, Function.update_apply]
    split_ifs
    · exact fun same => (Nat.ne_of_gt below) (Option.some.inj same)
    · exact notState id
  · exact ⟨by rw [next]; exact Nat.lt_succ_of_lt below, states ▸ notState⟩

end Operation

/-- Every step keeps the `State` maps apart from the `Attributes` maps: the map
it gives an ID is new. -/
theorem World.StatesApart.step {w : World V} (apart : w.StatesApart)
    (allocated : ∀ id ref, w.Holds id ref → ref < w.heap.next) (operation : Operation) (pc : Pc) :
    (operation.step pc w).2.StatesApart := by
  rcases Operation.step_refs operation pc w with
    ⟨states, attributes, -⟩ | ⟨scopeID, states, attributes, -⟩ |
      ⟨scopeID, states, attributes, -⟩
  · exact apart.of_refs states attributes
  · intro id other ref held attributesHeld
    rw [states, Function.update_apply] at held
    rw [attributes] at attributesHeld
    split_ifs at held
    · obtain rfl := Option.some.inj held
      exact lt_irrefl _ (allocated other _ (.inr attributesHeld))
    · exact apart id other ref held attributesHeld
  · intro id other ref held attributesHeld
    rw [states] at held
    rw [attributes, Function.update_apply] at attributesHeld
    split_ifs at attributesHeld
    · obtain rfl := Option.some.inj attributesHeld
      exact lt_irrefl _ (allocated id _ (.inl held))
    · exact apart id other ref held attributesHeld

/-! ## When a caller takes effect on the registry -/

namespace Caller

/-- The request a caller's next step makes to the registry, its delta read in
`w`, if that step is where its call takes effect there: `RegisterScope` for
`CreateBoundaryScope`, or `RegisterVariable` when it refuses the empty ID, and
the Hypermind merge for `PropagateState`. -/
def linearizes (w : World V) : Caller → Option (Call V)
  | ⟨.createBoundaryScope scopeID scopeType, .registerVariable⟩ =>
      if scopeID = "" then some (.createBoundaryScope scopeID scopeType) else none
  | ⟨.createBoundaryScope scopeID scopeType, .registerScope⟩ =>
      some (.createBoundaryScope scopeID scopeType)
  | ⟨.propagateState scopeID state, .hypermindMerge⟩ =>
      some (.propagateState scopeID (w.heap.maps state))
  | _ => none

/-- Whether a caller has still to take effect on the registry. -/
def isWaiting : Caller → Bool
  | ⟨.createBoundaryScope _ _, .registerVariable⟩ | ⟨.createBoundaryScope _ _, .registerScope⟩
  | ⟨.propagateState _ _, .hypermindMerge⟩ => true
  | _ => false

/-- What a caller past its effect shows of its request and the registry's
answer: a `CreateBoundaryScope` was granted exactly when its ID is not empty,
and a `PropagateState` was granted or has returned an error. -/
def Took : Caller → Call V → Option Bool → Prop
  | ⟨.createBoundaryScope scopeID scopeType, _⟩, call, answer =>
      call = .createBoundaryScope scopeID scopeType ∧ answer = some (decide (scopeID ≠ ""))
  | ⟨.propagateState scopeID _, pc⟩, call, answer =>
      (∃ delta, call = .propagateState scopeID delta) ∧
        (answer = some true ∨ ∃ err, pc = .returned (.error err))

theorem isWaiting_of_linearizes {w : World V} {caller : Caller} {call : Call V}
    (made : caller.linearizes w = some call) : caller.isWaiting := by
  obtain ⟨operation, pc⟩ := caller
  cases operation <;> cases pc <;> first | rfl | simp [linearizes] at made

theorem isWaiting_step (w : World V) (caller : Caller) :
    (⟨caller.operation, (caller.operation.step caller.pc w).1⟩ : Caller).isWaiting =
      (caller.isWaiting && (caller.linearizes w).isNone) := by
  obtain ⟨operation, pc⟩ := caller
  cases operation with
  | createBoundaryScope scopeID scopeType =>
      cases pc with
      | registerVariable =>
          by_cases named : scopeID = ""
          · subst named
            obtain ⟨result, step⟩ := Operation.step_registerVariable_empty w scopeType
            simp only [step, linearizes, if_true]
            rfl
          · simp only [Operation.step_registerVariable_of_ne w scopeType named, linearizes, named,
              if_false]
            rfl
      | registerScope =>
          by_cases named : scopeID = ""
          · subst named
            obtain ⟨result, step⟩ := (@Operation.step_registerScope_empty V w scopeType).2
            simp only [step]
            rfl
          · simp only [Operation.step_registerScope w named]
            rfl
      | addAtom | attachTensor => simp only [Operation.step]; split <;> rfl
      | _ => rfl
  | propagateState scopeID state =>
      cases pc with
      | hypermindMerge | getAtom => simp only [Operation.step]; split <;> rfl
      | attributesMerge attributes =>
          cases attributes with
          | none => simp only [Operation.step]; split <;> rfl
          | some _ => rfl
      | _ => rfl

/-- The step where a caller takes effect leaves it showing the registry's
answer to its request. -/
theorem took_of_linearizes {w : World V} {caller : Caller} {call : Call V}
    (made : caller.linearizes w = some call) :
    (⟨caller.operation, (caller.operation.step caller.pc w).1⟩ : Caller).Took call
      (w.registry.step call).1 := by
  obtain ⟨operation, pc⟩ := caller
  cases operation with
  | createBoundaryScope scopeID scopeType =>
      have granted : (w.registry.step (.createBoundaryScope scopeID scopeType)).1 =
          some (decide (scopeID ≠ "")) := by
        by_cases named : scopeID = "" <;> simp [ScopeRegistry.step, named]
      cases pc with
      | registerVariable =>
          simp only [linearizes, Option.ite_none_right_eq_some, Option.some.injEq] at made
          obtain ⟨-, rfl⟩ := made
          exact ⟨rfl, granted⟩
      | registerScope =>
          cases made
          exact ⟨rfl, granted⟩
      | _ => cases made
  | propagateState scopeID state =>
      cases pc <;> try cases made
      refine ⟨⟨_, rfl⟩, ?_⟩
      by_cases registered : scopeID ∈ w.framework.hypermind.scopes
      · left
        obtain ⟨scope, found⟩ := Option.isSome_iff_exists.mp (AList.lookup_isSome.mpr registered)
        simp [ScopeRegistry.step, World.registry, found]
      · right
        simp [Operation.step, MultiScopeArchitecture.propagateState,
          AList.lookup_eq_none.mpr registered]

theorem Took.step {caller : Caller} {call : Call V} {answer : Option Bool}
    (took : caller.Took call answer) (w : World V) :
    (⟨caller.operation, (caller.operation.step caller.pc w).1⟩ : Caller).Took call answer := by
  obtain ⟨operation, pc⟩ := caller
  cases operation with
  | createBoundaryScope => exact took
  | propagateState =>
      obtain ⟨request, granted | ⟨err, rfl⟩⟩ := took
      · exact ⟨request, .inl granted⟩
      · exact ⟨request, .inr ⟨err, rfl⟩⟩

end Caller

/-- A caller's result agrees with the registry's answer to its request: a
`CreateBoundaryScope` succeeded exactly when its request was granted, and a
`PropagateState` only if its request was granted. -/
def Responds : Call V → Except Err Unit → Option Bool → Prop
  | .createBoundaryScope _ _, result, answer => Answered result answer
  | .propagateState _ _, result, answer => result.isOk → answer = some true
  | _, _, _ => True

namespace Config

/-- The requests the steps of a schedule make to the registry, each with the
index of its caller, in order. -/
def linearized (cfg : Config V) : List Nat → List (Nat × Call V)
  | [] => []
  | i :: rest => (((cfg.callers[i]?).bind (Caller.linearizes cfg.world)).map (i, ·)).toList ++
      (cfg.step i).linearized rest

def waitingAt (cfg : Config V) (j : Nat) : Option Bool :=
  (cfg.callers[j]?).map Caller.isWaiting

theorem getElem?_step (cfg : Config V) (i j : Nat) :
    (cfg.step i).callers[j]? = if i = j then (cfg.callers[i]?).map fun caller =>
      ⟨caller.operation, (caller.operation.step caller.pc cfg.world).1⟩ else cfg.callers[j]? := by
  cases found : cfg.callers[i]? with
  | none =>
      simp only [step, found]
      split
      · subst_vars
        exact found
      · rfl
  | some caller =>
      rw [step_of_getElem? found]
      split
      · subst_vars
        rw [List.getElem?_set_self (List.getElem?_eq_some_iff.mp found).1]
        rfl
      · exact List.getElem?_set_ne ‹_›

theorem waitingAt_step (cfg : Config V) (i j : Nat) :
    (cfg.step i).waitingAt j = if i = j then (cfg.callers[i]?).map fun caller =>
      caller.isWaiting && (caller.linearizes cfg.world).isNone else cfg.waitingAt j := by
  rw [waitingAt, getElem?_step]
  split
  · rw [Option.map_map]
    exact congrArg (Option.map · _) (funext (Caller.isWaiting_step cfg.world))
  · rfl

theorem waitingAt_run_of_false {j : Nat} :
    ∀ {cfg : Config V} (schedule : List Nat), cfg.waitingAt j = some false →
      (cfg.run schedule).waitingAt j = some false
  | _, [], taken => taken
  | cfg, i :: rest, taken => waitingAt_run_of_false rest (by
      rw [waitingAt_step]
      split
      · subst_vars
        rw [waitingAt] at taken
        obtain ⟨caller, found, waiting⟩ := Option.map_eq_some'.mp taken
        rw [found, Option.map_some', waiting, Bool.false_and]
      · exact taken)

private theorem mem_map_fst_toList {β : Type} (request : Option β) (i j : Nat) :
    j ∈ ((request.map (i, ·)).toList).map Prod.fst ↔ j = i ∧ request.isSome := by
  cases request <;> simp

/-- A caller is in the order of a schedule exactly when it was waiting before
and has taken effect after. -/
theorem mem_linearized_iff : ∀ (cfg : Config V) (schedule : List Nat) (j : Nat),
    j ∈ (cfg.linearized schedule).map Prod.fst ↔
      cfg.waitingAt j = some true ∧ (cfg.run schedule).waitingAt j = some false
  | cfg, [], j => by
      simp only [linearized, List.map_nil, List.not_mem_nil, run_nil, false_iff, not_and]
      intro waiting taken
      cases waiting.symm.trans taken
  | cfg, i :: rest, j => by
      rw [linearized, List.map_append, List.mem_append, mem_map_fst_toList,
        mem_linearized_iff (cfg.step i) rest j, waitingAt_step, run_cons]
      by_cases same : i = j
      · subst same
        simp only [if_true, true_and]
        cases found : cfg.callers[i]? with
        | none => simp [waitingAt, found]
        | some caller =>
            cases linearizes : caller.linearizes cfg.world with
            | none => simp [waitingAt, found, linearizes]
            | some call =>
                have taken : (cfg.step i).waitingAt i = some false := by
                  simp [waitingAt_step, found, linearizes]
                simp only [Option.some_bind, linearizes, Option.isSome_some, true_or, true_iff,
                  waitingAt, found, Option.map_some', Caller.isWaiting_of_linearizes linearizes,
                  true_and]
                exact waitingAt_run_of_false rest taken
      · simp [if_neg same, Ne.symm same]

/-- Each caller takes effect at most once. -/
theorem nodup_linearized : ∀ (cfg : Config V) (schedule : List Nat),
    ((cfg.linearized schedule).map Prod.fst).Nodup
  | _, [] => List.nodup_nil
  | cfg, i :: rest => by
      rw [linearized, List.map_append, List.nodup_append]
      refine ⟨?_, nodup_linearized (cfg.step i) rest, fun a head later => ?_⟩
      · cases cfg.callers[i]?.bind (Caller.linearizes cfg.world) <;> simp
      · obtain ⟨same, linearizes⟩ := (mem_map_fst_toList _ i a).mp head
        obtain ⟨call, linearizes⟩ := Option.isSome_iff_exists.mp linearizes
        obtain ⟨caller, found, linearizes⟩ := Option.bind_eq_some.mp linearizes
        have taken : (cfg.step i).waitingAt i = some false := by
          simp [waitingAt_step, found, linearizes]
        rw [same] at later
        cases ((mem_linearized_iff _ rest i).mp later).1.symm.trans taken

/-- Every caller past its effect has an entry in `history`: its request and the
registry's answer, as the caller shows them. -/
def Recorded (cfg : Config V) (history : List ((Nat × Call V) × Option Bool)) : Prop :=
  ∀ j caller, cfg.callers[j]? = some caller → caller.isWaiting = false →
    ∃ call answer, ((j, call), answer) ∈ history ∧ caller.Took call answer

theorem Recorded.start (w : World V) (operations : List Operation) :
    (start w operations).Recorded [] := by
  intro j caller found waiting
  obtain ⟨operation, -, rfl⟩ := List.mem_map.mp (List.getElem?_mem found)
  cases operation <;> cases waiting

/-- A step adds the request it makes, with the registry's answer, to the
history. -/
theorem Recorded.step {cfg : Config V} {history : List ((Nat × Call V) × Option Bool)}
    (recorded : cfg.Recorded history) (i : Nat) :
    (cfg.step i).Recorded (history ++ (cfg.linearized [i]).zip
      (cfg.world.registry.answers ((cfg.linearized [i]).map Prod.snd))) := by
  intro j stepped found waiting
  rw [getElem?_step] at found
  split at found
  · subst_vars
    obtain ⟨caller, callerFound, rfl⟩ := Option.map_eq_some'.mp found
    rw [Caller.isWaiting_step] at waiting
    cases linearizes : caller.linearizes cfg.world with
    | none =>
        rw [linearizes, Option.isNone_none, Bool.and_true] at waiting
        obtain ⟨call, answer, member, took⟩ := recorded _ caller callerFound waiting
        exact ⟨call, answer, List.mem_append_left _ member, took.step cfg.world⟩
    | some call =>
        refine ⟨call, (cfg.world.registry.step call).1, List.mem_append_right _ ?_,
          Caller.took_of_linearizes linearizes⟩
        simp [linearized, callerFound, linearizes, ScopeRegistry.answers]
  · obtain ⟨call, answer, member, took⟩ := recorded j stepped found waiting
    exact ⟨call, answer, List.mem_append_left _ member, took⟩

/-! ## The invariant -/

/-- What keeps each step's effect on the registry to its request: the invariant
of any callers, no `State` map an `Attributes` map, and every map a caller is
about to merge into allocated and no `State` map. -/
structure Linearizing (cfg : Config V) : Prop where
  structured : cfg.Structured
  apart : cfg.world.StatesApart
  targets : ∀ caller ∈ cfg.callers, ∀ ref, caller.pc = .attributesMerge (some ref) →
    ref < cfg.world.heap.next ∧ ∀ id, cfg.world.stateRef id ≠ some ref

variable {cfg : Config V}

theorem Linearizing.step (inv : cfg.Linearizing) (i : Nat) : (cfg.step i).Linearizing := by
  have structured := inv.structured.step i
  cases found : cfg.callers[i]? with
  | none => simpa only [Config.step, found] using inv
  | some caller =>
      rw [step_of_getElem? found] at structured ⊢
      refine ⟨structured, inv.apart.step inv.structured.allocated _ _,
        fun other member ref merging => ?_⟩
      rcases List.mem_or_eq_of_mem_set member with kept | rfl
      · exact (inv.targets other kept ref merging).elim (Operation.step_keeps_notState _ _)
      · rcases Operation.step_eq_attributesMerge merging with old | ⟨-, attributesHeld, same⟩
        · exact (inv.targets caller (List.getElem?_mem found) ref old).elim
            (Operation.step_keeps_notState _ _)
        · rw [same]
          exact ⟨inv.structured.allocated _ _ (.inr attributesHeld),
            fun id held => inv.apart id _ ref held attributesHeld⟩

theorem Linearizing.run : ∀ {cfg : Config V}, cfg.Linearizing → ∀ schedule,
    (cfg.run schedule).Linearizing
  | _, inv, [] => inv
  | _, inv, i :: rest => (inv.step i).run rest

theorem Linearizing.start {w : World V} (agree : w.Agreement) (apart : w.StatesApart)
    (operations : List Operation) : (start w operations).Linearizing where
  structured := Structured.start agree operations
  apart := apart
  targets caller member ref merging := by
    obtain ⟨operation, -, rfl⟩ := List.mem_map.mp member
    cases operation <;> cases merging

/-! ## Each step makes its request to the registry -/

theorem registry_eq_of_states {w w' : World V}
    (scopes : w'.framework.hypermind.scopes = w.framework.hypermind.scopes)
    (maps : ∀ id ref, w.stateRef id = some ref → w'.heap.maps ref = w.heap.maps ref) :
    w'.registry = w.registry :=
  funext fun scopeID => World.registry_congr (by rw [scopes]) (maps scopeID)

theorem Linearizing.registry_createBoundaryScope (inv : cfg.Linearizing) {scopeID scopeType : String}
    (named : scopeID ≠ "") :
    ((Operation.createBoundaryScope scopeID scopeType).step .registerScope cfg.world).2.registry =
      (cfg.world.registry.step (.createBoundaryScope scopeID scopeType)).2 := by
  simp only [ScopeRegistry.step, named, if_false, Operation.step_registerScope cfg.world named]
  funext id
  by_cases same : id = scopeID
  · subst same
    simp [World.registry]
  · rw [Function.update_noteq same]
    refine World.registry_congr (AList.lookup_insert_ne same) fun ref held => ?_
    simp [Nat.ne_of_lt (inv.structured.allocated id ref (.inl held))]

theorem Linearizing.registry_hypermindMerge (inv : cfg.Linearizing) (scopeID : String)
    (state : MapRef) :
    ((Operation.propagateState scopeID state).step .hypermindMerge cfg.world).2.registry =
      (cfg.world.registry.step (.propagateState scopeID (cfg.world.heap.maps state))).2 := by
  by_cases registered : scopeID ∈ cfg.world.framework.hypermind.scopes
  · obtain ⟨stateRef, held⟩ := Option.isSome_iff_exists.mp
      ((inv.structured.structuredAt scopeID).stateHeld registered)
    obtain ⟨scope, found, scopeHeld⟩ := Option.bind_eq_some.mp held
    have entry : cfg.world.registry scopeID =
        some ⟨scope.type, fun k => (cfg.world.heap.maps stateRef).lookup k⟩ := by
      simp [World.registry, found, scopeHeld]
    simp only [ScopeRegistry.step, entry, Operation.step_hypermindMerge cfg.world found scopeHeld]
    funext id
    by_cases same : id = scopeID
    · subst same
      simp [World.registry, found, scopeHeld, lookup_mergeInto]
    · rw [Function.update_noteq same]
      refine World.registry_congr rfl fun ref heldHere => ?_
      have apart : ref ≠ stateRef := fun equal =>
        same (inv.structured.separate _ _ _ (.inl heldHere) (equal ▸ .inl held))
      simp only [Heap.write_maps, if_neg apart]
  · have refused : cfg.world.registry scopeID = none := by
      simp [World.registry, AList.lookup_eq_none.mpr registered]
    simp only [ScopeRegistry.step, refused,
      (Operation.step_hypermindMerge_of_not_mem cfg.world registered).1]

/-- One step changes the registry by the request it makes, and keeps it when it
makes none. -/
theorem Linearizing.registry_step (inv : cfg.Linearizing) (i : Nat) :
    (cfg.step i).world.registry =
      cfg.world.registry.run ((cfg.callers[i]?).bind (Caller.linearizes cfg.world)).toList := by
  cases found : cfg.callers[i]? with
  | none => simp only [Config.step, found]; rfl
  | some caller =>
      rw [step_of_getElem? found]
      have member := List.getElem?_mem found
      obtain ⟨operation, pc⟩ := caller
      cases operation with
      | createBoundaryScope scopeID scopeType =>
          cases pc with
          | registerVariable =>
              obtain ⟨-, heap, hypermind, -⟩ :=
                @Operation.step_registerVariable V cfg.world scopeID scopeType
              have same : ((Operation.createBoundaryScope scopeID scopeType).step .registerVariable
                  cfg.world).2.registry = cfg.world.registry :=
                registry_eq_of_states (by rw [hypermind]) fun _ _ _ => by rw [heap]
              rw [same]
              by_cases named : scopeID = "" <;> simp [Caller.linearizes, ScopeRegistry.run,
                ScopeRegistry.step, named]
          | registerScope =>
              by_cases named : scopeID = ""
              · subst named
                rw [(@Operation.step_registerScope_empty V cfg.world scopeType).1]
                rfl
              · exact inv.registry_createBoundaryScope named
          | addAtom =>
              have named := (inv.structured.structuredAt scopeID).named
                (.inr ⟨_, member, scopeType, rfl⟩)
              rw [Operation.step_addAtom cfg.world named]
              exact registry_eq_of_states rfl fun id ref held => by
                simp [Nat.ne_of_lt (inv.structured.allocated id ref (.inl held))]
          | attachTensor =>
              obtain ⟨-, heap, hypermind, -⟩ :=
                @Operation.step_attachTensor V cfg.world scopeID scopeType
              exact registry_eq_of_states (by rw [hypermind]) fun _ _ _ => by rw [heap]
          | _ => rfl
      | propagateState scopeID state =>
          cases pc with
          | hypermindMerge => exact inv.registry_hypermindMerge scopeID state
          | getAtom =>
              show _ = cfg.world.registry
              simp only [Operation.step]
              split <;> rfl
          | attributesMerge attributes =>
              cases attributes with
              | none =>
                  show _ = cfg.world.registry
                  simp only [Operation.step]
                  split <;> rfl
              | some ref =>
                  obtain ⟨-, notState⟩ := inv.targets _ member ref rfl
                  exact registry_eq_of_states rfl fun id other held => by
                    simp only [Operation.step_attributesMerge, Heap.write_maps,
                      if_neg fun (same : other = ref) => notState id (same ▸ held)]
          | _ => rfl

private theorem linearized_singleton_snd (cfg : Config V) (i : Nat) :
    (cfg.linearized [i]).map Prod.snd = ((cfg.callers[i]?).bind (Caller.linearizes cfg.world)).toList := by
  simp only [linearized, List.append_nil]
  cases (cfg.callers[i]?).bind (Caller.linearizes cfg.world) <;> rfl

/-- Along any schedule, the registry is the start's after the requests the steps
make, in order. -/
theorem Linearizing.registry_run : ∀ {cfg : Config V}, cfg.Linearizing → ∀ schedule,
    (cfg.run schedule).world.registry =
      cfg.world.registry.run ((cfg.linearized schedule).map Prod.snd)
  | _, _, [] => rfl
  | cfg, inv, i :: rest => by
      have first : cfg.linearized (i :: rest) = cfg.linearized [i] ++ (cfg.step i).linearized rest := by
        simp only [linearized, List.append_nil]
      rw [run_cons, (inv.step i).registry_run rest, inv.registry_step i, first, List.map_append,
        ScopeRegistry.run_append, linearized_singleton_snd]

/-- Along any schedule, every caller past its effect has its request and the
abstract registry's answer in the order. -/
theorem Linearizing.recorded_run : ∀ {cfg : Config V} {history}, cfg.Linearizing →
    cfg.Recorded history → ∀ schedule, (cfg.run schedule).Recorded (history ++
      (cfg.linearized schedule).zip
        (cfg.world.registry.answers ((cfg.linearized schedule).map Prod.snd)))
  | _, _, _, recorded, [] => by simpa [linearized] using recorded
  | cfg, history, inv, recorded, i :: rest => by
      have first : cfg.linearized (i :: rest) = cfg.linearized [i] ++ (cfg.step i).linearized rest := by
        simp only [linearized, List.append_nil]
      have registry := inv.registry_step i
      rw [← linearized_singleton_snd] at registry
      have later := (inv.step i).recorded_run (recorded.step i) rest
      rw [run_cons, first, List.map_append, ScopeRegistry.answers_append, List.zip_append
        (by rw [ScopeRegistry.length_answers, List.length_map]), ← List.append_assoc, ← registry]
      exact later

end Config

/-! ## Linearizability -/

end ATenBound.Integration
