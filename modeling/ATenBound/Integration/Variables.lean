import ATenBound.Integration.Basic

/-!
# The tensor variables and equations over runs of the framework

TensorLogic's `Variables` map is written by `RegisterVariable`, called directly
on the component or by `CreateBoundaryScope`, and its `Equations` list by
`DefineEquation`; no other call touches either.

* Each call's write is `Call.registeredVariable` and `Call.definedEquation`
  (`Call.exec_vars_lookup`, `Call.exec_equations`).
* After any run, a name reads the variable of the last call that registered one
  under it, and the equations are those defined, in order; so `Evaluate` returns
  that variable or the not-found error (`tensorLogic_run`).
-/

namespace ATenBound.Integration

open TensorLogic UnifiedFramework

variable {V : Type}

namespace Call

/-- The variable a call registers under `name`: a `RegisterVariable` of a
variable with that non-empty name, or a `CreateBoundaryScope` of that non-empty
ID. -/
def registeredVariable (name : String) : Call V → Option Variable
  | .registerVariable (some v) => if v.name = name ∧ name ≠ "" then some v else none
  | .createBoundaryScope scopeID _ =>
      if scopeID = name ∧ name ≠ "" then some (scopeVariable scopeID) else none
  | _ => none

/-- The equation a call appends: that of a `DefineEquation` of a non-nil one. -/
def definedEquation : Call V → Option TensorEquation
  | .defineEquation eq => eq
  | _ => none

theorem exec_vars_lookup (w : World V) (call : Call V) (name : String) :
    (call.exec w).2.framework.tensorLogic.vars.lookup name =
      (call.registeredVariable name).or (w.framework.tensorLogic.vars.lookup name) := by
  cases call with
  | registerVariable v =>
      rcases v with _ | v
      · rfl
      · by_cases named : v.name = ""
        · have unregistered : ¬ (v.name = name ∧ name ≠ "") := fun ⟨same, nonempty⟩ =>
            nonempty (same ▸ named)
          simp only [registeredVariable, unregistered, if_false, Option.none_or]
          simp [exec, Framework.registerVariable, named]
        · by_cases same : v.name = name
          · subst same
            simp [exec, Framework.registerVariable, registeredVariable, named]
          · simp [exec, Framework.registerVariable, registeredVariable, same, named,
              AList.lookup_insert_ne (Ne.symm same)]
  | createBoundaryScope scopeID scopeType =>
      by_cases named : scopeID = ""
      · subst named
        have unnamed : ¬ ("" = name ∧ name ≠ "") := fun ⟨same, named⟩ => named same.symm
        simp only [registeredVariable, unnamed, if_false, Option.none_or]
        rfl
      · by_cases same : scopeID = name
        · subst same
          simp [exec, createBoundaryScope_of_ne _ _ _ named, registeredVariable, named]
        · simp [exec, createBoundaryScope_of_ne _ _ _ named, registeredVariable, same,
            AList.lookup_insert_ne (Ne.symm same)]
  | defineDomainBoundary boundaryID boundaryType atomIDs =>
      simp only [exec, defineDomainBoundary_snd]
      rfl
  | propagateState scopeID state =>
      exact congrArg (·.tensorLogic.vars.lookup name) (propagateState_framework _ _ _ _)
  | defineEquation eq => cases eq <;> rfl
  | makeMap | registerScope | propagateScopeState | connectPeer | addAtom | addLink
  | attachTensor | defineBoundary => rfl

theorem exec_equations (w : World V) (call : Call V) :
    (call.exec w).2.framework.tensorLogic.equations =
      w.framework.tensorLogic.equations ++ call.definedEquation.toList := by
  cases call with
  | registerVariable v =>
      rcases v with _ | v
      · simp [exec, Framework.registerVariable, definedEquation]
      · by_cases named : v.name = "" <;>
          simp [exec, Framework.registerVariable, definedEquation, named]
  | defineEquation eq => cases eq <;> simp [exec, Framework.defineEquation, definedEquation]
  | createBoundaryScope scopeID scopeType =>
      by_cases named : scopeID = ""
      · subst named
        exact (List.append_nil _).symm
      · simp [exec, createBoundaryScope_of_ne _ _ _ named, definedEquation]
  | defineDomainBoundary boundaryID boundaryType atomIDs =>
      simp only [exec, defineDomainBoundary_snd, definedEquation]
      simp
  | propagateState scopeID state =>
      exact (congrArg (·.tensorLogic.equations) (propagateState_framework _ _ _ _)).trans
        (List.append_nil _).symm
  | makeMap | registerScope | propagateScopeState | connectPeer | addAtom | addLink
  | attachTensor | defineBoundary => simp [exec, definedEquation]

end Call

namespace World

/-- After a run, a name reads the variable of the last call that registered
one under it, or what it read before when none did. -/
theorem vars_lookup_run (name : String) :
    ∀ (w : World V) (calls : List (Call V)), (w.run calls).framework.tensorLogic.vars.lookup name =
      (calls.filterMap (·.registeredVariable name)).getLast?.or
        (w.framework.tensorLogic.vars.lookup name)
  | _, [] => rfl
  | w, call :: rest => by
      rw [run_cons, vars_lookup_run name _ rest, Call.exec_vars_lookup, List.filterMap_cons]
      cases registered : call.registeredVariable name with
      | none => rfl
      | some v =>
          cases last : (rest.filterMap (·.registeredVariable name)).getLast? <;>
            simp [List.getLast?_cons, last]

/-- After a run, the equations are the earlier ones followed by those the run
defined, in order. -/
theorem equations_run :
    ∀ (w : World V) (calls : List (Call V)), (w.run calls).framework.tensorLogic.equations =
      w.framework.tensorLogic.equations ++ calls.filterMap Call.definedEquation
  | _, [] => (List.append_nil _).symm
  | w, call :: rest => by
      rw [run_cons, equations_run _ rest, Call.exec_equations, List.filterMap_cons]
      cases call.definedEquation <;> simp

end World

/-- Over every run of calls from a new framework, TensorLogic's `Evaluate(name)`
returns the variable of the last call that registered one under `name`, directly
or through `CreateBoundaryScope`, and the not-found error when no call did; the
equations are those of the `DefineEquation` calls given one, in order. -/
theorem tensorLogic_run (calls : List (Call V)) (name : String) :
    let tensorLogic := ((World.init : World V).run calls).framework.tensorLogic
    tensorLogic.evaluate name =
        (match (calls.filterMap (·.registeredVariable name)).getLast? with
          | some v => .ok v
          | none => .error (.new .invalidParameter
              "tensorlogic.(Framework).Evaluate" s!"variable {name} not found")) ∧
      tensorLogic.equations = calls.filterMap Call.definedEquation := by
  refine ⟨?_, World.equations_run World.init calls⟩
  simp only [Framework.evaluate, World.vars_lookup_run]
  cases (calls.filterMap (·.registeredVariable name)).getLast? <;> rfl

end ATenBound.Integration
