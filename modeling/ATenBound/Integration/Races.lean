import ATenBound.Integration.ConcurrentAgreement

/-!
# Races do not break the registries

A `PropagateState` that runs between the `RegisterScope` and the `AddAtom` of a
`CreateBoundaryScope` of its ID leaves the two maps of the ID apart
(`create_propagate_race`), but no race breaks the registries themselves. Take
any calls, IDs, deltas and schedule, the same ID created twice included. Once
every caller has returned (`concurrent_registries_agree`), the three components
know the same IDs, every atom names its ID's tensor and the store holds it,
every scope holds a `State` and an `Attributes` map, and no map is held for two
IDs. A returned `CreateBoundaryScope` has succeeded exactly when its ID is not
empty (`concurrent_creates_succeed`).

The invariant is per ID (`Config.StructuredAt`): each fact holds, or a
`CreateBoundaryScope` of the ID is about to take the step that restores it. A
step changes the registries at its caller's ID only (`World.RegistryFrameAt`).
-/

namespace ATenBound.Integration

open TensorLogic Hypermind ATenSpace UnifiedFramework

variable {V : Type}

/-! ## The steps of `CreateBoundaryScope` and `PropagateState` -/

namespace Operation

variable (w : World V) {scopeID : String} (scopeType : String)

theorem step_registerVariable_empty :
    ∃ result, (createBoundaryScope "" scopeType).step .registerVariable w = (.returned result, w) :=
  ⟨_, rfl⟩

theorem step_registerVariable_of_ne (named : scopeID ≠ "") :
    (createBoundaryScope scopeID scopeType).step .registerVariable w =
      (.registerScope, ⟨w.heap, { w.framework with
        tensorLogic := { w.framework.tensorLogic with
          vars := w.framework.tensorLogic.vars.insert scopeID (scopeVariable scopeID) } }⟩) := by
  simp [step, Framework.registerVariable, scopeVariable, named]

/-- `AttachTensor` on a registered atom names the scope's tensor in the atom and
stores it. -/
theorem step_attachTensor_of_lookup {atom : Atom}
    (found : w.framework.aTenSpace.atoms.lookup scopeID = some atom) :
    (createBoundaryScope scopeID scopeType).step .attachTensor w =
      (.returned (.ok ()), ⟨w.heap, { w.framework with
        aTenSpace := { w.framework.aTenSpace with
          atoms := w.framework.aTenSpace.atoms.insert scopeID
            { atom with tensorID := scopeID ++ "_tensor" }
          tensorStore := w.framework.aTenSpace.tensorStore.insert (scopeID ++ "_tensor")
            (scopeTensor scopeID) } }⟩) := by
  simp [step, Space.attachTensor, found]

theorem step_propagateState_frame (scopeID : String) (state : MapRef) (pc : Pc) :
    ((propagateState scopeID state).step pc w).2.framework = w.framework ∧
      ((propagateState scopeID state).step pc w).2.heap.next = w.heap.next := by
  cases pc with
  | hypermindMerge =>
      have next : (w.framework.hypermind.propagateState w.heap scopeID (w.heap.maps state)).2.next =
          w.heap.next := by
        unfold MultiScopeArchitecture.propagateState
        split <;> (try split) <;> (try split) <;> rfl
      simp only [step]
      split <;> rename_i merged <;> rw [merged] at next <;> exact ⟨rfl, next⟩
  | getAtom =>
      simp only [step]
      split <;> exact ⟨rfl, rfl⟩
  | attributesMerge attributes =>
      cases attributes with
      | none => simp only [step]; split <;> exact ⟨rfl, rfl⟩
      | some ref => exact ⟨rfl, rfl⟩
  | _ => exact ⟨rfl, rfl⟩

end Operation

/-! ## Callers about to restore a fact -/

namespace Caller

/-- A `CreateBoundaryScope` of `scopeID` about to take the step `pc`. -/
def Creates (scopeID : String) (pc : Pc) (caller : Caller) : Prop :=
  ∃ scopeType, caller = ⟨.createBoundaryScope scopeID scopeType, pc⟩

variable {id : String} {step : Pc} {caller : Caller}

theorem Creates.pc (creates : caller.Creates id step) : caller.pc = step := by
  obtain ⟨_, rfl⟩ := creates
  rfl

theorem Creates.scopeID (creates : caller.Creates id step) : caller.operation.scopeID = id := by
  obtain ⟨_, rfl⟩ := creates
  rfl

end Caller

namespace Config

def Creating (cfg : Config V) (scopeID : String) (pc : Pc) : Prop :=
  ∃ caller ∈ cfg.callers, caller.Creates scopeID pc

section Set

variable {cfg : Config V} {i : Nat} {caller : Caller} {w' : World V} {next : Pc}
  {scopeID : String}

theorem creating_set_iff_of_ne (found : cfg.callers[i]? = some caller)
    (apart : scopeID ≠ caller.operation.scopeID) (pc : Pc) :
    (⟨w', cfg.callers.set i ⟨caller.operation, next⟩⟩ : Config V).Creating scopeID pc ↔
      cfg.Creating scopeID pc :=
  exists_set_iff found (iff_of_false (fun creates => apart creates.scopeID.symm)
    fun creates => apart creates.scopeID.symm)

/-- A step from a step other than `pc` to a step other than `pc` keeps who is
about to take `pc`. -/
theorem creating_set_iff (found : cfg.callers[i]? = some caller) (pc : Pc)
    (before : caller.pc ≠ pc) (after : next ≠ pc) :
    (⟨w', cfg.callers.set i ⟨caller.operation, next⟩⟩ : Config V).Creating scopeID pc ↔
      cfg.Creating scopeID pc :=
  exists_set_iff found (iff_of_false (fun creates => after creates.pc)
    fun creates => before creates.pc)

theorem creating_of_set (pc : Pc) (after : next ≠ pc) :
    (⟨w', cfg.callers.set i ⟨caller.operation, next⟩⟩ : Config V).Creating scopeID pc →
      cfg.Creating scopeID pc :=
  exists_of_exists_set fun creates => after creates.pc

theorem creating_set_of (found : cfg.callers[i]? = some caller) (pc : Pc)
    (before : caller.pc ≠ pc) :
    cfg.Creating scopeID pc →
      (⟨w', cfg.callers.set i ⟨caller.operation, next⟩⟩ : Config V).Creating scopeID pc :=
  exists_set_of_exists found fun creates => before creates.pc

theorem creating_set_new (found : cfg.callers[i]? = some caller) {scopeType : String}
    (operation : caller.operation = .createBoundaryScope scopeID scopeType) :
    (⟨w', cfg.callers.set i ⟨caller.operation, next⟩⟩ : Config V).Creating scopeID next :=
  ⟨_, mem_set_new found, scopeType, by rw [operation]⟩

end Set

theorem not_creating_of_quiescent {cfg : Config V} (quiescent : cfg.Quiescent) (scopeID : String)
    (pc : Pc) (running : pc.isReturned = false) : ¬ cfg.Creating scopeID pc :=
  fun ⟨caller, member, creates⟩ => by
    have returned := quiescent caller member
    rw [creates.pc, running] at returned
    exact Bool.false_ne_true returned

end Config

/-! ## The invariant -/

namespace World

/-- `w'` has the registries of `w` at every ID but `scopeID`, and a map that it
holds for `scopeID` is one `w` held for it or one allocated since. -/
structure RegistryFrameAt (scopeID : String) (w w' : World V) : Prop where
  next_le : w.heap.next ≤ w'.heap.next
  holds : ∀ ref, w'.Holds scopeID ref →
    w.Holds scopeID ref ∨ w.heap.next ≤ ref ∧ ref < w'.heap.next
  vars : ∀ id, id ≠ scopeID →
    (id ∈ w'.framework.tensorLogic.vars ↔ id ∈ w.framework.tensorLogic.vars)
  scopes : ∀ id, id ≠ scopeID →
    w'.framework.hypermind.scopes.lookup id = w.framework.hypermind.scopes.lookup id
  atoms : ∀ id, id ≠ scopeID →
    w'.framework.aTenSpace.atoms.lookup id = w.framework.aTenSpace.atoms.lookup id
  tensors : ∀ id, id ≠ scopeID →
    w'.framework.aTenSpace.tensorStore.lookup (id ++ "_tensor") =
      w.framework.aTenSpace.tensorStore.lookup (id ++ "_tensor")

variable {scopeID id : String} {w w' : World V}

theorem RegistryFrameAt.holds_iff (frame : w.RegistryFrameAt scopeID w') (apart : id ≠ scopeID)
    (ref : MapRef) : w'.Holds id ref ↔ w.Holds id ref := by
  simp only [World.Holds, World.stateRef, MultiScopeArchitecture.stateRef, World.attributesRef,
    frame.scopes id apart, frame.atoms id apart]

theorem holds_of_framework_eq (same : w'.framework = w.framework) : w'.Holds = w.Holds :=
  funext fun id => funext fun ref => by
    simp only [World.Holds, World.stateRef, World.attributesRef, same]

/-- A world with the framework and the allocation of `w` is a frame of `w` at
any ID. -/
theorem RegistryFrameAt.of_framework (framework : w'.framework = w.framework)
    (next : w'.heap.next = w.heap.next) : w.RegistryFrameAt scopeID w' where
  next_le := next.ge
  holds ref held := .inl (by rwa [holds_of_framework_eq framework] at held)
  vars _ _ := by rw [framework]
  scopes _ _ := by rw [framework]
  atoms _ _ := by rw [framework]
  tensors _ _ := by rw [framework]

end World

namespace Config

/-- The registries at `scopeID`: each fact holds, or a `CreateBoundaryScope` of
`scopeID` is about to take the step that makes it hold. -/
structure StructuredAt (cfg : Config V) (scopeID : String) : Prop where
  variable_iff : scopeID ∈ cfg.world.framework.tensorLogic.vars ↔
    scopeID ∈ cfg.world.framework.hypermind.scopes ∨ cfg.Creating scopeID .registerScope
  scope_iff : scopeID ∈ cfg.world.framework.hypermind.scopes ↔
    scopeID ∈ cfg.world.framework.aTenSpace.atoms ∨ cfg.Creating scopeID .addAtom
  tensorAttached : ∀ atom, cfg.world.framework.aTenSpace.atoms.lookup scopeID = some atom →
    atom.tensorID = scopeID ++ "_tensor" ∧
        cfg.world.framework.aTenSpace.tensorStore.lookup (scopeID ++ "_tensor") =
          some (scopeTensor scopeID) ∨
      cfg.Creating scopeID .attachTensor
  named : cfg.Creating scopeID .registerScope ∨ cfg.Creating scopeID .addAtom → scopeID ≠ ""
  attaching : cfg.Creating scopeID .attachTensor → scopeID ∈ cfg.world.framework.aTenSpace.atoms
  stateHeld : scopeID ∈ cfg.world.framework.hypermind.scopes → (cfg.world.stateRef scopeID).isSome
  attributesHeld : scopeID ∈ cfg.world.framework.aTenSpace.atoms →
    (cfg.world.attributesRef scopeID).isSome

/-- The invariant of any callers: every map held is allocated and held for one
ID, and the registries agree at every ID. -/
structure Structured (cfg : Config V) : Prop where
  allocated : ∀ id ref, cfg.world.Holds id ref → ref < cfg.world.heap.next
  separate : ∀ id other ref, cfg.world.Holds id ref → cfg.world.Holds other ref → id = other
  structuredAt : ∀ scopeID, cfg.StructuredAt scopeID

variable {cfg cfg' : Config V} {i : Nat} {scopeID scopeType : String}

/-- The invariant of an ID carries over to a configuration with the same
registries at the ID and the same callers about to restore a fact of it. -/
theorem StructuredAt.transport (structured : cfg.StructuredAt scopeID)
    (vars : scopeID ∈ cfg'.world.framework.tensorLogic.vars ↔
      scopeID ∈ cfg.world.framework.tensorLogic.vars)
    (scopes : cfg'.world.framework.hypermind.scopes.lookup scopeID =
      cfg.world.framework.hypermind.scopes.lookup scopeID)
    (atoms : cfg'.world.framework.aTenSpace.atoms.lookup scopeID =
      cfg.world.framework.aTenSpace.atoms.lookup scopeID)
    (tensors : cfg'.world.framework.aTenSpace.tensorStore.lookup (scopeID ++ "_tensor") =
      cfg.world.framework.aTenSpace.tensorStore.lookup (scopeID ++ "_tensor"))
    (registering : cfg'.Creating scopeID .registerScope ↔ cfg.Creating scopeID .registerScope)
    (adding : cfg'.Creating scopeID .addAtom ↔ cfg.Creating scopeID .addAtom)
    (attaching : cfg'.Creating scopeID .attachTensor ↔ cfg.Creating scopeID .attachTensor) :
    cfg'.StructuredAt scopeID := by
  have memScopes : scopeID ∈ cfg'.world.framework.hypermind.scopes ↔
      scopeID ∈ cfg.world.framework.hypermind.scopes := by
    rw [← AList.lookup_isSome, ← AList.lookup_isSome, scopes]
  have memAtoms : scopeID ∈ cfg'.world.framework.aTenSpace.atoms ↔
      scopeID ∈ cfg.world.framework.aTenSpace.atoms := by
    rw [← AList.lookup_isSome, ← AList.lookup_isSome, atoms]
  have stateRef : cfg'.world.stateRef scopeID = cfg.world.stateRef scopeID := by
    simp only [World.stateRef, MultiScopeArchitecture.stateRef, scopes]
  have attributesRef : cfg'.world.attributesRef scopeID = cfg.world.attributesRef scopeID := by
    simp only [World.attributesRef, atoms]
  exact ⟨by rw [vars, memScopes, registering]; exact structured.variable_iff,
    by rw [memScopes, memAtoms, adding]; exact structured.scope_iff,
    by rw [atoms, tensors, attaching]; exact structured.tensorAttached,
    by rw [registering, adding]; exact structured.named,
    by rw [attaching, memAtoms]; exact structured.attaching,
    by rw [memScopes, stateRef]; exact structured.stateHeld,
    by rw [memAtoms, attributesRef]; exact structured.attributesHeld⟩

/-- A step that changes the registries at its caller's ID only, and keeps the
invariant of that ID, keeps the whole invariant. -/
theorem Structured.of_step (inv : cfg.Structured) {caller : Caller}
    (found : cfg.callers[i]? = some caller) (scopeID : String)
    (onID : caller.operation.scopeID = scopeID) {next : Pc} {w' : World V}
    (frame : cfg.world.RegistryFrameAt scopeID w')
    (structured : (⟨w', cfg.callers.set i ⟨caller.operation, next⟩⟩ : Config V).StructuredAt
      scopeID) :
    (⟨w', cfg.callers.set i ⟨caller.operation, next⟩⟩ : Config V).Structured := by
  subst onID
  have back : ∀ id ref, w'.Holds id ref → cfg.world.Holds id ref ∨
      id = caller.operation.scopeID ∧ cfg.world.heap.next ≤ ref ∧ ref < w'.heap.next := by
    intro id ref held
    by_cases same : id = caller.operation.scopeID
    · subst same
      exact (frame.holds ref held).imp_right fun fresh => ⟨rfl, fresh⟩
    · exact .inl ((frame.holds_iff same ref).mp held)
  refine ⟨fun id ref held => ?_, fun id other ref held heldOther => ?_, fun id => ?_⟩
  · rcases back id ref held with old | ⟨-, -, fresh⟩
    · exact lt_of_lt_of_le (inv.allocated id ref old) frame.next_le
    · exact fresh
  · rcases back id ref held with old | ⟨rfl, fresh, -⟩ <;>
      rcases back other ref heldOther with old' | ⟨rfl, fresh', -⟩
    · exact inv.separate id other ref old old'
    · exact absurd fresh' (not_le.mpr (inv.allocated id ref old))
    · exact absurd fresh (not_le.mpr (inv.allocated other ref old'))
    · rfl
  · by_cases same : id = caller.operation.scopeID
    · exact same ▸ structured
    · exact (inv.structuredAt id).transport (frame.vars id same) (frame.scopes id same)
        (frame.atoms id same) (frame.tensors id same) (creating_set_iff_of_ne found same _)
        (creating_set_iff_of_ne found same _) (creating_set_iff_of_ne found same _)

/-- A step that keeps the framework and the allocation, by a caller that keeps
the step it is about to take, keeps the invariant. -/
theorem Structured.of_sameFramework (inv : cfg.Structured) {caller : Caller}
    (found : cfg.callers[i]? = some caller) {next : Pc} {w' : World V}
    (framework : w'.framework = cfg.world.framework) (heapNext : w'.heap.next = cfg.world.heap.next)
    (creates : ∀ id pc,
      (⟨caller.operation, next⟩ : Caller).Creates id pc ↔ caller.Creates id pc) :
    (⟨w', cfg.callers.set i ⟨caller.operation, next⟩⟩ : Config V).Structured :=
  inv.of_step found _ rfl (World.RegistryFrameAt.of_framework framework heapNext)
    ((inv.structuredAt _).transport (by rw [framework]) (by rw [framework]) (by rw [framework])
      (by rw [framework]) (exists_set_iff found (creates _ _)) (exists_set_iff found (creates _ _))
      (exists_set_iff found (creates _ _)))

theorem Structured.step_registerVariable (inv : cfg.Structured)
    (found : cfg.callers[i]? = some ⟨.createBoundaryScope scopeID scopeType, .registerVariable⟩) :
    (cfg.step i).Structured := by
  rw [step_of_getElem? found]
  by_cases named : scopeID = ""
  · subst named
    obtain ⟨result, step⟩ := Operation.step_registerVariable_empty cfg.world scopeType
    rw [step]
    exact inv.of_step found "" rfl (World.RegistryFrameAt.of_framework rfl rfl)
      ((inv.structuredAt "").transport Iff.rfl rfl rfl rfl
        (creating_set_iff found _ (by nofun) (by nofun))
        (creating_set_iff found _ (by nofun) (by nofun))
        (creating_set_iff found _ (by nofun) (by nofun)))
  · have structured := inv.structuredAt scopeID
    rw [Operation.step_registerVariable_of_ne cfg.world scopeType named]
    exact inv.of_step found scopeID rfl ⟨le_refl _, fun ref held => .inl held,
      fun id apart => (AList.mem_insert _).trans (or_iff_right apart), fun _ _ => rfl,
      fun _ _ => rfl, fun _ _ => rfl⟩
      ⟨iff_of_true ((AList.mem_insert _).mpr (.inl rfl)) (.inr (creating_set_new found rfl)),
        structured.scope_iff.trans
          (or_congr_right (creating_set_iff found _ (by nofun) (by nofun)).symm),
        fun atom atomFound => (structured.tensorAttached atom atomFound).imp_right
          (creating_set_iff found _ (by nofun) (by nofun)).mpr,
        fun _ => named,
        fun attaching => structured.attaching
          ((creating_set_iff found _ (by nofun) (by nofun)).mp attaching),
        structured.stateHeld, structured.attributesHeld⟩

theorem Structured.step_registerScope (inv : cfg.Structured)
    (found : cfg.callers[i]? = some ⟨.createBoundaryScope scopeID scopeType, .registerScope⟩) :
    (cfg.step i).Structured := by
  have structured := inv.structuredAt scopeID
  have registering : cfg.Creating scopeID .registerScope :=
    ⟨_, List.getElem?_mem found, scopeType, rfl⟩
  have named := structured.named (.inl registering)
  rw [step_of_getElem? found, Operation.step_registerScope cfg.world named]
  refine inv.of_step found scopeID rfl ⟨Nat.le_succ _, fun ref held => ?_, fun _ _ => Iff.rfl,
    fun id apart => AList.lookup_insert_ne apart, fun _ _ => rfl, fun _ _ => rfl⟩
    ⟨iff_of_true (structured.variable_iff.mpr (.inr registering))
        (.inl ((AList.mem_insert _).mpr (.inl rfl))),
      iff_of_true ((AList.mem_insert _).mpr (.inl rfl)) (.inr (creating_set_new found rfl)),
      fun atom atomFound => (structured.tensorAttached atom atomFound).imp_right
        (creating_set_of found _ (by nofun)),
      fun _ => named,
      fun attaching => structured.attaching (creating_of_set _ (by nofun) attaching),
      fun _ => by simp [World.stateRef, MultiScopeArchitecture.stateRef],
      structured.attributesHeld⟩
  rcases held with held | held
  · simp only [World.stateRef, MultiScopeArchitecture.stateRef, AList.lookup_insert,
      Option.some_bind, Option.some.injEq] at held
    subst held
    exact .inr ⟨le_refl _, by simp⟩
  · exact .inl (.inr held)

theorem Structured.step_addAtom (inv : cfg.Structured)
    (found : cfg.callers[i]? = some ⟨.createBoundaryScope scopeID scopeType, .addAtom⟩) :
    (cfg.step i).Structured := by
  have structured := inv.structuredAt scopeID
  have adding : cfg.Creating scopeID .addAtom := ⟨_, List.getElem?_mem found, scopeType, rfl⟩
  have named := structured.named (.inr adding)
  rw [step_of_getElem? found, Operation.step_addAtom cfg.world named]
  refine inv.of_step found scopeID rfl ⟨Nat.le_succ _, fun ref held => ?_, fun _ _ => Iff.rfl,
    fun _ _ => rfl, fun id apart => AList.lookup_insert_ne apart, fun _ _ => rfl⟩
    ⟨structured.variable_iff.trans
        (or_congr_right (creating_set_iff found _ (by nofun) (by nofun)).symm),
      iff_of_true (structured.scope_iff.mpr (.inr adding))
        (.inl ((AList.mem_insert _).mpr (.inl rfl))),
      fun _ _ => .inr (creating_set_new found rfl),
      fun _ => named,
      fun _ => (AList.mem_insert _).mpr (.inl rfl),
      structured.stateHeld,
      fun _ => by simp [World.attributesRef]⟩
  · rcases held with held | held
    · exact .inl (.inl held)
    · simp only [World.attributesRef, AList.lookup_insert, Option.some_bind,
        Option.some.injEq] at held
      subst held
      exact .inr ⟨le_refl _, by simp⟩

theorem Structured.step_attachTensor (inv : cfg.Structured)
    (found : cfg.callers[i]? = some ⟨.createBoundaryScope scopeID scopeType, .attachTensor⟩) :
    (cfg.step i).Structured := by
  have structured := inv.structuredAt scopeID
  have attached := structured.attaching ⟨_, List.getElem?_mem found, scopeType, rfl⟩
  have registered := structured.scope_iff.mpr (.inl attached)
  obtain ⟨atom, atomFound⟩ := Option.isSome_iff_exists.mp (AList.lookup_isSome.mpr attached)
  have attributes : World.attributesRef ⟨cfg.world.heap, { cfg.world.framework with
      aTenSpace := { cfg.world.framework.aTenSpace with
        atoms := cfg.world.framework.aTenSpace.atoms.insert scopeID
          { atom with tensorID := scopeID ++ "_tensor" } } }⟩ scopeID =
      cfg.world.attributesRef scopeID := by
    simp [World.attributesRef, atomFound]
  rw [step_of_getElem? found, Operation.step_attachTensor_of_lookup cfg.world scopeType atomFound]
  refine inv.of_step found scopeID rfl ⟨le_refl _, fun ref held => .inl ?_, fun _ _ => Iff.rfl,
    fun _ _ => rfl,
    fun id apart => AList.lookup_insert_ne apart,
    fun id apart => AList.lookup_insert_ne fun same => apart (scopeTensor_id_inj same)⟩
    ⟨structured.variable_iff.trans
        (or_congr_right (creating_set_iff found _ (by nofun) (by nofun)).symm),
      iff_of_true registered (.inl ((AList.mem_insert _).mpr (.inl rfl))),
      fun atom' atomFound' => .inl ?_,
      fun creating => structured.named (creating.imp (creating_of_set _ (by nofun))
        (creating_of_set _ (by nofun))),
      fun _ => (AList.mem_insert _).mpr (.inl rfl),
      structured.stateHeld,
      fun _ => attributes ▸ structured.attributesHeld attached⟩
  · exact held.imp id (attributes ▸ ·)
  · simp only [AList.lookup_insert, Option.some.injEq] at atomFound'
    subst atomFound'
    exact ⟨rfl, by simp⟩

theorem Structured.step (inv : cfg.Structured) (i : Nat) : (cfg.step i).Structured := by
  cases found : cfg.callers[i]? with
  | none => simpa only [Config.step, found] using inv
  | some caller =>
      obtain ⟨operation, pc⟩ := caller
      cases operation with
      | createBoundaryScope scopeID scopeType =>
          cases pc with
          | registerVariable => exact inv.step_registerVariable found
          | registerScope => exact inv.step_registerScope found
          | addAtom => exact inv.step_addAtom found
          | attachTensor => exact inv.step_attachTensor found
          | _ =>
              rw [step_of_getElem? found]
              exact inv.of_sameFramework found rfl rfl fun _ _ => Iff.rfl
      | propagateState scopeID state =>
          rw [step_of_getElem? found]
          obtain ⟨framework, next⟩ := Operation.step_propagateState_frame cfg.world scopeID state pc
          exact inv.of_sameFramework found framework next fun _ _ =>
            iff_of_false (fun ⟨_, isNew⟩ => by cases isNew) fun ⟨_, isOld⟩ => by cases isOld

theorem Structured.run :
    ∀ {cfg : Config V}, cfg.Structured → ∀ schedule, (cfg.run schedule).Structured
  | _, inv, [] => inv
  | _, inv, i :: rest => (inv.step i).run rest

theorem Structured.start {w : World V} (agree : w.Agreement) (operations : List Operation) :
    (start w operations).Structured := by
  have idle : ∀ id pc, pc ≠ .registerVariable → ¬ (Config.start w operations).Creating id pc := by
    rintro id pc notEntry ⟨caller, member, scopeType, rfl⟩
    obtain ⟨operation, -, started⟩ := List.mem_map.mp member
    obtain ⟨rfl, rfl⟩ := Caller.mk.inj started
    exact notEntry rfl
  refine ⟨agree.allocated, agree.separate, fun id => ⟨?_, ?_, fun atom atomFound =>
    .inl (agree.tensorAttached id atom atomFound), fun creating => ?_,
    fun creating => (idle id _ (by nofun) creating).elim, fun registered => ?_, fun member => ?_⟩⟩
  · exact (agree.variables_iff id).trans (or_iff_left (idle id _ (by nofun))).symm
  · exact (agree.atoms_iff id).symm.trans (or_iff_left (idle id _ (by nofun))).symm
  · exact (creating.elim (idle id _ (by nofun)) (idle id _ (by nofun))).elim
  · obtain ⟨_, _, held, -, -⟩ := agree.mapsAgree id registered
    exact Option.isSome_iff_exists.mpr ⟨_, held⟩
  · obtain ⟨_, _, -, held, -⟩ := agree.mapsAgree id ((agree.atoms_iff id).mp member)
    exact Option.isSome_iff_exists.mpr ⟨_, held⟩

end Config

/-! ## Races -/

/-- From a world reached by sequential calls that keep the scope maps, run any
concurrent `CreateBoundaryScope` and `PropagateState` callers under any
schedule. Once every caller has returned, TensorLogic, Hypermind and ATenSpace
know the same IDs, every atom names its ID's tensor and the store holds it, every
scope holds a `State` and an `Attributes` map, and no map is held for two IDs. -/
theorem concurrent_registries_agree (calls : List (Call V))
    (keeps : ∀ call ∈ calls, call.KeepsScopeMaps) (operations : List Operation)
    (schedule : List Nat) :
    let cfg := (Config.start ((World.init : World V).run calls) operations).run schedule
    cfg.Quiescent →
      (∀ id, id ∈ cfg.world.framework.tensorLogic.vars ↔
        id ∈ cfg.world.framework.hypermind.scopes) ∧
      (∀ id, id ∈ cfg.world.framework.aTenSpace.atoms ↔
        id ∈ cfg.world.framework.hypermind.scopes) ∧
      (∀ id atom, cfg.world.framework.aTenSpace.atoms.lookup id = some atom →
        atom.tensorID = id ++ "_tensor" ∧
          cfg.world.framework.aTenSpace.tensorStore.lookup (id ++ "_tensor") =
            some (scopeTensor id)) ∧
      (∀ id ∈ cfg.world.framework.hypermind.scopes, ∃ stateRef attributesRef,
        cfg.world.stateRef id = some stateRef ∧ cfg.world.attributesRef id = some attributesRef) ∧
      ∀ id other ref, cfg.world.Holds id ref → cfg.world.Holds other ref → id = other := by
  intro cfg quiescent
  have inv : cfg.Structured :=
    (Config.Structured.start (World.init_agreement.run keeps) operations).run schedule
  have idle := Config.not_creating_of_quiescent quiescent
  have atom_iff : ∀ id, id ∈ cfg.world.framework.aTenSpace.atoms ↔
      id ∈ cfg.world.framework.hypermind.scopes := fun id =>
    ((inv.structuredAt id).scope_iff.trans (or_iff_left (idle id .addAtom rfl))).symm
  refine ⟨fun id => (inv.structuredAt id).variable_iff.trans (or_iff_left (idle id .registerScope rfl)),
    atom_iff, fun id atom atomFound => ((inv.structuredAt id).tensorAttached atom atomFound).resolve_right
      (idle id .attachTensor rfl), fun id registered => ?_, inv.separate⟩
  obtain ⟨stateRef, held⟩ := Option.isSome_iff_exists.mp ((inv.structuredAt id).stateHeld registered)
  obtain ⟨attributesRef, attributesHeld⟩ := Option.isSome_iff_exists.mp
    ((inv.structuredAt id).attributesHeld ((atom_iff id).mpr registered))
  exact ⟨stateRef, attributesRef, held, attributesHeld⟩

/-- Two `CreateBoundaryScope` calls of `org-1` and a `PropagateState` into
`org-1` race, the `PropagateState` failing at `GetAtom`, while another
`PropagateState` runs into `org-0`; the registries still agree at the end. -/
theorem concurrent_registries_agree_race :
    let calls : List (Call Nat) := [.createBoundaryScope "org-0" "org",
      .makeMap ((∅ : GoMap Nat).insert "load" 1), .makeMap ((∅ : GoMap Nat).insert "load" 2)]
    let operations : List Operation :=
      [.createBoundaryScope "org-1" "org", .propagateState "org-1" 2,
        .createBoundaryScope "org-1" "team", .propagateState "org-0" 3]
    let schedule := [0, 0, 1, 2, 2, 1, 0, 2, 0, 2, 3, 3, 3]
    let cfg := (Config.start ((World.init : World Nat).run calls) operations).run schedule
    (∀ call ∈ calls, call.KeepsScopeMaps) ∧ cfg.Quiescent ∧
      ∀ id, id ∈ cfg.world.framework.aTenSpace.atoms ↔
        id ∈ cfg.world.framework.hypermind.scopes := by
  refine ⟨?keeps, ?quiescent, (concurrent_registries_agree _ ?keeps _ _ ?quiescent).2.1⟩
  case keeps => simp [Call.KeepsScopeMaps]
  case quiescent => decide

/-! ## No race makes `CreateBoundaryScope` fail -/

namespace Caller

/-- Where a `CreateBoundaryScope` caller can stand: past its first step only on
a non-empty ID, and returned with success exactly on such an ID. -/
def CreateSucceeds : Caller → Prop
  | ⟨.createBoundaryScope _ _, .registerVariable⟩ => True
  | ⟨.createBoundaryScope scopeID _, .registerScope⟩
  | ⟨.createBoundaryScope scopeID _, .addAtom⟩
  | ⟨.createBoundaryScope scopeID _, .attachTensor⟩ => scopeID ≠ ""
  | ⟨.createBoundaryScope scopeID _, .returned result⟩ => result.isOk = decide (scopeID ≠ "")
  | ⟨.createBoundaryScope _ _, _⟩ => False
  | ⟨.propagateState _ _, _⟩ => True

/-- A step keeps a caller where `CreateSucceeds` says, on a world that holds the
atom of a `CreateBoundaryScope` about to attach its tensor. -/
theorem CreateSucceeds.step {caller : Caller} (succeeds : caller.CreateSucceeds) (w : World V)
    (attaching : ∀ scopeID scopeType,
      caller = ⟨.createBoundaryScope scopeID scopeType, .attachTensor⟩ →
        scopeID ∈ w.framework.aTenSpace.atoms) :
    (⟨caller.operation, (caller.operation.step caller.pc w).1⟩ : Caller).CreateSucceeds := by
  obtain ⟨operation, pc⟩ := caller
  cases operation with
  | propagateState => trivial
  | createBoundaryScope scopeID scopeType =>
      cases pc with
      | registerVariable =>
          by_cases named : scopeID = ""
          · subst named
            simp [Operation.step, Framework.registerVariable, scopeVariable, CreateSucceeds,
              Except.isOk, Except.toBool]
          · rw [Operation.step_registerVariable_of_ne w scopeType named]
            exact named
      | registerScope =>
          rw [Operation.step_registerScope w succeeds]
          exact succeeds
      | addAtom =>
          rw [Operation.step_addAtom w succeeds]
          exact succeeds
      | attachTensor =>
          obtain ⟨atom, found⟩ := Option.isSome_iff_exists.mp
            (AList.lookup_isSome.mpr (attaching scopeID scopeType rfl))
          have named : scopeID ≠ "" := succeeds
          rw [Operation.step_attachTensor_of_lookup w scopeType found]
          simp [CreateSucceeds, named, Except.isOk, Except.toBool]
      | returned => exact succeeds
      | _ => exact succeeds.elim

end Caller

namespace Config

/-- The invariant of any callers, with every `CreateBoundaryScope` caller where
`Caller.CreateSucceeds` says. -/
structure CreatesSucceed (cfg : Config V) : Prop where
  structured : cfg.Structured
  succeeds : ∀ caller ∈ cfg.callers, caller.CreateSucceeds

variable {cfg : Config V}

theorem CreatesSucceed.step (inv : cfg.CreatesSucceed) (i : Nat) : (cfg.step i).CreatesSucceed := by
  have structured := inv.structured.step i
  cases found : cfg.callers[i]? with
  | none => simpa only [Config.step, found] using inv
  | some caller =>
      rw [step_of_getElem? found] at structured ⊢
      refine ⟨structured, fun other member => ?_⟩
      rcases List.mem_or_eq_of_mem_set member with kept | rfl
      · exact inv.succeeds other kept
      · exact (inv.succeeds caller (List.getElem?_mem found)).step cfg.world
          fun scopeID scopeType same => (inv.structured.structuredAt scopeID).attaching
            ⟨caller, List.getElem?_mem found, scopeType, same⟩

theorem CreatesSucceed.run : ∀ {cfg : Config V}, cfg.CreatesSucceed → ∀ schedule,
    (cfg.run schedule).CreatesSucceed
  | _, inv, [] => inv
  | _, inv, i :: rest => (inv.step i).run rest

end Config

/-- From a world reached by sequential calls that keep the scope maps, run any
concurrent `CreateBoundaryScope` and `PropagateState` callers under any
schedule: every `CreateBoundaryScope` that has returned succeeded exactly when
its ID is not empty. -/
theorem concurrent_creates_succeed (calls : List (Call V))
    (keeps : ∀ call ∈ calls, call.KeepsScopeMaps) (operations : List Operation)
    (schedule : List Nat) :
    let cfg := (Config.start ((World.init : World V).run calls) operations).run schedule
    ∀ scopeID scopeType result,
      (⟨.createBoundaryScope scopeID scopeType, .returned result⟩ : Caller) ∈ cfg.callers →
        result.isOk = decide (scopeID ≠ "") := by
  intro cfg scopeID scopeType result member
  have start : (Config.start ((World.init : World V).run calls) operations).CreatesSucceed :=
    ⟨Config.Structured.start (World.init_agreement.run keeps) operations, fun caller member => by
      obtain ⟨operation, -, rfl⟩ := List.mem_map.mp member
      cases operation <;> trivial⟩
  exact (start.run schedule).succeeds _ member

/-- The race of `concurrent_registries_agree_race`: the second
`CreateBoundaryScope` of `org-1` re-creates the scope and the atom while the
first is about to attach its tensor, and both succeed. -/
theorem concurrent_creates_succeed_race :
    let calls : List (Call Nat) := [.createBoundaryScope "org-0" "org",
      .makeMap ((∅ : GoMap Nat).insert "load" 1), .makeMap ((∅ : GoMap Nat).insert "load" 2)]
    let operations : List Operation :=
      [.createBoundaryScope "org-1" "org", .propagateState "org-1" 2,
        .createBoundaryScope "org-1" "team", .propagateState "org-0" 3]
    let schedule := [0, 0, 1, 2, 2, 1, 0, 2, 0, 2, 3, 3, 3]
    let cfg := (Config.start ((World.init : World Nat).run calls) operations).run schedule
    (∀ call ∈ calls, call.KeepsScopeMaps) ∧ ∃ result,
      (⟨.createBoundaryScope "org-1" "org", .returned result⟩ : Caller) ∈ cfg.callers ∧
        result.isOk = decide ("org-1" ≠ "") := by
  intro calls operations schedule cfg
  have keeps : ∀ call ∈ calls, call.KeepsScopeMaps := by simp [calls, Call.KeepsScopeMaps]
  have quiescent : cfg.Quiescent := by decide
  have ops : cfg.callers.map Caller.operation = operations :=
    (Config.operations_run _ schedule).trans (Config.operations_start _ operations)
  have created : Operation.createBoundaryScope "org-1" "org" ∈ cfg.callers.map Caller.operation := by
    rw [ops]
    exact List.mem_cons_self _ _
  obtain ⟨⟨operation, pc⟩, member, same⟩ := List.mem_map.mp created
  obtain rfl : operation = .createBoundaryScope "org-1" "org" := same
  cases pc with
  | returned result =>
      exact ⟨keeps, result, member,
        concurrent_creates_succeed calls keeps operations schedule _ _ _ member⟩
  | _ => cases quiescent _ member

end ATenBound.Integration
