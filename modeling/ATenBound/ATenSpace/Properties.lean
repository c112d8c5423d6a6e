import ATenBound.ATenSpace.Basic

/-!
# Links, tensors and boundaries

* No call removes an atom, and `AddLink` checks both ends, so every link of a
  space built by its own calls ends at atoms (`LinksResolve`).
* The tensor store is keyed by tensor ID and an atom names its tensor by ID:
  `AttachTensor` on one atom also changes `GetTensor` of every other atom that
  names the same ID (`attachTensor_getTensor`,
  `attachTensor_changes_other_atom`).
* `DefineBoundary` appends and `QueryByBoundary` stops at the first boundary
  with the ID, so a boundary ID answers from its first definition forever
  (`queryByBoundary_first_definition`, `redefined_boundary_is_ignored`).
-/

namespace ATenBound.ATenSpace

variable {V : Type}

namespace Space

/-! ## Links -/

/-- Both ends of every link are atoms. -/
def LinksResolve (s : Space) : Prop :=
  ∀ link ∈ s.links, link.source ∈ s.atoms ∧ link.target ∈ s.atoms

/-- `LinksResolve` holds of `s'` if `s'` keeps every atom of `s` and adds only
links between atoms of `s`. -/
theorem LinksResolve.of_grows {s s' : Space} (resolve : s.LinksResolve)
    (atomsKept : ∀ atomID ∈ s.atoms, atomID ∈ s'.atoms)
    (linksAdded : ∃ added, s'.links = s.links ++ added ∧
      ∀ link ∈ added, link.source ∈ s.atoms ∧ link.target ∈ s.atoms) :
    s'.LinksResolve := by
  obtain ⟨added, linksEq, addedResolve⟩ := linksAdded
  intro link member
  rw [linksEq, List.mem_append] at member
  have ends := member.elim (resolve link) (addedResolve link)
  exact ⟨atomsKept _ ends.1, atomsKept _ ends.2⟩

theorem addAtom_links (s : Space) (heap : Heap V) (atom : Option Atom) :
    (s.addAtom heap atom).2.2.links = s.links := by
  rcases atom with _ | atom
  · rfl
  · by_cases named : atom.id = "" <;> simp [addAtom, named]

theorem addAtom_atoms_mem (s : Space) (heap : Heap V) (atom : Option Atom) {atomID : String}
    (kept : atomID ∈ s.atoms) : atomID ∈ (s.addAtom heap atom).2.2.atoms := by
  rcases atom with _ | atom
  · exact kept
  · by_cases named : atom.id = "" <;> simp [addAtom, named, AList.mem_insert, kept]

theorem attachTensor_links (s : Space) (atomID : String) (tensor : Option Tensor) :
    (s.attachTensor atomID tensor).2.links = s.links := by
  rcases tensor with _ | tensor
  · rfl
  · cases found : s.atoms.lookup atomID <;> simp [attachTensor, found]

theorem attachTensor_atoms_mem (s : Space) (atomID : String) (tensor : Option Tensor)
    {other : String} (kept : other ∈ s.atoms) :
    other ∈ (s.attachTensor atomID tensor).2.atoms := by
  rcases tensor with _ | tensor
  · exact kept
  · cases found : s.atoms.lookup atomID <;> simp [attachTensor, found, AList.mem_insert, kept]

theorem defineBoundary_links (s : Space) (heap : Heap V) (boundary : Option DomainBoundary) :
    (s.defineBoundary heap boundary).2.2.links = s.links ∧
      (s.defineBoundary heap boundary).2.2.atoms = s.atoms := by
  rcases boundary with _ | boundary
  · exact ⟨rfl, rfl⟩
  · by_cases named : boundary.id = "" <;> simp [defineBoundary, named]

/-- `AddLink` keeps the atoms and appends at most a link between two atoms. -/
theorem addLink_grows (s : Space) (link : Option Link) :
    (s.addLink link).2.atoms = s.atoms ∧
      ∃ added, (s.addLink link).2.links = s.links ++ added ∧
        ∀ link ∈ added, link.source ∈ s.atoms ∧ link.target ∈ s.atoms := by
  rcases link with _ | link
  · exact ⟨rfl, [], (List.append_nil _).symm, by simp⟩
  · by_cases empty : link.source = "" ∨ link.target = ""
    · exact ⟨by simp [addLink, empty], [], by simp [addLink, empty], by simp⟩
    by_cases source : link.source ∈ s.atoms
    · by_cases target : link.target ∈ s.atoms
      · exact ⟨by simp [addLink, empty, source, target], [link],
          by simp [addLink, empty, source, target], by simp [source, target]⟩
      · exact ⟨by simp [addLink, empty, source, target], [],
          by simp [addLink, empty, source, target], by simp⟩
    · exact ⟨by simp [addLink, empty, source], [], by simp [addLink, empty, source], by simp⟩

theorem addAtom_linksResolve {s : Space} (resolve : s.LinksResolve) (heap : Heap V)
    (atom : Option Atom) : (s.addAtom heap atom).2.2.LinksResolve :=
  resolve.of_grows (fun _ => s.addAtom_atoms_mem heap atom)
    ⟨[], by simp [addAtom_links], by simp⟩

theorem addLink_linksResolve {s : Space} (resolve : s.LinksResolve) (link : Option Link) :
    (s.addLink link).2.LinksResolve :=
  resolve.of_grows (fun _ kept => (s.addLink_grows link).1 ▸ kept) (s.addLink_grows link).2

theorem attachTensor_linksResolve {s : Space} (resolve : s.LinksResolve) (atomID : String)
    (tensor : Option Tensor) : (s.attachTensor atomID tensor).2.LinksResolve :=
  resolve.of_grows (fun _ => s.attachTensor_atoms_mem atomID tensor)
    ⟨[], by simp [attachTensor_links], by simp⟩

theorem defineBoundary_linksResolve {s : Space} (resolve : s.LinksResolve) (heap : Heap V)
    (boundary : Option DomainBoundary) : (s.defineBoundary heap boundary).2.2.LinksResolve := by
  obtain ⟨links, atoms⟩ := s.defineBoundary_links heap boundary
  rw [LinksResolve, links, atoms]
  exact resolve

theorem newSpace_linksResolve : newSpace.LinksResolve := by
  simp [LinksResolve, newSpace]

/-- With `LinksResolve`, every link `GetLinksForAtom` returns has both ends
resolvable by `GetAtom`. -/
theorem getLinksForAtom_resolve {s : Space} (resolve : s.LinksResolve) (atomID : String) :
    ∀ link ∈ s.getLinksForAtom atomID,
      (∃ atom, s.getAtom link.source = .ok atom) ∧ ∃ atom, s.getAtom link.target = .ok atom := by
  intro link member
  have ends := resolve link (List.mem_filter.mp member).1
  obtain ⟨source, sourceFound⟩ := Option.isSome_iff_exists.mp (AList.lookup_isSome.mpr ends.1)
  obtain ⟨target, targetFound⟩ := Option.isSome_iff_exists.mp (AList.lookup_isSome.mpr ends.2)
  exact ⟨⟨source, by simp [getAtom, sourceFound]⟩, ⟨target, by simp [getAtom, targetFound]⟩⟩

/-! ## Attributes -/

/-- Every atom has a non-nil `Attributes` map. -/
def AttributesSet (s : Space) : Prop :=
  ∀ atomID atom, s.atoms.lookup atomID = some atom → atom.attributes ≠ none

theorem AttributesSet.insert {s : Space} (inv : s.AttributesSet) (atomID : String) (atom : Atom)
    (set : atom.attributes ≠ none) :
    ∀ id stored, (s.atoms.insert atomID atom).lookup id = some stored → stored.attributes ≠ none := by
  intro id stored found
  by_cases same : id = atomID
  · subst same
    rw [AList.lookup_insert, Option.some.injEq] at found
    exact found ▸ set
  · exact inv id stored (by rwa [AList.lookup_insert_ne same] at found)

theorem addAtom_attributesSet {s : Space} (inv : s.AttributesSet) (heap : Heap V)
    (atom : Option Atom) : (s.addAtom heap atom).2.2.AttributesSet := by
  rcases atom with _ | atom
  · exact inv
  · by_cases named : atom.id = ""
    · simpa [addAtom, named] using inv
    · simpa [addAtom, named] using inv.insert atom.id
        { atom with attributes := some (heap.makeIfNil atom.attributes).1 } (by simp)

theorem attachTensor_attributesSet {s : Space} (inv : s.AttributesSet) (atomID : String)
    (tensor : Option Tensor) : (s.attachTensor atomID tensor).2.AttributesSet := by
  rcases tensor with _ | tensor
  · exact inv
  · cases found : s.atoms.lookup atomID with
    | none => simpa [attachTensor, found] using inv
    | some atom =>
        simpa [attachTensor, found] using
          inv.insert atomID { atom with tensorID := tensor.id } (inv atomID atom found)

theorem newSpace_attributesSet : newSpace.AttributesSet := by
  simp [AttributesSet, newSpace]

/-! ## Tensors -/

/-- `AttachTensor` of a tensor with a non-empty ID: the atom reads that tensor
afterwards; another atom reads it too exactly when it names the same tensor ID,
and reads what it read before otherwise. -/
theorem attachTensor_getTensor (s : Space) (atomID : String) (tensor : Tensor)
    (named : tensor.id ≠ "") (attached : (s.attachTensor atomID (some tensor)).1 = .ok ()) :
    (s.attachTensor atomID (some tensor)).2.getTensor atomID = .ok tensor ∧
      ∀ other, other ≠ atomID →
        (s.attachTensor atomID (some tensor)).2.getTensor other =
          if (s.atoms.lookup other).map (·.tensorID) = some tensor.id then .ok tensor
          else s.getTensor other := by
  cases found : s.atoms.lookup atomID with
  | none => simp [attachTensor, found] at attached
  | some atom =>
      simp only [attachTensor, found]
      refine ⟨by simp [getTensor, AList.lookup_insert, named], fun other different => ?_⟩
      simp only [getTensor, AList.lookup_insert_ne different]
      cases s.atoms.lookup other with
      | none => simp
      | some target =>
          by_cases untensored : target.tensorID = ""
          · simp [untensored, Ne.symm named]
          · by_cases shared : target.tensorID = tensor.id
            · simp only [Option.map_some', shared, if_true, if_neg named]
              rw [shared, AList.lookup_insert]
            · simp [shared, untensored, AList.lookup_insert_ne shared]

/-- One atom with its own tensor: attaching it reads it back. -/
theorem attachTensor_getTensor_fresh :
    (((newSpace.addAtom (Heap.empty : Heap Unit)
        (some ⟨"atom-1", entityAtom, "atom-1", none, ""⟩)).2.2).attachTensor "atom-1"
        (some ⟨"tensor-1", [2, 2], "float64", "cpu"⟩)).2.getTensor "atom-1" =
      .ok ⟨"tensor-1", [2, 2], "float64", "cpu"⟩ :=
  (attachTensor_getTensor ((newSpace.addAtom (Heap.empty : Heap Unit)
      (some ⟨"atom-1", entityAtom, "atom-1", none, ""⟩)).2.2) "atom-1"
    ⟨"tensor-1", [2, 2], "float64", "cpu"⟩ (by decide) rfl).1

/-- Two atoms naming tensor ID `T`: attaching a new `T` to atom `a` changes
what atom `b` reads. -/
theorem attachTensor_changes_other_atom :
    ¬ ∀ (actions : List (Action Unit)) (atomID : String) (tensor : Tensor),
      ((Process.init.run actions).space.attachTensor atomID (some tensor)).1 = .ok () →
        ((Process.init.run actions).space.attachTensor atomID (some tensor)).2.getTensor
            atomID = .ok tensor ∧
          ∀ other, other ≠ atomID →
            ((Process.init.run actions).space.attachTensor atomID (some tensor)).2.getTensor
              other = (Process.init.run actions).space.getTensor other := by
  intro otherAtomsKept
  have unchanged := (otherAtomsKept [.addAtom (some ⟨"b", entityAtom, "b", none, ""⟩),
      .attachTensor "b" (some ⟨"T", [1], "float64", "cpu"⟩),
      .addAtom (some ⟨"a", entityAtom, "a", none, ""⟩)] "a" ⟨"T", [2], "float64", "cpu"⟩
      rfl).2 "b" (by decide)
  exact absurd (congrArg Except.toOption unchanged) (by decide)

/-! ## Boundaries -/

/-- No call removes or reorders a boundary. -/
theorem exec_boundaries (p : Process V) (action : Action V) :
    ∃ added, (action.exec p).2.space.boundaries = p.space.boundaries ++ added := by
  cases action with
  | makeMap contents => exact ⟨[], by simp [Action.exec]⟩
  | addAtom atom =>
      rcases atom with _ | atom
      · exact ⟨[], by simp [Action.exec, addAtom]⟩
      · by_cases named : atom.id = "" <;> exact ⟨[], by simp [Action.exec, addAtom, named]⟩
  | addLink link =>
      refine ⟨[], ?_⟩
      simp only [Action.exec, List.append_nil]
      rcases link with _ | link
      · rfl
      · dsimp only [addLink]
        split_ifs <;> rfl
  | attachTensor atomID tensor =>
      refine ⟨[], ?_⟩
      rcases tensor with _ | tensor
      · simp [Action.exec, attachTensor]
      · cases found : p.space.atoms.lookup atomID <;> simp [Action.exec, attachTensor, found]
  | defineBoundary boundary =>
      rcases boundary with _ | boundary
      · exact ⟨[], by simp [Action.exec, defineBoundary]⟩
      · by_cases named : boundary.id = ""
        · exact ⟨[], by simp [Action.exec, defineBoundary, named]⟩
        · exact ⟨[{ boundary with properties := some (p.heap.makeIfNil boundary.properties).1 }],
            by simp [Action.exec, defineBoundary, named]⟩

theorem run_boundaries (p : Process V) :
    ∀ actions : List (Action V), ∃ added, (p.run actions).space.boundaries =
      p.space.boundaries ++ added
  | [] => ⟨[], by simp⟩
  | action :: rest => by
      obtain ⟨first, step⟩ := exec_boundaries p action
      obtain ⟨second, restStep⟩ := run_boundaries (action.exec p).2 rest
      exact ⟨first ++ second, by rw [Process.run_cons, restStep, step, List.append_assoc]⟩

/-- A boundary ID answers from its first definition: after `DefineBoundary` of
`boundary` and any later calls, `QueryByBoundary` of its ID lists the atoms of
the first boundary ever defined with that ID (`boundary` itself if it is the
first), as the atoms stand at the query. -/
theorem queryByBoundary_first_definition (p : Process V) (boundary : DomainBoundary)
    (named : boundary.id ≠ "") (later : List (Action V)) :
    (p.run (.defineBoundary (some boundary) :: later)).space.queryByBoundary boundary.id =
      .ok (((p.space.boundaries.find? (·.id = boundary.id)).getD boundary).atomIDs.filterMap
        ((p.run (.defineBoundary (some boundary) :: later)).space.atoms.lookup ·)) := by
  obtain ⟨added, grown⟩ :=
    run_boundaries ((Action.defineBoundary (some boundary)).exec p).2 later
  rw [Process.run_cons, queryByBoundary, grown]
  simp only [Action.exec, defineBoundary, named, if_false, List.append_assoc,
    List.singleton_append, List.find?_append, List.find?_cons, decide_True]
  cases p.space.boundaries.find? (·.id = boundary.id) <;> rfl

/-- The test scenario: `boundary-1` over two atoms lists both. -/
theorem queryByBoundary_two_atoms :
    let p := (Process.init : Process Unit).run
      [.addAtom (some ⟨"atom-1", entityAtom, "", none, ""⟩),
        .addAtom (some ⟨"atom-2", entityAtom, "", none, ""⟩)]
    (p.run [.defineBoundary (some ⟨"boundary-1", "", transactionalBoundary,
        ["atom-1", "atom-2"], none⟩)]).space.queryByBoundary "boundary-1" =
      .ok (["atom-1", "atom-2"].filterMap
        ((p.run [.defineBoundary (some ⟨"boundary-1", "", transactionalBoundary,
          ["atom-1", "atom-2"], none⟩)]).space.atoms.lookup ·)) :=
  queryByBoundary_first_definition _ ⟨"boundary-1", "", transactionalBoundary,
    ["atom-1", "atom-2"], none⟩ (by decide) []

/-- Boundary `B` defined over `x`, then again over `y`: the query still answers
with `x`. -/
theorem redefined_boundary_is_ignored :
    ¬ ∀ (actions : List (Action Unit)) (boundary : DomainBoundary), boundary.id ≠ "" →
      (Process.init.run (actions ++ [.defineBoundary (some boundary)])).space.queryByBoundary
          boundary.id =
        .ok (boundary.atomIDs.filterMap
          ((Process.init.run (actions ++ [.defineBoundary (some boundary)])).space.atoms.lookup ·)) := by
  intro lastDefinitionWins
  have answered := lastDefinitionWins [.addAtom (some ⟨"x", entityAtom, "x", none, ""⟩),
      .addAtom (some ⟨"y", entityAtom, "y", none, ""⟩),
      .defineBoundary (some ⟨"B", "B", scopeBoundary, ["x"], none⟩)]
    ⟨"B", "B", scopeBoundary, ["y"], none⟩ (by decide)
  exact absurd (congrArg Except.toOption answered) (by decide)

end Space

end ATenBound.ATenSpace
