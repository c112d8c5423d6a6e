import ATenBound.Runtime

/-!
# `internal/atenspace`: the hypergraph space

The `Space` of `atenspace.go`: atoms by ID, the list of links, the tensor store
keyed by tensor ID, and the list of domain boundaries. An atom's `Attributes`
and a boundary's `Properties` are maps held by reference, like a hypermind
scope's `State`.

Left out, since no function reads them: the timestamps, a link's `Strength` and
a tensor's `Data` (both `float64`).
-/

namespace ATenBound.ATenSpace

/-- `AtomType`, a Go string type. -/
abbrev AtomType := String

def entityAtom : AtomType := "entity"
def aggregateAtom : AtomType := "aggregate"
def resourceAtom : AtomType := "resource"
def relationAtom : AtomType := "relation"
def conceptAtom : AtomType := "concept"

abbrev LinkType := String

def inheritanceLink : LinkType := "inheritance"
def membershipLink : LinkType := "membership"
def scopeLink : LinkType := "scope"
def dependencyLink : LinkType := "dependency"
def associationLink : LinkType := "association"

abbrev BoundaryType := String

def transactionalBoundary : BoundaryType := "transactional"
def securityBoundary : BoundaryType := "security"
def scopeBoundary : BoundaryType := "scope"
def logicalBoundary : BoundaryType := "logical"

/-- `Atom`; `attributes` is the reference of `Attributes`, `none` when nil. -/
structure Atom where
  id : String
  type : AtomType
  name : String
  attributes : Option MapRef
  tensorID : String
  deriving DecidableEq, Repr

structure Link where
  id : String
  type : LinkType
  source : String
  target : String
  deriving DecidableEq, Repr

structure Tensor where
  id : String
  shape : List Int
  dType : String
  device : String
  deriving DecidableEq, Repr

/-- `DomainBoundary`; `properties` is the reference of `Properties`. -/
structure DomainBoundary where
  id : String
  name : String
  type : BoundaryType
  atomIDs : List String
  properties : Option MapRef
  deriving DecidableEq, Repr

structure Space where
  atoms : GoMap Atom
  links : List Link
  tensorStore : GoMap Tensor
  boundaries : List DomainBoundary

/-- `NewSpace`; its error result is always nil. -/
def newSpace : Space :=
  ⟨∅, [], ∅, []⟩

namespace Space

variable {V : Type}

/-- `AddAtom`: store the atom under its ID, replacing an earlier one; a nil
`Attributes` gets a fresh empty map. -/
def addAtom (s : Space) (heap : Heap V) : Option Atom → Except Err Unit × Heap V × Space
  | none =>
      (.error (.new .invalidParameter "atenspace.(Space).AddAtom" "atom is nil"), heap, s)
  | some atom =>
      if atom.id = "" then
        (.error (.new .invalidParameter "atenspace.(Space).AddAtom" "atom ID is empty"),
          heap, s)
      else
        let (ref, heap) := heap.makeIfNil atom.attributes
        (.ok (), heap,
          { s with atoms := s.atoms.insert atom.id { atom with attributes := some ref } })

/-- `AddLink`: append the link once both of its ends are atoms. -/
def addLink (s : Space) : Option Link → Except Err Unit × Space
  | none => (.error (.new .invalidParameter "atenspace.(Space).AddLink" "link is nil"), s)
  | some link =>
      if link.source = "" ∨ link.target = "" then
        (.error (.new .invalidParameter
          "atenspace.(Space).AddLink" "link source or target is empty"), s)
      else if link.source ∉ s.atoms then
        (.error (.new .invalidParameter
          "atenspace.(Space).AddLink" s!"source atom {link.source} not found"), s)
      else if link.target ∉ s.atoms then
        (.error (.new .invalidParameter
          "atenspace.(Space).AddLink" s!"target atom {link.target} not found"), s)
      else (.ok (), { s with links := s.links ++ [link] })

/-- `AttachTensor`: point the atom at the tensor's ID and store the tensor
under that ID, replacing any tensor stored there. -/
def attachTensor (s : Space) (atomID : String) : Option Tensor → Except Err Unit × Space
  | none =>
      (.error (.new .invalidParameter "atenspace.(Space).AttachTensor" "tensor is nil"), s)
  | some tensor =>
      match s.atoms.lookup atomID with
      | none =>
          (.error (.new .invalidParameter
            "atenspace.(Space).AttachTensor" s!"atom {atomID} not found"), s)
      | some atom =>
          (.ok (), { s with
            atoms := s.atoms.insert atomID { atom with tensorID := tensor.id }
            tensorStore := s.tensorStore.insert tensor.id tensor })

/-- `DefineBoundary`: append the boundary; a nil `Properties` gets a fresh
empty map. -/
def defineBoundary (s : Space) (heap : Heap V) :
    Option DomainBoundary → Except Err Unit × Heap V × Space
  | none =>
      (.error (.new .invalidParameter "atenspace.(Space).DefineBoundary" "boundary is nil"),
        heap, s)
  | some boundary =>
      if boundary.id = "" then
        (.error (.new .invalidParameter
          "atenspace.(Space).DefineBoundary" "boundary ID is empty"), heap, s)
      else
        let (ref, heap) := heap.makeIfNil boundary.properties
        (.ok (), heap,
          { s with boundaries := s.boundaries ++ [{ boundary with properties := some ref }] })

def getAtom (s : Space) (atomID : String) : Except Err Atom :=
  match s.atoms.lookup atomID with
  | none =>
      .error (.new .invalidParameter "atenspace.(Space).GetAtom" s!"atom {atomID} not found")
  | some atom => .ok atom

/-- `GetLinksForAtom`: the links with the atom at either end, in order. -/
def getLinksForAtom (s : Space) (atomID : String) : List Link :=
  s.links.filter fun link => link.source = atomID ∨ link.target = atomID

/-- `GetTensor`: follow the atom's `TensorID` into the tensor store. -/
def getTensor (s : Space) (atomID : String) : Except Err Tensor :=
  match s.atoms.lookup atomID with
  | none =>
      .error (.new .invalidParameter "atenspace.(Space).GetTensor" s!"atom {atomID} not found")
  | some atom =>
      if atom.tensorID = "" then
        .error (.new .invalidParameter
          "atenspace.(Space).GetTensor" s!"atom {atomID} has no tensor")
      else
        match s.tensorStore.lookup atom.tensorID with
        | none =>
            .error (.new .invalidParameter
              "atenspace.(Space).GetTensor" s!"tensor {atom.tensorID} not found")
        | some tensor => .ok tensor

def getBoundaries (s : Space) : List DomainBoundary :=
  s.boundaries

/-- `QueryByBoundary`: the first boundary with the ID, and of its atom IDs those
that are atoms, in order. -/
def queryByBoundary (s : Space) (boundaryID : String) : Except Err (List Atom) :=
  match s.boundaries.find? (·.id = boundaryID) with
  | none =>
      .error (.new .invalidParameter
        "atenspace.(Space).QueryByBoundary" s!"boundary {boundaryID} not found")
  | some boundary => .ok (boundary.atomIDs.filterMap (s.atoms.lookup ·))

def integrateWithBoundary (_s : Space) : Except Err Unit :=
  .ok ()

end Space

/-! ## Runs of calls -/

/-- A process using a space: the maps it has allocated and the space. -/
structure Process (V : Type) where
  heap : Heap V
  space : Space

/-- The calls that change a `Process`: the four writing methods, and a map
literal of the caller. -/
inductive Action (V : Type) where
  | makeMap (contents : GoMap V)
  | addAtom (atom : Option Atom)
  | addLink (link : Option Link)
  | attachTensor (atomID : String) (tensor : Option Tensor)
  | defineBoundary (boundary : Option DomainBoundary)

namespace Action

variable {V : Type}

def exec : Action V → Process V → Except Err Unit × Process V
  | .makeMap contents, p => (.ok (), ⟨(p.heap.alloc contents).2, p.space⟩)
  | .addAtom atom, p =>
      let (result, heap, space) := p.space.addAtom p.heap atom
      (result, ⟨heap, space⟩)
  | .addLink link, p =>
      let (result, space) := p.space.addLink link
      (result, ⟨p.heap, space⟩)
  | .attachTensor atomID tensor, p =>
      let (result, space) := p.space.attachTensor atomID tensor
      (result, ⟨p.heap, space⟩)
  | .defineBoundary boundary, p =>
      let (result, heap, space) := p.space.defineBoundary p.heap boundary
      (result, ⟨heap, space⟩)

end Action

namespace Process

variable {V : Type}

def init : Process V :=
  ⟨Heap.empty, newSpace⟩

def run (p : Process V) : List (Action V) → Process V
  | [] => p
  | action :: rest => (action.exec p).2.run rest

@[simp]
theorem run_nil (p : Process V) : p.run [] = p :=
  rfl

@[simp]
theorem run_cons (p : Process V) (action : Action V) (rest : List (Action V)) :
    p.run (action :: rest) = (action.exec p).2.run rest :=
  rfl

end Process

end ATenBound.ATenSpace
