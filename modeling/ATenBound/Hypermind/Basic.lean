import ATenBound.Runtime

/-!
# `internal/hypermind`: the multi-scope architecture

The scope registry, the peer network and its discovery table of
`hypermind.go`, one definition per method, with the error texts of the source.

A registered scope keeps the `State` map it was given: `state` is a reference
into the heap, and `PropagateState` writes through it. The timestamps
(`CreatedAt`, `UpdatedAt`, `LastSeen`) come from `time.Now()` and no function
reads them, so they are left out.

`Process` pairs the architecture with the heap, and `Action` lists the calls
that change either; `run` executes a sequence of them. The reads (`GetScope`,
`DiscoverPeers`, `GetActivePeers`) are functions of the state.
-/

namespace ATenBound.Hypermind

/-- `DistributedScope`; `state` is the reference of `State`, `none` when nil. -/
structure DistributedScope where
  id : String
  parentID : String
  type : String
  peers : List String
  state : Option MapRef
  deriving DecidableEq, Repr

structure Peer where
  id : String
  address : String
  scopeIDs : List String
  deriving DecidableEq, Repr

/-- `DistributedHashTable`: for each key, the peer IDs added under it, in the
order they were added. -/
structure DistributedHashTable where
  entries : GoMap (List String)

namespace DistributedHashTable

/-- `add`: append a peer ID to the entry of a key, creating the entry first
when there is none. -/
def add (table : DistributedHashTable) (key peerID : String) :
    DistributedHashTable :=
  ⟨table.entries.insert key ((table.entries.lookup key).getD [] ++ [peerID])⟩

def lookup (table : DistributedHashTable) (key : String) : List String :=
  (table.entries.lookup key).getD []

@[simp]
theorem lookup_add (table : DistributedHashTable) (key peerID other : String) :
    (table.add key peerID).lookup other =
      if other = key then table.lookup other ++ [peerID] else table.lookup other := by
  by_cases same : other = key
  · subst same
    simp [add, lookup, AList.lookup_insert]
  · simp [add, lookup, AList.lookup_insert_ne same, same]

end DistributedHashTable

structure PeerNetwork where
  activePeers : GoMap Peer
  dht : DistributedHashTable

structure MultiScopeArchitecture where
  scopes : GoMap DistributedScope
  peerNetwork : PeerNetwork

/-- `NewMultiScopeArchitecture`; its error result is always nil. -/
def newMultiScopeArchitecture : MultiScopeArchitecture :=
  ⟨∅, ⟨∅, ⟨∅⟩⟩⟩

namespace MultiScopeArchitecture

variable {V : Type}

/-- `RegisterScope`. A nil `State` gets a fresh empty map; a non-nil one is
stored as it is, so the registry shares the caller's map. -/
def registerScope (m : MultiScopeArchitecture) (heap : Heap V) :
    Option DistributedScope → Except Err Unit × Heap V × MultiScopeArchitecture
  | none =>
      (.error (.new .invalidParameter
        "hypermind.(MultiScopeArchitecture).RegisterScope" "scope is nil"), heap, m)
  | some scope =>
      if scope.id = "" then
        (.error (.new .invalidParameter
          "hypermind.(MultiScopeArchitecture).RegisterScope" "scope ID is empty"), heap, m)
      else
        let (ref, heap) := heap.makeIfNil scope.state
        (.ok (), heap,
          { m with scopes := m.scopes.insert scope.id { scope with state := some ref } })

def getScope (m : MultiScopeArchitecture) (scopeID : String) :
    Except Err DistributedScope :=
  match m.scopes.lookup scopeID with
  | none =>
      .error (.new .invalidParameter
        "hypermind.(MultiScopeArchitecture).GetScope" s!"scope {scopeID} not found")
  | some scope => .ok scope

def propagateToPeers (_m : MultiScopeArchitecture) (_scopeID : String)
    (_state : GoMap V) : Except Err Unit :=
  .ok ()

/-- `PropagateState`: merge the delta into the scope's `State` map, then call
the fan-out hook. Writing a key into a nil `State` panics. -/
def propagateState (m : MultiScopeArchitecture) (heap : Heap V) (scopeID : String)
    (state : GoMap V) : Except Err Unit × Heap V :=
  match m.scopes.lookup scopeID with
  | none =>
      (.error (.new .invalidParameter
        "hypermind.(MultiScopeArchitecture).PropagateState" s!"scope {scopeID} not found"),
        heap)
  | some scope =>
      match scope.state with
      | none =>
          if state.keys = [] then (m.propagateToPeers scopeID state, heap)
          else (.error Err.nilMapWrite, heap)
      | some ref =>
          (m.propagateToPeers scopeID state,
            heap.write ref (mergeInto (heap.maps ref) state))

/-- `ConnectPeer`: store the peer under its ID, replacing an earlier record, and
append its ID to the discovery entry of every scope it lists. -/
def connectPeer (m : MultiScopeArchitecture) :
    Option Peer → Except Err Unit × MultiScopeArchitecture
  | none =>
      (.error (.new .invalidParameter
        "hypermind.(MultiScopeArchitecture).ConnectPeer" "peer is nil"), m)
  | some peer =>
      if peer.id = "" then
        (.error (.new .invalidParameter
          "hypermind.(MultiScopeArchitecture).ConnectPeer" "peer ID is empty"), m)
      else
        (.ok (), { m with peerNetwork :=
          { activePeers := m.peerNetwork.activePeers.insert peer.id peer
            dht := peer.scopeIDs.foldl (fun table scopeID => table.add scopeID peer.id)
              m.peerNetwork.dht } })

/-- `DiscoverPeers`: the current record of every peer ID in the discovery entry,
skipping IDs with no record; its error result is always nil. -/
def discoverPeers (m : MultiScopeArchitecture) (scopeID : String) : List Peer :=
  (m.peerNetwork.dht.lookup scopeID).filterMap (m.peerNetwork.activePeers.lookup ·)

/-- `GetActivePeers`. Go visits a map in no fixed order; the model lists the
records in the map's own order, and nothing proved about it depends on that. -/
def getActivePeers (m : MultiScopeArchitecture) : List Peer :=
  m.peerNetwork.activePeers.entries.map (·.2)

def integrateWithBoundary (_m : MultiScopeArchitecture) : Except Err Unit :=
  .ok ()

end MultiScopeArchitecture

/-! ## Runs of calls -/

/-- A process using the architecture: the maps it has allocated and the
architecture itself. -/
structure Process (V : Type) where
  heap : Heap V
  arch : MultiScopeArchitecture

/-- The calls that change a `Process`: the three writing methods, and a map
literal of the caller (whose reference is the heap's `next`). -/
inductive Action (V : Type) where
  | makeMap (contents : GoMap V)
  | registerScope (scope : Option DistributedScope)
  | propagateState (scopeID : String) (state : GoMap V)
  | connectPeer (peer : Option Peer)

namespace Action

variable {V : Type}

def exec : Action V → Process V → Except Err Unit × Process V
  | .makeMap contents, p => (.ok (), ⟨(p.heap.alloc contents).2, p.arch⟩)
  | .registerScope scope, p =>
      let (result, heap, arch) := p.arch.registerScope p.heap scope
      (result, ⟨heap, arch⟩)
  | .propagateState scopeID state, p =>
      let (result, heap) := p.arch.propagateState p.heap scopeID state
      (result, ⟨heap, p.arch⟩)
  | .connectPeer peer, p =>
      let (result, arch) := p.arch.connectPeer peer
      (result, ⟨p.heap, arch⟩)

end Action

namespace Process

variable {V : Type}

def init : Process V :=
  ⟨Heap.empty, newMultiScopeArchitecture⟩

def run (p : Process V) : List (Action V) → Process V
  | [] => p
  | action :: rest => (action.exec p).2.run rest

@[simp]
theorem run_nil (p : Process V) : p.run [] = p :=
  rfl

@[simp]
theorem run_cons (p : Process V) (action : Action V) (rest : List (Action V)) :
    p.run (action :: rest) = (action.exec p).2.run rest :=
  rfl

theorem run_append (p : Process V) (first second : List (Action V)) :
    p.run (first ++ second) = (p.run first).run second := by
  induction first generalizing p with
  | nil => rfl
  | cons action rest inductionHypothesis => exact inductionHypothesis _

end Process

end ATenBound.Hypermind
