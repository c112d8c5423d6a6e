import Mathlib.Algebra.Order.Ring.Nat
import ATenBound.Hypermind.Basic

/-!
# The peer directory and the discovery table over whole runs

`ConnectPeer` writes two structures: the directory `activePeers`, where a
record replaces the earlier one of its ID, and the discovery table, where it
appends its ID once per listing of a scope and never removes anything. Over
every run from `NewMultiScopeArchitecture`:

* the discovery entry of a key is the IDs of the successful connects, each
  repeated as often as the connect listed the key (`dht_lookup_run`), and the
  directory holds the last record connected under each ID
  (`activePeers_lookup_run`);
* so every ID in the table has a record, `DiscoverPeers` drops nothing, a peer
  is discovered under a key exactly when some connect with its ID listed the key,
  and `GetActivePeers` has one record per connected ID;
* `DiscoverPeers` returns a peer once per listing, not once: connecting the same
  peer twice returns it twice (`discoverPeers_repeats_peer`).
-/

namespace ATenBound.Hypermind

variable {V : Type}

/-- The peer a call connects, if it is a successful `ConnectPeer`. -/
def Action.connected : Action V → Option Peer
  | .connectPeer (some peer) => if peer.id = "" then none else some peer
  | _ => none

/-- The record handed to the last successful `ConnectPeer` with ID `peerID`. -/
def lastConnected (actions : List (Action V)) (peerID : String) : Option Peer :=
  (actions.filterMap (·.connected)).reverse.find? (·.id = peerID)

/-- The discovery entries the successful connects of a run append under `key`. -/
def indexedUnder (connects : List Peer) (key : String) : List String :=
  connects.flatMap fun peer => List.replicate (peer.scopeIDs.count key) peer.id

theorem DistributedHashTable.lookup_foldl_add (peerID key : String) :
    ∀ (scopeIDs : List String) (table : DistributedHashTable),
      (scopeIDs.foldl (fun table scopeID => table.add scopeID peerID) table).lookup key =
        table.lookup key ++ List.replicate (scopeIDs.count key) peerID
  | [], table => by simp
  | scopeID :: rest, table => by
      rw [List.foldl_cons, lookup_foldl_add peerID key rest, lookup_add, List.count_cons]
      by_cases same : key = scopeID
      · subst same
        simp only [if_true, beq_self_eq_true, List.append_assoc, List.singleton_append]
        rw [← List.replicate_succ, List.replicate_succ']
      · simp [same, Ne.symm same]

theorem Action.exec_peerNetwork (p : Process V) (action : Action V) :
    (action.exec p).2.arch.peerNetwork =
      match action.connected with
      | none => p.arch.peerNetwork
      | some peer =>
          ⟨p.arch.peerNetwork.activePeers.insert peer.id peer,
            peer.scopeIDs.foldl (fun table scopeID => table.add scopeID peer.id)
              p.arch.peerNetwork.dht⟩ := by
  cases action with
  | makeMap contents => rfl
  | propagateState target state => rfl
  | registerScope scope =>
      rcases scope with _ | scope
      · rfl
      · by_cases named : scope.id = "" <;>
          simp [exec, connected, MultiScopeArchitecture.registerScope, named]
  | connectPeer peer =>
      rcases peer with _ | peer
      · rfl
      · by_cases named : peer.id = "" <;>
          simp [exec, connected, MultiScopeArchitecture.connectPeer, named]

namespace Process

theorem dht_lookup_run (p : Process V) (key : String) :
    ∀ actions : List (Action V),
      (p.run actions).arch.peerNetwork.dht.lookup key =
        p.arch.peerNetwork.dht.lookup key ++
          indexedUnder (actions.filterMap (·.connected)) key
  | [] => by simp [indexedUnder]
  | action :: rest => by
      rw [run_cons, dht_lookup_run _ key rest, Action.exec_peerNetwork, List.filterMap_cons]
      cases action.connected with
      | none => rfl
      | some peer =>
          simp [indexedUnder, DistributedHashTable.lookup_foldl_add]

theorem activePeers_lookup_run (p : Process V) (peerID : String) :
    ∀ actions : List (Action V),
      (p.run actions).arch.peerNetwork.activePeers.lookup peerID =
        (lastConnected actions peerID).or (p.arch.peerNetwork.activePeers.lookup peerID)
  | [] => rfl
  | action :: rest => by
      rw [run_cons, activePeers_lookup_run _ peerID rest, Action.exec_peerNetwork]
      simp only [lastConnected, List.filterMap_cons]
      cases action.connected with
      | none => rfl
      | some peer =>
          by_cases same : peerID = peer.id
          · subst same
            simp [List.find?_append, AList.lookup_insert, Option.or_assoc]
          · simp [List.find?_append, AList.lookup_insert_ne same, Ne.symm same]

end Process

/-! ## From `NewMultiScopeArchitecture` -/

section Init

open Process

variable (actions : List (Action V))

theorem dht_lookup_init_run (key : String) :
    ((init : Process V).run actions).arch.peerNetwork.dht.lookup key =
      indexedUnder (actions.filterMap (·.connected)) key := by
  rw [dht_lookup_run]
  simp [init, newMultiScopeArchitecture, DistributedHashTable.lookup, AList.lookup_empty]

theorem activePeers_lookup_init_run (peerID : String) :
    ((init : Process V).run actions).arch.peerNetwork.activePeers.lookup peerID =
      lastConnected actions peerID := by
  rw [activePeers_lookup_run]
  simp [init, newMultiScopeArchitecture, AList.lookup_empty]

theorem lastConnected_id {peerID : String} {peer : Peer}
    (found : lastConnected actions peerID = some peer) : peer.id = peerID := by
  simpa using List.find?_some found

theorem lastConnected_isSome {peer : Peer} (connected : peer ∈ actions.filterMap (·.connected)) :
    (lastConnected actions peer.id).isSome := by
  rw [lastConnected, Option.isSome_iff_ne_none, Ne, List.find?_eq_none]
  exact fun noMatch => noMatch peer (List.mem_reverse.mpr connected) (by simp)

theorem mem_indexedUnder {connects : List Peer} {key peerID : String} :
    peerID ∈ indexedUnder connects key ↔
      ∃ peer ∈ connects, peer.id = peerID ∧ key ∈ peer.scopeIDs := by
  simp only [indexedUnder, List.mem_flatMap, List.mem_replicate, ne_eq,
    List.count_eq_zero, not_not]
  constructor
  · rintro ⟨peer, connected, listed, rfl⟩
    exact ⟨peer, connected, rfl, listed⟩
  · rintro ⟨peer, connected, rfl, listed⟩
    exact ⟨peer, connected, listed, rfl⟩

theorem indexed_mem_activePeers (key : String) {peerID : String}
    (indexed : peerID ∈ ((init : Process V).run actions).arch.peerNetwork.dht.lookup key) :
    (((init : Process V).run actions).arch.peerNetwork.activePeers.lookup peerID).isSome := by
  rw [dht_lookup_init_run, mem_indexedUnder] at indexed
  obtain ⟨peer, connected, rfl, _⟩ := indexed
  rw [activePeers_lookup_init_run]
  exact lastConnected_isSome actions connected

theorem count_indexedUnder (key peerID : String) :
    ∀ connects : List Peer,
      (indexedUnder connects key).count peerID =
        (connects.map fun peer => if peer.id = peerID then peer.scopeIDs.count key else 0).sum
  | [] => rfl
  | peer :: rest => by
      rw [indexedUnder, List.flatMap_cons, ← indexedUnder, List.count_append,
        count_indexedUnder key peerID rest, List.count_replicate]
      by_cases same : peer.id = peerID <;> simp [same]

theorem activePeers_named {peerID : String} {peer : Peer}
    (found : ((init : Process V).run actions).arch.peerNetwork.activePeers.lookup peerID =
      some peer) : peer.id = peerID :=
  lastConnected_id actions (by rwa [activePeers_lookup_init_run] at found)

/-- `DiscoverPeers` drops no entry of the discovery table. -/
theorem discoverPeers_map_some (key : String) :
    (((init : Process V).run actions).arch.discoverPeers key).map some =
      (((init : Process V).run actions).arch.peerNetwork.dht.lookup key).map
        (((init : Process V).run actions).arch.peerNetwork.activePeers.lookup ·) := by
  rw [MultiScopeArchitecture.discoverPeers, List.map_filterMap_some_eq_filter_map_isSome,
    List.filter_eq_self]
  intro found member
  obtain ⟨peerID, indexed, rfl⟩ := List.mem_map.mp member
  exact indexed_mem_activePeers actions key indexed

theorem mem_discoverPeers_iff (key : String) (record : Peer) :
    record ∈ ((init : Process V).run actions).arch.discoverPeers key ↔
      lastConnected actions record.id = some record ∧
        ∃ peer ∈ actions.filterMap (·.connected), peer.id = record.id ∧ key ∈ peer.scopeIDs := by
  rw [MultiScopeArchitecture.discoverPeers, List.mem_filterMap]
  constructor
  · rintro ⟨peerID, indexed, found⟩
    obtain rfl := activePeers_named actions found
    rw [activePeers_lookup_init_run] at found
    rw [dht_lookup_init_run, mem_indexedUnder] at indexed
    exact ⟨found, indexed⟩
  · rintro ⟨found, indexed⟩
    refine ⟨record.id, ?_, ?_⟩
    · rw [dht_lookup_init_run, mem_indexedUnder]
      exact indexed
    · rwa [activePeers_lookup_init_run]

/-- The values of a directory whose records carry their keys: the records with
a given ID are the one stored under it. -/
theorem filter_values_named (peerID : String) :
    ∀ {entries : List (Σ _ : String, Peer)}, entries.NodupKeys →
      (∀ entry ∈ entries, entry.2.id = entry.1) →
        (entries.map (·.2)).filter (·.id = peerID) = (entries.dlookup peerID).toList
  | [], _, _ => rfl
  | ⟨key, peer⟩ :: rest, nodup, named => by
      have ⟨keyFresh, restNodup⟩ := List.nodupKeys_cons.mp nodup
      have restNamed := fun entry member => named entry (List.mem_cons_of_mem _ member)
      have peerNamed : peer.id = key := named _ (List.mem_cons_self _ _)
      rw [List.map_cons, List.filter_cons, filter_values_named peerID restNodup restNamed]
      by_cases same : key = peerID
      · subst same
        simp [peerNamed, List.dlookup_cons_eq, List.dlookup_eq_none.mpr keyFresh]
      · simp [peerNamed, same, List.dlookup_cons_ne rest ⟨key, peer⟩ (Ne.symm same)]

end Init

/-! ## The directory and the discovery table agree -/

open Process in
/-- Over every run from `NewMultiScopeArchitecture`: every ID in a discovery
entry has a record, so `DiscoverPeers` returns the current record of each entry,
in entry order; a peer is discovered under a key exactly when it has a record
and some successful `ConnectPeer` with its ID listed the key; and
`GetActivePeers` holds one record per connected ID, the last one connected. -/
theorem peerDirectory_consistent (actions : List (Action V)) (key peerID : String) :
    let m := ((init : Process V).run actions).arch
    (∀ indexed ∈ m.peerNetwork.dht.lookup key, indexed ∈ m.peerNetwork.activePeers) ∧
    (m.discoverPeers key).map some =
      (m.peerNetwork.dht.lookup key).map (m.peerNetwork.activePeers.lookup ·) ∧
    ((∃ peer ∈ m.discoverPeers key, peer.id = peerID) ↔
      peerID ∈ m.peerNetwork.activePeers ∧
        ∃ peer ∈ actions.filterMap (·.connected), peer.id = peerID ∧ key ∈ peer.scopeIDs) ∧
    m.getActivePeers.filter (·.id = peerID) = (lastConnected actions peerID).toList := by
  refine ⟨fun indexed member => AList.lookup_isSome.mp
      (indexed_mem_activePeers actions key member),
    discoverPeers_map_some actions key, ?_, ?_⟩
  · constructor
    · rintro ⟨record, discovered, rfl⟩
      obtain ⟨found, indexed⟩ := (mem_discoverPeers_iff actions key record).mp discovered
      refine ⟨AList.lookup_isSome.mp ?_, indexed⟩
      rw [activePeers_lookup_init_run, found]
      rfl
    · rintro ⟨active, indexed⟩
      obtain ⟨record, found⟩ := Option.isSome_iff_exists.mp (AList.lookup_isSome.mpr active)
      have named := activePeers_named actions found
      rw [activePeers_lookup_init_run] at found
      exact ⟨record, (mem_discoverPeers_iff actions key record).mpr
        ⟨named ▸ found, named ▸ indexed⟩, named⟩
  · rw [MultiScopeArchitecture.getActivePeers, filter_values_named peerID
      (AList.nodupKeys _), ← AList.lookup, activePeers_lookup_init_run]
    intro entry member
    exact activePeers_named actions (AList.mem_lookup_iff.mpr member)

/-! ## Discovery repeats peers -/

section Repeats

open Process

variable (actions : List (Action V))

/-- `DiscoverPeers` returns the current record of an ID once per entry of the
ID in the discovery table. -/
theorem discoverPeers_countP (key peerID : String) :
    (((init : Process V).run actions).arch.discoverPeers key).countP
        (((init : Process V).run actions).arch.peerNetwork.activePeers.lookup peerID = some ·) =
      (((init : Process V).run actions).arch.peerNetwork.dht.lookup key).count peerID := by
  rw [MultiScopeArchitecture.discoverPeers, List.countP_filterMap, List.count_eq_countP]
  refine List.countP_congr fun indexed member => ?_
  obtain ⟨record, found⟩ :=
    Option.isSome_iff_exists.mp (indexed_mem_activePeers actions key member)
  simp only [found, Option.map_some', Option.getD_some, decide_eq_true_eq, beq_iff_eq]
  constructor
  · intro current
    exact (activePeers_named actions found).symm.trans (activePeers_named actions current)
  · rintro rfl
    exact found

/-- The two runs differ by one repeated `ConnectPeer`. -/
theorem lastConnected_connect_twice (pre post : List (Action V)) (peer : Peer)
    (peerID : String) :
    lastConnected (pre ++ .connectPeer (some peer) :: .connectPeer (some peer) :: post)
        peerID =
      lastConnected (pre ++ .connectPeer (some peer) :: post) peerID := by
  by_cases named : peer.id = ""
  · simp [lastConnected, Action.connected, named, List.filterMap_append]
  · simp only [lastConnected, List.filterMap_append, List.filterMap_cons, Action.connected,
      named, if_false, List.reverse_append, List.reverse_cons, List.find?_append,
      List.find?_cons, List.find?_nil]
    split <;> simp [Option.or_assoc]

end Repeats

open Process in
/-- Over every run from `NewMultiScopeArchitecture`, `DiscoverPeers` returns the
current record of a peer once for every listing of the key by a successful
`ConnectPeer` with its ID; repeating a `ConnectPeer` call adds copies but no new
peer. -/
theorem discoverPeers_counts_listings (actions : List (Action V)) (key peerID : String) :
    (((init : Process V).run actions).arch.discoverPeers key).countP
        (((init : Process V).run actions).arch.peerNetwork.activePeers.lookup peerID = some ·) =
      ((actions.filterMap (·.connected)).map fun peer =>
        if peer.id = peerID then peer.scopeIDs.count key else 0).sum ∧
    ∀ (pre post : List (Action V)) (peer record : Peer),
      record ∈ ((init : Process V).run
          (pre ++ .connectPeer (some peer) :: .connectPeer (some peer) :: post)).arch.discoverPeers
          key ↔
        record ∈ ((init : Process V).run
          (pre ++ .connectPeer (some peer) :: post)).arch.discoverPeers key := by
  refine ⟨by rw [discoverPeers_countP, dht_lookup_init_run, count_indexedUnder], ?_⟩
  intro pre post peer record
  rw [mem_discoverPeers_iff, mem_discoverPeers_iff, lastConnected_connect_twice]
  by_cases named : peer.id = ""
  · simp [Action.connected, named, List.filterMap_append]
  · simp [Action.connected, named, List.filterMap_append, or_assoc]

open Process in
/-- A peer connected twice with the same scope is discovered twice. -/
theorem discoverPeers_repeats_peer :
    ¬ ∀ (actions : List (Action Unit)) (key : String),
      (((init : Process Unit).run actions).arch.discoverPeers key).Nodup := fun discoveredOnce =>
  absurd (discoveredOnce [.connectPeer (some ⟨"peer-1", "addr1", ["scope-1"]⟩),
    .connectPeer (some ⟨"peer-1", "addr1", ["scope-1"]⟩)] "scope-1") (by decide)

end ATenBound.Hypermind
