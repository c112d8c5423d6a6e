import Mathlib.Data.List.AList

/-!
# The Go runtime the three frameworks run on

The packages under `internal/` share four things that Go provides, and every
later module uses them:

* `Err`, the errors of `internal/errors` (`errors.New`, `errors.Wrap`), and the
  runtime panic of a write into a nil map;
* `GoMap`, a Go `map[string]T`: an association list whose keys are distinct;
* `Heap`, the `map[string]interface{}` objects by reference. A scope's `State`
  and an atom's `Attributes` are such references: two records may share one
  map, and a write through either is seen by both;
* `mergeInto`, the loop `for k, v := range state { m[k] = v }` with which both
  `PropagateState` methods merge a delta.

The values stored in an `interface{}` are a type parameter `V` throughout.
-/

namespace ATenBound

inductive Code where
  | invalidParameter
  deriving DecidableEq, Repr

inductive Err where
  /-- `errors.New(ctx, code, op, msg)`. -/
  | new (code : Code) (op : String) (msg : String)
  /-- `errors.Wrap(ctx, err, op, errors.WithMsg(msg))`; `msg` is empty without
  `WithMsg`. -/
  | wrap (err : Err) (op : String) (msg : String)
  /-- A runtime panic; it is not returned but unwinds through every caller. -/
  | panic (msg : String)
  deriving DecidableEq, Repr

namespace Err

/-- What a caller that does `return errors.Wrap(ctx, err, op, ...)` passes on: a
panic is not an error value and goes through unchanged. -/
def wrapIn (op msg : String) : Err → Err
  | .panic reason => .panic reason
  | err => .wrap err op msg

/-- The panic of `m[k] = v` on a nil map `m`. -/
def nilMapWrite : Err :=
  .panic "assignment to entry in nil map"

end Err

abbrev GoMap (α : Type) := AList (fun _ : String => α)

/-- Which map object a Go map value refers to. -/
abbrev MapRef := Nat

/-- The `map[string]interface{}` objects allocated so far; `next` is the
reference the next allocation returns. -/
structure Heap (V : Type) where
  next : MapRef
  maps : MapRef → GoMap V

namespace Heap

variable {V : Type}

def empty : Heap V :=
  ⟨0, fun _ => ∅⟩

/-- A map literal with the given contents, or `make(map[string]interface{})`
when they are empty. -/
def alloc (heap : Heap V) (contents : GoMap V) : MapRef × Heap V :=
  (heap.next, ⟨heap.next + 1, Function.update heap.maps heap.next contents⟩)

def write (heap : Heap V) (ref : MapRef) (contents : GoMap V) : Heap V :=
  { heap with maps := Function.update heap.maps ref contents }

/-- `if x == nil { x = make(map[string]interface{}) }` on a map-valued field:
the reference the field holds afterwards. -/
def makeIfNil (heap : Heap V) : Option MapRef → MapRef × Heap V
  | some ref => (ref, heap)
  | none => heap.alloc ∅

@[simp]
theorem alloc_fst (heap : Heap V) (contents : GoMap V) :
    (heap.alloc contents).1 = heap.next :=
  rfl

@[simp]
theorem alloc_next (heap : Heap V) (contents : GoMap V) :
    (heap.alloc contents).2.next = heap.next + 1 :=
  rfl

@[simp]
theorem alloc_maps (heap : Heap V) (contents : GoMap V) (ref : MapRef) :
    (heap.alloc contents).2.maps ref =
      if ref = heap.next then contents else heap.maps ref :=
  Function.update_apply _ _ _ _

@[simp]
theorem write_next (heap : Heap V) (ref : MapRef) (contents : GoMap V) :
    (heap.write ref contents).next = heap.next :=
  rfl

@[simp]
theorem write_maps (heap : Heap V) (ref other : MapRef) (contents : GoMap V) :
    (heap.write ref contents).maps other =
      if other = ref then contents else heap.maps other :=
  Function.update_apply _ _ _ _

@[simp]
theorem makeIfNil_some (heap : Heap V) (ref : MapRef) :
    heap.makeIfNil (some ref) = (ref, heap) :=
  rfl

@[simp]
theorem makeIfNil_none (heap : Heap V) :
    heap.makeIfNil none = heap.alloc ∅ :=
  rfl

/-- `heap'` has allocated at least the maps of `heap`, and left their contents
alone. -/
structure Extends (heap heap' : Heap V) : Prop where
  next_le : heap.next ≤ heap'.next
  maps_eq : ∀ ref, ref < heap.next → heap'.maps ref = heap.maps ref

theorem Extends.refl (heap : Heap V) : heap.Extends heap :=
  ⟨le_refl _, fun _ _ => rfl⟩

theorem alloc_extends (heap : Heap V) (contents : GoMap V) :
    heap.Extends (heap.alloc contents).2 :=
  ⟨Nat.le_succ _, fun ref below => by simp [Nat.ne_of_lt below]⟩

theorem makeIfNil_extends (heap : Heap V) (state : Option MapRef) :
    heap.Extends (heap.makeIfNil state).2 := by
  cases state with
  | some ref => exact ⟨le_refl _, fun _ _ => rfl⟩
  | none => exact alloc_extends heap ∅

theorem makeIfNil_fst_lt (heap : Heap V) {state : Option MapRef}
    (allocated : ∀ ref, state = some ref → ref < heap.next) :
    (heap.makeIfNil state).1 < (heap.makeIfNil state).2.next := by
  cases state with
  | some ref => exact allocated ref rfl
  | none => simp

end Heap

/-! ## Merging a delta -/

section Merge

variable {V : Type}

/-- The loop `for k, v := range state { m[k] = v }`. -/
def mergeInto (m state : GoMap V) : GoMap V :=
  state.foldl (fun acc k v => acc.insert k v) m

private theorem lookup_foldl_insert (k : String) :
    ∀ (entries : List (Σ _ : String, V)) (m : GoMap V),
      entries.NodupKeys →
        (entries.foldl (fun acc a => acc.insert a.1 a.2) m).lookup k =
          (entries.dlookup k).or (m.lookup k)
  | [], _, _ => rfl
  | ⟨key, value⟩ :: rest, m, nodup => by
      have ⟨keyFresh, restNodup⟩ := List.nodupKeys_cons.mp nodup
      rw [List.foldl_cons, lookup_foldl_insert k rest _ restNodup]
      by_cases same : k = key
      · subst same
        simp [List.dlookup_eq_none.mpr keyFresh, AList.lookup_insert]
      · simp [List.dlookup_cons_ne rest ⟨key, value⟩ same, AList.lookup_insert_ne same]

/-- After the merge a key reads the delta's value if the delta has the key, and
the old value otherwise. -/
theorem lookup_mergeInto (m state : GoMap V) (k : String) :
    (mergeInto m state).lookup k = (state.lookup k).or (m.lookup k) :=
  lookup_foldl_insert k state.entries m state.nodupKeys

/-- A key the delta leaves out, or sets to the value it already has, keeps its
value. -/
theorem lookup_mergeInto_of_agree {m state : GoMap V} {k : String} {v : V}
    (before : m.lookup k = some v) (agree : ∀ v', state.lookup k = some v' → v' = v) :
    (mergeInto m state).lookup k = some v := by
  rw [lookup_mergeInto]
  cases mine : state.lookup k with
  | none => exact before
  | some v' => rw [agree v' mine]; rfl

end Merge

end ATenBound
