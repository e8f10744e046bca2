import Mathlib.Algebra.Group.Int.Defs
import FaultInjection.Foundations.SharedOwnership

/-
  Callbacks that an executor knows weakly.

  A node lists every callback entity that was ever created:
  timers, subscriptions and services. The executor may run an
  entity's callback as long as the entity has not been
  destroyed. A timer owns what its callback captures; one
  kind of timer captures a shared cell that holds the timer
  itself.

  Key definitions include:
    * `CallbackNode`
    * `CallbackNode.ready`
    * `CallbackNode.createMember`
    * `CallbackNode.createWallTimer`
    * `CallbackNode.release`
    * `CallbackNode.OwnedBy`
    * `CallbackNode.ran`

  Key theorems include:
    * `CallbackNode.ready_eq_some_iff`
    * `CallbackNode.SelfHeld.release`
    * `CallbackNode.OwnedBy.not_live_release`
    * `CallbackNode.perm_ran_cancel`
-/

open SharedOwnership

------------------------------------------------------------
-- Entities
------------------------------------------------------------

/- What the heap holds: an entity, or a cell that refers to one. -/
inductive CallbackNode.Address where
| entity : Nat → Address
| holder : Nat → Address
deriving DecidableEq

/-
  A created entity. A wall timer has a period in milliseconds
  and counts it from its creation. The generation tells which
  of its creator's loads created it; no code reads it.
-/
structure CallbackEntity (κ : Type) where
  callback : κ
  period : Option Int := none
  createdAt : Int := 0
  cancelled : Bool := false
  generation : Nat := 0
deriving DecidableEq

/- The clocks count nanoseconds. -/
structure CallbackNode (ω κ : Type) where
  steadyNow : Int := 0
  rosNow : Int := 0
  entities : List (CallbackEntity κ) := []
  heap : Heap ω CallbackNode.Address := {}
deriving DecidableEq

namespace CallbackEntity

variable {κ : Type}

/- The steady time from which a timer is due. -/
def dueAt (e : CallbackEntity κ) : Option Int :=
  e.period.map fun period => e.createdAt + period * 10 ^ 6

/- The entity may run at the given steady time. -/
def due
    (e : CallbackEntity κ)
    (steadyNow : Int) : Bool :=
  e.dueAt.all fun time => time ≤ steadyNow

end CallbackEntity

namespace CallbackNode

variable {ω κ : Type}

/- The entity that the executor may run now. -/
def ready
    (node : CallbackNode ω κ)
    (n : Nat) : Option (CallbackEntity κ) :=
  node.entities[n]?.filter fun e =>
    ¬ e.cancelled ∧ e.due node.steadyNow ∧
      node.heap.Live (.entity n)

/- Let time pass; the other clock may be set to anything. -/
def advance
    (node : CallbackNode ω κ)
    (elapsed : Nat)
    (rosNow : Int) : CallbackNode ω κ :=
  { node with
    steadyNow := node.steadyNow + elapsed
    rosNow := rosNow }

/- A cancelled timer does not run again. -/
def cancel
    (node : CallbackNode ω κ)
    (n : Nat) : CallbackNode ω κ :=
  { node with
    entities := node.entities.modify n fun e =>
      { e with cancelled := true } }

/-
  Create a subscription, service or repeating timer. Only its
  owner refers to it, and it captures no shared pointer.
-/
def createMember
    (node : CallbackNode ω κ)
    (owner : ω)
    (generation : Nat)
    (callback : κ) : CallbackNode ω κ :=
  let n := node.entities.length
  { node with
    entities := node.entities ++
      [{ callback := callback
         createdAt := node.steadyNow
         generation := generation }]
    heap := (node.heap.alloc (.entity n) []).hold owner
      (.entity n) }

/- A period fits into 64-bit nanoseconds. -/
def periodFits (period : Int) : Bool :=
  period * 10 ^ 6 < 2 ^ 63

/-
  The node with a wall timer whose callback captures a cell
  that refers to the timer, and which an owner holds.
-/
def addWallTimer
    (node : CallbackNode ω κ)
    (owner : ω)
    (generation : Nat)
    (period : Int)
    (callback : κ) : CallbackNode ω κ :=
  let n := node.entities.length
  { node with
    entities := node.entities ++
      [{ callback := callback
         period := some period
         createdAt := node.steadyNow
         generation := generation }]
    heap :=
      ((node.heap.alloc (.holder n) [.entity n]).alloc
        (.entity n) [.holder n]).hold owner (.entity n) }

/-
  Create a wall timer. A period that does not fit throws
  before anything is created.
-/
def createWallTimer
    (node : CallbackNode ω κ)
    (owner : ω)
    (generation : Nat)
    (period : Int)
    (callback : κ) : Option (CallbackNode ω κ) :=
  if periodFits period then
    some
      (node.addWallTimer owner generation period callback)
  else
    none

/- An owner drops its references. -/
def release
    [DecidableEq ω]
    (node : CallbackNode ω κ)
    (owner : ω) : CallbackNode ω κ :=
  { node with heap := node.heap.release owner }

end CallbackNode

------------------------------------------------------------
-- Readiness
------------------------------------------------------------

namespace CallbackNode

variable {ω κ : Type}
variable {node : CallbackNode ω κ}

theorem ready_eq_some_iff
    {n : Nat}
    {e : CallbackEntity κ} :
    node.ready n = some e ↔
      node.entities[n]? = some e ∧ e.cancelled = false ∧
        e.due node.steadyNow = true ∧
          node.heap.Live (.entity n) := by
  simp [ready, Option.filter_eq_some_iff]

@[simp] theorem cancel_heap (n : Nat) :
    (node.cancel n).heap = node.heap := rfl

@[simp] theorem cancel_steadyNow (n : Nat) :
    (node.cancel n).steadyNow = node.steadyNow := rfl

@[simp] theorem cancel_rosNow (n : Nat) :
    (node.cancel n).rosNow = node.rosNow := rfl

theorem cancel_entities (n m : Nat) :
    (node.cancel n).entities[m]? =
      (node.entities[m]?).map fun e =>
        if n = m then { e with cancelled := true } else e := by
  simp only [cancel, List.getElem?_modify]
  cases node.entities[m]? with
  | none => rfl
  | some e =>
      by_cases hSame : n = m
      · simp [hSame]
      · simp [hSame]

/- An entity is as it was before, or now it is cancelled. -/
theorem mem_cancel_entities
    {n : Nat}
    {e : CallbackEntity κ}
    (hEntity : e ∈ (node.cancel n).entities) :
    ∃ old ∈ node.entities,
      e = old ∨ e = { old with cancelled := true } := by
  rcases List.mem_iff_getElem?.mp hEntity with ⟨m, hAt⟩
  rw [cancel_entities, Option.map_eq_some_iff] at hAt
  rcases hAt with ⟨old, hOld, hUpdated⟩
  refine ⟨old, List.mem_of_getElem? hOld, ?_⟩
  split at hUpdated
  · exact Or.inr hUpdated.symm
  · exact Or.inl hUpdated.symm

@[simp] theorem advance_entities
    (elapsed : Nat)
    (rosNow : Int) :
    (node.advance elapsed rosNow).entities =
      node.entities := rfl

@[simp] theorem advance_heap
    (elapsed : Nat)
    (rosNow : Int) :
    (node.advance elapsed rosNow).heap = node.heap := rfl

@[simp] theorem release_entities
    [DecidableEq ω]
    (owner : ω) :
    (node.release owner).entities = node.entities := rfl

@[simp] theorem release_steadyNow
    [DecidableEq ω]
    (owner : ω) :
    (node.release owner).steadyNow = node.steadyNow := rfl

@[simp] theorem addWallTimer_steadyNow
    (owner : ω)
    (generation : Nat)
    (period : Int)
    (callback : κ) :
    (node.addWallTimer owner generation period
      callback).steadyNow = node.steadyNow := rfl

@[simp] theorem addWallTimer_rosNow
    (owner : ω)
    (generation : Nat)
    (period : Int)
    (callback : κ) :
    (node.addWallTimer owner generation period
      callback).rosNow = node.rosNow := rfl

@[simp] theorem addWallTimer_entities
    (owner : ω)
    (generation : Nat)
    (period : Int)
    (callback : κ) :
    (node.addWallTimer owner generation period
        callback).entities =
      node.entities ++
        [{ callback := callback
           period := some period
           createdAt := node.steadyNow
           generation := generation }] := rfl

@[simp] theorem createMember_entities
    (owner : ω)
    (generation : Nat)
    (callback : κ) :
    (node.createMember owner generation
        callback).entities =
      node.entities ++
        [{ callback := callback
           createdAt := node.steadyNow
           generation := generation }] := rfl

end CallbackNode

------------------------------------------------------------
-- Lifetime
------------------------------------------------------------

namespace CallbackNode

variable {ω κ : Type}
variable [DecidableEq ω]
variable {node : CallbackNode ω κ}

/- The entity and its holder refer to each other. -/
def SelfHeld
    (node : CallbackNode ω κ)
    (n : Nat) : Prop :=
  (.entity n, [.holder n]) ∈ node.heap.cells ∧
    (.holder n, [.entity n]) ∈ node.heap.cells

/- An entity that refers to itself survives every release. -/
theorem SelfHeld.release
    {n : Nat}
    (hHeld : node.SelfHeld n)
    (owner : ω) :
    (node.release owner).SelfHeld n :=
  live_release_of_cycle hHeld.1 hHeld.2

omit [DecidableEq ω] in
theorem SelfHeld.live
    {n : Nat}
    (hHeld : node.SelfHeld n) :
    node.heap.Live (.entity n) :=
  ⟨_, hHeld.1, rfl⟩

omit [DecidableEq ω] in
theorem selfHeld_addWallTimer
    (owner : ω)
    (generation : Nat)
    (period : Int)
    (callback : κ) :
    (node.addWallTimer owner generation period
      callback).SelfHeld node.entities.length := by
  simp [SelfHeld, addWallTimer, Heap.alloc, Heap.hold]

end CallbackNode

------------------------------------------------------------
-- Single Owners
------------------------------------------------------------

/- The entity that an address belongs to. -/
def CallbackNode.Address.index : CallbackNode.Address → Nat
| entity n => n
| holder n => n

namespace CallbackNode

variable {ω κ : Type}
variable {node : CallbackNode ω κ}

/- References lead to created entities only. -/
structure Closed (node : CallbackNode ω κ) : Prop where
  roots :
    ∀ r ∈ node.heap.roots,
      r.2.index < node.entities.length
  cells :
    ∀ c ∈ node.heap.cells,
      c.1.index < node.entities.length ∧
        ∀ address ∈ c.2, address.index < node.entities.length

/- Only the owner refers to the entity. -/
structure OwnedBy
    (node : CallbackNode ω κ)
    (owner : ω)
    (n : Nat) : Prop where
  roots :
    ∀ r ∈ node.heap.roots, r.2 = .entity n → r.1 = owner
  cells :
    ∀ c ∈ node.heap.cells, Address.entity n ∉ c.2

theorem Closed.createMember
    (hClosed : node.Closed)
    (owner : ω)
    (generation : Nat)
    (callback : κ) :
    (node.createMember owner generation callback).Closed := by
  have hLength :
      (node.createMember owner generation
          callback).entities.length =
        node.entities.length + 1 := by
    simp
  constructor
  · intro r hRoot
    rw [hLength]
    rcases List.mem_append.mp hRoot with hOld | hNew
    · have hBound := hClosed.roots r hOld
      omega
    · rw [List.mem_singleton.mp hNew]
      exact Nat.lt_succ_self _
  · intro c hCell
    rw [hLength]
    rcases List.mem_append.mp hCell with hOld | hNew
    · have hBound := hClosed.cells c hOld
      refine ⟨by omega, fun address hRef => ?_⟩
      have hRefBound := hBound.2 address hRef
      omega
    · rw [List.mem_singleton.mp hNew]
      refine ⟨Nat.lt_succ_self _, fun address hRef => ?_⟩
      cases hRef

theorem Closed.addWallTimer
    (hClosed : node.Closed)
    (owner : ω)
    (generation : Nat)
    (period : Int)
    (callback : κ) :
    (node.addWallTimer owner generation period
      callback).Closed := by
  have hLength :
      (node.addWallTimer owner generation period
          callback).entities.length =
        node.entities.length + 1 := by
    simp
  constructor
  · intro r hRoot
    rw [hLength]
    rcases List.mem_append.mp hRoot with hOld | hNew
    · have hBound := hClosed.roots r hOld
      omega
    · rw [List.mem_singleton.mp hNew]
      exact Nat.lt_succ_self _
  · intro c hCell
    rw [hLength]
    rcases List.mem_append.mp hCell with hHolder | hNew
    · rcases List.mem_append.mp hHolder with hOld | hNew
      · have hBound := hClosed.cells c hOld
        refine ⟨by omega, fun address hRef => ?_⟩
        have hRefBound := hBound.2 address hRef
        omega
      · rw [List.mem_singleton.mp hNew]
        refine ⟨Nat.lt_succ_self _, fun address hRef => ?_⟩
        rw [List.mem_singleton.mp hRef]
        exact Nat.lt_succ_self _
    · rw [List.mem_singleton.mp hNew]
      refine ⟨Nat.lt_succ_self _, fun address hRef => ?_⟩
      rw [List.mem_singleton.mp hRef]
      exact Nat.lt_succ_self _

/- What exists already keeps its single owner. -/
theorem OwnedBy.createMember
    {owner : ω}
    {n : Nat}
    (hOwned : node.OwnedBy owner n)
    (hOld : n < node.entities.length)
    (creator : ω)
    (generation : Nat)
    (callback : κ) :
    (node.createMember creator generation
      callback).OwnedBy owner n := by
  constructor
  · intro r hRoot hTarget
    rcases List.mem_append.mp hRoot with hBefore | hNew
    · exact hOwned.roots r hBefore hTarget
    · rw [List.mem_singleton.mp hNew,
        Address.entity.injEq] at hTarget
      omega
  · intro c hCell hRef
    rcases List.mem_append.mp hCell with hBefore | hNew
    · exact hOwned.cells c hBefore hRef
    · rw [List.mem_singleton.mp hNew] at hRef
      cases hRef

/- The new entity is referred to by its owner only. -/
theorem Closed.ownedBy_createMember
    (hClosed : node.Closed)
    (owner : ω)
    (generation : Nat)
    (callback : κ) :
    (node.createMember owner generation
      callback).OwnedBy owner node.entities.length := by
  constructor
  · intro r hRoot hTarget
    rcases List.mem_append.mp hRoot with hBefore | hNew
    · have hBound := hClosed.roots r hBefore
      rw [hTarget] at hBound
      exact absurd hBound (Nat.lt_irrefl _)
    · rw [List.mem_singleton.mp hNew]
  · intro c hCell hRef
    rcases List.mem_append.mp hCell with hBefore | hNew
    · have hBound := (hClosed.cells c hBefore).2 _ hRef
      exact absurd hBound (Nat.lt_irrefl _)
    · rw [List.mem_singleton.mp hNew] at hRef
      cases hRef

theorem OwnedBy.addWallTimer
    {owner : ω}
    {n : Nat}
    (hOwned : node.OwnedBy owner n)
    (hOld : n < node.entities.length)
    (creator : ω)
    (generation : Nat)
    (period : Int)
    (callback : κ) :
    (node.addWallTimer creator generation period
      callback).OwnedBy owner n := by
  constructor
  · intro r hRoot hTarget
    rcases List.mem_append.mp hRoot with hBefore | hNew
    · exact hOwned.roots r hBefore hTarget
    · rw [List.mem_singleton.mp hNew,
        Address.entity.injEq] at hTarget
      omega
  · intro c hCell hRef
    rcases List.mem_append.mp hCell with hHolder | hNew
    · rcases List.mem_append.mp hHolder with hBefore | hNew
      · exact hOwned.cells c hBefore hRef
      · rw [List.mem_singleton.mp hNew, List.mem_singleton,
          Address.entity.injEq] at hRef
        omega
    · rw [List.mem_singleton.mp hNew,
        List.mem_singleton] at hRef
      cases hRef

/- A destroyed entity is not created again. -/
theorem not_live_createMember
    {n : Nat}
    (hDead : ¬ node.heap.Live (.entity n))
    (hOld : n < node.entities.length)
    (owner : ω)
    (generation : Nat)
    (callback : κ) :
    ¬ (node.createMember owner generation
      callback).heap.Live (.entity n) := by
  rintro ⟨c, hCell, hAddress⟩
  rcases List.mem_append.mp hCell with hBefore | hNew
  · exact hDead ⟨c, hBefore, hAddress⟩
  · rw [List.mem_singleton.mp hNew,
      Address.entity.injEq] at hAddress
    omega

theorem not_live_addWallTimer
    {n : Nat}
    (hDead : ¬ node.heap.Live (.entity n))
    (hOld : n < node.entities.length)
    (owner : ω)
    (generation : Nat)
    (period : Int)
    (callback : κ) :
    ¬ (node.addWallTimer owner generation period
      callback).heap.Live (.entity n) := by
  rintro ⟨c, hCell, hAddress⟩
  rcases List.mem_append.mp hCell with hHolder | hNew
  · rcases List.mem_append.mp hHolder with hBefore | hNew
    · exact hDead ⟨c, hBefore, hAddress⟩
    · rw [List.mem_singleton.mp hNew] at hAddress
      cases hAddress
  · rw [List.mem_singleton.mp hNew,
      Address.entity.injEq] at hAddress
    omega

section Release

variable [DecidableEq ω]

theorem Closed.release
    (hClosed : node.Closed)
    (owner : ω) :
    (node.release owner).Closed := by
  constructor
  · intro r hRoot
    have hBefore := ((mem_release_roots _ _ _).mp hRoot).1
    exact hClosed.roots r hBefore
  · intro c hCell
    exact hClosed.cells c (mem_cells_of_mem_release hCell)

theorem OwnedBy.release
    {owner : ω}
    {n : Nat}
    (hOwned : node.OwnedBy owner n)
    (releaser : ω) :
    (node.release releaser).OwnedBy owner n := by
  constructor
  · intro r hRoot hTarget
    have hBefore := ((mem_release_roots _ _ _).mp hRoot).1
    exact hOwned.roots r hBefore hTarget
  · intro c hCell
    exact hOwned.cells c (mem_cells_of_mem_release hCell)

theorem not_live_release
    {n : Nat}
    (hDead : ¬ node.heap.Live (.entity n))
    (owner : ω) :
    ¬ (node.release owner).heap.Live (.entity n) := by
  rintro ⟨c, hCell, hAddress⟩
  exact hDead ⟨c, mem_cells_of_mem_release hCell, hAddress⟩

/- Its owner takes an entity along. -/
theorem OwnedBy.not_live_release
    {owner : ω}
    {n : Nat}
    (hOwned : node.OwnedBy owner n) :
    ¬ (node.release owner).heap.Live (.entity n) :=
  SharedOwnership.not_live_release hOwned.roots hOwned.cells

end Release

------------------------------------------------------------
-- Timers That Have Run
------------------------------------------------------------

/- The entities that were cancelled, as a one-shot timer is. -/
def ran (node : CallbackNode ω κ) : List (CallbackEntity κ) :=
  node.entities.filter fun e => e.cancelled

/- Cancelling an entity that is pending adds it. -/
theorem perm_ran_cancel
    {n : Nat}
    {e : CallbackEntity κ}
    (hEntity : node.entities[n]? = some e)
    (hPending : e.cancelled = false) :
    (node.cancel n).ran.Perm
      ({ e with cancelled := true } :: node.ran) := by
  rcases List.getElem?_eq_some_iff.mp hEntity with
    ⟨hBound, hAt⟩
  have hSplit :
      node.entities =
        node.entities.take n ++
          e :: node.entities.drop (n + 1) := by
    rw [← hAt, List.getElem_cons_drop, List.take_append_drop]
  have hAfter :
      (node.cancel n).entities =
        node.entities.take n ++
          { e with cancelled := true } ::
            node.entities.drop (n + 1) := by
    unfold cancel
    rw [List.modify_eq_take_cons_drop hBound, hAt]
  have hBefore :
      node.ran =
        (node.entities.take n).filter (fun e => e.cancelled) ++
          (node.entities.drop (n + 1)).filter
            fun e => e.cancelled := by
    unfold ran
    conv => lhs; rw [hSplit]
    rw [List.filter_append,
      List.filter_cons_of_neg (by simp [hPending])]
  rw [hBefore]
  unfold ran
  rw [hAfter, List.filter_append,
    List.filter_cons_of_pos (by simp)]
  exact List.perm_middle

@[simp] theorem ran_addWallTimer
    (owner : ω)
    (generation : Nat)
    (period : Int)
    (callback : κ) :
    (node.addWallTimer owner generation period callback).ran =
      node.ran := by
  simp [ran]

@[simp] theorem ran_createMember
    (owner : ω)
    (generation : Nat)
    (callback : κ) :
    (node.createMember owner generation callback).ran =
      node.ran := by
  simp [ran]

end CallbackNode
