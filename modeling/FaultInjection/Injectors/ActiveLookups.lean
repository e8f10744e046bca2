import FaultInjection.Injectors.HashOrderIndependence
import FaultInjection.Injectors.TfFaultInjector
import FaultInjection.Injectors.TwistFaultInjector

/-
  The two maps of an injector stay in step, so that looking
  up an active fault never throws.

  Faults and flags are stored apart from each other. Whatever
  calls an injector receives, both maps have the same keys
  and each fault is stored under its own id. A loop over the
  active faults is then a loop over stored faults.

  Key definitions include:
    * `FaultInjectorBase.afterCalls`
    * `FaultInjectorBase.InStep`
    * `FaultInjectorBase.activeFaults`
    * `FaultInjectorBase.NeverMisses`

  Key theorems include:
    * `FaultInjectorBase.InStep.apply`
    * `FaultInjectorBase.inStep_afterCalls`
    * `FaultInjectorBase.active_lookups_never_miss`
-/

open TwistFaultInjector (FaultChange)
open NumberText

namespace FaultInjectorBase

------------------------------------------------------------
-- Calls
------------------------------------------------------------

/- A new injector after the calls, in order. -/
def afterCalls
    (config : InjectorConfig)
    (calls : List FaultChange) : FaultInjectorBase :=
  calls.foldl FaultChange.apply { config := config }

/-
  The maps have the same keys, and the id of each stored fault
  is its key.
-/
structure InStep (injector : FaultInjectorBase) : Prop where
  keys :
    ∀ faultId,
      faultId ∈ injector.faults.keys ↔
        faultId ∈ injector.active.keys
  ids :
    ∀ faultId fault,
      injector.faults.find? faultId = some fault →
        fault.id = faultId

theorem inStep_new (config : InjectorConfig) :
    InStep { config := config } where
  keys _ := Iff.rfl
  ids _ _ hFind := by cases hFind

theorem inStep_clearFaults (injector : FaultInjectorBase) :
    injector.clearFaults.InStep where
  keys _ := Iff.rfl
  ids _ _ hFind := by cases hFind

section Calls

variable {injector : FaultInjectorBase}

/- Both maps get the key of the new fault. -/
theorem InStep.addFault
    (hInStep : injector.InStep)
    (fault : FaultConfig) :
    (injector.addFault fault).InStep where
  keys faultId := by
    change
      faultId ∈ (injector.faults.insert _ _).keys ↔
        faultId ∈ (injector.active.insert _ _).keys
    rw [UnorderedMap.mem_keys_insert,
      UnorderedMap.mem_keys_insert, hInStep.keys]
  ids faultId stored hFind := by
    change
      (injector.faults.insert _ _).find? faultId =
        some stored at hFind
    rw [UnorderedMap.find?_insert] at hFind
    split at hFind
    · rename_i hSame
      cases hFind
      exact hSame
    · exact hInStep.ids faultId stored hFind

/- A flag is stored only where a fault is. -/
theorem InStep.setActive
    (hInStep : injector.InStep)
    (otherId : String)
    (value : Bool) :
    (injector.setActive otherId value).InStep where
  keys faultId := by
    unfold FaultInjectorBase.setActive
    cases hFind : injector.faults.find? otherId with
    | none => exact hInStep.keys faultId
    | some fault =>
        have hKey : otherId ∈ injector.active.keys := by
          rw [← hInStep.keys, UnorderedMap.mem_keys_iff]
          exact ⟨fault, hFind⟩
        change _ ↔ faultId ∈ (injector.active.insert _ _).keys
        rw [UnorderedMap.mem_keys_insert, ← hInStep.keys]
        constructor
        · exact Or.inr
        · rintro (hSame | hStored)
          · rw [← hSame, hInStep.keys]
            exact hKey
          · exact hStored
  ids := by
    rw [setActive_faults]
    exact hInStep.ids

/- A changed fault keeps its id and its place. -/
theorem InStep.setFaultConfigValue
    (hInStep : injector.InStep)
    {faultId key text : String}
    {updated : FaultInjectorBase}
    (hSet :
      injector.setFaultConfigValue faultId key text =
        some updated) :
    updated.InStep := by
  rcases setFaultConfigValue_eq_some hSet with
    ⟨_, hActive, fault, hFind, hFaults⟩
  constructor
  · intro otherId
    rw [hFaults, hActive, UnorderedMap.mem_keys_insert,
      ← hInStep.keys]
    refine or_iff_right_of_imp ?_
    intro hSame
    rw [← hSame, UnorderedMap.mem_keys_iff]
    exact ⟨fault, hFind⟩
  · intro otherId stored hStored
    rw [hFaults, UnorderedMap.find?_insert] at hStored
    split at hStored
    · rename_i hSame
      cases hStored
      rw [← hSame]
      exact hInStep.ids faultId fault hFind
    · exact hInStep.ids otherId stored hStored

theorem InStep.apply
    (hInStep : injector.InStep)
    (call : FaultChange) :
    (call.apply injector).InStep := by
  cases call with
  | activate faultId => exact hInStep.setActive faultId true
  | deactivate faultId => exact hInStep.setActive faultId false
  | setConfigValue faultId key value =>
      change
        ((injector.setFaultConfigValue faultId key
          value).getD injector).InStep
      cases hSet :
          injector.setFaultConfigValue faultId key value with
      | none => exact hInStep
      | some updated => exact hInStep.setFaultConfigValue hSet
  | add fault => exact hInStep.addFault fault
  | clear => exact inStep_clearFaults injector

end Calls

theorem inStep_afterCalls
    (config : InjectorConfig)
    (calls : List FaultChange) :
    (afterCalls config calls).InStep := by
  unfold afterCalls
  have hNew := inStep_new config
  generalize ({ config := config } : FaultInjectorBase) =
    injector at hNew ⊢
  induction calls generalizing injector with
  | nil => exact hNew
  | cons call calls ih => exact ih _ (hNew.apply call)

------------------------------------------------------------
-- Lookups
------------------------------------------------------------

/- The stored faults that are active, in iteration order. -/
def activeFaults
    (h : HashOrder String)
    (injector : FaultInjectorBase) : List FaultConfig :=
  (injector.activeFaultIds h).filterMap
    injector.getFaultConfig

end FaultInjectorBase

namespace tfFaultInjector

open GeometryMsgs (TransformStamped)

/-
  What a fault does to the decision whether a transform is
  dropped, before the faults that are visited after it.
-/
def decideDrop
    {G N : Type}
    (rand : RandomLibrary G N)
    (transform : TransformStamped)
    (fault : FaultConfig)
    (later : Drawing G Bool) : Drawing G Bool :=
  if ¬ matchesFrame fault transform then
    later
  else
    let probability :=
      getDouble fault "drop_probability" .zero
    if probability.le .zero then
      later
    else if Number.one.le probability then
      return true
    else do
      let draw ← rand.uniform .zero .one
      if draw.lt probability then
        return true
      else
        later

end tfFaultInjector

namespace FaultInjectorBase

open GeometryMsgs (TransformStamped)

/-
  Every active fault is found under its id. Each loop over the
  active faults is a loop over stored faults: the one that the
  helpers for numbers share, the search for a text, and those
  of the injectors for scans and for transforms.
-/
structure NeverMisses
    (h : HashOrder String)
    (injector : FaultInjectorBase) : Prop where
  found :
    ∀ faultId ∈ injector.activeFaultIds h,
      ∃ fault,
        injector.faultAt faultId = .ok fault ∧
          fault.id = faultId
  numbers :
    ∀ (β : Type) (start : β)
      (combine : β → FaultConfig → Except Errc β),
      injector.foldActive h combine start =
        (injector.activeFaults h).foldlM combine start
  texts :
    ∀ key,
      injector.firstActiveText key
          (injector.activeFaultIds h) =
        .ok
          ((injector.activeFaults h).findSome? fun fault =>
            fault.config.find? key)
  sectors :
    ∀ (G : Type) (msg : LaserScan) (g : G),
      (scanFaultInjector.applySectorDropout h injector
          msg).run g =
        if msg.angleIncrement = .zero then
          some (msg, g)
        else
          (scanFaultInjector.replaceSectors
              ((injector.activeFaults h).filterMap
                scanFaultInjector.sectorOf)
              msg).map fun out => (out, g)
  moves :
    ∀ (G : Type) transform
      (change :
        FaultConfig → TransformStamped → TransformStamped),
      (tfFaultInjector.applyMatching h injector change
          transform : Drawing G TransformStamped) =
        return (injector.activeFaults h).foldl
          (fun transform fault =>
            if tfFaultInjector.matchesFrame fault transform
            then change fault transform
            else transform)
          transform
  drops :
    ∀ (G N : Type) (rand : RandomLibrary G N) transform,
      tfFaultInjector.shouldDropTransform rand h injector
          transform =
        (injector.activeFaults h).foldr
          (tfFaultInjector.decideDrop rand transform)
          (return false)

section Lookups

variable {h : HashOrder String}
variable {injector : FaultInjectorBase}

theorem InStep.activeRegistered
    (hInStep : injector.InStep) :
    injector.ActiveRegistered := by
  intro faultId hActive
  unfold isActive at hActive
  rw [decide_eq_true_iff] at hActive
  have hKey : faultId ∈ injector.active.keys :=
    (UnorderedMap.mem_keys_iff _ _).mpr ⟨true, hActive⟩
  rw [← hInStep.keys, UnorderedMap.mem_keys_iff] at hKey
  exact (hasFault_iff injector faultId).mpr hKey

theorem foldActive_eq_foldlM
    (hRegistered : injector.ActiveRegistered)
    (β : Type)
    (start : β)
    (combine : β → FaultConfig → Except Errc β) :
    injector.foldActive h combine start =
      (injector.activeFaults h).foldlM combine start :=
  foldlM_lookup (hRegistered.find_visited h) combine start

/- The first text is found among the stored faults. -/
theorem firstActiveText_eq_findSome?
    (hRegistered : injector.ActiveRegistered)
    (key : String) :
    injector.firstActiveText key (injector.activeFaultIds h) =
      .ok
        ((injector.activeFaults h).findSome? fun fault =>
          fault.config.find? key) := by
  rcases firstActiveText_eq key
      (hRegistered.find_visited h) with ⟨found, hSearch⟩
  rw [hSearch, firstActiveText_eq_head? hSearch]
  unfold activeFaults
  rw [← List.head?_filterMap, List.filterMap_filterMap]

theorem applySectorDropout_eq
    (hRegistered : injector.ActiveRegistered)
    (G : Type)
    (msg : LaserScan)
    (g : G) :
    (scanFaultInjector.applySectorDropout h injector
        msg).run g =
      if msg.angleIncrement = .zero then
        some (msg, g)
      else
        (scanFaultInjector.replaceSectors
            ((injector.activeFaults h).filterMap
              scanFaultInjector.sectorOf)
            msg).map fun out => (out, g) := by
  rw [scanFaultInjector.applySectorDropout_run hRegistered]
  unfold scanFaultInjector.activeSectors activeFaults
  rw [List.filterMap_filterMap]

/- A loop that cannot throw is a plain one. -/
theorem applyMatching_eq
    (hRegistered : injector.ActiveRegistered)
    (G : Type)
    (transform : TransformStamped)
    (change :
      FaultConfig → TransformStamped → TransformStamped) :
    (tfFaultInjector.applyMatching h injector change
        transform : Drawing G TransformStamped) =
      return (injector.activeFaults h).foldl
        (fun transform fault =>
          if tfFaultInjector.matchesFrame fault transform
          then change fault transform
          else transform)
        transform := by
  unfold tfFaultInjector.applyMatching
  rw [foldlM_lookup (hRegistered.draw_visited h G),
    ← List.foldlM_pure]
  unfold activeFaults
  congr 1
  funext transform fault
  split
  · rfl
  · rfl

/- The decision goes from one stored fault to the next. -/
theorem shouldDropTransform_eq
    (hRegistered : injector.ActiveRegistered)
    (G N : Type)
    (rand : RandomLibrary G N)
    (transform : TransformStamped) :
    tfFaultInjector.shouldDropTransform rand h injector
        transform =
      (injector.activeFaults h).foldr
        (tfFaultInjector.decideDrop rand transform)
        (return false) := by
  unfold tfFaultInjector.shouldDropTransform activeFaults
  have hFound := hRegistered.find_visited h
  generalize injector.activeFaultIds h = ids at hFound ⊢
  induction ids with
  | nil => rfl
  | cons faultId rest ih =>
      rcases hFound faultId List.mem_cons_self with
        ⟨fault, hFault, hAt⟩
      have hRest :=
        ih (List.forall_mem_of_forall_mem_cons hFound)
      unfold tfFaultInjector.anyDrops
      rw [List.filterMap_cons, hFault, List.foldr_cons,
        ← hRest, hAt]
      rfl

theorem InStep.neverMisses
    (hInStep : injector.InStep)
    (h : HashOrder String) :
    injector.NeverMisses h where
  found faultId hMember := by
    rcases hInStep.activeRegistered.find_visited h faultId
        hMember with ⟨fault, hFault, hAt⟩
    exact ⟨fault, hAt, hInStep.ids faultId fault hFault⟩
  numbers := foldActive_eq_foldlM hInStep.activeRegistered
  texts := firstActiveText_eq_findSome? hInStep.activeRegistered
  sectors := applySectorDropout_eq hInStep.activeRegistered
  moves := applyMatching_eq hInStep.activeRegistered
  drops := shouldDropTransform_eq hInStep.activeRegistered

end Lookups

/-
  After any calls the maps are in step, the active faults are
  among the registered ones, and no lookup of an active fault
  throws, in whatever order they are visited.
-/
theorem active_lookups_never_miss
    (config : InjectorConfig)
    (calls : List FaultChange)
    (h k : HashOrder String) :
    (afterCalls config calls).InStep ∧
      (afterCalls config calls).activeFaultIds h ⊆
        (afterCalls config calls).faultIds k ∧
        (afterCalls config calls).NeverMisses h := by
  have hInStep := inStep_afterCalls config calls
  refine ⟨hInStep, ?_, hInStep.neverMisses h⟩
  intro faultId hActive
  unfold faultIds
  rw [UnorderedMap.mem_order_keys_iff]
  exact
    (hasFault_iff _ _).mp
      (hInStep.activeRegistered faultId
        (mem_activeFaultIds_iff.mp hActive))

end FaultInjectorBase
