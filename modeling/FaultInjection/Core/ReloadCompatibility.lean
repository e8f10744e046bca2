import Mathlib.Data.List.Perm.Subperm
import FaultInjection.Core.FaultController

/-
  A reload is compatible exactly if the injectors are the
  running ones in some order.

  The comparison goes through the running injectors and looks
  each one up in the new list by its id. With distinct ids
  and equally many injectors nothing new is left over.

  Key definitions include:
    * `FaultController.Unaltered`

  Key theorems include:
    * `FaultController.incompatibility_eq_none_iff`
    * `FaultController.compatible_iff_unaltered`
    * `FaultController.compatible_iff_perm`
-/

namespace FaultController

------------------------------------------------------------
-- One Injector
------------------------------------------------------------

/- A check that finds no problem hands over to the next one. -/
theorem check_eq_none_iff
    {p : Prop}
    [Decidable p]
    {problem : String}
    {next : Option String} :
    (if p then some problem else next) = none ↔
      ¬ p ∧ next = none := by
  by_cases hCheck : p
  · simp [hCheck]
  · simp [hCheck]

/- Both endpoints are missing, or both are there and equal. -/
theorem endpoint_unchanged_iff
    {α : Type}
    (current updated : Option α) :
    current.isSome = updated.isSome ∧
        ¬ (current.isSome = true ∧ updated ≠ current) ↔
      updated = current := by
  cases current with
  | none =>
      cases updated with
      | none => simp
      | some endpoint => simp
  | some endpoint =>
      cases updated with
      | none => simp
      | some other => simp

/-
  The comparison finds no problem exactly if everything but
  the id is the same.
-/
theorem incompatibility_eq_none_iff
    (current updated : InjectorConfig) :
    incompatibility current updated = none ↔
      updated.seed = current.seed ∧
        updated.type = current.type ∧
        updated.topic = current.topic ∧
        updated.triggerService = current.triggerService := by
  unfold incompatibility
  simp only [check_eq_none_iff, and_true, not_not, ne_eq]
  constructor
  · rintro ⟨hSeed, hType, hKind, hTopic, hOther, hService⟩
    exact
      ⟨hSeed, hType,
        (endpoint_unchanged_iff _ _).mp ⟨hKind, hTopic⟩,
        (endpoint_unchanged_iff _ _).mp ⟨hOther, hService⟩⟩
  · rintro ⟨hSeed, hType, hTopic, hService⟩
    rcases (endpoint_unchanged_iff _ _).mpr hTopic with
      ⟨hKind, hEndpoint⟩
    rcases (endpoint_unchanged_iff _ _).mpr hService with
      ⟨hOther, hTarget⟩
    exact
      ⟨hSeed, hType, hKind, hEndpoint, hOther, hTarget⟩

/- Injectors with one id are compared field by field. -/
theorem eq_iff_of_same_id
    {current updated : InjectorConfig}
    (hId : updated.id = current.id) :
    updated = current ↔
      updated.seed = current.seed ∧
        updated.type = current.type ∧
        updated.topic = current.topic ∧
        updated.triggerService = current.triggerService := by
  cases current
  cases updated
  simp only [InjectorConfig.mk.injEq]
  tauto

/- The injector is found by its id and is the same. -/
def Unaltered
    (newScenario : ScenarioConfig)
    (current : InjectorConfig) : Prop :=
  newScenario.findInjector current.id = some current

------------------------------------------------------------
-- All Injectors
------------------------------------------------------------

/- The comparison goes through the running injectors. -/
theorem firstIncompatibility_eq_none_iff
    (newScenario : ScenarioConfig)
    (injectors : List InjectorConfig) :
    firstIncompatibility newScenario injectors = none ↔
      ∀ current ∈ injectors,
        Unaltered newScenario current := by
  induction injectors with
  | nil => simp [firstIncompatibility]
  | cons current rest ih =>
      rw [List.forall_mem_cons, ← ih]
      unfold Unaltered
      rw [firstIncompatibility]
      cases hFind : newScenario.findInjector current.id with
      | none => simp
      | some updated =>
          have hSame :
              incompatibility current updated = none ↔
                updated = current := by
            rw [incompatibility_eq_none_iff,
              eq_iff_of_same_id
                (ScenarioConfig.mem_of_findInjector hFind).2]
          cases hProblem : incompatibility current updated with
          | none =>
              have hEqual := hSame.mp hProblem
              subst hEqual
              simp [hProblem]
          | some problem =>
              have hDiffers : updated ≠ current := by
                intro hEqual
                rw [hSame.mpr hEqual] at hProblem
                cases hProblem
              simp [hProblem, hDiffers]

theorem compatible_iff_unaltered
    (c : FaultController)
    (newScenario : ScenarioConfig) :
    (c.validateReloadCompatible newScenario).success = true ↔
      newScenario.injectors.length =
          c.scenario.injectors.length ∧
        ∀ current ∈ c.scenario.injectors,
          Unaltered newScenario current := by
  unfold validateReloadCompatible
  rw [← firstIncompatibility_eq_none_iff]
  by_cases hLength :
      newScenario.injectors.length =
        c.scenario.injectors.length
  · simp only [hLength, ne_eq, not_true_eq_false, if_false,
      true_and]
    split
    · rename_i hProblem
      simp [hProblem]
    · rename_i hNone
      simp [hNone]
  · simp [hLength]

/-
  Between accepted scenarios a reload is compatible exactly
  if the new injectors are the running ones in some order.
-/
theorem compatible_iff_perm
    (h : HashOrder String)
    (c : FaultController)
    (newScenario : ScenarioConfig)
    (hRunning : (validateScenario h c.scenario).ok = true)
    (hNew : (validateScenario h newScenario).ok = true) :
    (c.validateReloadCompatible newScenario).success = true ↔
      newScenario.injectors.Perm c.scenario.injectors := by
  rw [compatible_iff_unaltered]
  constructor
  · rintro ⟨hLength, hUnaltered⟩
    have hDistinct : c.scenario.injectors.Nodup :=
      List.Nodup.of_map _ (nodup_injector_ids_of_ok hRunning)
    have hSubset :
        c.scenario.injectors ⊆ newScenario.injectors := by
      intro current hCurrent
      exact
        (ScenarioConfig.mem_of_findInjector
          (hUnaltered current hCurrent)).1
    exact
      ((List.subperm_of_subset hDistinct
        hSubset).perm_of_length_le (le_of_eq hLength)).symm
  · intro hPerm
    refine ⟨hPerm.length_eq, ?_⟩
    intro current hCurrent
    exact
      findInjector_of_mem hNew
        (hPerm.symm.subset hCurrent)

------------------------------------------------------------
-- A Reordered Scenario
------------------------------------------------------------

namespace Reordering

def scan : InjectorConfig :=
  { id := "front"
    type := "scan"
    topic := some { inputTopic := "in", outputTopic := "out" }
    seed := some 7 }

def reset : InjectorConfig :=
  { id := "reset"
    type := "trigger_service"
    triggerService :=
      some
        { proxyService := "proxy", targetService := "real" } }

def running : ScenarioConfig :=
  { injectors := [scan, reset] }

def reordered : ScenarioConfig :=
  { injectors := [reset, scan] }

theorem reordered_is_compatible_iff_perm :
    (({ scenario := running } :
            FaultController).validateReloadCompatible
          reordered).success = true ↔
      reordered.injectors.Perm running.injectors :=
  compatible_iff_perm .insertion { scenario := running }
    reordered (by decide +kernel) (by decide +kernel)

/- The same injectors in another order are compatible. -/
example :
    (({ scenario := running } :
            FaultController).validateReloadCompatible
          reordered).success = true := by
  decide +kernel

end Reordering

end FaultController
