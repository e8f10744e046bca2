import Mathlib.Data.String.Basic
import FaultInjection.Core.EventLog

/-
  The services that control faults while the scenario runs,
  seen as one map from faults to parameters and flags.

  A request for a parameter, for a flag or for the stored
  parameters is served at a time, in any order.

  Key definitions include:
    * `FaultServiceManager.handleGetFaultConfig`
    * `FaultServiceManager.ControlRequest`
    * `FaultServiceManager.serveAll`
    * `FaultServiceManager.acceptedUpdates`
    * `FaultServiceManager.overlay`

  Key theorems include:
    * `FaultServiceManager.faultConfig_serveAll`
    * `FaultServiceManager.getFaultConfig_reads`
    * `FaultServiceManager.control_services_map`
-/

------------------------------------------------------------
-- Reading The Parameters
------------------------------------------------------------

namespace FaultServiceManager

structure GetFaultConfigResponse extends Response where
  injectorId : String := ""
  injectorType : String := ""
  keys : List String := []
  values : List String := []
deriving DecidableEq

/- `config.at`, which throws for an absent key. -/
def configAt
    (fault : FaultConfig)
    (key : String) : Except NumberText.Errc String :=
  match fault.config.find? key with
  | none => .error .outOfRange
  | some value => .ok value

/- The keys of the parameters, sorted. -/
def sortedKeys
    (h : HashOrder String)
    (fault : FaultConfig) : List String :=
  (h.order fault.config.keys).insertionSort (· ≤ ·)

/- Answer with the parameters stored for a fault. -/
def handleGetFaultConfig
    (h : HashOrder String)
    (faultId : String)
    (c : FaultController) :
    Except NumberText.Errc GetFaultConfigResponse :=
  let found := do
    let key ← findInjectorForFault h c faultId
    c.injector? key
  match found with
  | none =>
      .ok
        { success := false
          message := "unknown fault_id: " ++ faultId }
  | some injector =>
  match injector.getFaultConfig faultId with
  | none =>
      .ok
        { success := false
          message :=
            "unable to retrieve config for fault_id: " ++
              faultId }
  | some fault => do
      let keys := sortedKeys h fault
      let values ← keys.mapM (configAt fault)
      .ok
        { success := true
          message :=
            "retrieved config for fault_id: " ++ faultId
          injectorId := injector.id
          injectorType := injector.type
          keys := keys
          values := values }

end FaultServiceManager

------------------------------------------------------------
-- Sequences Of Requests
------------------------------------------------------------

namespace FaultServiceManager

inductive ControlRequest where
| setFaultConfig : SetFaultConfigRequest → ControlRequest
| setFaultState : SetFaultStateRequest → ControlRequest
| getFaultConfig : String → ControlRequest
deriving DecidableEq

/- The controller after a request. Reading changes nothing. -/
def serve
    (h : HashOrder String)
    (c : FaultController) :
    ControlRequest → FaultController
| .setFaultConfig request =>
    (handleSetFaultConfig h request c).1
| .setFaultState request =>
    (handleSetFaultState h request c).1
| .getFaultConfig _ => c

def serveAll
    (h : HashOrder String)
    (c : FaultController)
    (requests : List ControlRequest) : FaultController :=
  requests.foldl (serve h) c

/- The parameter of the fault that a request stores, if any. -/
def acceptedUpdate
    (h : HashOrder String)
    (faultId : String)
    (c : FaultController) :
    ControlRequest → Option (String × String)
| .setFaultConfig request =>
    if request.faultId = faultId ∧
        (handleSetFaultConfig h request c).2.success = true then
      some (request.key, request.value)
    else
      none
| .setFaultState _ => none
| .getFaultConfig _ => none

/- The updates of the fault that are answered with success. -/
def acceptedUpdates
    (h : HashOrder String)
    (faultId : String) :
    FaultController →
      List ControlRequest →
        List (String × String)
| _, [] => []
| c, request :: requests =>
    (acceptedUpdate h faultId c request).toList ++
      acceptedUpdates h faultId (serve h c request) requests

/- Parameters overlaid with updates in their order. -/
def overlay
    (config : UnorderedMap String String)
    (updates : List (String × String)) :
    UnorderedMap String String :=
  updates.foldl (fun m e => m.insert e.1 e.2) config

end FaultServiceManager

------------------------------------------------------------
-- What One Request Does
------------------------------------------------------------

namespace FaultServiceManager

open FaultController

variable {h : HashOrder String}
variable {c : FaultController}

/-
  An accepted update changes one parameter of one fault, no
  flag, and is recorded as one event.
-/
structure ConfigUpdated
    (request : SetFaultConfigRequest)
    (c after : FaultController) : Prop where
  config :
    ∃ key fault,
      c.faultConfig key request.faultId = some fault ∧
        ∀ otherKey otherId,
          after.faultConfig otherKey otherId =
            if otherKey = key ∧ otherId = request.faultId then
              some
                { fault with
                  config :=
                    fault.config.insert request.key
                      request.value }
            else
              c.faultConfig otherKey otherId
  flags :
    ∀ key faultId,
      after.isActive key faultId = c.isActive key faultId
  event :
    ∃ record,
      record.faultId = request.faultId ∧
        record.state = "config_updated" ∧
          after.recorder.events =
            c.recorder.events ++ [record]

/-
  An accepted switch changes one flag of one fault, no
  parameter, and is recorded as one event.
-/
structure FlagSwitched
    (request : SetFaultStateRequest)
    (c after : FaultController) : Prop where
  flag :
    ∃ key,
      c.hasFault key request.faultId = true ∧
        ∀ otherKey otherId,
          after.isActive otherKey otherId =
            if otherKey = key ∧ otherId = request.faultId then
              request.active
            else
              c.isActive otherKey otherId
  configs :
    ∀ key faultId,
      after.faultConfig key faultId =
        c.faultConfig key faultId
  event :
    ∃ record,
      record.faultId = request.faultId ∧
        record.state =
            (if request.active then "active" else "inactive") ∧
          after.recorder.events =
            c.recorder.events ++ [record]

/- A request either fails and changes nothing, or stores. -/
theorem setFaultConfig_outcome
    (h : HashOrder String)
    (c : FaultController)
    (request : SetFaultConfigRequest) :
    ((handleSetFaultConfig h request c).2.success = false ∧
      (handleSetFaultConfig h request c).1 = c) ∨
    ((handleSetFaultConfig h request c).2.success = true ∧
      ∃ target updated,
        resolveFault h c request.faultId = .ok target ∧
          target.injector.setFaultConfigValue request.faultId
              request.key request.value =
            some updated ∧
          (handleSetFaultConfig h request c).1 =
            storeValue target request updated c) := by
  unfold handleSetFaultConfig
  cases hResolve : resolveFault h c request.faultId with
  | error message => exact Or.inl ⟨rfl, rfl⟩
  | ok target =>
      simp only
      cases findSchemaField target.injector.configSchema
          request.key with
      | none => exact Or.inl ⟨rfl, rfl⟩
      | some field =>
          simp only
          cases validateConfigValue field request.value with
          | some error => exact Or.inl ⟨rfl, rfl⟩
          | none =>
              simp only
              cases hStore :
                  target.injector.setFaultConfigValue
                    request.faultId request.key
                    request.value with
              | none => exact Or.inl ⟨rfl, rfl⟩
              | some updated =>
                  exact Or.inr
                    ⟨rfl, target, updated, rfl, hStore, rfl⟩

/- A request either fails and changes nothing, or switches. -/
theorem setFaultState_outcome
    (h : HashOrder String)
    (c : FaultController)
    (request : SetFaultStateRequest) :
    ((handleSetFaultState h request c).2.success = false ∧
      (handleSetFaultState h request c).1 = c) ∨
    ((handleSetFaultState h request c).2.success = true ∧
      ∃ target,
        resolveFault h c request.faultId = .ok target ∧
          (handleSetFaultState h request c).1 =
            switchFault target request c) := by
  unfold handleSetFaultState
  cases hResolve : resolveFault h c request.faultId with
  | error message => exact Or.inl ⟨rfl, rfl⟩
  | ok target => exact Or.inr ⟨rfl, target, rfl, rfl⟩

/- What storing a value leaves stored for each fault. -/
theorem faultConfig_storeValue
    {request : SetFaultConfigRequest}
    {target : Target}
    {updated : FaultInjectorBase}
    (hResolve :
      resolveFault h c request.faultId = .ok target)
    (hSet :
      target.injector.setFaultConfigValue request.faultId
          request.key request.value =
        some updated)
    (key faultId : String) :
    (storeValue target request updated c).faultConfig key
        faultId =
      if key = target.key ∧ faultId = request.faultId then
        some
          { target.fault with
            config :=
              target.fault.config.insert request.key
                request.value }
      else
        c.faultConfig key faultId := by
  rcases resolveFault_eq_ok hResolve with
    ⟨_, hInjector, hStored⟩
  rcases FaultInjectorBase.setFaultConfigValue_eq_some hSet
    with ⟨_, _, fault, hFault, hFaults⟩
  have hSame : fault = target.fault := by
    unfold FaultInjectorBase.getFaultConfig at hStored
    rw [hFault, Option.some.injEq] at hStored
    exact hStored
  change
    (c.modifyInjector target.key fun _ => updated).faultConfig
        key faultId =
      _
  unfold FaultController.faultConfig
  rw [injector?_modifyInjector]
  by_cases hKey : target.key = key
  · subst hKey
    rw [if_pos rfl, hInjector]
    unfold FaultInjectorBase.getFaultConfig
    simp only [Option.map_some, Option.bind_some, hFaults,
      UnorderedMap.find?_insert, hSame, true_and]
    by_cases hId : request.faultId = faultId
    · simp [hId]
    · simp [hId, Ne.symm hId]
  · simp [hKey, Ne.symm hKey]

/- Storing a value changes no flag. -/
theorem isActive_storeValue
    {request : SetFaultConfigRequest}
    {target : Target}
    {updated : FaultInjectorBase}
    (hResolve :
      resolveFault h c request.faultId = .ok target)
    (hSet :
      target.injector.setFaultConfigValue request.faultId
          request.key request.value =
        some updated)
    (key faultId : String) :
    (storeValue target request updated c).isActive key faultId =
      c.isActive key faultId := by
  rcases resolveFault_eq_ok hResolve with ⟨_, hInjector, _⟩
  change
    (c.modifyInjector target.key fun _ => updated).isActive
        key faultId =
      _
  refine isActive_modifyInjector c _ _ ?_ key faultId
  intro injector hHere otherId
  rw [hInjector, Option.some.injEq] at hHere
  rw [← hHere]
  exact
    FaultInjectorBase.isActive_of_setFaultConfigValue hSet
      otherId

theorem configUpdated_of_success
    {request : SetFaultConfigRequest}
    (hSuccess :
      (handleSetFaultConfig h request c).2.success = true) :
    ConfigUpdated request c
      (handleSetFaultConfig h request c).1 := by
  rcases setFaultConfig_outcome h c request with
    ⟨hFailed, _⟩ | ⟨_, target, updated, hResolve, hSet, hState⟩
  · rw [hSuccess] at hFailed
    cases hFailed
  · rcases resolveFault_eq_ok hResolve with
      ⟨_, hInjector, hStored⟩
    rw [hState]
    refine ⟨⟨target.key, target.fault, ?_, ?_⟩, ?_,
      ⟨_, rfl, rfl, rfl⟩⟩
    · unfold FaultController.faultConfig
      rw [hInjector]
      exact hStored
    · exact faultConfig_storeValue hResolve hSet
    · exact isActive_storeValue hResolve hSet

theorem flagSwitched_of_success
    {request : SetFaultStateRequest}
    (hSuccess :
      (handleSetFaultState h request c).2.success = true) :
    FlagSwitched request c
      (handleSetFaultState h request c).1 := by
  rcases setFaultState_outcome h c request with
    ⟨hFailed, _⟩ | ⟨_, target, hResolve, hState⟩
  · rw [hSuccess] at hFailed
    cases hFailed
  · have hHas :=
      findInjectorForFault_eq_some
        (resolveFault_eq_ok hResolve).1
    have hSwitches := switchFault_switches c target request
    rw [hState]
    refine ⟨⟨target.key, hHas, ?_⟩,
      hSwitches.sameFaults.faultConfig, ⟨_, rfl, rfl, rfl⟩⟩
    intro otherKey otherId
    rw [hSwitches.isActive]
    simp [hHas, eq_comm]

end FaultServiceManager

------------------------------------------------------------
-- What A Sequence Of Requests Does
------------------------------------------------------------

namespace FaultServiceManager

open FaultController

variable {h : HashOrder String}
variable {c : FaultController}

/- A request changes neither the injectors nor their faults. -/
theorem found_serve
    (request : ControlRequest)
    (faultId : String) :
    findInjectorForFault h (serve h c request) faultId =
      findInjectorForFault h c faultId := by
  have hKept :
      (serve h c request).injectors.keys = c.injectors.keys ∧
        ∀ key,
          (serve h c request).hasFault key faultId =
            c.hasFault key faultId := by
    cases request with
    | getFaultConfig id => exact ⟨rfl, fun key => rfl⟩
    | setFaultState request =>
        rcases setFaultState_outcome h c request with
          ⟨_, hState⟩ | ⟨_, target, _, hState⟩
        · rw [serve, hState]
          exact ⟨rfl, fun key => rfl⟩
        · have hSame :=
            (switchFault_switches c target request).sameFaults
          rw [serve, hState]
          exact ⟨hSame.1, fun key => hSame.hasFault key faultId⟩
    | setFaultConfig request =>
        rcases setFaultConfig_outcome h c request with
          ⟨_, hState⟩ | ⟨_, target, updated, hResolve, hSet,
            hState⟩
        · rw [serve, hState]
          exact ⟨rfl, fun key => rfl⟩
        · rw [serve, hState]
          refine
            ⟨modifyInjector_keys c target.key _, fun key => ?_⟩
          refine hasFault_modifyInjector c _ _ ?_ key faultId
          intro injector hHere otherId
          rw [(resolveFault_eq_ok hResolve).2.1,
            Option.some.injEq] at hHere
          rw [← hHere]
          exact
            FaultInjectorBase.hasFault_of_setFaultConfigValue
              hSet otherId
  rw [findInjectorForFault, findInjectorForFault, hKept.1,
    funext hKept.2]

/-
  A request overlays the stored parameters with the update
  that it makes, if it is accepted.
-/
theorem faultConfig_serve
    {key faultId : String}
    {fault : FaultConfig}
    (hFound : findInjectorForFault h c faultId = some key)
    (hStored : c.faultConfig key faultId = some fault)
    (request : ControlRequest) :
    (serve h c request).faultConfig key faultId =
      some
        { fault with
          config :=
            overlay fault.config
              (acceptedUpdate h faultId c request).toList } := by
  cases request with
  | getFaultConfig id => exact hStored
  | setFaultState request =>
      rcases setFaultState_outcome h c request with
        ⟨_, hState⟩ | ⟨_, target, _, hState⟩
      · rw [serve, hState]
        exact hStored
      · have hSame :=
          (switchFault_switches c target request).sameFaults
        rw [serve, hState, hSame.faultConfig]
        exact hStored
  | setFaultConfig request =>
      rcases setFaultConfig_outcome h c request with
        ⟨hFailed, hState⟩ |
          ⟨hSuccess, target, updated, hResolve, hSet, hState⟩
      · rw [serve, hState, acceptedUpdate, hFailed, hStored]
        simp [overlay]
      · rw [serve, hState,
          faultConfig_storeValue hResolve hSet,
          acceptedUpdate, hSuccess]
        rcases resolveFault_eq_ok hResolve with
          ⟨hKey, hInjector, hConfig⟩
        by_cases hId : request.faultId = faultId
        · subst hId
          have hSameKey : target.key = key :=
            Option.some.inj (hKey.symm.trans hFound)
          have hSameFault : target.fault = fault := by
            unfold FaultController.faultConfig at hStored
            rw [← hSameKey, hInjector, Option.bind_some,
              hConfig, Option.some.injEq] at hStored
            exact hStored
          simp [hSameKey, hSameFault, overlay]
        · simp [hId, Ne.symm hId, hStored, overlay]

/- All requests together overlay the accepted updates. -/
theorem faultConfig_serveAll
    {key faultId : String}
    {fault : FaultConfig}
    (requests : List ControlRequest)
    (hFound : findInjectorForFault h c faultId = some key)
    (hStored : c.faultConfig key faultId = some fault) :
    findInjectorForFault h (serveAll h c requests) faultId =
        some key ∧
      (serveAll h c requests).faultConfig key faultId =
        some
          { fault with
            config :=
              overlay fault.config
                (acceptedUpdates h faultId c requests) } := by
  induction requests generalizing c fault with
  | nil => exact ⟨hFound, hStored⟩
  | cons request requests ih =>
      have hNext :=
        ih ((found_serve request faultId).trans hFound)
          (faultConfig_serve hFound hStored request)
      refine ⟨hNext.1, hNext.2.trans ?_⟩
      rw [acceptedUpdates, overlay, overlay, overlay,
        List.foldl_append]

/- A fault that is not found before is not found after. -/
theorem found_serveAll
    (requests : List ControlRequest)
    (faultId : String) :
    findInjectorForFault h (serveAll h c requests) faultId =
      findInjectorForFault h c faultId := by
  induction requests generalizing c with
  | nil => rfl
  | cons request requests ih =>
      exact ih.trans (found_serve request faultId)

end FaultServiceManager

------------------------------------------------------------
-- What Is Read
------------------------------------------------------------

namespace FaultServiceManager

open FaultController

variable {h : HashOrder String}
variable {c : FaultController}

theorem mem_sortedKeys_iff
    (fault : FaultConfig)
    (key : String) :
    key ∈ sortedKeys h fault ↔
      ∃ value, fault.config.find? key = some value := by
  rw [sortedKeys, List.mem_insertionSort]
  exact UnorderedMap.mem_order_keys_iff _ _ _

/- The keys of a map are distinct, so sorting is strict. -/
theorem sortedKeys_ascending (fault : FaultConfig) :
    (sortedKeys h fault).Pairwise (· < ·) := by
  have hSorted :
      (sortedKeys h fault).Pairwise (· ≤ ·) :=
    List.pairwise_insertionSort _ _
  have hDistinct : (sortedKeys h fault).Nodup := by
    rw [sortedKeys, (List.perm_insertionSort _ _).nodup_iff,
      (h.perm _).nodup_iff]
    exact fault.config.distinct
  have hBoth := hSorted.and hDistinct
  exact hBoth.imp fun hKeys => lt_of_le_of_ne hKeys.1 hKeys.2

/- Keys that all have a value are looked up one by one. -/
theorem mapM_configAt
    (fault : FaultConfig)
    {keys : List String}
    (hKeys :
      ∀ key ∈ keys,
        ∃ value, fault.config.find? key = some value) :
    ∃ values,
      keys.mapM (configAt fault) = .ok values ∧
        values.length = keys.length ∧
          ∀ key,
            (keys.zip values).lookup key =
              if key ∈ keys then
                fault.config.find? key
              else
                none := by
  induction keys with
  | nil => exact ⟨[], rfl, rfl, fun key => rfl⟩
  | cons first rest ih =>
      rcases hKeys first List.mem_cons_self with
        ⟨value, hValue⟩
      rcases ih fun key hKey =>
          hKeys key (List.mem_cons_of_mem first hKey) with
        ⟨values, hRest, hLength, hLookup⟩
      refine ⟨value :: values, ?_, by simp [hLength], ?_⟩
      · rw [List.mapM_cons, hRest, configAt, hValue]
        rfl
      · intro key
        rw [List.zip_cons_cons, List.lookup_cons, hLookup]
        by_cases hSame : key = first
        · simp [hSame, hValue]
        · simp [hSame, beq_eq_false_iff_ne.mpr hSame]

/- The answer to a request for the parameters of a fault. -/
theorem getFaultConfig_reads
    (h : HashOrder String)
    (c : FaultController)
    (faultId : String) :
    ∃ response,
      handleGetFaultConfig h faultId c = .ok response ∧
        (response.success = true →
          response.keys.Pairwise (· < ·) ∧
            response.values.length = response.keys.length ∧
              ∃ key fault,
                findInjectorForFault h c faultId = some key ∧
                  c.faultConfig key faultId = some fault ∧
                    ∀ k,
                      (response.keys.zip
                          response.values).lookup k =
                        fault.config.find? k) := by
  unfold handleGetFaultConfig
  cases hFound : findInjectorForFault h c faultId with
  | none => exact ⟨_, rfl, fun hFalse => by cases hFalse⟩
  | some key =>
      cases hInjector : c.injector? key with
      | none =>
          simp only [hInjector, Option.bind_eq_bind,
            Option.bind_some]
          exact ⟨_, rfl, fun hFalse => by cases hFalse⟩
      | some injector =>
          simp only [hInjector, Option.bind_eq_bind,
            Option.bind_some]
          cases hConfig : injector.getFaultConfig faultId with
          | none => exact ⟨_, rfl, fun hFalse => by cases hFalse⟩
          | some fault =>
              have hKeys :
                  ∀ key ∈ sortedKeys h fault,
                    ∃ value,
                      fault.config.find? key = some value :=
                fun key => (mem_sortedKeys_iff fault key).mp
              rcases mapM_configAt fault hKeys with
                ⟨values, hValues, hLength, hLookup⟩
              simp only [hValues]
              refine ⟨_, rfl, fun _ =>
                ⟨sortedKeys_ascending fault, hLength, key,
                  fault, rfl, ?_, ?_⟩⟩
              · rw [FaultController.faultConfig, hInjector]
                exact hConfig
              · intro k
                refine (hLookup k).trans ?_
                by_cases hKey : k ∈ sortedKeys h fault
                · rw [if_pos hKey]
                · rw [if_neg hKey]
                  rw [mem_sortedKeys_iff, not_exists] at hKey
                  exact (Option.eq_none_iff_forall_ne_some.mpr
                    hKey).symm

/-
  After any sequence of requests: a request that fails
  changes nothing, one that succeeds changes what it names
  and is recorded once, and reading a fault gives its first
  parameters overlaid with the accepted updates.
-/
theorem control_services_map
    (h : HashOrder String)
    (c : FaultController)
    (requests : List ControlRequest) :
    (∀ request,
      ((handleSetFaultConfig h request
            (serveAll h c requests)).2.success = false →
        (handleSetFaultConfig h request
            (serveAll h c requests)).1 =
          serveAll h c requests) ∧
      ((handleSetFaultConfig h request
            (serveAll h c requests)).2.success = true →
        ConfigUpdated request (serveAll h c requests)
          (handleSetFaultConfig h request
            (serveAll h c requests)).1)) ∧
    (∀ request,
      ((handleSetFaultState h request
            (serveAll h c requests)).2.success = false →
        (handleSetFaultState h request
            (serveAll h c requests)).1 =
          serveAll h c requests) ∧
      ((handleSetFaultState h request
            (serveAll h c requests)).2.success = true →
        FlagSwitched request (serveAll h c requests)
          (handleSetFaultState h request
            (serveAll h c requests)).1)) ∧
    ∀ faultId,
      ∃ response,
        handleGetFaultConfig h faultId
            (serveAll h c requests) =
          .ok response ∧
        (response.success = true →
          response.keys.Pairwise (· < ·) ∧
            response.values.length = response.keys.length ∧
              ∃ key initial,
                findInjectorForFault h c faultId = some key ∧
                  c.faultConfig key faultId = some initial ∧
                    ∀ k,
                      (response.keys.zip
                          response.values).lookup k =
                        (overlay initial.config
                          (acceptedUpdates h faultId c
                            requests)).find? k) := by
  refine ⟨?_, ?_, ?_⟩
  · intro request
    refine ⟨?_, configUpdated_of_success⟩
    intro hFailed
    rcases setFaultConfig_outcome h (serveAll h c requests)
        request with ⟨_, hState⟩ | ⟨hSuccess, _⟩
    · exact hState
    · rw [hFailed] at hSuccess
      cases hSuccess
  · intro request
    refine ⟨?_, flagSwitched_of_success⟩
    intro hFailed
    rcases setFaultState_outcome h (serveAll h c requests)
        request with ⟨_, hState⟩ | ⟨hSuccess, _⟩
    · exact hState
    · rw [hFailed] at hSuccess
      cases hSuccess
  · intro faultId
    rcases getFaultConfig_reads h (serveAll h c requests)
        faultId with ⟨response, hResponse, hReads⟩
    refine ⟨response, hResponse, fun hSuccess => ?_⟩
    rcases hReads hSuccess with
      ⟨hAscending, hLength, key, fault, hFound, hStored,
        hLookup⟩
    rw [found_serveAll] at hFound
    rcases hasFault_iff_faultConfig.mp
        (findInjectorForFault_eq_some hFound) with
      ⟨initial, hInitial⟩
    have hOverlaid :=
      (faultConfig_serveAll requests hFound hInitial).2
    rw [hStored, Option.some.injEq] at hOverlaid
    refine ⟨hAscending, hLength, key, initial, hFound, hInitial,
      fun k => ?_⟩
    rw [hLookup, hOverlaid]

end FaultServiceManager
