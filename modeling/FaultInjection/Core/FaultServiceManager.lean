import FaultInjection.Core.FaultController

/-
  The services that change the state of a fault or one of its
  parameters while the scenario runs.

  Key definitions include:
    * `FaultServiceManager.findInjectorForFault`
    * `FaultServiceManager.handleSetFaultState`
    * `FaultServiceManager.handleSetFaultConfig`

  Key theorems include:
    * `FaultServiceManager.findInjectorForFault_eq_some`
    * `FaultServiceManager.handleSetFaultConfig_cases`
-/

------------------------------------------------------------
-- Requests
------------------------------------------------------------

namespace FaultServiceManager

structure SetFaultStateRequest where
  faultId : String
  active : Bool
deriving DecidableEq

structure SetFaultConfigRequest where
  faultId : String
  key : String
  value : String
deriving DecidableEq

structure Response where
  success : Bool
  message : String
deriving DecidableEq

------------------------------------------------------------
-- Lookup
------------------------------------------------------------

/- The first injector, in iteration order, with the fault. -/
def findInjectorForFault
    (h : HashOrder String)
    (c : FaultController)
    (faultId : String) : Option String :=
  (h.order c.injectors.keys).find? fun key =>
    c.hasFault key faultId

/- The fault a request names, with its injector. -/
structure Target where
  key : String
  injector : FaultInjectorBase
  fault : FaultConfig

/- The checks that both requests start with. -/
def resolveFault
    (h : HashOrder String)
    (c : FaultController)
    (faultId : String) : Except String Target :=
  if faultId = "" then
    .error "fault_id cannot be empty"
  else
    let found := do
      let key ← findInjectorForFault h c faultId
      let injector ← c.injector? key
      return (key, injector)
    match found with
    | none => .error ("unknown fault_id: " ++ faultId)
    | some (key, injector) =>
        match injector.getFaultConfig faultId with
        | none =>
            .error
              ("unable to retrieve config for fault_id: " ++
                faultId)
        | some fault => .ok ⟨key, injector, fault⟩

------------------------------------------------------------
-- Handlers
------------------------------------------------------------

/- The event of a change that a request makes. -/
def manualEvent
    (target : Target)
    (faultId state details : String) : FaultEvent where
  faultId := faultId
  injectorId := target.injector.id
  state := state
  source := "manual"
  details := details

/- Switch the fault of a request and publish the event. -/
def switchFault
    (target : Target)
    (request : SetFaultStateRequest)
    (c : FaultController) : FaultController :=
  let switched :=
    c.modifyInjector target.key fun injector =>
      if request.active then
        injector.activateFault request.faultId
      else
        injector.deactivateFault request.faultId
  switched.publishEvent
    (manualEvent target request.faultId
      (if request.active then "active" else "inactive")
      (describeFault target.fault))

def handleSetFaultState
    (h : HashOrder String)
    (request : SetFaultStateRequest)
    (c : FaultController) : FaultController × Response :=
  match resolveFault h c request.faultId with
  | .error message => (c, ⟨false, message⟩)
  | .ok target =>
      ( switchFault target request c,
        ⟨true,
          (if request.active then "activated fault: "
            else "deactivated fault: ") ++
              request.faultId⟩ )

/- Store the value of a request and publish the event. -/
def storeValue
    (target : Target)
    (request : SetFaultConfigRequest)
    (updated : FaultInjectorBase)
    (c : FaultController) : FaultController :=
  let stored :=
    c.modifyInjector target.key fun _ => updated
  stored.publishEvent
    (manualEvent target request.faultId "config_updated"
      (describeConfigUpdate request.key request.value))

def handleSetFaultConfig
    (h : HashOrder String)
    (request : SetFaultConfigRequest)
    (c : FaultController) : FaultController × Response :=
  match resolveFault h c request.faultId with
  | .error message => (c, ⟨false, message⟩)
  | .ok target =>
  match
    findSchemaField target.injector.configSchema request.key
  with
  | none =>
      ( c,
        ⟨false, "key '" ++ request.key ++
          "' is not valid for injector type '" ++
            target.injector.type ++ "'"⟩ )
  | some field =>
  match validateConfigValue field request.value with
  | some error => (c, ⟨false, error⟩)
  | none =>
  match
    target.injector.setFaultConfigValue request.faultId
      request.key request.value
  with
  | none =>
      ( c,
        ⟨false, "failed to set config key '" ++ request.key ++
          "' for fault_id '" ++ request.faultId ++ "'"⟩ )
  | some updated =>
      ( storeValue target request updated c,
        ⟨true, "updated fault '" ++ request.faultId ++
          "' config '" ++ request.key ++ "' to '" ++
            request.value ++ "'"⟩ )

end FaultServiceManager

------------------------------------------------------------
-- What A Request Does
------------------------------------------------------------

namespace FaultServiceManager

variable {h : HashOrder String}
variable {c : FaultController}
variable {faultId : String}

theorem findInjectorForFault_eq_some
    {key : String}
    (hFind : findInjectorForFault h c faultId = some key) :
    c.hasFault key faultId = true := by
  have hFound := List.find?_some hFind
  exact hFound

/- A fault is found when some injector has it. -/
theorem findInjectorForFault_eq_none_iff :
    findInjectorForFault h c faultId = none ↔
      ∀ key, c.hasFault key faultId = false := by
  simp only [findInjectorForFault, List.find?_eq_none,
    Bool.not_eq_true]
  constructor
  · intro hNone key
    cases hInjector : c.injector? key with
    | none => simp [FaultController.hasFault, hInjector]
    | some injector =>
        exact hNone key
          ((UnorderedMap.mem_order_keys_iff _ _ _).mpr
            ⟨injector, hInjector⟩)
  · intro hNone key _
    exact hNone key

/- What a request's checks establish when they pass. -/
theorem resolveFault_eq_ok
    {target : Target}
    (hResolve : resolveFault h c faultId = .ok target) :
    findInjectorForFault h c faultId = some target.key ∧
      c.injector? target.key = some target.injector ∧
        target.injector.getFaultConfig faultId =
          some target.fault := by
  unfold resolveFault at hResolve
  by_cases hEmpty : faultId = ""
  · simp [hEmpty] at hResolve
  · simp only [hEmpty, if_false] at hResolve
    cases hKey : findInjectorForFault h c faultId with
    | none =>
        rw [hKey] at hResolve
        cases hResolve
    | some key =>
        cases hInjector : c.injector? key with
        | none =>
            simp [hKey, hInjector] at hResolve
        | some injector =>
            cases hConfig :
                injector.getFaultConfig faultId with
            | none =>
                simp [hKey, hInjector, hConfig] at hResolve
            | some fault =>
                simp only [hKey, hInjector, hConfig,
                  Option.bind_eq_bind, Option.bind_some,
                  Option.pure_def, Except.ok.injEq]
                  at hResolve
                subst hResolve
                exact ⟨rfl, hInjector, hConfig⟩

/-
  A config request either leaves the controller as it is or
  stores an accepted value of the fault it names.
-/
theorem handleSetFaultConfig_cases
    (request : SetFaultConfigRequest) :
    ((handleSetFaultConfig h request c).2.success = false ∧
        (handleSetFaultConfig h request c).1 = c) ∨
      ∃ target field updated,
        resolveFault h c request.faultId = .ok target ∧
          findSchemaField target.injector.configSchema
              request.key = some field ∧
            validateConfigValue field request.value = none ∧
              target.injector.setFaultConfigValue
                  request.faultId request.key request.value =
                some updated ∧
                (handleSetFaultConfig h request c).1 =
                  storeValue target request updated c := by
  unfold handleSetFaultConfig
  cases hResolve : resolveFault h c request.faultId with
  | error message => exact Or.inl ⟨rfl, rfl⟩
  | ok target =>
      cases hField :
          findSchemaField target.injector.configSchema
            request.key with
      | none => exact Or.inl (by simp [hField])
      | some field =>
          cases hValid :
              validateConfigValue field request.value with
          | some error =>
              exact Or.inl (by simp [hField, hValid])
          | none =>
              cases hStore :
                  target.injector.setFaultConfigValue
                    request.faultId request.key
                      request.value with
              | none =>
                  exact Or.inl
                    (by simp [hField, hValid, hStore])
              | some updated =>
                  exact Or.inr
                    ⟨target, field, updated, rfl, hField,
                      hValid, hStore,
                      by simp [hField, hValid, hStore]⟩

/- A request succeeds when all its checks pass. -/
theorem setFaultConfig_success_iff
    {request : SetFaultConfigRequest} :
    (handleSetFaultConfig h request c).2.success = true ↔
      ∃ target field,
        resolveFault h c request.faultId = .ok target ∧
          findSchemaField target.injector.configSchema
              request.key = some field ∧
            validateConfigValue field request.value =
              none := by
  unfold handleSetFaultConfig
  cases hResolve : resolveFault h c request.faultId with
  | error message => simp
  | ok target =>
      cases hField :
          findSchemaField target.injector.configSchema
            request.key with
      | none => simp [hField]
      | some field =>
          cases hValid :
              validateConfigValue field request.value with
          | some error => simp [hField, hValid]
          | none =>
              have hStored :=
                (resolveFault_eq_ok hResolve).2.2
              unfold FaultInjectorBase.getFaultConfig
                at hStored
              simp [hField, hValid,
                FaultInjectorBase.setFaultConfigValue,
                hStored]

/- A request for a fault resolves to where it is found. -/
theorem resolveFault_of_found
    {key : String}
    (hId : faultId ≠ "")
    (hFind : findInjectorForFault h c faultId = some key) :
    ∃ target,
      resolveFault h c faultId = .ok target ∧
        target.key = key := by
  have hHas := findInjectorForFault_eq_some hFind
  unfold FaultController.hasFault at hHas
  rw [Option.any_eq_true] at hHas
  rcases hHas with ⟨injector, hInjector, hFault⟩
  rcases (FaultInjectorBase.hasFault_iff injector
      faultId).mp hFault with
    ⟨fault, hConfig⟩
  refine ⟨⟨key, injector, fault⟩, ?_, rfl⟩
  unfold resolveFault
  simp [hId, hFind, hInjector, hConfig]

end FaultServiceManager
