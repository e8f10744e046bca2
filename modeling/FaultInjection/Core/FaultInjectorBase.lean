import FaultInjection.Config.ScenarioConfig
import FaultInjection.Injectors.Schemas

/-
  The fault store that all injectors share: the registered
  faults, which of them are active, and the values that the
  active faults configure together.

  Key definitions include:
    * `FaultInjectorBase`
    * `FaultInjectorBase.addFault`
    * `FaultInjectorBase.setFaultConfigValue`
    * `FaultInjectorBase.activeMaxDouble`
    * `FaultInjectorBase.activeBool`
    * `FaultInjectorBase.activeTexts`

  Key theorems include:
    * `FaultInjectorBase.isActive_setActive`
    * `FaultInjectorBase.setFaultConfigValue_eq_some`
    * `FaultInjectorBase.activeBool_eq_of_head?`
-/

open NumberText

------------------------------------------------------------
-- Fault Store
------------------------------------------------------------

structure FaultInjectorBase where
  config : InjectorConfig
  faults : UnorderedMap String FaultConfig := .empty
  active : UnorderedMap String Bool := .empty
deriving DecidableEq

namespace FaultInjectorBase

def id (injector : FaultInjectorBase) : String :=
  injector.config.id

def type (injector : FaultInjectorBase) : String :=
  injector.config.type

/- Register or replace a fault, which is inactive at first. -/
def addFault
    (injector : FaultInjectorBase)
    (fault : FaultConfig) : FaultInjectorBase :=
  { injector with
    faults := injector.faults.insert fault.id fault
    active := injector.active.insert fault.id false }

/- Store the flag of a known fault; an unknown one is skipped. -/
def setActive
    (injector : FaultInjectorBase)
    (faultId : String)
    (value : Bool) : FaultInjectorBase :=
  match injector.faults.find? faultId with
  | none => injector
  | some _ =>
      { injector with
        active := injector.active.insert faultId value }

def activateFault
    (injector : FaultInjectorBase)
    (faultId : String) : FaultInjectorBase :=
  injector.setActive faultId true

def deactivateFault
    (injector : FaultInjectorBase)
    (faultId : String) : FaultInjectorBase :=
  injector.setActive faultId false

def hasFault
    (injector : FaultInjectorBase)
    (faultId : String) : Bool :=
  injector.faults.contains faultId

def getFaultConfig
    (injector : FaultInjectorBase)
    (faultId : String) : Option FaultConfig :=
  injector.faults.find? faultId

/- Store one value of a known fault, none if it is unknown. -/
def setFaultConfigValue
    (injector : FaultInjectorBase)
    (faultId key value : String) :
    Option FaultInjectorBase :=
  match injector.faults.find? faultId with
  | none => none
  | some fault =>
      let updated :=
        { fault with config := fault.config.insert key value }
      some
        { injector with
          faults := injector.faults.insert faultId updated }

def clearFaults
    (injector : FaultInjectorBase) : FaultInjectorBase :=
  { injector with
    faults := .empty
    active := .empty }

def faultIds
    (h : HashOrder String)
    (injector : FaultInjectorBase) : List String :=
  h.order injector.faults.keys

/- The ids whose flag is set, in iteration order. -/
def activeFaultIds
    (h : HashOrder String)
    (injector : FaultInjectorBase) : List String :=
  (injector.active.enumerate h).filterMap fun entry =>
    if entry.2 then some entry.1 else none

/-
  Built-in injectors declare their own schema. Otherwise each
  accepted key is a field without type and bounds.
-/
def configSchema
    (injector : FaultInjectorBase) : List FaultConfigField :=
  if isKnownInjectorType injector.type then
    schemaForBuiltinInjectorType injector.type
  else
    (allowedConfigKeysForInjectorType injector.type).map
      fun key => { key := key }

/- The fault is registered and its flag is set. -/
def isActive
    (injector : FaultInjectorBase)
    (faultId : String) : Bool :=
  injector.active.find? faultId = some true

end FaultInjectorBase

------------------------------------------------------------
-- Values Of Active Faults
------------------------------------------------------------

/- The value of a key as a double, or the fallback. -/
def getDouble
    (fault : FaultConfig)
    (key : String)
    (fallback : Number) : Except Errc Number :=
  match fault.config.find? key with
  | none => .ok fallback
  | some text => stod text

/- The value of a key as an int, or the fallback. -/
def getInt
    (fault : FaultConfig)
    (key : String)
    (fallback : Int) : Except Errc Int :=
  match fault.config.find? key with
  | none => .ok fallback
  | some text => stoi text

namespace FaultInjectorBase

/- `faults_.at`, which throws for an unknown id. -/
def faultAt
    (injector : FaultInjectorBase)
    (faultId : String) : Except Errc FaultConfig :=
  match injector.faults.find? faultId with
  | none => .error .outOfRange
  | some fault => .ok fault

/-
  Combine a value of each active fault, in iteration order.
  The first exception ends the loop.
-/
def foldActive
    {β : Type}
    (h : HashOrder String)
    (injector : FaultInjectorBase)
    (combine : β → FaultConfig → Except Errc β)
    (start : β) : Except Errc β :=
  (injector.activeFaultIds h).foldlM
    (fun value faultId => do
      combine value (← injector.faultAt faultId))
    start

def activeMaxDouble
    (h : HashOrder String)
    (injector : FaultInjectorBase)
    (key : String)
    (fallback : Number) : Except Errc Number :=
  injector.foldActive h
    (fun value fault => do
      return value.max (← getDouble fault key fallback))
    fallback

def activeSumDouble
    (h : HashOrder String)
    (injector : FaultInjectorBase)
    (key : String)
    (fallback : Number) : Except Errc Number :=
  injector.foldActive h
    (fun value fault => do
      return value.add (← getDouble fault key fallback))
    .zero

def activeMaxInt
    (h : HashOrder String)
    (injector : FaultInjectorBase)
    (key : String)
    (fallback : Int) : Except Errc Int :=
  injector.foldActive h
    (fun value fault => do
      return Max.max value (← getInt fault key fallback))
    fallback

/- The texts that the active faults have for a key. -/
def activeTexts
    (h : HashOrder String)
    (injector : FaultInjectorBase)
    (key : String) : List String :=
  (injector.activeFaultIds h).filterMap fun faultId =>
    (injector.getFaultConfig faultId).bind fun fault =>
      fault.config.find? key

/- The text of the first active fault that has the key. -/
def firstActiveText
    (injector : FaultInjectorBase)
    (key : String) :
    List String → Except Errc (Option String)
| [] => .ok none
| faultId :: rest =>
    match injector.faultAt faultId with
    | .error e => .error e
    | .ok fault =>
        match fault.config.find? key with
        | some text => .ok (some text)
        | none => firstActiveText injector key rest

def activeBool
    (h : HashOrder String)
    (injector : FaultInjectorBase)
    (key : String)
    (fallback : Bool) : Except Errc Bool := do
  match ← injector.firstActiveText key
      (injector.activeFaultIds h) with
  | some text => return text = "true"
  | none => return fallback

def activeString
    (h : HashOrder String)
    (injector : FaultInjectorBase)
    (key fallback : String) : Except Errc String := do
  match ← injector.firstActiveText key
      (injector.activeFaultIds h) with
  | some text => return text
  | none => return fallback

/- The message is dropped if the draw is below the chance. -/
def shouldDrop
    (h : HashOrder String)
    (injector : FaultInjectorBase)
    (draw : ℚ) : Except Errc Bool := do
  let probability ←
    injector.activeMaxDouble h "drop_probability" .zero
  if probability.le .zero then
    return false
  else
    return Number.lt (.finite draw)
      (probability.clamp .zero .one)

/- The delay of the active faults in milliseconds. -/
def activeDelay
    (h : HashOrder String)
    (injector : FaultInjectorBase) : Except Errc Int :=
  injector.activeMaxInt h "delay_ms" 0

end FaultInjectorBase

------------------------------------------------------------
-- Frame Conditions
------------------------------------------------------------

namespace FaultInjectorBase

variable (injector : FaultInjectorBase)
variable (faultId : String)
variable (value : Bool)

@[simp] theorem setActive_config :
    (injector.setActive faultId value).config =
      injector.config := by
  unfold setActive
  split
  · rfl
  · rfl

@[simp] theorem setActive_faults :
    (injector.setActive faultId value).faults =
      injector.faults := by
  unfold setActive
  split
  · rfl
  · rfl

@[simp] theorem addFault_config (fault : FaultConfig) :
    (injector.addFault fault).config = injector.config := rfl

@[simp] theorem clearFaults_config :
    injector.clearFaults.config = injector.config := rfl

@[simp] theorem getFaultConfig_addFault
    (fault : FaultConfig) :
    (injector.addFault fault).getFaultConfig faultId =
      if fault.id = faultId then
        some fault
      else
        injector.getFaultConfig faultId :=
  UnorderedMap.find?_insert _ _ _ _

@[simp] theorem getFaultConfig_setActive
    (otherId : String) :
    (injector.setActive otherId value).getFaultConfig
        faultId =
      injector.getFaultConfig faultId := by
  simp [getFaultConfig]

@[simp] theorem getFaultConfig_clearFaults :
    injector.clearFaults.getFaultConfig faultId = none := rfl

@[simp] theorem isActive_clearFaults :
    injector.clearFaults.isActive faultId = false := by
  simp [clearFaults, isActive]

theorem isActive_addFault (fault : FaultConfig) :
    (injector.addFault fault).isActive faultId =
      (decide (fault.id ≠ faultId) &&
        injector.isActive faultId) := by
  by_cases hSame : fault.id = faultId
  · simp [isActive, addFault, hSame]
  · simp [isActive, addFault, UnorderedMap.find?_insert,
      hSame]

/- Only the flag of the named fault can change. -/
theorem isActive_setActive (otherId : String) :
    (injector.setActive otherId value).isActive faultId =
      if otherId = faultId ∧ injector.hasFault otherId then
        value
      else
        injector.isActive faultId := by
  unfold setActive hasFault UnorderedMap.contains
  cases hFind : injector.faults.find? otherId with
  | none => simp
  | some fault =>
      by_cases hSame : otherId = faultId
      · simp [isActive, hSame]
      · simp [isActive, UnorderedMap.find?_insert, hSame]

@[simp] theorem hasFault_setActive (otherId : String) :
    (injector.setActive otherId value).hasFault faultId =
      injector.hasFault faultId := by
  simp [hasFault]

@[simp] theorem hasFault_clearFaults :
    injector.clearFaults.hasFault faultId = false := rfl

theorem hasFault_addFault (fault : FaultConfig) :
    (injector.addFault fault).hasFault faultId =
      (decide (fault.id = faultId) ||
        injector.hasFault faultId) := by
  by_cases hSame : fault.id = faultId
  · simp [hasFault, addFault, UnorderedMap.contains, hSame]
  · simp [hasFault, addFault, UnorderedMap.contains,
      UnorderedMap.find?_insert, hSame]

theorem hasFault_iff :
    injector.hasFault faultId = true ↔
      ∃ fault,
        injector.getFaultConfig faultId = some fault :=
  UnorderedMap.contains_iff _ _

variable {injector faultId}

/- What storing one value changes. -/
theorem setFaultConfigValue_eq_some
    {key text : String}
    {updated : FaultInjectorBase}
    (hSet :
      injector.setFaultConfigValue faultId key text =
        some updated) :
    updated.config = injector.config ∧
      updated.active = injector.active ∧
        ∃ fault,
          injector.faults.find? faultId = some fault ∧
            updated.faults =
              injector.faults.insert faultId
                { fault with
                  config := fault.config.insert key text } := by
  unfold setFaultConfigValue at hSet
  cases hFind : injector.faults.find? faultId with
  | none => simp [hFind] at hSet
  | some fault =>
      simp only [hFind, Option.some.injEq] at hSet
      subst hSet
      exact ⟨rfl, rfl, fault, rfl, rfl⟩

theorem isActive_of_setFaultConfigValue
    {key text : String}
    {updated : FaultInjectorBase}
    (hSet :
      injector.setFaultConfigValue faultId key text =
        some updated)
    (otherId : String) :
    updated.isActive otherId = injector.isActive otherId := by
  have hActive := (setFaultConfigValue_eq_some hSet).2.1
  simp [isActive, hActive]

theorem hasFault_of_setFaultConfigValue
    {key text : String}
    {updated : FaultInjectorBase}
    (hSet :
      injector.setFaultConfigValue faultId key text =
        some updated)
    (otherId : String) :
    updated.hasFault otherId = injector.hasFault otherId := by
  rcases setFaultConfigValue_eq_some hSet with
    ⟨_, _, fault, hFind, hFaults⟩
  unfold hasFault UnorderedMap.contains
  rw [hFaults, UnorderedMap.find?_insert]
  by_cases hSame : faultId = otherId
  · subst hSame
    simp [hFind]
  · simp [hSame]

end FaultInjectorBase

------------------------------------------------------------
-- Texts Of Active Faults
------------------------------------------------------------

namespace FaultInjectorBase

variable {h : HashOrder String}
variable {injector : FaultInjectorBase}
variable {key : String}

theorem mem_activeFaultIds_iff
    {faultId : String} :
    faultId ∈ injector.activeFaultIds h ↔
      injector.isActive faultId = true := by
  unfold activeFaultIds isActive
  rw [List.mem_filterMap, decide_eq_true_iff,
    ← UnorderedMap.mem_enumerate_iff h]
  constructor
  · rintro ⟨⟨id, flag⟩, hMember, hId⟩
    cases flag with
    | false => simp at hId
    | true =>
        have hSame : id = faultId := by simpa using hId
        rw [← hSame]
        exact hMember
  · intro hMember
    exact ⟨_, hMember, by simp⟩

theorem mem_activeTexts_iff
    {text : String} :
    text ∈ injector.activeTexts h key ↔
      ∃ faultId fault,
        injector.isActive faultId = true ∧
          injector.getFaultConfig faultId = some fault ∧
            fault.config.find? key = some text := by
  unfold activeTexts
  simp only [List.mem_filterMap, Option.bind_eq_some_iff,
    mem_activeFaultIds_iff]
  constructor
  · rintro ⟨faultId, hActive, fault, hFault, hText⟩
    exact ⟨faultId, fault, hActive, hFault, hText⟩
  · rintro ⟨faultId, fault, hActive, hFault, hText⟩
    exact ⟨faultId, hActive, fault, hFault, hText⟩

/- Unless it throws, the search returns the first text. -/
theorem firstActiveText_eq_head?
    {ids : List String}
    {found : Option String}
    (hSearch :
      injector.firstActiveText key ids = .ok found) :
    found =
      (ids.filterMap fun faultId =>
        (injector.getFaultConfig faultId).bind fun fault =>
          fault.config.find? key).head? := by
  induction ids with
  | nil =>
      rw [firstActiveText, Except.ok.injEq] at hSearch
      exact hSearch.symm
  | cons faultId ids ih =>
      unfold firstActiveText faultAt at hSearch
      cases hFault : injector.faults.find? faultId with
      | none => simp [hFault] at hSearch
      | some fault =>
          cases hText : fault.config.find? key with
          | none =>
              simp only [hFault, hText] at hSearch
              simp [getFaultConfig, hFault, hText,
                ih hSearch]
          | some text =>
              simp only [hFault, hText, Except.ok.injEq]
                at hSearch
              simp [getFaultConfig, hFault, hText,
                ← hSearch]

/- A flag is read from the first active text. -/
theorem activeBool_eq_of_head?
    {fallback value : Bool}
    {text : String}
    (hFirst :
      (injector.activeTexts h key).head? = some text)
    (hRead :
      injector.activeBool h key fallback = .ok value) :
    value = decide (text = "true") := by
  unfold activeBool at hRead
  cases hSearch : injector.firstActiveText key
      (injector.activeFaultIds h) with
  | error e => simp [hSearch, bind, Except.bind] at hRead
  | ok found =>
      have hFound := firstActiveText_eq_head? hSearch
      unfold activeTexts at hFirst
      rw [hFirst] at hFound
      simp only [hSearch, hFound, bind, Except.bind, pure,
        Except.pure, Except.ok.injEq] at hRead
      exact hRead.symm

end FaultInjectorBase
