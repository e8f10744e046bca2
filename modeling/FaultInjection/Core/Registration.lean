import Mathlib.Data.List.Dedup
import FaultInjection.Core.Steps

/-
  Which faults are registered where.

  Registration inserts by fault id, so of several faults with
  one id and one injector the last one stays.

  Key definitions include:
    * `lastFault`
    * `FaultController.registeredFaults`
    * `FaultController.AllAddressable`

  Key theorems include:
    * `FaultController.faultConfig_registerFaults`
    * `FaultController.faultConfig_of_construct`
    * `FaultController.all_addressable_iff`
-/

------------------------------------------------------------
-- Registration By Id
------------------------------------------------------------

/- The last listed fault with the injector and the id. -/
def lastFault
    (key faultId : String) :
    List FaultConfig → Option FaultConfig
| [] => none
| fault :: faults =>
    (lastFault key faultId faults).or
      (if fault.injectorId = key ∧ fault.id = faultId then
        some fault
      else
        none)

theorem mem_of_lastFault
    {key faultId : String}
    {faults : List FaultConfig}
    {fault : FaultConfig}
    (hLast : lastFault key faultId faults = some fault) :
    fault ∈ faults ∧ fault.injectorId = key ∧
      fault.id = faultId := by
  induction faults with
  | nil => cases hLast
  | cons first faults ih =>
      rw [lastFault, Option.or_eq_some_iff] at hLast
      rcases hLast with hLater | ⟨_, hFirst⟩
      · rcases ih hLater with ⟨hMember, hRest⟩
        exact ⟨List.mem_cons_of_mem first hMember, hRest⟩
      · split at hFirst
        · rename_i hMatch
          rw [Option.some.injEq] at hFirst
          subst hFirst
          exact ⟨by simp, hMatch⟩
        · cases hFirst

theorem lastFault_eq_none_iff
    {key faultId : String}
    {faults : List FaultConfig} :
    lastFault key faultId faults = none ↔
      ∀ fault ∈ faults,
        ¬ (fault.injectorId = key ∧ fault.id = faultId) := by
  induction faults with
  | nil => simp [lastFault]
  | cons first faults ih =>
      rw [lastFault, Option.or_eq_none_iff, ih]
      simp only [List.mem_cons, forall_eq_or_imp,
        ite_eq_right_iff, reduceCtorEq, imp_false]
      exact and_comm

/- Some fault of the list has the injector and the id. -/
theorem exists_lastFault_iff
    {key faultId : String}
    {faults : List FaultConfig} :
    (∃ fault, lastFault key faultId faults = some fault) ↔
      ∃ fault ∈ faults,
        fault.injectorId = key ∧ fault.id = faultId := by
  constructor
  · intro hSome
    rcases hSome with ⟨fault, hLast⟩
    exact ⟨fault, mem_of_lastFault hLast⟩
  · intro hListed
    rcases hListed with ⟨fault, hMember, hMatch⟩
    cases hLast : lastFault key faultId faults with
    | some last => exact ⟨last, rfl⟩
    | none =>
        rw [lastFault_eq_none_iff] at hLast
        exact absurd hMatch (hLast fault hMember)

namespace FaultController

variable (c : FaultController)
variable (key faultId : String)

theorem faultConfig_registerFault
    (fault : FaultConfig) :
    (registerFault c fault).faultConfig key faultId =
      if (c.injector? key).isSome ∧
          fault.injectorId = key ∧ fault.id = faultId then
        some fault
      else
        c.faultConfig key faultId := by
  unfold registerFault faultConfig
  rw [injector?_modifyInjector]
  by_cases hKey : fault.injectorId = key
  · subst hKey
    cases hInjector : c.injector? fault.injectorId with
    | none => simp
    | some injector => simp
  · simp [hKey]

theorem injector?_registerFault_isSome
    (fault : FaultConfig) :
    ((registerFault c fault).injector? key).isSome =
      (c.injector? key).isSome := by
  unfold registerFault
  rw [injector?_modifyInjector]
  split
  · cases c.injector? key with
    | none => rfl
    | some injector => rfl
  · rfl

/-
  After registration a running injector stores the last fault
  of the scenario that names it, for each id.
-/
theorem faultConfig_registerFaults :
    (registerFaults c).faultConfig key faultId =
      if (c.injector? key).isSome then
        (lastFault key faultId c.scenario.faults).or
          (c.faultConfig key faultId)
      else
        c.faultConfig key faultId := by
  unfold registerFaults
  generalize c.scenario.faults = faults
  induction faults generalizing c with
  | nil => simp [lastFault]
  | cons fault faults ih =>
      rw [List.foldl_cons, ih,
        injector?_registerFault_isSome,
        faultConfig_registerFault]
      by_cases hRuns : (c.injector? key).isSome = true
      · simp only [hRuns, if_true, true_and, lastFault,
          Option.or_assoc]
        congr 1
        split
        · rfl
        · rfl
      · simp [hRuns]

theorem injector?_registerFaults_isSome :
    ((registerFaults c).injector? key).isSome =
      (c.injector? key).isSome := by
  apply registerFaults_proj c
    (fun s => (s.injector? key).isSome)
  intro s fault
  exact injector?_registerFault_isSome s key fault

variable {c key faultId}

theorem hasFault_iff_faultConfig :
    c.hasFault key faultId = true ↔
      ∃ fault, c.faultConfig key faultId = some fault := by
  unfold hasFault faultConfig
  cases hInjector : c.injector? key with
  | none => simp
  | some injector =>
      simp only [Option.any_some, Option.bind_some]
      exact FaultInjectorBase.hasFault_iff injector faultId

/- Registration only adds what the scenario names. -/
theorem hasFault_registerFaults_of_mem
    {fault : FaultConfig}
    (hFault : fault ∈ c.scenario.faults)
    (hRuns : (c.injector? fault.injectorId).isSome = true) :
    (registerFaults c).hasFault fault.injectorId fault.id =
      true := by
  rw [hasFault_iff_faultConfig, faultConfig_registerFaults]
  rcases exists_lastFault_iff.mpr
      ⟨fault, hFault, rfl, rfl⟩ with
    ⟨last, hLast⟩
  simp only [hRuns, if_true, hLast]
  exact ⟨last, rfl⟩

/- The work list holds what is registered. -/
theorem mem_workList_registerFaults
    (h : HashOrder String)
    {fault : FaultConfig}
    (hFault : fault ∈ c.scenario.faults)
    (hRuns : (c.injector? fault.injectorId).isSome = true) :
    (fault.injectorId, fault) ∈
      (registerFaults c).workList h := by
  rw [mem_workList_iff, registerFaults_scenario]
  refine ⟨hFault, rfl, Option.isSome_iff_exists.mp ?_⟩
  rw [injector?_registerFaults_isSome, hRuns]

end FaultController

------------------------------------------------------------
-- Constructed Controllers
------------------------------------------------------------

namespace FaultController

open FaultServiceManager

section Created

variable {factory : InjectorConfig → Bool}
variable {c : FaultController}

/- No injector has a fault before registration. -/
def NoFaults (c : FaultController) : Prop :=
  ∀ key faultId, c.faultConfig key faultId = none

theorem noFaults_addInjector
    {config : InjectorConfig}
    (hNone : c.NoFaults) :
    (addInjector config c).NoFaults := by
  intro key faultId
  have hOld := hNone key faultId
  unfold faultConfig at *
  rw [injector?_addInjector]
  split
  · rfl
  · exact hOld

theorem noFaults_setUp
    (hNone : c.NoFaults) :
    (createInjectors factory
      (startAssertionRunner c)).NoFaults := by
  apply createInjectors_state
  · exact fun _ _ hState => hState
  · exact fun _ _ _ hState => noFaults_addInjector hState
  · apply startAssertionRunner_state
    · exact fun _ _ hState => hState
    · exact hNone

theorem injector?_createInjector_isSome
    (config : InjectorConfig)
    (s : FaultController)
    (key : String) :
    ((createInjector factory s config).injector? key).isSome =
      ((factory config && decide (config.id = key)) ||
        (s.injector? key).isSome) := by
  unfold createInjector
  cases hFactory : factory config with
  | false => simp
  | true =>
      simp only [if_true]
      change
        ((s.injectors.insert config.id
          { config := config }).find? key).isSome = _
      rw [UnorderedMap.find?_insert]
      by_cases hKey : config.id = key
      · simp [hKey]
      · simp [hKey, injector?]

/- The factory creates an injector of the scenario. -/
def Creates
    (factory : InjectorConfig → Bool)
    (scenario : ScenarioConfig)
    (key : String) : Prop :=
  ∃ config ∈ scenario.injectors,
    config.id = key ∧ factory config = true

instance
    (factory : InjectorConfig → Bool)
    (scenario : ScenarioConfig)
    (key : String) :
    Decidable (Creates factory scenario key) :=
  inferInstanceAs
    (Decidable
      (∃ config ∈ scenario.injectors,
        config.id = key ∧ factory config = true))

/- An injector runs when it did or the factory creates it. -/
theorem injector?_createInjectors_isSome_iff
    {key : String} :
    ((createInjectors factory c).injector? key).isSome =
        true ↔
      Creates factory c.scenario key ∨
        (c.injector? key).isSome = true := by
  unfold createInjectors Creates
  generalize c.scenario.injectors = configs
  induction configs generalizing c with
  | nil => simp
  | cons config configs ih =>
      rw [List.foldl_cons, ih,
        injector?_createInjector_isSome]
      simp only [List.mem_cons, exists_eq_or_imp,
        Bool.or_eq_true, Bool.and_eq_true, decide_eq_true_iff]
      rw [or_assoc, or_left_comm, and_comm]

end Created

/-
  A constructed controller runs the injectors the factory
  creates, and each stores what the scenario lists for it.
-/
theorem faultConfig_of_construct
    {h : HashOrder String}
    {factory : InjectorConfig → Bool}
    {node : CallbackNode Owner Callback}
    {generation : Nat}
    {scenario : ScenarioConfig}
    {c : FaultController}
    (hConstruct :
      construct h factory node generation scenario = .done c)
    (key : String) :
    ((c.injector? key).isSome = true ↔
        Creates factory scenario key) ∧
      ∀ faultId,
        c.faultConfig key faultId =
          if Creates factory scenario key then
            lastFault key faultId scenario.faults
          else
            none := by
  let base : FaultController :=
    { node := node
      scenario := scenario
      generation := generation }
  let created :=
    createInjectors factory (startAssertionRunner base)
  have hScenario : created.scenario = scenario :=
    setUp_scenario factory base
  have hStarted :
      (startAssertionRunner base).scenario = scenario ∧
        (startAssertionRunner base).injectors = .empty := by
    apply startAssertionRunner_state
      (P := fun s =>
        s.scenario = scenario ∧ s.injectors = .empty)
    · exact fun _ _ hState => hState
    · exact ⟨rfl, rfl⟩
  have hSame : SameFaults c (registerFaults created) := by
    unfold construct at hConstruct
    rcases Outcome.bind_eq_done_iff.mp hConstruct with
      ⟨s, hSchedule, hEnd⟩
    rw [Outcome.done.injEq] at hEnd
    subst hEnd
    have hState :=
      scheduleFaults_sameFaults h (registerFaults created)
    rw [hSchedule] at hState
    exact hState
  have hNone : created.NoFaults :=
    noFaults_setUp fun _ _ => rfl
  have hRuns :
      (created.injector? key).isSome = true ↔
        Creates factory scenario key := by
    unfold created
    rw [injector?_createInjectors_isSome_iff, hStarted.1]
    simp [injector?, hStarted.2]
  constructor
  · rw [hSame.isSome, injector?_registerFaults_isSome, hRuns]
  · intro faultId
    rw [hSame.faultConfig, faultConfig_registerFaults,
      hScenario, hNone key faultId, Option.or_none]
    simp only [hRuns]

/- An accepted scenario lists each fault with an injector. -/
theorem creates_of_ok
    {h : HashOrder String}
    {factory : InjectorConfig → Bool}
    {scenario : ScenarioConfig}
    (hOk : (validateScenario h scenario).ok = true)
    {fault : FaultConfig}
    (hFault : fault ∈ scenario.faults)
    (hCreated :
      ∀ config ∈ scenario.injectors, factory config = true) :
    Creates factory scenario fault.injectorId := by
  rcases findInjector_of_ok hOk hFault with
    ⟨injector, hFind, _⟩
  rcases ScenarioConfig.mem_of_findInjector hFind with
    ⟨hMember, hId⟩
  exact ⟨injector, hMember, hId, hCreated injector hMember⟩

/- With all injectors created each stores its own faults. -/
theorem faultConfig_of_all_created
    {h : HashOrder String}
    {factory : InjectorConfig → Bool}
    {node : CallbackNode Owner Callback}
    {generation : Nat}
    {scenario : ScenarioConfig}
    {c : FaultController}
    (hOk : (validateScenario h scenario).ok = true)
    (hCreated :
      ∀ config ∈ scenario.injectors, factory config = true)
    (hConstruct :
      construct h factory node generation scenario = .done c)
    (key faultId : String) :
    c.faultConfig key faultId =
      lastFault key faultId scenario.faults := by
  rw [(faultConfig_of_construct hConstruct key).2 faultId]
  split
  · rfl
  · rename_i hNot
    symm
    rw [lastFault_eq_none_iff]
    rintro fault hFault ⟨hKey, _⟩
    subst hKey
    exact hNot (creates_of_ok hOk hFault hCreated)

------------------------------------------------------------
-- Addressable Faults
------------------------------------------------------------

/- The registered faults, each with its injector and its id. -/
def registeredFaults
    (c : FaultController) : List (String × String) :=
  c.injectors.keys.flatMap fun key =>
    match c.injector? key with
    | some injector =>
        injector.faults.keys.map (Prod.mk key)
    | none => []

/-
  Every fault of the scenario is found by its id and stored
  as configured, and nothing else is registered.
-/
def AllAddressable
    (h : HashOrder String)
    (scenario : ScenarioConfig)
    (c : FaultController) : Prop :=
  (∀ fault ∈ scenario.faults,
    findInjectorForFault h c fault.id =
        some fault.injectorId ∧
      c.faultConfig fault.injectorId fault.id =
        some fault) ∧
    c.registeredFaults.length = scenario.faults.length

section Addressable

variable {c : FaultController}

theorem mem_registeredFaults_iff
    (key faultId : String) :
    (key, faultId) ∈ c.registeredFaults ↔
      c.hasFault key faultId = true := by
  unfold registeredFaults hasFault
  rw [List.mem_flatMap]
  constructor
  · rintro ⟨k, _, hMember⟩
    cases hInjector : c.injector? k with
    | none => simp [hInjector] at hMember
    | some injector =>
        simp only [hInjector, List.mem_map,
          Prod.mk.injEq] at hMember
        rcases hMember with ⟨id, hId, rfl, rfl⟩
        rw [hInjector, Option.any_some]
        rw [UnorderedMap.mem_keys_iff] at hId
        exact (UnorderedMap.contains_iff _ _).mpr hId
  · intro hHas
    cases hInjector : c.injector? key with
    | none => simp [hInjector] at hHas
    | some injector =>
        rw [hInjector, Option.any_some] at hHas
        refine ⟨key, ?_, ?_⟩
        · exact (UnorderedMap.mem_keys_iff _ _).mpr
            ⟨injector, hInjector⟩
        · rw [hInjector, List.mem_map]
          exact ⟨faultId,
            (UnorderedMap.mem_keys_iff _ _).mpr
              ((UnorderedMap.contains_iff _ _).mp hHas),
            rfl⟩

theorem nodup_registeredFaults :
    c.registeredFaults.Nodup := by
  unfold registeredFaults
  rw [List.nodup_flatMap]
  constructor
  · intro key _
    cases c.injector? key with
    | none => exact List.nodup_nil
    | some injector =>
        exact injector.faults.distinct.map
          (fun a b hSame => (Prod.mk.inj hSame).2)
  · apply c.injectors.distinct.imp
    intro k j hApart
    simp only [Function.onFun, List.disjoint_left]
    rintro ⟨key, faultId⟩ hFirst hSecond
    apply hApart
    have hKey :
        ∀ i, (key, faultId) ∈
            (match c.injector? i with
            | some injector =>
                injector.faults.keys.map (Prod.mk i)
            | none => []) → i = key := by
      intro i hMember
      cases hInjector : c.injector? i with
      | none => simp [hInjector] at hMember
      | some injector =>
          simp only [hInjector, List.mem_map,
            Prod.mk.injEq] at hMember
          rcases hMember with ⟨_, _, hSame, _⟩
          exact hSame
    rw [hKey k hFirst, hKey j hSecond]

/-
  As many faults are registered as the scenario has when no
  injector gets two faults with one id, and fewer otherwise.
-/
theorem length_registeredFaults_iff
    {faults : List FaultConfig}
    (hConfig :
      ∀ key faultId,
        c.faultConfig key faultId =
          lastFault key faultId faults) :
    c.registeredFaults.length = faults.length ↔
      (faults.map fun f => (f.injectorId, f.id)).Nodup := by
  let pairs := faults.map fun f => (f.injectorId, f.id)
  have hPerm : c.registeredFaults.Perm pairs.dedup := by
    rw [List.perm_ext_iff_of_nodup nodup_registeredFaults
      (List.nodup_dedup pairs)]
    rintro ⟨key, faultId⟩
    rw [mem_registeredFaults_iff, hasFault_iff_faultConfig,
      hConfig, exists_lastFault_iff, List.mem_dedup,
      List.mem_map]
    simp only [Prod.mk.injEq]
  have hLength : pairs.length = faults.length := by
    simp [pairs]
  rw [hPerm.length_eq, ← hLength, ← List.dedup_eq_self]
  constructor
  · intro hCount
    exact (List.dedup_sublist pairs).eq_of_length hCount
  · intro hSame
    rw [hSame]

/- With distinct ids a fault is the last of its id. -/
theorem lastFault_eq_of_nodup
    {faults : List FaultConfig}
    (hDistinct : (faults.map FaultConfig.id).Nodup)
    {fault : FaultConfig}
    (hFault : fault ∈ faults) :
    lastFault fault.injectorId fault.id faults =
      some fault := by
  rcases exists_lastFault_iff.mpr
      ⟨fault, hFault, rfl, rfl⟩ with
    ⟨last, hLast⟩
  rcases mem_of_lastFault hLast with ⟨hMember, _, hId⟩
  have hSame : last = fault :=
    List.inj_on_of_nodup_map hDistinct hMember hFault hId
  rw [hLast, hSame]

/-
  Every fault of an accepted scenario is registered and
  addressable exactly when the fault ids are distinct.
-/
theorem all_addressable_iff
    {h : HashOrder String}
    {factory : InjectorConfig → Bool}
    {node : CallbackNode Owner Callback}
    {generation : Nat}
    {scenario : ScenarioConfig}
    (hOk : (validateScenario h scenario).ok = true)
    (hCreated :
      ∀ config ∈ scenario.injectors, factory config = true)
    (hConstruct :
      construct h factory node generation scenario =
        .done c) :
    AllAddressable h scenario c ↔
      (scenario.faults.map FaultConfig.id).Nodup := by
  have hConfig :=
    faultConfig_of_all_created hOk hCreated hConstruct
  constructor
  · rintro ⟨hFound, hCount⟩
    have hPairs :=
      (length_registeredFaults_iff hConfig).mp hCount
    -- one id leads to one injector, so pairs differ in the id
    rw [List.Nodup, List.pairwise_map] at hPairs ⊢
    apply hPairs.imp_of_mem
    intro f g hF hG hApart hSame
    apply hApart
    have hKey : f.injectorId = g.injectorId := by
      have hFirst := (hFound f hF).1
      rw [hSame, (hFound g hG).1, Option.some.injEq] at hFirst
      exact hFirst.symm
    rw [hKey, hSame]
  · intro hDistinct
    constructor
    · intro fault hFault
      have hStored :
          c.faultConfig fault.injectorId fault.id =
            some fault := by
        rw [hConfig]
        exact lastFault_eq_of_nodup hDistinct hFault
      refine ⟨?_, hStored⟩
      cases hFind : findInjectorForFault h c fault.id with
      | none =>
          have hNone :=
            findInjectorForFault_eq_none_iff.mp hFind
              fault.injectorId
          have hHas : c.hasFault fault.injectorId fault.id =
              true :=
            hasFault_iff_faultConfig.mpr ⟨fault, hStored⟩
          rw [hNone] at hHas
          cases hHas
      | some key =>
          have hHas := findInjectorForFault_eq_some hFind
          rcases hasFault_iff_faultConfig.mp hHas with
            ⟨other, hOther⟩
          rw [hConfig] at hOther
          rcases mem_of_lastFault hOther with
            ⟨hMember, hKey, hId⟩
          have hSame : other = fault :=
            List.inj_on_of_nodup_map hDistinct hMember hFault
              hId
          rw [← hKey, hSame]
    · rw [length_registeredFaults_iff hConfig]
      rw [List.Nodup, List.pairwise_map] at hDistinct ⊢
      apply hDistinct.imp
      intro f g hApart hSame
      exact hApart (Prod.mk.inj hSame).2

end Addressable

end FaultController

------------------------------------------------------------
-- A Repeated Fault Id
------------------------------------------------------------

namespace FaultController.RepeatedId

def injector (id : String) : InjectorConfig where
  id := id
  type := "odom"
  topic := some { inputTopic := id, outputTopic := "out" }

def fault (id injectorId : String) : FaultConfig where
  id := id
  injectorId := injectorId

/- Two injectors with one fault each. -/
def scenario (first second : String) : ScenarioConfig where
  injectors := [injector "left", injector "right"]
  faults := [fault first "left", fault second "right"]

def constructed (first second : String) : FaultController :=
  (construct .insertion (fun _ => true) {} 0
    (scenario first second)).state

/-
  The validator accepts two faults with one id. One of them
  then answers for the other.
-/
theorem not_all_addressable :
    (validateScenario .insertion
        (scenario "bias" "bias")).ok = true ∧
      construct .insertion (fun _ => true) {} 0
          (scenario "bias" "bias") =
        .done (constructed "bias" "bias") ∧
      ¬ AllAddressable .insertion (scenario "bias" "bias")
          (constructed "bias" "bias") := by
  refine ⟨by decide, by rfl, ?_⟩
  rintro ⟨hFound, _⟩
  have hRight :=
    (hFound (fault "bias" "right") (by simp [scenario])).1
  revert hRight
  decide

theorem all_addressable_of_distinct :
    AllAddressable .insertion (scenario "bias" "drop")
      (constructed "bias" "drop") := by
  have hOk :
      (validateScenario .insertion
        (scenario "bias" "drop")).ok = true := by
    decide
  have hDistinct :
      ((scenario "bias" "drop").faults.map
        FaultConfig.id).Nodup := by
    decide
  exact
    (all_addressable_iff hOk (fun _ _ => rfl)
      (by rfl)).mpr hDistinct

end FaultController.RepeatedId
