import FaultInjection.Core.RunningSystem

/-
  What scheduling the faults of a scenario does, whatever the
  iteration order of the injectors.

  The nested loops are one loop over a work list. A property
  that every startup activation and every created timer keeps
  holds when the loop is left.

  Key definitions include:
    * `FaultController.workList`
    * `FaultScheduler.faultTimers`

  Key theorems include:
    * `FaultController.scheduleFaults_eq_forEach`
    * `FaultController.scheduleFaults_state`
    * `FaultController.scheduleFaults_returned_iff`
-/

------------------------------------------------------------
-- One Timer
------------------------------------------------------------

namespace FaultScheduler

/- The controller after a timer was created and kept. -/
def addTimer
    (callback : Callback)
    (delay : Int)
    (c : FaultController) : FaultController :=
  { c with
    node :=
      c.node.addWallTimer .scheduler c.generation
        (max delay 1) callback
    timers := c.timers ++ [c.node.entities.length] }

variable {callback : Callback}
variable {delay : Int}
variable {c : FaultController}

theorem scheduleTimer_eq :
    scheduleTimer callback delay c =
      if CallbackNode.periodFits (max delay 1) then
        .done (addTimer callback delay c)
      else
        .threw c := by
  unfold scheduleTimer CallbackNode.createWallTimer
  by_cases hFits :
      CallbackNode.periodFits (max delay 1) = true
  · simp only [hFits, if_true]
    rfl
  · simp [hFits]

theorem scheduleTimer_returned :
    (scheduleTimer callback delay c).returned =
      CallbackNode.periodFits (max delay 1) := by
  rw [scheduleTimer_eq]
  cases CallbackNode.periodFits (max delay 1) with
  | true => rfl
  | false => rfl

theorem scheduleTimer_state
    {P : FaultController → Prop}
    (hInit : P c)
    (hTimer :
      CallbackNode.periodFits (max delay 1) = true →
        P (addTimer callback delay c)) :
    P (scheduleTimer callback delay c).state := by
  rw [scheduleTimer_eq]
  split
  · rename_i hFits
    exact hTimer hFits
  · exact hInit

end FaultScheduler

------------------------------------------------------------
-- One Fault
------------------------------------------------------------

namespace FaultScheduler

/- The timers scheduled for a fault, with their delays. -/
def faultTimers
    (initiallyActiveFaults : List String)
    (key : String)
    (fault : FaultConfig) : List (Callback × Int) :=
  if isInitiallyActive fault initiallyActiveFaults then
    match fault.duration with
    | some duration => [(.stopFault key fault, duration)]
    | none => []
  else
    match fault.start with
    | none => []
    | some start =>
        (.startFault key fault, start) ::
          match fault.duration with
          | some duration =>
              [(.stopFault key fault,
                addMilliseconds start duration)]
          | none => []

/- The activation that comes before a fault's timers. -/
def startupActivation
    (initiallyActiveFaults : List String)
    (key : String)
    (fault : FaultConfig)
    (c : FaultController) : FaultController :=
  if isInitiallyActive fault initiallyActiveFaults then
    activateNow key fault c
  else
    c

/-
  Scheduling a fault activates it if it is active at startup
  and then creates its timers in order.
-/
theorem scheduleFault_eq
    (initiallyActiveFaults : List String)
    (key : String)
    (fault : FaultConfig)
    (c : FaultController) :
    scheduleFault initiallyActiveFaults key fault c =
      Outcome.forEach
        (fun timer => scheduleTimer timer.1 timer.2)
        (faultTimers initiallyActiveFaults key fault)
        (startupActivation initiallyActiveFaults key fault
          c) := by
  have hSingle :
      ∀ (callback : Callback) (delay : Int)
        (s : FaultController),
        (scheduleTimer callback delay s).bind
            (fun t => .done t) =
          scheduleTimer callback delay s := by
    intro callback delay s
    rw [scheduleTimer_eq]
    split
    · rfl
    · rfl
  unfold scheduleFault faultTimers startupActivation
  split
  · cases fault.duration with
    | none => rfl
    | some duration =>
        exact (hSingle _ _ _).symm
  · cases fault.start with
    | none => rfl
    | some start =>
        cases fault.duration with
        | none => rfl
        | some duration =>
            rw [Outcome.forEach_cons]
            change
              (scheduleTimer _ _ c).bind _ =
                (scheduleTimer _ _ c).bind _
            congr 1
            funext t
            exact (hSingle _ _ _).symm

/- The callbacks scheduled for a fault belong to it. -/
theorem callback_of_mem_faultTimers
    {initiallyActiveFaults : List String}
    {key : String}
    {fault : FaultConfig}
    {timer : Callback × Int}
    (hTimer :
      timer ∈ faultTimers initiallyActiveFaults key fault) :
    timer.1 = .startFault key fault ∨
      timer.1 = .stopFault key fault := by
  unfold faultTimers at hTimer
  split at hTimer
  · cases hDuration : fault.duration with
    | none => simp [hDuration] at hTimer
    | some duration =>
        simp only [hDuration, List.mem_singleton] at hTimer
        exact Or.inr (by rw [hTimer])
  · cases hStart : fault.start with
    | none => simp [hStart] at hTimer
    | some start =>
        cases hDuration : fault.duration with
        | none =>
            simp only [hStart, hDuration,
              List.mem_singleton] at hTimer
            exact Or.inl (by rw [hTimer])
        | some duration =>
            simp only [hStart, hDuration, List.mem_cons,
              List.not_mem_nil, or_false] at hTimer
            rcases hTimer with hFirst | hSecond
            · exact Or.inl (by rw [hFirst])
            · exact Or.inr (by rw [hSecond])

end FaultScheduler

------------------------------------------------------------
-- All Faults
------------------------------------------------------------

namespace FaultController

open FaultScheduler

/- The faults to schedule, each with its injector, in order. -/
def workList
    (h : HashOrder String)
    (c : FaultController) : List (String × FaultConfig) :=
  (h.order c.injectors.keys).flatMap fun key =>
    (c.scenario.targetedFaults key).map (Prod.mk key)

/-
  Work items are the faults of the scenario whose injector
  runs.
-/
theorem mem_workList_iff
    (h : HashOrder String)
    (c : FaultController)
    (key : String)
    (fault : FaultConfig) :
    (key, fault) ∈ c.workList h ↔
      fault ∈ c.scenario.faults ∧ fault.injectorId = key ∧
        ∃ injector, c.injector? key = some injector := by
  simp only [workList, List.mem_flatMap, List.mem_map,
    UnorderedMap.mem_order_keys_iff,
    ScenarioConfig.mem_targetedFaults_iff, Prod.mk.injEq]
  constructor
  · rintro ⟨k, hRuns, f, ⟨hFault, hKey⟩, rfl, rfl⟩
    exact ⟨hFault, hKey, hRuns⟩
  · rintro ⟨hFault, hKey, hRuns⟩
    exact ⟨key, hRuns, fault, ⟨hFault, hKey⟩, rfl, rfl⟩

/- Scheduling is one loop over the work list. -/
theorem scheduleFaults_eq_forEach
    (h : HashOrder String)
    (c : FaultController) :
    scheduleFaults h c =
      Outcome.forEach
        (fun item =>
          scheduleFault c.scenario.initiallyActiveFaults
            item.1 item.2)
        (c.workList h) c := by
  unfold scheduleFaults workList
  rw [← Outcome.forEach_flatMap]
  congr 1
  funext key s
  unfold schedule
  rw [Outcome.forEach_map]

/-
  A property that each startup activation and each created
  timer keeps holds of the state scheduling leaves.
-/
theorem scheduleFaults_state
    {h : HashOrder String}
    {c : FaultController}
    {P : FaultController → Prop}
    (hActivate :
      ∀ key fault s, (key, fault) ∈ c.workList h →
        isInitiallyActive fault
            c.scenario.initiallyActiveFaults = true →
          P s → P (activateNow key fault s))
    (hTimer :
      ∀ key fault callback delay s,
        (key, fault) ∈ c.workList h →
          (callback, delay) ∈
              faultTimers c.scenario.initiallyActiveFaults
                key fault →
            CallbackNode.periodFits (max delay 1) = true →
              P s → P (addTimer callback delay s))
    (hInit : P c) :
    P (scheduleFaults h c).state := by
  rw [scheduleFaults_eq_forEach]
  apply Outcome.forEach_state ?_ hInit
  rintro ⟨key, fault⟩ hItem s hState
  rw [scheduleFault_eq]
  apply Outcome.forEach_state
  · rintro ⟨callback, delay⟩ hMember t hT
    apply scheduleTimer_state hT
    intro hFits
    exact hTimer key fault callback delay t hItem hMember
      hFits hT
  · unfold startupActivation
    split
    · rename_i hActive
      exact hActivate key fault s hItem hActive hState
    · exact hState

/-
  Scheduling returns normally when the period of every timer
  to create fits.
-/
theorem scheduleFaults_returned_iff
    (h : HashOrder String)
    (c : FaultController) :
    (scheduleFaults h c).returned = true ↔
      ∀ item ∈ c.workList h,
        ∀ timer ∈
            faultTimers c.scenario.initiallyActiveFaults
              item.1 item.2,
          CallbackNode.periodFits (max timer.2 1) = true := by
  rw [scheduleFaults_eq_forEach]
  apply Outcome.forEach_returned_iff (P := fun _ => True)
  · intro item _ s _
    rw [scheduleFault_eq]
    apply Outcome.forEach_returned_iff (P := fun _ => True)
    · intro timer _ t _
      rw [scheduleTimer_returned]
    · exact fun _ _ _ _ => True.intro
    · exact True.intro
  · exact fun _ _ _ _ => True.intro
  · exact True.intro

end FaultController

------------------------------------------------------------
-- What Scheduling Keeps
------------------------------------------------------------

namespace FaultController

open FaultScheduler

variable (h : HashOrder String)
variable (c : FaultController)

/- Scheduling leaves the scenario and its count alone. -/
theorem scheduleFaults_scenario :
    (scheduleFaults h c).state.scenario = c.scenario ∧
      (scheduleFaults h c).state.generation =
        c.generation := by
  apply scheduleFaults_state
    (P := fun s =>
      s.scenario = c.scenario ∧ s.generation = c.generation)
  · intro key fault s _ _ hState
    exact hState
  · intro key fault callback delay s _ _ _ hState
    exact hState
  · exact ⟨rfl, rfl⟩

/- Scheduling changes flags of registered faults only. -/
def SameFaults (a b : FaultController) : Prop :=
  a.injectors.keys = b.injectors.keys ∧
    ∀ key,
      (a.injector? key).map
          (fun i => (i.config, i.faults)) =
        (b.injector? key).map
          fun i => (i.config, i.faults)

theorem SameFaults.refl : SameFaults c c :=
  ⟨rfl, fun _ => rfl⟩

theorem SameFaults.trans
    {a b d : FaultController}
    (hFirst : SameFaults a b)
    (hSecond : SameFaults b d) :
    SameFaults a d :=
  ⟨hFirst.1.trans hSecond.1,
    fun key => (hFirst.2 key).trans (hSecond.2 key)⟩

/- Setting a flag changes no registered fault. -/
theorem sameFaults_setActive
    (key faultId : String)
    (value : Bool) :
    SameFaults
      (c.modifyInjector key fun injector =>
        injector.setActive faultId value)
      c := by
  refine ⟨modifyInjector_keys c key _, ?_⟩
  intro otherKey
  rw [injector?_modifyInjector]
  split
  · cases c.injector? otherKey with
    | none => rfl
    | some injector => simp
  · rfl

theorem scheduleFaults_sameFaults :
    SameFaults (scheduleFaults h c).state c := by
  apply scheduleFaults_state
    (P := fun s => SameFaults s c)
  · intro key fault s _ _ hState
    exact (sameFaults_setActive s key fault.id true).trans
      hState
  · intro key fault callback delay s _ _ _ hState
    exact hState
  · exact SameFaults.refl c

variable {a b : FaultController}

theorem SameFaults.hasFault
    (hSame : SameFaults a b)
    (key faultId : String) :
    a.hasFault key faultId = b.hasFault key faultId := by
  have hKey := hSame.2 key
  unfold FaultController.hasFault
  cases hA : a.injector? key with
  | none =>
      cases hB : b.injector? key with
      | none => rfl
      | some injector => simp [hA, hB] at hKey
  | some injector =>
      cases hB : b.injector? key with
      | none => simp [hA, hB] at hKey
      | some other =>
          simp only [hA, hB, Option.map_some,
            Option.some.injEq, Prod.mk.injEq] at hKey
          simp [FaultInjectorBase.hasFault, hKey.2]

/- Scheduling keeps every injector running. -/
theorem SameFaults.isSome
    (hSame : SameFaults a b)
    (key : String) :
    (a.injector? key).isSome = (b.injector? key).isSome := by
  have hKey := congrArg Option.isSome (hSame.2 key)
  simpa using hKey

/- The configuration a controller stores for a fault. -/
def faultConfig
    (c : FaultController)
    (key faultId : String) : Option FaultConfig :=
  (c.injector? key).bind fun injector =>
    injector.getFaultConfig faultId

theorem SameFaults.faultConfig
    (hSame : SameFaults a b)
    (key faultId : String) :
    a.faultConfig key faultId =
      b.faultConfig key faultId := by
  have hKey := hSame.2 key
  unfold FaultController.faultConfig
  cases hA : a.injector? key with
  | none =>
      cases hB : b.injector? key with
      | none => rfl
      | some injector => simp [hA, hB] at hKey
  | some injector =>
      cases hB : b.injector? key with
      | none => simp [hA, hB] at hKey
      | some other =>
          simp only [hA, hB, Option.map_some,
            Option.some.injEq, Prod.mk.injEq] at hKey
          simp [FaultInjectorBase.getFaultConfig, hKey.2]

end FaultController
