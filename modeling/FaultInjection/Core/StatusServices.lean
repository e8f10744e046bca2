import FaultInjection.Core.EventCauses
import FaultInjection.Core.FaultScenarioRunner
import FaultInjection.Injectors.CheckerAgreement

/-
  The services that only read.

  The status of all faults, the list of their ids and the
  report are three readings of one store. The schema of a
  fault's parameters comes as parallel lists.

  Key definitions include:
    * `FaultServiceManager.handleGetFaultStatus`
    * `FaultServiceManager.handleListFaults`
    * `FaultServiceManager.handleGetFaultSchema`
    * `FaultServiceManager.readSchema`

  Key theorems include:
    * `FaultServiceManager.mem_statuses_iff`
    * `FaultServiceManager.status_lists_store`
    * `FaultServiceManager.status_from_events`
    * `FaultServiceManager.schema_predicts_updates`
-/

------------------------------------------------------------
-- Status And List
------------------------------------------------------------

structure FaultStatus where
  faultId : String
  injectorId : String
  state : String
  details : String
deriving DecidableEq

structure ListFaultsResponse where
  faultIds : List String := []
  activeFaultIds : List String := []
deriving DecidableEq

namespace FaultServiceManager

/- The status of one fault of an injector. -/
def faultStatus
    (h : HashOrder String)
    (injectorId : String)
    (injector : FaultInjectorBase)
    (faultId : String) : FaultStatus where
  faultId := faultId
  injectorId := injectorId
  state :=
    if faultId ∈ injector.activeFaultIds h then
      "active"
    else
      "inactive"
  details :=
    match injector.getFaultConfig faultId with
    | some fault => describeFault fault
    | none => "config unavailable"

def handleGetFaultStatus
    (h : HashOrder String)
    (c : FaultController) : List FaultStatus :=
  (c.injectors.enumerate h).flatMap fun entry =>
    (entry.2.faultIds h).map (faultStatus h entry.1 entry.2)

/- Append the faults of one injector. -/
def listInjector
    (h : HashOrder String)
    (response : ListFaultsResponse)
    (entry : String × FaultInjectorBase) : ListFaultsResponse where
  faultIds := response.faultIds ++ entry.2.faultIds h
  activeFaultIds :=
    response.activeFaultIds ++ entry.2.activeFaultIds h

def handleListFaults
    (h : HashOrder String)
    (c : FaultController) : ListFaultsResponse :=
  (c.injectors.enumerate h).foldl (listInjector h) {}

/- The entry of the report about the fault of a status. -/
def FaultStatus.reportEntry
    (status : FaultStatus) : FaultReportEntry where
  id := status.faultId
  injectorId := status.injectorId
  state := status.state
  details := status.details

section Status

open FaultController Transition

variable {h : HashOrder String}
variable {c : FaultController}

/- The status that a stored fault has. -/
def storedStatus
    (key faultId : String)
    (stored : StoredFault) : FaultStatus where
  faultId := faultId
  injectorId := key
  state := stateText stored.active
  details := describeFault stored.fault

theorem nodup_faultIds
    (injector : FaultInjectorBase) :
    (injector.faultIds h).Nodup :=
  (h.perm _).nodup_iff.mpr injector.faults.distinct

theorem faultStatus_eq
    {key faultId : String}
    {injector : FaultInjectorBase}
    {fault : FaultConfig}
    (hInjector : c.injector? key = some injector)
    (hFault : injector.getFaultConfig faultId = some fault) :
    faultStatus h key injector faultId =
      storedStatus key faultId ⟨fault, c.isActive key faultId⟩ := by
  have hActive :
      faultId ∈ injector.activeFaultIds h ↔
        c.isActive key faultId = true := by
    rw [FaultInjectorBase.mem_activeFaultIds_iff]
    simp [FaultController.isActive, hInjector]
  unfold faultStatus storedStatus
  rw [hFault]
  congr 1
  cases hFlag : c.isActive key faultId with
  | true => exact if_pos (hActive.mpr hFlag)
  | false =>
      exact if_neg fun hMember => by
        rw [hActive.mp hMember] at hFlag
        cases hFlag

/- The statuses are those of the stored faults. -/
theorem mem_statuses_iff
    {status : FaultStatus} :
    status ∈ handleGetFaultStatus h c ↔
      ∃ key faultId stored,
        c.registry key faultId = some stored ∧
          status = storedStatus key faultId stored := by
  unfold handleGetFaultStatus
  simp only [List.mem_flatMap, List.mem_map]
  constructor
  · rintro ⟨⟨key, injector⟩, hEntry, faultId, hId, rfl⟩
    have hInjector :=
      (UnorderedMap.mem_enumerate_iff _ _ _ _).mp hEntry
    rcases (UnorderedMap.mem_order_keys_iff _ _ _).mp hId with
      ⟨fault, hFault⟩
    refine
      ⟨key, faultId, ⟨fault, c.isActive key faultId⟩, ?_,
        faultStatus_eq hInjector hFault⟩
    unfold registry faultConfig injector?
    rw [hInjector]
    simp [FaultInjectorBase.getFaultConfig, hFault]
  · rintro ⟨key, faultId, stored, hStored, rfl⟩
    rcases Option.map_eq_some_iff.mp hStored with
      ⟨fault, hFault, rfl⟩
    rcases Option.bind_eq_some_iff.mp hFault with
      ⟨injector, hInjector, hConfig⟩
    exact
      ⟨(key, injector),
        (UnorderedMap.mem_enumerate_iff _ _ _ _).mpr hInjector,
        faultId,
        (UnorderedMap.mem_order_keys_iff _ _ _).mpr
          ⟨fault, hConfig⟩,
        faultStatus_eq hInjector hConfig⟩

/- Each fault of each injector has one status. -/
theorem nodup_statuses :
    ((handleGetFaultStatus h c).map fun status =>
      (status.injectorId, status.faultId)).Nodup := by
  have hPairs :
      ((handleGetFaultStatus h c).map fun status =>
          (status.injectorId, status.faultId)) =
        (c.injectors.enumerate h).flatMap fun entry =>
          (entry.2.faultIds h).map (Prod.mk entry.1) := by
    unfold handleGetFaultStatus
    rw [List.map_flatMap]
    congr 1
    funext entry
    rw [List.map_map]
    rfl
  rw [hPairs, List.nodup_flatMap]
  constructor
  · intro entry _
    exact
      (nodup_faultIds entry.2).map
        fun _ _ hEq => (Prod.mk.inj hEq).2
  · have hKeys :
        (c.injectors.enumerate h).Pairwise fun a b =>
          a.1 ≠ b.1 :=
      List.pairwise_map.mp
        (UnorderedMap.nodup_enumerate_keys h c.injectors)
    refine hKeys.imp ?_
    intro a b hOther
    simp only [Function.onFun, List.disjoint_left]
    intro pair hFirst hSecond
    rcases List.mem_map.mp hFirst with ⟨_, _, rfl⟩
    rcases List.mem_map.mp hSecond with ⟨_, _, hEq⟩
    exact hOther (Prod.mk.inj hEq).1.symm

/- The list of ids is that of the statuses. -/
theorem listFaults_eq
    (entries : List (String × FaultInjectorBase))
    (response : ListFaultsResponse) :
    entries.foldl (listInjector h) response =
      { faultIds :=
          response.faultIds ++
            entries.flatMap fun entry => entry.2.faultIds h
        activeFaultIds :=
          response.activeFaultIds ++
            entries.flatMap fun entry =>
              entry.2.activeFaultIds h } := by
  induction entries generalizing response with
  | nil => simp
  | cons entry entries ih =>
      rw [List.foldl_cons, ih]
      simp [listInjector]

/- The report lists the faults in the same order. -/
theorem report_faults_eq
    (entries : List (String × FaultInjectorBase))
    (drawnSeed : String → Nat)
    (report : ScenarioReport) :
    (entries.foldl (ReportCreator.addInjector h drawnSeed)
        report).faults =
      report.faults ++
        entries.flatMap fun entry =>
          (entry.2.faultIds h).map
            (ReportCreator.faultEntry h entry.1 entry.2) := by
  induction entries generalizing report with
  | nil => simp
  | cons entry entries ih =>
      rw [List.foldl_cons, ih]
      simp [ReportCreator.addInjector]

theorem nodup_activeFaultIds
    (injector : FaultInjectorBase) :
    (injector.activeFaultIds h).Nodup := by
  have hKeys :
      injector.activeFaultIds h =
        ((injector.active.enumerate h).filter Prod.snd).map
          Prod.fst := by
    unfold FaultInjectorBase.activeFaultIds
    generalize injector.active.enumerate h = entries
    induction entries with
    | nil => rfl
    | cons entry entries ih =>
        cases hFlag : entry.2 with
        | true => simp [hFlag, ih]
        | false => simp [hFlag, ih]
  rw [hKeys]
  exact
    (UnorderedMap.nodup_enumerate_keys h
      injector.active).sublist
        (List.filter_sublist.map Prod.fst)

/- An injector's active ids are those of its active faults. -/
theorem activeFaultIds_perm
    {key : String}
    {injector : FaultInjectorBase}
    (hFlags : c.FlagsRegistered)
    (hInjector : c.injector? key = some injector) :
    (injector.activeFaultIds h).Perm
      ((injector.faultIds h).filter fun faultId =>
        faultId ∈ injector.activeFaultIds h) := by
  have hActive := nodup_activeFaultIds (h := h) injector
  rw [List.perm_ext_iff_of_nodup hActive
    ((nodup_faultIds injector).filter _)]
  intro faultId
  rw [List.mem_filter, decide_eq_true_iff]
  refine ⟨fun hMember => ⟨?_, hMember⟩, And.right⟩
  have hFlag : c.isActive key faultId = true := by
    rw [FaultInjectorBase.mem_activeFaultIds_iff] at hMember
    simp [FaultController.isActive, hInjector, hMember]
  have hHas := hFlags key faultId hFlag
  rcases hasFault_iff_faultConfig.mp hHas with ⟨fault, hFault⟩
  rcases Option.bind_eq_some_iff.mp hFault with
    ⟨other, hOther, hConfig⟩
  rw [hInjector, Option.some.injEq] at hOther
  subst hOther
  exact
    (UnorderedMap.mem_order_keys_iff _ _ _).mpr ⟨fault, hConfig⟩

/-
  In every reachable state the status lists each stored fault
  once with its flag and its parameters; the list of ids and
  the report list the same faults.
-/
theorem status_lists_store
    {factory : InjectorConfig → Bool}
    {scenario : ScenarioConfig}
    {start : FaultController}
    {actions : List Action}
    (hStarted : Started h factory scenario start)
    (hRun : run (step h) start actions = some c)
    (context : ReportContext)
    (hOrder : context.order = h)
    (runner : FaultAssertionRunner) :
    let statuses := handleGetFaultStatus h c
    (statuses.map fun status =>
        (status.injectorId, status.faultId)).Nodup ∧
      (∀ status,
        status ∈ statuses ↔
          ∃ key faultId stored,
            c.registry key faultId = some stored ∧
              status = storedStatus key faultId stored) ∧
        (handleListFaults h c).faultIds =
            statuses.map FaultStatus.faultId ∧
          (handleListFaults h c).activeFaultIds.Perm
              ((statuses.filter fun status =>
                status.state = "active").map
                  FaultStatus.faultId) ∧
            (MonitoredController.createReport context
                  ⟨c, runner⟩).faults =
              statuses.map FaultStatus.reportEntry := by
  have hFlags := flagsRegistered_of_run hStarted hRun
  refine
    ⟨nodup_statuses, fun _ => mem_statuses_iff, ?_, ?_, ?_⟩
  · unfold handleListFaults handleGetFaultStatus
    rw [listFaults_eq, List.map_flatMap]
    simp only [List.map_map, List.nil_append]
    congr 1
    funext entry
    exact (List.map_id _).symm
  · unfold handleListFaults handleGetFaultStatus
    rw [listFaults_eq, List.nil_append, List.filter_flatMap,
      List.map_flatMap]
    apply List.Perm.flatMap_left
    rintro ⟨key, injector⟩ hEntry
    have hInjector :=
      (UnorderedMap.mem_enumerate_iff _ _ _ _).mp hEntry
    refine (activeFaultIds_perm hFlags hInjector).trans ?_
    rw [List.filter_map, List.map_map]
    have hSame :
        (injector.faultIds h).filter
            ((fun status : FaultStatus =>
                decide (status.state = "active")) ∘
              faultStatus h key injector) =
          (injector.faultIds h).filter fun faultId =>
            faultId ∈ injector.activeFaultIds h :=
      List.filter_congr fun faultId _ => by
        simp [faultStatus]
    rw [hSame]
    exact .of_eq (List.map_id _).symm
  · unfold MonitoredController.createReport
      ReportCreator.createReport handleGetFaultStatus
    rw [hOrder]
    simp only [report_faults_eq, List.nil_append, List.map_flatMap,
      List.map_map]
    rfl

/-
  Whoever knows the loaded scenario, the injectors that run
  and the events published since the last load knows what the
  status service answers.
-/
theorem status_from_events
    {factory : InjectorConfig → Bool}
    {scenario : ScenarioConfig}
    {start : FaultController}
    {actions : List Action}
    (hStarted : Started h factory scenario start)
    (hRun : run (step h) start actions = some c)
    (status : FaultStatus) :
    status ∈ handleGetFaultStatus h c ↔
      ∃ key faultId stored,
        (c.publishedEvents.drop
              (eventJournal.lastMark (step h) (loads h) 0 start
                actions)).foldl
            applyEvent (loadedRegistry c.runs c.scenario) key
              faultId =
          some stored ∧
        status = storedStatus key faultId stored := by
  have hStream := streamRecorded_of_run hStarted hRun
  have hReplays : c.registry = eventJournal.replay _ _ :=
    (replaysFrom_of_started_run hStarted hRun).2
  rw [mem_statuses_iff, hReplays, hStream]
  exact Iff.rfl

end Status

------------------------------------------------------------
-- The Schema Of A Fault
------------------------------------------------------------

/- One list for each property of a field. -/
structure GetFaultSchemaResponse extends Response where
  injectorId : String := ""
  injectorType : String := ""
  keys : List String := []
  types : List String := []
  descriptions : List String := []
  defaultValues : List String := []
  hasMinValues : List Bool := []
  minValues : List ℚ := []
  hasMaxValues : List Bool := []
  maxValues : List ℚ := []
deriving DecidableEq

/-
  The schema by key. The sort of the source need not be
  stable; no schema declares a key twice.
-/
def sortedSchema
    (injector : FaultInjectorBase) : List FaultConfigField :=
  injector.configSchema.insertionSort fun a b => a.key ≤ b.key

def handleGetFaultSchema
    (h : HashOrder String)
    (faultId : String)
    (c : FaultController) : GetFaultSchemaResponse :=
  let found := do
    let key ← findInjectorForFault h c faultId
    c.injector? key
  match found with
  | none =>
      { success := false
        message := "unknown fault_id: " ++ faultId }
  | some injector =>
      let schema := sortedSchema injector
      { success := true
        message := "retrieved schema for fault_id: " ++ faultId
        injectorId := injector.id
        injectorType := injector.type
        keys := schema.map FaultConfigField.key
        types := schema.map FaultConfigField.type
        descriptions := schema.map FaultConfigField.description
        defaultValues :=
          schema.map fun field => field.defaultValue.getD ""
        hasMinValues :=
          schema.map fun field => field.minValue.isSome
        minValues :=
          schema.map fun field => field.minValue.getD 0
        hasMaxValues :=
          schema.map fun field => field.maxValue.isSome
        maxValues :=
          schema.map fun field => field.maxValue.getD 0 }

/- A bound of the response, if it is said to be one. -/
def readBound (has : Bool) (value : ℚ) : Option ℚ :=
  if has then some value else none

/- The fields that a client reads off the lists. -/
def readSchema
    (response : GetFaultSchemaResponse) :
    List FaultConfigField :=
  let minBounds :=
    response.hasMinValues.zipWith readBound response.minValues
  let maxBounds :=
    response.hasMaxValues.zipWith readBound response.maxValues
  (response.keys.zip
      (response.types.zip (minBounds.zip maxBounds))).map
    fun entry =>
      { key := entry.1
        type := entry.2.1
        minValue := entry.2.2.1
        maxValue := entry.2.2.2 }

/- What a client reads of a field. -/
def readField (field : FaultConfigField) : FaultConfigField where
  key := field.key
  type := field.type
  minValue := field.minValue
  maxValue := field.maxValue

section Schema

variable {h : HashOrder String}
variable {c : FaultController}
variable {faultId : String}

theorem readBound_getD (bound : Option ℚ) :
    readBound bound.isSome (bound.getD 0) = bound := by
  cases bound with
  | none => rfl
  | some value => rfl

theorem readSchema_eq
    {key : String}
    {injector : FaultInjectorBase}
    (hFind : findInjectorForFault h c faultId = some key)
    (hInjector : c.injector? key = some injector) :
    readSchema (handleGetFaultSchema h faultId c) =
      (sortedSchema injector).map readField := by
  unfold handleGetFaultSchema
  simp only [hFind, hInjector, Option.bind_eq_bind,
    Option.bind_some]
  generalize sortedSchema injector = schema
  unfold readSchema
  induction schema with
  | nil => rfl
  | cons field schema ih =>
      simp only [List.map_cons, List.zipWith_cons_cons,
        List.zip_cons_cons, readBound_getD]
      exact congrArg (List.cons (readField field)) ih

theorem sortedSchema_perm
    (injector : FaultInjectorBase) :
    (sortedSchema injector).Perm injector.configSchema :=
  List.perm_insertionSort _ _

/- A field is looked up alike in the sorted schema. -/
theorem findSchemaField_sortedSchema
    (injector : FaultInjectorBase)
    (key : String) :
    findSchemaField (sortedSchema injector) key =
      findSchemaField injector.configSchema key := by
  have hPerm := sortedSchema_perm injector
  have hDistinct :
      (injector.configSchema.map FaultConfigField.key).Nodup := by
    rw [configSchema_eq_builtin]
    exact nodup_schema_keys injector.type
  have hSorted :
      ((sortedSchema injector).map FaultConfigField.key).Nodup :=
    (hPerm.map _).nodup_iff.mpr hDistinct
  apply Option.ext
  intro field
  unfold findSchemaField
  rw [List.find?_eq_some_iff_of_nodup_map hSorted,
    List.find?_eq_some_iff_of_nodup_map hDistinct,
    hPerm.mem_iff]

theorem sortedSchema_ascending
    (injector : FaultInjectorBase) :
    ((sortedSchema injector).map FaultConfigField.key).Pairwise
      (· < ·) := by
  have hSorted :
      (sortedSchema injector).Pairwise fun a b =>
        a.key ≤ b.key := by
    have hTotal :
        Std.Total fun a b : FaultConfigField => a.key ≤ b.key :=
      ⟨fun a b => le_total a.key b.key⟩
    have hTrans :
        IsTrans FaultConfigField fun a b => a.key ≤ b.key :=
      ⟨fun _ _ _ => le_trans⟩
    exact List.pairwise_insertionSort _ _
  have hDistinct :
      ((sortedSchema injector).map FaultConfigField.key).Nodup := by
    rw [((sortedSchema_perm injector).map _).nodup_iff,
      configSchema_eq_builtin]
    exact nodup_schema_keys injector.type
  have hBoth := (List.pairwise_map.mpr hSorted).and hDistinct
  exact hBoth.imp fun hKeys => lt_of_le_of_ne hKeys.1 hKeys.2

/- A field as it is read accepts the same values. -/
theorem validateConfigValue_readField
    (field : FaultConfigField)
    (value : String) :
    validateConfigValue (readField field) value = none ↔
      validateConfigValue field value = none :=
  validateConfigValue_congr rfl value

theorem findSchemaField_map_readField
    (schema : List FaultConfigField)
    (key : String) :
    findSchemaField (schema.map readField) key =
      (findSchemaField schema key).map readField := by
  unfold findSchemaField
  rw [List.find?_map]
  rfl

/-
  The schema of a known fault comes as lists of one length in
  the order of the keys, and a client that reads the fields
  off them accepts exactly the updates that are accepted.
-/
theorem schema_predicts_updates
    (h : HashOrder String)
    (c : FaultController)
    {faultId : String}
    (hId : faultId ≠ "")
    (hSuccess :
      (handleGetFaultSchema h faultId c).success = true) :
    let response := handleGetFaultSchema h faultId c
    response.keys.Pairwise (· < ·) ∧
      (readSchema response).length = response.keys.length ∧
        ∀ key value,
          (∃ field,
              findSchemaField (readSchema response) key =
                  some field ∧
                validateConfigValue field value = none) ↔
            (handleSetFaultConfig h ⟨faultId, key, value⟩
                c).2.success =
              true := by
  cases hFind : findInjectorForFault h c faultId with
  | none =>
      simp [handleGetFaultSchema, hFind] at hSuccess
  | some place =>
      rcases resolveFault_of_found hId hFind with
        ⟨target, hResolve, hKey⟩
      have hInjector := (resolveFault_eq_ok hResolve).2.1
      rw [hKey] at hInjector
      have hRead := readSchema_eq hFind hInjector
      have hKeys :
          (handleGetFaultSchema h faultId c).keys =
            (sortedSchema target.injector).map
              FaultConfigField.key := by
        unfold handleGetFaultSchema
        simp [hFind, hInjector]
      refine ⟨?_, ?_, ?_⟩
      · rw [hKeys]
        exact sortedSchema_ascending target.injector
      · rw [hRead, hKeys]
        simp
      · intro key value
        rw [setFaultConfig_success_iff, hRead,
          findSchemaField_map_readField,
          findSchemaField_sortedSchema]
        constructor
        · rintro ⟨field, hField, hValid⟩
          rcases Option.map_eq_some_iff.mp hField with
            ⟨own, hOwn, rfl⟩
          exact
            ⟨target, own, hResolve, hOwn,
              (validateConfigValue_readField own value).mp
                hValid⟩
        · rintro ⟨other, own, hOther, hOwn, hValid⟩
          dsimp only at hOther
          rw [hResolve, Except.ok.injEq] at hOther
          subst hOther
          refine
            ⟨readField own, ?_,
              (validateConfigValue_readField own value).mpr
                hValid⟩
          dsimp only at hOwn
          rw [hOwn]
          rfl

end Schema

end FaultServiceManager

------------------------------------------------------------
-- Answers After A Reload
------------------------------------------------------------

namespace FaultController.WatchedRun

open FaultServiceManager Transition

def context : ReportContext where
  order := .insertion
  scenarioFile := "scenario.yaml"
  drawnSeed := fun _ => 0
  stampText := fun _ => "0.000"

/- The fault that the last request switched off. -/
def dropStatus : FaultStatus where
  faultId := "drop"
  injectorId := "base"
  state := "inactive"
  details := "manual-only, config=\x7b\x7d"

theorem status_lists_store_after_reload :
    (handleListFaults .insertion last).faultIds =
        ["bias", "drop"] ∧
      (handleListFaults .insertion last).faultIds =
        (handleGetFaultStatus .insertion last).map
          FaultStatus.faultId := by
  have hLists :=
    status_lists_store started_started run_actions context rfl
      {}
  exact ⟨by decide +kernel, hLists.2.2.1⟩

theorem status_from_events_after_reload :
    ∃ key faultId stored,
      (last.publishedEvents.drop
            (eventJournal.lastMark (step .insertion)
              (loads .insertion) 0 started actions)).foldl
          applyEvent (loadedRegistry last.runs last.scenario) key
            faultId =
        some stored ∧
      dropStatus = storedStatus key faultId stored :=
  (status_from_events started_started run_actions dropStatus).mp
    (by decide +kernel)

theorem schema_predicts_updates_after_reload :
    (handleGetFaultSchema .insertion "bias"
        last).keys.head? =
        some "delay_ms" ∧
      (handleGetFaultSchema .insertion "bias"
        last).keys.Pairwise (· < ·) := by
  have hSchema :=
    schema_predicts_updates .insertion last
      (by decide : "bias" ≠ "") (by decide +kernel)
  exact ⟨by decide +kernel, hSchema.1⟩

end FaultController.WatchedRun
