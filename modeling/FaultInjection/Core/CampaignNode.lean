import FaultInjection.Config.FileFormats
import FaultInjection.Core.ReportTables
import FaultInjection.Core.Timeouts
import FaultInjection.Foundations.PosixPaths

/-
  The program that runs a campaign file and what its exit
  status says.

  The program is a function of what it finds: the files, the
  state of ROS at each run and how each run ends.

  Key definitions include:
    * `FaultCampaignRunnerNode.World`
    * `FaultCampaignRunnerNode.resolveBaseScenario`
    * `FaultCampaignRunnerNode.prepare`
    * `FaultCampaignRunnerNode.main`
    * `FaultCampaignRunnerNode.RunPasses`

  Key theorems include:
    * `FaultCampaignRunnerNode.campaign_exit_status`
    * `FaultCampaignRunnerNode.base_scenario_beside_campaign`
-/

------------------------------------------------------------
-- The Program
------------------------------------------------------------

namespace FaultCampaignRunnerNode

open CampaignRunnerNode

/- The ROS parameters of the node. -/
structure Parameters where
  campaignFile : String := ""
  reportFile : String := ""
  timeoutOverride : Number := .zero

/-
  What the program finds. Whether ROS is up, what loading a
  scenario file yields and how executing a scenario within
  some milliseconds ends is asked for the run of a number.
-/
structure World (Node : Type) where
  yaml : CampaignYaml Node
  currentPath : String
  rosOk : Nat → Bool
  loadScenario : Nat → String → Except String ScenarioConfig
  execute :
    Nat → Int → ScenarioConfig →
      Except String ScenarioRunnerResult
  writeFile : String → String → Bool

/- A relative path is one from the directory of the campaign. -/
def resolveBaseScenario
    (currentPath campaignFile baseScenario : String) :
    String :=
  let base := PosixPath.ofString baseScenario
  if base.rooted then
    baseScenario
  else
    let campaignPath :=
      (PosixPath.ofString currentPath).append
        (PosixPath.ofString campaignFile)
    (campaignPath.parentPath.append
      base).lexicallyNormal.toString

section Program

variable {Node : Type}
variable (h : HashOrder String)
variable (world : World Node)
variable (parameters : Parameters)

/- The campaign with its base scenario where it is found. -/
def located (loaded : LoadedCampaign) : CampaignConfig :=
  { loaded.toCampaignConfig with
    baseScenario :=
      resolveBaseScenario world.currentPath
        parameters.campaignFile loaded.baseScenario }

/-
  The campaign to run and its timeout in milliseconds, or the
  error that is reported instead.
-/
def prepare : Except String (CampaignConfig × Int) :=
  if parameters.campaignFile = "" then
    .error "Missing required parameter: campaign_file"
  else
    match
      loadCampaignConfig world.yaml parameters.campaignFile
    with
    | .error what =>
        .error
          ("Failed to load campaign config '" ++
            parameters.campaignFile ++ "': " ++ what)
    | .ok loaded =>
        match
          acceptTimeout parameters.timeoutOverride
            loaded.timeout
        with
        | none =>
            .error
              ("Timeout must be finite, positive and " ++
                "representable in milliseconds")
        | some seconds =>
            .ok
              (located world parameters loaded,
                timeoutMilliseconds seconds)

/- What the campaign finds at the run of each number. -/
def surroundings
    (campaign : CampaignConfig)
    (timeout : Int)
    (n : Nat) : Surroundings where
  rosOk := world.rosOk n
  content := world.loadScenario n campaign.baseScenario
  execute := world.execute n timeout

/- What running a campaign returns. -/
def runCampaign
    (campaign : CampaignConfig)
    (timeout : Int) : CampaignRunResult :=
  campaign.run h (surroundings world campaign timeout) timeout

/- The exit status of the program. -/
def main : Nat :=
  match prepare world parameters with
  | .error _ => 1
  | .ok (campaign, timeout) =>
      let result := runCampaign h world campaign timeout
      if parameters.reportFile ≠ "" ∧
          world.writeFile parameters.reportFile
              (createCampaignReportMarkdown result) =
            false then
        1
      else if result.success then
        0
      else
        1

end Program

end FaultCampaignRunnerNode

------------------------------------------------------------
-- Successful Campaigns
------------------------------------------------------------

namespace CampaignConfig

section Success

variable (h : HashOrder String)
variable (campaign : CampaignConfig)
variable (surroundings : Nat → Surroundings)

/- The result, returned early or at the end. -/
def ended :
    Except CampaignRunResult CampaignRunResult →
      CampaignRunResult
| .ok r => r
| .error r => r

/- A pass keeps the runs that are recorded. -/
theorem length_le_walk
    (planned : List PlannedRun)
    (r : CampaignRunResult) :
    r.runs.length ≤
      (ended
        (walk h campaign surroundings planned r)).runs.length := by
  induction planned generalizing r with
  | nil => exact Nat.le_refl _
  | cons first rest ih =>
      rw [walk]
      by_cases hStop :
          stopsAt first (surroundings r.runs.length) = true
      · rw [if_pos hStop]
        simp [ended]
      · rw [if_neg hStop]
        refine Nat.le_trans ?_ (ih _)
        simp

variable {h campaign surroundings}

/-
  All records are successes exactly if those so far are and
  every run to come is made and succeeds.
-/
theorem walk_passed_iff
    (planned : List PlannedRun)
    (r : CampaignRunResult) :
    (∀ run ∈
        (ended (walk h campaign surroundings planned r)).runs,
      run.result.success = true) ↔
      (∀ run ∈ r.runs, run.result.success = true) ∧
        ∀ entry ∈ planned.zipIdx r.runs.length,
          stopsAt entry.1 (surroundings entry.2) = false ∧
            (campaign.recordOf h entry.1
                (surroundings entry.2)).result.success =
              true := by
  induction planned generalizing r with
  | nil => simp [walk, ended]
  | cons first rest ih =>
      rw [walk, List.zipIdx_cons, List.forall_mem_cons]
      by_cases hStop :
          stopsAt first (surroundings r.runs.length) = true
      · rw [if_pos hStop]
        simp [ended, hStop, shutdownRecord, PlannedRun.record,
          failedScenarioResult]
      · rw [if_neg hStop, ih,
          CampaignRunResult.runs_recordRun,
          List.forall_mem_append, List.forall_mem_singleton,
          and_assoc]
        rw [Bool.not_eq_true] at hStop
        simp only [hStop, true_and, List.length_append,
          List.length_singleton]

/- A campaign with something to do has a first run. -/
theorem plannedRuns_ne_nil
    (hVariants : campaign.variants ≠ [])
    (hRepeats : 0 < campaign.repeats) :
    campaign.plannedRuns ≠ [] := by
  rcases List.exists_cons_of_ne_nil hVariants with
    ⟨variant, variants, hVariants⟩
  have hOnce : campaign.repeats.toNat ≠ 0 := by omega
  rcases Nat.exists_eq_succ_of_ne_zero hOnce with
    ⟨repeats, hRepeats⟩
  unfold plannedRuns
  rw [hVariants, hRepeats, List.range'_succ,
    List.flatMap_cons, List.zipIdx_cons, List.flatMap_cons]
  unfold runsOfVariant
  cases hValues : variant.values with
  | nil => simp [hValues]
  | cons value values => simp [hValues]

/- A campaign succeeds when every planned run does. -/
theorem run_success_iff
    {timeout : Int}
    (hVariants : campaign.variants ≠ [])
    (hRepeats : 0 < campaign.repeats)
    (hTimeout : 0 < timeout) :
    (run h campaign surroundings timeout).success = true ↔
      ∀ entry ∈ campaign.plannedRuns.zipIdx,
        stopsAt entry.1 (surroundings entry.2) = false ∧
          (campaign.recordOf h entry.1
              (surroundings entry.2)).result.success =
            true := by
  have hRun :
      run h campaign surroundings timeout =
        ended
          (walk h campaign surroundings campaign.plannedRuns
            campaign.opened) := by
    rcases
        run_of_valid h surroundings hVariants hRepeats
          hTimeout with
      ⟨final, hWalk, hFinal⟩ | ⟨final, hWalk, hFinal⟩
    · rw [hFinal, hWalk]
      rfl
    · rw [hFinal, hWalk]
      rfl
  have hCounted :
      (run h campaign surroundings timeout).Counted :=
    counted_run hVariants hRepeats hTimeout
  rw [hCounted.success_iff, hRun, walk_passed_iff]
  have hSome :
      (ended
          (walk h campaign surroundings campaign.plannedRuns
            campaign.opened)).runs ≠
        [] := by
    rcases
        List.exists_cons_of_ne_nil
          (plannedRuns_ne_nil hVariants hRepeats) with
      ⟨first, rest, hPlanned⟩
    rw [hPlanned, walk]
    split
    · simp [ended]
    · intro hNone
      have hLength :=
        length_le_walk h campaign surroundings rest
          (campaign.opened.recordRun
            (campaign.recordOf h first
              (surroundings campaign.opened.runs.length)))
      rw [hNone] at hLength
      simp at hLength
  have hStart :
      ∀ run ∈ campaign.opened.runs,
        run.result.success = true := by
    simp [opened]
  exact
    ⟨fun hAll => hAll.2.2, fun hAll => ⟨hSome, hStart, hAll⟩⟩

end Success

end CampaignConfig

------------------------------------------------------------
-- The Exit Status
------------------------------------------------------------

namespace FaultCampaignRunnerNode

open CampaignRunnerNode CampaignConfig

section ExitStatus

variable {Node : Type}

/-
  A planned run is made and passes: ROS is up, the base
  scenario is loaded, the value is stored with a fault of it,
  the scenario made so is valid and its execution succeeds.
-/
def RunPasses
    (h : HashOrder String)
    (world : World Node)
    (campaign : CampaignConfig)
    (timeout : Int)
    (entry : PlannedRun × Nat) : Prop :=
  world.rosOk entry.2 = true ∧
    ∃ value base scenario result,
      entry.1.value = some value ∧
        world.loadScenario entry.2 campaign.baseScenario =
            .ok base ∧
          applyCampaignValue base entry.1.variant value =
              .ok scenario ∧
            (validateScenario h scenario).ok = true ∧
              world.execute entry.2 timeout scenario =
                  .ok result ∧
                result.success = true

theorem generateScenario_eq_ok_iff
    {h : HashOrder String}
    {baseScenario : String}
    {content : Except String ScenarioConfig}
    {variant : CampaignVariant}
    {value : String}
    {scenario : ScenarioConfig} :
    CampaignRunner.generateScenario h baseScenario content
          variant value =
        .ok scenario ↔
      ∃ base,
        content = .ok base ∧
          applyCampaignValue base variant value =
              .ok scenario ∧
            (validateScenario h scenario).ok = true := by
  unfold CampaignRunner.generateScenario
  cases content with
  | error what => simp
  | ok base =>
      simp only [Except.ok.injEq, exists_eq_left']
      cases hApply : applyCampaignValue base variant value with
      | error message => simp
      | ok generated =>
          simp only [Except.ok.injEq]
          constructor
          · intro hValid
            split at hValid
            · rename_i hOk
              cases hValid
              exact ⟨rfl, hOk⟩
            · cases hValid
          · rintro ⟨rfl, hOk⟩
            rw [if_pos hOk]

/- The record of a planned run is that of a run that passes. -/
theorem recordOf_success_iff
    (h : HashOrder String)
    (world : World Node)
    (campaign : CampaignConfig)
    (timeout : Int)
    (entry : PlannedRun × Nat) :
    (stopsAt entry.1
            (surroundings world campaign timeout entry.2) =
          false ∧
        (campaign.recordOf h entry.1
            (surroundings world campaign timeout
              entry.2)).result.success =
          true) ↔
      RunPasses h world campaign timeout entry := by
  rcases entry with ⟨planned, n⟩
  unfold RunPasses stopsAt recordOf
  cases hValue : planned.value with
  | none =>
      simp [PlannedRun.record, failedScenarioResult]
  | some value =>
      simp only [Option.isSome_some, Bool.true_and,
        Bool.not_eq_false', surroundings, runScenario]
      refine and_congr_right fun _ => ?_
      cases hGenerate :
          CampaignRunner.generateScenario h
            campaign.baseScenario
            (world.loadScenario n campaign.baseScenario)
            planned.variant value with
      | error message =>
          simp only [failedScenarioResult, Bool.false_eq_true,
            false_iff]
          rintro
            ⟨_, base, scenario, _, ⟨⟩, hLoad, hApply, hOk, _⟩
          rw [generateScenario_eq_ok_iff.mpr
            ⟨base, hLoad, hApply, hOk⟩] at hGenerate
          cases hGenerate
      | ok scenario =>
          simp only
          constructor
          · intro hSuccess
            rcases generateScenario_eq_ok_iff.mp hGenerate with
              ⟨base, hLoad, hApply, hOk⟩
            cases hExecute :
                world.execute n timeout scenario with
            | error what =>
                simp [hExecute, CampaignRunner.resultOf,
                  failedScenarioResult] at hSuccess
            | ok result =>
                rw [hExecute] at hSuccess
                exact
                  ⟨value, base, scenario, result, rfl, hLoad,
                    hApply, hOk, hExecute, hSuccess⟩
          · rintro
              ⟨_, base, other, result, ⟨⟩, hLoad, hApply, hOk,
                hExecute, hSuccess⟩
            rw [generateScenario_eq_ok_iff.mpr
              ⟨base, hLoad, hApply, hOk⟩] at hGenerate
            cases hGenerate
            rw [hExecute]
            exact hSuccess

/- The campaign that the file and the parameters describe. -/
def Prepares
    (world : World Node)
    (parameters : Parameters)
    (loaded : LoadedCampaign)
    (seconds : ℚ) : Prop :=
  parameters.campaignFile ≠ "" ∧
    loadCampaignConfig world.yaml parameters.campaignFile =
        .ok loaded ∧
      acceptTimeout parameters.timeoutOverride loaded.timeout =
        some seconds

/- The parameters fix the campaign and its timeout. -/
theorem Prepares.unique
    {world : World Node}
    {parameters : Parameters}
    {loaded other : LoadedCampaign}
    {seconds otherSeconds : ℚ}
    (hPrepares : Prepares world parameters loaded seconds)
    (hOther : Prepares world parameters other otherSeconds) :
    loaded = other ∧ seconds = otherSeconds := by
  rcases hPrepares with ⟨_, hLoad, hSeconds⟩
  rcases hOther with ⟨_, hLoadOther, hSecondsOther⟩
  rw [hLoad] at hLoadOther
  cases hLoadOther
  rw [hSeconds] at hSecondsOther
  cases hSecondsOther
  exact ⟨rfl, rfl⟩

theorem prepare_eq_ok_iff
    {world : World Node}
    {parameters : Parameters}
    {campaign : CampaignConfig}
    {timeout : Int} :
    prepare world parameters = .ok (campaign, timeout) ↔
      ∃ loaded seconds,
        Prepares world parameters loaded seconds ∧
          campaign = located world parameters loaded ∧
            timeout = timeoutMilliseconds seconds := by
  unfold prepare Prepares
  by_cases hFile : parameters.campaignFile = ""
  · simp [hFile]
  · rw [if_neg hFile]
    cases hLoad :
        loadCampaignConfig world.yaml
          parameters.campaignFile with
    | error what => simp
    | ok loaded =>
        simp only
        cases hAccept :
            acceptTimeout parameters.timeoutOverride
              loaded.timeout with
        | none =>
            simp only [reduceCtorEq, false_iff]
            rintro ⟨_, _, ⟨_, ⟨⟩, hSeconds⟩, _⟩
            rw [hAccept] at hSeconds
            cases hSeconds
        | some seconds =>
            simp only [Except.ok.injEq, Prod.mk.injEq]
            constructor
            · rintro ⟨rfl, rfl⟩
              exact
                ⟨loaded, seconds, ⟨hFile, rfl, hAccept⟩, rfl,
                  rfl⟩
            · rintro ⟨_, _, ⟨_, ⟨⟩, hSeconds⟩, rfl, rfl⟩
              rw [hAccept] at hSeconds
              cases hSeconds
              exact ⟨rfl, rfl⟩

/- A campaign without time for its runs has a failed one. -/
theorem run_of_no_time
    {h : HashOrder String}
    {campaign : CampaignConfig}
    {surroundings : Nat → Surroundings}
    {timeout : Int}
    (hNone : timeout ≤ 0) :
    (campaign.run h surroundings timeout).success = false := by
  unfold CampaignConfig.run
  rw [if_pos (Or.inr (Or.inr hNone))]
  rfl

/- The prepared campaign succeeds when all its runs pass. -/
theorem runCampaign_success_iff
    {h : HashOrder String}
    {world : World Node}
    {parameters : Parameters}
    {loaded : LoadedCampaign}
    {seconds : ℚ}
    (hPrepares : Prepares world parameters loaded seconds) :
    (runCampaign h world (located world parameters loaded)
          (timeoutMilliseconds seconds)).success =
        true ↔
      1 - 1 / 2 ^ 54 ≤ seconds * 1000 ∧
        ∀ entry ∈
            (located world parameters
              loaded).plannedRuns.zipIdx,
          RunPasses h world (located world parameters loaded)
            (timeoutMilliseconds seconds) entry := by
  rcases hPrepares with ⟨_, hLoad, _⟩
  rcases Except.bind_eq_ok_iff.mp hLoad with
    ⟨root, _, hParse⟩
  have hLoadable := LoadedCampaign.loadable_of_parse hParse
  rw [← timeoutMilliseconds_pos_iff]
  by_cases hTime : 0 < timeoutMilliseconds seconds
  · have hVariants :
        (located world parameters loaded).variants ≠ [] :=
      hLoadable.variants
    have hRepeats :
        0 < (located world parameters loaded).repeats :=
      hLoadable.repeats
    unfold runCampaign
    rw [run_success_iff hVariants hRepeats hTime]
    simp only [hTime, true_and]
    exact
      forall₂_congr fun entry _ =>
        recordOf_success_iff h world _ _ entry
  · unfold runCampaign
    rw [run_of_no_time (not_lt.mp hTime)]
    simp [hTime]

/- A prepared campaign decides the exit status. -/
theorem main_eq_zero_iff_of_prepared
    {h : HashOrder String}
    {world : World Node}
    {parameters : Parameters}
    {campaign : CampaignConfig}
    {timeout : Int}
    (hPrepare :
      prepare world parameters = .ok (campaign, timeout)) :
    main h world parameters = 0 ↔
      (parameters.reportFile = "" ∨
          world.writeFile parameters.reportFile
              (createCampaignReportMarkdown
                (runCampaign h world campaign timeout)) =
            true) ∧
        (runCampaign h world campaign timeout).success =
          true := by
  unfold main
  rw [hPrepare]
  simp only
  split
  · rename_i hLost
    simp [hLost.1, hLost.2]
  · rename_i hWritten
    rw [not_and_or, not_not, Bool.not_eq_false] at hWritten
    simp [hWritten]

/-
  The program reports success exactly if a campaign file is
  given and loaded, the timeout is accepted and rounds to at
  least a millisecond, every planned run is made and passes
  and the report is written if one is asked for.
-/
theorem campaign_exit_status
    (h : HashOrder String)
    (world : World Node)
    (parameters : Parameters) :
    main h world parameters = 0 ↔
      ∃ loaded seconds,
        Prepares world parameters loaded seconds ∧
          1 - 1 / 2 ^ 54 ≤ seconds * 1000 ∧
            let campaign := located world parameters loaded
            let timeout := timeoutMilliseconds seconds
            (∀ entry ∈ campaign.plannedRuns.zipIdx,
              RunPasses h world campaign timeout entry) ∧
              (parameters.reportFile = "" ∨
                world.writeFile parameters.reportFile
                    (createCampaignReportMarkdown
                      (runCampaign h world campaign
                        timeout)) =
                  true) := by
  cases hPrepare : prepare world parameters with
  | error what =>
      unfold main
      rw [hPrepare]
      simp only [Nat.one_ne_zero, false_iff]
      rintro ⟨loaded, seconds, hPrepares, _⟩
      rw [prepare_eq_ok_iff.mpr
        ⟨loaded, seconds, hPrepares, rfl, rfl⟩] at hPrepare
      cases hPrepare
  | ok prepared =>
      rcases prepared with ⟨campaign, timeout⟩
      rw [main_eq_zero_iff_of_prepared hPrepare]
      rcases prepare_eq_ok_iff.mp hPrepare with
        ⟨loaded, seconds, hPrepares, rfl, rfl⟩
      rw [runCampaign_success_iff hPrepares]
      constructor
      · rintro ⟨hReport, hTime, hRuns⟩
        exact
          ⟨loaded, seconds, hPrepares, hTime, hRuns, hReport⟩
      · rintro
          ⟨other, otherSeconds, hOther, hTime, hRuns, hReport⟩
        rcases hPrepares.unique hOther with ⟨rfl, rfl⟩
        exact ⟨hReport, hTime, hRuns⟩

end ExitStatus

------------------------------------------------------------
-- The Base Scenario
------------------------------------------------------------

section Paths

open PosixPath

variable {isDirectory : List FileName → Bool}
variable {start cwd file place : List FileName}

/-
  The base scenario is looked for in the directory of the
  campaign file. The path that is loaded leads there from
  anywhere, and a relative one becomes the place itself.
-/
theorem base_scenario_beside_campaign
    {currentPath campaignFile baseScenario : String}
    (hTree : IsTree isDirectory)
    (hRooted : (ofString currentPath).rooted = true)
    (hCwd :
      locate isDirectory start (ofString currentPath) =
        some cwd)
    (hFile :
      locate isDirectory cwd (ofString campaignFile) =
        some file)
    (hPlain : isDirectory file = false)
    (hBase :
      locate isDirectory file.dropLast
          (ofString baseScenario) =
        some place) :
    let resolved :=
      ofString
        (resolveBaseScenario currentPath campaignFile
          baseScenario)
    (∀ anywhere,
      locate isDirectory anywhere resolved = some place) ∧
      ((ofString baseScenario).rooted = false →
        resolved.rooted = true ∧ resolved.names = place) := by
  cases hAbsolute : (ofString baseScenario).rooted with
  | true =>
      rw [resolveBaseScenario, if_pos hAbsolute]
      refine ⟨fun anywhere => ?_, by simp⟩
      rw [← hBase]
      exact locate_of_rooted hAbsolute _ _
  | false =>
      have hFound := locate_append hCwd hFile
      have hFrom :
          ((ofString currentPath).append
              (ofString campaignFile)).rooted =
            true := by
        rw [rooted_append, hRooted, Bool.or_true]
      have hDirectory :=
        locate_parentPath hTree hFrom hFound hPlain
      have hPlace := locate_append hDirectory hBase
      have hStart :
          (((ofString currentPath).append
                (ofString campaignFile)).parentPath.append
              (ofString baseScenario)).rooted =
            true := by
        rw [rooted_append, hAbsolute]
        exact hFrom
      have hNames := names_lexicallyNormal hStart hPlace
      rw [resolveBaseScenario, if_neg (by simp [hAbsolute]),
        ofString_toString]
      refine ⟨fun anywhere => ?_, fun _ => hNames⟩
      rw [locate_of_rooted hNames.1 anywhere start]
      exact locate_lexicallyNormal hPlace

end Paths

------------------------------------------------------------
-- A Campaign Beside Its Scenarios
------------------------------------------------------------

namespace BesideScenarios

open PosixPath

/- The directories of a small file system. -/
def isDirectory (place : List FileName) : Bool :=
  place.map FileName.text ∈
    [[], ["work"], ["work", "sweeps"], ["work", "base"]]

theorem isTree : IsTree isDirectory where
  root := by decide
  parent := by
    intro place hPlace
    unfold isDirectory at hPlace ⊢
    rw [decide_eq_true_eq] at hPlace
    rw [decide_eq_true_eq, List.map_dropLast]
    simp only [List.mem_cons, List.not_mem_nil, or_false]
      at hPlace
    rcases hPlace with hPlace | hPlace | hPlace | hPlace
    all_goals
      rw [hPlace]
      decide

def work : FileName := ⟨"work", by decide, by decide⟩
def sweeps : FileName := ⟨"sweeps", by decide, by decide⟩
def base : FileName := ⟨"base", by decide, by decide⟩
def bias : FileName := ⟨"bias.yaml", by decide, by decide⟩
def odom : FileName := ⟨"odom.yaml", by decide, by decide⟩

/- A scenario in a directory next to that of the campaign. -/
theorem base_scenario_beside_bias_campaign :
    let resolved :=
      ofString
        (resolveBaseScenario "/work" "sweeps//bias.yaml"
          "../base/./odom.yaml")
    (∀ anywhere,
      locate isDirectory anywhere resolved =
        some [work, base, odom]) ∧
      ((ofString "../base/./odom.yaml").rooted = false →
        resolved.rooted = true ∧
          resolved.names = [work, base, odom]) := by
  have hCwd :
      locate isDirectory [] (ofString "/work") =
        some [work] := by
    decide +kernel
  have hFile :
      locate isDirectory [work] (ofString "sweeps//bias.yaml") =
        some [work, sweeps, bias] := by
    decide +kernel
  have hBase :
      locate isDirectory [work, sweeps]
          (ofString "../base/./odom.yaml") =
        some [work, base, odom] := by
    decide +kernel
  exact
    base_scenario_beside_campaign isTree (by decide +kernel)
      hCwd hFile (by decide +kernel) hBase

end BesideScenarios

end FaultCampaignRunnerNode
