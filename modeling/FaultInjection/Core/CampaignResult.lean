import FaultInjection.Core.CampaignRunner

/-
  What a campaign returns: the records of its runs and the
  counters kept beside them.

  The three nested loops of the runner return early when ROS
  was shut down. They are compared with one pass over the
  planned runs, and the steps of the campaign with the loops.

  Key definitions include:
    * `CampaignRunResult.recordRun`
    * `CampaignConfig.runScenario`
    * `CampaignConfig.runRepeats`
    * `CampaignConfig.run`
    * `CampaignConfig.recordOf`

  Key theorems include:
    * `CampaignConfig.runRepeats_eq_walk`
    * `CampaignConfig.campaign_records`
    * `CampaignRunner.records_of_finished`
-/

------------------------------------------------------------
-- Campaign Results
------------------------------------------------------------

/- The records of a campaign and what was counted on the way. -/
structure CampaignRunResult where
  campaignName : String := ""
  totalRuns : Nat := 0
  passedRuns : Nat := 0
  failedRuns : Nat := 0
  runs : List CampaignScenarioRun := []
deriving DecidableEq

namespace CampaignRunResult

def success (r : CampaignRunResult) : Bool :=
  decide (0 < r.totalRuns) && decide (r.failedRuns = 0)

/- Count a run and keep its record. -/
def recordRun
    (r : CampaignRunResult)
    (run : CampaignScenarioRun) : CampaignRunResult :=
  let counted := { r with totalRuns := r.totalRuns + 1 }
  let judged :=
    if run.result.success then
      { counted with passedRuns := counted.passedRuns + 1 }
    else
      { counted with failedRuns := counted.failedRuns + 1 }
  { judged with runs := judged.runs ++ [run] }

/- The counters agree with the records. -/
structure Counted (r : CampaignRunResult) : Prop where
  total : r.totalRuns = r.runs.length
  passed :
    r.passedRuns = r.runs.countP fun run => run.result.success
  failed :
    r.failedRuns = r.runs.countP fun run => !run.result.success

@[simp] theorem runs_recordRun
    (r : CampaignRunResult)
    (run : CampaignScenarioRun) :
    (r.recordRun run).runs = r.runs ++ [run] := by
  unfold recordRun
  cases run.result.success <;> rfl

theorem Counted.recordRun
    {r : CampaignRunResult}
    (hCounted : r.Counted)
    (run : CampaignScenarioRun) :
    (r.recordRun run).Counted := by
  rcases hCounted with ⟨hTotal, hPassed, hFailed⟩
  cases hSuccess : run.result.success with
  | true =>
      constructor <;>
        simp [CampaignRunResult.recordRun, hSuccess, hTotal,
          hPassed, hFailed]
  | false =>
      constructor <;>
        simp [CampaignRunResult.recordRun, hSuccess, hTotal,
          hPassed, hFailed]

/- Every run is counted once, as passed or as failed. -/
theorem Counted.sum
    {r : CampaignRunResult}
    (hCounted : r.Counted) :
    r.passedRuns + r.failedRuns = r.totalRuns := by
  have hSplit :=
    List.length_eq_countP_add_countP
      (fun run : CampaignScenarioRun => run.result.success)
      (l := r.runs)
  rw [hCounted.passed, hCounted.failed, hCounted.total]
  simpa using hSplit.symm

theorem Counted.success_iff
    {r : CampaignRunResult}
    (hCounted : r.Counted) :
    r.success = true ↔
      r.runs ≠ [] ∧
        ∀ run ∈ r.runs, run.result.success = true := by
  have hSome : 0 < r.totalRuns ↔ r.runs ≠ [] := by
    rw [hCounted.total, List.length_pos_iff]
  have hNone :
      r.failedRuns = 0 ↔
        ∀ run ∈ r.runs, run.result.success = true := by
    rw [hCounted.failed, List.countP_eq_zero]
    simp
  rw [success, Bool.and_eq_true, decide_eq_true_iff,
    decide_eq_true_iff, hSome, hNone]

end CampaignRunResult

------------------------------------------------------------
-- The Loops
------------------------------------------------------------

/-
  What a campaign finds when it turns to a value: whether ROS
  is up, what loading the base scenario yields, and how
  running the generated scenario ends.
-/
structure Surroundings where
  rosOk : Bool
  content : Except String ScenarioConfig
  execute : ScenarioConfig → Except String ScenarioRunnerResult

namespace CampaignConfig

/- One run, with the four ways in which it can fail. -/
def runScenario
    (h : HashOrder String)
    (campaign : CampaignConfig)
    (found : Surroundings)
    (repeatNumber : Nat)
    (variantIndex : Nat)
    (variant : CampaignVariant)
    (value : String) : CampaignScenarioRun where
  repeatNumber := repeatNumber
  variantIndex := variantIndex
  faultId := variant.faultId
  key := variant.key
  value := value
  result :=
    match
      CampaignRunner.generateScenario h campaign.baseScenario
        found.content variant value
    with
    | .error message => failedScenarioResult message
    | .ok scenario =>
        CampaignRunner.resultOf (found.execute scenario)

section Loops

variable (h : HashOrder String)
variable (campaign : CampaignConfig)

/- What is found at the run of each number. -/
variable (surroundings : Nat → Surroundings)

/-
  The loop over the values of a variant. An error is the
  result that is returned before the loops are done.
-/
def runValues
    (repeatNumber : Nat)
    (variantIndex : Nat)
    (variant : CampaignVariant) :
    List String →
      CampaignRunResult →
        Except CampaignRunResult CampaignRunResult
| [], r => .ok r
| value :: values, r =>
    let found := surroundings r.runs.length
    if found.rosOk = false then
      .error
        (r.recordRun
          { repeatNumber := repeatNumber
            variantIndex := variantIndex
            faultId := variant.faultId
            key := variant.key
            value := value
            result :=
              failedScenarioResult
                "ROS shutdown before campaign completed" })
    else
      runValues repeatNumber variantIndex variant values
        (r.recordRun
          (campaign.runScenario h found repeatNumber
            variantIndex variant value))

/- The body of the loop over the variants. -/
def runVariant
    (repeatNumber : Nat)
    (variantIndex : Nat)
    (variant : CampaignVariant)
    (r : CampaignRunResult) :
    Except CampaignRunResult CampaignRunResult :=
  let entered :=
    if variant.values.isEmpty then
      r.recordRun
        { repeatNumber := repeatNumber
          variantIndex := variantIndex
          faultId := variant.faultId
          key := variant.key
          value := ""
          result :=
            failedScenarioResult
              "campaign variant has no values" }
    else
      r
  runValues h campaign surroundings repeatNumber variantIndex
    variant variant.values entered

/- The loop over the variants, from the given index. -/
def runVariants
    (repeatNumber : Nat) :
    Nat →
      List CampaignVariant →
        CampaignRunResult →
          Except CampaignRunResult CampaignRunResult
| _, [], r => .ok r
| index, variant :: variants, r =>
    (runVariant h campaign surroundings repeatNumber
      (index + 1) variant r).bind
      fun next =>
        runVariants repeatNumber (index + 1) variants next

/- The loop over the repeats, with so many still to do. -/
def runRepeats :
    Nat →
      Nat →
        CampaignRunResult →
          Except CampaignRunResult CampaignRunResult
| 0, _, r => .ok r
| remaining + 1, repeatNumber, r =>
    (runVariants h campaign surroundings repeatNumber 0
      campaign.variants r).bind
      fun next => runRepeats remaining (repeatNumber + 1) next

/- The result of a campaign, returned early or at its end. -/
def run (timeout : Int) : CampaignRunResult :=
  let campaignResult : CampaignRunResult :=
    { campaignName := campaign.name }
  if campaign.variants.isEmpty ∨ campaign.repeats ≤ 0 ∨
      timeout ≤ 0 then
    campaignResult.recordRun
      { repeatNumber := 0, variantIndex := 0,
        faultId := "", key := "", value := "",
        result :=
          failedScenarioResult
            ("campaign requires variants, " ++
              "positive repeats and a positive timeout") }
  else
    match
      runRepeats h campaign surroundings campaign.repeats.toNat
        1 campaignResult
    with
    | .ok r => r
    | .error r => r

end Loops

end CampaignConfig

------------------------------------------------------------
-- One Pass Over The Planned Runs
------------------------------------------------------------

namespace CampaignConfig

section Walk

variable (h : HashOrder String)
variable (campaign : CampaignConfig)
variable (surroundings : Nat → Surroundings)

/- The record of a planned run that is not cut short. -/
def recordOf
    (planned : PlannedRun)
    (found : Surroundings) : CampaignScenarioRun :=
  match planned.value with
  | none =>
      planned.record
        (failedScenarioResult "campaign variant has no values")
  | some value =>
      campaign.runScenario h found planned.repeatNumber
        planned.variantIndex planned.variant value

/- The record of the value that ROS was shut down before. -/
def shutdownRecord (planned : PlannedRun) : CampaignScenarioRun :=
  planned.record
    (failedScenarioResult "ROS shutdown before campaign completed")

/- ROS is looked at before a value only. -/
def stopsAt
    (planned : PlannedRun)
    (found : Surroundings) : Bool :=
  planned.value.isSome && !found.rosOk

/- Do the planned runs in order, until ROS is shut down. -/
def walk :
    List PlannedRun →
      CampaignRunResult →
        Except CampaignRunResult CampaignRunResult
| [], r => .ok r
| planned :: rest, r =>
    let found := surroundings r.runs.length
    if stopsAt planned found then
      .error (r.recordRun (shutdownRecord planned))
    else
      walk rest (r.recordRun (campaign.recordOf h planned found))

theorem walk_append
    (before after : List PlannedRun)
    (r : CampaignRunResult) :
    walk h campaign surroundings (before ++ after) r =
      (walk h campaign surroundings before r).bind
        (walk h campaign surroundings after) := by
  induction before generalizing r with
  | nil => rfl
  | cons planned rest ih =>
      rw [List.cons_append, walk, walk]
      by_cases hStop :
          stopsAt planned (surroundings r.runs.length) = true
      · rw [if_pos hStop, if_pos hStop]
        rfl
      · rw [if_neg hStop, if_neg hStop]
        exact ih _

/- The loop over the values does the planned runs of them. -/
theorem runValues_eq_walk
    (repeatNumber variantIndex : Nat)
    (variant : CampaignVariant)
    (values : List String)
    (r : CampaignRunResult) :
    runValues h campaign surroundings repeatNumber variantIndex
        variant values r =
      walk h campaign surroundings
        (values.map fun value =>
          ⟨repeatNumber, variantIndex, variant, some value⟩)
        r := by
  induction values generalizing r with
  | nil => rfl
  | cons value values ih =>
      rw [List.map_cons, runValues, walk]
      cases hOk : (surroundings r.runs.length).rosOk with
      | true => simpa [hOk, stopsAt, recordOf] using ih _
      | false =>
          simp [hOk, stopsAt, shutdownRecord, PlannedRun.record]

/- One failed record stands for a variant without values. -/
theorem runVariant_eq_walk
    (repeatNumber variantIndex : Nat)
    (variant : CampaignVariant)
    (r : CampaignRunResult) :
    runVariant h campaign surroundings repeatNumber variantIndex
        variant r =
      walk h campaign surroundings
        (runsOfVariant repeatNumber (variant, variantIndex))
        r := by
  rw [runVariant, runValues_eq_walk, runsOfVariant]
  cases hValues : variant.values with
  | nil =>
      simp [walk, stopsAt, recordOf, PlannedRun.record]
  | cons value values => simp

theorem runVariants_eq_walk
    (repeatNumber index : Nat)
    (variants : List CampaignVariant)
    (r : CampaignRunResult) :
    runVariants h campaign surroundings repeatNumber index
        variants r =
      walk h campaign surroundings
        ((variants.zipIdx (index + 1)).flatMap
          (runsOfVariant repeatNumber))
        r := by
  induction variants generalizing index r with
  | nil => rfl
  | cons variant variants ih =>
      rw [runVariants, runVariant_eq_walk, List.zipIdx_cons,
        List.flatMap_cons, walk_append]
      exact congrArg _ (funext fun next => ih (index + 1) next)

/- The nested loops do the planned runs in their order. -/
theorem runRepeats_eq_walk
    (remaining repeatNumber : Nat)
    (r : CampaignRunResult) :
    runRepeats h campaign surroundings remaining repeatNumber r =
      walk h campaign surroundings
        ((List.range' repeatNumber remaining).flatMap
          fun number =>
            (campaign.variants.zipIdx 1).flatMap
              (runsOfVariant number))
        r := by
  induction remaining generalizing repeatNumber r with
  | zero => rfl
  | succ remaining ih =>
      rw [runRepeats, runVariants_eq_walk, List.range'_succ,
        List.flatMap_cons, walk_append]
      exact congrArg _
        (funext fun next => ih (repeatNumber + 1) next)

/- A pass that is not stopped records every planned run. -/
theorem walk_of_forall
    {planned : List PlannedRun}
    {r : CampaignRunResult}
    (hGoOn :
      ∀ entry ∈ planned.zipIdx r.runs.length,
        stopsAt entry.1 (surroundings entry.2) = false) :
    ∃ final,
      walk h campaign surroundings planned r = .ok final ∧
        final.runs =
          r.runs ++
            (planned.zipIdx r.runs.length).map fun entry =>
              campaign.recordOf h entry.1
                (surroundings entry.2) := by
  induction planned generalizing r with
  | nil => exact ⟨r, rfl, by simp⟩
  | cons first rest ih =>
      simp only [List.zipIdx_cons, List.mem_cons,
        forall_eq_or_imp] at hGoOn
      rcases hGoOn with ⟨hFirst, hRest⟩
      rw [walk, hFirst]
      have hNext :=
        ih
          (r := r.recordRun
            (campaign.recordOf h first
              (surroundings r.runs.length)))
          (by simpa using hRest)
      rcases hNext with ⟨final, hFinal, hRuns⟩
      refine ⟨final, by simpa using hFinal, ?_⟩
      rw [hRuns]
      simp

/- A pass keeps the counters in agreement with the records. -/
theorem counted_walk
    (planned : List PlannedRun)
    {r : CampaignRunResult}
    (hCounted : r.Counted) :
    (∀ final,
        walk h campaign surroundings planned r = .ok final →
          final.Counted) ∧
      ∀ final,
        walk h campaign surroundings planned r = .error final →
          final.Counted := by
  induction planned generalizing r with
  | nil =>
      constructor
      · intro final hFinal
        rw [walk, Except.ok.injEq] at hFinal
        rw [← hFinal]
        exact hCounted
      · intro final hFinal
        cases hFinal
  | cons first rest ih =>
      rw [walk]
      by_cases hStop :
          stopsAt first (surroundings r.runs.length) = true
      · rw [if_pos hStop]
        constructor
        · intro final hFinal
          cases hFinal
        · intro final hFinal
          rw [Except.error.injEq] at hFinal
          rw [← hFinal]
          exact hCounted.recordRun _
      · rw [if_neg hStop]
        exact ih (hCounted.recordRun _)

end Walk

end CampaignConfig

------------------------------------------------------------
-- Campaign Records
------------------------------------------------------------

namespace CampaignConfig

variable {h : HashOrder String}
variable {campaign : CampaignConfig}
variable {surroundings : Nat → Surroundings}
variable {timeout : Int}

/- What a campaign that passes its first check starts with. -/
def opened (campaign : CampaignConfig) : CampaignRunResult where
  campaignName := campaign.name

theorem counted_opened
    (campaign : CampaignConfig) :
    campaign.opened.Counted := by
  constructor <;> rfl

theorem run_of_valid
    (h : HashOrder String)
    (surroundings : Nat → Surroundings)
    (hVariants : campaign.variants ≠ [])
    (hRepeats : 0 < campaign.repeats)
    (hTimeout : 0 < timeout) :
    (∃ final,
      walk h campaign surroundings campaign.plannedRuns
          campaign.opened = .ok final ∧
        run h campaign surroundings timeout = final) ∨
      ∃ final,
        walk h campaign surroundings campaign.plannedRuns
            campaign.opened = .error final ∧
          run h campaign surroundings timeout = final := by
  have hValid :
      ¬ (campaign.variants.isEmpty = true ∨
        campaign.repeats ≤ 0 ∨ timeout ≤ 0) := by
    rw [List.isEmpty_iff]
    intro hInvalid
    rcases hInvalid with hNone | hZero | hNow
    · exact hVariants hNone
    · omega
    · omega
  have hLoops :=
    runRepeats_eq_walk h campaign surroundings
      campaign.repeats.toNat 1 campaign.opened
  rw [← plannedRuns] at hLoops
  rw [run, if_neg hValid, ← opened, hLoops]
  cases hWalk :
      walk h campaign surroundings campaign.plannedRuns
        campaign.opened with
  | ok final => exact Or.inl ⟨final, rfl, rfl⟩
  | error final => exact Or.inr ⟨final, rfl, rfl⟩

/- Nothing stops the campaign: every planned run is recorded. -/
theorem runs_of_up
    (hVariants : campaign.variants ≠ [])
    (hRepeats : 0 < campaign.repeats)
    (hTimeout : 0 < timeout)
    (hUp :
      ∀ entry ∈ campaign.plannedRuns.zipIdx,
        stopsAt entry.1 (surroundings entry.2) = false) :
    (run h campaign surroundings timeout).runs =
      campaign.plannedRuns.zipIdx.map fun entry =>
        campaign.recordOf h entry.1 (surroundings entry.2) := by
  rcases walk_of_forall h campaign surroundings
      (r := campaign.opened) hUp with ⟨final, hFinal, hRuns⟩
  rcases run_of_valid h surroundings hVariants hRepeats hTimeout with
    ⟨ended, hEnded, hRun⟩ | ⟨ended, hEnded, hRun⟩
  · rw [hFinal, Except.ok.injEq] at hEnded
    rw [hRun, ← hEnded, hRuns]
    rfl
  · rw [hFinal] at hEnded
    cases hEnded

/- The campaign stops before a value: one failed record more. -/
theorem runs_of_shutdown
    {before after : List PlannedRun}
    {planned : PlannedRun}
    (hVariants : campaign.variants ≠ [])
    (hRepeats : 0 < campaign.repeats)
    (hTimeout : 0 < timeout)
    (hSplit : campaign.plannedRuns = before ++ planned :: after)
    (hUp :
      ∀ entry ∈ before.zipIdx,
        stopsAt entry.1 (surroundings entry.2) = false)
    (hDown :
      stopsAt planned (surroundings before.length) = true) :
    (run h campaign surroundings timeout).runs =
      (before.zipIdx.map fun entry =>
        campaign.recordOf h entry.1 (surroundings entry.2)) ++
        [shutdownRecord planned] := by
  rcases walk_of_forall h campaign surroundings
      (r := campaign.opened) hUp with ⟨passed, hPassed, hRuns⟩
  have hLength : passed.runs.length = before.length := by
    simp [hRuns, opened]
  have hWalk :
      walk h campaign surroundings campaign.plannedRuns
          campaign.opened =
        .error (passed.recordRun (shutdownRecord planned)) := by
    rw [hSplit, walk_append, hPassed, Except.bind, walk,
      hLength, if_pos hDown]
  rcases run_of_valid h surroundings hVariants hRepeats hTimeout with
    ⟨ended, hEnded, hRun⟩ | ⟨ended, hEnded, hRun⟩
  · rw [hWalk] at hEnded
    cases hEnded
  · rw [hWalk, Except.error.injEq] at hEnded
    rw [hRun, ← hEnded, CampaignRunResult.runs_recordRun, hRuns]
    rfl

theorem counted_run
    (hVariants : campaign.variants ≠ [])
    (hRepeats : 0 < campaign.repeats)
    (hTimeout : 0 < timeout) :
    (run h campaign surroundings timeout).Counted := by
  have hCounted :=
    counted_walk h campaign surroundings campaign.plannedRuns
      (counted_opened campaign)
  rcases run_of_valid h surroundings hVariants hRepeats hTimeout with
    ⟨ended, hEnded, hRun⟩ | ⟨ended, hEnded, hRun⟩
  · rw [hRun]
    exact hCounted.1 ended hEnded
  · rw [hRun]
    exact hCounted.2 ended hEnded

/-
  A campaign records every value of every variant in every
  repeat once and in order, up to a first shutdown that is
  seen before a value, and its counters are right.
-/
theorem campaign_records
    (h : HashOrder String)
    (campaign : CampaignConfig)
    (surroundings : Nat → Surroundings)
    (timeout : Int)
    (hVariants : campaign.variants ≠ [])
    (hRepeats : 0 < campaign.repeats)
    (hTimeout : 0 < timeout) :
    ((∀ entry ∈ campaign.plannedRuns.zipIdx,
        stopsAt entry.1 (surroundings entry.2) = false) →
      (run h campaign surroundings timeout).runs =
        campaign.plannedRuns.zipIdx.map fun entry =>
          campaign.recordOf h entry.1 (surroundings entry.2)) ∧
    (∀ before planned after,
      campaign.plannedRuns = before ++ planned :: after →
        (∀ entry ∈ before.zipIdx,
          stopsAt entry.1 (surroundings entry.2) = false) →
        stopsAt planned (surroundings before.length) = true →
          (run h campaign surroundings timeout).runs =
            (before.zipIdx.map fun entry =>
              campaign.recordOf h entry.1
                (surroundings entry.2)) ++
              [shutdownRecord planned]) ∧
    (run h campaign surroundings timeout).Counted ∧
    (run h campaign surroundings timeout).passedRuns +
        (run h campaign surroundings timeout).failedRuns =
      (run h campaign surroundings timeout).totalRuns ∧
    ((run h campaign surroundings timeout).success = true ↔
      (run h campaign surroundings timeout).runs ≠ [] ∧
        ∀ record ∈ (run h campaign surroundings timeout).runs,
          record.result.success = true) := by
  have hCounted :
      (run h campaign surroundings timeout).Counted :=
    counted_run hVariants hRepeats hTimeout
  refine ⟨?_, ?_, hCounted, hCounted.sum,
    hCounted.success_iff⟩
  · exact runs_of_up hVariants hRepeats hTimeout
  · intro before planned after hSplit hUp hDown
    exact runs_of_shutdown hVariants hRepeats hTimeout hSplit
      hUp hDown

/- A base scenario that cannot be loaded, swept twice. -/
theorem campaign_records_of_missing_base :
    (run .insertion
        { name := "missing_base"
          baseScenario := "/nonexistent/campaign/scenario.yaml"
          repeats := 2
          variants :=
            [{ faultId := "delay", key := "delay_ms",
               values := ["0", "10", "20"] }] }
        (fun _ =>
          { rosOk := true
            content := .error "bad file"
            execute := fun _ => .error "" })
        100).totalRuns = 6 := by
  have hRecords :=
    campaign_records .insertion
      { name := "missing_base"
        baseScenario := "/nonexistent/campaign/scenario.yaml"
        repeats := 2
        variants :=
          [{ faultId := "delay", key := "delay_ms",
             values := ["0", "10", "20"] }] }
      (fun _ =>
        { rosOk := true
          content := .error "bad file"
          execute := fun _ => .error "" })
      100 (by decide) (by decide) (by decide)
  rcases hRecords with ⟨hUp, _, hCounted, _⟩
  rw [hCounted.total, hUp (by decide)]
  rfl

end CampaignConfig

------------------------------------------------------------
-- Steps Of The Campaign And The Loops
------------------------------------------------------------

namespace CampaignRunner

open CampaignConfig
open Transition

variable {h : HashOrder String}
variable {factory : InjectorConfig → Bool}
variable {s t : CampaignRunner}

/- The runs that are planned and not yet recorded. -/
def unrecorded (s : CampaignRunner) : List PlannedRun :=
  match s.phase with
  | .idle _ => s.pending
  | .running planned _ => planned :: s.pending
  | .unwinding planned _ => planned :: s.pending

/- The scenario of the run in progress was generated. -/
def Generated
    (h : HashOrder String)
    (s : CampaignRunner)
    (planned : PlannedRun) : Prop :=
  ∃ value content scenario,
    planned.value = some value ∧
      generateScenario h s.campaign.baseScenario content
          planned.variant value =
        .ok scenario

/- The run in progress, if there is one, was generated. -/
def PhaseGenerated
    (h : HashOrder String)
    (s : CampaignRunner) : Prop :=
  match s.phase with
  | .idle _ => True
  | .running planned _ => Generated h s planned
  | .unwinding planned _ => Generated h s planned

/-
  The records are those of a pass over part of the planned
  runs in which these surroundings were found.
-/
structure Passed
    (h : HashOrder String)
    (s : CampaignRunner)
    (done : List PlannedRun)
    (found : List Surroundings) : Prop where
  length : done.length = found.length
  goOn :
    ∀ entry ∈ done.zip found, stopsAt entry.1 entry.2 = false
  records :
    s.runs =
      (done.zip found).map fun entry =>
        s.campaign.recordOf h entry.1 entry.2

/-
  The campaign is still going on, or it was stopped before
  one of its values.
-/
inductive Follows
    (h : HashOrder String)
    (s : CampaignRunner) : Prop where
| going
    (done : List PlannedRun)
    (found : List Surroundings)
    (hPlanned :
      s.campaign.plannedRuns = done ++ s.unrecorded)
    (hGenerated : PhaseGenerated h s)
    (hPassed : Passed h s done found)
| stopped
    (done : List PlannedRun)
    (found : List Surroundings)
    (planned : PlannedRun)
    (after : List PlannedRun)
    (runs : List CampaignScenarioRun)
    (hPlanned :
      s.campaign.plannedRuns = done ++ planned :: after)
    (hValue : planned.value.isSome = true)
    (hPassed : Passed h { s with runs := runs } done found)
    (hRuns : s.runs = runs ++ [shutdownRecord planned])
    (hIdle : s.pending = [] ∧ ∃ node, s.phase = .idle node)

/- One more planned run was recorded. -/
theorem Passed.append
    {done : List PlannedRun}
    {found : List Surroundings}
    (hPassed : Passed h s done found)
    {planned : PlannedRun}
    {here : Surroundings}
    (hGoOn : stopsAt planned here = false)
    (hCampaign : t.campaign = s.campaign)
    (hRuns :
      t.runs = s.runs ++ [s.campaign.recordOf h planned here]) :
    Passed h t (done ++ [planned]) (found ++ [here]) where
  length := by
    rw [List.length_append, List.length_append,
      hPassed.length]
    rfl
  goOn := by
    rw [List.zip_append hPassed.length]
    intro entry hEntry
    rw [List.mem_append] at hEntry
    rcases hEntry with hBefore | hHere
    · exact hPassed.goOn entry hBefore
    · rw [List.zip_cons_cons, List.zip_nil_right,
        List.mem_singleton] at hHere
      rw [hHere]
      exact hGoOn
  records := by
    rw [List.zip_append hPassed.length, List.map_append, hRuns,
      hPassed.records, hCampaign]
    rfl

/- Time passes: nothing is recorded. -/
theorem Follows.advance
    (hFollows : Follows h s)
    (elapsed : Nat)
    (rosNow : Int) :
    Follows h { s with phase := advance elapsed rosNow s.phase } := by
  cases hFollows with
  | going done found hPlanned hGenerated hPassed =>
      refine .going done found ?_ ?_
        ⟨hPassed.length, hPassed.goOn, hPassed.records⟩
      · rw [hPlanned]
        unfold unrecorded
        cases s.phase <;> rfl
      · unfold PhaseGenerated at hGenerated ⊢
        cases hPhase : s.phase with
        | idle node => trivial
        | running planned c =>
            rw [hPhase] at hGenerated
            exact hGenerated
        | unwinding planned c =>
            rw [hPhase] at hGenerated
            exact hGenerated
  | stopped done found planned after runs hPlanned hValue hPassed
      hRuns hIdle =>
      rcases hIdle with ⟨hPending, node, hPhase⟩
      refine .stopped done found planned after runs hPlanned
        hValue
        ⟨hPassed.length, hPassed.goOn, hPassed.records⟩ hRuns
        ⟨hPending, node.advance elapsed rosNow, ?_⟩
      rw [hPhase]
      rfl

/- In a stopped campaign no run begins and none is going on. -/
theorem Follows.going_of
    (hFollows : Follows h s)
    (hBusy :
      s.pending ≠ [] ∨ ∀ node, s.phase ≠ .idle node) :
    ∃ done found,
      s.campaign.plannedRuns = done ++ s.unrecorded ∧
        PhaseGenerated h s ∧ Passed h s done found := by
  cases hFollows with
  | going done found hPlanned hGenerated hPassed =>
      exact ⟨done, found, hPlanned, hGenerated, hPassed⟩
  | stopped done found planned after runs hPlanned hValue hPassed
      hRuns hIdle =>
      rcases hIdle with ⟨hPending, node, hPhase⟩
      rcases hBusy with hSome | hNone
      · exact absurd hPending hSome
      · exact absurd hPhase (hNone node)

/- A run that ends before anything is constructed for it. -/
theorem Follows.skipRun
    {done : List PlannedRun}
    {found : List Surroundings}
    {planned : PlannedRun}
    {rest : List PlannedRun}
    {node : CallbackNode Owner Callback}
    (hPassed : Passed h s done found)
    (hPhase : s.phase = .idle node)
    (hPlanned :
      s.campaign.plannedRuns = done ++ planned :: rest)
    {here : Surroundings}
    {message : String}
    (hGoOn : stopsAt planned here = false)
    (hRecord :
      s.campaign.recordOf h planned here =
        planned.record (failedScenarioResult message)) :
    Follows h (s.skipRun planned rest message) := by
  refine .going (done ++ [planned]) (found ++ [here]) ?_ ?_
    (hPassed.append hGoOn rfl ?_)
  · unfold unrecorded CampaignRunner.skipRun
    rw [hPhase, hPlanned]
    simp
  · unfold PhaseGenerated CampaignRunner.skipRun
    rw [hPhase]
    trivial
  · rw [hRecord]
    rfl

theorem Follows.beginRun
    {planned : PlannedRun}
    {rest : List PlannedRun}
    {node : CallbackNode Owner Callback}
    (hFollows : Follows h s)
    (hPhase : s.phase = .idle node)
    (hPending : s.pending = planned :: rest)
    (content : Except String ScenarioConfig) :
    Follows h
      (s.beginRun h factory node planned rest content) := by
  rcases hFollows.going_of (Or.inl (by simp [hPending])) with
    ⟨done, found, hPlanned, _, hPassed⟩
  rw [unrecorded, hPhase, hPending] at hPlanned
  let here : Surroundings :=
    { rosOk := true
      content := content
      execute := fun _ => .error "" }
  have hGoOn : stopsAt planned here = false := by
    simp [stopsAt, here]
  rw [CampaignRunner.beginRun]
  cases hValue : planned.value with
  | none =>
      refine Follows.skipRun hPassed hPhase hPlanned hGoOn ?_
      rw [recordOf, hValue]
  | some value =>
      simp only
      cases hScenario :
          generateScenario h s.campaign.baseScenario content
            planned.variant value with
      | error message =>
          refine
            Follows.skipRun hPassed hPhase hPlanned hGoOn ?_
          simp [recordOf, hValue, runScenario, here, hScenario,
            PlannedRun.record]
      | ok scenario =>
          have hGenerated : Generated h s planned :=
            ⟨value, content, scenario, hValue, hScenario⟩
          simp only
          cases
            FaultController.construct h factory node s.begun
              scenario with
          | done c =>
              exact .going done found hPlanned hGenerated
                ⟨hPassed.length, hPassed.goOn,
                  hPassed.records⟩
          | threw c =>
              exact .going done found hPlanned hGenerated
                ⟨hPassed.length, hPassed.goOn,
                  hPassed.records⟩

/- The run in progress ends with some result. -/
theorem Follows.endRun
    {planned : PlannedRun}
    {c : FaultController}
    (hFollows : Follows h s)
    (hPhase :
      s.phase = .running planned c ∨
        s.phase = .unwinding planned c)
    (result : ScenarioRunnerResult) :
    Follows h (s.endRun planned c result) := by
  have hBusy : ∀ node, s.phase ≠ .idle node := by
    intro node hIdle
    rcases hPhase with hRunning | hUnwinding
    · rw [hRunning] at hIdle
      cases hIdle
    · rw [hUnwinding] at hIdle
      cases hIdle
  rcases hFollows.going_of (Or.inr hBusy) with
    ⟨done, found, hPlanned, hGenerated, hPassed⟩
  have hHere :
      s.campaign.plannedRuns = done ++ planned :: s.pending ∧
        Generated h s planned := by
    unfold unrecorded at hPlanned
    unfold PhaseGenerated at hGenerated
    rcases hPhase with hRunning | hUnwinding
    · rw [hRunning] at hPlanned hGenerated
      exact ⟨hPlanned, hGenerated⟩
    · rw [hUnwinding] at hPlanned hGenerated
      exact ⟨hPlanned, hGenerated⟩
  rcases hHere with ⟨hSplit, value, content, scenario, hValue,
    hScenario⟩
  refine .going (done ++ [planned])
    (found ++
      [{ rosOk := true
         content := content
         execute := fun _ => .ok result }]) ?_ trivial
    (hPassed.append (by simp [stopsAt]) rfl ?_)
  · rw [List.append_assoc]
    exact hSplit
  · simp [recordOf, hValue, runScenario, hScenario,
      CampaignRunner.endRun, PlannedRun.record, resultOf]

/- Every step of a campaign follows its planned runs. -/
theorem follows_step
    {a : Action}
    (hFollows : Follows h s)
    (hStep : s.step h factory a = some t) :
    Follows h t := by
  refine step_keeps ?_ ?_ ?_ ?_ ?_ ?_ hStep
  · intro elapsed rosNow _
    exact hFollows.advance elapsed rosNow
  · intro content node planned rest _ hPhase hPending
    exact hFollows.beginRun hPhase hPending content
  · intro n planned c fired _ hPhase _
    rcases hFollows.going_of (Or.inr (by simp [hPhase])) with
      ⟨done, found, hPlanned, hGenerated, hPassed⟩
    rw [unrecorded, hPhase] at hPlanned
    rw [PhaseGenerated, hPhase] at hGenerated
    exact .going done found hPlanned hGenerated
      ⟨hPassed.length, hPassed.goOn, hPassed.records⟩
  · intro planned c delivered _ hPhase _
    rcases hFollows.going_of (Or.inr (by simp [hPhase])) with
      ⟨done, found, hPlanned, hGenerated, hPassed⟩
    rw [unrecorded, hPhase] at hPlanned
    rw [PhaseGenerated, hPhase] at hGenerated
    exact .going done found hPlanned hGenerated
      ⟨hPassed.length, hPassed.goOn, hPassed.records⟩
  · intro result planned c final _ hPhase
    exact hFollows.endRun hPhase final
  · intro node planned rest _ hPhase hPending hValue
    rcases hFollows.going_of
        (Or.inl (by simp [hPending])) with
      ⟨done, found, hPlanned, _, hPassed⟩
    rw [unrecorded, hPhase, hPending] at hPlanned
    exact .stopped done found planned rest s.runs hPlanned
      hValue
      ⟨hPassed.length, hPassed.goOn, hPassed.records⟩ rfl
      ⟨rfl, node, hPhase⟩

/- What was found at the run of each number. -/
def foundAt (found : List Surroundings) (n : Nat) : Surroundings :=
  found.getD n
    { rosOk := false
      content := .error ""
      execute := fun _ => .error "" }

/- The runs with what was found at the run of their number. -/
theorem zip_eq_zipIdx
    {done : List PlannedRun}
    {found : List Surroundings}
    (hLength : done.length = found.length) :
    done.zip found =
      done.zipIdx.map fun entry =>
        (entry.1, foundAt found entry.2) := by
  apply List.ext_getElem
  · simp [hLength]
  · intro n hLeft hRight
    have hFound : n < found.length := by
      rw [List.length_zip] at hLeft
      omega
    simp [foundAt, List.getElem?_eq_getElem hFound]

/- No step changes the campaign. -/
theorem campaign_step
    {a : Action}
    (hStep : s.step h factory a = some t) :
    t.campaign = s.campaign := by
  refine step_keeps (P := fun t => t.campaign = s.campaign)
    ?_ ?_ ?_ ?_ ?_ ?_ hStep
  · intro elapsed rosNow _
    rfl
  · intro content node planned rest _ _ _
    rw [beginRun]
    cases planned.value with
    | none => rfl
    | some value =>
        simp only
        cases
          generateScenario h s.campaign.baseScenario content
            planned.variant value with
        | error message => rfl
        | ok scenario => rfl
  · intro n planned c fired _ _ _
    rfl
  · intro planned c delivered _ _ _
    rfl
  · intro result planned c final _ _
    rfl
  · intro node planned rest _ _ _ _
    rfl

theorem follows_start
    {campaign : CampaignConfig}
    {timeout : Int}
    {node : CallbackNode Owner Callback}
    (hVariants : campaign.variants ≠ [])
    (hRepeats : 0 < campaign.repeats)
    (hTimeout : 0 < timeout) :
    Follows h (start campaign timeout node) ∧
      (start campaign timeout node).campaign = campaign := by
  have hStart :
      start campaign timeout node =
        { campaign := campaign
          pending := campaign.plannedRuns
          phase := .idle node } := by
    rw [start, if_neg]
    rw [List.isEmpty_iff]
    intro hInvalid
    rcases hInvalid with hNone | hZero | hNow
    · exact hVariants hNone
    · omega
    · omega
  rw [hStart]
  refine ⟨.going [] [] rfl trivial ⟨rfl, ?_, rfl⟩, rfl⟩
  intro entry hEntry
  cases hEntry

/-
  A campaign that is done has recorded what the loops return
  in the surroundings that it found.
-/
theorem records_of_finished
    {campaign : CampaignConfig}
    {timeout : Int}
    {node : CallbackNode Owner Callback}
    {actions : List Action}
    (hVariants : campaign.variants ≠ [])
    (hRepeats : 0 < campaign.repeats)
    (hTimeout : 0 < timeout)
    (hRun :
      Transition.run (step h factory)
          (start campaign timeout node) actions =
        some s)
    (hDone : s.pending = [] ∧ ∃ node, s.phase = .idle node) :
    ∃ surroundings,
      s.runs =
        (campaign.run h surroundings timeout).runs := by
  have hEnd : Follows h s ∧ s.campaign = campaign := by
    refine run_invariant
      (I := fun s => Follows h s ∧ s.campaign = campaign)
      (P := fun _ _ => True) ?_
      (follows_start hVariants hRepeats hTimeout)
      (along_of_forall (fun _ _ => trivial) _ _) hRun
    rintro s a t ⟨hFollows, hCampaign⟩ _ hStep
    exact ⟨follows_step hFollows hStep,
      (campaign_step hStep).trans hCampaign⟩
  rcases hEnd with ⟨hFollows, hCampaign⟩
  rcases hDone with ⟨hPending, last, hPhase⟩
  cases hFollows with
  | going done found hPlanned hGenerated hPassed =>
      rw [unrecorded, hPhase, hPending, List.append_nil,
        hCampaign] at hPlanned
      refine ⟨foundAt found, ?_⟩
      rw [hPassed.records, zip_eq_zipIdx hPassed.length,
        List.map_map, hCampaign]
      have hUp := hPassed.goOn
      rw [zip_eq_zipIdx hPassed.length] at hUp
      rw [runs_of_up hVariants hRepeats hTimeout]
      · rw [hPlanned]
        rfl
      · rw [hPlanned]
        intro entry hEntry
        exact hUp _ (List.mem_map_of_mem hEntry)
  | stopped done found planned after runs hPlanned hValue hPassed
      hRuns hIdle =>
      rw [hCampaign] at hPlanned
      have hUp := hPassed.goOn
      have hRecords :
          runs =
            (done.zip found).map fun entry =>
              campaign.recordOf h entry.1 entry.2 := by
        rw [← hCampaign]
        exact hPassed.records
      rw [zip_eq_zipIdx hPassed.length] at hUp hRecords
      refine ⟨foundAt found, ?_⟩
      rw [hRuns, hRecords,
        runs_of_shutdown hVariants hRepeats hTimeout hPlanned,
        List.map_map]
      · rfl
      · intro entry hEntry
        exact hUp _ (List.mem_map_of_mem hEntry)
      · rw [stopsAt, hValue]
        simp [foundAt, hPassed.length]

end CampaignRunner
