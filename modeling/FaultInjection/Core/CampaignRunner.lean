import FaultInjection.Foundations.Transition
import FaultInjection.Core.RunningSystem

/-
  Campaigns: the same scenario run again and again with
  different values, on one node.

  Each run constructs a controller on the node, spins the
  node until the run ends, and destroys the controller. When
  a run ends is left open: its assertions are complete, its
  time is up or an exception was thrown.

  Key definitions include:
    * `applyCampaignValue`
    * `CampaignConfig.plannedRuns`
    * `CampaignRunner.beginRun`
    * `CampaignRunner.destroy`
    * `CampaignRunner.step`

  Key theorems include:
    * `CampaignRunner.step_keeps`
-/

------------------------------------------------------------
-- Campaigns
------------------------------------------------------------

/- One fault parameter sweep. -/
structure CampaignVariant where
  faultId : String
  key : String
  values : List String
deriving DecidableEq

structure CampaignConfig where
  name : String := ""
  baseScenario : String := ""
  repeats : Int := 1
  variants : List CampaignVariant := []
deriving DecidableEq

/- Store the value with the first fault of the given id. -/
def setCampaignValue
    (variant : CampaignVariant)
    (value : String) :
    List FaultConfig → Option (List FaultConfig)
| [] => none
| fault :: faults =>
    if fault.id = variant.faultId then
      let updated :=
        { fault with
          config := fault.config.insert variant.key value }
      some (updated :: faults)
    else
      (setCampaignValue variant value faults).map
        (List.cons fault)

def applyCampaignValue
    (scenario : ScenarioConfig)
    (variant : CampaignVariant)
    (value : String) : Except String ScenarioConfig :=
  match setCampaignValue variant value scenario.faults with
  | some faults => .ok { scenario with faults := faults }
  | none =>
      .error ("unknown campaign fault_id: " ++ variant.faultId)

/- A run to do. A variant without values has one failed run. -/
structure PlannedRun where
  repeatNumber : Nat
  variantIndex : Nat
  variant : CampaignVariant
  value : Option String
deriving DecidableEq

namespace CampaignConfig

/- The planned runs of one variant, numbered from 1. -/
def runsOfVariant
    (repeatNumber : Nat)
    (entry : CampaignVariant × Nat) : List PlannedRun :=
  if entry.1.values.isEmpty then
    [⟨repeatNumber, entry.2, entry.1, none⟩]
  else
    entry.1.values.map fun value =>
      ⟨repeatNumber, entry.2, entry.1, some value⟩

/- All runs in order: repeats, variants and then values. -/
def plannedRuns
    (campaign : CampaignConfig) : List PlannedRun :=
  (List.range' 1 campaign.repeats.toNat).flatMap
    fun repeatNumber =>
      (campaign.variants.zipIdx 1).flatMap
        (runsOfVariant repeatNumber)

end CampaignConfig

------------------------------------------------------------
-- Results
------------------------------------------------------------

structure ScenarioRunnerResult where
  success : Bool
  message : String
  finalResult : String
  reportMarkdown : String
deriving DecidableEq

def failedScenarioResult
    (message : String) : ScenarioRunnerResult where
  success := false
  message := message
  finalResult := "failed"
  reportMarkdown := ""

structure CampaignScenarioRun where
  repeatNumber : Nat
  variantIndex : Nat
  faultId : String
  key : String
  value : String
  result : ScenarioRunnerResult
deriving DecidableEq

/- The record of a planned run and its result. -/
def PlannedRun.record
    (planned : PlannedRun)
    (result : ScenarioRunnerResult) : CampaignScenarioRun where
  repeatNumber := planned.repeatNumber
  variantIndex := planned.variantIndex
  faultId := planned.variant.faultId
  key := planned.variant.key
  value := planned.value.getD ""
  result := result

------------------------------------------------------------
-- The Runner
------------------------------------------------------------

namespace CampaignRunner

/-
  Between two runs there is only the node. A controller is
  spun by its scenario runner, or an exception left its
  constructor and what it created is being destroyed. The
  controller carries the node.
-/
inductive Phase where
| idle : CallbackNode Owner Callback → Phase
| running : PlannedRun → FaultController → Phase
| unwinding : PlannedRun → FaultController → Phase

end CampaignRunner

/-
  The runs still to do, those recorded, and the number of
  controllers constructed so far.
-/
structure CampaignRunner where
  campaign : CampaignConfig
  pending : List PlannedRun
  runs : List CampaignScenarioRun := []
  begun : Nat := 0
  phase : CampaignRunner.Phase := .idle {}

namespace CampaignRunner

/- Load the base scenario, store the value and validate. -/
def generateScenario
    (h : HashOrder String)
    (baseScenario : String)
    (content : Except String ScenarioConfig)
    (variant : CampaignVariant)
    (value : String) : Except String ScenarioConfig :=
  match content with
  | .error what =>
      .error
        ("failed to load base scenario '" ++ baseScenario ++
          "': " ++ what)
  | .ok base =>
      match applyCampaignValue base variant value with
      | .error message => .error message
      | .ok scenario =>
          let validation := validateScenario h scenario
          if validation.ok then
            .ok scenario
          else
            .error
              (validation.errors.foldl
                (fun message error => message ++ "; " ++ error)
                "generated scenario validation failed")

/- Record a run that ends before anything is constructed. -/
def skipRun
    (planned : PlannedRun)
    (rest : List PlannedRun)
    (message : String)
    (s : CampaignRunner) : CampaignRunner :=
  { s with
    pending := rest
    runs :=
      s.runs ++
        [planned.record (failedScenarioResult message)] }

/- Generate the scenario of a run and construct for it. -/
def beginRun
    (h : HashOrder String)
    (factory : InjectorConfig → Bool)
    (node : CallbackNode Owner Callback)
    (planned : PlannedRun)
    (rest : List PlannedRun)
    (content : Except String ScenarioConfig)
    (s : CampaignRunner) : CampaignRunner :=
  match planned.value with
  | none =>
      s.skipRun planned rest "campaign variant has no values"
  | some value =>
      match
        generateScenario h s.campaign.baseScenario content
          planned.variant value
      with
      | .error message => s.skipRun planned rest message
      | .ok scenario =>
          let phase :=
            match
              FaultController.construct h factory node s.begun
                scenario
            with
            | .done c => Phase.running planned c
            | .threw c => Phase.unwinding planned c
          { s with
            pending := rest
            begun := s.begun + 1
            phase := phase }

/- The node after a controller was destroyed. -/
def destroy
    (c : FaultController) : CallbackNode Owner Callback :=
  (c.node.release .members).release .scheduler

/- Destroy the controller of a run and record the result. -/
def endRun
    (planned : PlannedRun)
    (c : FaultController)
    (result : ScenarioRunnerResult)
    (s : CampaignRunner) : CampaignRunner :=
  { s with
    runs := s.runs ++ [planned.record result]
    phase := .idle (destroy c) }

/- A run ends with a result or with an exception. -/
def resultOf :
    Except String ScenarioRunnerResult → ScenarioRunnerResult
| .ok result => result
| .error what =>
    failedScenarioResult
      ("scenario execution failed: " ++ what)

------------------------------------------------------------
-- Actions
------------------------------------------------------------

/-
  What can happen next. A run begins with what loading the
  base scenario yields at that moment.
-/
inductive Action where
| advance : Nat → Int → Action
| beginRun : Except String ScenarioConfig → Action
| callback : Nat → Action
| deliver : Action
| finish : Except String ScenarioRunnerResult → Action
| shutdown : Action

/- Let time pass in any phase. -/
def advance
    (elapsed : Nat)
    (rosNow : Int) : Phase → Phase
| .idle node => .idle (node.advance elapsed rosNow)
| .running planned c =>
    .running planned
      { c with node := c.node.advance elapsed rosNow }
| .unwinding planned c =>
    .unwinding planned
      { c with node := c.node.advance elapsed rosNow }

/-
  Run the callback of an entity that is ready. A callback of
  an earlier run uses references to destroyed objects; what
  follows is undefined and the model stops.
-/
def fire
    (c : FaultController)
    (n : Nat) : Option FaultController :=
  match c.node.ready n with
  | none => none
  | some e =>
      if e.generation = c.generation then
        some (c.runCallback n e.callback)
      else
        none

def step
    (h : HashOrder String)
    (factory : InjectorConfig → Bool)
    (s : CampaignRunner) : Action → Option CampaignRunner
| .advance elapsed rosNow =>
    some { s with phase := advance elapsed rosNow s.phase }
| .beginRun content =>
    match s.phase, s.pending with
    | .idle node, planned :: rest =>
        some (s.beginRun h factory node planned rest content)
    | _, _ => none
| .callback n =>
    match s.phase with
    | .running planned c =>
        (fire c n).map fun fired =>
          { s with phase := .running planned fired }
    | _ => none
| .deliver =>
    match s.phase with
    | .running planned c =>
        c.deliver.map fun delivered =>
          { s with phase := .running planned delivered }
    | _ => none
| .finish result =>
    match s.phase with
    | .idle _ => none
    | .running planned c =>
        some (s.endRun planned c (resultOf result))
    | .unwinding planned c =>
        match result with
        | .ok _ => none
        | .error what =>
            some (s.endRun planned c (resultOf (.error what)))
| .shutdown =>
    match s.phase, s.pending with
    | .idle _, planned :: _ =>
        match planned.value with
        | none => none
        | some _ =>
            some
              (s.skipRun planned []
                "ROS shutdown before campaign completed")
    | _, _ => none

/-
  The runner before its first run, on a new node. A campaign
  without variants, repeats or time gets one failed record.
-/
def start
    (campaign : CampaignConfig)
    (timeout : Int)
    (node : CallbackNode Owner Callback) : CampaignRunner :=
  if campaign.variants.isEmpty ∨ campaign.repeats ≤ 0 ∨
      timeout ≤ 0 then
    { campaign := campaign
      pending := []
      runs :=
        [ { repeatNumber := 0, variantIndex := 0,
            faultId := "", key := "", value := "",
            result :=
              failedScenarioResult
                ("campaign requires variants, " ++
                  "positive repeats and a positive timeout") } ]
      phase := .idle node }
  else
    { campaign := campaign
      pending := campaign.plannedRuns
      phase := .idle node }

------------------------------------------------------------
-- Steps
------------------------------------------------------------

/- What every possible step of a campaign gives holds after it. -/
theorem step_keeps
    {h : HashOrder String}
    {factory : InjectorConfig → Bool}
    {s t : CampaignRunner}
    {a : Action}
    {P : CampaignRunner → Prop}
    (hAdvance :
      ∀ elapsed rosNow, a = .advance elapsed rosNow →
        P { s with phase := advance elapsed rosNow s.phase })
    (hBegin :
      ∀ content node planned rest,
        a = .beginRun content →
          s.phase = .idle node →
            s.pending = planned :: rest →
              P
                (s.beginRun h factory node planned rest
                  content))
    (hCallback :
      ∀ n planned c fired,
        a = .callback n →
          s.phase = .running planned c →
            fire c n = some fired →
              P { s with phase := .running planned fired })
    (hDeliver :
      ∀ planned c delivered,
        a = .deliver →
          s.phase = .running planned c →
            c.deliver = some delivered →
              P { s with phase := .running planned delivered })
    (hFinish :
      ∀ result planned c final,
        a = .finish result →
          s.phase = .running planned c ∨
              s.phase = .unwinding planned c →
            P (s.endRun planned c final))
    (hShutdown :
      ∀ node planned rest,
        a = .shutdown →
          s.phase = .idle node →
            s.pending = planned :: rest →
              planned.value.isSome = true →
                P
                  (s.skipRun planned []
                    "ROS shutdown before campaign completed"))
    (hStep : s.step h factory a = some t) :
    P t := by
  cases a with
  | advance elapsed rosNow =>
      rw [step, Option.some.injEq] at hStep
      rw [← hStep]
      exact hAdvance elapsed rosNow rfl
  | beginRun content =>
      cases hPhase : s.phase with
      | idle node =>
          cases hPending : s.pending with
          | nil => simp [step, hPhase, hPending] at hStep
          | cons planned rest =>
              simp only [step, hPhase, hPending,
                Option.some.injEq] at hStep
              rw [← hStep]
              exact hBegin content node planned rest rfl hPhase
                hPending
      | running planned c => simp [step, hPhase] at hStep
      | unwinding planned c => simp [step, hPhase] at hStep
  | callback n =>
      cases hPhase : s.phase with
      | idle node => simp [step, hPhase] at hStep
      | unwinding planned c => simp [step, hPhase] at hStep
      | running planned c =>
          simp only [step, hPhase, Option.map_eq_some_iff]
            at hStep
          rcases hStep with ⟨fired, hFired, hEnd⟩
          rw [← hEnd]
          exact hCallback n planned c fired rfl hPhase hFired
  | deliver =>
      cases hPhase : s.phase with
      | idle node => simp [step, hPhase] at hStep
      | unwinding planned c => simp [step, hPhase] at hStep
      | running planned c =>
          simp only [step, hPhase, Option.map_eq_some_iff]
            at hStep
          rcases hStep with ⟨delivered, hDelivered, hEnd⟩
          rw [← hEnd]
          exact hDeliver planned c delivered rfl hPhase
            hDelivered
  | finish result =>
      cases hPhase : s.phase with
      | idle node => simp [step, hPhase] at hStep
      | running planned c =>
          simp only [step, hPhase, Option.some.injEq] at hStep
          rw [← hStep]
          exact hFinish result planned c _ rfl (Or.inl hPhase)
      | unwinding planned c =>
          cases result with
          | ok final => simp [step, hPhase] at hStep
          | error what =>
              simp only [step, hPhase, Option.some.injEq]
                at hStep
              rw [← hStep]
              exact hFinish _ planned c _ rfl (Or.inr hPhase)
  | shutdown =>
      cases hPhase : s.phase with
      | running planned c => simp [step, hPhase] at hStep
      | unwinding planned c => simp [step, hPhase] at hStep
      | idle node =>
          cases hPending : s.pending with
          | nil => simp [step, hPhase, hPending] at hStep
          | cons planned rest =>
              cases hValue : planned.value with
              | none =>
                  simp [step, hPhase, hPending, hValue]
                    at hStep
              | some value =>
                  simp only [step, hPhase, hPending, hValue,
                    Option.some.injEq] at hStep
                  rw [← hStep]
                  exact hShutdown node planned rest rfl hPhase
                    hPending (by rw [hValue]; rfl)

end CampaignRunner
