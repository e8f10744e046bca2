import FaultInjection.Core.EventReplay
import FaultInjection.Core.ReloadCompatibility
import FaultInjection.Core.RegisteredFaults
import FaultInjection.Core.ReloadAtomicity
import FaultInjection.Foundations.LevelChanges
import Mathlib.Data.String.Basic

/-
  The warnings about other publishers on the output topics.

  A timer of the controller looks at the publishers of every
  output topic and logs which conflicts are new and which are
  over. What the graph of the node answers is left open.

  Key definitions include:
    * `FaultController.outputTopics`
    * `FaultController.checkOutputConflicts`
    * `OutputMonitor`
    * `OutputMonitor.step`

  Key theorems include:
    * `FaultController.checkOutputConflicts_eq`
    * `OutputMonitor.conflict_log_tells_conflicts`
-/

open LevelChanges

------------------------------------------------------------
-- One Check
------------------------------------------------------------

structure PublisherInfo where
  nodeNamespace : String
  nodeName : String
deriving DecidableEq

/- A conflict of a topic, with its publishers, or its end. -/
abbrev ConflictNotice : Type :=
  Notice String (List PublisherInfo)

namespace FaultController

def publisherText (publisher : PublisherInfo) : String :=
  (if publisher.nodeNamespace = "/" then
      "/"
    else
      publisher.nodeNamespace ++ "/") ++
    publisher.nodeName ++ " "

/- What is logged of a notice. -/
def noticeText : ConflictNotice → String
| .raised topic publishers =>
    "Output topic conflict on " ++ topic ++ ": " ++
      toString publishers.length ++ " publishers [" ++
        String.join (publishers.map publisherText) ++
          "]. Another publisher may bypass injected faults; " ++
            "check for duplicate instances."
| .cleared topic => "Output topic conflict cleared on " ++ topic

/- The topics to look at; an empty name is skipped. -/
def outputTopics
    (resolve : String → String)
    (injectors : List InjectorConfig) : List String :=
  injectors.filterMap fun config =>
    match config.topic with
    | none => none
    | some endpoint =>
        if endpoint.outputTopic = "" then
          none
        else
          some (resolve endpoint.outputTopic)

/-
  The body of the loop over the topics. A topic is compared
  with the conflicts of the last check, not of this one.
-/
def checkTopic
    (publishers : String → List PublisherInfo)
    (conflicting : Finset String)
    (checked : Finset String × List ConflictNotice)
    (topic : String) :
    Finset String × List ConflictNotice :=
  if (publishers topic).length ≤ 1 then
    checked
  else
    (insert topic checked.1,
      if topic ∈ conflicting then
        checked.2
      else
        checked.2 ++ [.raised topic (publishers topic)])

/- The conflicts of a check and what it logs. -/
def checkOutputConflicts
    (resolve : String → String)
    (publishers : String → List PublisherInfo)
    (injectors : List InjectorConfig)
    (conflicting : Finset String) :
    Finset String × List ConflictNotice :=
  let checked :=
    (outputTopics resolve injectors).foldl
      (checkTopic publishers conflicting) (∅, [])
  (checked.1,
    checked.2 ++
      ((conflicting.sort).filter
        fun topic => topic ∉ checked.1).map .cleared)

/- The topics of a list that have several publishers. -/
def observedConflicts
    (publishers : String → List PublisherInfo)
    (topics : List String) :
    List (String × List PublisherInfo) :=
  (topics.filter fun topic =>
      1 < (publishers topic).length).map
    fun topic => (topic, publishers topic)

theorem mem_levelOf_observed_iff
    {publishers : String → List PublisherInfo}
    {topics : List String}
    {topic : String} :
    topic ∈ levelOf (observedConflicts publishers topics) ↔
      topic ∈ topics ∧ 1 < (publishers topic).length := by
  unfold levelOf observedConflicts
  rw [List.map_map, List.mem_toFinset]
  simp [Function.comp_def]

/- A conflict is observed for each injector of the topic. -/
theorem count_observed
    {publishers : String → List PublisherInfo}
    {topics : List String}
    {topic : String}
    (hConflict :
      topic ∈
        levelOf (observedConflicts publishers topics)) :
    ((observedConflicts publishers topics).map
          Prod.fst).count topic =
      topics.count topic := by
  rw [mem_levelOf_observed_iff] at hConflict
  unfold observedConflicts
  rw [List.map_map]
  change
    ((topics.filter _).map fun topic => topic).count topic = _
  rw [List.map_id', List.count_filter]
  simpa using hConflict.2

/- The loop gathers what is observed and what is new of it. -/
theorem foldl_checkTopic
    (publishers : String → List PublisherInfo)
    (conflicting : Finset String)
    (topics : List String)
    (checked : Finset String × List ConflictNotice) :
    topics.foldl (checkTopic publishers conflicting)
        checked =
      (checked.1 ∪
          levelOf (observedConflicts publishers topics),
        checked.2 ++
          ((observedConflicts publishers topics).filter
              fun entry => entry.1 ∉ conflicting).map
            fun entry => .raised entry.1 entry.2) := by
  induction topics generalizing checked with
  | nil => simp [observedConflicts, levelOf]
  | cons topic topics ih =>
      rw [List.foldl_cons, ih]
      unfold checkTopic
      by_cases hOne : (publishers topic).length ≤ 1
      · have hNone : ¬ 1 < (publishers topic).length :=
          not_lt.mpr hOne
        rw [if_pos hOne]
        simp [observedConflicts, hNone]
      · have hSome : 1 < (publishers topic).length :=
          not_le.mp hOne
        have hObserved :
            observedConflicts publishers (topic :: topics) =
              (topic, publishers topic) ::
                observedConflicts publishers topics := by
          simp [observedConflicts, hSome]
        rw [if_neg hOne, hObserved]
        refine Prod.ext ?_ ?_
        · simp [levelOf, Finset.insert_union,
            Finset.union_insert]
        · by_cases hKnown : topic ∈ conflicting
          · simp [hKnown]
          · simp [hKnown]

/- A check tells the changes of the observed conflicts. -/
theorem checkOutputConflicts_eq
    (resolve : String → String)
    (publishers : String → List PublisherInfo)
    (injectors : List InjectorConfig)
    (conflicting : Finset String) :
    checkOutputConflicts resolve publishers injectors
        conflicting =
      (levelOf
          (observedConflicts publishers
            (outputTopics resolve injectors)),
        notices conflicting
          (observedConflicts publishers
            (outputTopics resolve injectors))) := by
  unfold checkOutputConflicts notices
  rw [foldl_checkTopic]
  simp

end FaultController

------------------------------------------------------------
-- Checks In A Run
------------------------------------------------------------

/- A controller with what its checks remember and log. -/
structure OutputMonitor where
  controller : FaultController
  conflicting : Finset String := ∅
  log : List ConflictNotice := []

namespace OutputMonitor

open FaultController Transition

/-
  A step of the controller, or its timer runs a check that
  finds the publishers.
-/
inductive Action where
| controller : FaultController.Action → Action
| check : Nat → (String → List PublisherInfo) → Action

/- The names of topics are resolved in the same way always. -/
def step
    (resolve : String → String)
    (h : HashOrder String)
    (s : OutputMonitor) : Action → Option OutputMonitor
| .controller a =>
    (s.controller.step h a).map fun controller =>
      { s with controller := controller }
| .check n publishers =>
    match s.controller.node.ready n with
    | none => none
    | some e =>
        if e.callback = .member .outputConflictTimer then
          let checked :=
            checkOutputConflicts resolve publishers
              s.controller.scenario.injectors s.conflicting
          some
            { s with
              conflicting := checked.1
              log := s.log ++ checked.2 }
        else
          none

section Runs

variable {resolve : String → String}
variable {h : HashOrder String}
variable {scenario : ScenarioConfig}
variable {s t : OutputMonitor}

theorem step_check
    {n : Nat}
    {publishers : String → List PublisherInfo}
    (hStep : step resolve h s (.check n publishers) = some t) :
    t.controller = s.controller ∧
      t.conflicting =
          levelOf
            (observedConflicts publishers
              (outputTopics resolve
                s.controller.scenario.injectors)) ∧
        t.log =
          s.log ++
            notices s.conflicting
              (observedConflicts publishers
                (outputTopics resolve
                  s.controller.scenario.injectors)) := by
  rw [step] at hStep
  cases hReady : s.controller.node.ready n with
  | none =>
      rw [hReady] at hStep
      cases hStep
  | some e =>
      simp only [hReady, checkOutputConflicts_eq,
        Option.ite_none_right_eq_some,
        Option.some.injEq] at hStep
      rw [← hStep.2]
      exact ⟨rfl, rfl, rfl⟩

/-
  The running scenario is accepted and has the injectors of
  the first one, and the log is balanced for their topics.
-/
structure Monitored
    (resolve : String → String)
    (h : HashOrder String)
    (scenario : ScenarioConfig)
    (s : OutputMonitor) : Prop where
  accepted :
    (validateScenario h s.controller.scenario).ok = true
  injectors :
    s.controller.scenario.injectors.Perm scenario.injectors
  balanced :
    Balanced
      (fun topic =>
        (outputTopics resolve scenario.injectors).count topic)
      s.conflicting s.log

/- The order of the injectors does not change the topics. -/
theorem Monitored.topics
    (hMonitored : Monitored resolve h scenario s) :
    (outputTopics resolve
          s.controller.scenario.injectors).Perm
      (outputTopics resolve scenario.injectors) :=
  hMonitored.injectors.filterMap _

theorem Monitored.step
    {a : Action}
    (hMonitored : Monitored resolve h scenario s)
    (hStep : step resolve h s a = some t) :
    Monitored resolve h scenario t := by
  cases a with
  | check n publishers =>
      rcases step_check hStep with
        ⟨hController, hConflicting, hLog⟩
      have hTopics := hMonitored.topics
      refine ⟨?_, ?_, ?_⟩
      · rw [hController]
        exact hMonitored.accepted
      · rw [hController]
        exact hMonitored.injectors
      · rw [hConflicting, hLog]
        refine hMonitored.balanced.observe ?_
        intro topic hTopic
        rw [count_observed hTopic]
        exact hTopics.count_eq topic
  | controller a =>
      rw [OutputMonitor.step, Option.map_eq_some_iff] at hStep
      rcases hStep with ⟨controller, hStep, rfl⟩
      have hLoaded :
          (validateScenario h controller.scenario).ok =
              true ∧
            controller.scenario.injectors.Perm
              s.controller.scenario.injectors := by
        by_cases hReload :
            ∃ content, a = .reloadScenario content
        · rcases hReload with ⟨content, rfl⟩
          cases took_of_step hStep with
          | rejected =>
              exact ⟨hMonitored.accepted, List.Perm.refl _⟩
          | reloaded hCheck =>
              rcases checkReload_eq_ok_iff.mp hCheck with
                ⟨_, hOk, hCompatible⟩
              rw [applyReload_scenario]
              exact
                ⟨hOk,
                  (compatible_iff_perm h s.controller _
                    hMonitored.accepted hOk).mp
                      hCompatible⟩
        · have hScenario :=
            scenario_step
              (fun content hSame =>
                hReload ⟨content, hSame⟩)
              hStep
          rw [hScenario]
          exact ⟨hMonitored.accepted, List.Perm.refl _⟩
      exact
        ⟨hLoaded.1,
          hLoaded.2.trans hMonitored.injectors,
          hMonitored.balanced⟩

/-
  In every run the log tells the conflicts: replaying it gives
  the remembered ones, each topic was reported once for each
  of its injectors and each time that its conflict began, and
  the next check remembers the output topics with several
  publishers.
-/
theorem conflict_log_tells_conflicts
    {factory : InjectorConfig → Bool}
    {start : FaultController}
    {actions : List Action}
    (hOk : (validateScenario h scenario).ok = true)
    (hStarted : Started h factory scenario start)
    (hRun :
      run (OutputMonitor.step resolve h)
          { controller := start } actions =
        some s) :
    let topics := outputTopics resolve scenario.injectors
    replay ∅ s.log = s.conflicting ∧
      (∀ topic,
        s.log.countP (Notice.raises topic) =
          topics.count topic *
            (s.log.countP (Notice.clears topic) +
              if topic ∈ s.conflicting then 1 else 0)) ∧
        ∀ n publishers t,
          OutputMonitor.step resolve h s
                (.check n publishers) =
              some t →
            ∀ topic,
              topic ∈ t.conflicting ↔
                topic ∈ topics ∧
                  1 < (publishers topic).length := by
  have hScenario := scenario_of_started hStarted
  have hStart :
      Monitored resolve h scenario { controller := start } := by
    refine ⟨?_, ?_, balanced_nil⟩
    · rw [hScenario]
      exact hOk
    · rw [hScenario]
  have hMonitored : Monitored resolve h scenario s := by
    refine run_invariant (I := Monitored resolve h scenario)
      (P := fun _ _ => True) ?_ hStart
      (along_of_forall (fun _ _ => trivial) _ _) hRun
    intro before a after hBefore _ hStep
    exact hBefore.step hStep
  refine
    ⟨hMonitored.balanced.replayed,
      hMonitored.balanced.counts, ?_⟩
  intro n publishers t hStep topic
  rw [(step_check hStep).2.1, mem_levelOf_observed_iff,
    hMonitored.topics.mem_iff]

end Runs

end OutputMonitor

------------------------------------------------------------
-- A Second Publisher
------------------------------------------------------------

namespace OutputMonitor.SecondPublisher

open FaultController FaultController.WatchedRun Transition

def publisher (nodeName : String) : PublisherInfo where
  nodeNamespace := "/"
  nodeName := nodeName

/- The number of the timer among the entities of the node. -/
def conflictTimer : Nat := 5

/- Another node publishes for a while. -/
def actions : List Action :=
  [ .check conflictTimer fun _ => [publisher "first"],
    .check conflictTimer fun _ =>
      [publisher "first", publisher "second"],
    .controller update,
    .check conflictTimer fun _ => [publisher "first"] ]

def start : OutputMonitor where
  controller := started

/- The state that the run leaves. -/
def last : OutputMonitor :=
  (run (step id .insertion) start actions).getD start

theorem run_actions :
    run (step id .insertion) start actions = some last := by
  have hSome :
      (run (step id .insertion) start actions).isSome =
        true := by
    decide +kernel
  rcases Option.isSome_iff_exists.mp hSome with ⟨s, hRun⟩
  rw [last, hRun]
  rfl

theorem conflict_log_tells_second_publisher :
    let topics := outputTopics id scenario.injectors
    replay ∅ last.log = last.conflicting ∧
      (∀ topic,
        last.log.countP (Notice.raises topic) =
          topics.count topic *
            (last.log.countP (Notice.clears topic) +
              if topic ∈ last.conflicting then 1 else 0)) ∧
        ∀ n publishers t,
          step id .insertion last (.check n publishers) =
              some t →
            ∀ topic,
              topic ∈ t.conflicting ↔
                topic ∈ topics ∧
                  1 < (publishers topic).length :=
  conflict_log_tells_conflicts (by decide +kernel)
    started_started run_actions

/- The conflict was reported once and is over. -/
example :
    last.log.map noticeText =
      [ "Output topic conflict on odom_faulty: 2 publishers " ++
          "[/first /second ]. Another publisher may bypass " ++
            "injected faults; check for duplicate instances.",
        "Output topic conflict cleared on odom_faulty" ] := by
  decide +kernel

end OutputMonitor.SecondPublisher
