import FaultInjection.Core.CampaignRunner
import FaultInjection.Core.TimerLifetime

/-
  Which callbacks the runs of a campaign execute.

  Destroying a controller frees the entities that its members
  hold. Its start and stop timers hold themselves, so each
  one that has not run stays ready on the node that the next
  run spins.

  Key definitions include:
    * `CallbackNode.Spent`
    * `CampaignRunner.OwnCallbacks`
    * `CampaignRunner.QuietEnd`

  Key theorems include:
    * `CampaignRunner.NodeOk.destroy`
    * `CampaignRunner.runs_are_independent`
    * `CampaignRunner.stale_timer_ready`
-/

------------------------------------------------------------
-- Spent Entities
------------------------------------------------------------

namespace CallbackNode

variable {ω κ : Type}
variable {node : CallbackNode ω κ}

/- The entity will not run any more. -/
def Spent
    (node : CallbackNode ω κ)
    (n : Nat)
    (e : CallbackEntity κ) : Prop :=
  e.cancelled = true ∨ ¬ node.heap.Live (.entity n)

theorem Spent.not_ready
    {n : Nat}
    {e : CallbackEntity κ}
    (hSpent : node.Spent n e) :
    node.ready n ≠ some e := by
  intro hReady
  rcases ready_eq_some_iff.mp hReady with
    ⟨_, hPending, _, hLive⟩
  rcases hSpent with hCancelled | hDead
  · rw [hPending] at hCancelled
    cases hCancelled
  · exact hDead hLive

end CallbackNode

------------------------------------------------------------
-- The Node Of A Campaign
------------------------------------------------------------

namespace CampaignRunner

open FaultController FaultScheduler Transition

/-
  A node that the controllers of several runs have used, the
  present one being of the given generation. The entities of
  earlier runs are spent.
-/
structure NodeOk
    (generation : Nat)
    (node : CallbackNode Owner Callback) : Prop where
  closed : node.Closed
  members :
    ∀ (n : Nat) (e : CallbackEntity Callback),
      node.entities[n]? = some e →
        e.callback.isScheduled = false →
          node.OwnedBy .members n
  bounded :
    ∀ (n : Nat) (e : CallbackEntity Callback),
      node.entities[n]? = some e →
        e.generation ≤ generation
  earlier :
    ∀ (n : Nat) (e : CallbackEntity Callback),
      node.entities[n]? = some e →
        e.generation < generation → node.Spent n e

section NodeOk

variable {generation : Nat}
variable {node : CallbackNode Owner Callback}

theorem nodeOk_new
    (steadyNow rosNow : Int) :
    NodeOk generation
      { steadyNow := steadyNow, rosNow := rosNow } := by
  constructor
  · constructor
    · intro r hRoot
      cases hRoot
    · intro c hCell
      cases hCell
  · intro n e hEntity
    simp at hEntity
  · intro n e hEntity
    simp at hEntity
  · intro n e hEntity
    simp at hEntity

theorem NodeOk.advance
    (hOk : NodeOk generation node)
    (elapsed : Nat)
    (rosNow : Int) :
    NodeOk generation (node.advance elapsed rosNow) :=
  ⟨⟨hOk.closed.roots, hOk.closed.cells⟩,
    fun n e hEntity hMember =>
      ⟨(hOk.members n e hEntity hMember).roots,
        (hOk.members n e hEntity hMember).cells⟩,
    hOk.bounded, hOk.earlier⟩

theorem NodeOk.cancel
    (hOk : NodeOk generation node)
    (n : Nat) :
    NodeOk generation (node.cancel n) := by
  have hLength :
      (node.cancel n).entities.length =
        node.entities.length := by
    simp [CallbackNode.cancel]
  -- an entity afterwards is an entity before, maybe cancelled
  have hBefore :
      ∀ (m : Nat) (e : CallbackEntity Callback),
        (node.cancel n).entities[m]? = some e →
          ∃ old : CallbackEntity Callback,
            node.entities[m]? = some old ∧
              e.callback = old.callback ∧
                e.generation = old.generation ∧
                  (old.cancelled = true →
                    e.cancelled = true) := by
    intro m e hEntity
    rw [CallbackNode.cancel_entities,
      Option.map_eq_some_iff] at hEntity
    rcases hEntity with ⟨old, hOld, rfl⟩
    refine ⟨old, hOld, ?_⟩
    split
    · exact ⟨rfl, rfl, fun _ => rfl⟩
    · exact ⟨rfl, rfl, fun hCancelled => hCancelled⟩
  constructor
  · constructor
    · rw [hLength]
      exact hOk.closed.roots
    · rw [hLength]
      exact hOk.closed.cells
  · intro m e hEntity hMember
    rcases hBefore m e hEntity with
      ⟨old, hOld, hCallback, _, _⟩
    rw [hCallback] at hMember
    have hOwned := hOk.members m old hOld hMember
    exact ⟨hOwned.roots, hOwned.cells⟩
  · intro m e hEntity
    rcases hBefore m e hEntity with
      ⟨old, hOld, _, hGeneration, _⟩
    rw [hGeneration]
    exact hOk.bounded m old hOld
  · intro m e hEntity hEarlier
    rcases hBefore m e hEntity with
      ⟨old, hOld, _, hGeneration, hCancelled⟩
    rw [hGeneration] at hEarlier
    rcases hOk.earlier m old hOld hEarlier with hWas | hDead
    · exact Or.inl (hCancelled hWas)
    · exact Or.inr hDead

theorem NodeOk.createMember
    (hOk : NodeOk generation node)
    (m : Member) :
    NodeOk generation
      (node.createMember .members generation (.member m)) := by
  constructor
  · exact hOk.closed.createMember _ _ _
  · intro n e hEntity hMember
    rw [CallbackNode.createMember_entities,
      List.getElem?_append] at hEntity
    split at hEntity
    · rename_i hOld
      have hOwned := hOk.members n e hEntity hMember
      exact hOwned.createMember hOld _ _ _
    · have hLength := (List.getElem?_eq_some_iff.mp hEntity).1
      have hNew : n = node.entities.length := by
        simp only [List.length_singleton] at hLength
        omega
      subst hNew
      exact hOk.closed.ownedBy_createMember _ _ _
  · intro n e hEntity
    rw [CallbackNode.createMember_entities,
      List.getElem?_append] at hEntity
    split at hEntity
    · exact hOk.bounded n e hEntity
    · have hNew := List.mem_of_getElem? hEntity
      rw [List.mem_singleton.mp hNew]
  · intro n e hEntity hEarlier
    rw [CallbackNode.createMember_entities,
      List.getElem?_append] at hEntity
    split at hEntity
    · rename_i hOld
      rcases hOk.earlier n e hEntity hEarlier with
        hCancelled | hDead
      · exact Or.inl hCancelled
      · right
        exact CallbackNode.not_live_createMember hDead hOld
          _ _ _
    · have hNew := List.mem_of_getElem? hEntity
      rw [List.mem_singleton.mp hNew] at hEarlier
      exact absurd hEarlier (Nat.lt_irrefl _)

theorem NodeOk.addWallTimer
    {callback : Callback}
    (hOk : NodeOk generation node)
    (hScheduled : callback.isScheduled = true)
    (period : Int) :
    NodeOk generation
      (node.addWallTimer .scheduler generation period
        callback) := by
  constructor
  · exact hOk.closed.addWallTimer _ _ _ _
  · intro n e hEntity hMember
    rw [CallbackNode.addWallTimer_entities,
      List.getElem?_append] at hEntity
    split at hEntity
    · rename_i hOld
      have hOwned := hOk.members n e hEntity hMember
      exact hOwned.addWallTimer hOld _ _ _ _
    · have hNew := List.mem_of_getElem? hEntity
      rw [List.mem_singleton.mp hNew] at hMember
      simp [hScheduled] at hMember
  · intro n e hEntity
    rw [CallbackNode.addWallTimer_entities,
      List.getElem?_append] at hEntity
    split at hEntity
    · exact hOk.bounded n e hEntity
    · have hNew := List.mem_of_getElem? hEntity
      rw [List.mem_singleton.mp hNew]
  · intro n e hEntity hEarlier
    rw [CallbackNode.addWallTimer_entities,
      List.getElem?_append] at hEntity
    split at hEntity
    · rename_i hOld
      rcases hOk.earlier n e hEntity hEarlier with
        hCancelled | hDead
      · exact Or.inl hCancelled
      · right
        exact CallbackNode.not_live_addWallTimer hDead hOld
          _ _ _ _
    · have hNew := List.mem_of_getElem? hEntity
      rw [List.mem_singleton.mp hNew] at hEarlier
      exact absurd hEarlier (Nat.lt_irrefl _)

/-
  A controller whose timers have run leaves nothing behind
  that the next run could execute.
-/
theorem NodeOk.destroy
    {c : FaultController}
    (hOk : NodeOk generation c.node)
    (hRun : c.TimersHaveRun) :
    NodeOk (generation + 1) (destroy c) := by
  have hSpent :
      ∀ (n : Nat) (e : CallbackEntity Callback),
        c.node.entities[n]? = some e →
          (CampaignRunner.destroy c).Spent n e := by
    intro n e hEntity
    cases hScheduled : e.callback.isScheduled with
    | true =>
        exact Or.inl
          (hRun e (List.mem_of_getElem? hEntity) hScheduled)
    | false =>
        right
        have hOwned := hOk.members n e hEntity hScheduled
        exact CallbackNode.not_live_release
          hOwned.not_live_release .scheduler
  constructor
  · exact (hOk.closed.release .members).release .scheduler
  · intro n e hEntity hMember
    have hOwned := hOk.members n e hEntity hMember
    exact (hOwned.release .members).release .scheduler
  · intro n e hEntity
    exact Nat.le_succ_of_le (hOk.bounded n e hEntity)
  · intro n e hEntity _
    exact hSpent n e hEntity

end NodeOk

------------------------------------------------------------
-- Controllers On The Node
------------------------------------------------------------

/- The controller of a generation on a node as above. -/
def ControllerOk
    (generation : Nat)
    (c : FaultController) : Prop :=
  c.generation = generation ∧ NodeOk generation c.node

section Controllers

variable {h : HashOrder String}
variable {factory : InjectorConfig → Bool}
variable {generation : Nat}

theorem ControllerOk.of_node_eq
    {c other : FaultController}
    (hOk : ControllerOk generation c)
    (hNode : other.node = c.node)
    (hGeneration : other.generation = c.generation) :
    ControllerOk generation other := by
  unfold ControllerOk
  rw [hNode, hGeneration]
  exact hOk

theorem controllerOk_construct
    {node : CallbackNode Owner Callback}
    (hNode : NodeOk generation node)
    (scenario : ScenarioConfig) :
    ControllerOk generation
      (construct h factory node generation
        scenario).state := by
  apply construct_state
  · rintro m s ⟨rfl, hState⟩
    exact ⟨rfl, hState.createMember m⟩
  · intro config _ s hState
    exact hState.of_node_eq rfl rfl
  · intro fault _ s hState
    exact hState.of_node_eq rfl rfl
  · intro fault _ _ s hState
    exact hState.of_node_eq rfl rfl
  · rintro fault _ callback delay hTimer _ s ⟨rfl, hState⟩
    refine ⟨rfl, hState.addWallTimer ?_ (max delay 1)⟩
    rcases callback_of_mem_faultTimers hTimer with hIs | hIs
    · change callback = _ at hIs
      rw [hIs]
      rfl
    · change callback = _ at hIs
      rw [hIs]
      rfl
  · exact ⟨rfl, hNode⟩

theorem ControllerOk.runCallback
    {c : FaultController}
    (hOk : ControllerOk generation c)
    (n : Nat)
    (callback : Callback) :
    ControllerOk generation (c.runCallback n callback) := by
  cases callback with
  | startFault key fault => exact ⟨hOk.1, hOk.2.cancel n⟩
  | stopFault key fault => exact ⟨hOk.1, hOk.2.cancel n⟩
  | member m => exact hOk

end Controllers

------------------------------------------------------------
-- Runs Of A Campaign
------------------------------------------------------------

/- A callback that runs belongs to the present run. -/
def OwnCallbacks
    (s : CampaignRunner)
    (a : Action) : Prop :=
  ∀ planned c n e, s.phase = .running planned c →
    a = .callback n → c.node.ready n = some e →
      e.generation = c.generation

/- A run that ends leaves no start or stop timer pending. -/
def QuietEnd (s : CampaignRunner) : Action → Prop
| .finish _ =>
    match s.phase with
    | .idle _ => True
    | .running _ c => c.TimersHaveRun
    | .unwinding _ c => c.TimersHaveRun
| _ => True

instance
    (s : CampaignRunner)
    (a : Action) :
    Decidable (QuietEnd s a) := by
  unfold QuietEnd
  split
  · split
    · exact isTrue True.intro
    · infer_instance
    · infer_instance
  · exact isTrue True.intro

/-
  The node is free for the next controller, or it belongs to
  the one constructed last.
-/
def Isolated (s : CampaignRunner) : Prop :=
  match s.phase with
  | .idle node => NodeOk s.begun node
  | .running _ c =>
      ControllerOk c.generation c ∧ s.begun = c.generation + 1
  | .unwinding _ c =>
      ControllerOk c.generation c ∧ s.begun = c.generation + 1

section Isolated

variable {h : HashOrder String}
variable {factory : InjectorConfig → Bool}
variable {s t : CampaignRunner}

/- The invariant depends on two fields of the state. -/
theorem Isolated.of_eq
    (hIsolated : s.Isolated)
    (hPhase : t.phase = s.phase)
    (hBegun : t.begun = s.begun) :
    t.Isolated := by
  unfold Isolated
  rw [hPhase, hBegun]
  exact hIsolated

theorem isolated_beginRun
    {node : CallbackNode Owner Callback}
    (hPhase : s.phase = .idle node)
    (hNode : NodeOk s.begun node)
    (planned : PlannedRun)
    (rest : List PlannedRun)
    (content : Except String ScenarioConfig) :
    (s.beginRun h factory node planned rest
      content).Isolated := by
  have hSkipped :
      ∀ message, (s.skipRun planned rest message).Isolated := by
    intro message
    unfold Isolated skipRun
    rw [hPhase]
    exact hNode
  unfold beginRun
  split
  · exact hSkipped _
  · split
    · exact hSkipped _
    · rename_i scenario _
      have hState :
          ControllerOk s.begun
            (construct h factory node s.begun
              scenario).state :=
        controllerOk_construct hNode scenario
      cases hConstruct :
          construct h factory node s.begun scenario with
      | done c =>
          rw [hConstruct, Outcome.state_done] at hState
          unfold Isolated
          simp only
          rw [hState.1]
          exact ⟨hState, rfl⟩
      | threw c =>
          rw [hConstruct, Outcome.state_threw] at hState
          unfold Isolated
          simp only
          rw [hState.1]
          exact ⟨hState, rfl⟩

theorem Isolated.step
    {a : Action}
    (hIsolated : s.Isolated)
    (hQuiet : QuietEnd s a)
    (hStep : s.step h factory a = some t) :
    t.Isolated := by
  have hWhole : s.Isolated := hIsolated
  unfold Isolated at hIsolated
  refine step_keeps ?_ ?_ ?_ ?_ ?_ ?_ hStep
  · intro elapsed rosNow _
    unfold Isolated
    cases hPhase : s.phase with
    | idle node =>
        rw [hPhase] at hIsolated
        exact hIsolated.advance elapsed rosNow
    | running planned c =>
        rw [hPhase] at hIsolated
        exact
          ⟨⟨rfl, hIsolated.1.2.advance elapsed rosNow⟩,
            hIsolated.2⟩
    | unwinding planned c =>
        rw [hPhase] at hIsolated
        exact
          ⟨⟨rfl, hIsolated.1.2.advance elapsed rosNow⟩,
            hIsolated.2⟩
  · intro content node planned rest _ hPhase _
    rw [hPhase] at hIsolated
    exact isolated_beginRun hPhase hIsolated planned rest
      content
  · intro n planned c fired _ hPhase hFired
    rw [hPhase] at hIsolated
    unfold fire at hFired
    cases hReady : c.node.ready n with
    | none => simp [hReady] at hFired
    | some e =>
        simp only [hReady] at hFired
        split at hFired
        · rw [Option.some.injEq] at hFired
          subst hFired
          have hRan := hIsolated.1.runCallback n e.callback
          unfold Isolated
          simp only
          rw [hRan.1]
          exact ⟨hRan, hIsolated.2⟩
        · cases hFired
  · intro planned c delivered _ hPhase hDelivered
    rw [hPhase] at hIsolated
    rcases Option.map_eq_some_iff.mp hDelivered with
      ⟨subscription, _, hEnd⟩
    rw [← hEnd]
    exact hIsolated
  · intro result planned c final hAction hPhase
    have hEnds :
        (ControllerOk c.generation c ∧
            s.begun = c.generation + 1) ∧
          c.TimersHaveRun := by
      subst hAction
      unfold QuietEnd at hQuiet
      rcases hPhase with hRunning | hUnwinding
      · rw [hRunning] at hIsolated hQuiet
        exact ⟨hIsolated, hQuiet⟩
      · rw [hUnwinding] at hIsolated hQuiet
        exact ⟨hIsolated, hQuiet⟩
    rcases hEnds with ⟨⟨hOk, hBegun⟩, hRun⟩
    unfold Isolated endRun
    simp only
    rw [hBegun]
    exact hOk.2.destroy hRun
  · intro node planned rest _ _ _ _
    exact hWhole.of_eq rfl rfl

/- In such a state only the present run's callbacks run. -/
theorem Isolated.ownCallbacks
    (hIsolated : s.Isolated)
    (a : Action) :
    OwnCallbacks s a := by
  intro planned c n e hPhase _ hReady
  unfold Isolated at hIsolated
  rw [hPhase] at hIsolated
  have hNode := hIsolated.1.2
  have hEntity :=
    (CallbackNode.ready_eq_some_iff.mp hReady).1
  have hBound := hNode.bounded n e hEntity
  by_contra hOther
  have hEarlier : e.generation < c.generation := by
    omega
  exact (hNode.earlier n e hEntity hEarlier).not_ready hReady

end Isolated

/-
  In a campaign whose runs end with no timer pending, every
  callback that runs belongs to the present run.
-/
theorem runs_are_independent
    {h : HashOrder String}
    {factory : InjectorConfig → Bool}
    {actions : List Action}
    (campaign : CampaignConfig)
    (timeout steadyNow rosNow : Int)
    (hQuiet :
      Along (step h factory) QuietEnd
        (start campaign timeout
          { steadyNow := steadyNow, rosNow := rosNow })
        actions) :
    Along (step h factory) OwnCallbacks
      (start campaign timeout
        { steadyNow := steadyNow, rosNow := rosNow })
      actions := by
  have hInitial :
      (start campaign timeout
        { steadyNow := steadyNow
          rosNow := rosNow }).Isolated := by
    unfold start
    split
    · exact nodeOk_new steadyNow rosNow
    · exact nodeOk_new steadyNow rosNow
  apply along_of_invariant (I := Isolated) ?_ ?_ hInitial
    hQuiet
  · intro s a t hS hEnd hStep
    exact hS.step hEnd hStep
  · intro s a hS _
    exact hS.ownCallbacks a

end CampaignRunner

------------------------------------------------------------
-- Pending Timers Reach The Next Run
------------------------------------------------------------

namespace CampaignRunner

open FaultController FaultScheduler

/-
  A timer that is pending when its controller is destroyed
  is ready some time after the next controller was built.
-/
theorem stale_timer_ready
    {h : HashOrder String}
    {factory : InjectorConfig → Bool}
    {scenario : ScenarioConfig}
    {c d : FaultController}
    (hPersist : c.TimersPersist)
    (hPending : ¬ c.TimersHaveRun)
    (hNext :
      construct h factory (destroy c) (c.generation + 1)
          scenario =
        .done d) :
    ∃ elapsed n e,
      (d.node.advance elapsed 0).ready n = some e ∧
        e.callback.isScheduled = true ∧
          e.generation ≠ d.generation := by
  unfold TimersHaveRun at hPending
  push Not at hPending
  rcases hPending with ⟨e, hMember, hScheduled, hCancelled⟩
  rcases List.mem_iff_getElem?.mp hMember with ⟨n, hEntity⟩
  have hGeneration := (hPersist n e hEntity hScheduled).2
  -- the next constructor keeps what the node holds
  have hAfter :
      (construct h factory (destroy c) (c.generation + 1)
            scenario).state.TimersPersist ∧
        (construct h factory (destroy c) (c.generation + 1)
            scenario).state.generation = c.generation + 1 ∧
          ∃ more,
            (construct h factory (destroy c)
                (c.generation + 1)
                scenario).state.node.entities =
              c.node.entities ++ more := by
    apply construct_state
      (P := fun s =>
        s.TimersPersist ∧ s.generation = c.generation + 1 ∧
          ∃ more, s.node.entities = c.node.entities ++ more)
    · rintro m s ⟨hState, hSame, more, hMore⟩
      refine ⟨hState.createMember m, hSame, ?_⟩
      change ∃ more', s.node.entities ++ _ = _ ++ more'
      rw [hMore]
      exact ⟨_, List.append_assoc _ _ _⟩
    · rintro config _ s ⟨hState, hRest⟩
      exact ⟨hState.of_node_eq rfl rfl, hRest⟩
    · rintro fault _ s ⟨hState, hRest⟩
      exact ⟨hState.of_node_eq rfl rfl, hRest⟩
    · rintro fault _ _ s ⟨hState, hRest⟩
      exact ⟨hState.of_node_eq rfl rfl, hRest⟩
    · rintro fault _ callback delay _ _ s
        ⟨hState, hSame, more, hMore⟩
      refine ⟨hState.addTimer callback delay, hSame, ?_⟩
      change ∃ more', s.node.entities ++ _ = _ ++ more'
      rw [hMore]
      exact ⟨_, List.append_assoc _ _ _⟩
    · refine ⟨?_, rfl, [], by simp [destroy]⟩
      intro m d hD hS
      rcases hPersist m d hD hS with ⟨hSelf, hBound⟩
      exact ⟨(hSelf.release .members).release .scheduler,
        Nat.le_succ_of_le hBound⟩
  rw [hNext, Outcome.state_done] at hAfter
  rcases hAfter with ⟨hPersistAfter, hSame, more, hMore⟩
  have hStill : d.node.entities[n]? = some e := by
    rw [hMore, List.getElem?_append_left
      (List.getElem?_eq_some_iff.mp hEntity).1]
    exact hEntity
  rcases ready_after_wait hPersistAfter hStill hScheduled
      (by simpa using hCancelled) with ⟨elapsed, hReady⟩
  refine ⟨elapsed, n, e, hReady, hScheduled, ?_⟩
  omega

end CampaignRunner

------------------------------------------------------------
-- A Run That Ends Before The Start Time
------------------------------------------------------------

namespace CampaignRunner.EarlyEnd

open Transition

/- Two values for a fault that starts after one second. -/
def campaign : CampaignConfig where
  baseScenario := "base.yaml"
  variants :=
    [{ faultId := "bias", key := "x_bias",
       values := ["0.5", "1.0"] }]

def base : ScenarioConfig where
  injectors :=
    [{ id := "base", type := "odom",
       topic := some
        { inputTopic := "odom"
          outputTopic := "odom_faulty" } }]
  faults :=
    [{ id := "bias", injectorId := "base",
       start := some 1000 }]

def timedOut : ScenarioRunnerResult where
  success := false
  message := "Scenario timed out"
  finalResult := "timeout"
  reportMarkdown := ""

def begun : CampaignRunner :=
  start campaign 500 { steadyNow := 0, rosNow := 0 }

/- The first run ends at once; one second later the second. -/
def actions : List Action :=
  [ .beginRun (.ok base), .finish (.ok timedOut),
    .beginRun (.ok base), .advance 1000000000 0 ]

/- An entity of an earlier run may run during this run. -/
def staleReady (s : CampaignRunner) (n : Nat) : Bool :=
  match s.phase with
  | .running _ c =>
      (c.node.ready n).any fun e =>
        e.generation ≠ c.generation
  | _ => false

/-
  The start timer of the first run, entity 3, then runs while
  the second run spins the node.
-/
theorem runs_interfere :
    ¬ Along (step .insertion fun _ => true) OwnCallbacks begun
        (actions ++ [.callback 3]) := by
  intro hAlong
  have hReady :
      (run (step .insertion fun _ => true) begun actions).any
        (fun s => staleReady s 3) =
          true := by
    decide +kernel
  rw [Option.any_eq_true] at hReady
  rcases hReady with ⟨s, hRun, hStale⟩
  rw [along_append_iff] at hAlong
  have hOwn := (hAlong.2 s hRun).1
  unfold staleReady at hStale
  cases hPhase : s.phase with
  | idle node => simp [hPhase] at hStale
  | unwinding planned c => simp [hPhase] at hStale
  | running planned c =>
      simp only [hPhase, Option.any_eq_true] at hStale
      rcases hStale with ⟨e, hFires, hOld⟩
      have hSame := hOwn planned c 3 e hPhase rfl hFires
      simp [hSame] at hOld

/- Runs that last until the start timer has run. -/
theorem runs_are_independent_of_waiting :
    Along (step .insertion fun _ => true) OwnCallbacks begun
      [ .beginRun (.ok base), .advance 1000000000 0,
        .callback 3, .finish (.ok timedOut),
        .beginRun (.ok base), .advance 1000000000 0,
        .callback 8, .finish (.ok timedOut) ] := by
  apply runs_are_independent
  decide +kernel

end CampaignRunner.EarlyEnd
