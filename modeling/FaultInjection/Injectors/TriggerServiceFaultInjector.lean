import FaultInjection.Foundations.Transition
import FaultInjection.Core.FaultInjectorBase

/-
  The trigger service proxy in the process that serves it.

  The request callback forwards the request and waits for a
  future. The future becomes ready only when the executor
  runs the client's response handler, or another callback
  gives up the promise, which needs a thread of its own while
  the request callback waits.

  Key definitions include:
    * `TriggerServiceFaultInjector.Process`
    * `TriggerServiceFaultInjector.step`
    * `TriggerServiceFaultInjector.Transparent`

  Key theorems include:
    * `TriggerServiceFaultInjector.Blocked.step`
    * `TriggerServiceFaultInjector.answers_with_two_threads`
    * `TriggerServiceFaultInjector.never_transparent`
-/

------------------------------------------------------------
-- Process State
------------------------------------------------------------

namespace TriggerServiceFaultInjector

open Transition

structure Response where
  success : Bool
  message : String
deriving DecidableEq

def timeoutResponse : Response where
  success := false
  message := "Trigger service timeout"

def unavailableResponse : Response where
  success := false
  message := "Trigger service unavailable"

def errorResponse : Response where
  success := false
  message := "Error calling trigger service"

/-
  What a future has when it is ready: the response, or an
  exception if its promise was given up.
-/
inductive Ready where
| response : Response → Ready
| exception : Ready
deriving DecidableEq

/- A delay in nanoseconds; a negative one is no delay. -/
def nanoseconds (delay : Int) : Nat :=
  delay.toNat * 1000000

/- How long the callback looks for the target service. -/
def serviceTimeout : Nat := 100000000

/- How long the callback waits for the response. -/
def responseTimeout : Nat := 2000000000

/-
  How far the request callback is. It sleeps until a time,
  is about to read the message of a forced failure, looks for
  the target service since a time, or waits for the response
  to a request that it forwarded at a time.
-/
inductive Stage where
| requested : Stage
| sleeping : Nat → Stage
| failing : Stage
| probing : Nat → Stage
| waiting : Nat → Stage
| answered : Response → Stage
deriving DecidableEq

/-
  One request at the proxy. Times are in nanoseconds. Of the
  executor's threads some are busy with a callback. A response
  that reached the process waits for its handler, which makes
  the future ready.
-/
structure Process where
  threads : Nat
  injector : FaultInjectorBase
  now : Nat := 0
  busy : Nat := 0
  stage : Stage := .requested
  sentAt : Option Nat := none
  arrived : Option (Response × Nat) := none
  future : Option Ready := none
deriving DecidableEq

/- The nodes spin on the calling thread only. -/
def shippedThreads : Nat := 1

/- The process when the request has arrived. -/
def process
    (threads : Nat)
    (injector : FaultInjectorBase) : Process where
  threads := threads
  injector := injector

namespace Process

/- Some thread can run another callback. -/
def hasFreeThread (p : Process) : Bool :=
  p.busy < p.threads

/- The request callback returns with a response. -/
def respond
    (p : Process)
    (response : Response) : Process :=
  { p with
    stage := .answered response
    busy := p.busy - 1 }

def answer (p : Process) : Option Response :=
  match p.stage with
  | .answered response => some response
  | _ => none

/- The response came so long after the request was sent. -/
def Received
    (p : Process)
    (response : Response)
    (late : Nat) : Prop :=
  ∃ sentAt, p.sentAt = some sentAt ∧
    p.arrived = some (response, sentAt + late)

end Process

------------------------------------------------------------
-- Steps
------------------------------------------------------------

/-
  What can happen next. Any other callback of the node runs
  to completion and may leave the injector changed.
-/
inductive Action where
| tick : Nat → Action
| otherCallback : FaultInjectorBase → Action
| startRequest : Action
| endDelay : Action
| readMessage : Action
| findService : Bool → Action
| arrive : Response → Action
| handleResponse : Action
| giveUp : Action
| endWait : Action

/- `on_request` up to its sleep; a bad delay text throws. -/
def startRequest
    (h : HashOrder String)
    (p : Process) : Option Process :=
  match p.stage with
  | .requested =>
      if p.hasFreeThread then
        match p.injector.activeDelay h with
        | .error _ => none
        | .ok delay =>
            some
              { p with
                busy := p.busy + 1
                stage :=
                  .sleeping (p.now + nanoseconds delay) }
      else
        none
  | _ => none

/- After the sleep: whether a fault forces a failure. -/
def endDelay
    (h : HashOrder String)
    (p : Process) : Option Process :=
  match p.stage with
  | .sleeping wakeAt =>
      if wakeAt ≤ p.now then
        match
          p.injector.activeBool h "force_failure" false
        with
        | .error _ => none
        | .ok true => some { p with stage := .failing }
        | .ok false => some { p with stage := .probing p.now }
      else
        none
  | _ => none

/- The message of the failure is read on its own. -/
def readMessage
    (h : HashOrder String)
    (p : Process) : Option Process :=
  match p.stage with
  | .failing =>
      match
        p.injector.activeString h "failure_message"
          "Injected service failure"
      with
      | .error _ => none
      | .ok message => some (p.respond ⟨false, message⟩)
  | _ => none

/- Forward the request if the target is found in 100 ms. -/
def findService
    (available : Bool)
    (p : Process) : Option Process :=
  match p.stage with
  | .probing since =>
      if available then
        some
          { p with
            stage := .waiting p.now
            sentAt := some p.now }
      else if since + serviceTimeout ≤ p.now then
        some (p.respond unavailableResponse)
      else
        none
  | _ => none

/- The target's response reaches the process. -/
def arrive
    (response : Response)
    (p : Process) : Option Process :=
  match p.sentAt, p.arrived with
  | some _, none =>
      some { p with arrived := some (response, p.now) }
  | _, _ => none

/- The executor runs the client's response handler. -/
def handleResponse (p : Process) : Option Process :=
  match p.arrived, p.future with
  | some (response, _), none =>
      if p.hasFreeThread then
        some { p with future := some (.response response) }
      else
        none
  | _, _ => none

/-
  Another callback gives up the promise of the request, which
  makes the future throw.
-/
def giveUp (p : Process) : Option Process :=
  match p.sentAt, p.future with
  | some _, none =>
      if p.hasFreeThread then
        some { p with future := some .exception }
      else
        none
  | _, _ => none

/- The wait ends with the future or after two seconds. -/
def endWait (p : Process) : Option Process :=
  match p.stage with
  | .waiting sentAt =>
      match p.future with
      | some (.response response) => some (p.respond response)
      | some .exception => some (p.respond errorResponse)
      | none =>
          if sentAt + responseTimeout ≤ p.now then
            some (p.respond timeoutResponse)
          else
            none
  | _ => none

def step
    (h : HashOrder String)
    (p : Process) : Action → Option Process
| .tick elapsed => some { p with now := p.now + elapsed }
| .otherCallback injector =>
    if p.hasFreeThread then
      some { p with injector := injector }
    else
      none
| .startRequest => startRequest h p
| .endDelay => endDelay h p
| .readMessage => readMessage h p
| .findService available => findService available p
| .arrive response => arrive response p
| .handleResponse => handleResponse p
| .giveUp => giveUp p
| .endWait => endWait p

/-
  Whenever the target's response arrives so late and the
  request gets an answer, the answer is that response and not
  a timeout.
-/
def Transparent
    (h : HashOrder String)
    (threads : Nat)
    (injector : FaultInjectorBase)
    (response : Response)
    (late : Nat) : Prop :=
  ∀ actions last answer,
    run (step h) (process threads injector) actions =
        some last →
      last.Received response late →
        last.answer = some answer →
          answer = response ∧
            answer.message ≠ timeoutResponse.message

------------------------------------------------------------
-- One Thread
------------------------------------------------------------

/-
  The only thread is busy from the start of the request
  callback until its answer, so no response is handled in
  between. An answer to a forwarded request is a timeout.
-/
def Blocked (p : Process) : Prop :=
  p.threads = 1 ∧
    match p.stage with
    | .requested =>
        p.sentAt = none ∧ p.arrived = none ∧ p.future = none
    | .sleeping _ =>
        p.busy = 1 ∧ p.sentAt = none ∧ p.future = none
    | .failing =>
        p.busy = 1 ∧ p.sentAt = none ∧ p.future = none
    | .probing _ =>
        p.busy = 1 ∧ p.sentAt = none ∧ p.future = none
    | .waiting _ => p.busy = 1 ∧ p.future = none
    | .answered response =>
        p.sentAt ≠ none → response = timeoutResponse

section OneThread

variable {h : HashOrder String}
variable {p q : Process}

theorem blocked_process (injector : FaultInjectorBase) :
    Blocked (process shippedThreads injector) :=
  ⟨rfl, rfl, rfl, rfl⟩

/- Time and the injector's faults do not matter. -/
theorem Blocked.of_eq
    (hBlocked : Blocked p)
    (hThreads : q.threads = p.threads)
    (hBusy : q.busy = p.busy)
    (hStage : q.stage = p.stage)
    (hSent : q.sentAt = p.sentAt)
    (hArrived : q.arrived = p.arrived)
    (hFuture : q.future = p.future) :
    Blocked q := by
  unfold Blocked
  rw [hThreads, hBusy, hStage, hSent, hArrived, hFuture]
  exact hBlocked

theorem Blocked.startRequest
    (hBlocked : Blocked p)
    (hStep : startRequest h p = some q) :
    Blocked q := by
  rcases hBlocked with ⟨hThreads, hStage⟩
  unfold TriggerServiceFaultInjector.startRequest at hStep
  cases hCase : p.stage with
  | requested =>
      rw [hCase] at hStage
      simp only [hCase, Process.hasFreeThread, hThreads,
        decide_eq_true_eq] at hStep
      split at hStep
      · rename_i hFree
        split at hStep
        · cases hStep
        · rw [Option.some.injEq] at hStep
          subst hStep
          have hBusy : p.busy + 1 = 1 := by omega
          exact ⟨rfl, hBusy, hStage.1, hStage.2.2⟩
      · cases hStep
  | _ => simp [hCase] at hStep

theorem Blocked.endDelay
    (hBlocked : Blocked p)
    (hStep : endDelay h p = some q) :
    Blocked q := by
  rcases hBlocked with ⟨hThreads, hStage⟩
  unfold TriggerServiceFaultInjector.endDelay at hStep
  cases hCase : p.stage with
  | sleeping wakeAt =>
      rw [hCase] at hStage
      simp only [hCase] at hStep
      split at hStep
      · split at hStep
        · cases hStep
        · rw [Option.some.injEq] at hStep
          subst hStep
          exact ⟨hThreads, hStage⟩
        · rw [Option.some.injEq] at hStep
          subst hStep
          exact ⟨hThreads, hStage⟩
      · cases hStep
  | _ => simp [hCase] at hStep

theorem Blocked.readMessage
    (hBlocked : Blocked p)
    (hStep : readMessage h p = some q) :
    Blocked q := by
  rcases hBlocked with ⟨hThreads, hStage⟩
  unfold TriggerServiceFaultInjector.readMessage at hStep
  cases hCase : p.stage with
  | failing =>
      rw [hCase] at hStage
      simp only [hCase] at hStep
      split at hStep
      · cases hStep
      · rw [Option.some.injEq] at hStep
        subst hStep
        exact ⟨hThreads, fun hSent => absurd hStage.2.1 hSent⟩
  | _ => simp [hCase] at hStep

theorem Blocked.findService
    {available : Bool}
    (hBlocked : Blocked p)
    (hStep : findService available p = some q) :
    Blocked q := by
  rcases hBlocked with ⟨hThreads, hStage⟩
  unfold TriggerServiceFaultInjector.findService at hStep
  cases hCase : p.stage with
  | probing since =>
      rw [hCase] at hStage
      simp only [hCase] at hStep
      split at hStep
      · rw [Option.some.injEq] at hStep
        subst hStep
        exact ⟨hThreads, hStage.1, hStage.2.2⟩
      · split at hStep
        · rw [Option.some.injEq] at hStep
          subst hStep
          exact ⟨hThreads, fun hSent =>
            absurd hStage.2.1 hSent⟩
        · cases hStep
  | _ => simp [hCase] at hStep

/- A response can arrive, but only a sent request has one. -/
theorem Blocked.arrive
    {response : Response}
    (hBlocked : Blocked p)
    (hStep : arrive response p = some q) :
    Blocked q := by
  rcases hBlocked with ⟨hThreads, hStage⟩
  unfold TriggerServiceFaultInjector.arrive at hStep
  split at hStep
  · rename_i sentAt hSent _
    rw [Option.some.injEq] at hStep
    subst hStep
    refine ⟨hThreads, ?_⟩
    cases hCase : p.stage with
    | requested =>
        rw [hCase] at hStage
        rw [hStage.1] at hSent
        cases hSent
    | _ =>
        rw [hCase] at hStage
        exact hStage
  · cases hStep

/- The handler finds no thread before the answer. -/
theorem Blocked.handleResponse
    (hBlocked : Blocked p)
    (hStep : handleResponse p = some q) :
    Blocked q := by
  rcases hBlocked with ⟨hThreads, hStage⟩
  unfold TriggerServiceFaultInjector.handleResponse at hStep
  split at hStep
  · rename_i response arrivedAt hArrived _
    simp only [Process.hasFreeThread, hThreads,
      decide_eq_true_eq] at hStep
    split at hStep
    · rename_i hFree
      rw [Option.some.injEq] at hStep
      subst hStep
      refine ⟨rfl, ?_⟩
      cases hCase : p.stage with
      | requested =>
          rw [hCase] at hStage
          rw [hStage.2.1] at hArrived
          cases hArrived
      | answered answer =>
          rw [hCase] at hStage
          exact hStage
      | _ =>
          rw [hCase] at hStage
          have hBusy := hStage.1
          omega
    · cases hStep
  · cases hStep

/- No other callback runs before the answer either. -/
theorem Blocked.giveUp
    (hBlocked : Blocked p)
    (hStep : giveUp p = some q) :
    Blocked q := by
  rcases hBlocked with ⟨hThreads, hStage⟩
  unfold TriggerServiceFaultInjector.giveUp at hStep
  split at hStep
  · rename_i sentAt hSent _
    simp only [Process.hasFreeThread, hThreads,
      decide_eq_true_eq] at hStep
    split at hStep
    · rename_i hFree
      rw [Option.some.injEq] at hStep
      subst hStep
      refine ⟨rfl, ?_⟩
      cases hCase : p.stage with
      | requested =>
          rw [hCase] at hStage
          rw [hStage.1] at hSent
          cases hSent
      | answered answer =>
          rw [hCase] at hStage
          exact hStage
      | _ =>
          rw [hCase] at hStage
          have hBusy := hStage.1
          omega
    · cases hStep
  · cases hStep

/- Without the future the wait can only time out. -/
theorem Blocked.endWait
    (hBlocked : Blocked p)
    (hStep : endWait p = some q) :
    Blocked q := by
  rcases hBlocked with ⟨hThreads, hStage⟩
  unfold TriggerServiceFaultInjector.endWait at hStep
  cases hCase : p.stage with
  | waiting sentAt =>
      rw [hCase] at hStage
      simp only [hCase, hStage.2] at hStep
      split at hStep
      · rw [Option.some.injEq] at hStep
        subst hStep
        exact ⟨hThreads, fun _ => rfl⟩
      · cases hStep
  | _ => simp [hCase] at hStep

theorem Blocked.step
    {a : Action}
    (hBlocked : Blocked p)
    (hStep : step h p a = some q) :
    Blocked q := by
  cases a with
  | tick elapsed =>
      rw [TriggerServiceFaultInjector.step,
        Option.some.injEq] at hStep
      subst hStep
      exact hBlocked.of_eq rfl rfl rfl rfl rfl rfl
  | otherCallback injector =>
      rw [TriggerServiceFaultInjector.step] at hStep
      split at hStep
      · rw [Option.some.injEq] at hStep
        subst hStep
        exact hBlocked.of_eq rfl rfl rfl rfl rfl rfl
      · cases hStep
  | startRequest => exact hBlocked.startRequest hStep
  | endDelay => exact hBlocked.endDelay hStep
  | readMessage => exact hBlocked.readMessage hStep
  | findService available => exact hBlocked.findService hStep
  | arrive response => exact hBlocked.arrive hStep
  | handleResponse => exact hBlocked.handleResponse hStep
  | giveUp => exact hBlocked.giveUp hStep
  | endWait => exact hBlocked.endWait hStep

/- Every answer to a forwarded request is a timeout. -/
theorem answer_eq_timeout
    {injector : FaultInjectorBase}
    {actions : List Action}
    {last : Process}
    {answer : Response}
    (hRun :
      run (TriggerServiceFaultInjector.step h)
          (process shippedThreads injector) actions =
        some last)
    (hSent : last.sentAt ≠ none)
    (hAnswer : last.answer = some answer) :
    answer = timeoutResponse := by
  have hBlocked : Blocked last :=
    run_invariant (P := fun _ _ => True)
      (fun _ _ _ hState _ hStep => hState.step hStep)
      (blocked_process injector)
      (along_of_forall (fun _ _ => True.intro) _ actions) hRun
  have hStage := hBlocked.2
  unfold Process.answer at hAnswer
  cases hCase : last.stage with
  | answered response =>
      rw [hCase] at hStage
      simp only [hCase, Option.some.injEq] at hAnswer
      rw [← hAnswer]
      exact hStage hSent
  | _ => simp [hCase] at hAnswer

end OneThread

------------------------------------------------------------
-- Answers
------------------------------------------------------------

section Answers

variable {h : HashOrder String}
variable {injector : FaultInjectorBase}
variable {delay : Int}

/- Wait for the configured delay and forward the request. -/
def forwarding (wait : Nat) : List Action :=
  [ .startRequest, .tick wait, .endDelay,
    .findService true ]

/- The process that has just forwarded the request. -/
def forwarded
    (threads : Nat)
    (injector : FaultInjectorBase)
    (wait : Nat) : Process where
  threads := threads
  injector := injector
  now := wait
  busy := 1
  stage := .waiting wait
  sentAt := some wait

/- Nothing keeps the proxy from forwarding the request. -/
theorem run_forwarding
    {threads wait : Nat}
    (hThreads : 0 < threads)
    (hDelay : injector.activeDelay h = .ok delay)
    (hForce :
      injector.activeBool h "force_failure" false =
        .ok false)
    (hWait : nanoseconds delay = wait) :
    run (step h) (process threads injector)
        (forwarding wait) =
      some (forwarded threads injector wait) := by
  simp [run, forwarding, forwarded, process, step,
    startRequest, endDelay, findService,
    Process.hasFreeThread, hThreads, hDelay, hForce, hWait]

/-
  With a second thread the handler runs while the request
  callback waits, and the proxy answers with the response.
-/
theorem answers_with_two_threads
    (hDelay : injector.activeDelay h = .ok delay)
    (hForce :
      injector.activeBool h "force_failure" false =
        .ok false)
    (response : Response)
    (late : Nat) :
    ∃ actions last,
      run (step h) (process 2 injector) actions =
          some last ∧
        last.Received response late ∧
          last.answer = some response := by
  generalize hWait : nanoseconds delay = wait
  have hForward :
      run (step h) (process 2 injector) (forwarding wait) =
        some (forwarded 2 injector wait) :=
    run_forwarding (by omega) hDelay hForce hWait
  let answered : Process :=
    { threads := 2
      injector := injector
      now := wait + late
      stage := .answered response
      sentAt := some wait
      arrived := some (response, wait + late)
      future := some (.response response) }
  have hAnswer :
      run (step h) (forwarded 2 injector wait)
          [ .tick late, .arrive response, .handleResponse,
            .endWait ] =
        some answered := by
    rfl
  have hRun := run_append_iff.mpr ⟨_, hForward, hAnswer⟩
  exact ⟨_, answered, hRun, ⟨wait, rfl, rfl⟩, rfl⟩

/- The process when the wait for the response is over. -/
def overdue
    (injector : FaultInjectorBase)
    (response : Response)
    (wait late : Nat) : Process where
  threads := 1
  injector := injector
  now := wait + late + responseTimeout
  busy := 1
  stage := .waiting wait
  sentAt := some wait
  arrived := some (response, wait + late)

theorem step_overdue
    (response : Response)
    (wait late : Nat) :
    step h (overdue injector response wait late) .endWait =
      some
        ((overdue injector response wait late).respond
          timeoutResponse) := by
  have hElapsed :
      wait + responseTimeout ≤
        wait + late + responseTimeout := by
    omega
  rw [step]
  unfold endWait overdue
  simp only
  rw [if_pos hElapsed]

/- With one thread the proxy times out and answers that. -/
theorem times_out_with_one_thread
    (hDelay : injector.activeDelay h = .ok delay)
    (hForce :
      injector.activeBool h "force_failure" false =
        .ok false)
    (response : Response)
    (late : Nat) :
    ∃ actions last,
      run (step h) (process shippedThreads injector)
          actions =
          some last ∧
        last.Received response late ∧
          last.answer = some timeoutResponse := by
  generalize hWait : nanoseconds delay = wait
  have hForward :
      run (step h) (process shippedThreads injector)
          (forwarding wait) =
        some (forwarded 1 injector wait) :=
    run_forwarding (by decide) hDelay hForce hWait
  have hLate :
      run (step h) (forwarded 1 injector wait)
          [ .tick late, .arrive response,
            .tick responseTimeout ] =
        some (overdue injector response wait late) := by
    rfl
  have hEnd :
      run (step h) (overdue injector response wait late)
          [.endWait] =
        some
          ((overdue injector response wait late).respond
            timeoutResponse) :=
    run_cons_iff.mpr
      ⟨_, step_overdue response wait late, rfl⟩
  have hWhole := run_append_iff.mpr ⟨_, hForward, hLate⟩
  have hRun := run_append_iff.mpr ⟨_, hWhole, hEnd⟩
  refine ⟨_, _, hRun, ?_, ?_⟩
  · exact ⟨wait, rfl, rfl⟩
  · rfl

end Answers

/-
  In the shipped nodes a request that no fault fails is not
  answered with the target's response, however soon that
  arrives: every answer to it is the timeout.
-/
theorem never_transparent
    {h : HashOrder String}
    {injector : FaultInjectorBase}
    {delay : Int}
    (hDelay : injector.activeDelay h = .ok delay)
    (hForce :
      injector.activeBool h "force_failure" false =
        .ok false)
    (response : Response)
    (late : Nat) :
    ¬ Transparent h shippedThreads injector response late ∧
      ∀ actions last answer,
        run (step h) (process shippedThreads injector)
            actions =
            some last →
          last.Received response late →
            last.answer = some answer →
              answer = timeoutResponse := by
  have hEvery :
      ∀ actions last answer,
        run (step h) (process shippedThreads injector)
            actions =
            some last →
          last.Received response late →
            last.answer = some answer →
              answer = timeoutResponse := by
    rintro actions last answer hRun ⟨sentAt, hSent, _⟩ hAnswer
    exact answer_eq_timeout hRun (by simp [hSent]) hAnswer
  refine ⟨?_, hEvery⟩
  intro hTransparent
  rcases times_out_with_one_thread hDelay hForce response
      late with
    ⟨actions, last, hRun, hReceived, hAnswer⟩
  have hSame := hTransparent actions last _ hRun hReceived
    hAnswer
  exact hSame.2 rfl

end TriggerServiceFaultInjector

------------------------------------------------------------
-- A Request Without Any Fault
------------------------------------------------------------

namespace TriggerServiceFaultInjector.NoFaults

open Transition

/- An injector without faults. -/
def injector : FaultInjectorBase where
  config :=
    { id := "trigger", type := "trigger_service",
      triggerService := some
        { proxyService := "start"
          targetService := "start_real" } }

/- The target accepts half a second after the request. -/
def response : Response where
  success := true
  message := "started"

def actions : List Action :=
  [ .startRequest, .endDelay, .findService true,
    .tick 500000000, .arrive response,
    .tick 1500000000, .endWait ]

/-
  The response arrives after half a second, and the proxy
  answers with a timeout.
-/
theorem not_transparent :
    ¬ Transparent .insertion shippedThreads injector response
        500000000 := by
  intro hTransparent
  let last : Process :=
    { threads := 1
      injector := injector
      now := 2000000000
      stage := .answered timeoutResponse
      sentAt := some 0
      arrived := some (response, 500000000) }
  have hRun :
      run (step .insertion) (process shippedThreads injector)
          actions =
        some last := by
    decide
  have hSame :=
    hTransparent actions last timeoutResponse hRun
      ⟨0, rfl, rfl⟩ rfl
  exact hSame.2 rfl

theorem never_transparent_of_no_faults :
    ¬ Transparent .insertion shippedThreads injector response
        500000000 ∧
      ∀ actions last answer,
        run (step .insertion)
            (process shippedThreads injector) actions =
            some last →
          last.Received response 500000000 →
            last.answer = some answer →
              answer = timeoutResponse := by
  have hDelay :
      injector.activeDelay .insertion = .ok 0 := by
    decide
  have hForce :
      injector.activeBool .insertion "force_failure" false =
        .ok false := by
    decide
  exact never_transparent hDelay hForce response 500000000

end TriggerServiceFaultInjector.NoFaults
