import FaultInjection.Injectors.TriggerServiceFaultInjector

/-
  Where the answers of the trigger service proxy come from.

  However many threads serve the process, a request has one
  answer. It is the failure that a fault asks for, one of the
  three failures of the proxy or the response of the target,
  and the target is only called after the delay and when no
  fault forces a failure then. The message of a forced failure
  is read later than the force, so it may come from a fault
  that was not active before.

  Key definitions include:
    * `TriggerServiceFaultInjector.DelayEnded`
    * `TriggerServiceFaultInjector.Explained`
    * `TriggerServiceFaultInjector.Accounted`

  Key theorems include:
    * `TriggerServiceFaultInjector.Accounted.step`
    * `TriggerServiceFaultInjector.answers_are_explained`
-/

namespace TriggerServiceFaultInjector

open Transition

------------------------------------------------------------
-- Reasons
------------------------------------------------------------

section Reasons

variable (h : HashOrder String)
variable (threads : Nat)
variable (injector : FaultInjectorBase)

/-
  The delay in force when the callback began is over at this
  time.
-/
def DelayOver (past : List Action) (time : Nat) : Prop :=
  ∃ m delay,
    Performs (step h) (process threads injector) past m
        .startRequest ∧
      m.injector.activeDelay h = .ok delay ∧
        m.now + nanoseconds delay ≤ time

/-
  The delay was over, and at its end it was read whether an
  active fault forces a failure.
-/
def DelayEnded
    (forced : Bool)
    (past : List Action)
    (time : Nat) : Prop :=
  ∃ m,
    Performs (step h) (process threads injector) past m
        .endDelay ∧
      DelayOver h threads injector past m.now ∧
        m.injector.activeBool h "force_failure" false =
            .ok forced ∧
          m.now ≤ time

/- The request was permitted to be forwarded. -/
def Permitted (past : List Action) (time : Nat) : Prop :=
  DelayEnded h threads injector false past time

/-
  Another callback gave up the promise of the request that was
  sent at this time.
-/
def GivenUp (past : List Action) (sentAt : Nat) : Prop :=
  ∃ m,
    Performs (step h) (process threads injector) past m
        .giveUp ∧
      m.sentAt = some sentAt

/- Why the proxy gave an answer. -/
inductive Explained
    (past : List Action)
    (p : Process)
    (answer : Response) : Prop
| injected
    (m : Process)
    (read :
      Performs (step h) (process threads injector) past m
        .readMessage)
    (forced : DelayEnded h threads injector true past m.now)
    (message :
      m.injector.activeString h "failure_message"
          "Injected service failure" =
        .ok answer.message)
    (failed : answer.success = false)
    (unsent : p.sentAt = none) :
    Explained past p answer
| unavailable
    (start : Nat)
    (permitted : Permitted h threads injector past start)
    (waited : start + serviceTimeout ≤ p.now)
    (failed : answer = unavailableResponse)
    (unsent : p.sentAt = none) :
    Explained past p answer
| timedOut
    (sentAt : Nat)
    (sent : p.sentAt = some sentAt)
    (permitted : Permitted h threads injector past sentAt)
    (waited : sentAt + responseTimeout ≤ p.now)
    (failed : answer = timeoutResponse) :
    Explained past p answer
| failedCall
    (sentAt : Nat)
    (sent : p.sentAt = some sentAt)
    (permitted : Permitted h threads injector past sentAt)
    (givenUp : GivenUp h threads injector past sentAt)
    (failed : answer = errorResponse) :
    Explained past p answer
| forwarded
    (late : Nat)
    (received : p.Received answer late)
    (permitted :
      ∀ sentAt,
        p.sentAt = some sentAt →
          Permitted h threads injector past sentAt) :
    Explained past p answer

/- What led to the stage that the callback is at. -/
def Placed
    (past : List Action)
    (p : Process) : Stage → Prop
| .requested => p.sentAt = none
| .sleeping wakeAt =>
    p.sentAt = none ∧
      DelayOver h threads injector past wakeAt
| .failing =>
    p.sentAt = none ∧
      DelayEnded h threads injector true past p.now
| .probing start =>
    p.sentAt = none ∧ start ≤ p.now ∧
      Permitted h threads injector past start
| .waiting sentAt => p.sentAt = some sentAt
| .answered response =>
    Explained h threads injector past p response

/- Each value of the callback's state has its reason. -/
structure Accounted
    (past : List Action)
    (p : Process) : Prop where
  stage : Placed h threads injector past p p.stage
  sent :
    ∀ sentAt,
      p.sentAt = some sentAt →
        sentAt ≤ p.now ∧
          Permitted h threads injector past sentAt
  arrived :
    ∀ response time,
      p.arrived = some (response, time) →
        ∃ late, p.Received response late
  future :
    ∀ response,
      p.future = some (.response response) →
        ∃ late, p.Received response late
  exception :
    p.future = some .exception →
      ∃ sentAt,
        p.sentAt = some sentAt ∧
          GivenUp h threads injector past sentAt

end Reasons

------------------------------------------------------------
-- Later Moments
------------------------------------------------------------

section Later

variable {h : HashOrder String}
variable {threads : Nat}
variable {injector : FaultInjectorBase}
variable {past : List Action}
variable {p q : Process}

theorem DelayOver.snoc
    {time : Nat}
    (hOver : DelayOver h threads injector past time)
    (a : Action) :
    DelayOver h threads injector (past ++ [a]) time := by
  rcases hOver with ⟨m, delay, hBegan, hRead, hTime⟩
  exact ⟨m, delay, hBegan.snoc a, hRead, hTime⟩

theorem DelayOver.later
    {time last : Nat}
    (hOver : DelayOver h threads injector past time)
    (hLater : time ≤ last) :
    DelayOver h threads injector past last := by
  rcases hOver with ⟨m, delay, hBegan, hRead, hTime⟩
  exact ⟨m, delay, hBegan, hRead, hTime.trans hLater⟩

theorem DelayEnded.snoc
    {forced : Bool}
    {time : Nat}
    (hEnded : DelayEnded h threads injector forced past time)
    (a : Action) :
    DelayEnded h threads injector forced (past ++ [a])
      time := by
  rcases hEnded with ⟨m, hRead, hOver, hForce, hTime⟩
  exact ⟨m, hRead.snoc a, hOver.snoc a, hForce, hTime⟩

theorem DelayEnded.later
    {forced : Bool}
    {time last : Nat}
    (hEnded : DelayEnded h threads injector forced past time)
    (hLater : time ≤ last) :
    DelayEnded h threads injector forced past last := by
  rcases hEnded with ⟨m, hRead, hOver, hForce, hTime⟩
  exact ⟨m, hRead, hOver, hForce, hTime.trans hLater⟩

theorem GivenUp.snoc
    {sentAt : Nat}
    (hGivenUp : GivenUp h threads injector past sentAt)
    (a : Action) :
    GivenUp h threads injector (past ++ [a]) sentAt := by
  rcases hGivenUp with ⟨m, hGaveUp, hSent⟩
  exact ⟨m, hGaveUp.snoc a, hSent⟩

/- A response that has been received stays received. -/
theorem Process.Received.of_eq
    {response : Response}
    {late : Nat}
    (hReceived : p.Received response late)
    (hSent : q.sentAt = p.sentAt)
    (hArrived :
      p.arrived ≠ none → q.arrived = p.arrived) :
    q.Received response late := by
  rcases hReceived with ⟨sentAt, hSentAt, hSome⟩
  refine ⟨sentAt, hSent.trans hSentAt, ?_⟩
  rw [hArrived (by simp [hSome])]
  exact hSome

/- A reason stays one after more actions. -/
theorem Explained.later
    {answer : Response}
    (hExplained : Explained h threads injector past p answer)
    (a : Action)
    (hSent : q.sentAt = p.sentAt)
    (hArrived : p.arrived ≠ none → q.arrived = p.arrived)
    (hNow : p.now ≤ q.now) :
    Explained h threads injector (past ++ [a]) q answer := by
  cases hExplained with
  | injected m read forced message failed unsent =>
      exact
        .injected m (read.snoc a) (forced.snoc a) message
          failed (hSent.trans unsent)
  | unavailable start permitted waited failed unsent =>
      exact
        .unavailable start (DelayEnded.snoc permitted a)
          (waited.trans hNow) failed (hSent.trans unsent)
  | timedOut sentAt sent permitted waited failed =>
      exact
        .timedOut sentAt (hSent.trans sent)
          (DelayEnded.snoc permitted a) (waited.trans hNow)
          failed
  | failedCall sentAt sent permitted givenUp failed =>
      exact
        .failedCall sentAt (hSent.trans sent)
          (DelayEnded.snoc permitted a) (givenUp.snoc a)
          failed
  | forwarded late received permitted =>
      refine
        .forwarded late (received.of_eq hSent hArrived)
          ?_
      intro sentAt hSentAt
      rw [hSent] at hSentAt
      exact DelayEnded.snoc (permitted sentAt hSentAt) a

theorem Placed.later
    {stage : Stage}
    (hPlaced : Placed h threads injector past p stage)
    (a : Action)
    (hSent : q.sentAt = p.sentAt)
    (hArrived : p.arrived ≠ none → q.arrived = p.arrived)
    (hNow : p.now ≤ q.now) :
    Placed h threads injector (past ++ [a]) q stage := by
  cases stage with
  | requested => exact hSent.trans hPlaced
  | sleeping wakeAt =>
      exact ⟨hSent.trans hPlaced.1, hPlaced.2.snoc a⟩
  | failing =>
      exact
        ⟨hSent.trans hPlaced.1,
          (hPlaced.2.snoc a).later hNow⟩
  | probing start =>
      rcases hPlaced with ⟨hUnsent, hStart, hPermitted⟩
      exact
        ⟨hSent.trans hUnsent, hStart.trans hNow,
          DelayEnded.snoc hPermitted a⟩
  | waiting sentAt => exact hSent.trans hPlaced
  | answered response =>
      exact Explained.later hPlaced a hSent hArrived hNow

/- Without a new response an action needs its stage only. -/
theorem Accounted.moved
    (hAccounted : Accounted h threads injector past p)
    (a : Action)
    (hSent : q.sentAt = p.sentAt)
    (hArrived : q.arrived = p.arrived)
    (hFuture : q.future = p.future)
    (hNow : p.now ≤ q.now)
    (hStage :
      Placed h threads injector (past ++ [a]) q q.stage) :
    Accounted h threads injector (past ++ [a]) q := by
  refine ⟨hStage, ?_, ?_, ?_, ?_⟩
  · intro sentAt hSentAt
    rw [hSent] at hSentAt
    rcases hAccounted.sent sentAt hSentAt with
      ⟨hTime, hPermitted⟩
    exact ⟨hTime.trans hNow, DelayEnded.snoc hPermitted a⟩
  · intro response time hSome
    rw [hArrived] at hSome
    rcases hAccounted.arrived response time hSome with
      ⟨late, hReceived⟩
    exact
      ⟨late, hReceived.of_eq hSent fun _ => hArrived⟩
  · intro response hSome
    rw [hFuture] at hSome
    rcases hAccounted.future response hSome with
      ⟨late, hReceived⟩
    exact
      ⟨late, hReceived.of_eq hSent fun _ => hArrived⟩
  · intro hSome
    rw [hFuture] at hSome
    rcases hAccounted.exception hSome with
      ⟨sentAt, hSentAt, hGivenUp⟩
    exact ⟨sentAt, hSent.trans hSentAt, hGivenUp.snoc a⟩

end Later

------------------------------------------------------------
-- Steps
------------------------------------------------------------

section Steps

variable {h : HashOrder String}
variable {threads : Nat}
variable {injector : FaultInjectorBase}
variable {past : List Action}
variable {p q : Process}

theorem Accounted.startRequest
    (hReach :
      run (step h) (process threads injector) past = some p)
    (hAccounted : Accounted h threads injector past p)
    (hStep : startRequest h p = some q) :
    Accounted h threads injector (past ++ [.startRequest])
      q := by
  unfold TriggerServiceFaultInjector.startRequest at hStep
  cases hCase : p.stage with
  | requested =>
      have hUnsent := hAccounted.stage
      rw [hCase] at hUnsent
      simp only [hCase] at hStep
      split at hStep
      · cases hDelay : p.injector.activeDelay h with
        | error e =>
            simp only [hDelay] at hStep
            cases hStep
        | ok delay =>
            simp only [hDelay, Option.some.injEq] at hStep
            subst hStep
            refine
              hAccounted.moved _ rfl rfl rfl (Nat.le_refl _)
                ⟨hUnsent, p, delay, ?_, hDelay, Nat.le_refl _⟩
            exact performs_last hReach _
      · cases hStep
  | _ => simp [hCase] at hStep

theorem Accounted.endDelay
    (hReach :
      run (step h) (process threads injector) past = some p)
    (hAccounted : Accounted h threads injector past p)
    (hStep : endDelay h p = some q) :
    Accounted h threads injector (past ++ [.endDelay]) q := by
  unfold TriggerServiceFaultInjector.endDelay at hStep
  cases hCase : p.stage with
  | sleeping wakeAt =>
      have hPlaced := hAccounted.stage
      rw [hCase] at hPlaced
      rcases hPlaced with ⟨hUnsent, hWake⟩
      simp only [hCase] at hStep
      by_cases hAwake : wakeAt ≤ p.now
      · rw [if_pos hAwake] at hStep
        have hEnded := performs_last hReach .endDelay
        have hOver :=
          (hWake.later hAwake).snoc .endDelay
        cases hForce :
            p.injector.activeBool h "force_failure" false with
        | error e =>
            simp only [hForce] at hStep
            cases hStep
        | ok forced =>
            have hDelayEnded :
                DelayEnded h threads injector forced
                  (past ++ [.endDelay]) p.now :=
              ⟨p, hEnded, hOver, hForce, Nat.le_refl _⟩
            cases forced with
            | true =>
                simp only [hForce, Option.some.injEq] at hStep
                subst hStep
                exact
                  hAccounted.moved _ rfl rfl rfl
                    (Nat.le_refl _) ⟨hUnsent, hDelayEnded⟩
            | false =>
                simp only [hForce, Option.some.injEq] at hStep
                subst hStep
                exact
                  hAccounted.moved _ rfl rfl rfl
                    (Nat.le_refl _)
                    ⟨hUnsent, Nat.le_refl _, hDelayEnded⟩
      · rw [if_neg hAwake] at hStep
        cases hStep
  | _ => simp [hCase] at hStep

theorem Accounted.readMessage
    (hReach :
      run (step h) (process threads injector) past = some p)
    (hAccounted : Accounted h threads injector past p)
    (hStep : readMessage h p = some q) :
    Accounted h threads injector (past ++ [.readMessage])
      q := by
  unfold TriggerServiceFaultInjector.readMessage at hStep
  cases hCase : p.stage with
  | failing =>
      have hPlaced := hAccounted.stage
      rw [hCase] at hPlaced
      rcases hPlaced with ⟨hUnsent, hForced⟩
      simp only [hCase] at hStep
      cases hMessage :
          p.injector.activeString h "failure_message"
            "Injected service failure" with
      | error e =>
          simp only [hMessage] at hStep
          cases hStep
      | ok message =>
          simp only [hMessage, Option.some.injEq] at hStep
          subst hStep
          exact
            hAccounted.moved _ rfl rfl rfl (Nat.le_refl _)
              (.injected p (performs_last hReach _)
                (hForced.snoc _) hMessage rfl hUnsent)
  | _ => simp [hCase] at hStep

theorem Accounted.findService
    {available : Bool}
    (hAccounted : Accounted h threads injector past p)
    (hStep : findService available p = some q) :
    Accounted h threads injector
      (past ++ [.findService available]) q := by
  unfold TriggerServiceFaultInjector.findService at hStep
  cases hCase : p.stage with
  | probing start =>
      have hPlaced := hAccounted.stage
      rw [hCase] at hPlaced
      rcases hPlaced with ⟨hUnsent, hStart, hPermitted⟩
      simp only [hCase] at hStep
      cases available with
      | true =>
          simp only [if_true, Option.some.injEq] at hStep
          subst hStep
          refine ⟨rfl, ?_, ?_, ?_, ?_⟩
          · intro sentAt hSentAt
            cases hSentAt
            exact
              ⟨Nat.le_refl _,
                (DelayEnded.later hPermitted hStart).snoc _⟩
          · intro response time hSome
            rcases hAccounted.arrived response time hSome with
              ⟨late, sentAt, hSentAt, _⟩
            rw [hUnsent] at hSentAt
            cases hSentAt
          · intro response hSome
            rcases hAccounted.future response hSome with
              ⟨late, sentAt, hSentAt, _⟩
            rw [hUnsent] at hSentAt
            cases hSentAt
          · intro hSome
            rcases hAccounted.exception hSome with
              ⟨sentAt, hSentAt, _⟩
            rw [hUnsent] at hSentAt
            cases hSentAt
      | false =>
          by_cases hWaited : start + serviceTimeout ≤ p.now
          · simp only [Bool.false_eq_true, if_false, hWaited,
              if_true, Option.some.injEq] at hStep
            subst hStep
            exact
              hAccounted.moved _ rfl rfl rfl (Nat.le_refl _)
                (.unavailable start
                  (DelayEnded.snoc hPermitted _)
                  hWaited rfl hUnsent)
          · simp only [Bool.false_eq_true, if_false,
              hWaited] at hStep
            cases hStep
  | _ => simp [hCase] at hStep

/- A response arrives once, and only to a sent request. -/
theorem arrive_eq_some
    {response : Response}
    (hStep : arrive response p = some q) :
    (∃ sentAt, p.sentAt = some sentAt) ∧
      p.arrived = none ∧
        q = { p with arrived := some (response, p.now) } := by
  unfold arrive at hStep
  split at hStep
  case h_1 sentAt hSent hNone =>
    exact ⟨⟨_, hSent⟩, hNone, (Option.some.inj hStep).symm⟩
  case h_2 => cases hStep

/- The handler makes the future ready once. -/
theorem handleResponse_eq_some
    (hStep : handleResponse p = some q) :
    ∃ response time,
      p.arrived = some (response, time) ∧
        q = { p with future := some (.response response) } := by
  unfold handleResponse at hStep
  split at hStep
  case h_1 response time hArrived hNone =>
    split at hStep
    · exact ⟨_, _, hArrived, (Option.some.inj hStep).symm⟩
    · cases hStep
  case h_2 => cases hStep

/- The promise of a sent request is given up once. -/
theorem giveUp_eq_some
    (hStep : giveUp p = some q) :
    ∃ sentAt,
      p.sentAt = some sentAt ∧
        q = { p with future := some .exception } := by
  unfold giveUp at hStep
  split at hStep
  case h_1 sentAt hSent hNone =>
    split at hStep
    · exact ⟨_, hSent, (Option.some.inj hStep).symm⟩
    · cases hStep
  case h_2 => cases hStep

theorem Accounted.arrive
    {response : Response}
    (hAccounted : Accounted h threads injector past p)
    (hStep : arrive response p = some q) :
    Accounted h threads injector
      (past ++ [.arrive response]) q := by
  rcases arrive_eq_some hStep with
    ⟨⟨sentAt, hSent⟩, hNone, hNext⟩
  subst hNext
  have hTime := (hAccounted.sent sentAt hSent).1
  refine ⟨?_, ?_, ?_, ?_, ?_⟩
  · exact
      hAccounted.stage.later _ rfl
        (fun hSome => absurd hNone hSome) (Nat.le_refl _)
  · intro other hOther
    rcases hAccounted.sent other hOther with
      ⟨hLater, hPermitted⟩
    exact ⟨hLater, DelayEnded.snoc hPermitted _⟩
  · intro other time hOther
    cases hOther
    refine ⟨p.now - sentAt, sentAt, hSent, ?_⟩
    rw [Nat.add_sub_cancel' hTime]
  · intro other hFuture
    rcases hAccounted.future other hFuture with
      ⟨late, first, _, hSome⟩
    rw [hNone] at hSome
    cases hSome
  · intro hFuture
    rcases hAccounted.exception hFuture with
      ⟨first, hFirst, hGivenUp⟩
    exact ⟨first, hFirst, hGivenUp.snoc _⟩

theorem Accounted.handleResponse
    (hAccounted : Accounted h threads injector past p)
    (hStep : handleResponse p = some q) :
    Accounted h threads injector (past ++ [.handleResponse])
      q := by
  rcases handleResponse_eq_some hStep with
    ⟨response, time, hArrived, hNext⟩
  subst hNext
  have hReceived := hAccounted.arrived response time hArrived
  refine ⟨?_, ?_, hAccounted.arrived, ?_, ?_⟩
  · exact
      hAccounted.stage.later _ rfl (fun _ => rfl)
        (Nat.le_refl _)
  · intro sentAt hSentAt
    rcases hAccounted.sent sentAt hSentAt with
      ⟨hTime, hPermitted⟩
    exact ⟨hTime, DelayEnded.snoc hPermitted _⟩
  · intro other hOther
    cases hOther
    exact hReceived
  · intro hException
    cases hException

theorem Accounted.giveUp
    (hReach :
      run (step h) (process threads injector) past = some p)
    (hAccounted : Accounted h threads injector past p)
    (hStep : giveUp p = some q) :
    Accounted h threads injector (past ++ [.giveUp]) q := by
  rcases giveUp_eq_some hStep with ⟨first, hFirst, hNext⟩
  subst hNext
  refine ⟨?_, ?_, hAccounted.arrived, ?_, ?_⟩
  · exact
      hAccounted.stage.later _ rfl (fun _ => rfl)
        (Nat.le_refl _)
  · intro sentAt hSentAt
    rcases hAccounted.sent sentAt hSentAt with
      ⟨hTime, hPermitted⟩
    exact ⟨hTime, DelayEnded.snoc hPermitted _⟩
  · intro other hOther
    cases hOther
  · intro _
    exact
      ⟨first, hFirst, p, performs_last hReach _, hFirst⟩

theorem Accounted.endWait
    (hAccounted : Accounted h threads injector past p)
    (hStep : endWait p = some q) :
    Accounted h threads injector (past ++ [.endWait]) q := by
  unfold TriggerServiceFaultInjector.endWait at hStep
  cases hCase : p.stage with
  | waiting sentAt =>
      have hSent := hAccounted.stage
      rw [hCase] at hSent
      have hPermitted := (hAccounted.sent sentAt hSent).2
      simp only [hCase] at hStep
      cases hFuture : p.future with
      | some ready =>
          cases ready with
          | response response =>
              simp only [hFuture, Option.some.injEq] at hStep
              subst hStep
              rcases hAccounted.future response hFuture with
                ⟨late, hReceived⟩
              refine
                hAccounted.moved _ rfl rfl rfl (Nat.le_refl _)
                  (.forwarded late hReceived ?_)
              intro other hOther
              exact
                DelayEnded.snoc
                  (hAccounted.sent other hOther).2 _
          | exception =>
              simp only [hFuture, Option.some.injEq] at hStep
              subst hStep
              rcases hAccounted.exception hFuture with
                ⟨first, hFirst, hGivenUp⟩
              exact
                hAccounted.moved _ rfl rfl rfl (Nat.le_refl _)
                  (.failedCall first hFirst
                    (DelayEnded.snoc
                      (hAccounted.sent first hFirst).2 _)
                    (hGivenUp.snoc _) rfl)
      | none =>
          simp only [hFuture] at hStep
          split at hStep
          case isTrue hWaited =>
            rw [Option.some.injEq] at hStep
            subst hStep
            exact
              hAccounted.moved _ rfl rfl rfl (Nat.le_refl _)
                (.timedOut sentAt hSent
                  (DelayEnded.snoc hPermitted _) hWaited rfl)
          case isFalse => cases hStep
  | _ => simp [hCase] at hStep

theorem Accounted.step
    {a : Action}
    (hReach :
      run (step h) (process threads injector) past = some p)
    (hAccounted : Accounted h threads injector past p)
    (hStep : step h p a = some q) :
    Accounted h threads injector (past ++ [a]) q := by
  cases a with
  | tick elapsed =>
      rw [TriggerServiceFaultInjector.step,
        Option.some.injEq] at hStep
      subst hStep
      exact
        hAccounted.moved _ rfl rfl rfl (Nat.le_add_right _ _)
          (hAccounted.stage.later _ rfl (fun _ => rfl)
            (Nat.le_add_right _ _))
  | otherCallback other =>
      rw [TriggerServiceFaultInjector.step] at hStep
      split at hStep
      · rw [Option.some.injEq] at hStep
        subst hStep
        exact
          hAccounted.moved _ rfl rfl rfl (Nat.le_refl _)
            (hAccounted.stage.later _ rfl (fun _ => rfl)
              (Nat.le_refl _))
      · cases hStep
  | startRequest => exact hAccounted.startRequest hReach hStep
  | endDelay => exact hAccounted.endDelay hReach hStep
  | readMessage => exact hAccounted.readMessage hReach hStep
  | findService available =>
      exact hAccounted.findService hStep
  | arrive response => exact hAccounted.arrive hStep
  | handleResponse => exact hAccounted.handleResponse hStep
  | giveUp => exact hAccounted.giveUp hReach hStep
  | endWait => exact hAccounted.endWait hStep

/- Every value of a reached state has its reason. -/
theorem accounted_of_run
    {actions : List Action}
    (hRun :
      run (step h) (process threads injector) actions =
        some p) :
    Accounted h threads injector actions p := by
  refine
    run_invariant_of_past
      (I := fun past p => Accounted h threads injector past p)
      ?_ ?_ hRun
  · intro past s a t hReach hAccounted hStep
    exact hAccounted.step hReach hStep
  · refine ⟨rfl, ?_, ?_, ?_, ?_⟩
    · intro sentAt hSent
      cases hSent
    · intro response time hArrived
      cases hArrived
    · intro response hFuture
      cases hFuture
    · intro hFuture
      cases hFuture

/- An answer that has been given stays the answer. -/
theorem answer_step
    {a : Action}
    {answer : Response}
    (hAnswer : p.answer = some answer)
    (hStep : step h p a = some q) :
    q.answer = some answer := by
  unfold Process.answer at hAnswer
  cases hCase : p.stage with
  | answered response =>
      simp only [hCase] at hAnswer
      have hStage : q.stage = p.stage := by
        cases a with
        | tick elapsed =>
            cases hStep
            rfl
        | otherCallback other =>
            rw [TriggerServiceFaultInjector.step] at hStep
            split at hStep
            · cases hStep
              rfl
            · cases hStep
        | startRequest =>
            simp [TriggerServiceFaultInjector.step,
              TriggerServiceFaultInjector.startRequest,
              hCase] at hStep
        | endDelay =>
            simp [TriggerServiceFaultInjector.step,
              TriggerServiceFaultInjector.endDelay,
              hCase] at hStep
        | readMessage =>
            simp [TriggerServiceFaultInjector.step,
              TriggerServiceFaultInjector.readMessage,
              hCase] at hStep
        | findService available =>
            simp [TriggerServiceFaultInjector.step,
              TriggerServiceFaultInjector.findService,
              hCase] at hStep
        | arrive response =>
            rw [(arrive_eq_some hStep).2.2]
        | handleResponse =>
            rcases handleResponse_eq_some hStep with
              ⟨response, time, _, hNext⟩
            rw [hNext]
        | giveUp =>
            rcases giveUp_eq_some hStep with ⟨_, _, hNext⟩
            rw [hNext]
        | endWait =>
            simp [TriggerServiceFaultInjector.step,
              TriggerServiceFaultInjector.endWait,
              hCase] at hStep
      unfold Process.answer
      rw [hStage, hCase]
      exact hAnswer
  | _ => simp [hCase] at hAnswer

/-
  Every answer has a reason, it is the only answer to its
  request, and a success is always the target's own response.
-/
theorem answers_are_explained
    {actions more : List Action}
    {answer : Response}
    (hRun :
      run (step h) (process threads injector) actions =
        some p)
    (hAnswer : p.answer = some answer)
    (hMore : run (step h) p more = some q) :
    Explained h threads injector actions p answer ∧
      (answer.success = true →
        ∃ late, p.Received answer late) ∧
        q.answer = some answer := by
  have hExplained :
      Explained h threads injector actions p answer := by
    have hPlaced := (accounted_of_run hRun).stage
    unfold Process.answer at hAnswer
    cases hCase : p.stage with
    | answered response =>
        rw [hCase] at hPlaced
        simp only [hCase, Option.some.injEq] at hAnswer
        rw [← hAnswer]
        exact hPlaced
    | _ => simp [hCase] at hAnswer
  refine ⟨hExplained, ?_, ?_⟩
  · intro hSuccess
    cases hExplained with
    | injected m read forced message failed unsent =>
        rw [failed] at hSuccess
        cases hSuccess
    | unavailable start permitted waited failed unsent =>
        rw [failed] at hSuccess
        cases hSuccess
    | timedOut sentAt sent permitted waited failed =>
        rw [failed] at hSuccess
        cases hSuccess
    | failedCall sentAt sent permitted givenUp failed =>
        rw [failed] at hSuccess
        cases hSuccess
    | forwarded late received permitted =>
        exact ⟨late, received⟩
  · exact
      run_invariant (I := fun p => p.answer = some answer)
        (P := fun _ _ => True)
        (fun _ _ _ hHere _ hStep => answer_step hHere hStep)
        hAnswer (along_of_forall (fun _ _ => True.intro) _ _)
        hMore

end Steps

end TriggerServiceFaultInjector

------------------------------------------------------------
-- A Second Thread
------------------------------------------------------------

namespace TriggerServiceFaultInjector.NoFaults

open Transition

/- With two threads the response of the target is the answer. -/
theorem answer_explained_with_two_threads :
    ∃ (p q : Process),
      Explained .insertion 2 injector
          [ .startRequest, .endDelay, .findService true,
            .tick 500000000, .arrive response,
            .handleResponse, .endWait ]
          p response ∧
        (response.success = true →
          ∃ late, p.Received response late) ∧
          q.answer = some response := by
  let answered : Process :=
    { threads := 2
      injector := injector
      now := 500000000
      stage := .answered response
      sentAt := some 0
      arrived := some (response, 500000000)
      future := some (.response response) }
  have hRun :
      run (step .insertion) (process 2 injector)
          [ .startRequest, .endDelay, .findService true,
            .tick 500000000, .arrive response,
            .handleResponse, .endWait ] =
        some answered := by
    decide
  have hMore :
      run (step .insertion) answered [.tick 1] =
        some { answered with now := 500000001 } := by
    rfl
  exact ⟨_, _, answers_are_explained hRun rfl hMore⟩

end TriggerServiceFaultInjector.NoFaults
