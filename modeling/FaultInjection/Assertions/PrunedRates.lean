import Mathlib.Data.Int.ConditionallyCompleteOrder
import FaultInjection.Foundations.Expiry
import FaultInjection.Foundations.NumberFolds
import FaultInjection.Assertions.Deadlines

/-
  Forgetting old messages does not change the measured rate.

  A tick forgets the times of messages that are older than
  the window. While the clock does not go back these stay
  older than the window, so an assertion that keeps every
  time it ever observed would decide the same. It compares
  the rate as a double, so it passes whenever the messages
  suffice, and sometimes when one is missing by a rounding.

  Key definitions include:
    * `RateRecord`
    * `RateRecord.update`
    * `TopicHzAssertion.Call`
    * `TopicHzAssertion.Pruned`

  Key theorems include:
    * `Number.le_div_iff_mul_le`
    * `TopicHzAssertion.durationSeconds_mono`
    * `TopicHzAssertion.pruned_runCalls`
    * `TopicHzAssertion.update_decides_from_all_observed`
-/

------------------------------------------------------------
-- Rates
------------------------------------------------------------

namespace Number

/- A rate over a positive window as a number of messages. -/
theorem le_div_iff_mul_le
    {window rate : Number}
    (hWindow : zero.lt window = true)
    (hRate : zero.lt rate = true)
    (count : Nat) :
    rate.le ((finite (count : ℚ)).div window) =
      (rate.mul window).le (finite (count : ℚ)) := by
  cases window with
  | finite w =>
      have hPositive : 0 < w := by simpa [zero] using hWindow
      have hNonzero : w ≠ 0 := ne_of_gt hPositive
      cases rate with
      | finite r =>
          simp [div, hNonzero, le, le_div_iff₀ hPositive]
      | posInf =>
          simp [div, mul, le, hNonzero, isNegative,
            infinityOfSign, not_lt_of_gt hPositive]
      | negInf => cases hRate
      | nan => cases hRate
  | posInf =>
      cases rate with
      | finite r =>
          have hPositive : 0 < r := by simpa [zero] using hRate
          simp [div, mul, le, isNegative, infinityOfSign,
            ne_of_gt hPositive, hPositive,
            not_lt_of_gt hPositive]
      | posInf =>
          simp [div, mul, le, isNegative, infinityOfSign]
      | negInf => cases hRate
      | nan => cases hRate
  | negInf => cases hWindow
  | nan => cases hWindow

/- A quotient by a positive number keeps the order. -/
theorem div_le_div_of_pos
    {a b : Number}
    {c : ℚ}
    (hPositive : 0 < c)
    (hOrder : a.le b = true) :
    (a.div (.finite c)).le (b.div (.finite c)) = true := by
  have hNonzero : c ≠ 0 := hPositive.ne'
  have hSign : decide (c < 0) = false :=
    decide_eq_false (not_lt.mpr hPositive.le)
  cases a with
  | finite p =>
      cases b with
      | finite q =>
          have hLess : p ≤ q := (le_finite_iff p q).mp hOrder
          simpa [div, hNonzero] using
            div_le_div_of_nonneg_right hLess hPositive.le
      | posInf =>
          simp [div, hNonzero, hSign, isNegative,
            infinityOfSign, le]
      | negInf => cases hOrder
      | nan => cases hOrder
  | posInf =>
      cases b with
      | posInf =>
          simp [div, hSign, isNegative, infinityOfSign, le]
      | finite q => cases hOrder
      | negInf => cases hOrder
      | nan => cases hOrder
  | negInf =>
      cases b with
      | finite q =>
          simp [div, hNonzero, hSign, isNegative,
            infinityOfSign, le]
      | posInf =>
          simp [div, hSign, isNegative, infinityOfSign, le]
      | negInf =>
          simp [div, hSign, isNegative, infinityOfSign, le]
      | nan => cases hOrder
  | nan => cases hOrder

end Number

namespace TopicHzAssertion

/- A longer duration has no fewer seconds. -/
theorem durationSeconds_mono
    {a b : Int}
    (hOrder : a ≤ b) :
    (durationSeconds a).le (durationSeconds b) = true := by
  have hCounts :
      (Number.finite (a : ℚ)).le (.finite (b : ℚ)) = true :=
    (Number.le_finite_iff _ _).mpr (by exact_mod_cast hOrder)
  exact
    Number.toDouble_le_toDouble
      (Number.div_le_div_of_pos (by norm_num)
        (Number.toDouble_le_toDouble hCounts))

theorem durationSeconds_zero :
    durationSeconds 0 = .zero := by
  decide +kernel

/-
  Where there are as many messages as demanded, the rate that
  is compared is high enough.
-/
theorem le_observedHz
    {window rate : Number}
    {count : Nat}
    (hWindow : Number.zero.lt window = true)
    (hRate : Number.zero.lt rate = true)
    (hDouble : rate.toDouble = rate)
    (hCount : count < 2 ^ 53)
    (hEnough :
      (rate.mul window).le (.finite (count : ℚ)) = true) :
    rate.le (observedHz count window) = true := by
  rw [← Number.le_div_iff_mul_le hWindow hRate] at hEnough
  have hRounded := Number.toDouble_le_toDouble hEnough
  rw [hDouble] at hRounded
  unfold observedHz Number.divDouble
  rw [Number.toDouble_natCast hCount]
  exact hRounded

end TopicHzAssertion

------------------------------------------------------------
-- All Observed Messages
------------------------------------------------------------

/- The times of all messages ever observed, and a verdict. -/
structure RateRecord where
  observed : List Int := []
  state : AssertionState := .pending
deriving DecidableEq

namespace RateRecord

open TopicHzAssertion (durationSeconds observedHz)

/- How many messages are no older than the window. -/
def recent
    (window : Number)
    (now : Int)
    (record : RateRecord) : Nat :=
  record.observed.countP fun stamp =>
    ¬ window.lt (durationSeconds (now - stamp))

def observeMessage
    (stamp : Int)
    (record : RateRecord) : RateRecord :=
  { record with observed := record.observed ++ [stamp] }

/-
  Pass if the rate of the recent messages is high enough, fail
  if it is not and the deadline is over.
-/
def update
    (config : AssertionConfig)
    (elapsedSeconds : Number)
    (now : Int)
    (record : RateRecord) : RateRecord :=
  let window := config.window.getD .one
  let minHz := config.minHz.getD .zero
  if record.state ≠ .pending then
    record
  else if
    minHz.le (observedHz (record.recent window now) window)
  then
    { record with state := .passed }
  else if
    config.within.any fun within => within.lt elapsedSeconds
  then
    { record with state := .failed }
  else
    record

/- The verdict of a record that is still pending. -/
theorem state_update
    {config : AssertionConfig}
    {record : RateRecord}
    (hPending : record.state = .pending)
    (elapsedSeconds : Number)
    (now : Int) :
    (record.update config elapsedSeconds now).state =
      if
        (config.minHz.getD .zero).le
          (observedHz
            (record.recent (config.window.getD .one) now)
            (config.window.getD .one))
      then
        .passed
      else if
        config.within.any fun within =>
          within.lt elapsedSeconds
      then
        .failed
      else
        .pending := by
  unfold update
  simp only [hPending, ne_eq, not_true_eq_false, if_false]
  split
  · rfl
  · split
    · rfl
    · exact hPending

theorem observed_update
    {config : AssertionConfig}
    {record : RateRecord}
    (elapsedSeconds : Number)
    (now : Int) :
    (record.update config elapsedSeconds now).observed =
      record.observed := by
  unfold update
  simp only
  split
  · rfl
  · split
    · rfl
    · split <;> rfl

end RateRecord

------------------------------------------------------------
-- The Window As Expiry
------------------------------------------------------------

namespace TopicHzAssertion

/- A message expires once it is older than the window. -/
def windowExpiry
    (window : Number)
    (hWindow : Number.zero.lt window = true) : Expiry Int where
  expired now stamp :=
    window.lt (durationSeconds (now - stamp))
  stays := by
    intro now later stamp hLater hExpired
    have hMore :
        (durationSeconds (now - stamp)).le
            (durationSeconds (later - stamp)) =
          true :=
      durationSeconds_mono (by omega)
    exact Number.lt_of_lt_of_le hExpired hMore
  fresh := by
    intro now stamp hFresh
    have hNoAge :
        (durationSeconds (now - stamp)).le .zero = true := by
      rw [← durationSeconds_zero]
      exact durationSeconds_mono (by omega)
    have hBelow :=
      Number.lt_of_le_of_lt hNoAge hWindow
    exact Number.lt_asymm hBelow

theorem messageTimes_forgetOld
    {window : Number}
    (hWindow : Number.zero.lt window = true)
    (now : Int)
    (assertion : TopicHzAssertion) :
    (assertion.forgetOld window now).messageTimes =
      (windowExpiry window hWindow).keep now
        assertion.messageTimes := by
  unfold forgetOld Expiry.keep windowExpiry
  simp

theorem length_keep_windowExpiry
    {window : Number}
    (hWindow : Number.zero.lt window = true)
    (now : Int)
    (record : RateRecord) :
    ((windowExpiry window hWindow).keep now
        record.observed).length =
      record.recent window now := by
  unfold Expiry.keep windowExpiry RateRecord.recent
  rw [List.countP_eq_length_filter]
  simp

------------------------------------------------------------
-- Runs
------------------------------------------------------------

/- A message or a tick, with its time. -/
inductive Call where
| observeMessage (stamp : Int) : Call
| update (elapsedSeconds : Number) (now : Int) : Call
deriving DecidableEq

def Call.time : Call → Int
| .observeMessage stamp => stamp
| .update _ now => now

def perform (assertion : TopicHzAssertion) :
    Call → TopicHzAssertion
| .observeMessage stamp => assertion.observeMessage stamp
| .update elapsedSeconds now =>
    assertion.update elapsedSeconds now

def runCalls
    (assertion : TopicHzAssertion)
    (calls : List Call) : TopicHzAssertion :=
  calls.foldl perform assertion

end TopicHzAssertion

namespace RateRecord

def perform
    (config : AssertionConfig)
    (record : RateRecord) :
    TopicHzAssertion.Call → RateRecord
| .observeMessage stamp => record.observeMessage stamp
| .update elapsedSeconds now =>
    record.update config elapsedSeconds now

def runCalls
    (config : AssertionConfig)
    (record : RateRecord)
    (calls : List TopicHzAssertion.Call) : RateRecord :=
  calls.foldl (perform config) record

end RateRecord

namespace TopicHzAssertion

/-
  The assertion agrees with a record of all messages: while
  it is pending, it keeps those that were recent at a time.
-/
structure Pruned
    (window : Number)
    (hWindow : Number.zero.lt window = true)
    (config : AssertionConfig)
    (time : Int)
    (assertion : TopicHzAssertion)
    (record : RateRecord) : Prop where
  config_eq : assertion.config = config
  state_eq : assertion.result.state = record.state
  remembers :
    record.state = .pending →
      (windowExpiry window hWindow).Remembers time
        assertion.messageTimes record.observed

section Runs

variable {config : AssertionConfig}
variable {assertion : TopicHzAssertion}
variable {record : RateRecord}
variable {time : Int}
variable {hWindow :
  Number.zero.lt (config.window.getD .one) = true}

/- What an update decides from the kept messages. -/
theorem state_judge
    (hPending : assertion.result.state = .pending)
    (window minHz elapsedSeconds : Number) :
    (assertion.judge window minHz elapsedSeconds).result.state =
      if
        minHz.le
          (observedHz assertion.messageTimes.length window)
      then
        .passed
      else if
        assertion.config.within.any fun within =>
          within.lt elapsedSeconds
      then
        .failed
      else
        .pending := by
  unfold judge conclude
  simp only
  split
  · rfl
  · split
    · rfl
    · exact hPending

theorem config_judge
    (window minHz elapsedSeconds : Number) :
    (assertion.judge window minHz elapsedSeconds).config =
      assertion.config := by
  unfold judge conclude
  simp only
  split
  · rfl
  · split <;> rfl

theorem messageTimes_judge
    (window minHz elapsedSeconds : Number) :
    (assertion.judge window minHz
        elapsedSeconds).messageTimes =
      assertion.messageTimes := by
  unfold judge conclude
  simp only
  split
  · rfl
  · split <;> rfl

/- A message of the present is kept. -/
theorem Pruned.observeMessage
    {stamp : Int}
    (hPruned :
      Pruned (config.window.getD .one) hWindow config time
        assertion record)
    (hFresh : time ≤ stamp) :
    Pruned (config.window.getD .one) hWindow config time
      (assertion.observeMessage stamp)
      (record.observeMessage stamp) where
  config_eq := hPruned.config_eq
  state_eq := hPruned.state_eq
  remembers := fun hPending =>
    (hPruned.remembers hPending).record hFresh

/- A tick decides the same from the kept messages. -/
theorem Pruned.update
    {now : Int}
    (hPruned :
      Pruned (config.window.getD .one) hWindow config time
        assertion record)
    (hLater : time ≤ now)
    (elapsedSeconds : Number) :
    Pruned (config.window.getD .one) hWindow config now
      (assertion.update elapsedSeconds now)
      (record.update config elapsedSeconds now) := by
  have hConfig := hPruned.config_eq
  subst hConfig
  by_cases hPending : record.state = .pending
  · have hCode : assertion.result.state = .pending :=
      hPruned.state_eq.trans hPending
    have hKept :=
      (hPruned.remembers hPending).forget hLater
    have hUpdate :
        assertion.update elapsedSeconds now =
          (assertion.forgetOld
              (assertion.config.window.getD .one) now).judge
            (assertion.config.window.getD .one)
            (assertion.config.minHz.getD .zero)
            elapsedSeconds := by
      unfold TopicHzAssertion.update
      rw [if_neg (not_not.mpr hCode)]
    have hTimes :
        (assertion.forgetOld
            (assertion.config.window.getD .one)
              now).messageTimes =
          (windowExpiry _ hWindow).keep now
            record.observed := by
      rw [messageTimes_forgetOld hWindow]
      exact hKept
    refine
      { config_eq := ?_
        state_eq := ?_
        remembers := fun _ => ?_ }
    · rw [hUpdate, config_judge]
      rfl
    · have hForgot :
          (assertion.forgetOld
              (assertion.config.window.getD .one)
                now).result.state = .pending := hCode
      rw [hUpdate, state_judge hForgot,
        RateRecord.state_update hPending, hTimes,
        length_keep_windowExpiry]
      rfl
    · rw [hUpdate, messageTimes_judge, hTimes,
        RateRecord.observed_update]
      rfl
  · have hDecided : assertion.result.state ≠ .pending := by
      rw [hPruned.state_eq]
      exact hPending
    have hRecord :
        record.update assertion.config elapsedSeconds now =
          record := by
      unfold RateRecord.update
      exact if_pos hPending
    rw [update_of_decided hDecided, hRecord]
    exact
      { config_eq := rfl
        state_eq := hPruned.state_eq
        remembers := fun hNow => absurd hNow hPending }

/-
  While the clock does not go back, the assertion agrees with
  the record of all messages throughout a run.
-/
theorem pruned_runCalls
    {calls : List Call}
    (hTimes :
      (time :: calls.map Call.time).Pairwise (· ≤ ·))
    (hPruned :
      Pruned (config.window.getD .one) hWindow config time
        assertion record) :
    ∃ last ∈ time :: calls.map Call.time,
      Pruned (config.window.getD .one) hWindow config last
        (assertion.runCalls calls)
        (record.runCalls config calls) := by
  induction calls generalizing time assertion record with
  | nil => exact ⟨time, List.mem_cons_self, hPruned⟩
  | cons call calls ih =>
      rw [List.map_cons, List.pairwise_cons] at hTimes
      rcases hTimes with ⟨hFirst, hRest⟩
      have hNow : time ≤ call.time :=
        hFirst call.time List.mem_cons_self
      cases call with
      | observeMessage stamp =>
          have hKeep :
              (time :: calls.map Call.time).Pairwise
                (· ≤ ·) :=
            List.pairwise_cons.mpr
              ⟨fun later hMember =>
                hFirst later
                  (List.mem_cons_of_mem _ hMember),
                (List.pairwise_cons.mp hRest).2⟩
          rcases ih hKeep (hPruned.observeMessage hNow) with
            ⟨last, hMember, hLast⟩
          refine ⟨last, ?_, hLast⟩
          rcases List.mem_cons.mp hMember with hSame | hIn
          · exact hSame ▸ List.mem_cons_self
          · exact
              List.mem_cons_of_mem _
                (List.mem_cons_of_mem _ hIn)
      | update elapsedSeconds now =>
          rcases ih hRest
              (hPruned.update hNow elapsedSeconds) with
            ⟨last, hMember, hLast⟩
          exact
            ⟨last, List.mem_cons_of_mem _ hMember, hLast⟩

end Runs

/- A new assertion agrees with an empty record. -/
theorem pruned_create
    {config : AssertionConfig}
    (hWindow :
      Number.zero.lt (config.window.getD .one) = true)
    (time : Int) :
    Pruned (config.window.getD .one) hWindow config time
      (create config) {} where
  config_eq := rfl
  state_eq := rfl
  remembers := fun _ => Expiry.remembers_nil time

/- A run up to a tick agrees with the record at some time. -/
theorem exists_pruned
    {config : AssertionConfig}
    {calls : List Call}
    {now : Int}
    (hWindow :
      Number.zero.lt (config.window.getD .one) = true)
    (hTimes : (calls.map Call.time ++ [now]).Pairwise (· ≤ ·)) :
    ∃ last, last ≤ now ∧
      Pruned (config.window.getD .one) hWindow config last
        ((create config).runCalls calls)
        (RateRecord.runCalls config {} calls) := by
  rw [List.pairwise_append] at hTimes
  rcases hTimes with ⟨hRun, -, hBefore⟩
  cases calls with
  | nil => exact ⟨now, le_refl now, pruned_create hWindow now⟩
  | cons call calls =>
      have hStart :
          (call.time :: (call :: calls).map Call.time).Pairwise
            (· ≤ ·) := by
        refine List.pairwise_cons.mpr ⟨?_, hRun⟩
        intro later hMember
        rcases List.mem_cons.mp hMember with hSame | hIn
        · exact le_of_eq hSame.symm
        · exact (List.pairwise_cons.mp hRun).1 later hIn
      rcases pruned_runCalls hStart
          (pruned_create hWindow call.time) with
        ⟨last, hMember, hPruned⟩
      refine ⟨last, ?_, hPruned⟩
      refine hBefore last ?_ now (by simp)
      rcases List.mem_cons.mp hMember with hSame | hIn
      · exact hSame ▸ List.mem_cons_self
      · exact hIn

/-
  At every tick of a run whose clock does not go back a
  pending assertion decides as if it had kept the times of
  all observed messages. It passes if their rate, as a double,
  is high enough, which it is when there are as many messages
  as demanded.
-/
theorem update_decides_from_all_observed
    (config : AssertionConfig)
    (calls : List Call)
    (elapsedSeconds : Number)
    (now : Int)
    (hWindow :
      Number.zero.lt (config.window.getD .one) = true)
    (hRate :
      Number.zero.lt (config.minHz.getD .zero) = true)
    (hTimes :
      ((calls ++ [Call.update elapsedSeconds now]).map
        Call.time).Pairwise (· ≤ ·))
    (hPending :
      ((create config).runCalls calls).result.state =
        .pending) :
    let record := RateRecord.runCalls config {} calls
    let window := config.window.getD .one
    let minHz := config.minHz.getD .zero
    let count := record.recent window now
    let enough := minHz.le (observedHz count window)
    let after :=
      ((create config).runCalls calls).update elapsedSeconds
        now
    after.result.state =
        (record.update config elapsedSeconds now).state ∧
      (after.result.state = .passed ↔ enough = true) ∧
      (after.result.state = .failed ↔
        enough = false ∧
          ∃ within,
            config.within = some within ∧
              within.lt elapsedSeconds = true) ∧
      (minHz.toDouble = minHz →
        count < 2 ^ 53 →
          (minHz.mul window).le (.finite (count : ℚ)) = true →
            after.result.state = .passed) := by
  have hTicks :
      (calls.map Call.time ++ [now]).Pairwise (· ≤ ·) := by
    rw [List.map_append] at hTimes
    exact hTimes
  rcases exists_pruned hWindow hTicks with
    ⟨last, hLast, hPruned⟩
  have hRecord :
      (RateRecord.runCalls config {} calls).state =
        .pending := hPruned.state_eq.symm.trans hPending
  have hState :=
    (hPruned.update hLast elapsedSeconds).state_eq
  have hPassed :
      (((create config).runCalls calls).update elapsedSeconds
            now).result.state =
          .passed ↔
        (config.minHz.getD .zero).le
            (observedHz
              ((RateRecord.runCalls config {} calls).recent
                (config.window.getD .one) now)
              (config.window.getD .one)) =
          true := by
    rw [hState, RateRecord.state_update hRecord]
    split
    · rename_i hEnough
      simp [hEnough]
    · rename_i hEnough
      split <;> simp [hEnough]
  refine ⟨hState, hPassed, ?_, ?_⟩
  · rw [hState, RateRecord.state_update hRecord]
    split
    · rename_i hEnough
      simp [hEnough]
    · rename_i hEnough
      split
      · rename_i hOver
        simpa [hEnough, Option.any_eq_true] using hOver
      · rename_i hOver
        simpa [hEnough, Option.any_eq_true] using hOver
  · intro hDouble hCount hEnough
    exact
      hPassed.mpr
        (le_observedHz hWindow hRate hDouble hCount hEnough)

namespace PrunedRun

/- Two messages a second are demanded for a second. -/
def config : AssertionConfig :=
  { id := "rate"
    type := "topic_hz"
    topic := "scan"
    minHz := some (.finite 2)
    window := some .one
    within := some (.finite 5) }

/-
  The first message is forgotten by the tick after two
  seconds, the second one is exactly as old as the window at
  the last tick.
-/
def calls : List Call :=
  [ .observeMessage 0
  , .update .one (10 ^ 9)
  , .update (.finite 2) (2 * 10 ^ 9)
  , .observeMessage (2 * 10 ^ 9)
  , .observeMessage (25 * 10 ^ 8) ]

theorem update_decides_at_three_seconds :
    let record := RateRecord.runCalls config {} calls
    let window := config.window.getD .one
    let minHz := config.minHz.getD .zero
    let count := record.recent window (3 * 10 ^ 9)
    let enough := minHz.le (observedHz count window)
    let after :=
      ((create config).runCalls calls).update (.finite 3)
        (3 * 10 ^ 9)
    after.result.state =
        (record.update config (.finite 3)
          (3 * 10 ^ 9)).state ∧
      (after.result.state = .passed ↔ enough = true) ∧
      (after.result.state = .failed ↔
        enough = false ∧
          ∃ within,
            config.within = some within ∧
              within.lt (.finite 3) = true) ∧
      (minHz.toDouble = minHz →
        count < 2 ^ 53 →
          (minHz.mul window).le (.finite (count : ℚ)) = true →
            after.result.state = .passed) :=
  update_decides_from_all_observed config calls (.finite 3)
    (3 * 10 ^ 9) (by decide +kernel) (by decide +kernel)
    (by decide) (by decide +kernel)

end PrunedRun

namespace RoundedRate

/- Ten messages a second in the double next to a tenth. -/
def config : AssertionConfig :=
  { id := "rate"
    type := "topic_hz"
    topic := "scan"
    minHz := some (.finite 10)
    window := some (.finite (3602879701896397 / 2 ^ 55))
    within := some (.finite 5) }

/-
  The window is a little more than a tenth of a second. One
  message in it is less than demanded, and the assertion
  passes, since the quotient is rounded to ten.
-/
theorem passes_with_less_than_demanded :
    ¬ ∀ (config : AssertionConfig)
        (calls : List Call)
        (elapsedSeconds : Number)
        (now : Int),
      Number.zero.lt (config.window.getD .one) = true →
        Number.zero.lt (config.minHz.getD .zero) = true →
          ((calls ++ [Call.update elapsedSeconds now]).map
              Call.time).Pairwise (· ≤ ·) →
            ((create config).runCalls calls).result.state =
                .pending →
              ((((create config).runCalls calls).update
                      elapsedSeconds now).result.state =
                    .passed ↔
                ((config.minHz.getD .zero).mul
                      (config.window.getD .one)).le
                    (.finite
                      (((RateRecord.runCalls config {}
                          calls).recent
                        (config.window.getD .one) now : Nat) :
                        ℚ)) =
                  true) := by
  intro hAll
  have hPasses :=
    (hAll config [.observeMessage 0] .zero 0
      (by decide +kernel) (by decide +kernel) (by decide)
      (by decide +kernel)).mp (by decide +kernel)
  revert hPasses
  decide +kernel

end RoundedRate

end TopicHzAssertion
