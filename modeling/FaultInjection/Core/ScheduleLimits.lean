import FaultInjection.Foundations.BinaryFormats
import FaultInjection.Foundations.Ticks
import FaultInjection.Injectors.Endpoints
import FaultInjection.Core.ReloadAtomicity

/-
  Which starts and durations a schedule can represent.

  Seconds become milliseconds when a file is loaded, start
  and duration are added by the scheduler, and a timer takes
  its period in nanoseconds. Validation looks at the signs of
  the milliseconds.

  The milliseconds are a product of doubles, so they are
  rounded before they are cut off.

  Key definitions include:
    * `wholeMilliseconds`
    * `MachineConversion`
    * `faultNodes`
    * `Representable`
    * `InLimits`

  Key theorems include:
    * `faults_of_loadScenarioConfig`
    * `FaultScheduler.delaysFit_iff`
    * `inLimits_of_representable`
    * `representable_of_inLimits`
    * `schedules_representable_iff`
-/

------------------------------------------------------------
-- Loaded Seconds
------------------------------------------------------------

/- The product of seconds, as a double, towards zero. -/
def wholeMilliseconds (seconds : ℚ) : Int :=
  Ticks.truncate (BinaryFormat.double.nearest (seconds * 1000))

/-
  What is documented of the conversion of a double number of
  seconds: a product that fits is cut off towards zero. The
  result for any other product is up to the machine.
-/
def MachineConversion (milliseconds : Number → Int) : Prop :=
  ∀ q : ℚ,
    Ticks.Fits (wholeMilliseconds q) →
      milliseconds (.finite q) = wholeMilliseconds q

/- Counting 0.29 seconds, the product is rounded to 290. -/
example :
    wholeMilliseconds (5224175567749775 / 2 ^ 54) = 290 := by
  decide +kernel

section Loaded

variable {Node : Type}
variable (yaml : YamlCpp Node)

/- The nodes of the faults in a file. -/
def faultNodes (path : String) : Except String (List Node) := do
  let root ← yaml.loadFile path
  let faultBlock ← yaml.child root "faults"
  .ok (faultBlock.elim [] yaml.elements)

/- The seconds that are read for a key of a fault. -/
def ReadsSeconds
    (node : Node)
    (key : String)
    (seconds : Option Number) : Prop :=
  optionalValue yaml yaml.asDouble node key = .ok seconds

/- The start and the duration of a fault with its seconds. -/
structure Timed
    (milliseconds : Number → Int)
    (node : Node)
    (fault : FaultConfig)
    (start duration : Option Number) : Prop where
  readsStart : ReadsSeconds yaml node "start" start
  readsDuration : ReadsSeconds yaml node "duration" duration
  start_eq : fault.start = start.map milliseconds
  duration_eq : fault.duration = duration.map milliseconds

variable {yaml}

/- A parsed fault has the milliseconds of its seconds. -/
theorem timed_of_parseFault
    {milliseconds : Number → Int}
    {node : Node}
    {fault : FaultConfig}
    (hParse : parseFault yaml milliseconds node = .ok fault) :
    ∃ start duration,
      Timed yaml milliseconds node fault start duration := by
  unfold parseFault at hParse
  rcases Except.bind_eq_ok_iff.mp hParse with
    ⟨id, _, hParse⟩
  rcases Except.bind_eq_ok_iff.mp hParse with
    ⟨injectorId, _, hParse⟩
  rcases Except.bind_eq_ok_iff.mp hParse with
    ⟨start, hStart, hParse⟩
  rcases Except.bind_eq_ok_iff.mp hParse with
    ⟨duration, hDuration, hParse⟩
  rcases Except.bind_eq_ok_iff.mp hParse with
    ⟨config, _, hDone⟩
  cases hDone
  exact ⟨start, duration, hStart, hDuration, rfl, rfl⟩

/- The faults of a file are those of its nodes. -/
theorem faults_of_loadScenarioConfig
    {milliseconds : Number → Int}
    {path : String}
    {scenario : ScenarioConfig}
    (hLoad :
      loadScenarioConfig yaml milliseconds path =
        .ok scenario) :
    ∃ nodes,
      faultNodes yaml path = .ok nodes ∧
        List.Forall₂
          (fun node fault =>
            parseFault yaml milliseconds node = .ok fault)
          nodes scenario.faults := by
  unfold loadScenarioConfig parseScenario at hLoad
  rcases Except.bind_eq_ok_iff.mp hLoad with
    ⟨root, hRoot, hLoad⟩
  rcases Except.bind_eq_ok_iff.mp hLoad with
    ⟨injectorItems, _, hLoad⟩
  rcases Except.bind_eq_ok_iff.mp hLoad with
    ⟨injectors, _, hLoad⟩
  rcases Except.bind_eq_ok_iff.mp hLoad with
    ⟨faultBlock, hBlock, hLoad⟩
  rcases Except.bind_eq_ok_iff.mp hLoad with
    ⟨faults, hFaults, hLoad⟩
  rcases Except.bind_eq_ok_iff.mp hLoad with
    ⟨assertionItems, _, hLoad⟩
  rcases Except.bind_eq_ok_iff.mp hLoad with
    ⟨assertions, _, hDone⟩
  cases hDone
  refine ⟨faultBlock.elim [] yaml.elements, ?_, ?_⟩
  · exact
      Except.bind_eq_ok_iff.mpr
        ⟨root, hRoot,
          Except.bind_eq_ok_iff.mpr ⟨faultBlock, hBlock, rfl⟩⟩
  · rw [List.forall₂_map_right_iff]
    refine (Except.mapM_eq_ok_iff.mp hFaults).imp ?_
    intro node item hItem
    rcases Except.bind_eq_ok_iff.mp hItem with
      ⟨fault, hFault, hItem⟩
    rcases Except.bind_eq_ok_iff.mp hItem with
      ⟨active, _, hDone⟩
    cases hDone
    exact hFault

end Loaded

------------------------------------------------------------
-- Representable Schedules
------------------------------------------------------------

/- The conversion to milliseconds does not overflow. -/
def ConversionFits (seconds : Number) : Prop :=
  ∃ q,
    seconds = .finite q ∧
      Ticks.Fits (wholeMilliseconds q)

/-
  Nothing overflows on the way from the seconds of a fault to
  the periods of its timers. The scheduler adds start and
  duration for a fault that is not active at startup.
-/
structure Representable
    (initiallyActiveFaults : List String)
    (fault : FaultConfig)
    (start duration : Option Number) : Prop where
  startFits :
    ∀ seconds, start = some seconds → ConversionFits seconds
  durationFits :
    ∀ seconds, duration = some seconds → ConversionFits seconds
  sum :
    isInitiallyActive fault initiallyActiveFaults = false →
      ∀ a b, fault.start = some a → fault.duration = some b →
        Ticks.Fits (a + b)
  periods :
    ∀ timer ∈
        FaultScheduler.faultTimers initiallyActiveFaults
          fault.injectorId fault,
      FaultScheduler.DelayFits timer

/-
  The product is rounded to more than -1 and less than 2^63:
  on the way to -1 doubles are 2^-53 apart, on the way to 2^63
  they are 2^10 apart, and the middle belongs to the limit.
-/
def CountableSeconds (seconds : Number) : Prop :=
  ∃ q,
    seconds = .finite q ∧
      -(1 - 1 / 2 ^ 54) < q * 1000 ∧
        q * 1000 < 2 ^ 63 - 2 ^ 9

/- The first whole millisecond that is not a period. -/
def periodLimit : Int := 9223372036855

/- From here on a product is rounded to this limit. -/
def productLimit : ℚ := periodLimit - 1 / 2 ^ 10

/-
  The limits of the seconds of a fault. Of a fault that is
  active at startup only the duration is scheduled; without a
  start nothing is.
-/
structure InLimits
    (active : Bool)
    (start duration : Option Number) : Prop where
  startCountable :
    ∀ seconds, start = some seconds → CountableSeconds seconds
  durationCountable :
    ∀ seconds, duration = some seconds → CountableSeconds seconds
  activeDuration :
    active = true →
      ∀ d, duration = some (.finite d) →
        d * 1000 < productLimit
  inactiveStart :
    active = false →
      ∀ s, start = some (.finite s) →
        s * 1000 < productLimit
  inactiveSum :
    active = false →
      ∀ s d,
        start = some (.finite s) →
          duration = some (.finite d) →
            wholeMilliseconds s + wholeMilliseconds d <
              periodLimit

------------------------------------------------------------
-- One Fault
------------------------------------------------------------

/- A double is less than 2^63 if it is less than the middle. -/
theorem nearest_lt_ticksLimit_iff (q : ℚ) :
    BinaryFormat.double.nearest q < Ticks.limit ↔
      q < 2 ^ 63 - 2 ^ 9 := by
  have hLess :=
    @BinaryFormat.nearest_lt_iff .double (2 ^ 53) 10
      (by decide) (by decide) (by decide) (by decide) q
  have hLimit :
      ((2 ^ 53 : Int) : ℚ) * 2 ^ (10 : Int) =
        (Ticks.limit : ℚ) := by
    decide +kernel
  have hMiddle :
      (((2 ^ 53 : Int) : ℚ) - 1 / 2) * 2 ^ (10 : Int) =
        2 ^ 63 - 2 ^ 9 := by
    norm_num
  rw [hLimit, hMiddle] at hLess
  exact hLess

theorem nearest_lt_one_iff (q : ℚ) :
    BinaryFormat.double.nearest q < 1 ↔
      q < 1 - 1 / 2 ^ 54 := by
  have hLess :=
    @BinaryFormat.nearest_lt_iff .double (2 ^ 53) (-53)
      (by decide) (by decide) (by decide) (by decide) q
  have hOne :
      ((2 ^ 53 : Int) : ℚ) * 2 ^ (-53 : Int) = 1 := by
    norm_num
  have hMiddle :
      (((2 ^ 53 : Int) : ℚ) - 1 / 2) * 2 ^ (-53 : Int) =
        1 - 1 / 2 ^ 54 := by
    norm_num
  rw [hOne, hMiddle] at hLess
  exact hLess

theorem nearest_lt_periodLimit_iff (q : ℚ) :
    BinaryFormat.double.nearest q < periodLimit ↔
      q < productLimit := by
  have hLess :=
    @BinaryFormat.nearest_lt_iff .double
      (periodLimit * 2 ^ 9) (-9) (by decide) (by decide)
      (by decide) (by decide) q
  have hLimit :
      ((periodLimit * 2 ^ 9 : Int) : ℚ) * 2 ^ (-9 : Int) =
        periodLimit := by
    decide +kernel
  have hMiddle :
      (((periodLimit * 2 ^ 9 : Int) : ℚ) - 1 / 2) *
          2 ^ (-9 : Int) =
        productLimit := by
    decide +kernel
  rw [hLimit, hMiddle] at hLess
  exact hLess

/- The counts of these seconds are not negative and fit. -/
theorem countable_finite_iff (q : ℚ) :
    CountableSeconds (.finite q) ↔
      0 ≤ wholeMilliseconds q ∧
        wholeMilliseconds q < Ticks.limit := by
  have hOpposite := nearest_lt_one_iff (-(q * 1000))
  rw [BinaryFormat.nearest_neg, neg_lt] at hOpposite
  unfold CountableSeconds wholeMilliseconds
  rw [Ticks.truncate_nonneg_iff,
    Ticks.truncate_lt_iff (by decide),
    nearest_lt_ticksLimit_iff, hOpposite, neg_lt]
  simp only [Number.finite.injEq, exists_eq_left']

theorem conversionFits_of_countable
    {seconds : Number}
    (hCountable : CountableSeconds seconds) :
    ConversionFits seconds := by
  rcases hCountable with ⟨q, hFinite, hBounds⟩
  rcases (countable_finite_iff q).mp ⟨q, rfl, hBounds⟩ with
    ⟨hCount, hSmall⟩
  refine ⟨q, hFinite, ?_, hSmall⟩
  unfold Ticks.limit
  omega

/- A count that is not negative comes from such seconds. -/
theorem countable_of_conversionFits
    {milliseconds : Number → Int}
    (hConvert : MachineConversion milliseconds)
    {seconds : Number}
    (hNonneg : 0 ≤ milliseconds seconds)
    (hFits : ConversionFits seconds) :
    CountableSeconds seconds := by
  rcases hFits with ⟨q, hFinite, hFits⟩
  subst hFinite
  rw [hConvert q hFits] at hNonneg
  exact (countable_finite_iff q).mpr ⟨hNonneg, hFits.2⟩

theorem milliseconds_of_countable
    {milliseconds : Number → Int}
    (hConvert : MachineConversion milliseconds)
    {q : ℚ}
    (hCountable : CountableSeconds (.finite q)) :
    milliseconds (.finite q) = wholeMilliseconds q := by
  rcases conversionFits_of_countable hCountable with
    ⟨p, hSame, hFits⟩
  cases hSame
  exact hConvert q hFits

/- A count of a period comes from fewer seconds. -/
theorem wholeMilliseconds_lt_iff (q : ℚ) :
    wholeMilliseconds q < periodLimit ↔
      q * 1000 < productLimit := by
  unfold wholeMilliseconds
  rw [Ticks.truncate_lt_iff (by decide),
    nearest_lt_periodLimit_iff]

namespace FaultScheduler

/- A period fits below the first one that does not. -/
theorem delayFits_iff_lt
    (timer : Callback × Int) :
    DelayFits timer ↔ timer.2 < periodLimit := by
  rw [delayFits_iff]
  unfold periodLimit
  omega

/- The delays of a fault whose counts do not overflow. -/
theorem delaysFit_iff
    {initiallyActiveFaults : List String}
    {key : String}
    {fault : FaultConfig}
    (hSum :
      isInitiallyActive fault initiallyActiveFaults = false →
        ∀ a b, fault.start = some a → fault.duration = some b →
          Ticks.Fits (a + b)) :
    (∀ timer ∈ faultTimers initiallyActiveFaults key fault,
        DelayFits timer) ↔
      (isInitiallyActive fault initiallyActiveFaults = true →
        ∀ b, fault.duration = some b → b < periodLimit) ∧
      (isInitiallyActive fault initiallyActiveFaults = false →
        ∀ a, fault.start = some a → a < periodLimit) ∧
      (isInitiallyActive fault initiallyActiveFaults = false →
        ∀ a b, fault.start = some a → fault.duration = some b →
          a + b < periodLimit) := by
  unfold faultTimers
  cases hActive :
      isInitiallyActive fault initiallyActiveFaults with
  | true =>
      cases hDuration : fault.duration with
      | none => simp
      | some duration => simp [delayFits_iff_lt]
  | false =>
      have hAdd := hSum hActive
      cases hStart : fault.start with
      | none => simp
      | some start =>
          cases hDuration : fault.duration with
          | none => simp [delayFits_iff_lt]
          | some duration =>
              have hSame :
                  addMilliseconds start duration =
                    start + duration :=
                Ticks.wrap_of_fits
                  (hAdd start duration hStart hDuration)
              simp [delayFits_iff_lt, hSame]

end FaultScheduler

section OneFault

variable {milliseconds : Number → Int}
variable {initiallyActiveFaults : List String}
variable {fault : FaultConfig}
variable {start duration : Option Number}

/- A count that fits and is not negative is of some seconds. -/
theorem countable_of_count
    (hConvert : MachineConversion milliseconds)
    {count : Option Int}
    {seconds : Option Number}
    (hCount : count = seconds.map milliseconds)
    (hNonneg : ∀ a, count = some a → 0 ≤ a)
    (hFits :
      ∀ value, seconds = some value → ConversionFits value) :
    ∀ value, seconds = some value →
      CountableSeconds value := by
  intro value hSome
  refine
    countable_of_conversionFits hConvert (hNonneg _ ?_)
      (hFits value hSome)
  rw [hCount, hSome, Option.map_some]

theorem count_of_countable
    (hConvert : MachineConversion milliseconds)
    {count : Option Int}
    {seconds : Option Number}
    (hCount : count = seconds.map milliseconds)
    (hCountable :
      ∀ value, seconds = some value → CountableSeconds value)
    {q : ℚ}
    (hSome : seconds = some (.finite q)) :
    count = some (wholeMilliseconds q) := by
  rw [hCount, hSome, Option.map_some,
    milliseconds_of_countable hConvert (hCountable _ hSome)]

theorem inLimits_of_representable
    (hConvert : MachineConversion milliseconds)
    (hStart : fault.start = start.map milliseconds)
    (hDuration : fault.duration = duration.map milliseconds)
    (hStartNonneg : ∀ a, fault.start = some a → 0 ≤ a)
    (hDurationNonneg : ∀ b, fault.duration = some b → 0 ≤ b)
    (hRepresentable :
      Representable initiallyActiveFaults fault start
        duration) :
    InLimits (isInitiallyActive fault initiallyActiveFaults)
      start duration := by
  have hStarts :=
    countable_of_count hConvert hStart hStartNonneg
      hRepresentable.startFits
  have hDurations :=
    countable_of_count hConvert hDuration hDurationNonneg
      hRepresentable.durationFits
  rcases (FaultScheduler.delaysFit_iff hRepresentable.sum).mp
      hRepresentable.periods with
    ⟨hActive, hInactive, hSum⟩
  exact
    { startCountable := hStarts
      durationCountable := hDurations
      activeDuration := fun hIs d hSome =>
        (wholeMilliseconds_lt_iff d).mp
          (hActive hIs _
            (count_of_countable hConvert hDuration hDurations
              hSome))
      inactiveStart := fun hNot s hSome =>
        (wholeMilliseconds_lt_iff s).mp
          (hInactive hNot _
            (count_of_countable hConvert hStart hStarts hSome))
      inactiveSum := fun hNot s d hS hD =>
        hSum hNot _ _
          (count_of_countable hConvert hStart hStarts hS)
          (count_of_countable hConvert hDuration hDurations
            hD) }

/- A count of a fault is that of countable seconds. -/
theorem exists_seconds
    (hConvert : MachineConversion milliseconds)
    {count : Option Int}
    {seconds : Option Number}
    (hCount : count = seconds.map milliseconds)
    (hCountable :
      ∀ value, seconds = some value → CountableSeconds value)
    {a : Int}
    (hSome : count = some a) :
    ∃ q,
      seconds = some (.finite q) ∧
        a = wholeMilliseconds q ∧ 0 ≤ a := by
  rw [hCount] at hSome
  rcases Option.map_eq_some_iff.mp hSome with
    ⟨value, hValue, hSame⟩
  have hOwn := hCountable value hValue
  rcases hOwn with ⟨q, hFinite, hBounds⟩
  subst hFinite
  have hOwn : CountableSeconds (.finite q) := ⟨q, rfl, hBounds⟩
  rw [milliseconds_of_countable hConvert hOwn] at hSame
  refine ⟨q, hValue, hSame.symm, ?_⟩
  rw [← hSame]
  exact ((countable_finite_iff q).mp hOwn).1

theorem representable_of_inLimits
    (hConvert : MachineConversion milliseconds)
    (hStart : fault.start = start.map milliseconds)
    (hDuration : fault.duration = duration.map milliseconds)
    (hLimits :
      InLimits (isInitiallyActive fault initiallyActiveFaults)
        start duration) :
    Representable initiallyActiveFaults fault start
      duration := by
  have hSumLimit :
      isInitiallyActive fault initiallyActiveFaults = false →
        ∀ a b, fault.start = some a → fault.duration = some b →
          0 ≤ a + b ∧ a + b < periodLimit := by
    intro hNot a b hA hB
    rcases exists_seconds hConvert hStart
        hLimits.startCountable hA with
      ⟨s, hS, hSameA, hNonnegA⟩
    rcases exists_seconds hConvert hDuration
        hLimits.durationCountable hB with
      ⟨d, hD, hSameB, hNonnegB⟩
    have hLimit := hLimits.inactiveSum hNot s d hS hD
    rw [← hSameA, ← hSameB] at hLimit
    exact ⟨Int.add_nonneg hNonnegA hNonnegB, hLimit⟩
  have hSum :
      isInitiallyActive fault initiallyActiveFaults = false →
        ∀ a b, fault.start = some a → fault.duration = some b →
          Ticks.Fits (a + b) := by
    intro hNot a b hA hB
    have hBoth := hSumLimit hNot a b hA hB
    unfold periodLimit at hBoth
    unfold Ticks.Fits Ticks.limit
    omega
  refine
    { startFits := fun seconds hSome =>
        conversionFits_of_countable
          (hLimits.startCountable seconds hSome)
      durationFits := fun seconds hSome =>
        conversionFits_of_countable
          (hLimits.durationCountable seconds hSome)
      sum := hSum
      periods := (FaultScheduler.delaysFit_iff hSum).mpr ?_ }
  refine ⟨?_, ?_, ?_⟩
  · intro hIs b hB
    rcases exists_seconds hConvert hDuration
        hLimits.durationCountable hB with
      ⟨d, hD, hSame, _⟩
    rw [hSame, wholeMilliseconds_lt_iff]
    exact hLimits.activeDuration hIs d hD
  · intro hNot a hA
    rcases exists_seconds hConvert hStart
        hLimits.startCountable hA with
      ⟨s, hS, hSame, _⟩
    rw [hSame, wholeMilliseconds_lt_iff]
    exact hLimits.inactiveStart hNot s hS
  · intro hNot a b hA hB
    exact (hSumLimit hNot a b hA hB).2

end OneFault

------------------------------------------------------------
-- All Faults
------------------------------------------------------------

section Schedules

variable {Node : Type}
variable {yaml : YamlCpp Node}

/-
  A condition on each fault of a loaded scenario and on the
  seconds that its node in the file has.
-/
def ForSeconds
    (yaml : YamlCpp Node)
    (path : String)
    (scenario : ScenarioConfig)
    (P : FaultConfig → Option Number → Option Number → Prop) :
    Prop :=
  ∀ nodes,
    faultNodes yaml path = .ok nodes →
      List.Forall₂
        (fun node fault =>
          ∀ start duration,
            ReadsSeconds yaml node "start" start →
              ReadsSeconds yaml node "duration" duration →
                P fault start duration)
        nodes scenario.faults

/-
  Nothing overflows in the schedule of an accepted scenario
  exactly if all seconds are in their limits.
-/
theorem schedules_representable_iff
    {milliseconds : Number → Int}
    {path : String}
    {scenario : ScenarioConfig}
    {h : HashOrder String}
    (hConvert : MachineConversion milliseconds)
    (hLoad :
      loadScenarioConfig yaml milliseconds path =
        .ok scenario)
    (hOk : (validateScenario h scenario).ok = true) :
    ForSeconds yaml path scenario
        (Representable scenario.initiallyActiveFaults) ↔
      ForSeconds yaml path scenario
        fun fault =>
          InLimits
            (isInitiallyActive fault
              scenario.initiallyActiveFaults) := by
  rcases faults_of_loadScenarioConfig hLoad with
    ⟨nodes, hNodes, hFaults⟩
  unfold ForSeconds
  simp only [hNodes, Except.ok.injEq, forall_eq']
  refine hFaults.congr fun node fault hFault hParse => ?_
  rcases timed_of_parseFault hParse with
    ⟨start, duration, hTimed⟩
  rcases schedule_nonneg_of_ok hOk hFault with
    ⟨hStartNonneg, hDurationNonneg⟩
  refine forall₂_congr fun start' duration' => ?_
  refine forall₂_congr fun hStart hDuration => ?_
  cases hStart.symm.trans hTimed.readsStart
  cases hDuration.symm.trans hTimed.readsDuration
  exact
    ⟨inLimits_of_representable hConvert hTimed.start_eq
        hTimed.duration_eq hStartNonneg hDurationNonneg,
      representable_of_inLimits hConvert hTimed.start_eq
        hTimed.duration_eq⟩

end Schedules

------------------------------------------------------------
-- A Start That Is No Period
------------------------------------------------------------

namespace LateStart

open YamlTree

/-
  A machine whose conversion yields the smallest count for
  every product that does not fit.
-/
def milliseconds : Number → Int
| .finite q =>
    if Ticks.Fits (wholeMilliseconds q) then
      wholeMilliseconds q
    else
      -Ticks.limit
| _ => -Ticks.limit

theorem machineConversion_milliseconds :
    MachineConversion milliseconds := by
  intro q hFits
  exact if_pos hFits

/- A file with one fault and this start. -/
def file (start : String) : YamlTree :=
  .map
    [ ("injector",
        .map
          [ ("id", .scalar "odom"),
            ("type", .scalar "odom"),
            ("input_topic", .scalar "/odom_in"),
            ("output_topic", .scalar "/odom") ]),
      ("faults",
        .sequence
          [ .map
              [ ("id", .scalar "bias"),
                ("injector_id", .scalar "odom"),
                ("start", .scalar start),
                ("duration", .scalar "2.5") ] ]) ]

/- What is loaded from the file. -/
def fault (start : Int) : FaultConfig :=
  { id := "bias"
    injectorId := "odom"
    start := some start
    duration := some 2500 }

def scenario (start : Int) : ScenarioConfig :=
  { injectors :=
      [ { id := "odom"
          type := "odom"
          topic := some
            { inputTopic := "/odom_in"
              outputTopic := "/odom" } } ]
    faults := [fault start] }

theorem load_file_of_one_and_a_half :
    loadScenarioConfig (library (file "1.5")) milliseconds "" =
      .ok (scenario 1500) :=
  Except.toOption_eq_some_iff.mp (by decide +kernel)

theorem load_file_of_ten_billion :
    loadScenarioConfig (library (file "1e10")) milliseconds "" =
      .ok (scenario 10000000000000) :=
  Except.toOption_eq_some_iff.mp (by decide +kernel)

/-
  A start of 10^10 seconds is accepted. It fits in
  milliseconds, and its nanoseconds do not fit.
-/
theorem late_start_is_not_representable :
    ¬ ∀ (yaml : YamlCpp YamlTree)
        (milliseconds : Number → Int)
        (path : String)
        (scenario : ScenarioConfig)
        (h : HashOrder String),
      MachineConversion milliseconds →
        loadScenarioConfig yaml milliseconds path =
            .ok scenario →
          (validateScenario h scenario).ok = true →
            ForSeconds yaml path scenario
              (Representable
                scenario.initiallyActiveFaults) := by
  intro hAll
  have hNodes :
      faultNodes (library (file "1e10")) "" =
        .ok
          [ .map
              [ ("id", .scalar "bias"),
                ("injector_id", .scalar "odom"),
                ("start", .scalar "1e10"),
                ("duration", .scalar "2.5") ] ] := rfl
  have hFaults :=
    hAll (library (file "1e10")) milliseconds ""
      (scenario 10000000000000) .insertion
      machineConversion_milliseconds load_file_of_ten_billion
      (by decide +kernel) _ hNodes
  cases hFaults with
  | cons hFault _ =>
      have hPeriods :=
        (hFault (some (.finite 10000000000))
          (some (.finite (5 / 2)))
          (Except.toOption_eq_some_iff.mp (by decide +kernel))
          (Except.toOption_eq_some_iff.mp
            (by decide +kernel))).periods
      have hLate :=
        hPeriods
          (.startFault "odom" (fault 10000000000000),
            10000000000000)
          (by decide)
      rw [FaultScheduler.delayFits_iff_lt] at hLate
      exact absurd hLate (by decide)

/- The exact limits for a start of a second and a half. -/
theorem schedules_representable_iff_of_early_start :
    ForSeconds (library (file "1.5")) "" (scenario 1500)
        (Representable
          (scenario 1500).initiallyActiveFaults) ↔
      ForSeconds (library (file "1.5")) "" (scenario 1500)
        fun fault =>
          InLimits
            (isInitiallyActive fault
              (scenario 1500).initiallyActiveFaults) :=
  schedules_representable_iff (h := .insertion)
    machineConversion_milliseconds load_file_of_one_and_a_half
    (by decide +kernel)

end LateStart
