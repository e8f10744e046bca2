import Mathlib.Data.List.ReduceOption
import FaultInjection.Foundations.NumberFolds
import FaultInjection.Foundations.OrderFreeFolds
import FaultInjection.Injectors.PointCloudFaultInjector

/-
  The values that active faults configure for a key, and what
  the helpers of the injectors make of them.

  A helper goes through the active faults. It reads what each
  has for the key, or nothing, and combines what it has read.

  Key definitions include:
    * `FaultInjectorBase.readActive`
    * `FaultInjectorBase.configuredValues`
    * `TakesConfigured`
    * `FallbackYields`

  Key theorems include:
    * `FaultInjectorBase.activeMaxDouble_eq`
    * `pointCloudFaultInjector.activeMinDouble_eq`
    * `configured_values_take_effect_iff`
-/

open NumberText

------------------------------------------------------------
-- Reading The Active Faults
------------------------------------------------------------

namespace FaultInjectorBase

variable {β γ : Type}

/- What a fault has for a key, or nothing. -/
def configured
    (parse : String → Except Errc β)
    (key : String)
    (fault : FaultConfig) : Except Errc (Option β) :=
  match fault.config.find? key with
  | none => .ok none
  | some text => (parse text).map some

/- What each active fault has, in iteration order. -/
def readActive
    (parse : String → Except Errc β)
    (h : HashOrder String)
    (injector : FaultInjectorBase)
    (key : String) : Except Errc (List (Option β)) :=
  (injector.activeFaultIds h).mapM fun faultId => do
    configured parse key (← injector.faultAt faultId)

/- The values that active faults configure for the key. -/
def configuredValues
    (parse : String → Except Errc β)
    (h : HashOrder String)
    (injector : FaultInjectorBase)
    (key : String) : Except Errc (List β) :=
  (readActive parse h injector key).map List.reduceOption

/- A helper that combines what it reads of each fault. -/
theorem foldActive_reads
    {parse : String → Except Errc β}
    {key : String}
    {step : γ → FaultConfig → Except Errc γ}
    {combine : γ → Option β → γ}
    (hStep :
      ∀ value fault,
        step value fault =
          (configured parse key fault).map (combine value))
    (h : HashOrder String)
    (injector : FaultInjectorBase)
    (start : γ) :
    injector.foldActive h step start =
      (readActive parse h injector key).map
        (fun values => values.foldl combine start) := by
  have hReads :=
    foldlM_reads
      (fun faultId => do
        configured parse key (← injector.faultAt faultId))
      combine (injector.activeFaultIds h) start
  refine Eq.trans ?_ hReads
  unfold foldActive
  congr 1
  funext value faultId
  cases injector.faultAt faultId with
  | error e => rfl
  | ok fault =>
      refine (hStep value fault).trans ?_
      change _ = (configured parse key fault >>= fun _ => _)
      cases configured parse key fault with
      | error e => rfl
      | ok read => rfl

theorem getDouble_eq
    (fault : FaultConfig)
    (key : String)
    (fallback : Number) :
    getDouble fault key fallback =
      (configured stod key fault).map
        (fun read => read.getD fallback) := by
  unfold getDouble configured
  cases fault.config.find? key with
  | none => rfl
  | some text =>
      simp only
      cases stod text <;> rfl

theorem getInt_eq
    (fault : FaultConfig)
    (key : String)
    (fallback : Int) :
    getInt fault key fallback =
      (configured stoi key fault).map
        (fun read => read.getD fallback) := by
  unfold getInt configured
  cases fault.config.find? key with
  | none => rfl
  | some text =>
      simp only
      cases stoi text <;> rfl

variable (h : HashOrder String)
variable (injector : FaultInjectorBase)
variable (key : String)

theorem activeMaxDouble_eq (fallback : Number) :
    injector.activeMaxDouble h key fallback =
      (readActive stod h injector key).map fun values =>
        values.foldl
          (fun value read => value.max (read.getD fallback))
          fallback := by
  refine foldActive_reads ?_ h injector fallback
  intro value fault
  rw [getDouble_eq]
  cases configured stod key fault <;> rfl

theorem activeSumDouble_eq (fallback : Number) :
    injector.activeSumDouble h key fallback =
      (readActive stod h injector key).map fun values =>
        values.foldl
          (fun value read => value.add (read.getD fallback))
          .zero := by
  refine foldActive_reads ?_ h injector Number.zero
  intro value fault
  rw [getDouble_eq]
  cases configured stod key fault <;> rfl

theorem activeMaxInt_eq (fallback : Int) :
    injector.activeMaxInt h key fallback =
      (readActive stoi h injector key).map fun values =>
        values.foldl
          (fun value read => Max.max value (read.getD fallback))
          fallback := by
  refine foldActive_reads ?_ h injector fallback
  intro value fault
  rw [getInt_eq]
  cases configured stoi key fault <;> rfl

end FaultInjectorBase

namespace pointCloudFaultInjector

open FaultInjectorBase

variable (h : HashOrder String)
variable (base : FaultInjectorBase)
variable (key : String)

theorem activeMinDouble_eq (fallback : Number) :
    activeMinDouble h base key fallback =
      (readActive stod h base key).map fun values =>
        values.foldl
          (fun value read => read.elim value value.min)
          fallback := by
  refine foldActive_reads ?_ h base fallback
  intro value fault
  unfold configured
  cases fault.config.find? key with
  | none => rfl
  | some text =>
      simp only
      cases stod text <;> rfl

theorem activeProductDouble_eq (fallback : Number) :
    activeProductDouble h base key fallback =
      (readActive stod h base key).map fun values =>
        values.foldl
          (fun value read => read.elim value value.mul)
          fallback := by
  refine foldActive_reads ?_ h base fallback
  intro value fault
  unfold configured
  cases fault.config.find? key with
  | none => rfl
  | some text =>
      simp only
      cases stod text <;> rfl

/- The product so far, none before the first factor. -/
def multiplied
    (value : Option Number)
    (read : Option Number) : Option Number :=
  read.elim value fun factor =>
    some ((value.getD .one).mul factor)

theorem activeProductDoubleOrDefault_eq (fallback : Number) :
    activeProductDoubleOrDefault h base key fallback =
      (readActive stod h base key).map fun values =>
        (values.foldl multiplied none).getD fallback := by
  unfold activeProductDoubleOrDefault
  rw [@foldActive_reads Number (Option Number) stod key _
    multiplied]
  · cases readActive stod h base key <;> rfl
  · intro value fault
    unfold configured
    cases fault.config.find? key with
    | none => rfl
    | some text =>
      simp only
      cases stod text <;> rfl

end pointCloudFaultInjector

------------------------------------------------------------
-- Configured Values And Fallbacks
------------------------------------------------------------

namespace BestChoice

variable {α : Type}
variable {choice : BestChoice α}

/- Items without a value count as the start value. -/
theorem chosenFrom_getD
    (choice : BestChoice α)
    (reads : List (Option α))
    (start : α) :
    choice.ChosenFrom start reads.reduceOption
      (reads.foldl
        (fun value read => choice.pick value (read.getD start))
        start) := by
  have hFold :=
    choice.foldl_pick
      (reads.map fun read => read.getD start) start
  rw [List.foldl_map] at hFold
  have hRead :
      ∀ value ∈ reads.map (fun read => read.getD start),
        value = start ∨ value ∈ reads.reduceOption := by
    intro value hValue
    rcases List.mem_map.mp hValue with ⟨read, hMem, hValue⟩
    cases read with
    | none => exact Or.inl hValue.symm
    | some found =>
        right
        rw [List.reduceOption_mem_iff, ← hValue]
        exact hMem
  refine ⟨?_, ?_, hFold.kept⟩
  · rcases List.mem_cons.mp hFold.mem with hStart | hMem
    · rw [hStart]
      exact List.mem_cons_self
    · rcases hRead _ hMem with hStart | hValue
      · rw [hStart]
        exact List.mem_cons_self
      · exact List.mem_cons_of_mem _ hValue
  · intro hStart hAll other hOther
    have hComparable :
        ∀ value ∈ reads.map (fun read => read.getD start),
          choice.comparable value := by
      intro value hValue
      rcases hRead value hValue with hSame | hMem
      · rw [hSame]
        exact hStart
      · exact hAll value hMem
    refine hFold.best hStart hComparable other ?_
    rcases List.mem_cons.mp hOther with hSame | hMem
    · rw [hSame]
      exact List.mem_cons_self
    · refine List.mem_cons_of_mem _ (List.mem_map.mpr ?_)
      exact
        ⟨some other, List.reduceOption_mem_iff.mp hMem, rfl⟩

/- Items without a value are passed over. -/
theorem foldl_reduceOption
    (choice : BestChoice α)
    (reads : List (Option α))
    (start : α) :
    reads.reduceOption.foldl choice.pick start =
      reads.foldl
        (fun value read =>
          read.elim value (choice.pick value))
        start := by
  rw [List.reduceOption, List.foldl_filterMap]
  congr 1
  funext value read
  cases read <;> rfl

theorem chosenFrom_elim
    (choice : BestChoice α)
    (reads : List (Option α))
    (start : α) :
    choice.ChosenFrom start reads.reduceOption
      (reads.foldl
        (fun value read =>
          read.elim value (choice.pick value))
        start) := by
  rw [← choice.foldl_reduceOption]
  exact choice.foldl_pick reads.reduceOption start

end BestChoice

section Fallbacks

variable {α : Type}

/-
  The result is the best of the values that are configured,
  and the fallback if none is.
-/
def TakesConfigured
    (choice : BestChoice α)
    (fallback : α)
    (configured : Except Errc (List α))
    (result : Except Errc α) : Prop :=
  ∃ values chosen,
    configured = .ok values ∧
      result = .ok chosen ∧
        choice.Applies fallback values chosen

/-
  All configured values are read as numbers, and if there are
  any the fallback does not beat them all.
-/
def FallbackYields
    (choice : BestChoice α)
    (fallback : α)
    (configured : Except Errc (List α)) : Prop :=
  ∃ values,
    configured = .ok values ∧
      (∀ value ∈ values, choice.comparable value) ∧
        (values = [] ∨
          ∃ value ∈ values, choice.AtLeast value fallback)

open FaultInjectorBase

/- A helper takes the configured values if these suffice. -/
theorem takesConfigured_iff
    {choice : BestChoice α}
    {fallback : α}
    {parse : String → Except Errc α}
    {h : HashOrder String}
    {injector : FaultInjectorBase}
    {key : String}
    {combine : α → Option α → α}
    (hChosen :
      ∀ reads : List (Option α),
        choice.ChosenFrom fallback reads.reduceOption
          (reads.foldl combine fallback)) :
    TakesConfigured choice fallback
        (configuredValues parse h injector key)
        ((readActive parse h injector key).map
          (fun reads => reads.foldl combine fallback)) ↔
      FallbackYields choice fallback
        (configuredValues parse h injector key) := by
  unfold TakesConfigured FallbackYields configuredValues
  cases readActive parse h injector key with
  | error e => simp [Except.map]
  | ok reads =>
      simp only [Except.map, Except.ok.injEq,
        exists_and_left, exists_eq_left']
      exact BestChoice.applies_iff (hChosen reads)

end Fallbacks

------------------------------------------------------------
-- A Scale Below The Fallback
------------------------------------------------------------

namespace SmallScale

open FaultInjectorBase

/- An active fault that halves the pose covariance. -/
def injector : FaultInjectorBase :=
  let fault : FaultConfig :=
    { id := "confident"
      injectorId := "base"
      config :=
        UnorderedMap.empty.insert "pose_covariance_scale"
          "0.5" }
  let created : FaultInjectorBase :=
    { config := { id := "base", type := "odom" } }
  (created.addFault fault).activateFault "confident"

end SmallScale
