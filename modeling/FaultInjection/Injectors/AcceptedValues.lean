import FaultInjection.Core.StoredConfigs
import FaultInjection.Injectors.ActiveValues
import FaultInjection.Injectors.ValueReaders

/-
  The numbers that active faults set, and what is known of
  them when the faults have accepted configurations.

  An accepted double keeps the bounds of its field. It can
  still be not-a-number, which is neither below nor above a
  bound, and infinite.

  Key definitions include:
    * `FaultInjectorBase.ActiveValue`
    * `FaultInjectorBase.Accepted`

  Key theorems include:
    * `FaultInjectorBase.mem_readActive_iff`
    * `FaultInjectorBase.activeMaxDouble_spec`
    * `FaultInjectorBase.activeMinDouble_spec`
    * `FaultInjectorBase.activeValue_bounds`
-/

open NumberText

namespace FaultInjectorBase

------------------------------------------------------------
-- Values
------------------------------------------------------------

/- Some active fault sets the key to this number. -/
def ActiveValue
    (base : FaultInjectorBase)
    (key : String)
    (value : Number) : Prop :=
  ∃ faultId fault text,
    base.isActive faultId = true ∧
      base.getFaultConfig faultId = some fault ∧
        fault.config.find? key = some text ∧
          stod text = .ok value

/- The active faults have configurations for the type. -/
def Accepted
    (type : String)
    (base : FaultInjectorBase) : Prop :=
  ∀ faultId fault,
    base.isActive faultId = true →
      base.getFaultConfig faultId = some fault →
        SatisfiesSchema (schemaForBuiltinInjectorType type)
          fault.config

/- Stored faults that pass validation are accepted. -/
theorem accepted_of_validated
    {h : HashOrder String}
    {base : FaultInjectorBase}
    {scenario : ScenarioConfig}
    {injector : InjectorConfig}
    (hKnown : isKnownInjectorType injector.type = true)
    (hStored :
      ∀ entry ∈ base.faults.enumerate h,
        (validateFault h scenario entry.2 injector).ok =
          true) :
    Accepted injector.type base := by
  intro faultId fault _ hFault
  have hEntry :=
    (UnorderedMap.mem_enumerate_iff h base.faults faultId
      fault).mpr hFault
  exact
    satisfiesSchema_of_ok hKnown
      (hStored (faultId, fault) hEntry)

theorem getFaultConfig_eq_of_faultAt
    {base : FaultInjectorBase}
    {faultId : String}
    {fault : FaultConfig} :
    base.faultAt faultId = .ok fault ↔
      base.getFaultConfig faultId = some fault := by
  unfold faultAt getFaultConfig
  cases base.faults.find? faultId with
  | none => simp
  | some found => simp

/- What the active faults read is what they set. -/
theorem mem_readActive_iff
    {h : HashOrder String}
    {base : FaultInjectorBase}
    {key : String}
    {reads : List (Option Number)}
    (hReads : readActive stod h base key = .ok reads)
    (value : Number) :
    value ∈ reads.reduceOption ↔
      ActiveValue base key value := by
  have hEach := Except.mapM_eq_ok_iff.mp hReads
  rw [List.reduceOption_mem_iff]
  constructor
  · intro hMem
    rcases hEach.exists_of_mem_right hMem with
      ⟨faultId, hId, hOwn⟩
    have hActive := mem_activeFaultIds_iff.mp hId
    rcases Except.bind_eq_ok_iff.mp hOwn with
      ⟨fault, hFault, hConfigured⟩
    unfold configured at hConfigured
    cases hText : fault.config.find? key with
    | none => simp [hText] at hConfigured
    | some text =>
        rw [hText] at hConfigured
        refine
          ⟨faultId, fault, text, hActive,
            getFaultConfig_eq_of_faultAt.mp hFault, hText, ?_⟩
        cases hValue : stod text with
        | error e => simp [hValue, Except.map] at hConfigured
        | ok number =>
            simpa [hValue, Except.map] using hConfigured
  · rintro ⟨faultId, fault, text, hActive, hFault, hText,
      hValue⟩
    rcases hEach.exists_of_mem_left
        ((mem_activeFaultIds_iff (h := h)).mpr hActive) with
      ⟨read, hMem, hOwn⟩
    rw [getFaultConfig_eq_of_faultAt.mpr hFault] at hOwn
    change configured stod key fault = .ok read at hOwn
    unfold configured at hOwn
    rw [hText] at hOwn
    have hRead : read = some value := by
      simpa [hValue, Except.map] using hOwn.symm
    rw [← hRead]
    exact hMem

------------------------------------------------------------
-- Choices
------------------------------------------------------------

section Choices

variable {h : HashOrder String}
variable {base : FaultInjectorBase}
variable {key : String}
variable {fallback chosen : Number}

/-
  The largest of the numbers that are set and the fallback.
  What is not a number is passed over.
-/
theorem activeMaxDouble_spec
    (hMax :
      base.activeMaxDouble h key fallback = .ok chosen)
    (hFallback : fallback ≠ .nan) :
    (chosen = fallback ∨ ActiveValue base key chosen) ∧
      fallback.le chosen = true ∧
        ∀ value, ActiveValue base key value →
          value ≠ .nan → value.le chosen = true := by
  rw [activeMaxDouble_eq] at hMax
  cases hReads : readActive stod h base key with
  | error e => simp [hReads, Except.map] at hMax
  | ok reads =>
      rw [hReads] at hMax
      cases hMax
      have hMem := mem_readActive_iff hReads
      have hChosen :=
        Number.largest.chosenFrom_getD reads fallback
      have hBest :=
        Number.largest.foldl_pick_best
          (reads.map fun read => read.getD fallback)
          hFallback
      rw [List.foldl_map] at hBest
      refine ⟨?_, ?_, ?_⟩
      · rcases List.mem_cons.mp hChosen.mem with hSame | hOwn
        · exact Or.inl hSame
        · exact Or.inr ((hMem _).mp hOwn)
      · rw [← Number.largest_atLeast_iff]
        exact
          ⟨hBest.1, hFallback,
            hBest.2 fallback List.mem_cons_self hFallback⟩
      · intro value hValue hNumber
        rw [← Number.largest_atLeast_iff]
        refine ⟨hBest.1, hNumber, hBest.2 value ?_ hNumber⟩
        have hRead :=
          List.reduceOption_mem_iff.mp ((hMem value).mpr hValue)
        exact
          List.mem_cons_of_mem _
            (List.mem_map.mpr ⟨some value, hRead, rfl⟩)

/- The smallest of the numbers that are set and the fallback. -/
theorem activeMinDouble_spec
    (hMin :
      pointCloudFaultInjector.activeMinDouble h base key
          fallback =
        .ok chosen)
    (hFallback : fallback ≠ .nan) :
    (chosen = fallback ∨ ActiveValue base key chosen) ∧
      chosen.le fallback = true ∧
        ∀ value, ActiveValue base key value →
          value ≠ .nan → chosen.le value = true := by
  rw [pointCloudFaultInjector.activeMinDouble_eq] at hMin
  cases hReads : readActive stod h base key with
  | error e => simp [hReads, Except.map] at hMin
  | ok reads =>
      rw [hReads] at hMin
      cases hMin
      have hMem := mem_readActive_iff hReads
      have hChosen :=
        Number.smallest.chosenFrom_elim reads fallback
      have hBest :=
        Number.smallest.foldl_pick_best reads.reduceOption
          hFallback
      have hFold :=
        Number.smallest.foldl_reduceOption reads fallback
      rw [hFold] at hBest
      refine ⟨?_, ?_, ?_⟩
      · rcases List.mem_cons.mp hChosen.mem with hSame | hOwn
        · exact Or.inl hSame
        · exact Or.inr ((hMem _).mp hOwn)
      · rw [← Number.smallest_atLeast_iff]
        exact
          ⟨hBest.1, hFallback,
            hBest.2 fallback List.mem_cons_self hFallback⟩
      · intro value hValue hNumber
        rw [← Number.smallest_atLeast_iff]
        exact
          ⟨hBest.1, hNumber,
            hBest.2 value
              (List.mem_cons_of_mem _ ((hMem value).mpr hValue))
              hNumber⟩

end Choices

------------------------------------------------------------
-- Bounds
------------------------------------------------------------

/- Reading a number does not change it. -/
theorem eq_of_checkSubnormal
    {x value : Number}
    (hRead : checkSubnormal x = .ok value) :
    value = x := by
  cases x with
  | finite q =>
      by_cases hInexact : isInexactSubnormal q = true
      · simp [checkSubnormal, hInexact] at hRead
      · simpa [checkSubnormal, hInexact] using hRead.symm
  | posInf => simpa [checkSubnormal] using hRead.symm
  | negInf => simpa [checkSubnormal] using hRead.symm
  | nan => simpa [checkSubnormal] using hRead.symm

/- An accepted double that is read keeps its field's bounds. -/
theorem activeValue_bounds
    {type : String}
    {base : FaultInjectorBase}
    {field : FaultConfigField}
    {value : Number}
    (hAccepted : Accepted type base)
    (hField : field ∈ schemaForBuiltinInjectorType type)
    (hType : field.type = "double")
    (hValue : ActiveValue base field.key value) :
    (∀ low, field.minValue = some low →
        value.lt (.finite low) = false) ∧
      ∀ high, field.maxValue = some high →
        Number.lt (.finite high) value = false := by
  rcases hValue with
    ⟨faultId, fault, text, hActive, hFault, hText, hRead⟩
  have hOk :=
    (hAccepted faultId fault hActive hFault).values field
      hField text hText
  rcases exists_parseDouble_of_accepted hType hOk with
    ⟨x, hParse⟩
  have hSame : value = x := by
    rw [stod_of_fromChars (fromChars_of_parseDouble hParse)]
      at hRead
    exact eq_of_checkSubnormal hRead
  rw [hSame, ← validateBounds_eq_none_iff]
  simpa [validateConfigValue, hType, hParse] using hOk

end FaultInjectorBase
