import FaultInjection.Config.ScenarioValidator
import FaultInjection.Foundations.OrderFreeFolds

/-
  Validation does not depend on the order of a scenario.

  Injectors, faults and assertions may be listed in any
  order, and the parameters of a fault visited in any order:
  a scenario is accepted or not all the same. With distinct
  injector ids even the findings are the same ones.

  Key definitions include:
    * `ValidationResult.SameFindings`
    * `ScenarioConfig.SameEntries`

  Key theorems include:
    * `sameFindings_checkDistinct`
    * `sameFindings_validateFault`
    * `validation_is_order_free`
-/

------------------------------------------------------------
-- Findings
------------------------------------------------------------

namespace ValidationResult

/- The same errors and warnings, each as often. -/
structure SameFindings (a b : ValidationResult) : Prop where
  errors : a.errors.Perm b.errors
  warnings : a.warnings.Perm b.warnings

namespace SameFindings

variable {a b c d : ValidationResult}

theorem refl (a : ValidationResult) : SameFindings a a :=
  ⟨List.Perm.refl _, List.Perm.refl _⟩

theorem of_eq (hSame : a = b) : SameFindings a b := by
  rw [hSame]
  exact refl b

theorem symm (hSame : SameFindings a b) : SameFindings b a :=
  ⟨hSame.errors.symm, hSame.warnings.symm⟩

theorem trans
    (hFirst : SameFindings a b)
    (hSecond : SameFindings b c) :
    SameFindings a c :=
  ⟨hFirst.errors.trans hSecond.errors,
    hFirst.warnings.trans hSecond.warnings⟩

theorem append
    (hFirst : SameFindings a b)
    (hSecond : SameFindings c d) :
    SameFindings (a ++ c) (b ++ d) :=
  ⟨hFirst.errors.append hSecond.errors,
    hFirst.warnings.append hSecond.warnings⟩

/- Two groups of findings can be exchanged. -/
theorem exchange (a b c : ValidationResult) :
    SameFindings (a ++ (b ++ c)) (b ++ (a ++ c)) := by
  constructor
  · show
      (a.errors ++ (b.errors ++ c.errors)).Perm
        (b.errors ++ (a.errors ++ c.errors))
    rw [← List.append_assoc, ← List.append_assoc]
    exact List.perm_append_comm.append_right _
  · show
      (a.warnings ++ (b.warnings ++ c.warnings)).Perm
        (b.warnings ++ (a.warnings ++ c.warnings))
    rw [← List.append_assoc, ← List.append_assoc]
    exact List.perm_append_comm.append_right _

/- The same findings accept the same. -/
theorem ok_eq (hSame : SameFindings a b) : a.ok = b.ok := by
  have hLength := hSame.errors.length_eq
  unfold ok
  rw [Bool.eq_iff_iff, List.isEmpty_iff_length_eq_zero,
    List.isEmpty_iff_length_eq_zero, hLength]

end SameFindings

theorem append_assoc (a b c : ValidationResult) :
    a ++ b ++ c = a ++ (b ++ c) := by
  show
    ValidationResult.mk (a.errors ++ b.errors ++ c.errors)
        (a.warnings ++ b.warnings ++ c.warnings) =
      ValidationResult.mk
        (a.errors ++ (b.errors ++ c.errors))
        (a.warnings ++ (b.warnings ++ c.warnings))
  rw [List.append_assoc, List.append_assoc]

/- Two findings with a third between them change places. -/
theorem sameFindings_ends (a b c d : ValidationResult) :
    SameFindings (a ++ (b ++ (c ++ d)))
      (c ++ (b ++ (a ++ d))) := by
  have hInner :=
    (SameFindings.refl a).append (.exchange b c d)
  have hOuter := SameFindings.exchange a c (b ++ d)
  have hLast :=
    (SameFindings.refl c).append (.exchange a b d)
  exact (hInner.trans hOuter).trans hLast

/- Two pairs of findings change places. -/
theorem sameFindings_pairs (a b c d e : ValidationResult) :
    SameFindings (a ++ (b ++ (c ++ (d ++ e))))
      (c ++ (d ++ (a ++ (b ++ e)))) := by
  have hPairs :=
    SameFindings.exchange (a ++ b) (c ++ d) e
  simpa only [append_assoc] using hPairs

section Items

variable {α : Type}
variable {check other : α → ValidationResult}
variable {items others : List α}

theorem sameFindings_forEach
    (hPerm : items.Perm others) :
    SameFindings (forEach check items)
      (forEach check others) := by
  induction hPerm with
  | nil => exact .refl _
  | cons item _ ih => exact (SameFindings.refl _).append ih
  | swap first second rest => exact .exchange _ _ _
  | trans _ _ ih₁ ih₂ => exact ih₁.trans ih₂

theorem sameFindings_forEach_congr
    (hSame :
      ∀ item ∈ items,
        SameFindings (check item) (other item)) :
    SameFindings (forEach check items)
      (forEach other items) := by
  induction items with
  | nil => exact .refl _
  | cons item items ih =>
      have hRest := ih fun next hNext =>
        hSame next (List.mem_cons_of_mem item hNext)
      exact (hSame item List.mem_cons_self).append hRest

end Items

end ValidationResult

open ValidationResult

------------------------------------------------------------
-- Distinct Ids
------------------------------------------------------------

section Distinct

variable {α : Type}
variable {kind : String}
variable {id : α → String}
variable {check other : α → ValidationResult}

/- Only what has been seen matters, not its order. -/
theorem checkDistinct_congr_seen
    {seen known : List String}
    (hSeen : ∀ name, name ∈ seen ↔ name ∈ known)
    (items : List α) :
    checkDistinct kind id check seen items =
      checkDistinct kind id check known items := by
  induction items generalizing seen known with
  | nil => rfl
  | cons item items ih =>
      have hRest :
          ∀ name,
            (name ∈ if id item = "" then seen
                else id item :: seen) ↔
              name ∈ if id item = "" then known
                else id item :: known := by
        intro name
        by_cases hEmpty : id item = ""
        · simpa only [hEmpty, if_true] using hSeen name
        · simp only [hEmpty, if_false, List.mem_cons, hSeen]
      rw [checkDistinct, checkDistinct, ih hRest]
      simp only [hSeen]

/-
  Two items next to each other can be exchanged: of two with
  one id the second is the duplicate, whichever comes first.
-/
theorem sameFindings_checkDistinct_swap
    (seen : List String)
    (first second : α)
    (items : List α) :
    SameFindings
      (checkDistinct kind id check seen
        (first :: second :: items))
      (checkDistinct kind id check seen
        (second :: first :: items)) := by
  simp only [checkDistinct, append_assoc]
  by_cases hSame : id first = id second
  · rw [hSame]
    exact
      (SameFindings.refl _).append
        (sameFindings_ends _ _ _ _)
  · have hRest :
        ∀ name,
          (name ∈ if id second = "" then
              if id first = "" then seen else id first :: seen
            else
              id second ::
                if id first = "" then seen
                  else id first :: seen) ↔
            name ∈ if id first = "" then
              if id second = "" then seen
                else id second :: seen
            else
              id first ::
                if id second = "" then seen
                  else id second :: seen := by
      intro name
      by_cases hFirst : id first = ""
      · simp only [hFirst, if_true]
      · by_cases hSecond : id second = ""
        · simp only [hSecond, if_true]
        · simp only [hFirst, hSecond, if_false, List.mem_cons]
          tauto
    have hNew :
        (id second ∈ if id first = "" then seen
            else id first :: seen) ↔
          id second ∈ seen := by
      by_cases hFirst : id first = ""
      · simp only [hFirst, if_true]
      · simp only [hFirst, if_false, List.mem_cons,
          Ne.symm hSame, false_or]
    have hOld :
        (id first ∈ if id second = "" then seen
            else id second :: seen) ↔
          id first ∈ seen := by
      by_cases hSecond : id second = ""
      · simp only [hSecond, if_true]
      · simp only [hSecond, if_false, List.mem_cons, hSame,
          false_or]
    rw [checkDistinct_congr_seen hRest]
    simp only [hNew, hOld]
    exact sameFindings_pairs _ _ _ _ _

theorem sameFindings_checkDistinct
    {items others : List α}
    (hPerm : items.Perm others)
    (seen : List String) :
    SameFindings (checkDistinct kind id check seen items)
      (checkDistinct kind id check seen others) := by
  induction hPerm generalizing seen with
  | nil => exact .refl _
  | cons item _ ih => exact (SameFindings.refl _).append (ih _)
  | swap first second rest =>
      exact sameFindings_checkDistinct_swap seen _ _ rest
  | trans _ _ ih₁ ih₂ => exact (ih₁ seen).trans (ih₂ seen)

theorem sameFindings_checkDistinct_congr
    {items : List α}
    (hSame :
      ∀ item ∈ items,
        SameFindings (check item) (other item))
    (seen : List String) :
    SameFindings (checkDistinct kind id check seen items)
      (checkDistinct kind id other seen items) := by
  induction items generalizing seen with
  | nil => exact .refl _
  | cons item items ih =>
      have hRest := ih fun next hNext =>
        hSame next (List.mem_cons_of_mem item hNext)
      have hItem := hSame item List.mem_cons_self
      exact ((SameFindings.refl _).append hItem).append (hRest _)

end Distinct

------------------------------------------------------------
-- Scenarios
------------------------------------------------------------

/- The same entries, listed in any order. -/
structure ScenarioConfig.SameEntries
    (s t : ScenarioConfig) : Prop where
  injectors : s.injectors.Perm t.injectors
  faults : s.faults.Perm t.faults
  initiallyActive :
    ∀ id,
      id ∈ s.initiallyActiveFaults ↔
        id ∈ t.initiallyActiveFaults
  assertions : s.assertions.Perm t.assertions

section Scenarios

variable {h k : HashOrder String}
variable {s t : ScenarioConfig}

theorem ScenarioConfig.SameEntries.symm
    (hSame : s.SameEntries t) :
    t.SameEntries s :=
  ⟨hSame.injectors.symm, hSame.faults.symm,
    fun id => (hSame.initiallyActive id).symm,
    hSame.assertions.symm⟩

/- With distinct ids the same injector is found. -/
theorem ScenarioConfig.SameEntries.findInjector_eq
    (hSame : s.SameEntries t)
    (hDistinct : (s.injectors.map InjectorConfig.id).Nodup)
    (injectorId : String) :
    s.findInjector injectorId = t.findInjector injectorId := by
  have hOther : (t.injectors.map InjectorConfig.id).Nodup :=
    (hSame.injectors.map _).nodup_iff.mp hDistinct
  apply Option.ext
  intro injector
  unfold ScenarioConfig.findInjector
  rw [List.find?_eq_some_iff_of_nodup_map hDistinct,
    List.find?_eq_some_iff_of_nodup_map hOther,
    hSame.injectors.mem_iff]

theorem ScenarioConfig.SameEntries.faultExists_eq
    (hSame : s.SameEntries t)
    (faultId : String) :
    s.faultExists faultId = t.faultExists faultId := by
  unfold ScenarioConfig.faultExists
  rw [Bool.eq_iff_iff, List.any_eq_true, List.any_eq_true]
  simp only [hSame.faults.mem_iff]

/- A fault has the same findings against its injector. -/
theorem sameFindings_validateFault
    (hSame : s.SameEntries t)
    (fault : FaultConfig)
    (injector : InjectorConfig) :
    SameFindings (validateFault h s fault injector)
      (validateFault k t fault injector) := by
  have hActive :
      isInitiallyActive fault s.initiallyActiveFaults =
        isInitiallyActive fault t.initiallyActiveFaults := by
    unfold isInitiallyActive
    rw [decide_eq_decide]
    exact hSame.initiallyActive fault.id
  unfold validateFault
  rw [hActive]
  refine (SameFindings.refl _).append ?_
  by_cases hKnown : isKnownInjectorType injector.type
  · simp only [hKnown, if_true]
    refine SameFindings.append ?_ (.refl _)
    exact
      sameFindings_forEach
        (fault.config.enumerate_perm h k)
  · simp only [hKnown]
    exact .refl _

theorem sameFindings_validateFaultOfScenario
    (hSame : s.SameEntries t)
    (hDistinct : (s.injectors.map InjectorConfig.id).Nodup)
    (fault : FaultConfig) :
    SameFindings (validateFaultOfScenario h s fault)
      (validateFaultOfScenario k t fault) := by
  unfold validateFaultOfScenario
  rw [hSame.findInjector_eq hDistinct]
  cases t.findInjector fault.injectorId with
  | none => exact .refl _
  | some injector =>
      exact sameFindings_validateFault hSame fault injector

theorem validateAssertions_eq
    (hSame : s.SameEntries t)
    (assertion : AssertionConfig) :
    validateAssertions s assertion =
      validateAssertions t assertion := by
  unfold validateAssertions validateFaultEvent
    validateTwistStopped validateFaultReference
  rw [hSame.faultExists_eq]

/- With distinct injector ids all findings are the same. -/
theorem sameFindings_validateScenario
    (hSame : s.SameEntries t)
    (hDistinct : (s.injectors.map InjectorConfig.id).Nodup) :
    SameFindings (validateScenario h s)
      (validateScenario k t) := by
  have hFaults :
      SameFindings
        (forEach (validateFaultOfScenario h s) s.faults)
        (forEach (validateFaultOfScenario k t) t.faults) :=
    (sameFindings_forEach_congr fun fault _ =>
      sameFindings_validateFaultOfScenario hSame hDistinct
        fault).trans
      (sameFindings_forEach hSame.faults)
  refine SameFindings.append (.append ?_ hFaults) ?_
  · exact sameFindings_checkDistinct hSame.injectors []
  · refine
      SameFindings.trans
        (sameFindings_checkDistinct_congr ?_ [])
        (sameFindings_checkDistinct hSame.assertions [])
    intro assertion _
    exact .of_eq (validateAssertions_eq hSame assertion)

/- One order is accepted if another one is. -/
theorem ok_of_sameEntries
    (hSame : s.SameEntries t)
    (hOk : (validateScenario h s).ok = true) :
    (validateScenario k t).ok = true := by
  have hFindings :
      SameFindings (validateScenario h s)
        (validateScenario k t) :=
    sameFindings_validateScenario hSame
      (nodup_injector_ids_of_ok hOk)
  rw [← hFindings.ok_eq]
  exact hOk

/-
  A scenario is accepted in every order of its entries or in
  none, whatever order its maps are visited in; and if its
  injector ids are distinct, the errors and the warnings are
  the same in every order.
-/
theorem validation_is_order_free
    (hSame : s.SameEntries t) :
    (validateScenario h s).ok = (validateScenario k t).ok ∧
      ((s.injectors.map InjectorConfig.id).Nodup →
        SameFindings (validateScenario h s)
          (validateScenario k t)) := by
  refine ⟨?_, sameFindings_validateScenario hSame⟩
  rw [Bool.eq_iff_iff]
  exact ⟨ok_of_sameEntries hSame, ok_of_sameEntries hSame.symm⟩

end Scenarios

------------------------------------------------------------
-- Two Orders
------------------------------------------------------------

namespace ScenarioConfig.Shuffled

def laser : InjectorConfig :=
  { id := "laser"
    type := "scan"
    topic := some
      { inputTopic := "scan", outputTopic := "scan_faulty" } }

def wheels : InjectorConfig :=
  { id := "wheels"
    type := "odom"
    topic := some
      { inputTopic := "odom", outputTopic := "odom_faulty" } }

/- A fault with a bad value and a key that is not known. -/
def drop : FaultConfig :=
  { id := "drop"
    injectorId := "laser"
    config :=
      (UnorderedMap.empty.insert "drop_probability" "2").insert
        "colour" "red" }

def drift : FaultConfig :=
  { id := "drift", injectorId := "wheels" }

def scenario : ScenarioConfig :=
  { injectors := [laser, wheels], faults := [drop, drift] }

def shuffled : ScenarioConfig :=
  { injectors := [wheels, laser], faults := [drift, drop] }

/- The error and the warning do not depend on the order. -/
theorem order_free_of_shuffled :
    (validateScenario .insertion scenario).ok =
        (validateScenario (.first "colour") shuffled).ok ∧
      ((scenario.injectors.map InjectorConfig.id).Nodup →
        SameFindings (validateScenario .insertion scenario)
          (validateScenario (.first "colour") shuffled)) := by
  refine validation_is_order_free ⟨?_, ?_, ?_, ?_⟩
  · exact .swap _ _ _
  · exact .swap _ _ _
  · exact fun _ => Iff.rfl
  · exact .nil

end ScenarioConfig.Shuffled
