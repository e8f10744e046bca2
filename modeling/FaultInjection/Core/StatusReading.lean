import FaultInjection.Core.StatusServices
import FaultInjection.Foundations.JoinedTexts

/-
  Reading the description of a fault back.

  The details of a status are one line of text. If no stored
  text has the separator inside, the line determines the
  schedule and the parameters, and the parameters are those
  that the service for one fault answers with.

  Key definitions include:
    * `FaultDescription`
    * `readDescription`
    * `PlainConfig`
    * `FaultController.StoresPlain`

  Key theorems include:
    * `readDescription_describeFault`
    * `FaultController.StoresPlain.step`
    * `FaultServiceManager.statuses_read_back`
-/

open JoinedTexts NumberText

------------------------------------------------------------
-- Reading A Description
------------------------------------------------------------

/- The schedule and the sorted parameters of a fault. -/
structure FaultDescription where
  start : Option Int
  duration : Option Int
  entries : List (String × String)
deriving DecidableEq

/- The digits with the sign before them. -/
def readInteger (text : List Char) : Int :=
  if text.head? = some '-' then
    -(digitsValue 10 (takeDigits 10 text.tail).1 : Int)
  else
    digitsValue 10 (takeDigits 10 text).1

/- The number between the label and the unit. -/
def readMilliseconds
    (label : List Char)
    (field : List Char) : Option Int :=
  if label <+: field then
    some
      (readInteger
        ((field.drop label.length).dropLast.dropLast))
  else
    none

/- The key ends at the first equals sign. -/
def readEntry (entry : List Char) : String × String :=
  let cut := cutAt '=' entry
  (String.ofList cut.1, String.ofList cut.2)

/- Every entry has an equals sign, so no entry is empty. -/
def readEntries (inner : List Char) : List (String × String) :=
  if inner = [] then
    []
  else
    (fields ',' ' ' inner).map readEntry

/- The parameters stand behind the first brace. -/
def readDescription (details : String) : FaultDescription :=
  let cut := cutAt '\x7b' details.toList
  let schedule := fields ',' ' ' cut.1
  { start :=
      schedule.findSome? (readMilliseconds "start=".toList)
    duration :=
      schedule.findSome? (readMilliseconds "duration=".toList)
    entries := readEntries cut.2.dropLast }

------------------------------------------------------------
-- Plain Texts
------------------------------------------------------------

/- The separator of a description is not inside the text. -/
def PlainText (text : String) : Prop :=
  Plain ',' ' ' text.toList

instance (text : String) : Decidable (PlainText text) :=
  inferInstanceAs (Decidable (Plain ',' ' ' text.toList))

/- An entry that can be told from its neighbours. -/
def PlainEntry (entry : String × String) : Prop :=
  '=' ∉ entry.1.toList ∧ PlainText entry.1 ∧
    PlainText entry.2

instance (entry : String × String) :
    Decidable (PlainEntry entry) :=
  inferInstanceAs (Decidable (_ ∧ _ ∧ _))

def PlainConfig (config : UnorderedMap String String) : Prop :=
  ∀ entry ∈ config.entries, PlainEntry entry

instance (config : UnorderedMap String String) :
    Decidable (PlainConfig config) :=
  List.decidableBAll PlainEntry config.entries

/- The parameters in the order in which they are described. -/
def sortedEntries
    (config : UnorderedMap String String) :
    List (String × String) :=
  config.entries.insertionSort fun a b => entryLe a b

theorem mem_sortedEntries_iff
    {config : UnorderedMap String String}
    {entry : String × String} :
    entry ∈ sortedEntries config ↔ entry ∈ config.entries :=
  List.mem_insertionSort _

theorem plain_describeEntry
    {entry : String × String}
    (hPlain : PlainEntry entry) :
    Plain ',' ' ' (describeEntry entry).toList := by
  have hText :
      (describeEntry entry).toList =
        entry.1.toList ++ '=' :: entry.2.toList := by
    unfold describeEntry
    simp
  rw [hText]
  exact
    plain_join (by decide) (by decide) hPlain.2.1 hPlain.2.2

theorem readEntry_describeEntry
    {entry : String × String}
    (hPlain : PlainEntry entry) :
    readEntry (describeEntry entry).toList = entry := by
  have hText :
      (describeEntry entry).toList =
        entry.1.toList ++ '=' :: entry.2.toList := by
    unfold describeEntry
    simp
  unfold readEntry
  rw [hText, cutAt_append hPlain.1]
  simp

/- Plain entries that are joined are read back. -/
theorem readEntries_intercalate
    {entries : List (String × String)}
    (hPlain : ∀ entry ∈ entries, PlainEntry entry) :
    readEntries
        (", ".intercalate
          (entries.map describeEntry)).toList =
      entries := by
  rw [String.toList_intercalate]
  cases entries with
  | nil => rfl
  | cons first rest =>
      have hSome :
          ((first :: rest).map describeEntry).map
              String.toList ≠
            [] := by
        simp
      have hFields :
          fields ',' ' '
              (", ".toList.intercalate
                (((first :: rest).map describeEntry).map
                  String.toList)) =
            ((first :: rest).map describeEntry).map
              String.toList := by
        refine fields_intercalate (by decide) hSome ?_
        intro part hPart
        rw [List.map_map, List.mem_map] at hPart
        rcases hPart with ⟨entry, hEntry, hText⟩
        rw [← hText]
        exact plain_describeEntry (hPlain entry hEntry)
      have hNotEmpty :
          ", ".toList.intercalate
              (((first :: rest).map describeEntry).map
                String.toList) ≠
            [] := by
        intro hEmpty
        rw [hEmpty] at hFields
        have hHead :=
          congrArg (fun parts => parts.headD []) hFields
        have hEq : '=' ∈ (describeEntry first).toList := by
          unfold describeEntry
          simp
        simp only [fields, List.headD_cons, List.map_cons]
          at hHead
        rw [← hHead] at hEq
        cases hEq
      unfold readEntries
      rw [if_neg hNotEmpty, hFields, List.map_map,
        List.map_map]
      refine (List.map_congr_left ?_).trans (List.map_id _)
      intro entry hEntry
      exact readEntry_describeEntry (hPlain entry hEntry)

------------------------------------------------------------
-- The Round Trip
------------------------------------------------------------

/- The texts of a description before the parameters. -/
def scheduleTexts (fault : FaultConfig) : List String :=
  (match fault.start with
    | some start =>
        ["scheduled", "start=" ++ toString start ++ "ms"]
    | none => ["manual-only"]) ++
  (match fault.duration with
    | some duration =>
        ["duration=" ++ toString duration ++ "ms"]
    | none => [])

theorem describeFault_eq (fault : FaultConfig) :
    describeFault fault =
      ", ".intercalate
        (scheduleTexts fault ++
          [describeConfig fault.config]) :=
  rfl

/- A number is written with digits and a sign. -/
theorem mem_toString_int
    {n : Int}
    {c : Char}
    (hC : c ∈ (toString n).toList) :
    c = '-' ∨ c.isDigit = true := by
  have hDigits :
      ∀ m : Nat, c ∈ (Nat.repr m).toList →
        c.isDigit = true := by
    intro m hM
    rw [Nat.repr, String.toList_ofList] at hM
    exact Nat.isDigit_of_mem_toDigits (by decide) (by decide)
      hM
  cases n with
  | ofNat m => exact Or.inr (hDigits m hC)
  | negSucc m =>
      have hText :
          (toString (Int.negSucc m)).toList =
            '-' :: (Nat.repr (m + 1)).toList := by
        change ("-" ++ Nat.repr (m + 1)).toList = _
        rw [String.toList_append]
        rfl
      rw [hText, List.mem_cons] at hC
      rcases hC with hSign | hRest
      · exact Or.inl hSign
      · exact Or.inr (hDigits (m + 1) hRest)

/- A comma or a brace is in no number with label and unit. -/
theorem not_mem_milliseconds
    {c : Char}
    {label : String}
    (hLabel : c ∉ label.toList)
    (hUnit : c ∉ "ms".toList)
    (hSign : c ≠ '-')
    (hDigit : c.isDigit = false)
    (n : Int) :
    c ∉ (label ++ toString n ++ "ms").toList := by
  intro hC
  simp only [String.toList_append, List.mem_append] at hC
  rcases hC with (hFirst | hNumber) | hLast
  · exact hLabel hFirst
  · rcases mem_toString_int hNumber with hIs | hIs
    · exact hSign hIs
    · rw [hDigit] at hIs
      cases hIs
  · exact hUnit hLast

theorem not_mem_scheduleTexts
    {fault : FaultConfig}
    {c : Char}
    (hC : c = ',' ∨ c = '\x7b')
    {text : String}
    (hText : text ∈ scheduleTexts fault) :
    c ∉ text.toList := by
  have hNumber :
      ∀ label ∈ ["start=", "duration="], ∀ n : Int,
        c ∉ (label ++ toString n ++ "ms").toList := by
    intro label hLabel n
    simp only [List.mem_cons, List.not_mem_nil, or_false]
      at hLabel
    rcases hC with hC | hC
    all_goals
      rcases hLabel with hLabel | hLabel
      all_goals
        subst hC hLabel
        exact
          not_mem_milliseconds (by decide) (by decide)
            (by decide) (by decide) n
  unfold scheduleTexts at hText
  rw [List.mem_append] at hText
  rcases hText with hText | hText
  · cases hStart : fault.start with
    | none =>
        simp only [hStart, List.mem_singleton] at hText
        subst hText
        rcases hC with hC | hC
        · subst hC
          decide
        · subst hC
          decide
    | some start =>
        simp only [hStart, List.mem_cons, List.not_mem_nil,
          or_false] at hText
        rcases hText with hWord | hWord
        · subst hWord
          rcases hC with hC | hC
          · subst hC
            decide
          · subst hC
            decide
        · subst hWord
          exact hNumber "start=" (by simp) start
  · cases hDuration : fault.duration with
    | none => simp [hDuration] at hText
    | some duration =>
        simp only [hDuration, List.mem_singleton] at hText
        subst hText
        exact hNumber "duration=" (by simp) duration

/- A description is cut at the brace of its parameters. -/
theorem toList_describeFault (fault : FaultConfig) :
    (describeFault fault).toList =
      (", ".intercalate
          (scheduleTexts fault ++ ["config="])).toList ++
        '\x7b' ::
          ((", ".intercalate
              ((sortedEntries fault.config).map
                describeEntry)).toList ++
            ['\x7d']) := by
  have hSome : scheduleTexts fault ≠ [] := by
    unfold scheduleTexts
    cases fault.start with
    | none => simp
    | some start => simp
  have hConfig :
      describeConfig fault.config =
        "config=" ++ "\x7b" ++
          ", ".intercalate
              ((sortedEntries fault.config).map
                describeEntry) ++
            "\x7d" :=
    rfl
  have hOpen : "\x7b".toList = ['\x7b'] := rfl
  have hClose : "\x7d".toList = ['\x7d'] := rfl
  rw [describeFault_eq,
    String.intercalate_append_of_ne_nil hSome (by simp),
    String.intercalate_append_of_ne_nil hSome (by simp),
    String.intercalate_singleton, String.intercalate_singleton,
    hConfig]
  simp only [String.toList_append, hOpen, hClose,
    List.append_assoc, List.cons_append, List.nil_append]

/- A printed integer is read back. -/
theorem readInteger_toString (n : Int) :
    readInteger (toString n).toList = n := by
  cases n with
  | ofNat m =>
      have hText :
          (toString (Int.ofNat m)).toList =
            (toString m).toList :=
        rfl
      have hPlain : (toString m).toList.head? ≠ some '-' := by
        intro hSign
        have hMember : '-' ∈ (Nat.repr m).toList :=
          List.mem_of_head? hSign
        rw [Nat.repr, String.toList_ofList] at hMember
        have hDigit :=
          Nat.isDigit_of_mem_toDigits (by decide) (by decide)
            hMember
        cases hDigit
      rcases takeDigits_toString m with
        ⟨ds, hDigits, _, hValue⟩
      unfold readInteger
      rw [hText, if_neg hPlain, hDigits, hValue]
      rfl
  | negSucc m =>
      have hText :
          (toString (Int.negSucc m)).toList =
            '-' :: (toString (m + 1)).toList := by
        change ("-" ++ Nat.repr (m + 1)).toList = _
        rw [String.toList_append]
        rfl
      rcases takeDigits_toString (m + 1) with
        ⟨ds, hDigits, _, hValue⟩
      unfold readInteger
      rw [hText, List.head?_cons, if_pos rfl, List.tail_cons,
        hDigits, hValue]
      rfl

theorem readMilliseconds_label
    (label : String)
    (n : Int) :
    readMilliseconds label.toList
        (label ++ toString n ++ "ms").toList =
      some n := by
  have hUnit : "ms".toList = ['m', 's'] := rfl
  have hNumber :
      (((label ++ toString n ++ "ms").toList.drop
          label.toList.length).dropLast.dropLast) =
        (toString n).toList := by
    rw [String.toList_append, String.toList_append, hUnit,
      List.append_assoc, List.drop_left]
    have hTwo :
        (toString n).toList ++ ['m', 's'] =
          ((toString n).toList ++ ['m']) ++ ['s'] := by
      simp
    rw [hTwo, List.dropLast_concat, List.dropLast_concat]
  unfold readMilliseconds
  rw [hNumber, readInteger_toString, if_pos]
  · rw [String.toList_append, String.toList_append,
      List.append_assoc]
    exact List.prefix_append _ _

/- A label is not read from a text that begins otherwise. -/
theorem readMilliseconds_eq_none
    {label : List Char}
    {field : List Char}
    (hOther : field.head? ≠ label.head?)
    (hSome : label ≠ []) :
    readMilliseconds label field = none := by
  unfold readMilliseconds
  rw [if_neg]
  intro hPrefix
  rcases hPrefix with ⟨rest, hRest⟩
  rw [← hRest] at hOther
  cases label with
  | nil => exact hSome rfl
  | cons c label => exact hOther rfl

theorem readSchedule
    (fault : FaultConfig) :
    let schedule :=
      (scheduleTexts fault ++ ["config="]).map String.toList
    schedule.findSome? (readMilliseconds "start=".toList) =
        fault.start ∧
      schedule.findSome?
          (readMilliseconds "duration=".toList) =
        fault.duration := by
  have hStart := readMilliseconds_label "start="
  have hDuration := readMilliseconds_label "duration="
  have hOther :
      ∀ n : Int,
        readMilliseconds "duration=".toList
            ("start=" ++ toString n ++ "ms").toList =
          none ∧
        readMilliseconds "start=".toList
            ("duration=" ++ toString n ++ "ms").toList =
          none := by
    intro n
    constructor
    · refine readMilliseconds_eq_none ?_ (by decide)
      rw [String.toList_append, String.toList_append]
      simp
    · refine readMilliseconds_eq_none ?_ (by decide)
      rw [String.toList_append, String.toList_append]
      simp
  have hWords :
      ∀ word ∈ ["scheduled", "manual-only", "config="],
        readMilliseconds "start=".toList word.toList = none ∧
          readMilliseconds "duration=".toList word.toList =
            none := by
    decide
  have hScheduled := hWords "scheduled" (by simp)
  have hManual := hWords "manual-only" (by simp)
  have hConfig := hWords "config=" (by simp)
  unfold scheduleTexts
  cases fault.start with
  | none =>
      cases fault.duration with
      | none =>
          simp only [List.append_nil, List.cons_append,
            List.nil_append, List.map_cons, List.map_nil,
            List.findSome?_cons, hManual, hConfig,
            List.findSome?_nil, and_self]
      | some duration =>
          simp only [List.cons_append, List.nil_append,
            List.map_cons, List.map_nil, List.findSome?_cons,
            hManual, hConfig, hOther duration,
            hDuration duration, List.findSome?_nil, and_self]
  | some start =>
      cases fault.duration with
      | none =>
          simp only [List.cons_append, List.nil_append,
            List.append_nil, List.map_cons, List.map_nil,
            List.findSome?_cons, hScheduled, hConfig,
            hOther start, hStart start, List.findSome?_nil,
            and_self]
      | some duration =>
          simp only [List.cons_append, List.nil_append,
            List.map_cons, List.map_nil, List.findSome?_cons,
            hScheduled, hOther start, hStart start,
            hDuration duration, and_self]

/-
  A description is read back: it determines the schedule and
  the parameters.
-/
theorem readDescription_describeFault
    {fault : FaultConfig}
    (hPlain : PlainConfig fault.config) :
    readDescription (describeFault fault) =
      { start := fault.start
        duration := fault.duration
        entries := sortedEntries fault.config } := by
  have hTexts :
      ∀ text ∈ (scheduleTexts fault ++ ["config="]).map
          String.toList,
        ',' ∉ text ∧ '\x7b' ∉ text := by
    intro text hText
    rw [List.mem_map] at hText
    rcases hText with ⟨part, hPart, hSame⟩
    subst hSame
    rw [List.mem_append, List.mem_singleton] at hPart
    rcases hPart with hPart | hPart
    · exact
        ⟨not_mem_scheduleTexts (Or.inl rfl) hPart,
          not_mem_scheduleTexts (Or.inr rfl) hPart⟩
    · subst hPart
      decide
  have hSeparator : ", ".toList = [',', ' '] := rfl
  have hBrace :
      '\x7b' ∉
        (", ".intercalate
          (scheduleTexts fault ++ ["config="])).toList := by
    rw [String.toList_intercalate, hSeparator]
    exact
      not_mem_intercalate (by decide)
        fun text hText => (hTexts text hText).2
  have hFields :
      fields ',' ' '
          (", ".intercalate
            (scheduleTexts fault ++ ["config="])).toList =
        (scheduleTexts fault ++ ["config="]).map
          String.toList := by
    rw [String.toList_intercalate, hSeparator]
    refine fields_intercalate (by decide) (by simp) ?_
    intro text hText
    exact plain_of_not_mem (hTexts text hText).1
  have hSorted :
      ∀ entry ∈ sortedEntries fault.config,
        PlainEntry entry :=
    fun entry hEntry =>
      hPlain entry (mem_sortedEntries_iff.mp hEntry)
  have hEntries := readEntries_intercalate hSorted
  unfold readDescription
  simp only [toList_describeFault, cutAt_append hBrace,
    hFields, readSchedule, List.dropLast_concat, hEntries]

------------------------------------------------------------
-- Plain Stores
------------------------------------------------------------

/- All parameters of the scenario are plain. -/
def PlainScenario (scenario : ScenarioConfig) : Prop :=
  ∀ fault ∈ scenario.faults, PlainConfig fault.config

instance (scenario : ScenarioConfig) :
    Decidable (PlainScenario scenario) :=
  List.decidableBAll
    (fun fault : FaultConfig => PlainConfig fault.config)
    scenario.faults

/- The action brings plain texts only. -/
def PlainAction : FaultController.Action → Prop
| .setFaultConfig request => PlainText request.value
| .reloadScenario (.ok scenario) => PlainScenario scenario
| _ => True

instance : (a : FaultController.Action) →
    Decidable (PlainAction a)
| .setFaultConfig request =>
    inferInstanceAs (Decidable (PlainText request.value))
| .reloadScenario (.ok scenario) =>
    inferInstanceAs (Decidable (PlainScenario scenario))
| .reloadScenario (.error _) => isTrue True.intro
| .advance _ _ => isTrue True.intro
| .callback _ => isTrue True.intro
| .setFaultState _ => isTrue True.intro
| .deliver => isTrue True.intro

/- The declared keys are plain. -/
theorem plainText_of_findSchemaField
    {injector : FaultInjectorBase}
    {key : String}
    {field : FaultConfigField}
    (hField :
      findSchemaField injector.configSchema key =
        some field) :
    PlainText key := by
  rw [configSchema_eq_builtin, findSchemaField_eq_some_iff]
    at hField
  have hAll :
      ∀ field ∈ schemaForBuiltinInjectorType injector.type,
        PlainText field.key := by
    intro other hOther
    refine builtinInjectorType_cases
      (P := fun type =>
        ∀ field ∈ schemaForBuiltinInjectorType type,
          PlainText field.key)
      ?_ ?_ ?_ ?_ ?_ ?_ ?_ ?_
      (known_of_mem_schema hField.1) other hOther
    all_goals decide +kernel
  rw [← hField.2]
  exact hAll field hField.1

namespace FaultController

open FaultScheduler FaultServiceManager Transition

/- Every stored fault has plain parameters. -/
def StoresPlain (c : FaultController) : Prop :=
  ∀ key faultId fault,
    c.faultConfig key faultId = some fault →
      PlainConfig fault.config

section Plain

variable {h : HashOrder String}
variable {factory : InjectorConfig → Bool}
variable {scenario : ScenarioConfig}
variable {c after : FaultController}

theorem StoresPlain.of_sameFaults
    (hPlain : c.StoresPlain)
    (hSame : SameFaults after c) :
    after.StoresPlain := by
  intro key faultId fault hFault
  rw [hSame.faultConfig] at hFault
  exact hPlain key faultId fault hFault

/- What is registered from a plain scenario is plain. -/
theorem plainConfig_of_lastFault
    (hPlain : PlainScenario scenario)
    {key faultId : String}
    {fault : FaultConfig}
    (hLast :
      lastFault key faultId scenario.faults = some fault) :
    PlainConfig fault.config :=
  hPlain fault (mem_of_lastFault hLast).1

theorem storesPlain_of_started
    (hPlain : PlainScenario scenario)
    (hStarted : Started h factory scenario c) :
    c.StoresPlain := by
  rcases hStarted with ⟨_, _, hConstruct⟩
  intro key faultId fault hFault
  rw [(faultConfig_of_construct hConstruct key).2 faultId]
    at hFault
  split at hFault
  · exact plainConfig_of_lastFault hPlain hFault
  · cases hFault

/- A stored value is an entry of a declared key. -/
theorem plainConfig_insert
    {config : UnorderedMap String String}
    {key value : String}
    (hPlain : PlainConfig config)
    (hEntry : PlainEntry (key, value)) :
    PlainConfig (config.insert key value) := by
  intro entry hMember
  rcases entry with ⟨k, v⟩
  have hFind :
      (config.insert key value).find? k = some v :=
    (UnorderedMap.mem_entries_iff _ k v).mp hMember
  rw [UnorderedMap.find?_insert] at hFind
  split at hFind
  · rename_i hKey
    rw [Option.some.injEq] at hFind
    subst hKey hFind
    exact hEntry
  · exact
      hPlain (k, v)
        ((UnorderedMap.mem_entries_iff _ k v).mpr hFind)

theorem StoresPlain.step
    {a : Action}
    (hPlain : c.StoresPlain)
    (hAction : PlainAction a)
    (hStep : c.step h a = some after) :
    after.StoresPlain := by
  refine step_keeps (P := StoresPlain)
    ?_ ?_ ?_ ?_ ?_ ?_ ?_ hPlain hStep
  · exact fun _ _ _ => hPlain
  · intro n e key fault _ _ _
    exact
      hPlain.of_sameFaults
        (sameFaults_setActive c key fault.id true)
  · intro n e key fault _ _ _
    exact
      hPlain.of_sameFaults
        (sameFaults_setActive c key fault.id false)
  · intro request target _ _
    exact
      hPlain.of_sameFaults
        (switchFault_switches c target request).sameFaults
  · intro request target field updated hRequest hResolve
      hField _ hSet key faultId fault hFault
    subst hRequest
    have hTarget := (resolveFault_eq_ok hResolve).2
    rw [faultConfig_storeValue hResolve hSet] at hFault
    split at hFault
    · rw [Option.some.injEq] at hFault
      subst hFault
      refine plainConfig_insert ?_ ?_
      · apply hPlain target.key request.faultId target.fault
        rw [FaultController.faultConfig, hTarget.1]
        exact hTarget.2
      · exact
          ⟨plainKey_of_findSchemaField hField,
            plainText_of_findSchemaField hField, hAction⟩
    · exact hPlain key faultId fault hFault
  · intro content newScenario hReload hCheck key faultId fault
      hFault
    subst hReload
    have hContent := (checkReload_eq_ok_iff.mp hCheck).1
    subst hContent
    rw [faultConfig_applyReload] at hFault
    split at hFault
    · exact plainConfig_of_lastFault hAction hFault
    · cases hFault
  · exact fun _ _ _ => hPlain

theorem storesPlain_of_run
    {start : FaultController}
    {actions : List Action}
    (hPlain : PlainScenario scenario)
    (hStarted : Started h factory scenario start)
    (hActions :
      Along (step h) (fun _ a => PlainAction a) start actions)
    (hRun : run (step h) start actions = some c) :
    c.StoresPlain :=
  run_invariant
    (fun _ _ _ hState hAction hStep =>
      hState.step hAction hStep)
    (storesPlain_of_started hPlain hStarted) hActions hRun

end Plain

end FaultController

------------------------------------------------------------
-- Status And Parameters
------------------------------------------------------------

instance :
    Std.Total fun a b : String × String =>
      entryLe a b = true where
  total a b := by
    simp only [entryLe, textLe, decide_eq_true_iff]
    rcases lt_trichotomy a.1 b.1 with hKey | hKey | hKey
    · exact Or.inl (Or.inl hKey)
    · rcases le_total a.2 b.2 with hValue | hValue
      · exact Or.inl (Or.inr ⟨hKey, hValue.not_gt⟩)
      · exact Or.inr (Or.inr ⟨hKey.symm, hValue.not_gt⟩)
    · exact Or.inr (Or.inl hKey)

instance :
    IsTrans (String × String) fun a b =>
      entryLe a b = true where
  trans a b c := by
    simp only [entryLe, textLe, decide_eq_true_iff, not_lt]
    rintro (hFirst | ⟨hFirst, hValue⟩)
      (hSecond | ⟨hSecond, hOther⟩)
    · exact Or.inl (hFirst.trans hSecond)
    · exact Or.inl (hSecond ▸ hFirst)
    · exact Or.inl (hFirst ▸ hSecond)
    · exact
        Or.inr ⟨hFirst.trans hSecond, hValue.trans hOther⟩

/- The described parameters are strictly sorted by key. -/
theorem sortedEntries_ascending
    (config : UnorderedMap String String) :
    (sortedEntries config).Pairwise
      fun a b => a.1 < b.1 := by
  have hSorted :
      (sortedEntries config).Pairwise
        fun a b => entryLe a b = true :=
    List.pairwise_insertionSort _ _
  have hDistinct :
      (sortedEntries config).Pairwise
        fun a b => a.1 ≠ b.1 := by
    have hNodup :
        ((sortedEntries config).map Prod.fst).Nodup :=
      ((List.perm_insertionSort _ _).map
        Prod.fst).nodup_iff.mpr config.distinct
    exact List.pairwise_map.mp hNodup
  refine (hSorted.and hDistinct).imp ?_
  rintro a b ⟨hLe, hNe⟩
  simp only [entryLe, decide_eq_true_iff] at hLe
  rcases hLe with hLess | ⟨hSame, _⟩
  · exact hLess
  · exact absurd hSame hNe

/- Among sorted entries a key is looked up by membership. -/
theorem lookup_eq_some_iff_mem
    {entries : List (String × String)}
    (hSorted : entries.Pairwise fun a b => a.1 < b.1)
    (entry : String × String) :
    entries.lookup entry.1 = some entry.2 ↔
      entry ∈ entries := by
  rw [List.lookup_eq_some_iff]
  constructor
  · rintro ⟨before, after, hSplit, _⟩
    rw [hSplit]
    simp
  · intro hMember
    rcases List.append_of_mem hMember with
      ⟨before, after, hSplit⟩
    refine ⟨before, after, hSplit, ?_⟩
    intro earlier hEarlier
    rw [hSplit, List.pairwise_append] at hSorted
    have hLess := hSorted.2.2 earlier hEarlier entry (by simp)
    exact bne_iff_ne.mpr hLess.ne'

namespace FaultServiceManager

open FaultController Transition

section Answers

variable {h j k : HashOrder String}
variable {c : FaultController}

/- The parallel lists of an answer are the sorted entries. -/
theorem zip_eq_sortedEntries
    {fault : FaultConfig}
    {keys values : List String}
    (hKeys : keys.Pairwise (· < ·))
    (hLength : values.length = keys.length)
    (hLookup :
      ∀ key,
        (keys.zip values).lookup key =
          fault.config.find? key) :
    keys.zip values = sortedEntries fault.config := by
  have hFirst : (keys.zip values).map Prod.fst = keys :=
    List.map_fst_zip hLength.ge
  have hSorted :
      (keys.zip values).Pairwise fun a b => a.1 < b.1 := by
    rw [← hFirst] at hKeys
    exact List.pairwise_map.mp hKeys
  refine
    eq_of_same_members
      (fun _ _ hLess => not_lt_of_gt hLess) hSorted
      (sortedEntries_ascending fault.config) ?_
  intro entry
  rw [← lookup_eq_some_iff_mem hSorted, hLookup,
    mem_sortedEntries_iff]
  exact
    (UnorderedMap.mem_entries_iff fault.config entry.1
      entry.2).symm

/- A fault that is found is answered for. -/
theorem getFaultConfig_success
    {faultId key : String}
    (hFound : findInjectorForFault k c faultId = some key)
    {response : GetFaultConfigResponse}
    (hResponse :
      handleGetFaultConfig k faultId c = .ok response) :
    response.success = true := by
  have hHas := findInjectorForFault_eq_some hFound
  unfold FaultController.hasFault at hHas
  rw [Option.any_eq_true] at hHas
  rcases hHas with ⟨injector, hInjector, hFault⟩
  rcases (FaultInjectorBase.hasFault_iff injector
      faultId).mp hFault with
    ⟨fault, hConfig⟩
  unfold handleGetFaultConfig at hResponse
  simp only [hFound, hInjector, hConfig, Option.bind_eq_bind,
    Option.bind_some] at hResponse
  cases hValues :
      (sortedKeys k fault).mapM (configAt fault) with
  | error e =>
      rw [hValues] at hResponse
      cases hResponse
  | ok values =>
      rw [hValues] at hResponse
      cases hResponse
      rfl

/-
  In every state that plain texts lead to, the details of a
  status are read back as the schedule and the parameters
  that are stored, and the service for one fault answers
  with the same parameters.
-/
theorem statuses_read_back
    {factory : InjectorConfig → Bool}
    {scenario : ScenarioConfig}
    {start : FaultController}
    {actions : List Action}
    (hPlain : PlainScenario scenario)
    (hStarted : Started h factory scenario start)
    (hActions :
      Along (step h) (fun _ a => PlainAction a) start actions)
    (hRun : run (step h) start actions = some c)
    {status : FaultStatus}
    (hStatus : status ∈ handleGetFaultStatus j c) :
    ∃ fault response,
      c.faultConfig status.injectorId status.faultId =
          some fault ∧
        readDescription status.details =
            { start := fault.start
              duration := fault.duration
              entries := sortedEntries fault.config } ∧
          handleGetFaultConfig k status.faultId c =
              .ok response ∧
            (findInjectorForFault k c status.faultId =
                some status.injectorId →
              response.success = true ∧
                response.keys.zip response.values =
                  (readDescription
                    status.details).entries) := by
  have hStores :=
    storesPlain_of_run hPlain hStarted hActions hRun
  rcases mem_statuses_iff.mp hStatus with
    ⟨key, faultId, stored, hStored, hSame⟩
  subst hSame
  unfold registry at hStored
  rw [Option.map_eq_some_iff] at hStored
  rcases hStored with ⟨fault, hFault, hBoth⟩
  subst hBoth
  have hRead :=
    readDescription_describeFault
      (hStores key faultId fault hFault)
  rcases getFaultConfig_reads k c faultId with
    ⟨response, hResponse, hReads⟩
  refine ⟨fault, response, hFault, hRead, hResponse, ?_⟩
  intro hFound
  change findInjectorForFault k c faultId = some key at hFound
  have hSuccess := getFaultConfig_success hFound hResponse
  refine ⟨hSuccess, ?_⟩
  rcases hReads hSuccess with
    ⟨hKeys, hLength, key', fault', hFound', hFault', hLookup⟩
  rw [hFound, Option.some.injEq] at hFound'
  subst hFound'
  have hSameFault : fault' = fault := by
    rw [hFault, Option.some.injEq] at hFault'
    exact hFault'.symm
  subst hSameFault
  change _ = (readDescription (describeFault fault')).entries
  rw [hRead]
  exact zip_eq_sortedEntries hKeys hLength hLookup

end Answers

end FaultServiceManager

------------------------------------------------------------
-- A Status Read Back
------------------------------------------------------------

namespace FaultController.WatchedRun

open FaultServiceManager Transition

def biasStatus : FaultStatus where
  faultId := "bias"
  injectorId := "base"
  state := "inactive"
  details :=
    "scheduled, start=1000ms, duration=2000ms, " ++
      "config=\x7bx_bias=2.0\x7d"

theorem bias_status_reads_back :
    ∃ fault response,
      last.faultConfig "base" "bias" = some fault ∧
        readDescription biasStatus.details =
            { start := fault.start
              duration := fault.duration
              entries := sortedEntries fault.config } ∧
          handleGetFaultConfig .insertion "bias" last =
              .ok response ∧
            (findInjectorForFault .insertion last "bias" =
                some "base" →
              response.success = true ∧
                response.keys.zip response.values =
                  (readDescription
                    biasStatus.details).entries) := by
  have hActions :
      Along (step .insertion) (fun _ a => PlainAction a)
        started actions := by
    decide +kernel
  have hStatus :
      biasStatus ∈ handleGetFaultStatus .insertion last := by
    decide +kernel
  exact
    statuses_read_back (by decide +kernel) started_started
      hActions run_actions hStatus

end FaultController.WatchedRun
