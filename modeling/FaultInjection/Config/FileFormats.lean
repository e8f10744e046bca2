import FaultInjection.Config.CampaignConfigParser
import FaultInjection.Injectors.Endpoints

/-
  What scenario files and campaign files can say.

  The parsers are compared with a description of the
  configurations that they may yield: every such
  configuration is that of some file, and no file yields
  another one.

  Key definitions include:
    * `YamlTree.ReadsTrees`
    * `YamlTree.ofFields`
    * `ScenarioConfig.Loadable`
    * `LoadedCampaign.Loadable`

  Key theorems include:
    * `ScenarioConfig.scenario_file_iff`
    * `LoadedCampaign.campaign_file_iff`
-/

------------------------------------------------------------
-- Trees Of Fields
------------------------------------------------------------

namespace YamlTree

/-
  What the library does with the tree of a file: it looks up
  the keys of a map and passes on the texts of scalars, the
  nodes of a sequence and the entries of a map.
-/
structure ReadsTrees (yaml : YamlCpp YamlTree) : Prop where
  child :
    ∀ entries key,
      yaml.child (.map entries) key =
        .ok (entries.lookup key)
  asString :
    ∀ text, yaml.asString (.scalar text) = .ok text
  asTrue : yaml.asBool (.scalar "true") = .ok true
  isScalar : ∀ text, yaml.isScalar (.scalar text) = true
  scalar : ∀ text, yaml.scalar (.scalar text) = text
  isSequence :
    ∀ nodes, yaml.isSequence (.sequence nodes) = true
  elements :
    ∀ nodes, yaml.elements (.sequence nodes) = nodes
  entries :
    ∀ entries,
      yaml.entries (.map entries) =
        entries.map fun entry => (.scalar entry.1, entry.2)

/- A map with the fields that have a value. -/
def ofFields
    (fields : List (String × Option YamlTree)) : YamlTree :=
  .map
    (fields.filterMap fun field =>
      field.2.map fun value => (field.1, value))

/- The first value among the fields of the key. -/
def fieldValue
    (key : String) :
    List (String × Option YamlTree) → Option YamlTree
| [] => none
| field :: fields =>
    if field.1 = key then
      field.2.or (fieldValue key fields)
    else
      fieldValue key fields

theorem lookup_fields
    (fields : List (String × Option YamlTree))
    (key : String) :
    (fields.filterMap fun field =>
        field.2.map fun value => (field.1, value)).lookup
        key =
      fieldValue key fields := by
  induction fields with
  | nil => rfl
  | cons field fields ih =>
      rcases field with ⟨name, value⟩
      cases value with
      | none => simp [fieldValue, ih]
      | some value =>
          by_cases hKey : name = key
          · simp [fieldValue, hKey]
          · have hOther : (key == name) = false := by
              simpa using Ne.symm hKey
            simp [fieldValue, hKey, List.lookup_cons, hOther,
              ih]

section Fields

variable {yaml : YamlCpp YamlTree}
variable (hReads : ReadsTrees yaml)

include hReads

theorem ReadsTrees.child_ofFields
    {fields : List (String × Option YamlTree)}
    {key : String}
    {field : Option YamlTree}
    (hField : fieldValue key fields = field) :
    yaml.child (ofFields fields) key = .ok field := by
  rw [ofFields, hReads.child, lookup_fields, hField]

theorem ReadsTrees.requiredString_ofFields
    {fields : List (String × Option YamlTree)}
    {key text : String}
    (hField : fieldValue key fields = some (.scalar text)) :
    requiredString yaml (ofFields fields) key = .ok text := by
  unfold requiredString
  rw [hReads.child_ofFields hField]
  exact hReads.asString text

theorem ReadsTrees.optionalValue_ofFields
    {α : Type}
    {read : YamlTree → Except String α}
    {fields : List (String × Option YamlTree)}
    {key : String}
    {field : Option YamlTree}
    (hField : fieldValue key fields = field) :
    optionalValue yaml read (ofFields fields) key =
      field.elim (.ok none) fun node => some <$> read node := by
  unfold optionalValue
  rw [hReads.child_ofFields hField]
  cases field <;> rfl

end Fields

end YamlTree

------------------------------------------------------------
-- Values That Can Be Read
------------------------------------------------------------

section Readable

variable {Node α : Type}

/- Some node is read as the value. -/
def Readable
    (read : Node → Except String α)
    (value : α) : Prop :=
  ∃ node, read node = .ok value

/- The value is readable if there is one. -/
def OptionReadable
    (read : Node → Except String α)
    (value : Option α) : Prop :=
  ∀ x, value = some x → Readable read x

/- What was read for a key is readable. -/
theorem optionReadable_of_optionalValue
    {yaml : YamlCpp Node}
    {read : Node → Except String α}
    {node : Node}
    {key : String}
    {value : Option α}
    (hRead : optionalValue yaml read node key = .ok value) :
    OptionReadable read value := by
  unfold optionalValue at hRead
  rcases Except.bind_eq_ok_iff.mp hRead with
    ⟨field, _, hRead⟩
  rintro x rfl
  cases field with
  | none => cases hRead
  | some inner =>
      refine ⟨inner, ?_⟩
      cases hInner : read inner with
      | error what =>
          simp only [hInner] at hRead
          cases hRead
      | ok y =>
          simp only [hInner] at hRead
          cases hRead
          rfl

/- A readable value is that of some field. -/
theorem exists_field
    {read : Node → Except String α}
    {value : Option α}
    (hValue : OptionReadable read value) :
    ∃ field : Option Node,
      (field.elim (.ok none) fun node => some <$> read node) =
        .ok value := by
  cases value with
  | none => exact ⟨none, rfl⟩
  | some x =>
      rcases hValue x rfl with ⟨node, hNode⟩
      exact ⟨some node, by rw [Option.elim_some, hNode]; rfl⟩

/- A value is left out or written as it is read. -/
theorem exists_defaulted
    {read : Node → Except String α}
    {value default : α}
    (hValue : value = default ∨ Readable read value) :
    ∃ field found,
      (Option.elim field (.ok none) fun node =>
          some <$> read node) =
        .ok found ∧
        found.getD default = value := by
  rcases hValue with hDefault | ⟨node, hNode⟩
  · exact ⟨none, none, rfl, hDefault.symm⟩
  · refine ⟨some node, some value, ?_, rfl⟩
    rw [Option.elim_some, hNode]
    rfl

/- A list of readable values is read from some nodes. -/
theorem exists_nodes
    {read : Node → Except String α}
    {values : List α}
    (hValues : ∀ x ∈ values, Readable read x) :
    ∃ nodes : List Node, nodes.mapM read = .ok values := by
  induction values with
  | nil => exact ⟨[], rfl⟩
  | cons x values ih =>
      rcases hValues x List.mem_cons_self with ⟨node, hNode⟩
      rcases ih fun y hY =>
          hValues y (List.mem_cons_of_mem _ hY) with
        ⟨nodes, hNodes⟩
      refine ⟨node :: nodes, Except.mapM_eq_ok_iff.mpr ?_⟩
      exact
        List.Forall₂.cons hNode
          (Except.mapM_eq_ok_iff.mp hNodes)

/- The values of a sequence are those of its nodes. -/
theorem readable_of_mapM
    {read : Node → Except String α}
    {nodes : List Node}
    {values : List α}
    (hRead : nodes.mapM read = .ok values) :
    ∀ x ∈ values, Readable read x := by
  intro x hX
  rcases
      List.Forall₂.exists_of_mem_right
        (Except.mapM_eq_ok_iff.mp hRead) hX with
    ⟨node, _, hNode⟩
  exact ⟨node, hNode⟩

end Readable

------------------------------------------------------------
-- Injectors
------------------------------------------------------------

/- A seed of 32 bits is read from its decimal digits. -/
theorem seedOfText_toString
    {seed : Nat}
    (hFits : seed < 2 ^ 32) :
    seedOfText (toString seed) = some seed := by
  rcases NumberText.takeDigits_toString seed with
    ⟨ds, hText, hSome, hValue⟩
  unfold seedOfText
  rw [hText]
  cases ds with
  | nil => exact absurd rfl hSome
  | cons d ds =>
      simp only [hValue]
      rw [if_pos hFits]

theorem seed_lt_of_seedOfText
    {text : String}
    {seed : Nat}
    (hSeed : seedOfText text = some seed) :
    seed < 2 ^ 32 := by
  unfold seedOfText at hSeed
  split at hSeed
  · simp only [Option.ite_none_right_eq_some] at hSeed
    rw [← Option.some.inj hSeed.2]
    exact hSeed.1
  · cases hSeed

/-
  What a file can say about an injector: one endpoint, of a
  service for the type of services, a seed of 32 bits and a
  depth that is the default or readable.
-/
structure InjectorConfig.Loadable
    {Node : Type}
    (yaml : YamlCpp Node)
    (injector : InjectorConfig) : Prop where
  endpoint :
    injector.triggerService.isSome = !injector.topic.isSome
  service :
    injector.type = "trigger_service" →
      injector.triggerService.isSome = true
  seed :
    ∀ seed, injector.seed = some seed → seed < 2 ^ 32
  depth :
    ∀ topic, injector.topic = some topic →
      topic.qosDepth = 10 ∨
        Readable yaml.asSize topic.qosDepth

section InjectorFiles

variable {Node : Type}
variable {yaml : YamlCpp Node}

theorem seed_lt_of_parseSeed
    {node : Node}
    {id : String}
    {seed : Option Nat}
    (hParse : parseSeed yaml node id = .ok seed) :
    ∀ n, seed = some n → n < 2 ^ 32 := by
  unfold parseSeed at hParse
  rcases Except.bind_eq_ok_iff.mp hParse with
    ⟨field, _, hParse⟩
  cases field with
  | none =>
      cases hParse
      intro n hNone
      cases hNone
  | some seedNode =>
      simp only at hParse
      split at hParse
      · cases hSeed : seedOfText (yaml.scalar seedNode) with
        | none =>
            simp only [hSeed] at hParse
            cases hParse
        | some value =>
            simp only [hSeed] at hParse
            cases hParse
            rintro n ⟨⟩
            exact seed_lt_of_seedOfText hSeed
      · cases hParse

theorem depth_of_parseTopic
    {node : Node}
    {topic : TopicEndpointConfig}
    (hParse : parseTopic yaml node = .ok topic) :
    topic.qosDepth = 10 ∨
      Readable yaml.asSize topic.qosDepth := by
  unfold parseTopic at hParse
  rcases Except.bind_eq_ok_iff.mp hParse with ⟨_, _, hParse⟩
  rcases Except.bind_eq_ok_iff.mp hParse with ⟨_, _, hParse⟩
  rcases Except.bind_eq_ok_iff.mp hParse with
    ⟨depth, hDepth, hParse⟩
  cases hParse
  cases depth with
  | none => exact Or.inl rfl
  | some depth =>
      exact
        Or.inr
          (optionReadable_of_optionalValue hDepth depth rfl)

/- What is parsed is what a file can say. -/
theorem InjectorConfig.loadable_of_parse
    {node : Node}
    {injector : InjectorConfig}
    (hParse : parseInjector yaml node = .ok injector) :
    injector.Loadable yaml := by
  unfold parseInjector at hParse
  rcases Except.bind_eq_ok_iff.mp hParse with ⟨id, _, hParse⟩
  rcases Except.bind_eq_ok_iff.mp hParse with
    ⟨type, _, hParse⟩
  rcases Except.bind_eq_ok_iff.mp hParse with
    ⟨seed, hSeed, hParse⟩
  rcases Except.bind_eq_ok_iff.mp hParse with
    ⟨block, _, hParse⟩
  have hFits := seed_lt_of_parseSeed hSeed
  split at hParse
  · rcases Except.bind_eq_ok_iff.mp hParse with
      ⟨service, _, hDone⟩
    cases hDone
    exact
      { endpoint := rfl
        service := fun _ => rfl
        seed := hFits
        depth := fun topic hTopic => by cases hTopic }
  · rename_i hTopicCase
    rcases Except.bind_eq_ok_iff.mp hParse with
      ⟨topicNode, _, hParse⟩
    rcases Except.bind_eq_ok_iff.mp hParse with
      ⟨topic, hTopic, hDone⟩
    cases hDone
    exact
      { endpoint := rfl
        service := fun hType =>
          absurd (Or.inr hType) hTopicCase
        seed := hFits
        depth := fun other hOther => by
          cases hOther
          exact depth_of_parseTopic hTopic }

end InjectorFiles

section InjectorTrees

open YamlTree

variable {yaml : YamlCpp YamlTree}
variable (hReads : ReadsTrees yaml)

include hReads

/- The fields of a service endpoint are read back. -/
theorem exists_service
    (service : TriggerServiceEndpointConfig) :
    Readable (parseTriggerService yaml) service :=
  ⟨ofFields
      [ ("proxy_service",
          some (.scalar service.proxyService)),
        ("target_service",
          some (.scalar service.targetService)) ],
    Except.bind_eq_ok_iff.mpr
      ⟨_, hReads.requiredString_ofFields rfl,
        Except.bind_eq_ok_iff.mpr
          ⟨_, hReads.requiredString_ofFields rfl, rfl⟩⟩⟩

/- A depth is left out or written as it is read. -/
theorem exists_topic
    {topic : TopicEndpointConfig}
    (hDepth :
      topic.qosDepth = 10 ∨
        Readable yaml.asSize topic.qosDepth) :
    Readable (parseTopic yaml) topic := by
  rcases exists_defaulted hDepth with
    ⟨field, depth, hField, hValue⟩
  refine
    ⟨ofFields
        [ ("input_topic", some (.scalar topic.inputTopic)),
          ("output_topic", some (.scalar topic.outputTopic)),
          ("qos_depth", field) ],
      Except.bind_eq_ok_iff.mpr
        ⟨_, hReads.requiredString_ofFields rfl,
          Except.bind_eq_ok_iff.mpr
            ⟨_, hReads.requiredString_ofFields rfl,
              Except.bind_eq_ok_iff.mpr
                ⟨depth, ?_, ?_⟩⟩⟩⟩
  · rw [hReads.optionalValue_ofFields rfl]
    simpa [fieldValue] using hField
  · rw [hValue]

theorem parseSeed_ofFields
    {fields : List (String × Option YamlTree)}
    {seed : Option Nat}
    (hSeed : ∀ n, seed = some n → n < 2 ^ 32)
    (hField :
      fieldValue "seed" fields =
        seed.map fun n => .scalar (toString n))
    (id : String) :
    parseSeed yaml (ofFields fields) id = .ok seed := by
  unfold parseSeed
  rw [hReads.child_ofFields hField]
  cases seed with
  | none => rfl
  | some n =>
      change
        (if yaml.isScalar (.scalar (toString n)) = true then
            _
          else
            _) = _
      rw [if_pos (hReads.isScalar _), hReads.scalar,
        seedOfText_toString (hSeed n rfl)]

/- What a file can say about an injector is parsed. -/
theorem InjectorConfig.readable_of_loadable
    {injector : InjectorConfig}
    (hLoadable : injector.Loadable yaml) :
    Readable (parseInjector yaml) injector := by
  rcases injector with ⟨id, type, topic, service, seed⟩
  rcases hLoadable with ⟨hOne, hService, hSeed, hDepth⟩
  cases service with
  | some service =>
      cases topic with
      | some topic => cases hOne
      | none =>
          rcases exists_service hReads service with
            ⟨block, hBlock⟩
          refine
            ⟨ofFields
                [ ("id", some (.scalar id)),
                  ("type", some (.scalar type)),
                  ("trigger_service", some block),
                  ("seed",
                    seed.map fun n =>
                      .scalar (toString n)) ],
              Except.bind_eq_ok_iff.mpr
                ⟨_, hReads.requiredString_ofFields rfl,
                  Except.bind_eq_ok_iff.mpr
                    ⟨_, hReads.requiredString_ofFields rfl,
                      Except.bind_eq_ok_iff.mpr
                        ⟨seed,
                          parseSeed_ofFields hReads hSeed
                            (by simp [fieldValue]) _,
                          Except.bind_eq_ok_iff.mpr
                            ⟨some block,
                              hReads.child_ofFields rfl,
                              ?_⟩⟩⟩⟩⟩
          rw [if_pos (Or.inl Option.isSome_some)]
          exact Except.bind_eq_ok_iff.mpr ⟨service, hBlock, rfl⟩
  | none =>
      cases topic with
      | none => cases hOne
      | some topic =>
          rcases exists_topic hReads (hDepth topic rfl) with
            ⟨block, hBlock⟩
          have hOther : type ≠ "trigger_service" := by
            intro hType
            cases hService hType
          refine
            ⟨ofFields
                [ ("id", some (.scalar id)),
                  ("type", some (.scalar type)),
                  ("topic", some block),
                  ("seed",
                    seed.map fun n =>
                      .scalar (toString n)) ],
              Except.bind_eq_ok_iff.mpr
                ⟨_, hReads.requiredString_ofFields rfl,
                  Except.bind_eq_ok_iff.mpr
                    ⟨_, hReads.requiredString_ofFields rfl,
                      Except.bind_eq_ok_iff.mpr
                        ⟨seed,
                          parseSeed_ofFields hReads hSeed
                            (by simp [fieldValue]) _,
                          Except.bind_eq_ok_iff.mpr
                            ⟨none,
                              hReads.child_ofFields
                                (by simp [fieldValue]),
                              ?_⟩⟩⟩⟩⟩
          rw [if_neg (by simp [hOther])]
          exact
            Except.bind_eq_ok_iff.mpr
              ⟨some block, hReads.child_ofFields rfl,
                Except.bind_eq_ok_iff.mpr
                  ⟨topic, hBlock, rfl⟩⟩

end InjectorTrees

------------------------------------------------------------
-- Faults
------------------------------------------------------------

/- Seconds that are converted to the milliseconds are read. -/
def ReadableDelay
    {Node : Type}
    (yaml : YamlCpp Node)
    (milliseconds : Number → Int)
    (delay : Option Int) : Prop :=
  ∃ seconds,
    OptionReadable yaml.asDouble seconds ∧
      seconds.map milliseconds = delay

/- A file can give any texts and readable delays. -/
structure FaultConfig.Loadable
    {Node : Type}
    (yaml : YamlCpp Node)
    (milliseconds : Number → Int)
    (fault : FaultConfig) : Prop where
  start : ReadableDelay yaml milliseconds fault.start
  duration : ReadableDelay yaml milliseconds fault.duration

theorem FaultConfig.loadable_of_parse
    {Node : Type}
    {yaml : YamlCpp Node}
    {milliseconds : Number → Int}
    {node : Node}
    {fault : FaultConfig}
    (hParse : parseFault yaml milliseconds node = .ok fault) :
    fault.Loadable yaml milliseconds := by
  unfold parseFault at hParse
  rcases Except.bind_eq_ok_iff.mp hParse with ⟨_, _, hParse⟩
  rcases Except.bind_eq_ok_iff.mp hParse with ⟨_, _, hParse⟩
  rcases Except.bind_eq_ok_iff.mp hParse with
    ⟨start, hStart, hParse⟩
  rcases Except.bind_eq_ok_iff.mp hParse with
    ⟨duration, hDuration, hParse⟩
  rcases Except.bind_eq_ok_iff.mp hParse with ⟨_, _, hDone⟩
  cases hDone
  exact
    { start :=
        ⟨start, optionReadable_of_optionalValue hStart, rfl⟩
      duration :=
        ⟨duration, optionReadable_of_optionalValue hDuration,
          rfl⟩ }

/- New keys are added at the end of the map. -/
theorem insertEntry_of_not_mem
    {entries : List (String × String)}
    {key value : String}
    (hNew : key ∉ entries.map Prod.fst) :
    UnorderedMap.insertEntry key value entries =
      entries ++ [(key, value)] := by
  induction entries with
  | nil => rfl
  | cons entry entries ih =>
      rw [List.map_cons, List.mem_cons, not_or] at hNew
      rw [UnorderedMap.insertEntry,
        if_neg (Ne.symm hNew.1), ih hNew.2]
      rfl

section FaultTrees

open YamlTree

variable {yaml : YamlCpp YamlTree}
variable {milliseconds : Number → Int}
variable (hReads : ReadsTrees yaml)

include hReads

/-
  The parameters are read one after the other into the map of
  those before them.
-/
theorem parseConfigEntries_from
    (config : UnorderedMap String String)
    (entries : List (String × String))
    (hDistinct :
      ((config.entries ++ entries).map Prod.fst).Nodup) :
    ∃ final : UnorderedMap String String,
      (entries.map fun entry =>
            (YamlTree.scalar entry.1,
              YamlTree.scalar entry.2)).foldlM
          (fun config item => do
            let key ← yaml.asString item.1
            let value ← nodeToString yaml item.2
            .ok (config.insert key value))
          config =
        (.ok final : Except String _) ∧
      final.entries = config.entries ++ entries := by
  induction entries generalizing config with
  | nil => exact ⟨config, rfl, by simp⟩
  | cons entry entries ih =>
      have hNew :
          entry.1 ∉ config.entries.map Prod.fst := by
        intro hOld
        rw [List.map_append, List.nodup_append] at hDistinct
        exact
          hDistinct.2.2 _ hOld _ List.mem_cons_self rfl
      have hInsert :
          (config.insert entry.1 entry.2).entries =
            config.entries ++ [entry] :=
        insertEntry_of_not_mem hNew
      rcases
          ih (config.insert entry.1 entry.2)
            (by simpa [hInsert] using hDistinct) with
        ⟨final, hFinal, hEntries⟩
      refine ⟨final, ?_, by simp [hEntries, hInsert]⟩
      rw [List.map_cons, List.foldlM_cons]
      refine
        Except.bind_eq_ok_iff.mpr
          ⟨config.insert entry.1 entry.2, ?_, hFinal⟩
      refine
        Except.bind_eq_ok_iff.mpr
          ⟨entry.1, hReads.asString _,
            Except.bind_eq_ok_iff.mpr ⟨entry.2, ?_, rfl⟩⟩
      unfold nodeToString
      rw [if_pos (hReads.isScalar _)]
      exact hReads.asString _

/- A map with the texts of the parameters is read back. -/
theorem parseConfigEntries_entries
    (config : UnorderedMap String String) :
    parseConfigEntries yaml
        (yaml.entries
          (.map
            (config.entries.map fun entry =>
              (entry.1, .scalar entry.2)))) =
      .ok config := by
  rcases
      parseConfigEntries_from hReads .empty config.entries
        (by simpa [UnorderedMap.empty] using config.distinct)
    with ⟨final, hFinal, hEntries⟩
  have hSame : final = config :=
    UnorderedMap.ext_entries
      (by simpa [UnorderedMap.empty] using hEntries)
  rw [hSame] at hFinal
  rw [hReads.entries, List.map_map]
  exact hFinal

/- A flag is left out or written as true. -/
theorem exists_flag (active : Bool) :
    ∃ field value,
      (Option.elim field (.ok none) fun node =>
          some <$> yaml.asBool node) =
        .ok value ∧
        value.getD false = active := by
  cases active with
  | false => exact ⟨none, none, rfl, rfl⟩
  | true =>
      refine ⟨some (.scalar "true"), some true, ?_, rfl⟩
      rw [Option.elim_some, hReads.asTrue]
      rfl

/- Every fault with readable delays is that of some node. -/
theorem FaultConfig.readable_of_loadable
    {fault : FaultConfig}
    (hLoadable : fault.Loadable yaml milliseconds)
    (active : Bool) :
    Readable (parseFaultItem yaml milliseconds)
      (fault, active) := by
  rcases fault with ⟨id, injectorId, start, duration, config⟩
  rcases hLoadable with
    ⟨⟨starts, hStarts, hStart⟩, durations, hDurations,
      hDuration⟩
  rcases exists_field hStarts with ⟨startField, hStartField⟩
  rcases exists_field hDurations with
    ⟨durationField, hDurationField⟩
  rcases exists_flag hReads active with
    ⟨flag, flagValue, hFlagField, hFlagValue⟩
  let fields : List (String × Option YamlTree) :=
    [ ("id", some (.scalar id)),
      ("injector_id", some (.scalar injectorId)),
      ("start", startField),
      ("duration", durationField),
      ("config",
        some
          (.map
            (config.entries.map fun entry =>
              (entry.1, .scalar entry.2)))),
      ("active_on_startup", flag) ]
  have hFault :
      parseFault yaml milliseconds (ofFields fields) =
        .ok ⟨id, injectorId, start, duration, config⟩ := by
    refine
      Except.bind_eq_ok_iff.mpr
        ⟨id, hReads.requiredString_ofFields rfl,
          Except.bind_eq_ok_iff.mpr
            ⟨injectorId, hReads.requiredString_ofFields rfl,
              Except.bind_eq_ok_iff.mpr
                ⟨starts, ?_,
                  Except.bind_eq_ok_iff.mpr
                    ⟨durations, ?_,
                      Except.bind_eq_ok_iff.mpr
                        ⟨some config, ?_, ?_⟩⟩⟩⟩⟩
    · rw [hReads.optionalValue_ofFields rfl]
      simpa [fields, fieldValue] using hStartField
    · rw [hReads.optionalValue_ofFields rfl]
      simpa [fields, fieldValue] using hDurationField
    · rw [hReads.optionalValue_ofFields rfl]
      change
        some <$> parseConfigEntries yaml (yaml.entries _) = _
      rw [parseConfigEntries_entries hReads]
      rfl
    · rw [hStart, hDuration]
      rfl
  have hFlag :
      activeOnStartup yaml (ofFields fields) = .ok active := by
    have hValue :
        fieldValue "active_on_startup" fields = flag := by
      simp [fields, fieldValue]
    have hAlias : fieldValue "active" fields = none := by
      simp [fields, fieldValue]
    have hSet :
        flagSet yaml (ofFields fields) "active_on_startup" =
          .ok active := by
      unfold flagSet
      rw [hReads.optionalValue_ofFields hValue, hFlagField,
        ← hFlagValue]
      rfl
    have hOther :
        flagSet yaml (ofFields fields) "active" =
          .ok false := by
      unfold flagSet
      rw [hReads.optionalValue_ofFields hAlias]
      rfl
    unfold activeOnStartup
    refine Except.bind_eq_ok_iff.mpr ⟨active, hSet, ?_⟩
    cases active with
    | false => exact hOther
    | true => rfl
  exact
    ⟨ofFields fields,
      Except.bind_eq_ok_iff.mpr
        ⟨_, hFault,
          Except.bind_eq_ok_iff.mpr ⟨active, hFlag, rfl⟩⟩⟩

end FaultTrees

------------------------------------------------------------
-- Assertions
------------------------------------------------------------

namespace AssertionConfig

/- The parts of an assertion that are read for its type. -/
def kept (assertion : AssertionConfig) : AssertionConfig :=
  let shared : AssertionConfig :=
    { id := assertion.id
      type := assertion.type
      within := assertion.within
      duration := assertion.duration }
  if assertion.type = "fault_event" then
    { shared with
      faultId := assertion.faultId
      state := assertion.state }
  else if assertion.type = "topic_hz" then
    { shared with
      topic := assertion.topic
      messageType := assertion.messageType
      minHz := assertion.minHz
      window := assertion.window }
  else if assertion.type = "twist_stopped" then
    { shared with
      topic := assertion.topic
      faultId := assertion.faultId
      triggerWithin := assertion.triggerWithin
      linearTolerance := assertion.linearTolerance
      angularTolerance := assertion.angularTolerance
      maxGap := assertion.maxGap }
  else
    shared

/- The numbers of an assertion. -/
def numbers
    (assertion : AssertionConfig) : List (Option Number) :=
  [ assertion.minHz, assertion.window,
    assertion.triggerWithin, assertion.linearTolerance,
    assertion.angularTolerance, assertion.maxGap,
    assertion.within, assertion.duration ]

/-
  A file can set what is read for the type. Everything else
  of the assertion has its default.
-/
structure Loadable
    {Node : Type}
    (yaml : YamlCpp Node)
    (assertion : AssertionConfig) : Prop where
  kept : assertion.kept = assertion
  numbers :
    ∀ value ∈ assertion.numbers,
      OptionReadable yaml.asDouble value

/- A number that is not given is readable. -/
theorem optionReadable_none
    {Node α : Type}
    (read : Node → Except String α) :
    OptionReadable read none := by
  intro x hNone
  cases hNone

theorem loadable_of_parse
    {Node : Type}
    {yaml : YamlCpp Node}
    {node : Node}
    {assertion : AssertionConfig}
    (hParse : parseAssertion yaml node = .ok assertion) :
    assertion.Loadable yaml := by
  unfold parseAssertion at hParse
  rcases Except.bind_eq_ok_iff.mp hParse with ⟨id, _, hParse⟩
  rcases Except.bind_eq_ok_iff.mp hParse with
    ⟨type, _, hParse⟩
  rcases Except.bind_eq_ok_iff.mp hParse with
    ⟨typed, hTyped, hParse⟩
  rcases Except.bind_eq_ok_iff.mp hParse with
    ⟨within, hWithin, hParse⟩
  rcases Except.bind_eq_ok_iff.mp hParse with
    ⟨duration, hDuration, hDone⟩
  cases hDone
  have hNone := optionReadable_none yaml.asDouble
  have hWithins := optionReadable_of_optionalValue hWithin
  have hDurations := optionReadable_of_optionalValue hDuration
  unfold parseTypeKeys at hTyped
  split at hTyped
  · rename_i hType
    rcases Except.bind_eq_ok_iff.mp hTyped with
      ⟨_, _, hTyped⟩
    rcases Except.bind_eq_ok_iff.mp hTyped with ⟨_, _, hDone⟩
    cases hDone
    refine ⟨by unfold AssertionConfig.kept; rw [if_pos hType],
      ?_⟩
    simp [AssertionConfig.numbers, hNone, hWithins,
      hDurations]
  · rename_i hEvent
    split at hTyped
    · rename_i hType
      rcases Except.bind_eq_ok_iff.mp hTyped with
        ⟨_, _, hTyped⟩
      rcases Except.bind_eq_ok_iff.mp hTyped with
        ⟨_, _, hTyped⟩
      rcases Except.bind_eq_ok_iff.mp hTyped with
        ⟨minHz, hMinHz, hTyped⟩
      rcases Except.bind_eq_ok_iff.mp hTyped with
        ⟨window, hWindow, hDone⟩
      cases hDone
      refine
        ⟨by
          unfold AssertionConfig.kept
          rw [if_neg hEvent, if_pos hType], ?_⟩
      simp [AssertionConfig.numbers, hNone, hWithins,
        hDurations, optionReadable_of_optionalValue hMinHz,
        optionReadable_of_optionalValue hWindow]
    · rename_i hRate
      split at hTyped
      · rename_i hType
        rcases Except.bind_eq_ok_iff.mp hTyped with
          ⟨_, _, hTyped⟩
        rcases Except.bind_eq_ok_iff.mp hTyped with
          ⟨_, _, hTyped⟩
        rcases Except.bind_eq_ok_iff.mp hTyped with
          ⟨_, hTrigger, hTyped⟩
        rcases Except.bind_eq_ok_iff.mp hTyped with
          ⟨_, hLinear, hTyped⟩
        rcases Except.bind_eq_ok_iff.mp hTyped with
          ⟨_, hAngular, hTyped⟩
        rcases Except.bind_eq_ok_iff.mp hTyped with
          ⟨_, hGap, hDone⟩
        cases hDone
        refine
          ⟨by
            unfold AssertionConfig.kept
            rw [if_neg hEvent, if_neg hRate, if_pos hType],
            ?_⟩
        simp [AssertionConfig.numbers, hNone, hWithins,
          hDurations, optionReadable_of_optionalValue hTrigger,
          optionReadable_of_optionalValue hLinear,
          optionReadable_of_optionalValue hAngular,
          optionReadable_of_optionalValue hGap]
      · rename_i hStopped
        cases hTyped
        refine
          ⟨by
            unfold AssertionConfig.kept
            rw [if_neg hEvent, if_neg hRate,
              if_neg hStopped], ?_⟩
        simp [AssertionConfig.numbers, hNone, hWithins,
          hDurations]

section AssertionTrees

open YamlTree

variable {yaml : YamlCpp YamlTree}
variable (hReads : ReadsTrees yaml)

include hReads

/- A readable number is that of a field of its key. -/
theorem exists_number
    {value : Option Number}
    (hValue : OptionReadable yaml.asDouble value)
    (key : String) :
    ∃ field : Option YamlTree,
      ∀ fields,
        fieldValue key fields = field →
          optionalValue yaml yaml.asDouble (ofFields fields)
              key =
            .ok value := by
  rcases exists_field hValue with ⟨field, hField⟩
  refine ⟨field, fun fields hFound => ?_⟩
  rw [hReads.optionalValue_ofFields hFound, hField]

/-
  All that an assertion holds is written; the parser reads
  what belongs to the type.
-/
theorem readable_of_loadable
    {assertion : AssertionConfig}
    (hLoadable : assertion.Loadable yaml) :
    Readable (parseAssertion yaml) assertion := by
  rcases hLoadable with ⟨hKept, hNumbers⟩
  simp only [AssertionConfig.numbers, List.forall_mem_cons,
    List.not_mem_nil, false_imp_iff, implies_true, and_true]
    at hNumbers
  rcases hNumbers with
    ⟨hMinHz, hWindow, hTrigger, hLinear, hAngular, hGap,
      hWithin, hDuration⟩
  rcases exists_number hReads hMinHz "min_hz" with
    ⟨minHz, hMinHz⟩
  rcases exists_number hReads hWindow "window" with
    ⟨window, hWindow⟩
  rcases exists_number hReads hTrigger "trigger_within" with
    ⟨trigger, hTrigger⟩
  rcases exists_number hReads hLinear "linear_tolerance" with
    ⟨linear, hLinear⟩
  rcases exists_number hReads hAngular "angular_tolerance" with
    ⟨angular, hAngular⟩
  rcases exists_number hReads hGap "max_gap" with ⟨gap, hGap⟩
  rcases exists_number hReads hWithin "within" with
    ⟨within, hWithin⟩
  rcases exists_number hReads hDuration "duration" with
    ⟨duration, hDuration⟩
  let fields : List (String × Option YamlTree) :=
    [ ("id", some (.scalar assertion.id)),
      ("type", some (.scalar assertion.type)),
      ("topic", some (.scalar assertion.topic)),
      ("message_type", some (.scalar assertion.messageType)),
      ("fault_id", some (.scalar assertion.faultId)),
      ("state", some (.scalar assertion.state)),
      ("min_hz", minHz), ("window", window),
      ("trigger_within", trigger),
      ("linear_tolerance", linear),
      ("angular_tolerance", angular), ("max_gap", gap),
      ("within", within), ("duration", duration) ]
  have hTyped :
      parseTypeKeys yaml (ofFields fields)
          { id := assertion.id, type := assertion.type } =
        .ok
          { assertion.kept with
            within := none
            duration := none } := by
    unfold parseTypeKeys AssertionConfig.kept
    split
    · exact
        Except.bind_eq_ok_iff.mpr
          ⟨_, hReads.requiredString_ofFields rfl,
            Except.bind_eq_ok_iff.mpr
              ⟨_, hReads.requiredString_ofFields rfl, rfl⟩⟩
    · split
      · exact
          Except.bind_eq_ok_iff.mpr
            ⟨_, hReads.requiredString_ofFields rfl,
              Except.bind_eq_ok_iff.mpr
                ⟨_, hReads.requiredString_ofFields rfl,
                  Except.bind_eq_ok_iff.mpr
                    ⟨_,
                      hMinHz fields
                        (by simp [fields, fieldValue]),
                      Except.bind_eq_ok_iff.mpr
                        ⟨_,
                          hWindow fields
                            (by simp [fields, fieldValue]),
                          rfl⟩⟩⟩⟩
      · split
        · refine
            Except.bind_eq_ok_iff.mpr
              ⟨_, hReads.requiredString_ofFields rfl,
                Except.bind_eq_ok_iff.mpr
                  ⟨_, hReads.requiredString_ofFields rfl,
                    Except.bind_eq_ok_iff.mpr
                      ⟨_,
                        hTrigger fields
                          (by simp [fields, fieldValue]),
                        ?_⟩⟩⟩
          exact
            Except.bind_eq_ok_iff.mpr
              ⟨_,
                hLinear fields
                  (by simp [fields, fieldValue]),
                Except.bind_eq_ok_iff.mpr
                  ⟨_,
                    hAngular fields
                      (by simp [fields, fieldValue]),
                    Except.bind_eq_ok_iff.mpr
                      ⟨_,
                        hGap fields
                          (by simp [fields, fieldValue]),
                        rfl⟩⟩⟩
        · rfl
  have hWithin :=
    hWithin fields (by simp [fields, fieldValue])
  have hDuration :=
    hDuration fields (by simp [fields, fieldValue])
  refine
    ⟨ofFields fields,
      Except.bind_eq_ok_iff.mpr
        ⟨_, hReads.requiredString_ofFields rfl,
          Except.bind_eq_ok_iff.mpr
            ⟨_, hReads.requiredString_ofFields rfl,
              Except.bind_eq_ok_iff.mpr
                ⟨_, hTyped,
                  Except.bind_eq_ok_iff.mpr
                    ⟨_, hWithin,
                      Except.bind_eq_ok_iff.mpr
                        ⟨_, hDuration, ?_⟩⟩⟩⟩⟩⟩
  rw [hKept]

end AssertionTrees

end AssertionConfig

------------------------------------------------------------
-- Scenarios
------------------------------------------------------------

namespace ScenarioConfig

/-
  What a file can say about a scenario. The faults that are
  active at startup are listed in the order of the faults.
-/
structure Loadable
    {Node : Type}
    (yaml : YamlCpp Node)
    (milliseconds : Number → Int)
    (scenario : ScenarioConfig) : Prop where
  injectors :
    ∀ injector ∈ scenario.injectors, injector.Loadable yaml
  faults :
    ∀ fault ∈ scenario.faults,
      fault.Loadable yaml milliseconds
  active :
    scenario.initiallyActiveFaults.Sublist
      (scenario.faults.map FaultConfig.id)
  assertions :
    ∀ assertion ∈ scenario.assertions,
      assertion.Loadable yaml

theorem loadable_of_parse
    {Node : Type}
    {yaml : YamlCpp Node}
    {milliseconds : Number → Int}
    {root : Node}
    {scenario : ScenarioConfig}
    (hParse :
      parseScenario yaml milliseconds root = .ok scenario) :
    scenario.Loadable yaml milliseconds := by
  unfold parseScenario at hParse
  rcases Except.bind_eq_ok_iff.mp hParse with ⟨_, _, hParse⟩
  rcases Except.bind_eq_ok_iff.mp hParse with
    ⟨injectors, hInjectors, hParse⟩
  rcases Except.bind_eq_ok_iff.mp hParse with ⟨_, _, hParse⟩
  rcases Except.bind_eq_ok_iff.mp hParse with
    ⟨items, hItems, hParse⟩
  rcases Except.bind_eq_ok_iff.mp hParse with ⟨_, _, hParse⟩
  rcases Except.bind_eq_ok_iff.mp hParse with
    ⟨assertions, hAssertions, hDone⟩
  cases hDone
  constructor
  · intro injector hInjector
    rcases readable_of_mapM hInjectors injector hInjector with
      ⟨node, hNode⟩
    exact InjectorConfig.loadable_of_parse hNode
  · intro fault hFault
    rcases List.mem_map.mp hFault with ⟨item, hItem, rfl⟩
    rcases readable_of_mapM hItems item hItem with
      ⟨node, hNode⟩
    rcases Except.bind_eq_ok_iff.mp hNode with
      ⟨parsed, hParsed, hNode⟩
    rcases Except.bind_eq_ok_iff.mp hNode with ⟨_, _, hDone⟩
    cases hDone
    exact FaultConfig.loadable_of_parse hParsed
  · simp only [List.map_map]
    exact List.filter_sublist.map _
  · intro assertion hAssertion
    rcases readable_of_mapM hAssertions assertion hAssertion
      with ⟨node, hNode⟩
    exact AssertionConfig.loadable_of_parse hNode

/- Flags that select a sublist of the faults. -/
theorem exists_items
    {chosen faults : List FaultConfig}
    (hChosen : chosen.Sublist faults) :
    ∃ items : List (FaultConfig × Bool),
      items.map Prod.fst = faults ∧
        (items.filter Prod.snd).map Prod.fst = chosen := by
  induction hChosen with
  | slnil => exact ⟨[], rfl, rfl⟩
  | cons fault _ ih =>
      rcases ih with ⟨items, hFaults, hFlags⟩
      exact
        ⟨(fault, false) :: items, by simp [hFaults],
          by simp [hFlags]⟩
  | cons_cons fault _ ih =>
      rcases ih with ⟨items, hFaults, hFlags⟩
      exact
        ⟨(fault, true) :: items, by simp [hFaults],
          by simp [hFlags]⟩

open YamlTree

theorem readable_of_loadable
    {yaml : YamlCpp YamlTree}
    {milliseconds : Number → Int}
    {scenario : ScenarioConfig}
    (hReads : ReadsTrees yaml)
    (hLoadable : scenario.Loadable yaml milliseconds) :
    Readable (parseScenario yaml milliseconds) scenario := by
  rcases hLoadable with
    ⟨hInjectors, hFaults, hActive, hAssertions⟩
  rcases List.sublist_map_iff.mp hActive with
    ⟨chosen, hChosen, hIds⟩
  rcases exists_items hChosen with ⟨items, hItems, hFlags⟩
  have hReadable :
      ∀ item ∈ items,
        Readable (parseFaultItem yaml milliseconds) item := by
    intro item hItem
    have hFault : item.1 ∈ scenario.faults := by
      rw [← hItems]
      exact List.mem_map_of_mem hItem
    exact
      FaultConfig.readable_of_loadable hReads
        (hFaults item.1 hFault) item.2
  rcases
      exists_nodes fun injector hInjector =>
        InjectorConfig.readable_of_loadable hReads
          (hInjectors injector hInjector) with
    ⟨injectorNodes, hInjectorNodes⟩
  rcases exists_nodes hReadable with ⟨faultNodes, hFaultNodes⟩
  rcases
      exists_nodes fun assertion hAssertion =>
        AssertionConfig.readable_of_loadable hReads
          (hAssertions assertion hAssertion) with
    ⟨assertionNodes, hAssertionNodes⟩
  refine
    ⟨ofFields
        [ ("injectors", some (.sequence injectorNodes)),
          ("faults", some (.sequence faultNodes)),
          ("assertions", some (.sequence assertionNodes)) ],
      Except.bind_eq_ok_iff.mpr
        ⟨injectorNodes, ?_,
          Except.bind_eq_ok_iff.mpr
            ⟨_, hInjectorNodes,
              Except.bind_eq_ok_iff.mpr
                ⟨_, hReads.child_ofFields rfl,
                  Except.bind_eq_ok_iff.mpr
                    ⟨items, ?_,
                      Except.bind_eq_ok_iff.mpr
                        ⟨assertionNodes, ?_,
                          Except.bind_eq_ok_iff.mpr
                            ⟨_, hAssertionNodes, ?_⟩⟩⟩⟩⟩⟩⟩
  · refine
      Except.bind_eq_ok_iff.mpr
        ⟨_, hReads.child_ofFields rfl, ?_⟩
    exact congrArg _ (hReads.elements _)
  · change (yaml.elements _).mapM _ = _
    rw [hReads.elements]
    exact hFaultNodes
  · refine
      Except.bind_eq_ok_iff.mpr
        ⟨_, hReads.child_ofFields rfl, ?_⟩
    change
      (if yaml.isSequence (.sequence _) = true then _ else _) =
        _
    rw [if_pos (hReads.isSequence _), hReads.elements]
  · have hIdsOf :
        (items.filter Prod.snd).map (fun item => item.1.id) =
          scenario.initiallyActiveFaults := by
      rw [hIds, ← hFlags, List.map_map]
      rfl
    rw [hItems, hIdsOf]

/-
  A scenario is that of some file exactly if it is one that
  files can describe.
-/
theorem scenario_file_iff
    {yaml : YamlCpp YamlTree}
    (hReads : ReadsTrees yaml)
    (milliseconds : Number → Int)
    (scenario : ScenarioConfig) :
    (∃ root,
      parseScenario yaml milliseconds root = .ok scenario) ↔
      scenario.Loadable yaml milliseconds :=
  ⟨fun ⟨_, hParse⟩ => loadable_of_parse hParse,
    readable_of_loadable hReads⟩

end ScenarioConfig

------------------------------------------------------------
-- Campaigns
------------------------------------------------------------

/- What a file can say about a campaign. -/
structure LoadedCampaign.Loadable
    {Node : Type}
    (yaml : CampaignYaml Node)
    (campaign : LoadedCampaign) : Prop where
  repeats : 0 < campaign.repeats
  timeout : campaign.timeout.le .zero = false
  variants : campaign.variants ≠ []
  values :
    ∀ variant ∈ campaign.variants, variant.values ≠ []
  readRepeats :
    campaign.repeats = 1 ∨
      Readable yaml.asInt campaign.repeats
  readTimeout :
    campaign.timeout = .finite 60 ∨
      Readable yaml.asDouble campaign.timeout

section CampaignFiles

variable {Node : Type}
variable {yaml : CampaignYaml Node}

/- A value is its default or readable. -/
theorem default_or_readable
    {α : Type}
    {read : Node → Except String α}
    {node : Node}
    {key : String}
    {value : Option α}
    (hRead :
      optionalValue yaml.toYamlCpp read node key = .ok value)
    (default : α) :
    value.getD default = default ∨
      Readable read (value.getD default) := by
  cases value with
  | none => exact Or.inl rfl
  | some x =>
      exact
        Or.inr (optionReadable_of_optionalValue hRead x rfl)

theorem checkLimits_eq_ok_iff
    {repeats : Int}
    {timeout : Number} :
    checkLimits repeats timeout = .ok () ↔
      0 < repeats ∧ timeout.le .zero = false := by
  unfold checkLimits
  by_cases hRepeats : repeats ≤ 0
  · rw [if_pos hRepeats]
    constructor
    · intro hNone
      cases hNone
    · intro hBoth
      omega
  · rw [if_neg hRepeats]
    cases hTimeout : timeout.le .zero with
    | true => simp
    | false =>
        simp only [Bool.false_eq_true, if_false, and_true,
          true_iff]
        omega

/- There is a value in every parsed variant. -/
theorem values_of_parseVariant
    {node : Node}
    {variant : CampaignVariant}
    (hParse : parseVariant yaml node = .ok variant) :
    variant.values ≠ [] := by
  unfold parseVariant at hParse
  rcases Except.bind_eq_ok_iff.mp hParse with ⟨_, _, hParse⟩
  rcases Except.bind_eq_ok_iff.mp hParse with ⟨_, _, hParse⟩
  rcases Except.bind_eq_ok_iff.mp hParse with
    ⟨values, hValues, hDone⟩
  cases hDone
  unfold parseValues at hValues
  rcases Except.bind_eq_ok_iff.mp hValues with
    ⟨field, _, hValues⟩
  cases field with
  | none => cases hValues
  | some inner =>
      simp only at hValues
      split at hValues
      · rcases Except.bind_eq_ok_iff.mp hValues with
          ⟨texts, _, hTexts⟩
        split at hTexts
        · cases hTexts
        · rename_i hSome
          cases hTexts
          simpa using hSome
      · cases hValues

/- There is a variant, and each is that of a node. -/
theorem variants_of_parseVariants
    {node : Node}
    {variants : List CampaignVariant}
    (hParse : parseVariants yaml node = .ok variants) :
    variants ≠ [] ∧
      ∀ variant ∈ variants, variant.values ≠ [] := by
  unfold parseVariants at hParse
  rcases Except.bind_eq_ok_iff.mp hParse with
    ⟨field, _, hParse⟩
  cases field with
  | none => cases hParse
  | some inner =>
      simp only at hParse
      split at hParse
      · rcases Except.bind_eq_ok_iff.mp hParse with
          ⟨parsed, hParsed, hDone⟩
        split at hDone
        · cases hDone
        · rename_i hSome
          cases hDone
          refine ⟨by simpa using hSome, ?_⟩
          intro variant hVariant
          rcases readable_of_mapM hParsed variant hVariant with
            ⟨item, hItem⟩
          exact values_of_parseVariant hItem
      · cases hParse

theorem LoadedCampaign.loadable_of_parse
    {root : Node}
    {campaign : LoadedCampaign}
    (hParse : parseCampaignFile yaml root = .ok campaign) :
    campaign.Loadable yaml := by
  unfold parseCampaignFile at hParse
  rcases Except.bind_eq_ok_iff.mp hParse with
    ⟨block, _, hParse⟩
  cases block with
  | none => cases hParse
  | some node =>
      rcases Except.bind_eq_ok_iff.mp hParse with
        ⟨name, _, hParse⟩
      rcases Except.bind_eq_ok_iff.mp hParse with
        ⟨baseScenario, _, hParse⟩
      rcases Except.bind_eq_ok_iff.mp hParse with
        ⟨timeout, hTimeout, hParse⟩
      rcases Except.bind_eq_ok_iff.mp hParse with
        ⟨repeats, hRepeats, hParse⟩
      rcases Except.bind_eq_ok_iff.mp hParse with
        ⟨⟨⟩, hLimits, hParse⟩
      rcases Except.bind_eq_ok_iff.mp hParse with
        ⟨variants, hVariants, hDone⟩
      cases hDone
      have hChecked := checkLimits_eq_ok_iff.mp hLimits
      have hListed := variants_of_parseVariants hVariants
      exact
        { repeats := hChecked.1
          timeout := hChecked.2
          variants := hListed.1
          values := hListed.2
          readRepeats := default_or_readable hRepeats 1
          readTimeout :=
            default_or_readable hTimeout (.finite 60) }

end CampaignFiles

section CampaignTrees

open YamlTree

variable {yaml : CampaignYaml YamlTree}
variable (hReads : ReadsTrees yaml.toYamlCpp)

include hReads

/- Any texts can be the values of a variant. -/
theorem exists_variant
    {variant : CampaignVariant}
    (hValues : variant.values ≠ []) :
    Readable (parseVariant yaml) variant := by
  have hTexts :
      (variant.values.map YamlTree.scalar).mapM
          (scalarToString yaml) =
        .ok variant.values := by
    rw [Except.mapM_eq_ok_iff, List.forall₂_map_left_iff,
      List.forall₂_same]
    intro value _
    unfold scalarToString
    rw [if_pos (hReads.isScalar value)]
    exact hReads.asString value
  refine
    ⟨ofFields
        [ ("fault_id", some (.scalar variant.faultId)),
          ("key", some (.scalar variant.key)),
          ("values",
            some
              (.sequence
                (variant.values.map YamlTree.scalar))) ],
      Except.bind_eq_ok_iff.mpr
        ⟨_, hReads.requiredString_ofFields rfl,
          Except.bind_eq_ok_iff.mpr
            ⟨_, hReads.requiredString_ofFields rfl,
              Except.bind_eq_ok_iff.mpr
                ⟨variant.values, ?_, rfl⟩⟩⟩⟩
  refine
    Except.bind_eq_ok_iff.mpr
      ⟨_, hReads.child_ofFields rfl, ?_⟩
  change
    (if yaml.isSequence (.sequence _) = true then _ else _) = _
  rw [if_pos (hReads.isSequence _), hReads.elements]
  refine
    Except.bind_eq_ok_iff.mpr ⟨variant.values, hTexts, ?_⟩
  rw [if_neg (by simpa using hValues)]

theorem LoadedCampaign.readable_of_loadable
    {campaign : LoadedCampaign}
    (hLoadable : campaign.Loadable yaml) :
    Readable (parseCampaignFile yaml) campaign := by
  rcases hLoadable with
    ⟨hPositive, hTimeout, hSome, hValues, hReadRepeats,
      hReadTimeout⟩
  rcases exists_defaulted hReadRepeats with
    ⟨repeatsField, repeats, hRepeatsField, hRepeats⟩
  rcases exists_defaulted hReadTimeout with
    ⟨timeoutField, timeout, hTimeoutField, hTimeoutValue⟩
  rcases
      exists_nodes fun variant hVariant =>
        exists_variant hReads (hValues variant hVariant) with
    ⟨nodes, hNodes⟩
  let fields : List (String × Option YamlTree) :=
    [ ("name", some (.scalar campaign.name)),
      ("base_scenario",
        some (.scalar campaign.baseScenario)),
      ("timeout", timeoutField),
      ("repeats", repeatsField),
      ("variants", some (.sequence nodes)) ]
  have hVariants :
      parseVariants yaml (ofFields fields) =
        .ok campaign.variants := by
    refine
      Except.bind_eq_ok_iff.mpr
        ⟨_, hReads.child_ofFields rfl, ?_⟩
    change
      (if yaml.isSequence (.sequence _) = true then _ else _) =
        _
    rw [if_pos (hReads.isSequence _), hReads.elements]
    refine
      Except.bind_eq_ok_iff.mpr
        ⟨campaign.variants, hNodes, ?_⟩
    rw [if_neg (by simpa using hSome)]
  have hTimeoutRead :
      optionalValue yaml.toYamlCpp yaml.asDouble
          (ofFields fields) "timeout" =
        .ok timeout := by
    rw [hReads.optionalValue_ofFields rfl]
    simpa [fields, fieldValue] using hTimeoutField
  have hRepeatsRead :
      optionalValue yaml.toYamlCpp yaml.asInt
          (ofFields fields) "repeats" =
        .ok repeats := by
    rw [hReads.optionalValue_ofFields rfl]
    simpa [fields, fieldValue] using hRepeatsField
  have hCampaign :
      parseCampaign yaml (ofFields fields) = .ok campaign := by
    refine
      Except.bind_eq_ok_iff.mpr
        ⟨_, hReads.requiredString_ofFields rfl,
          Except.bind_eq_ok_iff.mpr
            ⟨_, hReads.requiredString_ofFields rfl,
              Except.bind_eq_ok_iff.mpr
                ⟨_, hTimeoutRead,
                  Except.bind_eq_ok_iff.mpr
                    ⟨_, hRepeatsRead, ?_⟩⟩⟩⟩
    rw [hRepeats, hTimeoutValue]
    exact
      Except.bind_eq_ok_iff.mpr
        ⟨(), checkLimits_eq_ok_iff.mpr ⟨hPositive, hTimeout⟩,
          Except.bind_eq_ok_iff.mpr ⟨_, hVariants, rfl⟩⟩
  exact
    ⟨ofFields [("campaign", some (ofFields fields))],
      Except.bind_eq_ok_iff.mpr
        ⟨_, hReads.child_ofFields rfl, hCampaign⟩⟩

end CampaignTrees

/-
  A campaign is that of some file exactly if it is one that
  files can describe: it has repeats, variants with values,
  and a timeout that is not zero or less.
-/
theorem LoadedCampaign.campaign_file_iff
    {yaml : CampaignYaml YamlTree}
    (hReads : YamlTree.ReadsTrees yaml.toYamlCpp)
    (campaign : LoadedCampaign) :
    (∃ root, parseCampaignFile yaml root = .ok campaign) ↔
      campaign.Loadable yaml :=
  ⟨fun ⟨_, hParse⟩ => loadable_of_parse hParse,
    readable_of_loadable hReads⟩

------------------------------------------------------------
-- A Library That Reads Trees
------------------------------------------------------------

namespace YamlTree

theorem readsTrees_library (file : YamlTree) :
    ReadsTrees (library file) where
  child _ _ := rfl
  asString _ := rfl
  asTrue := rfl
  isScalar _ := rfl
  scalar _ := rfl
  isSequence _ := rfl
  elements _ := rfl
  entries _ := rfl

/- The scenarios of files that are read in this way. -/
theorem scenario_file_iff_of_odometry :
    (∃ root,
      parseScenario (library odomWithTopic) (fun _ => 0) root =
        .ok odomWithTopicScenario) ↔
      odomWithTopicScenario.Loadable (library odomWithTopic)
        fun _ => 0 :=
  ScenarioConfig.scenario_file_iff
    (readsTrees_library odomWithTopic) (fun _ => 0)
    odomWithTopicScenario

/- The library with integers that are read from digits. -/
def campaignLibrary (file : YamlTree) :
    CampaignYaml YamlTree :=
  { library file with
    asInt := as fun text =>
      (seedOfText text).map fun n => (n : Int) }

/- Three values of one parameter, each tried twice. -/
def sweep : LoadedCampaign :=
  { name := "sweep"
    baseScenario := "base.yaml"
    repeats := 2
    variants := [⟨"bias", "linear_bias", ["0", "0.1", "1"]⟩] }

theorem campaign_file_iff_of_sweep :
    (∃ root,
      parseCampaignFile (campaignLibrary odomWithTopic) root =
        .ok sweep) ↔
      sweep.Loadable (campaignLibrary odomWithTopic) := by
  have hReads :
      ReadsTrees (campaignLibrary odomWithTopic).toYamlCpp :=
    readsTrees_library odomWithTopic
  exact LoadedCampaign.campaign_file_iff hReads sweep

end YamlTree
