import FaultInjection.Foundations.Outcome
import FaultInjection.Config.ScenarioConfig
import FaultInjection.Config.FaultConfigSchema

/-
  Loading a scenario from a YAML file.

  The YAML library is a parameter: how a file becomes a tree
  of nodes and what a node yields. Its exceptions and those
  of the loader carry a text.

  Key definitions include:
    * `YamlCpp`
    * `parseInjector`
    * `parseFault`
    * `parseAssertion`
    * `loadScenarioConfig`

  Key theorems include:
    * `parseInjector_endpoints`
    * `injectors_of_loadScenarioConfig`
-/

open NumberText

------------------------------------------------------------
-- The YAML Library
------------------------------------------------------------

/-
  What the loader uses of the YAML library. A lookup yields
  none for a key that is not defined and may throw. The
  elements are the nodes that a range loop visits, the
  entries its pairs of key and value.
-/
structure YamlCpp (Node : Type) where
  loadFile : String → Except String Node
  child : Node → String → Except String (Option Node)
  asString : Node → Except String String
  asDouble : Node → Except String Number
  asBool : Node → Except String Bool
  asSize : Node → Except String Nat
  isScalar : Node → Bool
  scalar : Node → String
  isSequence : Node → Bool
  elements : Node → List Node
  entries : Node → List (Node × Node)

------------------------------------------------------------
-- Values
------------------------------------------------------------

section Parsing

variable {Node : Type}
variable (yaml : YamlCpp Node)

def requiredString
    (node : Node)
    (key : String) : Except String String := do
  match ← yaml.child node key with
  | none => .error ("Missing required key: " ++ key)
  | some value => yaml.asString value

/- A value that is read only when its key is defined. -/
def optionalValue
    {α : Type}
    (read : Node → Except String α)
    (node : Node)
    (key : String) : Except String (Option α) := do
  match ← yaml.child node key with
  | none => .ok none
  | some value => some <$> read value

def nodeToString (node : Node) : Except String String :=
  if yaml.isScalar node then
    yaml.asString node
  else
    .error "Expected scalar YAML value"

/- The seed that a text of decimal digits denotes. -/
def seedOfText (text : String) : Option Nat :=
  match takeDigits 10 text.toList with
  | (d :: ds, []) =>
      let seed := digitsValue 10 (d :: ds)
      if seed < 2 ^ 32 then some seed else none
  | _ => none

def parseSeed
    (node : Node)
    (id : String) : Except String (Option Nat) := do
  match ← yaml.child node "seed" with
  | none => .ok none
  | some seedNode =>
      let error :=
        "Injector '" ++ id ++ "': seed must be a decimal " ++
          "integer between 0 and 4294967295"
      if yaml.isScalar seedNode then
        match seedOfText (yaml.scalar seedNode) with
        | some seed => .ok (some seed)
        | none => .error error
      else
        .error error

------------------------------------------------------------
-- Injectors
------------------------------------------------------------

def parseTriggerService
    (node : Node) :
    Except String TriggerServiceEndpointConfig := do
  let proxyService ← requiredString yaml node "proxy_service"
  let targetService ←
    requiredString yaml node "target_service"
  .ok
    { proxyService := proxyService
      targetService := targetService }

def parseTopic
    (node : Node) : Except String TopicEndpointConfig := do
  let inputTopic ← requiredString yaml node "input_topic"
  let outputTopic ← requiredString yaml node "output_topic"
  let qosDepth ←
    optionalValue yaml yaml.asSize node "qos_depth"
  .ok
    { inputTopic := inputTopic
      outputTopic := outputTopic
      qosDepth := qosDepth.getD 10 }

/-
  A `trigger_service` block or the type asks for a service
  endpoint. Every other injector gets a topic endpoint. The
  endpoint is read from its block or from the node itself.
-/
def parseInjector
    (node : Node) : Except String InjectorConfig := do
  let id ← requiredString yaml node "id"
  let type ← requiredString yaml node "type"
  let seed ← parseSeed yaml node id
  let serviceNode ← yaml.child node "trigger_service"
  if serviceNode.isSome ∨ type = "trigger_service" then
    let service ←
      parseTriggerService yaml (serviceNode.getD node)
    .ok
      { id := id
        type := type
        seed := seed
        triggerService := some service }
  else
    let topicNode ← yaml.child node "topic"
    let topic ← parseTopic yaml (topicNode.getD node)
    .ok
      { id := id
        type := type
        seed := seed
        topic := some topic }

/- The nodes of the injectors, in either spelling. -/
def injectorNodes
    (root : Node) : Except String (List Node) := do
  match ← yaml.child root "injectors" with
  | some nodes => .ok (yaml.elements nodes)
  | none =>
      match ← yaml.child root "injector" with
      | some node => .ok [node]
      | none =>
          .error
            ("Scenario is missing required 'injector' or " ++
              "'injectors' block")

------------------------------------------------------------
-- Faults
------------------------------------------------------------

/- The parameters of a fault; a repeated key is replaced. -/
def parseConfigEntries :
    List (Node × Node) →
      Except String (UnorderedMap String String) :=
  List.foldlM
    (fun config item => do
      let key ← yaml.asString item.1
      let value ← nodeToString yaml item.2
      .ok (config.insert key value))
    .empty

/-
  Seconds become milliseconds by the conversion of a double
  that the machine makes.
-/
def parseFault
    (milliseconds : Number → Int)
    (node : Node) : Except String FaultConfig := do
  let id ← requiredString yaml node "id"
  let injectorId ← requiredString yaml node "injector_id"
  let start ← optionalValue yaml yaml.asDouble node "start"
  let duration ←
    optionalValue yaml yaml.asDouble node "duration"
  let config ←
    optionalValue yaml
      (fun entries =>
        parseConfigEntries yaml (yaml.entries entries))
      node "config"
  .ok
    { id := id
      injectorId := injectorId
      start := start.map milliseconds
      duration := duration.map milliseconds
      config := config.getD .empty }

/- The key is defined and its value is true. -/
def flagSet
    (node : Node)
    (key : String) : Except String Bool := do
  let flag ← optionalValue yaml yaml.asBool node key
  .ok (flag.getD false)

/-
  The fault is active as soon as the framework starts. The
  key `active` is a deprecated alias.
-/
def activeOnStartup (node : Node) : Except String Bool := do
  if ← flagSet yaml node "active_on_startup" then
    .ok true
  else
    flagSet yaml node "active"

/- A fault and whether it starts active. -/
def parseFaultItem
    (milliseconds : Number → Int)
    (node : Node) : Except String (FaultConfig × Bool) := do
  let fault ← parseFault yaml milliseconds node
  let active ← activeOnStartup yaml node
  .ok (fault, active)

------------------------------------------------------------
-- Assertions
------------------------------------------------------------

/- The keys that the type of an assertion adds. -/
def parseTypeKeys
    (node : Node)
    (assertion : AssertionConfig) :
    Except String AssertionConfig := do
  if assertion.type = "fault_event" then
    let faultId ← requiredString yaml node "fault_id"
    let state ← requiredString yaml node "state"
    .ok { assertion with faultId := faultId, state := state }
  else if assertion.type = "topic_hz" then
    let topic ← requiredString yaml node "topic"
    let messageType ←
      requiredString yaml node "message_type"
    let minHz ←
      optionalValue yaml yaml.asDouble node "min_hz"
    let window ←
      optionalValue yaml yaml.asDouble node "window"
    .ok
      { assertion with
        topic := topic
        messageType := messageType
        minHz := minHz
        window := window }
  else if assertion.type = "twist_stopped" then
    let topic ← requiredString yaml node "topic"
    let faultId ← requiredString yaml node "fault_id"
    let triggerWithin ←
      optionalValue yaml yaml.asDouble node "trigger_within"
    let linearTolerance ←
      optionalValue yaml yaml.asDouble node
        "linear_tolerance"
    let angularTolerance ←
      optionalValue yaml yaml.asDouble node
        "angular_tolerance"
    let maxGap ←
      optionalValue yaml yaml.asDouble node "max_gap"
    .ok
      { assertion with
        topic := topic
        faultId := faultId
        triggerWithin := triggerWithin
        linearTolerance := linearTolerance
        angularTolerance := angularTolerance
        maxGap := maxGap }
  else
    .ok assertion

def parseAssertion
    (node : Node) : Except String AssertionConfig := do
  let id ← requiredString yaml node "id"
  let type ← requiredString yaml node "type"
  let assertion ←
    parseTypeKeys yaml node { id := id, type := type }
  let within ← optionalValue yaml yaml.asDouble node "within"
  let duration ←
    optionalValue yaml yaml.asDouble node "duration"
  .ok
    { assertion with
      within := within
      duration := duration }

/- The assertion nodes, which must be a sequence. -/
def assertionNodes
    (root : Node) : Except String (List Node) := do
  match ← yaml.child root "assertions" with
  | none => .ok []
  | some nodes =>
      if yaml.isSequence nodes then
        .ok (yaml.elements nodes)
      else
        .error
          "Scenario 'assertions' block must be a sequence"

------------------------------------------------------------
-- Scenarios
------------------------------------------------------------

/- The scenario of a parsed file. -/
def parseScenario
    (milliseconds : Number → Int)
    (root : Node) : Except String ScenarioConfig := do
  let injectors ← injectorNodes yaml root
  let injectors ← injectors.mapM (parseInjector yaml)
  let faultBlock ← yaml.child root "faults"
  let faults ←
    (faultBlock.elim [] yaml.elements).mapM
      (parseFaultItem yaml milliseconds)
  let assertions ← assertionNodes yaml root
  let assertions ← assertions.mapM (parseAssertion yaml)
  .ok
    { injectors := injectors
      faults := faults.map Prod.fst
      initiallyActiveFaults :=
        (faults.filter Prod.snd).map fun item => item.1.id
      assertions := assertions }

def loadScenarioConfig
    (milliseconds : Number → Int)
    (path : String) : Except String ScenarioConfig := do
  let root ← yaml.loadFile path
  parseScenario yaml milliseconds root

------------------------------------------------------------
-- Endpoints
------------------------------------------------------------

/- The injector nodes ask for a service endpoint. -/
def AsksForService (node : Node) (type : String) : Prop :=
  (∃ block, yaml.child node "trigger_service" =
      .ok (some block)) ∨
    type = "trigger_service"

variable {yaml}

/-
  A parsed injector has its type from the node and one of the
  two endpoints, the service when the node asks for it.
-/
theorem parseInjector_endpoints
    {node : Node}
    {injector : InjectorConfig}
    (hParse : parseInjector yaml node = .ok injector) :
    requiredString yaml node "type" = .ok injector.type ∧
      (injector.triggerService.isSome ↔
        AsksForService yaml node injector.type) ∧
      (injector.topic.isSome ↔
        ¬ AsksForService yaml node injector.type) := by
  unfold parseInjector at hParse
  rcases Except.bind_eq_ok_iff.mp hParse with
    ⟨id, _, hParse⟩
  rcases Except.bind_eq_ok_iff.mp hParse with
    ⟨type, hType, hParse⟩
  rcases Except.bind_eq_ok_iff.mp hParse with
    ⟨seed, _, hParse⟩
  rcases Except.bind_eq_ok_iff.mp hParse with
    ⟨serviceNode, hBlock, hParse⟩
  have hAsks :
      (serviceNode.isSome ∨ type = "trigger_service") ↔
        AsksForService yaml node type := by
    unfold AsksForService
    cases serviceNode <;> simp [hBlock]
  split at hParse
  · rename_i hService
    rcases Except.bind_eq_ok_iff.mp hParse with
      ⟨service, _, hDone⟩
    cases hDone
    simpa [hType] using hAsks.mp hService
  · rename_i hTopic
    rcases Except.bind_eq_ok_iff.mp hParse with
      ⟨topicNode, _, hParse⟩
    rcases Except.bind_eq_ok_iff.mp hParse with
      ⟨topic, _, hDone⟩
    cases hDone
    rw [hAsks] at hTopic
    simpa [hType] using hTopic

/- The injectors of a file are those of its nodes. -/
theorem injectors_of_loadScenarioConfig
    {milliseconds : Number → Int}
    {path : String}
    {scenario : ScenarioConfig}
    (hLoad :
      loadScenarioConfig yaml milliseconds path =
        .ok scenario) :
    ∃ root nodes,
      yaml.loadFile path = .ok root ∧
        injectorNodes yaml root = .ok nodes ∧
        List.Forall₂
          (fun node injector =>
            parseInjector yaml node = .ok injector)
          nodes scenario.injectors := by
  unfold loadScenarioConfig parseScenario at hLoad
  rcases Except.bind_eq_ok_iff.mp hLoad with
    ⟨root, hRoot, hLoad⟩
  rcases Except.bind_eq_ok_iff.mp hLoad with
    ⟨nodes, hNodes, hLoad⟩
  rcases Except.bind_eq_ok_iff.mp hLoad with
    ⟨injectors, hInjectors, hLoad⟩
  rcases Except.bind_eq_ok_iff.mp hLoad with
    ⟨faultBlock, _, hLoad⟩
  rcases Except.bind_eq_ok_iff.mp hLoad with
    ⟨faults, _, hLoad⟩
  rcases Except.bind_eq_ok_iff.mp hLoad with
    ⟨assertionItems, _, hLoad⟩
  rcases Except.bind_eq_ok_iff.mp hLoad with
    ⟨assertions, _, hDone⟩
  cases hDone
  exact ⟨root, nodes, hRoot, hNodes,
    Except.mapM_eq_ok_iff.mp hInjectors⟩

end Parsing
