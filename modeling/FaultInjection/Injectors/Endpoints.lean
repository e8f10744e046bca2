import FaultInjection.Config.ScenarioLoader
import FaultInjection.Config.ScenarioValidator

/-
  The endpoints that injector constructors take from their
  configuration.

  A constructor reads its endpoint without testing that it is
  there. The parser decides which endpoint an injector gets.

  Key definitions include:
    * `Endpoint`
    * `endpointForBuiltinInjectorType`
    * `EndpointsFit`
    * `ServiceBlocksFit`

  Key theorems include:
    * `endpoint_isSome_iff`
    * `endpoints_fit_iff_of_loaded`
-/

------------------------------------------------------------
-- Constructors
------------------------------------------------------------

/- What a constructor subscribes to, publishes or serves. -/
inductive Endpoint where
| topic
    (inputTopic outputTopic : String)
    (qosDepth : Nat) : Endpoint
| triggerService
    (proxyService targetService : String) : Endpoint
deriving DecidableEq

/- Reading an empty topic has no defined behaviour. -/
def topicEndpoint
    (config : InjectorConfig) : Option Endpoint :=
  config.topic.map fun topic =>
    .topic topic.inputTopic topic.outputTopic topic.qosDepth

def odomFaultInjector.endpoint := topicEndpoint
def scanFaultInjector.endpoint := topicEndpoint
def jointStateFaultInjector.endpoint := topicEndpoint
def imuFaultInjector.endpoint := topicEndpoint
def twistFaultInjector.endpoint := topicEndpoint
def pointCloudFaultInjector.endpoint := topicEndpoint
def tfFaultInjector.endpoint := topicEndpoint

/- Reading an empty service has no defined behaviour. -/
def triggerServiceFaultInjector.endpoint
    (config : InjectorConfig) : Option Endpoint :=
  config.triggerService.map fun service =>
    .triggerService service.proxyService
      service.targetService

/- What the constructor of a built-in type takes. -/
def endpointForBuiltinInjectorType
    (config : InjectorConfig) : Option Endpoint :=
  if config.type = "odom" then
    odomFaultInjector.endpoint config
  else if config.type = "scan" then
    scanFaultInjector.endpoint config
  else if config.type = "joint_state" then
    jointStateFaultInjector.endpoint config
  else if config.type = "imu" then
    imuFaultInjector.endpoint config
  else if config.type = "twist" then
    twistFaultInjector.endpoint config
  else if config.type = "point_cloud" then
    pointCloudFaultInjector.endpoint config
  else if config.type = "trigger_service" then
    triggerServiceFaultInjector.endpoint config
  else if config.type = "tf" then
    tfFaultInjector.endpoint config
  else none

/- The built-in types that stand in a topic. -/
def isTopicInjectorType (type : String) : Bool :=
  isKnownInjectorType type ∧ type ≠ "trigger_service"

/- A topic type takes the topic and no other endpoint. -/
theorem endpoint_of_isTopicInjectorType
    {config : InjectorConfig}
    (hTopic : isTopicInjectorType config.type = true) :
    endpointForBuiltinInjectorType config =
      topicEndpoint config := by
  unfold isTopicInjectorType isKnownInjectorType at hTopic
  rw [decide_eq_true_iff, decide_eq_true_iff] at hTopic
  unfold endpointForBuiltinInjectorType
  rcases hTopic with ⟨hKnown, hNotService⟩
  rcases hKnown with
    hType | hType | hType | hType | hType | hType | hType |
      hType
  all_goals rw [hType] at hNotService ⊢
  case inr.inr.inr.inr.inr.inr.inl =>
    exact absurd rfl hNotService
  all_goals exact rfl

/- The service type takes the service. -/
theorem endpoint_of_triggerService
    {config : InjectorConfig}
    (hType : config.type = "trigger_service") :
    endpointForBuiltinInjectorType config =
      triggerServiceFaultInjector.endpoint config := by
  unfold endpointForBuiltinInjectorType
  rw [hType]
  exact rfl

------------------------------------------------------------
-- Needed Endpoints
------------------------------------------------------------

/- The injector has the endpoint that its type needs. -/
def HasEndpoint (config : InjectorConfig) : Prop :=
  (isTopicInjectorType config.type = true →
    config.topic.isSome) ∧
    (config.type = "trigger_service" →
      config.triggerService.isSome)

/-
  Having the endpoint is having no constructor read an empty
  optional.
-/
theorem endpoint_isSome_iff (config : InjectorConfig) :
    HasEndpoint config ↔
      (isKnownInjectorType config.type = true →
        (endpointForBuiltinInjectorType config).isSome) := by
  unfold HasEndpoint
  by_cases hService : config.type = "trigger_service"
  · rw [endpoint_of_triggerService hService, hService]
    simp [isTopicInjectorType, isKnownInjectorType,
      triggerServiceFaultInjector.endpoint]
  · by_cases hKnown :
        isKnownInjectorType config.type = true
    · have hTopic :
          isTopicInjectorType config.type = true := by
        simp [isTopicInjectorType, hKnown, hService]
      rw [endpoint_of_isTopicInjectorType hTopic]
      simp [hTopic, hKnown, hService, topicEndpoint]
    · simp [isTopicInjectorType, hKnown, hService]

/-
  Every injector has its endpoint and every built-in
  constructor finds it.
-/
def EndpointsFit (scenario : ScenarioConfig) : Prop :=
  ∀ injector ∈ scenario.injectors,
    HasEndpoint injector ∧
      (isKnownInjectorType injector.type = true →
        (endpointForBuiltinInjectorType injector).isSome)

------------------------------------------------------------
-- Loaded Scenarios
------------------------------------------------------------

section Loaded

variable {Node : Type}
variable {yaml : YamlCpp Node}

/-
  No injector node with the type of a topic injector has a
  `trigger_service` block.
-/
def ServiceBlocksFit
    (yaml : YamlCpp Node)
    (path : String) : Prop :=
  ∀ root nodes,
    yaml.loadFile path = .ok root →
      injectorNodes yaml root = .ok nodes →
        ∀ node ∈ nodes, ∀ type block,
          requiredString yaml node "type" = .ok type →
            isTopicInjectorType type = true →
              yaml.child node "trigger_service" ≠
                .ok (some block)

/- One injector has its endpoint when its node fits. -/
theorem hasEndpoint_iff_of_parsed
    {node : Node}
    {injector : InjectorConfig}
    (hParse : parseInjector yaml node = .ok injector) :
    HasEndpoint injector ↔
      (isTopicInjectorType injector.type = true →
        ∀ block,
          yaml.child node "trigger_service" ≠
            .ok (some block)) := by
  rcases parseInjector_endpoints hParse with
    ⟨_, hService, hTopic⟩
  unfold HasEndpoint
  rw [hService, hTopic]
  unfold AsksForService
  constructor
  · rintro ⟨hNeedsTopic, _⟩ hType block hBlock
    exact hNeedsTopic hType (Or.inl ⟨block, hBlock⟩)
  · intro hNoBlock
    refine ⟨?_, Or.inr⟩
    rintro hType (⟨block, hBlock⟩ | hServiceType)
    · exact hNoBlock hType block hBlock
    · simp [isTopicInjectorType, hServiceType] at hType

/-
  A loaded scenario, accepted or not, gives each injector its
  endpoint exactly when its blocks fit.
-/
theorem endpoints_fit_iff_of_loaded
    {milliseconds : Number → Int}
    {path : String}
    {scenario : ScenarioConfig}
    (hLoad :
      loadScenarioConfig yaml milliseconds path =
        .ok scenario) :
    EndpointsFit scenario ↔ ServiceBlocksFit yaml path := by
  rcases injectors_of_loadScenarioConfig hLoad with
    ⟨root, nodes, hRoot, hNodes, hInjectors⟩
  have hEach :
      EndpointsFit scenario ↔
        ∀ injector ∈ scenario.injectors,
          HasEndpoint injector := by
    refine forall₂_congr ?_
    intro injector _
    rw [← endpoint_isSome_iff, and_self_iff]
  rw [hEach]
  constructor
  · intro hAll root' nodes' hRoot' hNodes' node hNode type
      block hType hTopic
    cases hRoot.symm.trans hRoot'
    cases hNodes.symm.trans hNodes'
    rcases List.Forall₂.exists_of_mem_left hInjectors hNode
      with ⟨injector, hInjector, hParse⟩
    have hSame := (parseInjector_endpoints hParse).1
    cases hType.symm.trans hSame
    exact (hasEndpoint_iff_of_parsed hParse).mp
      (hAll injector hInjector) hTopic block
  · intro hFit injector hInjector
    rcases List.Forall₂.exists_of_mem_right hInjectors
      hInjector with ⟨node, hNode, hParse⟩
    rw [hasEndpoint_iff_of_parsed hParse]
    intro hTopic block
    exact hFit root nodes hRoot hNodes node hNode
      injector.type block (parseInjector_endpoints hParse).1
      hTopic

end Loaded

------------------------------------------------------------
-- A Service Block For Odometry
------------------------------------------------------------

/- Nodes of a file that is already parsed. -/
inductive YamlTree where
| scalar : String → YamlTree
| sequence : List YamlTree → YamlTree
| map : List (String × YamlTree) → YamlTree

namespace YamlTree

/- A lookup in a scalar throws, one in a sequence fails. -/
def child
    (node : YamlTree)
    (key : String) : Except String (Option YamlTree) :=
  match node with
  | .scalar _ =>
      .error ("operator[] call on a scalar (key: \"" ++ key ++
        "\")")
  | .sequence _ => .ok none
  | .map entries => .ok (entries.lookup key)

/- The text of a scalar. -/
def text : YamlTree → Option String
| .scalar text => some text
| _ => none

/- Convert the text of a scalar. -/
def as
    {α : Type}
    (convert : String → Option α)
    (node : YamlTree) : Except String α :=
  match node.text.bind convert with
  | some value => .ok value
  | none => .error "bad conversion"

/- One file, with the library's meaning of its nodes. -/
def library (file : YamlTree) : YamlCpp YamlTree where
  loadFile _ := .ok file
  child := child
  asString := as some
  asDouble := as parseDouble
  asBool := as fun text =>
    if text = "true" then some true
    else if text = "false" then some false
    else none
  asSize := as seedOfText
  isScalar node := node.text.isSome
  scalar node := node.text.getD ""
  isSequence
    | .sequence _ => true
    | _ => false
  elements
    | .sequence nodes => nodes
    | _ => []
  entries
    | .map entries =>
        entries.map fun entry => (.scalar entry.1, entry.2)
    | _ => []

/- An odometry injector with a block for a service. -/
def odomWithService : YamlTree :=
  .map
    [("injector",
      .map
        [ ("id", .scalar "odom"),
          ("type", .scalar "odom"),
          ("trigger_service",
            .map
              [ ("proxy_service", .scalar "/proxy"),
                ("target_service", .scalar "/target") ]) ])]

/- An odometry injector between two topics. -/
def odomWithTopic : YamlTree :=
  .map
    [("injector",
      .map
        [ ("id", .scalar "odom"),
          ("type", .scalar "odom"),
          ("topic",
            .map
              [ ("input_topic", .scalar "/odom_in"),
                ("output_topic", .scalar "/odom") ]) ])]

/- What is parsed from the node with the service block. -/
def odomWithServiceInjector : InjectorConfig :=
  { id := "odom"
    type := "odom"
    triggerService := some
      { proxyService := "/proxy"
        targetService := "/target" } }

/- What is loaded from the file with the topic. -/
def odomWithTopicScenario : ScenarioConfig :=
  { injectors :=
      [ { id := "odom"
          type := "odom"
          topic := some
            { inputTopic := "/odom_in"
              outputTopic := "/odom" } } ] }

/- An accepted injector whose constructor has no topic. -/
theorem accepted_without_endpoint :
    ¬ ∀ (h : HashOrder String) (file : YamlTree)
        (milliseconds : Number → Int) (path : String)
        (scenario : ScenarioConfig),
      loadScenarioConfig (library file) milliseconds path =
          .ok scenario →
        (validateScenario h scenario).ok = true →
          EndpointsFit scenario := by
  intro hAll
  have hFit :=
    hAll .insertion odomWithService (fun _ => 0) ""
      { injectors := [odomWithServiceInjector] } rfl
      (by decide)
  have hEndpoint :=
    (hFit odomWithServiceInjector List.mem_cons_self).2
      (by decide)
  revert hEndpoint
  decide

theorem loaded_with_endpoint :
    EndpointsFit odomWithTopicScenario ↔
      ServiceBlocksFit (library odomWithTopic) "" := by
  have hLoad :
      loadScenarioConfig (library odomWithTopic)
          (fun _ => 0) "" =
        .ok odomWithTopicScenario := rfl
  exact endpoints_fit_iff_of_loaded hLoad

end YamlTree
