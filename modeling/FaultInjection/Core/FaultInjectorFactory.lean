import FaultInjection.Core.ReloadFreshStart
import FaultInjection.Foundations.LastWrites
import FaultInjection.Injectors.Endpoints

/-
  The factory that makes an injector of the class that a
  plugin provides for its type.

  The plugins of this package provide the built-in types. So
  the injectors of these types in an accepted scenario run,
  each as an object of its own class, however the node is
  used and whatever other plugins are installed.

  Key definitions include:
    * `FaultInjectorPlugin`
    * `PluginLoader`
    * `FaultInjectorFactory.loadPlugins`
    * `FaultInjectorFactory.create`
    * `FaultController.createdInjectors`

  Key theorems include:
    * `FaultInjectorFactory.pluginNames_find?_iff`
    * `FaultInjectorFactory.create_of_builtin`
    * `FaultController.shipped_classes_run`
-/

------------------------------------------------------------
-- Plugins
------------------------------------------------------------

/- The classes of injectors. -/
inductive InjectorClass where
| odom : InjectorClass
| scan : InjectorClass
| jointState : InjectorClass
| imu : InjectorClass
| tf : InjectorClass
| twist : InjectorClass
| pointCloud : InjectorClass
| triggerService : InjectorClass
| external : String → InjectorClass
deriving DecidableEq

/- An injector with its class and what it is connected to. -/
structure FaultInjector where
  kind : InjectorClass
  endpoint : Option Endpoint
  base : FaultInjectorBase
deriving DecidableEq

/-
  What making an injector gives. Reading an endpoint that is
  not there has no defined behaviour.
-/
inductive Creation where
| nullptr : Creation
| created : FaultInjector → Creation
| undefined : Creation
deriving DecidableEq

structure FaultInjectorPlugin where
  type : String
  create : InjectorConfig → Creation

/- Construct an injector, which reads its endpoint. -/
def makeShared
    (kind : InjectorClass)
    (endpoint : InjectorConfig → Option Endpoint)
    (config : InjectorConfig) : Creation :=
  match endpoint config with
  | some endpoint =>
      .created
        { kind := kind
          endpoint := some endpoint
          base := { config := config } }
  | none => .undefined

def odomFaultInjectorPlugin : FaultInjectorPlugin where
  type := "odom"
  create := makeShared .odom odomFaultInjector.endpoint

def scanFaultInjectorPlugin : FaultInjectorPlugin where
  type := "scan"
  create := makeShared .scan scanFaultInjector.endpoint

def jointStateFaultInjectorPlugin : FaultInjectorPlugin where
  type := "joint_state"
  create :=
    makeShared .jointState jointStateFaultInjector.endpoint

def imuFaultInjectorPlugin : FaultInjectorPlugin where
  type := "imu"
  create := makeShared .imu imuFaultInjector.endpoint

def tfFaultInjectorPlugin : FaultInjectorPlugin where
  type := "tf"
  create := makeShared .tf tfFaultInjector.endpoint

def twistFaultInjectorPlugin : FaultInjectorPlugin where
  type := "twist"
  create := makeShared .twist twistFaultInjector.endpoint

def pointCloudFaultInjectorPlugin : FaultInjectorPlugin where
  type := "point_cloud"
  create :=
    makeShared .pointCloud pointCloudFaultInjector.endpoint

def triggerServiceFaultInjectorPlugin :
    FaultInjectorPlugin where
  type := "trigger_service"
  create :=
    makeShared .triggerService
      triggerServiceFaultInjector.endpoint

/- The classes that the package declares to the loader. -/
def builtinPlugins : List (String × FaultInjectorPlugin) :=
  [ ("ros2_fault_injection/OdomFaultInjectorPlugin",
      odomFaultInjectorPlugin),
    ("ros2_fault_injection/ScanFaultInjectorPlugin",
      scanFaultInjectorPlugin),
    ("ros2_fault_injection/JointStateFaultInjectorPlugin",
      jointStateFaultInjectorPlugin),
    ("ros2_fault_injection/ImuFaultInjectorPlugin",
      imuFaultInjectorPlugin),
    ("ros2_fault_injection/TfFaultInjectorPlugin",
      tfFaultInjectorPlugin),
    ("ros2_fault_injection/TwistFaultInjectorPlugin",
      twistFaultInjectorPlugin),
    ("ros2_fault_injection/PointCloudFaultInjectorPlugin",
      pointCloudFaultInjectorPlugin),
    ("ros2_fault_injection/" ++
        "TriggerServiceFaultInjectorPlugin",
      triggerServiceFaultInjectorPlugin) ]

/-
  The plugin library: the declared classes in its order, and
  what making an instance of one gives or throws.
-/
structure PluginLoader where
  getDeclaredClasses : List String
  createSharedInstance :
    String → Except String FaultInjectorPlugin

------------------------------------------------------------
-- Factory
------------------------------------------------------------

structure FaultInjectorFactory where
  pluginNamesByType : UnorderedMap String String := .empty

namespace FaultInjectorFactory

/- A class that loads is entered under its type. -/
def typeEntry
    (loader : PluginLoader)
    (pluginName : String) : Option (String × String) :=
  match loader.createSharedInstance pluginName with
  | .ok plugin => some (plugin.type, pluginName)
  | .error _ => none

/- Of the classes of one type the last one stays. -/
def loadPlugins
    (loader : PluginLoader) : FaultInjectorFactory where
  pluginNamesByType :=
    LastWrites.fill (typeEntry loader) .empty
      loader.getDeclaredClasses

/- The plugin is loaded again for each injector. -/
def create
    (loader : PluginLoader)
    (factory : FaultInjectorFactory)
    (config : InjectorConfig) : Creation :=
  match factory.pluginNamesByType.find? config.type with
  | none => .nullptr
  | some pluginName =>
      match loader.createSharedInstance pluginName with
      | .ok plugin => plugin.create config
      | .error _ => .nullptr

/- An injector is made for the configuration. -/
def creates
    (loader : PluginLoader)
    (factory : FaultInjectorFactory)
    (config : InjectorConfig) : Bool :=
  match factory.create loader config with
  | .created _ => true
  | _ => false

end FaultInjectorFactory

namespace FaultController

/- Enter a new injector; one that was not made is skipped. -/
def enterCreated
    (loader : PluginLoader)
    (factory : FaultInjectorFactory)
    (injectors : UnorderedMap String FaultInjector)
    (config : InjectorConfig) :
    Option (UnorderedMap String FaultInjector) :=
  match factory.create loader config with
  | .nullptr => some injectors
  | .created injector =>
      some (injectors.insert config.id injector)
  | .undefined => none

/- The loop of `create_injectors`, with the real factory. -/
def createdInjectors
    (loader : PluginLoader)
    (factory : FaultInjectorFactory)
    (configs : List InjectorConfig) :
    Option (UnorderedMap String FaultInjector) :=
  configs.foldlM (enterCreated loader factory) .empty

end FaultController

------------------------------------------------------------
-- Shipped Plugins
------------------------------------------------------------

/-
  The package is installed: its classes are declared and load,
  and other plugins have other types and use the endpoints
  that they are given.
-/
structure PluginLoader.ShipsBuiltins
    (loader : PluginLoader) : Prop where
  declared :
    ∀ entry ∈ builtinPlugins,
      entry.1 ∈ loader.getDeclaredClasses
  loads :
    ∀ entry ∈ builtinPlugins,
      loader.createSharedInstance entry.1 = .ok entry.2
  otherType :
    ∀ pluginName plugin,
      loader.createSharedInstance pluginName = .ok plugin →
        pluginName ∉ builtinPlugins.map Prod.fst →
          isKnownInjectorType plugin.type = false
  otherCreates :
    ∀ pluginName plugin,
      loader.createSharedInstance pluginName = .ok plugin →
        pluginName ∉ builtinPlugins.map Prod.fst →
          ∀ config,
            plugin.create config = .nullptr ∨
              ∃ injector,
                plugin.create config = .created injector ∧
                  injector.base = { config := config }

/- The package has a plugin for each built-in type. -/
theorem isKnownInjectorType_iff_plugin
    {type : String} :
    isKnownInjectorType type = true ↔
      ∃ entry ∈ builtinPlugins, entry.2.type = type := by
  constructor
  · intro hKnown
    refine builtinInjectorType_cases
      (P := fun type =>
        ∃ entry ∈ builtinPlugins, entry.2.type = type)
      ?_ ?_ ?_ ?_ ?_ ?_ ?_ ?_ hKnown
    all_goals decide
  · rintro ⟨entry, hEntry, rfl⟩
    have hAll :
        ∀ entry ∈ builtinPlugins,
          isKnownInjectorType entry.2.type = true := by
      decide
    exact hAll entry hEntry

/- Two of its plugins with one type are the same. -/
theorem builtinPlugins_type_inj
    {a b : String × FaultInjectorPlugin}
    (hA : a ∈ builtinPlugins)
    (hB : b ∈ builtinPlugins)
    (hType : a.2.type = b.2.type) :
    a = b := by
  have hDistinct :
      (builtinPlugins.map fun entry => entry.2.type).Nodup := by
    decide
  exact List.inj_on_of_nodup_map hDistinct hA hB hType

/-
  A plugin of the package makes its injector if the endpoint
  that the type needs is there.
-/
theorem builtin_creates
    {entry : String × FaultInjectorPlugin}
    {config : InjectorConfig}
    (hEntry : entry ∈ builtinPlugins)
    (hType : config.type = entry.2.type)
    (hEndpoint : HasEndpoint config) :
    ∃ injector,
      entry.2.create config = .created injector ∧
        injector.base = { config := config } ∧
          injector.endpoint =
            endpointForBuiltinInjectorType config := by
  have hKnown : isKnownInjectorType config.type = true :=
    isKnownInjectorType_iff_plugin.mpr
      ⟨entry, hEntry, hType.symm⟩
  have hSome := (endpoint_isSome_iff config).mp hEndpoint hKnown
  rcases Option.isSome_iff_exists.mp hSome with
    ⟨endpoint, hReads⟩
  have hEach :
      ∀ entry ∈ builtinPlugins, config.type = entry.2.type →
        ∃ kind reads,
          entry.2.create = makeShared kind reads ∧
            reads config =
              endpointForBuiltinInjectorType config := by
    intro entry hEntry hType
    unfold builtinPlugins at hEntry
    simp only [List.mem_cons, List.not_mem_nil, or_false]
      at hEntry
    rcases hEntry with
      rfl | rfl | rfl | rfl | rfl | rfl | rfl | rfl
    all_goals
      refine ⟨_, _, rfl, ?_⟩
      unfold endpointForBuiltinInjectorType
      rw [hType]
      rfl
  rcases hEach entry hEntry hType with
    ⟨kind, reads, hCreate, hSame⟩
  refine
    ⟨{ kind := kind
       endpoint := some endpoint
       base := { config := config } }, ?_, rfl, hReads.symm⟩
  rw [hCreate, makeShared, hSame, hReads]

namespace FaultInjectorFactory

section Shipped

variable {start now : PluginLoader}
variable {config : InjectorConfig}

/- The class in force for a type is the last one that loads. -/
theorem pluginNames_find?_iff
    {loader : PluginLoader}
    {type pluginName : String} :
    (loadPlugins loader).pluginNamesByType.find? type =
        some pluginName ↔
      LastWrites.IsLast (typeEntry loader)
        loader.getDeclaredClasses type pluginName :=
  LastWrites.find?_fill_empty_iff

theorem typeEntry_eq_some_iff
    {loader : PluginLoader}
    {pluginName type other : String} :
    typeEntry loader pluginName = some (type, other) ↔
      other = pluginName ∧
        ∃ plugin,
          loader.createSharedInstance pluginName =
              .ok plugin ∧
            plugin.type = type := by
  unfold typeEntry
  cases loader.createSharedInstance pluginName with
  | error message => simp
  | ok plugin => simp [and_comm, eq_comm]

/- Only the package provides its own types. -/
theorem builtin_of_typeEntry
    (hStart : start.ShipsBuiltins)
    {entry : String × FaultInjectorPlugin}
    (hEntry : entry ∈ builtinPlugins)
    {pluginName other : String}
    (hTypeEntry :
      typeEntry start pluginName =
        some (entry.2.type, other)) :
    other = entry.1 := by
  rcases typeEntry_eq_some_iff.mp hTypeEntry with
    ⟨hSame, plugin, hLoads, hType⟩
  subst hSame
  by_cases hBuiltin : other ∈ builtinPlugins.map Prod.fst
  · rcases List.mem_map.mp hBuiltin with
      ⟨found, hFound, hName⟩
    subst hName
    rw [hStart.loads found hFound, Except.ok.injEq] at hLoads
    subst hLoads
    exact
      congrArg Prod.fst
        (builtinPlugins_type_inj hFound hEntry hType)
  · have hKnown : isKnownInjectorType plugin.type = true :=
      isKnownInjectorType_iff_plugin.mpr
        ⟨entry, hEntry, hType.symm⟩
    rw [hStart.otherType other plugin hLoads hBuiltin]
      at hKnown
    cases hKnown

theorem find?_builtin
    (hStart : start.ShipsBuiltins)
    {entry : String × FaultInjectorPlugin}
    (hEntry : entry ∈ builtinPlugins) :
    (loadPlugins start).pluginNamesByType.find?
        entry.2.type =
      some entry.1 := by
  rw [pluginNames_find?_iff, LastWrites.isLast_iff_of_agree]
  · refine ⟨entry.1, hStart.declared entry hEntry, ?_⟩
    rw [typeEntry_eq_some_iff]
    exact ⟨rfl, entry.2, hStart.loads entry hEntry, rfl⟩
  · intro x _ y _ a b hX hY
    rw [builtin_of_typeEntry hStart hEntry hX,
      builtin_of_typeEntry hStart hEntry hY]

/- So a built-in type is made by the plugin of the package. -/
theorem create_of_builtin
    (hStart : start.ShipsBuiltins)
    (hNow : now.ShipsBuiltins)
    {entry : String × FaultInjectorPlugin}
    (hEntry : entry ∈ builtinPlugins)
    (hType : config.type = entry.2.type) :
    (loadPlugins start).create now config =
      entry.2.create config := by
  unfold create
  simp only [hType, find?_builtin hStart hEntry,
    hNow.loads entry hEntry]

/-
  Nothing undefined happens, and what is made has the
  configuration that was given.
-/
theorem create_cases
    (hStart : start.ShipsBuiltins)
    (hNow : now.ShipsBuiltins)
    (hEndpoint : HasEndpoint config) :
    (loadPlugins start).create now config = .nullptr ∨
      ∃ injector,
        (loadPlugins start).create now config =
            .created injector ∧
          injector.base = { config := config } := by
  by_cases hKnown : isKnownInjectorType config.type = true
  · rcases isKnownInjectorType_iff_plugin.mp hKnown with
      ⟨entry, hEntry, hType⟩
    rw [create_of_builtin hStart hNow hEntry hType.symm]
    rcases builtin_creates hEntry hType.symm hEndpoint with
      ⟨injector, hCreate, hBase, _⟩
    exact Or.inr ⟨injector, hCreate, hBase⟩
  · unfold create
    cases hFind :
        (loadPlugins start).pluginNamesByType.find?
          config.type with
    | none => exact Or.inl rfl
    | some pluginName =>
        cases hLoads :
            now.createSharedInstance pluginName with
        | error message => simp [hLoads]
        | ok plugin =>
            simp only [hLoads]
            refine
              hNow.otherCreates pluginName plugin hLoads ?_
                config
            intro hBuiltin
            rcases List.mem_map.mp hBuiltin with
              ⟨entry, hEntry, hName⟩
            subst hName
            rcases
                (pluginNames_find?_iff.mp hFind).mem with
              ⟨x, _, hWrite⟩
            rcases typeEntry_eq_some_iff.mp hWrite with
              ⟨hSame, loaded, hLoaded, hType⟩
            subst hSame
            rw [hStart.loads entry hEntry,
              Except.ok.injEq] at hLoaded
            subst hLoaded
            exact
              hKnown
                (isKnownInjectorType_iff_plugin.mpr
                  ⟨entry, hEntry, hType⟩)

end Shipped

end FaultInjectorFactory

------------------------------------------------------------
-- Created Injectors
------------------------------------------------------------

namespace FaultController

open FaultInjectorFactory Transition

section Created

variable {loader : PluginLoader}
variable {factory : FaultInjectorFactory}
variable {configs : List InjectorConfig}

/- What the loop stores for a configuration. -/
def injectorEntry
    (loader : PluginLoader)
    (factory : FaultInjectorFactory)
    (config : InjectorConfig) :
    Option (String × FaultInjector) :=
  match factory.create loader config with
  | .created injector => some (config.id, injector)
  | _ => none

theorem injectorEntry_eq_some_iff
    {config : InjectorConfig}
    {key : String}
    {injector : FaultInjector} :
    injectorEntry loader factory config =
        some (key, injector) ↔
      config.id = key ∧
        factory.create loader config = .created injector := by
  unfold injectorEntry
  cases factory.create loader config with
  | nullptr => simp
  | created made => simp
  | undefined => simp

/- If nothing undefined happens the loop fills the map. -/
theorem createdInjectors_eq
    (hDefined :
      ∀ config ∈ configs,
        factory.create loader config ≠ .undefined) :
    createdInjectors loader factory configs =
      some
        (LastWrites.fill (injectorEntry loader factory) .empty
          configs) := by
  unfold createdInjectors LastWrites.fill
  generalize
    (UnorderedMap.empty : UnorderedMap String FaultInjector) =
      injectors
  induction configs generalizing injectors with
  | nil => rfl
  | cons config configs ih =>
      have hRest := ih fun c hMember =>
        hDefined c (by simp [hMember])
      have hStep :
          enterCreated loader factory injectors config =
            some
              (LastWrites.put (injectorEntry loader factory)
                injectors config) := by
        have hFirst := hDefined config (by simp)
        unfold enterCreated LastWrites.put injectorEntry
        cases hCreate : factory.create loader config with
        | nullptr => rfl
        | created injector => rfl
        | undefined => exact absurd hCreate hFirst
      rw [List.foldlM_cons, hStep, Option.bind_eq_bind,
        Option.bind_some, hRest, List.foldl_cons]

/- With distinct ids each injector stands under its own. -/
theorem find?_createdInjectors_iff
    (hDistinct : (configs.map InjectorConfig.id).Nodup)
    {key : String}
    {injector : FaultInjector} :
    (LastWrites.fill (injectorEntry loader factory) .empty
          configs).find? key =
        some injector ↔
      ∃ config ∈ configs,
        config.id = key ∧
          factory.create loader config =
            .created injector := by
  rw [LastWrites.find?_fill_empty_iff,
    LastWrites.isLast_iff_of_agree]
  · simp only [injectorEntry_eq_some_iff]
  · intro a hA b hB first second hFirst hSecond
    rcases injectorEntry_eq_some_iff.mp hFirst with
      ⟨hKeyA, hMadeA⟩
    rcases injectorEntry_eq_some_iff.mp hSecond with
      ⟨hKeyB, hMadeB⟩
    have hSame : a = b :=
      List.inj_on_of_nodup_map hDistinct hA hB
        (hKeyA.trans hKeyB.symm)
    subst hSame
    rw [hMadeA, Creation.created.injEq] at hMadeB
    exact hMadeB

end Created

------------------------------------------------------------
-- The Whole Run
------------------------------------------------------------

section Runs

variable {h : HashOrder String}
variable {factory : InjectorConfig → Bool}
variable {scenario : ScenarioConfig}
variable {c t s : FaultController}

/- The loaded scenario has the injectors of the first one. -/
structure SameLayout
    (h : HashOrder String)
    (scenario : ScenarioConfig)
    (c : FaultController) : Prop where
  accepted : (validateScenario h c.scenario).ok = true
  injectors : c.scenario.injectors.Perm scenario.injectors

theorem SameLayout.step
    {a : Action}
    (hLayout : SameLayout h scenario c)
    (hStep : c.step h a = some t) :
    SameLayout h scenario t := by
  by_cases hReload : ∃ content, a = .reloadScenario content
  · rcases hReload with ⟨content, hContent⟩
    subst hContent
    rw [FaultController.step, Option.some.injEq] at hStep
    rcases reloadScenario_cases
        (h := h) (c := c) content with
      ⟨result, _, hDone⟩ | ⟨newScenario, hCheck, hApply⟩
    · rw [hDone, Outcome.state_done] at hStep
      rw [← hStep]
      exact hLayout
    · rw [hApply] at hStep
      rcases checkReload_eq_ok_iff.mp hCheck with
        ⟨_, hOk, hCompatible⟩
      have hPerm :=
        (compatible_iff_perm h c newScenario
          hLayout.accepted hOk).mp hCompatible
      rw [← hStep]
      constructor
      · rw [applyReload_scenario]
        exact hOk
      · rw [applyReload_scenario]
        exact hPerm.trans hLayout.injectors
  · have hScenario :=
      scenario_step
        (fun content hSame => hReload ⟨content, hSame⟩) hStep
    constructor
    · rw [hScenario]
      exact hLayout.accepted
    · rw [hScenario]
      exact hLayout.injectors

/- An injector runs with the configuration that lists it. -/
theorem config_of_started
    (hOk : (validateScenario h scenario).ok = true)
    (hStarted : Started h factory scenario c)
    {config : InjectorConfig}
    (hMember : config ∈ scenario.injectors)
    (hCreated : factory config = true) :
    (c.injector? config.id).map FaultInjectorBase.config =
      some config := by
  have hRuns :
      (c.injector? config.id).isSome = true := by
    rw [(runsCreated_of_started hOk hStarted).runs,
      scenario_of_started hStarted]
    exact ⟨config, hMember, rfl, hCreated⟩
  rcases Option.isSome_iff_exists.mp hRuns with
    ⟨injector, hInjector⟩
  have hListed :
      Configured
        (fun key config =>
          config ∈ scenario.injectors ∧ config.id = key)
        c :=
    configured_of_started
      (fun config hConfig => ⟨hConfig, rfl⟩) hStarted
  rcases hListed config.id injector hInjector with
    ⟨hOther, hId⟩
  have hSame : injector.config = config :=
    List.inj_on_of_nodup_map (nodup_injector_ids_of_ok hOk)
      hOther hMember hId
  rw [hInjector, Option.map_some, hSame]

/- The map holds what the package makes for it. -/
def MadeByPackage
    (injectors : UnorderedMap String FaultInjector)
    (config : InjectorConfig) : Prop :=
  ∃ entry ∈ builtinPlugins, ∃ injector,
    entry.2.type = config.type ∧
      entry.2.create config = .created injector ∧
        injectors.find? config.id = some injector

/- The controller runs the injectors of the map. -/
def RunsInjectors
    (c : FaultController)
    (injectors : UnorderedMap String FaultInjector) : Prop :=
  ∀ key,
    (c.injector? key).map FaultInjectorBase.config =
      (injectors.find? key).map fun injector =>
        injector.base.config

section Shipped

variable {start now : PluginLoader}

/- A started controller runs what the real loop creates. -/
theorem runsInjectors_of_started
    (hStart : start.ShipsBuiltins)
    (hNow : now.ShipsBuiltins)
    (hOk : (validateScenario h scenario).ok = true)
    (hFit : EndpointsFit scenario)
    (hStarted :
      Started h ((loadPlugins start).creates now) scenario c) :
    RunsInjectors c
      (LastWrites.fill
        (injectorEntry now (loadPlugins start)) .empty
        scenario.injectors) := by
  have hFind :
      ∀ key injector,
        (LastWrites.fill
          (injectorEntry now (loadPlugins start)) .empty
          scenario.injectors).find? key =
            some injector ↔
          ∃ config ∈ scenario.injectors,
            config.id = key ∧
              (loadPlugins start).create now config =
                .created injector :=
    fun _ _ =>
      find?_createdInjectors_iff (nodup_injector_ids_of_ok hOk)
  intro key
  cases hCase :
      (LastWrites.fill
        (injectorEntry now (loadPlugins start)) .empty
        scenario.injectors).find? key with
  | some injector =>
      rcases (hFind key injector).mp hCase with
        ⟨config, hMember, hKey, hCreate⟩
      subst hKey
      have hCreated :
          (loadPlugins start).creates now config = true := by
        unfold creates
        rw [hCreate]
      rw [config_of_started hOk hStarted hMember hCreated]
      rcases create_cases hStart hNow
          (hFit config hMember).1 with
        hNull | ⟨made, hMade, hBase⟩
      · rw [hCreate] at hNull
        cases hNull
      · rw [hCreate, Creation.created.injEq] at hMade
        subst hMade
        rw [Option.map_some, hBase]
  | none =>
      rw [Option.map_none, Option.map_eq_none_iff,
        ← Option.not_isSome_iff_eq_none,
        (runsCreated_of_started hOk hStarted).runs,
        scenario_of_started hStarted]
      rintro ⟨config, hMember, hKey, hCreated⟩
      unfold creates at hCreated
      cases hCreate :
          (loadPlugins start).create now config with
      | nullptr =>
          rw [hCreate] at hCreated
          cases hCreated
      | undefined =>
          rw [hCreate] at hCreated
          cases hCreated
      | created injector =>
          rw [(hFind key injector).mpr
            ⟨config, hMember, hKey, hCreate⟩] at hCase
          cases hCase

/-
  With the package installed a node started for an accepted
  scenario whose injectors have their endpoints never reads a
  missing one. In every state that it reaches it runs exactly
  what was created, each built-in type as its own class, and
  no fault of such an injector is left out.
-/
theorem shipped_classes_run
    (hStart : start.ShipsBuiltins)
    (hNow : now.ShipsBuiltins)
    (hOk : (validateScenario h scenario).ok = true)
    (hFit : EndpointsFit scenario)
    {actions : List Action}
    (hStarted :
      Started h ((loadPlugins start).creates now) scenario c)
    (hRun : run (step h) c actions = some s) :
    ∃ injectors,
      createdInjectors now (loadPlugins start)
            scenario.injectors =
          some injectors ∧
        s.RunsInjectors injectors ∧
          (∀ config ∈ scenario.injectors,
            isKnownInjectorType config.type = true →
              MadeByPackage injectors config) ∧
            ∀ fault ∈ s.scenario.faults, ∀ target,
              s.scenario.findInjector fault.injectorId =
                  some target →
                isKnownInjectorType target.type = true →
                  s.hasFault fault.injectorId fault.id =
                    true := by
  let injectors :=
    LastWrites.fill (injectorEntry now (loadPlugins start))
      .empty scenario.injectors
  have hDefined :
      ∀ config ∈ scenario.injectors,
        (loadPlugins start).create now config ≠
          .undefined := by
    intro config hMember hUndefined
    rcases create_cases hStart hNow
        (hFit config hMember).1 with
      hNull | ⟨made, hMade, _⟩
    · rw [hUndefined] at hNull
      cases hNull
    · rw [hUndefined] at hMade
      cases hMade
  have hMade :
      ∀ config ∈ scenario.injectors,
        isKnownInjectorType config.type = true →
          MadeByPackage injectors config := by
    intro config hMember hKnown
    rcases isKnownInjectorType_iff_plugin.mp hKnown with
      ⟨entry, hEntry, hType⟩
    rcases builtin_creates hEntry hType.symm
        (hFit config hMember).1 with
      ⟨injector, hCreate, _, _⟩
    refine ⟨entry, hEntry, injector, hType, hCreate, ?_⟩
    rw [find?_createdInjectors_iff
      (nodup_injector_ids_of_ok hOk)]
    refine ⟨config, hMember, rfl, ?_⟩
    rw [create_of_builtin hStart hNow hEntry hType.symm]
    exact hCreate
  have hSame : SameInjectors s c :=
    run_invariant (I := fun s => SameInjectors s c)
      (P := fun _ _ => True)
      (fun _ _ _ hState _ hStep =>
        (sameInjectors_step hStep).trans hState)
      (fun _ => rfl)
      (along_of_forall (fun _ _ => True.intro) c actions)
      hRun
  have hRuns : s.RunsInjectors injectors := by
    intro key
    rw [hSame key]
    exact
      runsInjectors_of_started hStart hNow hOk hFit hStarted
        key
  have hLayout : SameLayout h scenario s := by
    refine
      run_invariant (I := SameLayout h scenario)
        (P := fun _ _ => True)
        (fun _ _ _ hState _ hStep => hState.step hStep)
        ?_
        (along_of_forall (fun _ _ => True.intro) c actions)
        hRun
    have hScenario := scenario_of_started hStarted
    constructor
    · rw [hScenario]
      exact hOk
    · rw [hScenario]
  refine
    ⟨injectors, createdInjectors_eq hDefined, hRuns, hMade,
      ?_⟩
  intro fault hFault target hTarget hKnown
  have hFaithful := faithful_of_run hOk hStarted hRun
  rw [hFaithful.faults]
  refine ⟨?_, fault, hFault, rfl, rfl⟩
  rcases ScenarioConfig.mem_of_findInjector hTarget with
    ⟨hMember, hId⟩
  rcases hMade target
      (hLayout.injectors.mem_iff.mp hMember) hKnown with
    ⟨_, _, injector, _, _, hFind⟩
  have hKey := hRuns fault.injectorId
  rw [← hId, hFind, Option.map_some] at hKey
  rw [← hId]
  have hSome := congrArg Option.isSome hKey
  simpa using hSome

end Shipped

end Runs

end FaultController

------------------------------------------------------------
-- An Installed Package
------------------------------------------------------------

namespace FaultController.InstalledPackage

open FaultInjectorFactory WatchedRun

/- A plugin of another package, for another type. -/
def batteryPlugin : String × FaultInjectorPlugin :=
  ( "battery_faults/BatteryFaultInjectorPlugin",
    { type := "battery_state"
      create := fun config =>
        .created
          { kind := .external "battery_state"
            endpoint := none
            base := { config := config } } } )

def plugins : List (String × FaultInjectorPlugin) :=
  batteryPlugin :: builtinPlugins

def loader : PluginLoader where
  getDeclaredClasses := plugins.map Prod.fst
  createSharedInstance := fun pluginName =>
    match plugins.lookup pluginName with
    | some plugin => .ok plugin
    | none => .error "class is not declared"

theorem ships : loader.ShipsBuiltins := by
  have hLoads :
      ∀ pluginName plugin,
        loader.createSharedInstance pluginName = .ok plugin →
          pluginName ∉ builtinPlugins.map Prod.fst →
            plugin = batteryPlugin.2 := by
    intro pluginName plugin hLoad hOther
    have hLookup : plugins.lookup pluginName = some plugin := by
      cases hCase : plugins.lookup pluginName with
      | none => simp [loader, hCase] at hLoad
      | some found =>
          simp only [loader, hCase, Except.ok.injEq] at hLoad
          rw [hLoad]
    have hMember : (pluginName, plugin) ∈ plugins := by
      rcases List.lookup_eq_some_iff.mp hLookup with
        ⟨before, after, hSplit, _⟩
      rw [hSplit]
      simp
    rcases List.mem_cons.mp hMember with hFirst | hBuiltin
    · exact congrArg Prod.snd hFirst
    · exact
        absurd (List.mem_map_of_mem (f := Prod.fst) hBuiltin)
          hOther
  constructor
  · decide
  · intro entry hEntry
    unfold builtinPlugins at hEntry
    simp only [List.mem_cons, List.not_mem_nil, or_false]
      at hEntry
    rcases hEntry with
      rfl | rfl | rfl | rfl | rfl | rfl | rfl | rfl
    all_goals rfl
  · intro pluginName plugin hLoad hOther
    rw [hLoads pluginName plugin hLoad hOther]
    decide
  · intro pluginName plugin hLoad hOther config
    rw [hLoads pluginName plugin hLoad hOther]
    exact Or.inr ⟨_, rfl, rfl⟩

theorem shipped_classes_run_after_reload :
    ∃ injectors,
      createdInjectors loader (loadPlugins loader)
            WatchedRun.scenario.injectors =
          some injectors ∧
        last.RunsInjectors injectors ∧
          (∀ config ∈ WatchedRun.scenario.injectors,
            isKnownInjectorType config.type = true →
              MadeByPackage injectors config) ∧
            ∀ fault ∈ last.scenario.faults, ∀ target,
              last.scenario.findInjector fault.injectorId =
                  some target →
                isKnownInjectorType target.type = true →
                  last.hasFault fault.injectorId fault.id =
                    true := by
  have hStarted :
      Started .insertion
        ((loadPlugins loader).creates loader)
        WatchedRun.scenario started :=
    ⟨0, 0, by rfl⟩
  have hFit : EndpointsFit WatchedRun.scenario := by
    intro config hMember
    rw [← endpoint_isSome_iff, and_self_iff]
    have hConfig : config = injector := by
      simpa [WatchedRun.scenario] using hMember
    rw [hConfig]
    exact ⟨fun _ => rfl, by decide⟩
  exact
    shipped_classes_run ships ships (by decide +kernel) hFit
      hStarted run_actions

end FaultController.InstalledPackage
