import Mathlib.Data.List.Sort
import FaultInjection.Foundations.UnorderedMap

/-
  Configuration of one injector and of one fault.

  Key definitions include:
    * `InjectorConfig`
    * `FaultConfig`
    * `describeConfig`
    * `describeFault`
-/

------------------------------------------------------------
-- Injector Configuration
------------------------------------------------------------

structure TopicEndpointConfig where
  inputTopic : String := ""
  outputTopic : String := ""
  qosDepth : Nat := 10
deriving DecidableEq

structure TriggerServiceEndpointConfig where
  proxyService : String := ""
  targetService : String := ""
deriving DecidableEq

/-
  Runtime configuration for one injector. Faults use its `id`
  to target it, and its `type` selects the implementation.
-/
structure InjectorConfig where
  id : String := ""
  type : String := ""
  topic : Option TopicEndpointConfig := none
  triggerService : Option TriggerServiceEndpointConfig := none
  seed : Option Nat := none
deriving DecidableEq

------------------------------------------------------------
-- Fault Configuration
------------------------------------------------------------

/-
  Configuration for one fault. Start and duration count
  milliseconds. The `config` map holds the parameters that
  the injector interprets, as text.
-/
structure FaultConfig where
  id : String := ""
  injectorId : String := ""
  start : Option Int := none
  duration : Option Int := none
  config : UnorderedMap String String := .empty
deriving DecidableEq

------------------------------------------------------------
-- Descriptions
------------------------------------------------------------

/- The order of texts by character codes. -/
def textLe (a b : String) : Bool :=
  ¬ b < a

/- Entries sorted by key, then by value. -/
def entryLe (a b : String × String) : Bool :=
  a.1 < b.1 ∨ (a.1 = b.1 ∧ textLe a.2 b.2)

/- One parameter as `key=value`. -/
def describeEntry (entry : String × String) : String :=
  entry.1 ++ "=" ++ entry.2

/- The parameters of a fault, sorted by key. -/
def describeConfig
    (config : UnorderedMap String String) : String :=
  let entries :=
    config.entries.insertionSort fun a b => entryLe a b
  "config=\x7b" ++
    String.intercalate ", " (entries.map describeEntry) ++
      "\x7d"

/- The schedule and the parameters of a fault. -/
def describeFault (fault : FaultConfig) : String :=
  let schedule :=
    match fault.start with
    | some start =>
        ["scheduled", "start=" ++ toString start ++ "ms"]
    | none => ["manual-only"]
  let window :=
    match fault.duration with
    | some duration =>
        ["duration=" ++ toString duration ++ "ms"]
    | none => []
  String.intercalate ", "
    (schedule ++ window ++ [describeConfig fault.config])

/- The text of one changed parameter. -/
def describeConfigUpdate (key value : String) : String :=
  "config_update=\x7b" ++ key ++ "=" ++ value ++ "\x7d"
