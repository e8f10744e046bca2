import FaultInjection.Config.ScenarioLoader
import FaultInjection.Core.CampaignRunner

/-
  Loading a campaign from a YAML file.

  The parser throws on a missing or malformed key, on a
  campaign without positive repeats or a positive timeout and
  on one without anything to vary.

  Key definitions include:
    * `CampaignYaml`
    * `LoadedCampaign`
    * `parseVariant`
    * `parseCampaign`
    * `loadCampaignConfig`
-/

------------------------------------------------------------
-- The YAML Library
------------------------------------------------------------

/- A campaign is also read through 32-bit integers. -/
structure CampaignYaml (Node : Type) extends YamlCpp Node where
  asInt : Node → Except String Int

/- A campaign with the seconds that each run may take. -/
structure LoadedCampaign extends CampaignConfig where
  timeout : Number := .finite 60
deriving DecidableEq

------------------------------------------------------------
-- Variants
------------------------------------------------------------

section Parsing

variable {Node : Type}
variable (yaml : CampaignYaml Node)

def scalarToString (node : Node) : Except String String :=
  if yaml.isScalar node then
    yaml.asString node
  else
    .error "Campaign variant values must be scalar YAML values"

/- The values of a variant, of which there is at least one. -/
def parseValues
    (node : Node) : Except String (List String) := do
  match ← yaml.child node "values" with
  | none => .error "Missing required key: values"
  | some values =>
      if yaml.isSequence values then
        let values ←
          (yaml.elements values).mapM (scalarToString yaml)
        if values.isEmpty then
          .error "Campaign variant values must not be empty"
        else
          .ok values
      else
        .error "Campaign variant values must be a sequence"

def parseVariant
    (node : Node) : Except String CampaignVariant := do
  let faultId ← requiredString yaml.toYamlCpp node "fault_id"
  let key ← requiredString yaml.toYamlCpp node "key"
  let values ← parseValues yaml node
  .ok { faultId := faultId, key := key, values := values }

------------------------------------------------------------
-- Campaigns
------------------------------------------------------------

/- The variants of a campaign, of which there is at least one. -/
def parseVariants
    (node : Node) :
    Except String (List CampaignVariant) := do
  match ← yaml.child node "variants" with
  | none => .error "Missing required key: variants"
  | some variants =>
      if yaml.isSequence variants then
        let variants ←
          (yaml.elements variants).mapM (parseVariant yaml)
        if variants.isEmpty then
          .error "Campaign variants must not be empty"
        else
          .ok variants
      else
        .error "Campaign variants must be a sequence"

/- Both limits are checked after both were read. -/
def checkLimits
    (repeats : Int)
    (timeout : Number) : Except String Unit :=
  if repeats ≤ 0 then
    .error "Campaign repeats must be greater than 0"
  else if timeout.le .zero then
    .error "Campaign timeout must be greater than 0"
  else
    .ok ()

/- The campaign of its block. -/
def parseCampaign
    (node : Node) : Except String LoadedCampaign := do
  let name ← requiredString yaml.toYamlCpp node "name"
  let baseScenario ←
    requiredString yaml.toYamlCpp node "base_scenario"
  let timeout ←
    optionalValue yaml.toYamlCpp yaml.asDouble node "timeout"
  let repeats ←
    optionalValue yaml.toYamlCpp yaml.asInt node "repeats"
  let timeout := timeout.getD (.finite 60)
  let repeats := repeats.getD 1
  checkLimits repeats timeout
  let variants ← parseVariants yaml node
  .ok
    { name := name
      baseScenario := baseScenario
      repeats := repeats
      variants := variants
      timeout := timeout }

/- The campaign of a parsed file. -/
def parseCampaignFile
    (root : Node) : Except String LoadedCampaign := do
  match ← yaml.child root "campaign" with
  | none =>
      .error
        "Campaign file is missing required 'campaign' block"
  | some node => parseCampaign yaml node

def loadCampaignConfig
    (path : String) : Except String LoadedCampaign := do
  let root ← yaml.loadFile path
  parseCampaignFile yaml root

end Parsing
