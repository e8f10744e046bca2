import FaultInjection.Foundations.NumberText

/-
  The parameters an injector type accepts and the checks of
  their values.

  There are two checkers. One knows the accepted keys of each
  injector type and the range of each key; the other reads
  the range from a field of the injector's own schema.

  Key definitions include:
    * `FaultConfigField`
    * `validateConfigKeyValue`
    * `validateConfigValue`

  Key theorems include:
    * `validateBounds_eq_none_iff`
    * `accepted_int_iff`
    * `accepted_double_iff`
-/

open NumberText

------------------------------------------------------------
-- Fields
------------------------------------------------------------

structure FaultConfigField where
  key : String := ""
  type : String := ""
  description : String := ""
  minValue : Option ℚ := none
  maxValue : Option ℚ := none
  defaultValue : Option String := none
deriving DecidableEq

/- The field with the key, if the schema has one. -/
def findSchemaField
    (schema : List FaultConfigField)
    (key : String) : Option FaultConfigField :=
  schema.find? fun field => field.key = key

/- The whole text reads as a double. -/
def parseDouble (text : String) : Option Number :=
  match fromChars text.toList with
  | .ok (value, []) => some value
  | _ => none

/- The whole text reads as an int. -/
def parseInt (text : String) : Option Int :=
  match fromCharsInt text.toList with
  | .ok (value, []) => some value
  | _ => none

/- The special texts that a laser scan value may be. -/
def isSpecialFloatValue (value : String) : Bool :=
  value = "inf" ∨ value = "+inf" ∨ value = "-inf" ∨
    value = "nan"

------------------------------------------------------------
-- Accepted Keys
------------------------------------------------------------

def kNumberKeys : List String :=
  [ "x_bias", "y_bias", "z_bias", "yaw_bias_deg",
    "roll_bias_deg", "pitch_bias_deg", "range_bias",
    "sector_min_deg", "sector_max_deg", "velocity_bias",
    "linear_x_scale", "angular_z_scale",
    "angular_velocity_z_bias",
    "linear_acceleration_x_bias",
    "linear_acceleration_y_bias",
    "linear_acceleration_z_bias" ]

def kNonNegativeNumberKeys : List String :=
  [ "x_noise_stddev", "y_noise_stddev",
    "yaw_noise_stddev_deg", "pose_covariance_scale",
    "twist_covariance_scale", "pose_covariance_floor",
    "twist_covariance_floor", "max_linear_x",
    "max_angular_z", "range_noise_stddev",
    "velocity_noise_stddev",
    "angular_velocity_z_noise_stddev",
    "linear_acceleration_x_noise_stddev",
    "linear_acceleration_y_noise_stddev",
    "linear_acceleration_z_noise_stddev",
    "point_dropout_probability",
    "dust_return_probability", "dust_min_range",
    "dust_max_range", "dust_intensity_scale",
    "intensity_scale" ]

def kOdomKeys : List String :=
  [ "drop_probability", "delay_ms", "x_bias", "y_bias",
    "x_noise_stddev", "y_noise_stddev", "yaw_bias_deg",
    "yaw_noise_stddev_deg", "pose_covariance_scale",
    "twist_covariance_scale", "pose_covariance_floor",
    "twist_covariance_floor" ]

def kScanKeys : List String :=
  [ "drop_probability", "delay_ms", "range_bias",
    "range_noise_stddev", "sector_min_deg",
    "sector_max_deg", "sector_value" ]

def kJointStateKeys : List String :=
  [ "drop_probability", "delay_ms", "velocity_bias",
    "velocity_noise_stddev" ]

def kTwistKeys : List String :=
  [ "drop_probability", "delay_ms", "linear_x_scale",
    "angular_z_scale", "max_linear_x", "max_angular_z",
    "force_stop", "stale_replay_enabled",
    "stale_replay_duration_ms" ]

def kPointCloudKeys : List String :=
  [ "drop_probability", "delay_ms",
    "point_dropout_probability", "range_noise_stddev",
    "dust_return_probability", "dust_min_range",
    "dust_max_range", "dust_intensity_scale",
    "intensity_scale" ]

def kImuKeys : List String :=
  [ "drop_probability", "delay_ms",
    "angular_velocity_z_bias",
    "angular_velocity_z_noise_stddev",
    "linear_acceleration_x_bias",
    "linear_acceleration_x_noise_stddev",
    "linear_acceleration_y_bias",
    "linear_acceleration_y_noise_stddev",
    "linear_acceleration_z_bias",
    "linear_acceleration_z_noise_stddev" ]

def kTriggerServiceKeys : List String :=
  ["delay_ms", "force_failure", "failure_message"]

def kTfKeys : List String :=
  [ "parent_frame", "child_frame", "drop_probability",
    "delay_ms", "x_bias", "y_bias", "z_bias",
    "roll_bias_deg", "pitch_bias_deg", "yaw_bias_deg" ]

/- The accepted keys, none for an unknown injector type. -/
def allowedConfigKeysForInjectorType
    (injectorType : String) : List String :=
  if injectorType = "odom" then kOdomKeys
  else if injectorType = "scan" then kScanKeys
  else if injectorType = "joint_state" then kJointStateKeys
  else if injectorType = "imu" then kImuKeys
  else if injectorType = "twist" then kTwistKeys
  else if injectorType = "point_cloud" then kPointCloudKeys
  else if injectorType = "trigger_service" then
    kTriggerServiceKeys
  else if injectorType = "tf" then kTfKeys
  else []

def isAllowedConfigKey
    (injectorType key : String) : Bool :=
  key ∈ allowedConfigKeysForInjectorType injectorType

------------------------------------------------------------
-- Checks By Key
------------------------------------------------------------

/- The text of an error about one parameter. -/
def configError (key problem : String) : String :=
  "config '" ++ key ++ "' " ++ problem

/-
  Check a value by its key and injector type. The result is
  an error text, or none for an accepted value.
-/
def validateConfigKeyValue
    (injectorType key value : String) : Option String :=
  if ¬ isAllowedConfigKey injectorType key then
    some ("key '" ++ key ++
      "' is not valid for injector type '" ++
        injectorType ++ "'")
  else if key = "drop_probability" then
    match parseDouble value with
    | none => some (configError key "must be a number")
    | some parsed =>
        if parsed.lt .zero ∨ Number.lt .one parsed then
          some (configError key "must be between 0 and 1")
        else
          none
  else if key = "delay_ms" ∨
      key = "stale_replay_duration_ms" then
    match parseInt value with
    | none => some (configError key "must be an integer")
    | some parsed =>
        if parsed < 0 then
          some (configError key "must be >= 0")
        else
          none
  else if key = "stale_replay_enabled" ∨
      key = "force_failure" ∨ key = "force_stop" then
    if value ≠ "true" ∧ value ≠ "false" then
      some (configError key "must be 'true' or 'false'")
    else
      none
  else if key = "sector_value" then
    if isSpecialFloatValue value then
      none
    else if (parseDouble value).isNone then
      some
        (configError key
          "must be a number, inf, -inf, or nan")
    else
      none
  else if key = "parent_frame" ∨ key = "child_frame" then
    if value = "" then
      some (configError key "must not be empty")
    else
      none
  else if key ∈ kNonNegativeNumberKeys then
    match parseDouble value with
    | none => some (configError key "must be a number")
    | some parsed =>
        if parsed.lt .zero then
          some (configError key "must be >= 0")
        else
          none
  else if key ∈ kNumberKeys then
    if (parseDouble value).isNone then
      some (configError key "must be a number")
    else
      none
  else
    none

------------------------------------------------------------
-- Checks By Field
------------------------------------------------------------

/- Compare a parsed value with the bounds of a field. -/
def validateBounds
    (field : FaultConfigField)
    (parsed : Number) : Option String :=
  let tooSmall := field.minValue.filter fun bound =>
    parsed.lt (.finite bound)
  let tooLarge := field.maxValue.filter fun bound =>
    Number.lt (.finite bound) parsed
  match tooSmall, tooLarge with
  | some bound, _ =>
      some
        (configError field.key
          ("must be >= " ++ toString6 (.finite bound)))
  | none, some bound =>
      some
        (configError field.key
          ("must be <= " ++ toString6 (.finite bound)))
  | none, none => none

/- Check a value by the type and the bounds of a field. -/
def validateConfigValue
    (field : FaultConfigField)
    (value : String) : Option String :=
  if field.type = "" ∨ field.type = "string" then
    none
  else if field.type = "non_empty_string" then
    if value = "" then
      some (configError field.key "must not be empty")
    else
      none
  else if field.type = "bool" then
    if value = "true" ∨ value = "false" then
      none
    else
      some (configError field.key "must be 'true' or 'false'")
  else if field.type = "special_float" then
    if isSpecialFloatValue value then
      none
    else if (parseDouble value).isNone then
      some
        (configError field.key
          "must be a number, inf, -inf, or nan")
    else
      none
  else if field.type = "int" then
    match parseInt value with
    | none => some (configError field.key "must be an integer")
    | some parsed => validateBounds field (.finite parsed)
  else if field.type = "double" then
    match parseDouble value with
    | none => some (configError field.key "must be a number")
    | some parsed => validateBounds field parsed
  else
    some
      (configError field.key
        ("has unsupported schema type '" ++ field.type ++
          "'"))

/- A number passes if it is on the wrong side of no bound. -/
theorem validateBounds_eq_none_iff
    (field : FaultConfigField)
    (parsed : Number) :
    validateBounds field parsed = none ↔
      (∀ low, field.minValue = some low →
        parsed.lt (.finite low) = false) ∧
        ∀ high, field.maxValue = some high →
          Number.lt (.finite high) parsed = false := by
  have hNone :
      validateBounds field parsed = none ↔
        (field.minValue.filter fun bound =>
            parsed.lt (.finite bound)) = none ∧
          (field.maxValue.filter fun bound =>
            Number.lt (.finite bound) parsed) = none := by
    unfold validateBounds
    cases field.minValue.filter fun bound =>
        parsed.lt (.finite bound) with
    | some low => simp
    | none =>
        cases field.maxValue.filter fun bound =>
            Number.lt (.finite bound) parsed with
        | some high => simp
        | none => simp
  rw [hNone, Option.filter_eq_none_iff,
    Option.filter_eq_none_iff]
  simp only [Bool.not_eq_true]

/- A finite number passes if it is between the bounds. -/
theorem validateBounds_finite_eq_none_iff
    (field : FaultConfigField)
    (q : ℚ) :
    validateBounds field (.finite q) = none ↔
      (∀ low, field.minValue = some low → low ≤ q) ∧
        ∀ high, field.maxValue = some high → q ≤ high := by
  rw [validateBounds_eq_none_iff]
  simp [Number.lt]

theorem accepted_int_iff
    {field : FaultConfigField}
    (hType : field.type = "int")
    (text : String) :
    validateConfigValue field text = none ↔
      ∃ n : Int,
        parseInt text = some n ∧
          validateBounds field (.finite n) = none := by
  unfold validateConfigValue
  simp only [hType, String.reduceEq, or_self, if_false, if_true]
  cases parseInt text with
  | none => simp
  | some n => simp

theorem accepted_double_iff
    {field : FaultConfigField}
    (hType : field.type = "double")
    (text : String) :
    validateConfigValue field text = none ↔
      ∃ x,
        parseDouble text = some x ∧
          validateBounds field x = none := by
  unfold validateConfigValue
  simp only [hType, String.reduceEq, or_self, if_false, if_true]
  cases parseDouble text with
  | none => simp
  | some x => simp

theorem accepted_bool_iff
    {field : FaultConfigField}
    (hType : field.type = "bool")
    (text : String) :
    validateConfigValue field text = none ↔
      text = "true" ∨ text = "false" := by
  unfold validateConfigValue
  simp [hType, or_iff_not_imp_left]

theorem accepted_special_iff
    {field : FaultConfigField}
    (hType : field.type = "special_float")
    (text : String) :
    validateConfigValue field text = none ↔
      isSpecialFloatValue text = true ∨
        ¬ (parseDouble text).isNone = true := by
  unfold validateConfigValue
  simp only [hType, String.reduceEq, or_self, if_false, if_true]
  cases isSpecialFloatValue text with
  | true => simp
  | false =>
      cases parseDouble text with
      | none => simp
      | some x => simp

theorem accepted_nonEmpty_iff
    {field : FaultConfigField}
    (hType : field.type = "non_empty_string")
    (text : String) :
    validateConfigValue field text = none ↔ text ≠ "" := by
  unfold validateConfigValue
  simp [hType]

theorem accepted_string
    {field : FaultConfigField}
    (hType : field.type = "string")
    (text : String) :
    validateConfigValue field text = none := by
  unfold validateConfigValue
  simp [hType]
