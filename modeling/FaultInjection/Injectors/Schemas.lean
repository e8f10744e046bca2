import FaultInjection.Config.FaultConfigSchema
import FaultInjection.Foundations.UnorderedMap

/-
  The parameters that each built-in injector declares.

  Key definitions include:
    * `addField`
    * `schemaForBuiltinInjectorType`

  Key theorems include:
    * `builtinInjectorType_cases`
    * `nodup_schema_keys`
    * `findSchemaField_eq_some_iff`
-/

------------------------------------------------------------
-- Declared Parameters
------------------------------------------------------------

/- One declared parameter with its bounds and its default. -/
def addField
    (key type description : String)
    (minValue maxValue : Option ℚ)
    (defaultValue : Option String) : FaultConfigField where
  key := key
  type := type
  description := description
  minValue := minValue
  maxValue := maxValue
  defaultValue := defaultValue

def odomFaultInjector.staticConfigSchema :
    List FaultConfigField :=
  [ addField "drop_probability" "double"
        "Probability that an incoming message is dropped."
        (some 0) (some 1) (some "0.0"),
    addField "delay_ms" "int"
        ("Delay applied before publishing the message, " ++
          "in milliseconds.")
        (some 0) none (some "0"),
    addField "x_bias" "double"
        "Additive bias applied to odometry pose x."
        none none (some "0.0"),
    addField "y_bias" "double"
        "Additive bias applied to odometry pose y."
        none none (some "0.0"),
    addField "yaw_bias_deg" "double"
        ("Additive yaw bias applied to odometry " ++
          "orientation, in degrees.")
        none none (some "0.0"),
    addField "yaw_noise_stddev_deg" "double"
        ("Standard deviation of Gaussian noise applied " ++
          "to odometry yaw, in degrees.")
        (some 0) none (some "0.0"),
    addField "x_noise_stddev" "double"
        ("Standard deviation of Gaussian noise applied " ++
          "to odometry pose x.")
        (some 0) none (some "0.0"),
    addField "y_noise_stddev" "double"
        ("Standard deviation of Gaussian noise applied " ++
          "to odometry pose y.")
        (some 0) none (some "0.0"),
    addField "pose_covariance_scale" "double"
        ("Multiplier applied to every odometry pose " ++
          "covariance entry.")
        (some 0) none (some "1.0"),
    addField "twist_covariance_scale" "double"
        ("Multiplier applied to every odometry twist " ++
          "covariance entry.")
        (some 0) none (some "1.0"),
    addField "pose_covariance_floor" "double"
        ("Minimum value applied to every odometry pose " ++
          "covariance entry.")
        (some 0) none (some "0.0"),
    addField "twist_covariance_floor" "double"
        ("Minimum value applied to every odometry " ++
          "twist covariance entry.")
        (some 0) none (some "0.0") ]

def scanFaultInjector.staticConfigSchema :
    List FaultConfigField :=
  [ addField "drop_probability" "double"
        "Probability that an incoming message is dropped."
        (some 0) (some 1) (some "0.0"),
    addField "delay_ms" "int"
        ("Delay applied before publishing the message, " ++
          "in milliseconds.")
        (some 0) none (some "0"),
    addField "range_bias" "double"
        "Additive bias applied to each laser scan range."
        none none (some "0.0"),
    addField "range_noise_stddev" "double"
        ("Standard deviation of Gaussian noise applied " ++
          "to laser scan ranges.")
        (some 0) none (some "0.0"),
    addField "sector_min_deg" "double"
        ("Start angle of the affected laser scan " ++
          "sector, in degrees.")
        none none (some "0.0"),
    addField "sector_max_deg" "double"
        ("End angle of the affected laser scan sector, " ++
          "in degrees.")
        none none (some "0.0"),
    addField "sector_value" "special_float"
        ("Replacement range value for points inside " ++
          "the affected sector.")
        none none (some "inf") ]

def jointStateFaultInjector.staticConfigSchema :
    List FaultConfigField :=
  [ addField "drop_probability" "double"
        "Probability that an incoming message is dropped."
        (some 0) (some 1) (some "0.0"),
    addField "delay_ms" "int"
        ("Delay applied before publishing the message, " ++
          "in milliseconds.")
        (some 0) none (some "0"),
    addField "velocity_bias" "double"
        "Additive bias applied to every joint velocity."
        none none (some "0.0"),
    addField "velocity_noise_stddev" "double"
        ("Standard deviation of Gaussian noise applied " ++
          "to joint velocities.")
        (some 0) none (some "0.0") ]

def imuFaultInjector.staticConfigSchema :
    List FaultConfigField :=
  [ addField "drop_probability" "double"
        "Probability that an incoming message is dropped."
        (some 0) (some 1) (some "0.0"),
    addField "delay_ms" "int"
        ("Delay applied before publishing the message, " ++
          "in milliseconds.")
        (some 0) none (some "0"),
    addField "angular_velocity_z_bias" "double"
        "Additive bias applied to IMU angular velocity z."
        none none (some "0.0"),
    addField "angular_velocity_z_noise_stddev" "double"
        ("Standard deviation of Gaussian noise applied " ++
          "to IMU angular velocity z.")
        (some 0) none (some "0.0"),
    addField "linear_acceleration_x_bias" "double"
        ("Additive bias applied to IMU linear " ++
          "acceleration x.")
        none none (some "0.0"),
    addField "linear_acceleration_y_bias" "double"
        ("Additive bias applied to IMU linear " ++
          "acceleration y.")
        none none (some "0.0"),
    addField "linear_acceleration_z_bias" "double"
        ("Additive bias applied to IMU linear " ++
          "acceleration z.")
        none none (some "0.0"),
    addField "linear_acceleration_x_noise_stddev" "double"
        ("Standard deviation of Gaussian noise applied " ++
          "to IMU linear acceleration x.")
        (some 0) none (some "0.0"),
    addField "linear_acceleration_y_noise_stddev" "double"
        ("Standard deviation of Gaussian noise applied " ++
          "to IMU linear acceleration y.")
        (some 0) none (some "0.0"),
    addField "linear_acceleration_z_noise_stddev" "double"
        ("Standard deviation of Gaussian noise applied " ++
          "to IMU linear acceleration z.")
        (some 0) none (some "0.0") ]

def twistFaultInjector.staticConfigSchema :
    List FaultConfigField :=
  [ addField "drop_probability" "double"
        "Probability that an incoming command is dropped."
        (some 0) (some 1) (some "0.0"),
    addField "delay_ms" "int"
        ("Delay applied before publishing the command, " ++
          "in milliseconds.")
        (some 0) none (some "0"),
    addField "linear_x_scale" "double"
        "Scale factor applied to linear.x commands."
        (some 0) none (some "1.0"),
    addField "angular_z_scale" "double"
        "Scale factor applied to angular.z commands."
        (some 0) none (some "1.0"),
    addField "max_linear_x" "double"
        "Symmetric maximum absolute linear.x command."
        (some 0) none (some ""),
    addField "max_angular_z" "double"
        "Symmetric maximum absolute angular.z command."
        (some 0) none (some ""),
    addField "force_stop" "bool"
        "When true, publish a zero Twist command."
        none none (some "false"),
    addField "stale_replay_enabled" "bool"
        ("When true, replay the last command instead " ++
          "of publishing the newest command.")
        none none (some "false"),
    addField "stale_replay_duration_ms" "int"
        ("Maximum age of a stored command that may be " ++
          "replayed, in milliseconds.")
        (some 0) none (some "500") ]

def pointCloudFaultInjector.staticConfigSchema :
    List FaultConfigField :=
  [ addField "drop_probability" "double"
        ("Probability that an incoming point cloud " ++
          "message is dropped.")
        (some 0) (some 1) (some "0.0"),
    addField "delay_ms" "int"
        ("Delay applied before publishing the point " ++
          "cloud, in milliseconds.")
        (some 0) none (some "0"),
    addField "point_dropout_probability" "double"
        ("Probability that each individual point is " ++
          "invalidated with NaN coordinates.")
        (some 0) (some 1) (some "0.0"),
    addField "range_noise_stddev" "double"
        ("Standard deviation of Gaussian noise applied " ++
          "along each point ray.")
        (some 0) none (some "0.0"),
    addField "dust_return_probability" "double"
        ("Probability that each point is converted " ++
          "into a short-range dust return.")
        (some 0) (some 1) (some "0.0"),
    addField "dust_min_range" "double"
        "Minimum range for generated dust returns."
        (some 0) none (some "0.2"),
    addField "dust_max_range" "double"
        "Maximum range for generated dust returns."
        (some 0) none (some "2.0"),
    addField "dust_intensity_scale" "double"
        ("Multiplier applied only to points converted " ++
          "into dust returns.")
        (some 0) none (some "0.2"),
    addField "intensity_scale" "double"
        ("Multiplier applied to float32 intensity " ++
          "values when an intensity field exists.")
        (some 0) none (some "1.0") ]

def triggerServiceFaultInjector.staticConfigSchema :
    List FaultConfigField :=
  [ addField "delay_ms" "int"
        ("Delay applied before publishing the message, " ++
          "in milliseconds.")
        (some 0) none (some "0"),
    addField "force_failure" "bool"
        ("Force the proxy service to return failure " ++
          "without calling the target service.")
        none none (some "false"),
    addField "failure_message" "string"
        ("Failure message returned when force_failure " ++
          "is active.")
        none none (some "Injected service failure") ]

def tfFaultInjector.staticConfigSchema :
    List FaultConfigField :=
  [ addField "parent_frame" "non_empty_string"
        "Parent frame id of the transform to affect."
        none none none,
    addField "child_frame" "non_empty_string"
        "Child frame id of the transform to affect."
        none none none,
    addField "drop_probability" "double"
        "Probability that an incoming message is dropped."
        (some 0) (some 1) (some "0.0"),
    addField "delay_ms" "int"
        ("Delay applied before publishing the message, " ++
          "in milliseconds.")
        (some 0) none (some "0"),
    addField "x_bias" "double"
        "Additive translation bias applied to transform x."
        none none (some "0.0"),
    addField "y_bias" "double"
        "Additive translation bias applied to transform y."
        none none (some "0.0"),
    addField "z_bias" "double"
        "Additive translation bias applied to transform z."
        none none (some "0.0"),
    addField "roll_bias_deg" "double"
        ("Additive roll bias applied to transform " ++
          "rotation, in degrees.")
        none none (some "0.0"),
    addField "pitch_bias_deg" "double"
        ("Additive pitch bias applied to transform " ++
          "rotation, in degrees.")
        none none (some "0.0"),
    addField "yaw_bias_deg" "double"
        ("Additive yaw bias applied to transform " ++
          "rotation, in degrees.")
        none none (some "0.0") ]

------------------------------------------------------------
-- Built-in Types
------------------------------------------------------------

def isKnownInjectorType (type : String) : Bool :=
  type = "odom" ∨ type = "scan" ∨ type = "joint_state" ∨
    type = "imu" ∨ type = "twist" ∨ type = "point_cloud" ∨
      type = "trigger_service" ∨ type = "tf"

/- The schema of a built-in type, empty for other types. -/
def schemaForBuiltinInjectorType
    (type : String) : List FaultConfigField :=
  if type = "odom" then
    odomFaultInjector.staticConfigSchema
  else if type = "scan" then
    scanFaultInjector.staticConfigSchema
  else if type = "joint_state" then
    jointStateFaultInjector.staticConfigSchema
  else if type = "imu" then
    imuFaultInjector.staticConfigSchema
  else if type = "twist" then
    twistFaultInjector.staticConfigSchema
  else if type = "point_cloud" then
    pointCloudFaultInjector.staticConfigSchema
  else if type = "trigger_service" then
    triggerServiceFaultInjector.staticConfigSchema
  else if type = "tf" then
    tfFaultInjector.staticConfigSchema
  else []

------------------------------------------------------------
-- Declared Keys
------------------------------------------------------------

/- A property that every built-in type has. -/
theorem builtinInjectorType_cases
    {P : String → Prop}
    (hOdom : P "odom")
    (hScan : P "scan")
    (hJointState : P "joint_state")
    (hImu : P "imu")
    (hTwist : P "twist")
    (hPointCloud : P "point_cloud")
    (hTriggerService : P "trigger_service")
    (hTf : P "tf")
    {type : String}
    (hKnown : isKnownInjectorType type = true) :
    P type := by
  unfold isKnownInjectorType at hKnown
  rw [decide_eq_true_iff] at hKnown
  rcases hKnown with
    rfl | rfl | rfl | rfl | rfl | rfl | rfl | rfl
  · exact hOdom
  · exact hScan
  · exact hJointState
  · exact hImu
  · exact hTwist
  · exact hPointCloud
  · exact hTriggerService
  · exact hTf

/- Other types declare nothing. -/
theorem known_of_mem_schema
    {type : String}
    {field : FaultConfigField}
    (hField : field ∈ schemaForBuiltinInjectorType type) :
    isKnownInjectorType type = true := by
  by_contra hUnknown
  unfold isKnownInjectorType at hUnknown
  simp only [decide_eq_true_iff, not_or] at hUnknown
  simp [schemaForBuiltinInjectorType, hUnknown] at hField

/- No built-in schema declares a key twice. -/
theorem nodup_schema_keys (type : String) :
    ((schemaForBuiltinInjectorType type).map
      FaultConfigField.key).Nodup := by
  by_cases hKnown : isKnownInjectorType type = true
  · refine builtinInjectorType_cases
      (P := fun type =>
        ((schemaForBuiltinInjectorType type).map
          FaultConfigField.key).Nodup)
      ?_ ?_ ?_ ?_ ?_ ?_ ?_ ?_ hKnown
    all_goals decide
  · have hEmpty : schemaForBuiltinInjectorType type = [] := by
      rw [List.eq_nil_iff_forall_not_mem]
      intro field hField
      exact hKnown (known_of_mem_schema hField)
    rw [hEmpty]
    exact List.nodup_nil

/- A built-in schema has one field for each declared key. -/
theorem findSchemaField_eq_some_iff
    {type key : String}
    {field : FaultConfigField} :
    findSchemaField (schemaForBuiltinInjectorType type) key =
        some field ↔
      field ∈ schemaForBuiltinInjectorType type ∧
        field.key = key :=
  List.find?_eq_some_iff_of_nodup_map
    (nodup_schema_keys type)
