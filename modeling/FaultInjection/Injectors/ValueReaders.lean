import FaultInjection.Foundations.NumberAgreement
import FaultInjection.Injectors.Schemas

/-
  How message callbacks read the numbers that validation has
  accepted.

  Validation parses a value with `std::from_chars`. The
  callbacks parse the stored text again, integers with
  `std::stoi` and doubles with `std::stod`, and catch no
  exception unless noted.

  Key definitions include:
    * `Reader`
    * `readsForBuiltinInjectorType`
    * `ReadsSame`

  Key theorems include:
    * `readerOf_of_mem`
    * `accepted_value_reads_same_iff`
-/

open NumberText

------------------------------------------------------------
-- Readers
------------------------------------------------------------

/- The library calls by which callbacks read numbers. -/
inductive Reader where
| stoi : Reader
| stod : Reader
deriving DecidableEq

namespace Reader

def read (text : String) : Reader → Except Errc Number
| .stoi => (NumberText.stoi text).map fun n => .finite n
| .stod => NumberText.stod text

end Reader

/- The keys that `should_drop` and `active_delay` read. -/
def commonReads : List (String × Reader) :=
  [("drop_probability", .stod), ("delay_ms", .stoi)]

def odomFaultInjector.reads : List (String × Reader) :=
  commonReads ++
    [ -- apply_bias
      ("x_bias", .stod),
      ("y_bias", .stod),
      -- apply_noise
      ("x_noise_stddev", .stod),
      ("y_noise_stddev", .stod),
      -- apply_yaw_bias
      ("yaw_bias_deg", .stod),
      -- apply_yaw_noise
      ("yaw_noise_stddev_deg", .stod),
      -- apply_covariance_scale
      ("pose_covariance_scale", .stod),
      ("twist_covariance_scale", .stod),
      ("pose_covariance_floor", .stod),
      ("twist_covariance_floor", .stod) ]

/-
  The sector bounds are read inside a handler, so a value out
  of range skips the sector.
-/
def scanFaultInjector.reads : List (String × Reader) :=
  commonReads ++
    [ -- apply_range_bias
      ("range_bias", .stod),
      -- apply_range_noise
      ("range_noise_stddev", .stod),
      -- apply_sector_dropout
      ("sector_min_deg", .stod),
      ("sector_max_deg", .stod) ]

def jointStateFaultInjector.reads : List (String × Reader) :=
  commonReads ++
    [ -- apply_bias
      ("velocity_bias", .stod),
      -- apply_noise
      ("velocity_noise_stddev", .stod) ]

def imuFaultInjector.reads : List (String × Reader) :=
  commonReads ++
    [ -- apply_angular_velocity_bias
      ("angular_velocity_z_bias", .stod),
      -- apply_angular_velocity_noise
      ("angular_velocity_z_noise_stddev", .stod),
      -- apply_linear_acceleration_bias
      ("linear_acceleration_x_bias", .stod),
      ("linear_acceleration_y_bias", .stod),
      ("linear_acceleration_z_bias", .stod),
      -- apply_linear_acceleration_noise
      ("linear_acceleration_x_noise_stddev", .stod),
      ("linear_acceleration_y_noise_stddev", .stod),
      ("linear_acceleration_z_noise_stddev", .stod) ]

def twistFaultInjector.reads : List (String × Reader) :=
  commonReads ++
    [ -- apply_scale
      ("linear_x_scale", .stod),
      ("angular_z_scale", .stod),
      -- apply_clamp
      ("max_linear_x", .stod),
      ("max_angular_z", .stod),
      -- stale_replay_duration
      ("stale_replay_duration_ms", .stoi) ]

def pointCloudFaultInjector.reads : List (String × Reader) :=
  commonReads ++
    [ -- apply_point_dropout
      ("point_dropout_probability", .stod),
      -- apply_range_noise
      ("range_noise_stddev", .stod),
      -- apply_dust_returns
      ("dust_return_probability", .stod),
      ("dust_min_range", .stod),
      ("dust_max_range", .stod),
      ("dust_intensity_scale", .stod),
      -- apply_intensity_scale
      ("intensity_scale", .stod) ]

/- The service injector reads its delay only. -/
def triggerServiceFaultInjector.reads :
    List (String × Reader) :=
  [("delay_ms", .stoi)]

/- Its own `get_double` reads inside a handler. -/
def tfFaultInjector.reads : List (String × Reader) :=
  commonReads ++
    [ -- apply_translation_bias
      ("x_bias", .stod),
      ("y_bias", .stod),
      ("z_bias", .stod),
      -- apply_rotation_bias
      ("roll_bias_deg", .stod),
      ("pitch_bias_deg", .stod),
      ("yaw_bias_deg", .stod) ]

def readsForBuiltinInjectorType
    (type : String) : List (String × Reader) :=
  if type = "odom" then odomFaultInjector.reads
  else if type = "scan" then scanFaultInjector.reads
  else if type = "joint_state" then
    jointStateFaultInjector.reads
  else if type = "imu" then imuFaultInjector.reads
  else if type = "twist" then twistFaultInjector.reads
  else if type = "point_cloud" then
    pointCloudFaultInjector.reads
  else if type = "trigger_service" then
    triggerServiceFaultInjector.reads
  else if type = "tf" then tfFaultInjector.reads
  else []

/- The call by which an injector reads the value of a key. -/
def readerOf (type key : String) : Option Reader :=
  (readsForBuiltinInjectorType type).lookup key

/- An int field is read by `stoi`, a double field by `stod`. -/
def readerOfFieldType (fieldType : String) : Option Reader :=
  if fieldType = "int" then some .stoi
  else if fieldType = "double" then some .stod
  else none

/- Every number a schema declares is read as its type says. -/
theorem readerOf_of_mem
    {type : String}
    {field : FaultConfigField}
    (hField : field ∈ schemaForBuiltinInjectorType type)
    {reader : Reader}
    (hReader :
      readerOfFieldType field.type = some reader) :
    readerOf type field.key = some reader := by
  have hAll :
      ∀ field ∈ schemaForBuiltinInjectorType type,
        ∀ reader ∈ readerOfFieldType field.type,
          readerOf type field.key = some reader := by
    refine builtinInjectorType_cases
      (P := fun type =>
        ∀ field ∈ schemaForBuiltinInjectorType type,
          ∀ reader ∈ readerOfFieldType field.type,
            readerOf type field.key = some reader)
      ?_ ?_ ?_ ?_ ?_ ?_ ?_ ?_
      (known_of_mem_schema hField)
    all_goals decide
  exact hAll field hField reader hReader

------------------------------------------------------------
-- Agreement
------------------------------------------------------------

/- The number that validation reads in a value. -/
def parsedNumber
    (field : FaultConfigField)
    (value : String) : Option Number :=
  if field.type = "int" then
    (parseInt value).map fun n => .finite n
  else
    parseDouble value

/-
  The callback that reads the field gets a number from the
  text, and it is the number that validation read.
-/
def ReadsSame
    (type : String)
    (field : FaultConfigField)
    (value : String) : Prop :=
  ∃ reader x,
    readerOf type field.key = some reader ∧
      parsedNumber field value = some x ∧
        reader.read value = .ok x

/- The text of a double that `stod` takes for an underflow. -/
def DenotesInexactSubnormal
    (field : FaultConfigField)
    (value : String) : Prop :=
  field.type = "double" ∧
    ∃ q, parseDouble value = some (.finite q) ∧
      isInexactSubnormal q = true

/- What is parsed is read to its end. -/
theorem fromChars_of_parseDouble
    {text : String}
    {x : Number}
    (hParse : parseDouble text = some x) :
    fromChars text.toList = .ok (x, []) := by
  unfold parseDouble at hParse
  split at hParse
  · rename_i value hRead
    cases hParse
    exact hRead
  · cases hParse

theorem fromCharsInt_of_parseInt
    {text : String}
    {n : Int}
    (hParse : parseInt text = some n) :
    fromCharsInt text.toList = .ok (n, []) := by
  unfold parseInt at hParse
  split at hParse
  · rename_i value hRead
    cases hParse
    exact hRead
  · cases hParse

/- Every accepted number was parsed. -/
theorem exists_parseInt_of_accepted
    {field : FaultConfigField}
    {value : String}
    (hType : field.type = "int")
    (hAccepted : validateConfigValue field value = none) :
    ∃ n, parseInt value = some n := by
  cases hParse : parseInt value with
  | some n => exact ⟨n, rfl⟩
  | none =>
      simp [validateConfigValue, hType, hParse] at hAccepted

theorem exists_parseDouble_of_accepted
    {field : FaultConfigField}
    {value : String}
    (hType : field.type = "double")
    (hAccepted : validateConfigValue field value = none) :
    ∃ x, parseDouble value = some x := by
  cases hParse : parseDouble value with
  | some x => exact ⟨x, rfl⟩
  | none =>
      simp [validateConfigValue, hType, hParse] at hAccepted

/- An accepted integer is read again by `stoi`. -/
theorem readsSame_of_int
    {type : String}
    {field : FaultConfigField}
    {value : String}
    (hField : field ∈ schemaForBuiltinInjectorType type)
    (hType : field.type = "int")
    (hAccepted : validateConfigValue field value = none) :
    ReadsSame type field value := by
  rcases exists_parseInt_of_accepted hType hAccepted with
    ⟨n, hParse⟩
  refine ⟨.stoi, .finite n, ?_, ?_, ?_⟩
  · apply readerOf_of_mem hField
    simp [readerOfFieldType, hType]
  · simp [parsedNumber, hType, hParse]
  · have hRead :=
      stoi_of_fromCharsInt (fromCharsInt_of_parseInt hParse)
    simp [Reader.read, hRead, Except.map]

/- An accepted double is read again unless `stod` throws. -/
theorem readsSame_iff_of_double
    {type : String}
    {field : FaultConfigField}
    {value : String}
    (hField : field ∈ schemaForBuiltinInjectorType type)
    (hType : field.type = "double")
    (hAccepted : validateConfigValue field value = none) :
    ReadsSame type field value ↔
      ¬ DenotesInexactSubnormal field value := by
  rcases exists_parseDouble_of_accepted hType hAccepted with
    ⟨x, hParse⟩
  have hReader :
      readerOf type field.key = some .stod := by
    apply readerOf_of_mem hField
    simp [readerOfFieldType, hType]
  have hSame :
      ReadsSame type field value ↔ stod value = .ok x := by
    unfold ReadsSame parsedNumber
    simp [hReader, hType, hParse, Reader.read]
  rw [hSame,
    stod_eq_ok_iff_of_fromChars
      (fromChars_of_parseDouble hParse)]
  unfold DenotesInexactSubnormal
  simp [hType, hParse]

/-
  An accepted number means the same at runtime unless it is
  no multiple of the smallest subnormal and still less than
  the smallest normal magnitude when rounded to 53 bits.
-/
theorem accepted_value_reads_same_iff
    {type : String}
    {field : FaultConfigField}
    {value : String}
    (hField : field ∈ schemaForBuiltinInjectorType type)
    (hType : field.type = "int" ∨ field.type = "double")
    (hAccepted : validateConfigValue field value = none) :
    ReadsSame type field value ↔
      ¬ DenotesInexactSubnormal field value := by
  rcases hType with hInt | hDouble
  · have hExact : ¬ DenotesInexactSubnormal field value := by
      intro hInexact
      have hTypes := hInt.symm.trans hInexact.1
      revert hTypes
      decide
    exact iff_of_true
      (readsSame_of_int hField hInt hAccepted)
      hExact
  · exact readsSame_iff_of_double hField hDouble hAccepted

------------------------------------------------------------
-- A Bias Too Small To Read
------------------------------------------------------------

namespace odomFaultInjector

def xBiasField : FaultConfigField :=
  addField "x_bias" "double"
    "Additive bias applied to odometry pose x."
    none none (some "0.0")

/- Validation accepts a bias on which `stod` throws. -/
theorem accepted_bias_not_read :
    ¬ ∀ type field value,
      field ∈ schemaForBuiltinInjectorType type →
        field.type = "int" ∨ field.type = "double" →
          validateConfigValue field value = none →
            ReadsSame type field value := by
  intro hAll
  rcases hAll "odom" xBiasField "1e-310"
    (by decide) (by decide) (by decide +kernel) with
    ⟨reader, x, hReader, hParsed, hRead⟩
  have hStod : readerOf "odom" xBiasField.key = some .stod := by
    decide
  cases hStod.symm.trans hReader
  have hThrows :
      stod "1e-310" = .error .outOfRange := by
    decide +kernel
  cases hThrows.symm.trans hRead

theorem accepted_bias_read :
    ReadsSame "odom" xBiasField "0.5" ↔
      ¬ DenotesInexactSubnormal xBiasField "0.5" :=
  accepted_value_reads_same_iff
    (by decide) (by decide) (by decide +kernel)

end odomFaultInjector
