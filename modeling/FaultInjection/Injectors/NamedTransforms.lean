import FaultInjection.Injectors.NamedQuantities
import FaultInjection.Injectors.TfFaultInjector

/-
  What the injector for transforms may change.

  Key definitions include:
    * `tfFaultInjector.SetsFor`
    * `tfFaultInjector.Carries`
    * `tfFaultInjector.CarriesOnlyNamed`

  Key theorems include:
    * `tfFaultInjector.anyDrops_yields`
    * `tfFaultInjector.applyMatching_yields`
    * `tfFaultInjector.carriesOnlyNamed`
-/

open FaultInjectorBase

------------------------------------------------------------
-- Transforms
------------------------------------------------------------

namespace tfFaultInjector

open GeometryMsgs (TransformStamped)

variable {G N : Type}
variable (rand : RandomLibrary G N)
variable (tf2 : Tf2)
variable (h : HashOrder String)
variable (base : FaultInjectorBase)

/- The parts of a transform and the keys that name them. -/
def parts : List (KeyedPart String TransformStamped) :=
  [ { keys := []
      value := fun transform => transform.header },
    { keys := []
      value := fun transform => transform.childFrameId },
    { keys := ["x_bias"]
      value := fun transform =>
        transform.transform.translation.x },
    { keys := ["y_bias"]
      value := fun transform =>
        transform.transform.translation.y },
    { keys := ["z_bias"]
      value := fun transform =>
        transform.transform.translation.z },
    { keys :=
        ["roll_bias_deg", "pitch_bias_deg", "yaw_bias_deg"]
      value := fun transform => transform.transform.rotation } ]

theorem covers_parts : Covers parts := by
  intro a b hSame
  rcases a with ⟨_, _, ⟨⟨_, _, _⟩, _⟩⟩
  rcases b with ⟨_, _, ⟨⟨_, _, _⟩, _⟩⟩
  simp only [parts, List.forall_mem_cons] at hSame
  simp only [hSame]

/- An active fault that names the frames sets the key. -/
def SetsFor
    (transform : TransformStamped)
    (key : String) : Prop :=
  ∃ faultId fault text,
    base.isActive faultId = true ∧
      base.getFaultConfig faultId = some fault ∧
        matchesFrame fault transform = true ∧
          fault.config.find? key = some text

/-
  A transform is dropped only if a key asks for it. Else what
  is kept of it differs only in the parts that are named.
-/
def Carried
    (transform : TransformStamped) :
    Option TransformStamped → Prop
| none => SetsFor base transform "drop_probability"
| some out =>
    Framed parts (SetsFor base transform) transform out

/- A message has what is kept of each transform, in order. -/
def Carries (msg out : TFMessage) : Prop :=
  ∃ kept,
    List.Forall₂ (Carried base) msg.transforms kept ∧
      out.transforms = kept.reduceOption

/-
  The injector carries transforms over. Without an active
  fault it does not sleep, draws nothing and publishes what
  it received.
-/
structure CarriesOnlyNamed : Prop where
  forwards :
    ∀ h base msg (g : G),
      NoneActive base →
        (onMessage rand tf2 h base msg).run g =
          some ((0, msg), g)
  covers : Covers parts
  carries :
    ∀ h base msg,
      Yields (onMessage rand tf2 h base msg) fun result =>
        Carries base msg result.2

/- A key that is missing gives the fallback. -/
theorem getDouble_of_missing
    {fault : FaultConfig}
    {key : String}
    (hMissing : fault.config.find? key = none)
    (fallback : Number) :
    getDouble fault key fallback = fallback := by
  unfold getDouble
  rw [hMissing]

theorem anyDrops_yields
    (transform : TransformStamped)
    {ids : List String}
    (hIds : ∀ faultId ∈ ids, base.isActive faultId = true) :
    Yields (anyDrops rand base transform ids) fun drop =>
      drop = true →
        SetsFor base transform "drop_probability" := by
  induction ids with
  | nil =>
      refine Yields.pure fun hDrop => ?_
      cases hDrop
  | cons faultId rest ih =>
      have hActive := hIds faultId List.mem_cons_self
      have hRest :=
        ih fun other hOther =>
          hIds other (List.mem_cons_of_mem _ hOther)
      unfold anyDrops
      refine Yields.bind
        (Yields.lift fun _ hFault => hFault) ?_
      intro fault hFault
      refine Yields.ite (fun _ => hRest) fun hMatches => ?_
      refine Yields.ite (fun _ => hRest) fun hPositive => ?_
      have hSets :
          SetsFor base transform "drop_probability" := by
        cases hFind :
            fault.config.find? "drop_probability" with
        | none =>
            rw [getDouble_of_missing hFind] at hPositive
            exact absurd Number.zero_le_zero hPositive
        | some text =>
            refine ⟨faultId, fault, text, hActive, ?_,
              not_not.mp hMatches, hFind⟩
            exact getFaultConfig_of_faultAt hFault
      refine Yields.ite ?_ fun _ => ?_
      · intro _
        exact Yields.pure fun _ => hSets
      · refine (Yields.anything _).imp fun _ _ _ => hSets

/- The keys that a fault has. -/
def Has (fault : FaultConfig) (key : String) : Prop :=
  fault.config.find? key ≠ none

theorem translate_framed
    (fault : FaultConfig)
    (transform : TransformStamped) :
    Framed parts (Has fault) transform
      (translate fault transform) := by
  simp +contextual [parts, translate, Has,
    getDouble_of_missing]

/- Turning a transform changes nothing but its rotation. -/
theorem rotate_elsewhere
    (fault : FaultConfig)
    (transform : TransformStamped) :
    (rotate tf2 fault transform).header = transform.header ∧
      (rotate tf2 fault transform).childFrameId =
          transform.childFrameId ∧
        (rotate tf2 fault transform).transform.translation =
          transform.transform.translation := by
  unfold rotate
  rcases tf2.getRPY transform.transform.rotation with
    ⟨roll, pitch, yaw⟩
  dsimp only
  split
  · exact ⟨rfl, rfl, rfl⟩
  · exact ⟨rfl, rfl, rfl⟩

/- Without a bias a transform is not turned. -/
theorem rotate_of_missing
    {fault : FaultConfig}
    (hMissing :
      ∀ key ∈
          ["roll_bias_deg", "pitch_bias_deg", "yaw_bias_deg"],
        fault.config.find? key = none)
    (transform : TransformStamped) :
    rotate tf2 fault transform = transform := by
  have hBias :
      ∀ key ∈
          ["roll_bias_deg", "pitch_bias_deg", "yaw_bias_deg"],
        getDouble fault key .zero = .zero :=
    fun key hKey => getDouble_of_missing (hMissing key hKey) _
  have hZero :
      Number.zero.mulDouble kDegreesToRadians = .zero := by
    decide +kernel
  unfold rotate
  rw [hBias "roll_bias_deg" (by simp),
    hBias "pitch_bias_deg" (by simp),
    hBias "yaw_bias_deg" (by simp), hZero]
  exact if_pos ⟨rfl, rfl, rfl⟩

theorem rotate_framed
    (fault : FaultConfig)
    (transform : TransformStamped) :
    Framed parts (Has fault) transform
      (rotate tf2 fault transform) := by
  simp only [parts, framed_cons, framed_nil,
    rotate_elsewhere, implies_true, true_and, and_true]
  intro hUnset
  rw [rotate_of_missing]
  intro key hKey
  exact not_not.mp (hUnset key hKey)

/- Frames are kept, so the same faults match. -/
theorem matchesFrame_of_framed
    {set : String → Prop}
    {transform out : TransformStamped}
    (hFramed : Framed parts set transform out)
    (fault : FaultConfig) :
    matchesFrame fault out = matchesFrame fault transform := by
  simp only [parts, framed_cons] at hFramed
  have hHeader := hFramed.1 (by simp)
  have hChild := hFramed.2.1 (by simp)
  unfold matchesFrame
  rw [hHeader, hChild]

/- A pass that a fault frames is framed by matching faults. -/
theorem applyMatching_yields
    {change :
      FaultConfig → TransformStamped → TransformStamped}
    (hChange :
      ∀ fault transform,
        Framed parts (Has fault) transform
          (change fault transform))
    {transform start : TransformStamped}
    (hStart :
      Framed parts (SetsFor base transform) transform start) :
    Yields
      (applyMatching h base change start :
        Drawing G TransformStamped)
      (Framed parts (SetsFor base transform) transform) := by
  unfold applyMatching
  refine Yields.foldlM hStart ?_
  intro out hOut faultId hActive
  refine Yields.bind (Yields.lift fun _ hFault => hFault) ?_
  intro fault hFault
  refine Yields.ite (fun hMatches => ?_) fun _ => ?_
  · refine Yields.pure ?_
    rw [matchesFrame_of_framed hOut] at hMatches
    refine hOut.trans ((hChange fault out).mono ?_)
    intro key hHas
    rcases Option.ne_none_iff_exists'.mp hHas with
      ⟨text, hText⟩
    exact
      ⟨faultId, fault, text,
        mem_activeFaultIds_iff.mp hActive,
        getFaultConfig_of_faultAt hFault, hMatches, hText⟩
  · exact Yields.pure hOut

theorem onTransform_yields
    (transform : TransformStamped) :
    Yields (onTransform rand tf2 h base transform)
      (Carried base transform) := by
  unfold onTransform shouldDropTransform
  refine Yields.bind
    (anyDrops_yields rand base transform fun _ hMem =>
      mem_activeFaultIds_iff.mp hMem) ?_
  intro drop hDrop
  refine Yields.ite (fun hDropped => ?_) fun _ => ?_
  · exact Yields.pure (hDrop hDropped)
  · refine Yields.bind
      (applyMatching_yields h base translate_framed
        (Framed.refl transform)) ?_
    intro moved hMoved
    refine Yields.bind
      (applyMatching_yields h base (rotate_framed tf2)
        hMoved) ?_
    intro turned hTurned
    exact Yields.pure hTurned

theorem onTransform_of_noneActive
    (hNone : base.NoneActive)
    (transform : TransformStamped) :
    onTransform rand tf2 h base transform =
      pure (some transform) := by
  unfold onTransform shouldDropTransform applyTranslationBias
    applyRotationBias applyMatching
  rw [activeFaultIds_of_noneActive hNone]
  rfl

theorem carriesOnlyNamed :
    CarriesOnlyNamed rand tf2 where
  forwards h base msg g hNone := by
    have hDelay : base.activeDelay h = .ok 0 := by
      unfold activeDelay activeMaxInt
      exact foldActive_of_noneActive hNone _ _ _
    have hKept :
        msg.transforms.mapM (onTransform rand tf2 h base) =
          pure (msg.transforms.map some) := by
      rw [← List.mapM_pure]
      congr 1
      funext transform
      exact
        onTransform_of_noneActive rand tf2 h base hNone
          transform
    have hAll :
        (msg.transforms.map some).reduceOption =
          msg.transforms := by
      unfold List.reduceOption
      rw [List.filterMap_map]
      exact List.filterMap_some
    unfold onMessage
    rw [hDelay, hKept]
    simp [hAll]
  covers := covers_parts
  carries h base msg := by
    unfold onMessage
    refine Yields.bind (Yields.anything _) ?_
    intro delay _
    refine Yields.bind
      (Yields.mapM fun transform _ =>
        onTransform_yields rand tf2 h base transform) ?_
    intro kept hKept
    exact Yields.pure ⟨kept, hKept, rfl⟩

end tfFaultInjector
