import FaultInjection.Injectors.ActiveLookups
import FaultInjection.Injectors.NamedTransforms
import FaultInjection.Foundations.DoubleSums
import FaultInjection.Foundations.SameDraws

/-
  The injector for transforms touches exactly the transforms
  that active faults name.

  A message is carried in two parts. First it is decided for
  one transform after the other whether it is dropped, which
  is all that draws numbers. What is kept is then changed in
  a way that does not depend on the draws. Biases are added in
  the order of the faults, which matters only if a sum is
  rounded.

  Key definitions include:
    * `tfFaultInjector.Named`
    * `tfFaultInjector.SurelyDropped`
    * `tfFaultInjector.touched`
    * `tfFaultInjector.TouchesExactlyNamed`

  Key theorems include:
    * `tfFaultInjector.onTransform_eq`
    * `tfFaultInjector.translation_touched`
    * `tfFaultInjector.shiftedBy_of_unrounded`
    * `tfFaultInjector.touches_exactly_named`
-/

open FaultInjectorBase
open GeometryMsgs (TransformStamped)

------------------------------------------------------------
-- Active Faults
------------------------------------------------------------

namespace FaultInjectorBase

variable {base : FaultInjectorBase}

theorem mem_activeFaults_iff
    {h : HashOrder String}
    {fault : FaultConfig} :
    fault ∈ base.activeFaults h ↔
      ∃ faultId,
        base.isActive faultId = true ∧
          base.getFaultConfig faultId = some fault := by
  unfold activeFaults
  simp only [List.mem_filterMap, mem_activeFaultIds_iff]

/- Two iterations visit the same stored faults. -/
theorem activeFaults_perm
    (h k : HashOrder String)
    (base : FaultInjectorBase) :
    (base.activeFaults h).Perm (base.activeFaults k) :=
  (activeFaultIds_perm h k base).filterMap _

end FaultInjectorBase

namespace tfFaultInjector

variable {G N : Type}
variable {rand : RandomLibrary G N}
variable {tf2 : Tf2}
variable {h : HashOrder String}
variable {base : FaultInjectorBase}

------------------------------------------------------------
-- Names
------------------------------------------------------------

/- An active fault names both frames of the transform. -/
def Named
    (base : FaultInjectorBase)
    (transform : TransformStamped) : Prop :=
  ∃ faultId fault,
    base.isActive faultId = true ∧
      base.getFaultConfig faultId = some fault ∧
        matchesFrame fault transform = true

/- An active fault that names it drops it for certain. -/
def SurelyDropped
    (base : FaultInjectorBase)
    (transform : TransformStamped) : Prop :=
  ∃ faultId fault,
    base.isActive faultId = true ∧
      base.getFaultConfig faultId = some fault ∧
        matchesFrame fault transform = true ∧
          Number.one.le
              (getDouble fault "drop_probability" .zero) =
            true

/- The active faults that name the transform. -/
def namingFaults
    (h : HashOrder String)
    (base : FaultInjectorBase)
    (transform : TransformStamped) : List FaultConfig :=
  (base.activeFaults h).filter fun fault =>
    matchesFrame fault transform

/- Two iterations visit the same naming faults. -/
theorem namingFaults_perm
    (h k : HashOrder String)
    (base : FaultInjectorBase)
    (transform : TransformStamped) :
    (namingFaults h base transform).Perm
      (namingFaults k base transform) :=
  (activeFaults_perm h k base).filter _

/- What the faults have for a key, in order. -/
def biases
    (faults : List FaultConfig)
    (key : String) : List Number :=
  faults.map fun fault => getDouble fault key .zero

theorem namingFaults_of_not_named
    {transform : TransformStamped}
    (hUnnamed : ¬ Named base transform) :
    namingFaults h base transform = [] := by
  unfold namingFaults
  rw [List.filter_eq_nil_iff]
  intro fault hFault hMatches
  rcases mem_activeFaults_iff.mp hFault with
    ⟨faultId, hActive, hStored⟩
  exact hUnnamed ⟨faultId, fault, hActive, hStored, hMatches⟩

------------------------------------------------------------
-- Changes
------------------------------------------------------------

/- A change by faults that name the transform. -/
def changedBy
    (change :
      FaultConfig → TransformStamped → TransformStamped)
    (faults : List FaultConfig)
    (transform : TransformStamped) : TransformStamped :=
  faults.foldl
    (fun transform fault => change fault transform) transform

/- What becomes of a transform that is kept. -/
def touched
    (tf2 : Tf2)
    (h : HashOrder String)
    (base : FaultInjectorBase)
    (transform : TransformStamped) : TransformStamped :=
  let naming := namingFaults h base transform
  changedBy (rotate tf2) naming
    (changedBy translate naming transform)

/- The change keeps the frames of a transform. -/
def KeepsFrames
    (change :
      FaultConfig → TransformStamped → TransformStamped) :
    Prop :=
  ∀ fault other transform,
    matchesFrame other (change fault transform) =
      matchesFrame other transform

theorem keepsFrames_translate : KeepsFrames translate :=
  fun fault other transform =>
    matchesFrame_of_framed (translate_framed fault transform)
      other

theorem keepsFrames_rotate : KeepsFrames (rotate tf2) :=
  fun fault other transform =>
    matchesFrame_of_framed (rotate_framed tf2 fault transform)
      other

/- What each change keeps is kept by all of them. -/
theorem changedBy_keeps
    {β : Type}
    {part : TransformStamped → β}
    {change :
      FaultConfig → TransformStamped → TransformStamped}
    (hKeeps :
      ∀ fault transform,
        part (change fault transform) = part transform)
    (faults : List FaultConfig)
    (transform : TransformStamped) :
    part (changedBy change faults transform) =
      part transform := by
  induction faults generalizing transform with
  | nil => rfl
  | cons fault faults ih =>
      exact (ih _).trans (hKeeps fault transform)

/- Whether a fault matches is not changed along the loop. -/
theorem foldl_matching
    {change :
      FaultConfig → TransformStamped → TransformStamped}
    (hKeeps : KeepsFrames change)
    (faults : List FaultConfig)
    (transform : TransformStamped) :
    faults.foldl
        (fun transform fault =>
          if matchesFrame fault transform then
            change fault transform
          else
            transform)
        transform =
      changedBy change
        (faults.filter fun fault =>
          matchesFrame fault transform)
        transform := by
  induction faults generalizing transform with
  | nil => rfl
  | cons fault faults ih =>
      rw [List.foldl_cons, ih, List.filter_cons]
      split
      · simp only [hKeeps fault _ transform]
        rfl
      · rfl

theorem applyMatching_eq_changedBy
    {change :
      FaultConfig → TransformStamped → TransformStamped}
    (hInStep : base.InStep)
    (hKeeps : KeepsFrames change)
    (transform : TransformStamped) :
    (applyMatching h base change transform :
        Drawing G TransformStamped) =
      return changedBy change (namingFaults h base transform)
        transform := by
  rw [(hInStep.neverMisses h).moves]
  exact congrArg pure (foldl_matching hKeeps _ transform)

/- The moved transform is named by the same faults. -/
theorem namingFaults_moved
    (faults : List FaultConfig)
    (transform : TransformStamped) :
    namingFaults h base
        (changedBy translate faults transform) =
      namingFaults h base transform := by
  unfold namingFaults
  congr 1
  funext fault
  exact
    changedBy_keeps
      (fun other => keepsFrames_translate other fault)
      faults transform

/- A kept transform is changed without a draw. -/
theorem onTransform_eq
    (hInStep : base.InStep)
    (transform : TransformStamped) :
    onTransform rand tf2 h base transform =
      (shouldDropTransform rand h base transform >>= fun drops =>
        return if drops then
          none
        else
          some (touched tf2 h base transform)) := by
  unfold onTransform
  congr 1
  funext drops
  cases drops with
  | true => rfl
  | false =>
      unfold applyTranslationBias applyRotationBias touched
      rw [applyMatching_eq_changedBy hInStep
        keepsFrames_translate, pure_bind,
        applyMatching_eq_changedBy hInStep keepsFrames_rotate,
        namingFaults_moved]
      rfl

------------------------------------------------------------
-- Translations
------------------------------------------------------------

/- A translation to which the faults add their biases. -/
def shiftedBy
    (faults : List FaultConfig)
    (translation : GeometryMsgs.Vector3) :
    GeometryMsgs.Vector3 where
  x := translation.x.addInTurn (biases faults "x_bias")
  y := translation.y.addInTurn (biases faults "y_bias")
  z := translation.z.addInTurn (biases faults "z_bias")

/- A translation and the sums of the biases of the faults. -/
def shiftedBySums
    (faults : List FaultConfig)
    (translation : GeometryMsgs.Vector3) :
    GeometryMsgs.Vector3 where
  x := translation.x.add (biases faults "x_bias").sum
  y := translation.y.add (biases faults "y_bias").sum
  z := translation.z.add (biases faults "z_bias").sum

/-
  The coordinates and the biases are doubles that are added
  without rounding.
-/
structure Unrounded
    (e : Int)
    (faults : List FaultConfig)
    (translation : GeometryMsgs.Vector3) : Prop where
  low : -1074 ≤ e
  high : e ≤ 971
  x : Number.OnGrid e translation.x (biases faults "x_bias")
  y : Number.OnGrid e translation.y (biases faults "y_bias")
  z : Number.OnGrid e translation.z (biases faults "z_bias")

theorem translation_changedBy_translate
    (faults : List FaultConfig)
    (transform : TransformStamped) :
    (changedBy translate faults
        transform).transform.translation =
      shiftedBy faults transform.transform.translation := by
  induction faults generalizing transform with
  | nil => rfl
  | cons fault faults ih => exact ih (translate fault transform)

/-
  A kept transform keeps its frames and stamp. Its translation
  is moved by the biases of the active faults that name it, as
  they are visited.
-/
theorem translation_touched
    (transform : TransformStamped) :
    (touched tf2 h base transform).transform.translation =
      shiftedBy (namingFaults h base transform)
        transform.transform.translation := by
  have hRotated :=
    @changedBy_keeps _
      (fun transform => transform.transform.translation)
      (rotate tf2)
      fun fault transform =>
        (rotate_elsewhere tf2 fault transform).2.2
  unfold touched
  refine (hRotated _ _).trans ?_
  exact translation_changedBy_translate _ _

/- Unrounded sums do not depend on the order. -/
theorem shiftedBy_of_unrounded
    {e : Int}
    {faults others : List FaultConfig}
    {translation : GeometryMsgs.Vector3}
    (hUnrounded : Unrounded e others translation)
    (hPerm : faults.Perm others) :
    shiftedBy faults translation =
      shiftedBySums others translation := by
  have hBiases (key : String) :
      (biases faults key).Perm (biases others key) :=
    hPerm.map _
  have hAxis
      {start : Number}
      {key : String}
      (hGrid : Number.OnGrid e start (biases others key)) :
      start.addInTurn (biases faults key) =
        start.add (biases others key).sum := by
    rw [Number.addInTurn_of_onGrid hUnrounded.low
      hUnrounded.high (hGrid.of_perm (hBiases key)),
      (hBiases key).sum_eq]
  unfold shiftedBy shiftedBySums
  rw [hAxis hUnrounded.x, hAxis hUnrounded.y,
    hAxis hUnrounded.z]

/- A transform that no fault names is not changed. -/
theorem touched_of_not_named
    {transform : TransformStamped}
    (hUnnamed : ¬ Named base transform) :
    touched tf2 h base transform = transform := by
  unfold touched
  rw [namingFaults_of_not_named hUnnamed]
  rfl

------------------------------------------------------------
-- Decisions
------------------------------------------------------------

/- A fault that does not match leaves the decision open. -/
theorem decideDrop_of_other
    {transform : TransformStamped}
    {fault : FaultConfig}
    (hOther : matchesFrame fault transform = false)
    (later : Drawing G Bool) :
    decideDrop rand transform fault later = later := by
  unfold decideDrop
  rw [hOther]
  rfl

theorem shouldDropTransform_of_not_named
    (hInStep : base.InStep)
    {transform : TransformStamped}
    (hUnnamed : ¬ Named base transform) :
    shouldDropTransform rand h base transform =
      return false := by
  have hOthers :
      ∀ fault ∈ base.activeFaults h,
        matchesFrame fault transform = false := by
    intro fault hFault
    rw [Bool.eq_false_iff]
    intro hMatches
    rcases mem_activeFaults_iff.mp hFault with
      ⟨faultId, hActive, hStored⟩
    exact
      hUnnamed ⟨faultId, fault, hActive, hStored, hMatches⟩
  rw [(hInStep.neverMisses h).drops]
  generalize base.activeFaults h = faults at hOthers
  induction faults with
  | nil => rfl
  | cons fault faults ih =>
      rw [List.foldr_cons,
        ih (List.forall_mem_of_forall_mem_cons hOthers),
        decideDrop_of_other (hOthers fault List.mem_cons_self)]

/- From every generator the transform is dropped. -/
def AlwaysDrops (x : Drawing G Bool) : Prop :=
  ∀ g, ∃ next, x.run g = some (true, next)

theorem alwaysDrops_true :
    AlwaysDrops (return true : Drawing G Bool) :=
  fun g => ⟨g, rfl⟩

/- Whatever is drawn before, the transform is dropped. -/
theorem AlwaysDrops.bind
    {A : Type}
    {x : Drawing G A}
    {f : A → Drawing G Bool}
    (hResult : ∀ g, (x.run g).isSome = true)
    (hRest : ∀ a, AlwaysDrops (f a)) :
    AlwaysDrops (x >>= f) := by
  intro g
  rcases Option.isSome_iff_exists.mp (hResult g) with
    ⟨⟨a, middle⟩, hRun⟩
  rcases hRest a middle with ⟨next, hDrops⟩
  refine ⟨next, ?_⟩
  rw [StateT.run_bind, hRun]
  exact hDrops

/- What holds of both ends of a decision holds of it. -/
theorem decideDrop_keeps
    {P : Drawing G Bool → Prop}
    {later : Drawing G Bool}
    (hTrue : P (return true))
    (hDraw :
      ∀ f : Number → Drawing G Bool,
        (∀ draw, P (f draw)) →
          P (rand.uniform .zero .one >>= f))
    (hLater : P later)
    (transform : TransformStamped)
    (fault : FaultConfig) :
    P (decideDrop rand transform fault later) := by
  unfold decideDrop
  dsimp only
  split
  · exact hLater
  · split
    · exact hLater
    · split
      · exact hTrue
      · apply hDraw
        intro draw
        split
        · exact hTrue
        · exact hLater

/- Nothing in a decision throws. -/
theorem shouldDropTransform_isSome
    (hInStep : base.InStep)
    (transform : TransformStamped)
    (g : G) :
    ((shouldDropTransform rand h base transform).run
        g).isSome =
      true := by
  rw [(hInStep.neverMisses h).drops]
  generalize base.activeFaults h = faults
  induction faults generalizing g with
  | nil => rfl
  | cons fault faults ih =>
      have hEnds :=
        @decideDrop_keeps G N rand
          (fun x => ∀ g, (x.run g).isSome = true) _
          (fun _ => rfl)
          (fun f hRest g => by
            rw [isSome_bind_iff]
            exact ⟨_, rfl, hRest _ _⟩)
          ih transform fault
      exact hEnds g

theorem decideDrop_of_sure
    {transform : TransformStamped}
    {fault : FaultConfig}
    (hMatches : matchesFrame fault transform = true)
    (hSure :
      Number.one.le
          (getDouble fault "drop_probability" .zero) =
        true)
    (later : Drawing G Bool) :
    decideDrop rand transform fault later = return true := by
  have hPositive :
      (getDouble fault "drop_probability" .zero).le .zero =
        false := by
    cases hValue : getDouble fault "drop_probability" .zero with
    | finite q =>
        rw [hValue] at hSure
        have hOne : 1 ≤ q := by simpa [Number.one] using hSure
        simp only [Number.zero, Number.le, decide_eq_false_iff_not,
          not_le]
        exact zero_lt_one.trans_le hOne
    | posInf => rfl
    | negInf => simp [hValue, Number.one, Number.le] at hSure
    | nan => simp [hValue, Number.le] at hSure
  unfold decideDrop
  simp [hMatches, hPositive, hSure]

theorem alwaysDrops_of_sure
    (hInStep : base.InStep)
    {transform : TransformStamped}
    (hSure : SurelyDropped base transform) :
    AlwaysDrops
      (shouldDropTransform rand h base transform) := by
  rcases hSure with
    ⟨faultId, fault, hActive, hStored, hMatches, hSure⟩
  have hFault : fault ∈ base.activeFaults h :=
    mem_activeFaults_iff.mpr ⟨faultId, hActive, hStored⟩
  rw [(hInStep.neverMisses h).drops]
  generalize base.activeFaults h = faults at hFault
  induction faults with
  | nil => cases hFault
  | cons first rest ih =>
      rw [List.foldr_cons]
      cases hFault with
      | head =>
          rw [decideDrop_of_sure hMatches hSure]
          exact alwaysDrops_true
      | tail _ hRest =>
          apply decideDrop_keeps alwaysDrops_true ?_ (ih hRest)
          intro f hDrops
          exact AlwaysDrops.bind (fun _ => rfl) hDrops

------------------------------------------------------------
-- Messages
------------------------------------------------------------

/- The transforms that are not dropped, changed, in order. -/
def kept
    (change : TransformStamped → TransformStamped)
    (transforms : List TransformStamped)
    (drops : List Bool) : List TransformStamped :=
  ((transforms.zip drops).filter fun entry => !entry.2).map
    fun entry => change entry.1

theorem kept_eq_reduceOption
    (change : TransformStamped → TransformStamped)
    (transforms : List TransformStamped)
    (drops : List Bool) :
    (List.zipWith
        (fun transform drop =>
          if drop then none else some (change transform))
        transforms drops).reduceOption =
      kept change transforms drops := by
  induction transforms generalizing drops with
  | nil => rfl
  | cons transform transforms ih =>
      cases drops with
      | nil => rfl
      | cons drop drops =>
          rw [List.zipWith_cons_cons]
          unfold kept at ih ⊢
          rw [List.zip_cons_cons]
          cases drop with
          | true => exact ih drops
          | false => exact congrArg (List.cons _) (ih drops)

/- Deciding for all transforms first draws the same numbers. -/
theorem transforms_sameDraws
    (hInStep : base.InStep)
    (transforms : List TransformStamped) :
    SameDraws
      (transforms.mapM (onTransform rand tf2 h base))
      (transforms.mapM (shouldDropTransform rand h base))
      fun carried drops =>
        drops.length = transforms.length ∧
          carried =
            List.zipWith
              (fun transform drop =>
                if drop then
                  none
                else
                  some (touched tf2 h base transform))
              transforms drops := by
  apply SameDraws.mapM_zipWith
  rw [List.forall₂_same]
  intro transform _
  rw [onTransform_eq hInStep]
  apply SameDraws.bind_pure_left (SameDraws.refl _)
  intro drop same hSame
  rw [hSame]

/- What is known of a decision from the active faults. -/
def Decides
    (base : FaultInjectorBase)
    (transform : TransformStamped)
    (drop : Bool) : Prop :=
  (¬ Named base transform → drop = false) ∧
    (SurelyDropped base transform → drop = true)

theorem shouldDropTransform_decides
    (hInStep : base.InStep)
    (transform : TransformStamped) :
    Yields (shouldDropTransform rand h base transform)
      (Decides base transform) := by
  intro g drop next hRun
  constructor
  · intro hUnnamed
    rw [shouldDropTransform_of_not_named hInStep hUnnamed]
      at hRun
    cases hRun
    rfl
  · intro hSure
    have hAlways :
        AlwaysDrops
          (shouldDropTransform rand h base transform) :=
      alwaysDrops_of_sure hInStep hSure
    rcases hAlways g with ⟨other, hDrops⟩
    rw [hDrops] at hRun
    cases hRun
    rfl

/- A message is published once the delay is read. -/
theorem onMessage_returns
    (hInStep : base.InStep)
    (msg : TFMessage)
    (g : G)
    {delay : Int}
    (hDelay : base.activeDelay h = .ok delay) :
    ((onMessage rand tf2 h base msg).run g).isSome = true := by
  unfold onMessage
  rw [hDelay, liftM_ok, pure_bind, isSome_bind_iff]
  have hEnds :
      ((msg.transforms.mapM
          (onTransform rand tf2 h base)).run g).isSome =
        true := by
    rw [(transforms_sameDraws hInStep _).isSome_eq]
    exact isSome_mapM (shouldDropTransform_isSome hInStep) _ g
  rcases Option.isSome_iff_exists.mp hEnds with ⟨result, hRun⟩
  exact ⟨result, hRun, rfl⟩

/- It is decided for each transform whether it is dropped. -/
theorem decides_of_drops
    (hInStep : base.InStep)
    {transforms : List TransformStamped}
    {drops : List Bool}
    {g next : G}
    (hDrops :
      (transforms.mapM (shouldDropTransform rand h base)).run
          g =
        some (drops, next)) :
    List.Forall₂ (Decides base) transforms drops := by
  have hDecided :
      Yields
        (transforms.mapM (shouldDropTransform rand h base))
        (List.Forall₂ (Decides base) transforms) :=
    Yields.mapM fun transform _ =>
      shouldDropTransform_decides hInStep transform
  exact hDecided g _ _ hDrops

/- What is published is what the decisions leave. -/
theorem onMessage_publishes
    (hInStep : base.InStep)
    {msg out : TFMessage}
    {g next : G}
    {slept : Int}
    (hRun :
      (onMessage rand tf2 h base msg).run g =
        some ((slept, out), next)) :
    ∃ drops,
      (msg.transforms.mapM
          (shouldDropTransform rand h base)).run g =
        some (drops, next) ∧
      List.Forall₂ (Decides base) msg.transforms drops ∧
        out.transforms =
          kept (touched tf2 h base) msg.transforms drops := by
  unfold onMessage at hRun
  cases hDelay : base.activeDelay h with
  | error e =>
      rw [hDelay] at hRun
      cases hRun
  | ok delay =>
      rw [hDelay, liftM_ok, pure_bind] at hRun
      rcases Option.bind_eq_some_iff.mp hRun with
        ⟨⟨carried, middle⟩, hCarried, hEnd⟩
      cases hEnd
      change
        (msg.transforms.mapM
            (onTransform rand tf2 h base)).run g =
          _ at hCarried
      have hSame :=
        @transforms_sameDraws G N rand tf2 h base hInStep
          msg.transforms
      rcases hSame.cases g with
        ⟨hNone, _⟩ | ⟨made, drops, _, hMade, hDrops, hAll⟩
      · rw [hCarried] at hNone
        cases hNone
      · rw [hCarried] at hMade
        cases hMade
        refine
          ⟨drops, hDrops, decides_of_drops hInStep hDrops, ?_⟩
        rw [hAll.2]
        exact kept_eq_reduceOption _ _ _

/-
  What an injector for transforms does to a message, for all
  its draws. A message is published if the delay is read; it
  has the transforms that are not dropped, in order.
-/
structure TouchesExactlyNamed
    (rand : RandomLibrary G N)
    (tf2 : Tf2)
    (h : HashOrder String)
    (base : FaultInjectorBase) : Prop where
  returns :
    ∀ msg g delay,
      base.activeDelay h = .ok delay →
        ((onMessage rand tf2 h base msg).run g).isSome = true
  publishes :
    ∀ msg g slept out next,
      (onMessage rand tf2 h base msg).run g =
          some ((slept, out), next) →
        ∃ drops,
          (msg.transforms.mapM
              (shouldDropTransform rand h base)).run g =
            some (drops, next) ∧
          List.Forall₂ (Decides base) msg.transforms drops ∧
            out.transforms =
              kept (touched tf2 h base) msg.transforms drops
  unnamed :
    ∀ transform,
      ¬ Named base transform →
        onTransform rand tf2 h base transform =
            pure (some transform) ∧
          touched tf2 h base transform = transform
  shifted :
    ∀ transform,
      (touched tf2 h base transform).transform.translation =
        shiftedBy (namingFaults h base transform)
          transform.transform.translation
  unrounded :
    ∀ k e transform,
      Unrounded e (namingFaults k base transform)
          transform.transform.translation →
        (touched tf2 h base transform).transform.translation =
          shiftedBySums (namingFaults k base transform)
            transform.transform.translation
  dropped :
    ∀ transform g,
      SurelyDropped base transform →
        ∃ next,
          (onTransform rand tf2 h base transform).run g =
            some (none, next)

theorem touchesExactlyNamed_of_inStep
    (rand : RandomLibrary G N)
    (tf2 : Tf2)
    (h : HashOrder String)
    (hInStep : base.InStep) :
    TouchesExactlyNamed rand tf2 h base where
  returns msg g _ hDelay := onMessage_returns hInStep msg g hDelay
  publishes _ _ _ _ _ hRun := onMessage_publishes hInStep hRun
  unnamed transform hUnnamed := by
    have hSame := @touched_of_not_named tf2 h base _ hUnnamed
    refine ⟨?_, hSame⟩
    rw [onTransform_eq hInStep,
      shouldDropTransform_of_not_named hInStep hUnnamed, hSame]
    rfl
  shifted := translation_touched
  unrounded k e transform hUnrounded := by
    rw [translation_touched]
    exact
      shiftedBy_of_unrounded hUnrounded
        (namingFaults_perm h k base transform)
  dropped transform g hSure := by
    have hAlways :
        AlwaysDrops
          (shouldDropTransform rand h base transform) :=
      alwaysDrops_of_sure hInStep hSure
    rcases hAlways g with ⟨next, hDrops⟩
    refine ⟨next, ?_⟩
    rw [onTransform_eq hInStep, StateT.run_bind, hDrops]
    rfl

/-
  For every set of active faults that calls can lead to.
-/
theorem touches_exactly_named
    (rand : RandomLibrary G N)
    (tf2 : Tf2)
    (config : InjectorConfig)
    (calls : List TwistFaultInjector.FaultChange)
    (h : HashOrder String) :
    TouchesExactlyNamed rand tf2 h
      (FaultInjectorBase.afterCalls config calls) :=
  touchesExactlyNamed_of_inStep rand tf2 h
    (inStep_afterCalls config calls)

end tfFaultInjector

------------------------------------------------------------
-- Biases In Another Order
------------------------------------------------------------

namespace tfFaultInjector.RoundedBiases

def fault (id bias : String) : FaultConfig :=
  { id := id
    injectorId := "tf"
    config :=
      .ofList
        [("parent_frame", "map"), ("child_frame", "odom"),
          ("x_bias", bias)] }

def config : InjectorConfig :=
  { id := "tf", type := "tf" }

/- Three active faults name the same transform. -/
def calls : List TwistFaultInjector.FaultChange :=
  [.add (fault "a" "0.3"), .add (fault "b" "0.1"),
    .add (fault "c" "0.2"), .activate "a", .activate "b",
    .activate "c"]

def transform : TransformStamped :=
  { header := { frameId := "map" }
    childFrameId := "odom" }

/- No rotation is read. -/
def still : Tf2 where
  getRPY := fun _ => (.zero, .zero, .zero)
  setRPY := fun _ _ _ => {}
  normalize := id

/- Every draw is zero. -/
def rand : RandomLibrary Unit Unit where
  canonical := fun g => (0, g)
  newNormal := ()
  standardNormal := fun state g => ((0, state), g)

/- The transform, moved to a place on its first axis. -/
def movedTo (x : ℚ) : TransformStamped :=
  { transform with
    transform := { translation := { x := .finite x } } }

/- What is published, for an order of the faults. -/
def published (h : HashOrder String) : Option TFMessage :=
  ((onMessage rand still h
        (FaultInjectorBase.afterCalls config calls)
        { transforms := [transform] }).run ()).map
    fun result => result.1.2

/- A shift that holds for all orders is what is published. -/
theorem eq_of_published
    {translation : GeometryMsgs.Vector3}
    (hShift :
      ∀ h slept out next,
        (onMessage rand still h
              (FaultInjectorBase.afterCalls config calls)
              { transforms := [transform] }).run () =
            some ((slept, out), next) →
          ∀ kept ∈ out.transforms,
            kept.transform.translation = translation)
    {h : HashOrder String}
    {x : ℚ}
    (hPublished :
      published h = some { transforms := [movedTo x] }) :
    translation = { x := .finite x } := by
  rcases Option.map_eq_some_iff.mp hPublished with
    ⟨⟨⟨slept, out⟩, next⟩, hRun, hOut⟩
  have hKept := hShift h slept out next hRun (movedTo x)
  change out = _ at hOut
  rw [hOut] at hKept
  exact (hKept List.mem_cons_self).symm

/- One shift for all orders of the faults is not possible. -/
theorem shift_depends_on_order :
    ¬ ∀ (rand : RandomLibrary Unit Unit) (tf2 : Tf2)
        (config : InjectorConfig)
        (calls : List TwistFaultInjector.FaultChange)
        (transform : TransformStamped),
      ∃ translation,
        ∀ h slept out next,
          (onMessage rand tf2 h
                (FaultInjectorBase.afterCalls config calls)
                { transforms := [transform] }).run () =
              some ((slept, out), next) →
            ∀ kept ∈ out.transforms,
              kept.transform.translation = translation := by
  intro hAll
  rcases hAll rand still config calls transform with
    ⟨translation, hShift⟩
  have hFirst :
      published .insertion =
        some
          { transforms :=
              [movedTo (1351079888211149 / 2251799813685248)] } := by
    decide +kernel
  have hOther :
      published (.last "b") =
        some
          { transforms :=
              [movedTo (5404319552844595 / 9007199254740992)] } := by
    decide +kernel
  have hSame := eq_of_published hShift hFirst
  rw [eq_of_published hShift hOther] at hSame
  exact absurd hSame (by decide +kernel)

end tfFaultInjector.RoundedBiases
