import FaultInjection.Injectors.AcceptedValues
import FaultInjection.Injectors.LibraryCalls
import FaultInjection.Injectors.UnsetKeys

/-
  Which calls of the library the callbacks make.

  Rules take the calls of a computation to those of its parts.
  A guard of a call compares with zero what the active faults
  set. Dropping a message keeps all preconditions, and so do
  the changes of four injectors.

  Key definitions include:
    * `FaultInjectorBase.SetsAbove`
    * `TopicInjector.CallsAllowed`
    * `TopicInjector.Satisfies`

  Key theorems include:
    * `allNotes_bind_const_iff`
    * `lt_activeMaxDouble_iff`
    * `TopicInjector.callsAllowed_iff`
    * `odomFaultInjector.change_allowed`
    * `jointStateFaultInjector.change_allowed`
    * `twistFaultInjector.change_allowed`
    * `tfFaultInjector.onMessage_allowed`
-/

open FaultInjectorBase LibraryCall Noting NumberText

------------------------------------------------------------
-- Reading And Dropping
------------------------------------------------------------

section Reads

variable {G A B : Type}
variable {g : G}

/- What follows a read is noted if the read succeeds. -/
theorem allNotes_read_iff
    (e : Except Errc A)
    (f : A → Calling G B) :
    AllNotes Allowed ((liftM e : Calling G A) >>= f) g ↔
      ∀ a, e = .ok a → AllNotes Allowed (f a) g := by
  rw [allNotes_bind_iff]
  simp only [allNotes_liftM_except, true_and,
    erase_liftM_except, twistFaultInjector.run_lift_iff]
  constructor
  · intro hAll a hRead
    exact hAll a g ⟨hRead, rfl⟩
  · rintro hAll a next ⟨hRead, hSame⟩
    rw [hSame]
    exact hAll a hRead

/- What follows a draw is noted, the draw is not. -/
theorem allNotes_draw_iff
    (x : Drawing G A)
    (f : A → Calling G B) :
    AllNotes Allowed ((liftM x : Calling G A) >>= f) g ↔
      ∀ a next, x.run g = some (a, next) →
        AllNotes Allowed (f a) next := by
  rw [allNotes_bind_iff]
  simp only [allNotes_liftM, true_and, erase_liftM]

/- A call is noted before what follows. -/
theorem allNotes_noteAll_bind_iff
    (calls : List LibraryCall)
    (x : Calling G B) :
    AllNotes Allowed
        ((noteAll calls : Calling G Unit) >>= fun _ => x) g ↔
      (∀ c ∈ calls, Allowed c) ∧ AllNotes Allowed x g := by
  rw [allNotes_bind_iff, allNotes_noteAll_iff]
  simp [StateT.run, Noting.erase, noteAll]

theorem allNotes_note_bind_iff
    (c : LibraryCall)
    (x : Calling G B) :
    AllNotes Allowed
        ((note c : Calling G Unit) >>= fun _ => x) g ↔
      Allowed c ∧ AllNotes Allowed x g := by
  unfold note
  rw [allNotes_noteAll_bind_iff, List.forall_mem_singleton]

/-
  When the notes of what follows are allowed does not depend
  on the result. There has to be one.
-/
theorem allNotes_bind_const_iff
    {x : Calling G A}
    {f : A → Calling G B}
    {condition : Prop}
    (hFirst : AllNotes Allowed x g)
    (hRest :
      ∀ a next,
        (erase x).run g = some (a, next) →
          (AllNotes Allowed (f a) next ↔ condition)) :
    AllNotes Allowed (x >>= f) g ↔
      (((erase x).run g).isSome = true → condition) := by
  rw [allNotes_bind_iff]
  constructor
  · rintro ⟨_, hAll⟩ hSome
    rcases Option.isSome_iff_exists.mp hSome with
      ⟨⟨a, next⟩, hRun⟩
    exact (hRest a next hRun).mp (hAll a next hRun)
  · intro hCondition
    refine ⟨hFirst, fun a next hRun => ?_⟩
    refine (hRest a next hRun).mpr (hCondition ?_)
    rw [hRun]
    rfl

end Reads

namespace FaultInjectorBase

/- The values for the key are read without a throw. -/
def SumRead
    (h : HashOrder String)
    (base : FaultInjectorBase)
    (key : String) : Prop :=
  ∃ sum, base.activeSumDouble h key .zero = .ok sum

def MaximumRead
    (h : HashOrder String)
    (base : FaultInjectorBase)
    (key : String) : Prop :=
  ∃ largest, base.activeMaxDouble h key .zero = .ok largest

/- Some active fault sets the key to more than the bound. -/
def SetsAbove
    (base : FaultInjectorBase)
    (key : String)
    (bound : Number) : Prop :=
  ∃ value,
    ActiveValue base key value ∧ bound.lt value = true

end FaultInjectorBase

section Values

variable {h : HashOrder String}
variable {base : FaultInjectorBase}
variable {key : String}
variable {value : Number}

/- The largest value from zero on is not negative. -/
theorem zero_le_of_activeMaxDouble
    (hMax : base.activeMaxDouble h key .zero = .ok value) :
    Number.zero.le value = true :=
  (activeMaxDouble_spec hMax (by decide)).2.1

theorem zero_lt_of_ne_zero
    (hMax : base.activeMaxDouble h key .zero = .ok value)
    (hNonzero : value ≠ .zero) :
    Number.zero.lt value = true := by
  have hNonneg := zero_le_of_activeMaxDouble hMax
  rw [Number.le_iff_not_lt] at hNonneg
  by_contra hNot
  rw [Bool.not_eq_true] at hNot
  exact
    hNonzero
      (Number.eq_of_not_lt hNonneg.1 hNonneg.2.1 hNonneg.2.2
        hNot)

theorem zero_lt_of_not_le_zero
    (hMax : base.activeMaxDouble h key .zero = .ok value)
    (hPositive : ¬ value.le .zero = true) :
    Number.zero.lt value = true := by
  refine zero_lt_of_ne_zero hMax ?_
  rintro rfl
  exact hPositive Number.zero_le_zero

theorem not_le_zero_of_zero_lt
    (hPositive : Number.zero.lt value = true) :
    ¬ value.le .zero = true := by
  intro hBelow
  rw [Number.le_iff_not_lt, hPositive] at hBelow
  exact Bool.noConfusion hBelow.2.2

/- The largest value is above a bound if some value is. -/
theorem lt_activeMaxDouble_iff
    (hMax : base.activeMaxDouble h key .zero = .ok value)
    {bound : Number}
    (hBound : Number.zero.le bound = true) :
    bound.lt value = true ↔ SetsAbove base key bound := by
  rcases activeMaxDouble_spec hMax (by decide) with
    ⟨hOwn, _, hLargest⟩
  rw [Number.le_iff_not_lt] at hBound
  constructor
  · intro hAbove
    rcases hOwn with hZero | hActive
    · rw [hZero, hBound.2.2] at hAbove
      cases hAbove
    · exact ⟨value, hActive, hAbove⟩
  · rintro ⟨v, hActive, hAbove⟩
    have hNumber : v ≠ .nan := by
      rintro rfl
      simp at hAbove
    have hBelow := hLargest v hActive hNumber
    rw [Number.le_iff_not_lt] at hBelow
    by_contra hNot
    rw [Bool.not_eq_true] at hNot
    have hChain :=
      Number.not_lt_trans hBelow.1 hNot hBelow.2.2
    rw [hChain] at hAbove
    cases hAbove

theorem setsAbove_zero_iff
    (hMax : base.activeMaxDouble h key .zero = .ok value) :
    SetsAbove base key .zero ↔
      Number.zero.lt value = true :=
  (lt_activeMaxDouble_iff hMax Number.zero_le_zero).symm

theorem eq_zero_iff_not_lt
    (hMax : base.activeMaxDouble h key .zero = .ok value) :
    value = .zero ↔ ¬ Number.zero.lt value = true := by
  constructor
  · rintro rfl
    simp
  · intro hNot
    by_contra hNonzero
    exact hNot (zero_lt_of_ne_zero hMax hNonzero)

end Values

namespace TopicInjector

variable {G N S M : Type}

theorem zero_le_one :
    (Number.zero : Number).le .one = true := by
  decide

/- Dropping calls the library as it may be called. -/
theorem notedShouldDrop_allowed
    (rand : RandomLibrary G N)
    (h : HashOrder String)
    (base : FaultInjectorBase)
    (g : G) :
    AllNotes Allowed (notedShouldDrop rand h base) g := by
  unfold notedShouldDrop
  rw [allNotes_read_iff]
  intro probability _
  rw [allNotes_ite_iff]
  split
  · exact allNotes_pure false
  · rw [allNotes_note_bind_iff, allNotes_note_bind_iff]
    exact ⟨zero_le_one, zero_le_one, allNotes_liftM _⟩

/- What a message needs is needed by its changes. -/
theorem notedPrepare_allowed_iff
    (rand : RandomLibrary G N)
    (noted : NotedChange G S M)
    (moment : Moment)
    (msg : M)
    (s : TopicInjector G S M)
    (g : G) :
    AllNotes Allowed (notedPrepare rand noted moment msg s)
        g ↔
      ∀ next,
        (shouldDrop rand moment.h s.base).run g =
            some (false, next) →
          AllNotes Allowed (noted moment s.base msg s.memory)
            next := by
  unfold notedPrepare
  rw [allNotes_bind_iff]
  simp only [notedShouldDrop_allowed, true_and,
    erase_notedShouldDrop, allNotes_ite_iff]
  constructor
  · intro hAll next hKept
    have hRest := hAll false next hKept
    rw [if_neg Bool.false_ne_true, allNotes_bind_iff] at hRest
    exact hRest.1
  · intro hChange drop next hDrop
    cases drop with
    | true =>
        rw [if_pos rfl]
        exact allNotes_pure _
    | false =>
        rw [if_neg Bool.false_ne_true, allNotes_bind_iff]
        refine ⟨hChange next hDrop, fun result next' _ => ?_⟩
        rw [allNotes_read_iff]
        exact fun delay _ => allNotes_pure _

/- A callback with accepted faults calls what it may call. -/
def CallsAllowed
    (type : String)
    (rand : RandomLibrary G N)
    (noted : NotedChange G S M)
    (s : TopicInjector G S M) : Action M → Prop
| .arrive moment msg =>
    s.base.Accepted type →
      AllNotes Allowed (notedPrepare rand noted moment msg s)
        s.rng
| .flush _ => True
| .change _ => True

/- A message that is not dropped satisfies the condition. -/
def Satisfies
    (type : String)
    (rand : RandomLibrary G N)
    (condition :
      HashOrder String → FaultInjectorBase → M → Prop)
    (s : TopicInjector G S M) : Action M → Prop
| .arrive moment msg =>
    s.base.Accepted type →
      ∀ next,
        (shouldDrop rand moment.h s.base).run s.rng =
            some (false, next) →
          condition moment.h s.base msg
| .flush _ => True
| .change _ => True

/-
  With an exact condition for the changes, this is the one
  for the callback.
-/
theorem callsAllowed_iff
    {type : String}
    {rand : RandomLibrary G N}
    {noted : NotedChange G S M}
    {condition :
      HashOrder String → FaultInjectorBase → M → Prop}
    (hChange :
      ∀ moment base msg memory g,
        base.Accepted type →
          (AllNotes Allowed (noted moment base msg memory) g ↔
            condition moment.h base msg))
    (s : TopicInjector G S M)
    (a : Action M) :
    CallsAllowed type rand noted s a ↔
      Satisfies type rand condition s a := by
  cases a with
  | flush now => exact Iff.rfl
  | change faultChange => exact Iff.rfl
  | arrive moment msg =>
      refine imp_congr_right fun hAccepted => ?_
      rw [notedPrepare_allowed_iff]
      refine forall_congr' fun next => ?_
      refine imp_congr_right fun _ => ?_
      exact hChange _ _ _ _ _ hAccepted

end TopicInjector

------------------------------------------------------------
-- Injectors Without A Condition
------------------------------------------------------------

namespace odomFaultInjector

variable {G N : Type}
variable {rand : RandomLibrary G N}

theorem notedNoise_allowed
    (stddev : Number)
    (g : G) :
    AllNotes Allowed (notedNoise rand stddev) g := by
  unfold notedNoise
  rw [allNotes_ite_iff]
  split
  · rename_i hPositive
    rw [allNotes_note_bind_iff, allNotes_draw_iff]
    exact ⟨hPositive, fun _ _ _ => allNotes_pure _⟩
  · exact allNotes_pure none

theorem change_allowed
    (tf2 : Tf2)
    (moment : Moment)
    (base : FaultInjectorBase)
    (msg : Odometry)
    (memory : Unit)
    (g : G) :
    AllNotes Allowed
      (notedChange rand tf2 moment base msg memory) g := by
  unfold notedChange
  rw [allNotes_draw_iff]
  intro out next _
  rw [allNotes_bind_iff]
  refine ⟨?_, fun out next _ => ?_⟩
  · unfold notedApplyNoise
    rw [allNotes_read_iff]
    intro xStddev _
    rw [allNotes_read_iff]
    intro yStddev _
    rw [allNotes_bind_iff]
    refine ⟨notedNoise_allowed _ _, fun _ _ _ => ?_⟩
    rw [allNotes_bind_iff]
    exact
      ⟨notedNoise_allowed _ _, fun _ _ _ => allNotes_pure _⟩
  · rw [allNotes_draw_iff]
    intro out next _
    rw [allNotes_bind_iff]
    refine ⟨?_, fun out next _ => ?_⟩
    · unfold notedApplyYawNoise
      rw [allNotes_read_iff]
      intro stddev hStddev
      rw [allNotes_ite_iff]
      split
      · exact allNotes_pure _
      · rename_i hNonzero
        rw [allNotes_note_bind_iff, allNotes_draw_iff]
        exact
          ⟨zero_lt_of_ne_zero hStddev hNonzero,
            fun _ _ _ => allNotes_pure _⟩
    · rw [allNotes_draw_iff]
      exact fun _ _ _ => allNotes_pure _

end odomFaultInjector

namespace jointStateFaultInjector

variable {G N : Type}
variable {rand : RandomLibrary G N}

theorem change_allowed
    (moment : Moment)
    (base : FaultInjectorBase)
    (msg : JointState)
    (memory : Unit)
    (g : G) :
    AllNotes Allowed
      (notedChange rand moment base msg memory) g := by
  unfold notedChange
  rw [allNotes_draw_iff]
  intro out next _
  rw [allNotes_bind_iff]
  refine ⟨?_, fun _ _ _ => allNotes_pure _⟩
  unfold notedApplyNoise
  rw [allNotes_read_iff]
  intro stddev hStddev
  rw [allNotes_ite_iff]
  split
  · exact allNotes_pure _
  · rename_i hNonzero
    rw [allNotes_note_bind_iff, allNotes_draw_iff]
    exact
      ⟨zero_lt_of_ne_zero hStddev hNonzero,
        fun _ _ _ => allNotes_pure _⟩

end jointStateFaultInjector

namespace twistFaultInjector

variable {G : Type}

/- A bound from zero on is not below its negative. -/
theorem neg_le_of_zero_le
    {bound : Number}
    (hNonneg : Number.zero.le bound = true) :
    bound.neg.le bound = true := by
  cases bound with
  | finite q =>
      have hQ : 0 ≤ q := by simpa [Number.zero] using hNonneg
      have hOrder : -q ≤ q := by linarith
      simpa [Number.neg] using hOrder
  | posInf => rfl
  | negInf => simp [Number.le, Number.zero] at hNonneg
  | nan => simp [Number.le] at hNonneg

theorem notedClampTo_allowed
    (bound value : Number)
    (g : G) :
    AllNotes Allowed (notedClampTo bound value) g := by
  unfold notedClampTo
  rw [allNotes_ite_iff]
  split
  · rename_i hNonneg
    rw [allNotes_note_bind_iff]
    exact ⟨neg_le_of_zero_le hNonneg, allNotes_pure _⟩
  · exact allNotes_pure _

theorem change_allowed
    (moment : Moment)
    (base : FaultInjectorBase)
    (msg : Twist)
    (memory : Memory)
    (g : G) :
    AllNotes Allowed (notedChange moment base msg memory)
      g := by
  unfold notedChange
  rw [allNotes_read_iff]
  intro chosen _
  rw [allNotes_read_iff]
  intro scaled _
  rw [allNotes_bind_iff]
  refine ⟨?_, fun _ _ _ => ?_⟩
  · unfold notedApplyClamp
    rw [allNotes_read_iff]
    intro maxLinearX _
    rw [allNotes_bind_iff]
    refine ⟨notedClampTo_allowed _ _ _, fun _ _ _ => ?_⟩
    rw [allNotes_read_iff]
    intro maxAngularZ _
    rw [allNotes_bind_iff]
    exact
      ⟨notedClampTo_allowed _ _ _,
        fun _ _ _ => allNotes_pure _⟩
  · rw [allNotes_read_iff]
    intro out _
    exact allNotes_pure _

end twistFaultInjector

namespace tfFaultInjector

open GeometryMsgs (TransformStamped)

variable {G N : Type}
variable {rand : RandomLibrary G N}
variable {base : FaultInjectorBase}

theorem notedAnyDrops_allowed
    (transform : TransformStamped)
    (faultIds : List String)
    (g : G) :
    AllNotes Allowed
      (notedAnyDrops rand base transform faultIds) g := by
  induction faultIds generalizing g with
  | nil => exact allNotes_pure false
  | cons faultId rest ih =>
      unfold notedAnyDrops
      rw [allNotes_read_iff]
      intro fault _
      simp only [allNotes_ite_iff]
      split
      · exact ih g
      · split
        · exact ih g
        · split
          · exact allNotes_pure true
          · rw [allNotes_note_bind_iff, allNotes_draw_iff]
            refine
              ⟨TopicInjector.zero_le_one,
                fun draw next _ => ?_⟩
            rw [allNotes_ite_iff]
            split
            · exact allNotes_pure true
            · exact ih next

theorem onMessage_allowed
    (tf2 : Tf2)
    (h : HashOrder String)
    (msg : TFMessage)
    (g : G) :
    AllNotes Allowed (notedOnMessage rand tf2 h base msg)
      g := by
  unfold notedOnMessage
  rw [allNotes_read_iff]
  intro delay _
  rw [allNotes_bind_iff]
  refine ⟨allNotes_mapM ?_, fun _ _ _ => allNotes_pure _⟩
  intro transform _ next
  unfold notedOnTransform
  rw [allNotes_bind_iff]
  refine ⟨notedAnyDrops_allowed _ _ _, fun drops _ _ => ?_⟩
  rw [allNotes_ite_iff]
  split
  · exact allNotes_pure none
  · rw [allNotes_draw_iff]
    intro moved _ _
    rw [allNotes_draw_iff]
    exact fun _ _ _ => allNotes_pure _

end tfFaultInjector
