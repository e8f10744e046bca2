import FaultInjection.Foundations.Yields
import FaultInjection.Injectors.DelayedTopics
import FaultInjection.Injectors.HashOrderIndependence

/-
  What the helpers of the injectors compute for a key that no
  active fault sets, and when no fault is active.

  Key definitions include:
    * `FaultInjectorBase.Sets`
    * `FaultInjectorBase.NoneActive`

  Key theorems include:
    * `FaultInjectorBase.sum_yields`
    * `FaultInjectorBase.max_yields`
    * `FaultInjectorBase.foldActive_of_noneActive`
-/

open NumberText

------------------------------------------------------------
-- Lifted Computations
------------------------------------------------------------

section Lift

variable {G A B : Type}
variable {g : G}

/- A lifted computation draws nothing. -/
theorem Yields.lift
    {x : Except Errc A}
    {P : A → Prop}
    (hValue : ∀ a, x = .ok a → P a) :
    Yields (liftM x : Drawing G A) P := by
  intro g a next hRun
  rcases twistFaultInjector.run_lift_iff.mp hRun with
    ⟨hRead, _⟩
  exact hValue a hRead

/- What is known of a lifted value holds of the value. -/
theorem Yields.of_lift
    {x : Except Errc A}
    {P : A → Prop}
    {a : A}
    (hYields : Yields (liftM x : Drawing Unit A) P)
    (hValue : x = .ok a) :
    P a := by
  refine hYields () a () ?_
  exact twistFaultInjector.run_lift_iff.mpr ⟨hValue, rfl⟩

@[simp] theorem liftM_ok (a : A) :
    (liftM (Except.ok a : Except Errc A) : Drawing G A) =
      pure a := rfl

theorem isSome_read_bind_iff
    (e : Except Errc A)
    (f : A → Drawing G B) :
    (((liftM e : Drawing G A) >>= f).run g).isSome = true ↔
      ∃ a, e = .ok a ∧ ((f a).run g).isSome = true := by
  rw [isSome_bind_iff]
  simp only [Prod.exists, twistFaultInjector.run_lift_iff]
  constructor
  · rintro ⟨a, next, ⟨hRead, hSame⟩, hRest⟩
    rw [hSame] at hRest
    exact ⟨a, hRead, hRest⟩
  · rintro ⟨a, hRead, hRest⟩
    exact ⟨a, g, ⟨hRead, rfl⟩, hRest⟩

/- A read with a rest that always ends. -/
theorem isSome_read_iff
    (e : Except Errc A)
    {f : A → Drawing G B}
    (hEnds : ∀ a, ((f a).run g).isSome = true) :
    (((liftM e : Drawing G A) >>= f).run g).isSome = true ↔
      ∃ a, e = .ok a := by
  rw [isSome_read_bind_iff]
  exact exists_congr fun a => and_iff_left (hEnds a)

end Lift

------------------------------------------------------------
-- Keys That No Active Fault Sets
------------------------------------------------------------

namespace FaultInjectorBase

variable {h : HashOrder String}
variable {injector : FaultInjectorBase}
variable {key : String}

/- Some active fault has a text for the key. -/
def Sets
    (injector : FaultInjectorBase)
    (key : String) : Prop :=
  ∃ text, injector.ActiveText key text

/- No fault is active. -/
def NoneActive (injector : FaultInjectorBase) : Prop :=
  ∀ faultId, injector.isActive faultId = false

theorem getFaultConfig_of_faultAt
    {faultId : String}
    {fault : FaultConfig}
    (hFault : injector.faultAt faultId = .ok fault) :
    injector.getFaultConfig faultId = some fault := by
  unfold faultAt at hFault
  unfold getFaultConfig
  cases hStored : injector.faults.find? faultId with
  | none => simp [hStored] at hFault
  | some stored => simpa [hStored] using hFault

theorem find?_of_unset
    {faultId : String}
    {fault : FaultConfig}
    (hUnset : ¬ injector.Sets key)
    (hActive : faultId ∈ injector.activeFaultIds h)
    (hFault : injector.faultAt faultId = .ok fault) :
    fault.config.find? key = none := by
  cases hFind : fault.config.find? key with
  | none => rfl
  | some text =>
      refine absurd ⟨text, faultId, fault, ?_⟩ hUnset
      exact
        ⟨mem_activeFaultIds_iff.mp hActive,
          getFaultConfig_of_faultAt hFault, hFind⟩

/- Nothing is read for the key. -/
theorem readActive_unset
    {β : Type}
    {parse : String → Except Errc β}
    {reads : List (Option β)}
    (hUnset : ¬ injector.Sets key)
    (hRead : readActive parse h injector key = .ok reads) :
    ∀ read ∈ reads, read = none := by
  intro read hMem
  have hItems := Except.mapM_eq_ok_iff.mp hRead
  rcases hItems.exists_of_mem_right hMem with
    ⟨faultId, hActive, hItem⟩
  rcases Except.bind_eq_ok_iff.mp hItem with
    ⟨fault, hFault, hConfigured⟩
  unfold configured at hConfigured
  rw [find?_of_unset hUnset hActive hFault] at hConfigured
  cases hConfigured
  rfl

theorem foldl_unset
    {β γ : Type}
    {combine : γ → Option β → γ}
    {start : γ}
    {reads : List (Option β)}
    (hKeep : combine start none = start)
    (hUnset : ∀ read ∈ reads, read = none) :
    reads.foldl combine start = start := by
  induction reads with
  | nil => rfl
  | cons read reads ih =>
      have hHead := hUnset read List.mem_cons_self
      rw [List.foldl_cons, hHead, hKeep]
      refine ih fun other hOther => ?_
      exact hUnset other (List.mem_cons_of_mem _ hOther)

/- A helper sees nothing for the key. -/
theorem reads_yield
    {G β γ : Type}
    {parse : String → Except Errc β}
    {combine : List (Option β) → γ}
    {start : γ}
    (hUnread :
      ∀ reads, (∀ read ∈ reads, read = none) →
        combine reads = start) :
    Yields
      (liftM ((readActive parse h injector key).map combine) :
        Drawing G γ)
      fun value => ¬ injector.Sets key → value = start := by
  refine Yields.lift fun value hValue hUnset => ?_
  cases hRead : readActive parse h injector key with
  | error e =>
      rw [hRead] at hValue
      cases hValue
  | ok reads =>
      rw [hRead] at hValue
      cases hValue
      exact hUnread reads (readActive_unset hUnset hRead)

end FaultInjectorBase

------------------------------------------------------------
-- Helpers
------------------------------------------------------------

namespace FaultInjectorBase

variable {G : Type}
variable (h : HashOrder String)
variable (injector : FaultInjectorBase)
variable (key : String)

theorem sum_yields :
    Yields
      (liftM (injector.activeSumDouble h key .zero) :
        Drawing G Number)
      fun value => ¬ injector.Sets key → value = .zero := by
  rw [activeSumDouble_eq]
  refine reads_yield fun reads hNone => ?_
  exact foldl_unset (Number.add_zero .zero) hNone

theorem max_yields (fallback : Number) :
    Yields
      (liftM (injector.activeMaxDouble h key fallback) :
        Drawing G Number)
      fun value =>
        ¬ injector.Sets key → value = fallback := by
  rw [activeMaxDouble_eq]
  refine reads_yield fun reads hNone => ?_
  refine foldl_unset ?_ hNone
  unfold Number.max
  exact ite_self fallback

theorem product_yields :
    Yields
      (liftM
        (pointCloudFaultInjector.activeProductDouble h injector
          key .one) : Drawing G Number)
      fun value => ¬ injector.Sets key → value = .one := by
  rw [pointCloudFaultInjector.activeProductDouble_eq]
  refine reads_yield fun reads hNone => ?_
  exact foldl_unset rfl hNone

theorem productOrDefault_yields (fallback : Number) :
    Yields
      (liftM
        (pointCloudFaultInjector.activeProductDoubleOrDefault h
          injector key fallback) : Drawing G Number)
      fun value =>
        ¬ injector.Sets key → value = fallback := by
  rw [pointCloudFaultInjector.activeProductDoubleOrDefault_eq]
  refine reads_yield fun reads hNone => ?_
  have hFactors :
      reads.foldl pointCloudFaultInjector.multiplied none =
        none :=
    foldl_unset rfl hNone
  rw [hFactors]
  rfl

end FaultInjectorBase

------------------------------------------------------------
-- No Active Faults
------------------------------------------------------------

namespace FaultInjectorBase

variable {injector : FaultInjectorBase}

/- No fault is visited. -/
theorem activeFaultIds_of_noneActive
    (hNone : injector.NoneActive)
    (h : HashOrder String) :
    injector.activeFaultIds h = [] := by
  refine List.eq_nil_iff_forall_not_mem.mpr ?_
  intro faultId hMem
  have hActive := mem_activeFaultIds_iff.mp hMem
  rw [hNone faultId] at hActive
  cases hActive

theorem foldActive_of_noneActive
    {β : Type}
    (hNone : injector.NoneActive)
    (h : HashOrder String)
    (combine : β → FaultConfig → Except Errc β)
    (start : β) :
    injector.foldActive h combine start = .ok start := by
  unfold foldActive
  rw [activeFaultIds_of_noneActive hNone]
  rfl

theorem activeBool_of_noneActive
    (hNone : injector.NoneActive)
    (h : HashOrder String)
    (key : String)
    (fallback : Bool) :
    injector.activeBool h key fallback = .ok fallback := by
  unfold activeBool
  rw [activeFaultIds_of_noneActive hNone]
  rfl

end FaultInjectorBase
