import FaultInjection.Injectors.ActiveValues
import FaultInjection.Injectors.ScanFaultInjector

/-
  Which helpers give the same result in whatever order the
  active faults are visited.

  Sums, products, largest and smallest values do not depend
  on the order. A first match and a last write do, unless the
  active faults agree.

  Key definitions include:
    * `FaultInjectorBase.ActiveRegistered`
    * `FaultInjectorBase.ActiveText`
    * `scanFaultInjector.ActiveSector`
    * `scanFaultInjector.SectorsAgree`

  Key theorems include:
    * `FaultInjectorBase.activeFaultIds_perm`
    * `FaultInjectorBase.first_text_eq_iff`
    * `scanFaultInjector.applySectorDropout_eq_iff`
    * `hash_order_irrelevant_iff`
-/

open NumberText

------------------------------------------------------------
-- Active Faults Are Registered
------------------------------------------------------------

namespace FaultInjectorBase

/- Every active fault is registered. -/
def ActiveRegistered (injector : FaultInjectorBase) : Prop :=
  ∀ faultId,
    injector.isActive faultId = true →
      injector.hasFault faultId = true

variable {injector : FaultInjectorBase}

theorem activeRegistered_new (config : InjectorConfig) :
    ActiveRegistered { config := config } := by
  intro faultId hActive
  simp [isActive] at hActive

theorem ActiveRegistered.addFault
    (hRegistered : injector.ActiveRegistered)
    (fault : FaultConfig) :
    (injector.addFault fault).ActiveRegistered := by
  intro faultId hActive
  rw [isActive_addFault, Bool.and_eq_true] at hActive
  rw [hasFault_addFault, hRegistered faultId hActive.2,
    Bool.or_true]

theorem ActiveRegistered.setActive
    (hRegistered : injector.ActiveRegistered)
    (otherId : String)
    (value : Bool) :
    (injector.setActive otherId value).ActiveRegistered := by
  intro faultId hActive
  rw [isActive_setActive] at hActive
  rw [hasFault_setActive]
  by_cases hSame :
      otherId = faultId ∧ injector.hasFault otherId = true
  · rw [← hSame.1]
    exact hSame.2
  · rw [if_neg hSame] at hActive
    exact hRegistered faultId hActive

theorem ActiveRegistered.setFaultConfigValue
    (hRegistered : injector.ActiveRegistered)
    {faultId key text : String}
    {updated : FaultInjectorBase}
    (hSet :
      injector.setFaultConfigValue faultId key text =
        some updated) :
    updated.ActiveRegistered := by
  intro otherId hActive
  rw [isActive_of_setFaultConfigValue hSet] at hActive
  rw [hasFault_of_setFaultConfigValue hSet]
  exact hRegistered otherId hActive

theorem activeRegistered_clearFaults :
    injector.clearFaults.ActiveRegistered := by
  intro faultId hActive
  rw [isActive_clearFaults] at hActive
  cases hActive

/- Looking up an active fault does not throw. -/
theorem ActiveRegistered.faultAt
    (hRegistered : injector.ActiveRegistered)
    {faultId : String}
    (hActive : injector.isActive faultId = true) :
    ∃ fault,
      injector.getFaultConfig faultId = some fault ∧
        injector.faultAt faultId = .ok fault := by
  rcases (hasFault_iff injector faultId).mp
      (hRegistered faultId hActive) with ⟨fault, hFault⟩
  refine ⟨fault, hFault, ?_⟩
  unfold getFaultConfig at hFault
  unfold FaultInjectorBase.faultAt
  rw [hFault]

/- The faults that a loop visits are found. -/
theorem ActiveRegistered.find_visited
    (hRegistered : injector.ActiveRegistered)
    (h : HashOrder String) :
    ∀ faultId ∈ injector.activeFaultIds h,
      ∃ fault,
        injector.getFaultConfig faultId = some fault ∧
          injector.faultAt faultId = .ok fault :=
  fun _ hMember =>
    hRegistered.faultAt (mem_activeFaultIds_iff.mp hMember)

/- So are they where numbers are drawn on the way. -/
theorem ActiveRegistered.draw_visited
    (hRegistered : injector.ActiveRegistered)
    (h : HashOrder String)
    (G : Type) :
    ∀ faultId ∈ injector.activeFaultIds h,
      ∃ fault,
        injector.getFaultConfig faultId = some fault ∧
          (liftM (injector.faultAt faultId) :
              Drawing G FaultConfig) =
            pure fault := by
  intro faultId hMember
  rcases hRegistered.find_visited h faultId hMember with
    ⟨fault, hFault, hAt⟩
  refine ⟨fault, hFault, ?_⟩
  rw [hAt]
  rfl

end FaultInjectorBase

------------------------------------------------------------
-- Orders Of The Active Faults
------------------------------------------------------------

namespace FaultInjectorBase

variable {injector : FaultInjectorBase}

/- Two iterations visit the same active faults. -/
theorem activeFaultIds_perm
    (h k : HashOrder String)
    (injector : FaultInjectorBase) :
    (injector.activeFaultIds h).Perm
      (injector.activeFaultIds k) :=
  (UnorderedMap.enumerate_perm h k injector.active).filterMap _

/- An active fault can be the first one that is visited. -/
theorem activeFaultIds_first
    {faultId : String}
    (hActive : injector.isActive faultId = true) :
    ∃ rest,
      injector.activeFaultIds (HashOrder.first faultId) =
        faultId :: rest := by
  have hFlag : injector.active.find? faultId = some true := by
    simpa [isActive] using hActive
  have hKey : faultId ∈ injector.active.keys :=
    (UnorderedMap.mem_keys_iff _ _).mpr ⟨true, hFlag⟩
  unfold activeFaultIds UnorderedMap.enumerate HashOrder.first
  simp only [if_pos hKey, List.filterMap_cons, hFlag,
    Option.map_some, if_true]
  exact ⟨_, rfl⟩

/- An active fault can be the last one that is visited. -/
theorem activeFaultIds_last
    {faultId : String}
    (hActive : injector.isActive faultId = true) :
    ∃ before,
      injector.activeFaultIds (HashOrder.last faultId) =
        before ++ [faultId] := by
  have hFlag : injector.active.find? faultId = some true := by
    simpa [isActive] using hActive
  have hKey : faultId ∈ injector.active.keys :=
    (UnorderedMap.mem_keys_iff _ _).mpr ⟨true, hFlag⟩
  unfold activeFaultIds UnorderedMap.enumerate HashOrder.last
  simp only [if_pos hKey, List.filterMap_append,
    List.filterMap_cons, List.filterMap_nil, hFlag,
    Option.map_some, if_true]
  exact ⟨_, rfl⟩

/-
  A helper that combines what it reads, in whatever order,
  gives the same value.
-/
theorem sameValue_readActive
    {β γ : Type}
    (parse : String → Except Errc β)
    {combine : γ → Option β → γ}
    (hComm :
      ∀ value x y,
        combine (combine value x) y =
          combine (combine value y) x)
    (h k : HashOrder String)
    (injector : FaultInjectorBase)
    (key : String)
    (start : γ) :
    SameValue
      ((readActive parse h injector key).map fun values =>
        values.foldl combine start)
      ((readActive parse k injector key).map fun values =>
        values.foldl combine start) :=
  sameValue_foldl hComm (activeFaultIds_perm h k injector)
    start

end FaultInjectorBase

/- Passing over items without a value keeps commutativity. -/
theorem elim_right_comm
    {α β : Type}
    {combine : β → α → β}
    (hComm :
      ∀ value x y,
        combine (combine value x) y =
          combine (combine value y) x)
    (value : β)
    (x y : Option α) :
    y.elim (x.elim value (combine value))
        (combine (x.elim value (combine value))) =
      x.elim (y.elim value (combine value))
        (combine (y.elim value (combine value))) := by
  cases x with
  | none => rfl
  | some a =>
      cases y with
      | none => rfl
      | some b => exact hComm value a b

/- The product so far takes its factors in any order. -/
theorem pointCloudFaultInjector.multiplied_right_comm
    (value x y : Option Number) :
    multiplied (multiplied value x) y =
      multiplied (multiplied value y) x := by
  unfold multiplied
  cases x with
  | none => rfl
  | some a =>
      cases y with
      | none => rfl
      | some b =>
          simp only [Option.elim_some, Option.getD_some]
          rw [Number.mul_swap]

/- The helpers that do not depend on the order. -/
theorem aggregates_sameValue
    (h k : HashOrder String)
    (injector : FaultInjectorBase)
    (key : String)
    (fallback : Number)
    (intFallback : Int) :
    SameValue (injector.activeMaxDouble h key fallback)
        (injector.activeMaxDouble k key fallback) ∧
      SameValue (injector.activeSumDouble h key fallback)
          (injector.activeSumDouble k key fallback) ∧
        SameValue (injector.activeMaxInt h key intFallback)
          (injector.activeMaxInt k key intFallback) := by
  rw [FaultInjectorBase.activeMaxDouble_eq,
    FaultInjectorBase.activeMaxDouble_eq,
    FaultInjectorBase.activeSumDouble_eq,
    FaultInjectorBase.activeSumDouble_eq,
    FaultInjectorBase.activeMaxInt_eq,
    FaultInjectorBase.activeMaxInt_eq]
  refine ⟨?_, ?_, ?_⟩
  · apply FaultInjectorBase.sameValue_readActive
    intro value x y
    exact Number.largest.pick_right_comm value _ _
  · apply FaultInjectorBase.sameValue_readActive
    intro value x y
    exact Number.add_swap value _ _
  · apply FaultInjectorBase.sameValue_readActive
    intro value x y
    simp only [← largestInt_pick]
    exact largestInt.pick_right_comm value _ _

/- Nor do those of point clouds and velocity commands. -/
theorem keyed_aggregates_sameValue
    (h k : HashOrder String)
    (injector : FaultInjectorBase)
    (key : String)
    (fallback : Number) :
    SameValue
        (pointCloudFaultInjector.activeMinDouble h injector
          key fallback)
        (pointCloudFaultInjector.activeMinDouble k injector
          key fallback) ∧
      SameValue
          (pointCloudFaultInjector.activeProductDouble h
            injector key fallback)
          (pointCloudFaultInjector.activeProductDouble k
            injector key fallback) ∧
        SameValue
            (pointCloudFaultInjector.activeProductDoubleOrDefault
              h injector key fallback)
            (pointCloudFaultInjector.activeProductDoubleOrDefault
              k injector key fallback) ∧
          SameValue
            (TwistFaultInjector.activeProductDouble h injector
              key fallback)
            (TwistFaultInjector.activeProductDouble k injector
              key fallback) := by
  have hProduct :
      SameValue
        (pointCloudFaultInjector.activeProductDouble h
          injector key fallback)
        (pointCloudFaultInjector.activeProductDouble k
          injector key fallback) := by
    rw [pointCloudFaultInjector.activeProductDouble_eq,
      pointCloudFaultInjector.activeProductDouble_eq]
    apply FaultInjectorBase.sameValue_readActive
    exact elim_right_comm Number.mul_swap
  refine ⟨?_, hProduct, ?_, hProduct⟩
  · rw [pointCloudFaultInjector.activeMinDouble_eq,
      pointCloudFaultInjector.activeMinDouble_eq]
    apply FaultInjectorBase.sameValue_readActive
    exact elim_right_comm Number.smallest.pick_right_comm
  · rw [pointCloudFaultInjector.activeProductDoubleOrDefault_eq,
      pointCloudFaultInjector.activeProductDoubleOrDefault_eq]
    have hSame :=
      FaultInjectorBase.sameValue_readActive stod
        pointCloudFaultInjector.multiplied_right_comm h k
        injector key none
    have hDefault := hSame.map fun value => value.getD fallback
    rw [Except.map_map, Except.map_map] at hDefault
    exact hDefault

------------------------------------------------------------
-- The First Text
------------------------------------------------------------

namespace FaultInjectorBase

variable {injector : FaultInjectorBase}
variable {key : String}

/- An active fault has the text for the key. -/
def ActiveText
    (injector : FaultInjectorBase)
    (key text : String) : Prop :=
  ∃ faultId fault,
    injector.isActive faultId = true ∧
      injector.getFaultConfig faultId = some fault ∧
        fault.config.find? key = some text

/- The search for the first text does not throw. -/
theorem firstActiveText_eq
    (key : String)
    {ids : List String}
    (hIds :
      ∀ faultId ∈ ids,
        ∃ fault,
          injector.getFaultConfig faultId = some fault ∧
            injector.faultAt faultId = .ok fault) :
    ∃ found,
      injector.firstActiveText key ids = .ok found := by
  induction ids with
  | nil => exact ⟨none, by rw [firstActiveText]⟩
  | cons faultId ids ih =>
      rcases hIds faultId List.mem_cons_self with
        ⟨fault, _, hFault⟩
      unfold firstActiveText
      simp only [hFault]
      cases fault.config.find? key with
      | some text => exact ⟨some text, rfl⟩
      | none =>
          exact ih fun other hOther =>
            hIds other (List.mem_cons_of_mem _ hOther)

theorem ActiveRegistered.firstActiveText
    (hRegistered : injector.ActiveRegistered)
    (h : HashOrder String)
    (key : String) :
    injector.firstActiveText key (injector.activeFaultIds h) =
      .ok (injector.activeTexts h key).head? := by
  rcases firstActiveText_eq key (hRegistered.find_visited h) with
    ⟨found, hFound⟩
  rw [hFound, firstActiveText_eq_head? hFound]
  rfl

/- An active text can be the first one that is found. -/
theorem ActiveText.first
    {text : String}
    (hText : injector.ActiveText key text) :
    ∃ h : HashOrder String,
      (injector.activeTexts h key).head? = some text := by
  rcases hText with ⟨faultId, fault, hActive, hFault, hText⟩
  rcases activeFaultIds_first hActive with ⟨rest, hIds⟩
  refine ⟨HashOrder.first faultId, ?_⟩
  unfold activeTexts
  simp [hIds, hFault, hText]

/-
  What is made of the first text does not depend on the order
  exactly if it is the same for all active texts.
-/
theorem first_text_eq_iff
    {β : Type}
    (injector : FaultInjectorBase)
    (key : String)
    (fallback : β)
    (f : String → β) :
    (∀ h k : HashOrder String,
        (injector.activeTexts h key).head?.elim fallback f =
          (injector.activeTexts k key).head?.elim fallback
            f) ↔
      ∀ a b,
        injector.ActiveText key a →
          injector.ActiveText key b → f a = f b := by
  constructor
  · intro hSame a b hA hB
    rcases hA.first with ⟨h, hFirst⟩
    rcases hB.first with ⟨k, hOther⟩
    have hEqual := hSame h k
    rw [hFirst, hOther] at hEqual
    exact hEqual
  · intro hAgree h k
    cases hFirst : (injector.activeTexts h key).head? with
    | none =>
        cases hOther : (injector.activeTexts k key).head? with
        | none => rfl
        | some b =>
            have hB := List.mem_of_mem_head? hOther
            rw [mem_activeTexts_iff,
              ← mem_activeTexts_iff (h := h),
              List.head?_eq_none_iff.mp hFirst] at hB
            cases hB
    | some a =>
        have hA := List.mem_of_mem_head? hFirst
        cases hOther : (injector.activeTexts k key).head? with
        | none =>
            rw [mem_activeTexts_iff,
              ← mem_activeTexts_iff (h := k),
              List.head?_eq_none_iff.mp hOther] at hA
            cases hA
        | some b =>
            have hB := List.mem_of_mem_head? hOther
            exact
              hAgree a b (mem_activeTexts_iff.mp hA)
                (mem_activeTexts_iff.mp hB)

theorem ActiveRegistered.activeBool_eq
    (hRegistered : injector.ActiveRegistered)
    (h : HashOrder String)
    (key : String)
    (fallback : Bool) :
    injector.activeBool h key fallback =
      .ok ((injector.activeTexts h key).head?.elim fallback
        fun text => decide (text = "true")) := by
  unfold activeBool
  rw [hRegistered.firstActiveText h key]
  cases (injector.activeTexts h key).head? with
  | none => rfl
  | some text => rfl

theorem ActiveRegistered.activeString_eq
    (hRegistered : injector.ActiveRegistered)
    (h : HashOrder String)
    (key fallback : String) :
    injector.activeString h key fallback =
      .ok ((injector.activeTexts h key).head?.elim fallback
        fun text => text) := by
  unfold activeString
  rw [hRegistered.firstActiveText h key]
  cases (injector.activeTexts h key).head? with
  | none => rfl
  | some text => rfl

/- A flag is independent of the order if all agree on it. -/
theorem ActiveRegistered.activeBool_sameValue_iff
    (hRegistered : injector.ActiveRegistered)
    (key : String)
    (fallback : Bool) :
    (∀ h k : HashOrder String,
        SameValue (injector.activeBool h key fallback)
          (injector.activeBool k key fallback)) ↔
      ∀ a b,
        injector.ActiveText key a →
          injector.ActiveText key b →
            (a = "true" ↔ b = "true") := by
  simp only [hRegistered.activeBool_eq, SameValue,
    Except.toOption, Option.some.injEq]
  rw [first_text_eq_iff]
  simp only [decide_eq_decide]

/- A text is independent of the order if all have the same. -/
theorem ActiveRegistered.activeString_sameValue_iff
    (hRegistered : injector.ActiveRegistered)
    (key fallback : String) :
    (∀ h k : HashOrder String,
        SameValue (injector.activeString h key fallback)
          (injector.activeString k key fallback)) ↔
      ∀ a b,
        injector.ActiveText key a →
          injector.ActiveText key b → a = b := by
  simp only [hRegistered.activeString_eq, SameValue,
    Except.toOption, Option.some.injEq]
  rw [first_text_eq_iff]

end FaultInjectorBase

------------------------------------------------------------
-- Sectors In Sequence
------------------------------------------------------------

namespace scanFaultInjector

/- The sectors of the active faults, in iteration order. -/
def activeSectors
    (h : HashOrder String)
    (injector : FaultInjectorBase) : List Sector :=
  (injector.activeFaultIds h).filterMap fun faultId =>
    (injector.getFaultConfig faultId).bind sectorOf

/- The sector is one of an active fault. -/
def ActiveSector
    (injector : FaultInjectorBase)
    (sector : Sector) : Prop :=
  ∃ faultId fault,
    injector.isActive faultId = true ∧
      injector.getFaultConfig faultId = some fault ∧
        sectorOf fault = some sector

/- Whether a ray is in a sector; none if a loop hangs. -/
def covers
    (msg : LaserScan)
    (index : Nat)
    (sector : Sector) : Option Bool :=
  angleInSector (rayDegrees msg index) sector.minDeg
    sector.maxDeg

/- The range of a ray after a sector was applied. -/
def written
    (msg : LaserScan)
    (index : Nat)
    (range : Number)
    (sector : Sector) : Number :=
  if covers msg index sector = some true then
    sector.replacement
  else
    range

/- Apply sectors one after the other. -/
def replaceSectors
    (sectors : List Sector)
    (msg : LaserScan) : Option LaserScan :=
  sectors.foldlM (fun msg sector => replaceSector sector msg)
    msg

/- What becomes of a range at an index, unless its ray hangs. -/
def replacedAt
    (sector : Sector)
    (msg : LaserScan)
    (entry : Number × Nat) : Option Number :=
  (covers msg entry.2 sector).map fun covered =>
    if covered then sector.replacement else entry.1

theorem replaceSector_eq_map
    (sector : Sector)
    (msg : LaserScan) :
    replaceSector sector msg =
      (msg.ranges.zipIdx.mapM (replacedAt sector msg)).map
        fun ranges => { msg with ranges := ranges } := by
  unfold replaceSector
  rw [Option.map_eq_bind]
  refine congrArg₂ _ (congrArg₂ _ ?_ rfl) rfl
  funext ⟨range, index⟩
  unfold replacedAt covers
  simp only
  cases angleInSector (rayDegrees msg index)
      sector.minDeg sector.maxDeg with
  | none => rfl
  | some covered => cases covered <;> rfl

theorem eq_written_of_replacedAt
    {sector : Sector}
    {msg : LaserScan}
    (entry : Number × Nat)
    (range : Number)
    (hReplaced : replacedAt sector msg entry = some range) :
    range = written msg entry.2 entry.1 sector := by
  rcases Option.map_eq_some_iff.mp hReplaced with
    ⟨covered, hCovers, hRange⟩
  unfold written
  rw [hCovers, ← hRange]
  cases covered <;> rfl

/- A sector is applied if no ray hangs, ray by ray. -/
theorem replaceSector_eq_some_iff
    {sector : Sector}
    {msg out : LaserScan} :
    replaceSector sector msg = some out ↔
      (∀ index < msg.ranges.length,
        (covers msg index sector).isSome = true) ∧
        out =
          { msg with
            ranges :=
              msg.ranges.mapIdx fun index range =>
                written msg index range sector } := by
  rw [replaceSector_eq_map, Option.map_eq_some_iff]
  simp only [Option.mapM_eq_map_iff eq_written_of_replacedAt]
  constructor
  · rintro ⟨ranges, ⟨hEnds, hRanges⟩, hOut⟩
    refine ⟨?_, ?_⟩
    · intro index hIndex
      have hMember :
          (msg.ranges[index], index) ∈ msg.ranges.zipIdx :=
        List.mk_mem_zipIdx_iff_getElem?.mpr
          (List.getElem?_eq_getElem hIndex)
      have hEnd := hEnds _ hMember
      unfold replacedAt at hEnd
      rw [Option.isSome_map] at hEnd
      exact hEnd
    · rw [← hOut, hRanges, List.mapIdx_eq_zipIdx_map]
  · rintro ⟨hEnds, hOut⟩
    refine ⟨_, ⟨?_, rfl⟩, ?_⟩
    · intro entry hMember
      unfold replacedAt
      rw [Option.isSome_map]
      exact hEnds entry.2 (List.snd_lt_of_mem_zipIdx hMember)
    · rw [hOut, List.mapIdx_eq_zipIdx_map]

/- Sectors are applied in sequence, ray by ray. -/
theorem replaceSectors_eq_some_iff
    {sectors : List Sector}
    {msg out : LaserScan} :
    replaceSectors sectors msg = some out ↔
      (∀ sector ∈ sectors, ∀ index < msg.ranges.length,
        (covers msg index sector).isSome = true) ∧
        out =
          { msg with
            ranges :=
              msg.ranges.mapIdx fun index range =>
                sectors.foldl (written msg index) range } := by
  induction sectors generalizing msg with
  | nil =>
      have hSame :
          (msg.ranges.mapIdx fun _ range => range) =
            msg.ranges := by
        refine List.ext_getElem (List.length_mapIdx) ?_
        intro index hLeft hRight
        exact List.getElem_mapIdx
      simp only [List.foldl_nil, hSame]
      constructor
      · intro hOut
        cases hOut
        exact ⟨fun _ hMember => (by cases hMember), rfl⟩
      · rintro ⟨_, hOut⟩
        rw [hOut]
        rfl
  | cons sector rest ih =>
      unfold replaceSectors at ih ⊢
      rw [List.foldlM_cons, Option.bind_eq_bind,
        Option.bind_eq_some_iff]
      constructor
      · rintro ⟨first, hFirst, hRest⟩
        rcases replaceSector_eq_some_iff.mp hFirst with
          ⟨hHead, hFirst⟩
        subst hFirst
        rcases ih.mp hRest with ⟨hTail, hOut⟩
        rw [List.length_mapIdx] at hTail
        refine ⟨List.forall_mem_cons.mpr ⟨hHead, hTail⟩, ?_⟩
        rw [hOut, List.mapIdx_mapIdx]
        rfl
      · rintro ⟨hAll, hOut⟩
        rcases List.forall_mem_cons.mp hAll with ⟨hHead, hTail⟩
        refine
          ⟨_, replaceSector_eq_some_iff.mpr ⟨hHead, rfl⟩,
            ih.mpr ⟨?_, ?_⟩⟩
        · rw [List.length_mapIdx]
          exact hTail
        · rw [hOut, List.mapIdx_mapIdx]
          rfl

/- Visiting the active faults applies their sectors. -/
theorem applySectorDropout_run
    {G : Type}
    {injector : FaultInjectorBase}
    (hRegistered : injector.ActiveRegistered)
    (h : HashOrder String)
    (msg : LaserScan)
    (g : G) :
    (applySectorDropout h injector msg).run g =
      if msg.angleIncrement = .zero then
        some (msg, g)
      else
        (replaceSectors (activeSectors h injector) msg).map
          fun out => (out, g) := by
  unfold applySectorDropout
  by_cases hZero : msg.angleIncrement = .zero
  · rw [if_pos hZero, if_pos hZero]
    rfl
  · rw [if_neg hZero, if_neg hZero]
    have hVisited :
        activeSectors h injector =
          ((injector.activeFaultIds h).filterMap
              injector.getFaultConfig).filterMap
            sectorOf := by
      rw [List.filterMap_filterMap]
      rfl
    rw [foldlM_lookup (hRegistered.draw_visited h G), hVisited]
    unfold replaceSectors
    generalize (injector.activeFaultIds h).filterMap _ = faults
    clear hZero hVisited
    induction faults generalizing msg with
    | nil => rfl
    | cons fault faults ih =>
        rw [List.foldlM_cons, StateT.run_bind,
          List.filterMap_cons]
        cases sectorOf fault with
        | none => exact ih msg
        | some sector =>
            rw [List.foldlM_cons]
            dsimp only
            cases replaceSector sector msg with
            | none => rfl
            | some out => exact ih out

------------------------------------------------------------
-- Sectors In Any Order
------------------------------------------------------------

variable {injector : FaultInjectorBase}
variable {msg : LaserScan}

theorem mem_activeSectors_iff
    {h : HashOrder String}
    {sector : Sector} :
    sector ∈ activeSectors h injector ↔
      ActiveSector injector sector := by
  unfold activeSectors ActiveSector
  simp only [List.mem_filterMap, Option.bind_eq_some_iff,
    FaultInjectorBase.mem_activeFaultIds_iff]
  constructor
  · rintro ⟨faultId, hActive, fault, hFault, hSector⟩
    exact ⟨faultId, fault, hActive, hFault, hSector⟩
  · rintro ⟨faultId, fault, hActive, hFault, hSector⟩
    exact ⟨faultId, hActive, fault, hFault, hSector⟩

/- The sector of an active fault can be the last one. -/
theorem ActiveSector.last
    {sector : Sector}
    (hSector : ActiveSector injector sector) :
    ∃ h before,
      activeSectors h injector = before ++ [sector] := by
  rcases hSector with ⟨faultId, fault, hActive, hFault, hSector⟩
  rcases FaultInjectorBase.activeFaultIds_last hActive with
    ⟨before, hIds⟩
  refine
    ⟨HashOrder.last faultId,
      before.filterMap fun faultId =>
        (injector.getFaultConfig faultId).bind sectorOf, ?_⟩
  unfold activeSectors
  rw [hIds, List.filterMap_append]
  simp [hFault, hSector]

/- An active sector has a ray for which a loop hangs. -/
def SectorsHang
    (injector : FaultInjectorBase)
    (msg : LaserScan) : Prop :=
  ∃ sector,
    ActiveSector injector sector ∧
      ∃ index < msg.ranges.length,
        covers msg index sector = none

/- Active sectors with a common ray replace it alike. -/
def SectorsAgree
    (injector : FaultInjectorBase)
    (msg : LaserScan) : Prop :=
  ∀ index < msg.ranges.length,
    ∀ a b,
      ActiveSector injector a →
        ActiveSector injector b →
          covers msg index a = some true →
            covers msg index b = some true →
              a.replacement = b.replacement

theorem replaceSectors_of_hang
    (hHang : SectorsHang injector msg)
    (h : HashOrder String) :
    replaceSectors (activeSectors h injector) msg = none := by
  rcases hHang with ⟨sector, hActive, index, hIndex, hHang⟩
  rw [Option.eq_none_iff_forall_ne_some]
  intro out hOut
  have hEnds := (replaceSectors_eq_some_iff.mp hOut).1
  have hEnd :=
    hEnds sector (mem_activeSectors_iff.mpr hActive) index
      hIndex
  rw [hHang] at hEnd
  cases hEnd

theorem replaceSectors_of_ends
    (hEnds : ¬ SectorsHang injector msg)
    (h : HashOrder String) :
    replaceSectors (activeSectors h injector) msg =
      some
        { msg with
          ranges :=
            msg.ranges.mapIdx fun index range =>
              (activeSectors h injector).foldl
                (written msg index) range } := by
  refine replaceSectors_eq_some_iff.mpr ⟨?_, rfl⟩
  intro sector hMember index hIndex
  by_contra hNone
  rw [Option.not_isSome_iff_eq_none] at hNone
  exact
    hEnds
      ⟨sector, mem_activeSectors_iff.mp hMember, index, hIndex,
        hNone⟩

/- Sectors that agree on a ray can be applied in any order. -/
theorem SectorsAgree.foldl_eq
    (hAgree : SectorsAgree injector msg)
    {index : Nat}
    (hIndex : index < msg.ranges.length)
    (h k : HashOrder String)
    (range : Number) :
    (activeSectors h injector).foldl (written msg index)
        range =
      (activeSectors k injector).foldl (written msg index)
        range := by
  have hPerm :
      (activeSectors h injector).Perm
        (activeSectors k injector) :=
    (FaultInjectorBase.activeFaultIds_perm h k
      injector).filterMap _
  refine hPerm.foldl_eq' ?_ range
  intro a hA b hB value
  unfold written
  by_cases hFirst : covers msg index a = some true
  · by_cases hSecond : covers msg index b = some true
    · rw [if_pos hFirst, if_pos hSecond, if_pos hFirst]
      exact
        (hAgree index hIndex a b
          (mem_activeSectors_iff.mp hA)
          (mem_activeSectors_iff.mp hB) hFirst hSecond).symm
    · rw [if_neg hSecond, if_neg hSecond]
  · rw [if_neg hFirst, if_neg hFirst]

/- The last sector that covers a ray decides its range. -/
theorem foldl_written_last
    {before : List Sector}
    {sector : Sector}
    {index : Nat}
    (hCovers : covers msg index sector = some true)
    (range : Number) :
    (before ++ [sector]).foldl (written msg index) range =
      sector.replacement := by
  rw [List.foldl_append, List.foldl_cons, List.foldl_nil,
    written, if_pos hCovers]

/-
  The sectors of the active faults give the same ranges in
  every order exactly if those with a common ray agree.
-/
theorem applySectorDropout_eq_iff
    {G : Type}
    (hRegistered : injector.ActiveRegistered)
    (msg : LaserScan)
    (g : G) :
    (∀ h k : HashOrder String,
        (applySectorDropout h injector msg).run g =
          (applySectorDropout k injector msg).run g) ↔
      msg.angleIncrement = .zero ∨
        SectorsHang injector msg ∨
          SectorsAgree injector msg := by
  simp only [applySectorDropout_run hRegistered]
  by_cases hZero : msg.angleIncrement = .zero
  · simp [hZero]
  simp only [hZero, if_false, false_or]
  by_cases hHang : SectorsHang injector msg
  · simp [hHang, replaceSectors_of_hang hHang]
  simp only [hHang, false_or, replaceSectors_of_ends hHang,
    Option.map_some, Option.some.injEq, Prod.mk.injEq,
    and_true]
  constructor
  · intro hSame index hIndex a b hA hB hFirst hSecond
    rcases hA.last with ⟨h, before, hLastA⟩
    rcases hB.last with ⟨k, others, hLastB⟩
    have hRanges := congrArg LaserScan.ranges (hSame h k)
    have hRange := congrArg (fun ranges => ranges[index]?) hRanges
    rw [hLastA, hLastB] at hRange
    simp only [List.getElem?_mapIdx,
      List.getElem?_eq_getElem hIndex, Option.map_some,
      foldl_written_last hFirst, foldl_written_last hSecond,
      Option.some.injEq] at hRange
    exact hRange
  · intro hAgree h k
    have hRanges :
        (msg.ranges.mapIdx fun index range =>
            (activeSectors h injector).foldl
              (written msg index) range) =
          msg.ranges.mapIdx fun index range =>
            (activeSectors k injector).foldl
              (written msg index) range := by
      refine List.ext_getElem (by simp) ?_
      intro index hLeft hRight
      rw [List.getElem_mapIdx, List.getElem_mapIdx]
      rw [List.length_mapIdx] at hLeft
      exact hAgree.foldl_eq hLeft h k _
    rw [hRanges]

end scanFaultInjector

------------------------------------------------------------
-- All Helpers
------------------------------------------------------------

open FaultInjectorBase scanFaultInjector

/- A computation is the same in every iteration order. -/
def OrderFree
    {α : Type}
    (read : HashOrder String → Except Errc α) : Prop :=
  ∀ h k, SameValue (read h) (read k)

/-
  Sums, products, largest and smallest values do not depend
  on the order. A flag, a text and the sectors of a scan do
  exactly if the active faults that set them disagree.
-/
theorem hash_order_irrelevant_iff
    {G : Type}
    {injector : FaultInjectorBase}
    (hRegistered : injector.ActiveRegistered)
    (key : String)
    (fallback : Number)
    (intFallback : Int)
    (boolFallback : Bool)
    (textFallback : String)
    (msg : LaserScan)
    (g : G) :
    OrderFree
        (fun h => injector.activeMaxDouble h key fallback) ∧
      OrderFree
        (fun h => injector.activeSumDouble h key fallback) ∧
      OrderFree
        (fun h => injector.activeMaxInt h key intFallback) ∧
      OrderFree
        (fun h =>
          pointCloudFaultInjector.activeMinDouble h injector
            key fallback) ∧
      OrderFree
        (fun h =>
          pointCloudFaultInjector.activeProductDouble h
            injector key fallback) ∧
      OrderFree
        (fun h =>
          pointCloudFaultInjector.activeProductDoubleOrDefault
            h injector key fallback) ∧
      OrderFree
        (fun h =>
          TwistFaultInjector.activeProductDouble h injector key
            fallback) ∧
      (OrderFree
          (fun h => injector.activeBool h key boolFallback) ↔
        ∀ a b,
          injector.ActiveText key a →
            injector.ActiveText key b →
              (a = "true" ↔ b = "true")) ∧
      (OrderFree
          (fun h => injector.activeString h key textFallback) ↔
        ∀ a b,
          injector.ActiveText key a →
            injector.ActiveText key b → a = b) ∧
      ((∀ h k : HashOrder String,
          (applySectorDropout h injector msg).run g =
            (applySectorDropout k injector msg).run g) ↔
        msg.angleIncrement = .zero ∨
          SectorsHang injector msg ∨
            SectorsAgree injector msg) := by
  have hShared := fun h k =>
    aggregates_sameValue h k injector key fallback intFallback
  have hKeyed := fun h k =>
    keyed_aggregates_sameValue h k injector key fallback
  refine
    ⟨fun h k => (hShared h k).1, fun h k => (hShared h k).2.1,
      fun h k => (hShared h k).2.2, fun h k => (hKeyed h k).1,
      fun h k => (hKeyed h k).2.1,
      fun h k => (hKeyed h k).2.2.1,
      fun h k => (hKeyed h k).2.2.2, ?_, ?_, ?_⟩
  · exact hRegistered.activeBool_sameValue_iff key boolFallback
  · exact
      hRegistered.activeString_sameValue_iff key textFallback
  · exact applySectorDropout_eq_iff hRegistered msg g

------------------------------------------------------------
-- Faults That Disagree
------------------------------------------------------------

namespace DisagreeingFaults

/- A fault that stops the robot or lets it pass. -/
def fault (faultId flag : String) : FaultConfig :=
  { id := faultId
    injectorId := "base"
    config := UnorderedMap.empty.insert "force_stop" flag }

/- Both faults of a robot base are active. -/
def injector : FaultInjectorBase :=
  let created : FaultInjectorBase :=
    { config := { id := "base", type := "twist" } }
  ((((created.addFault (fault "halt" "true")).addFault
    (fault "drive" "false")).activateFault
      "halt").activateFault "drive")

theorem activeRegistered : injector.ActiveRegistered := by
  unfold injector activateFault
  exact
    ((((activeRegistered_new _).addFault _).addFault
      _).setActive _ _).setActive _ _

/- Whether the robot stops depends on the order. -/
theorem hash_order_decides_force_stop :
    ¬ OrderFree fun h =>
      injector.activeBool h "force_stop" false := by
  intro hSame
  have hEqual :=
    hSame (HashOrder.first "halt") (HashOrder.first "drive")
  unfold SameValue at hEqual
  exact absurd hEqual (by decide)

/- The exact condition at the two faults. -/
theorem hash_order_irrelevant_iff_of_disagreeing :
    OrderFree
        (fun h => injector.activeBool h "force_stop" false) ↔
      ∀ a b,
        injector.ActiveText "force_stop" a →
          injector.ActiveText "force_stop" b →
            (a = "true" ↔ b = "true") :=
  (hash_order_irrelevant_iff activeRegistered "force_stop"
    .zero 0 false "" {} ()).2.2.2.2.2.2.2.1

end DisagreeingFaults
