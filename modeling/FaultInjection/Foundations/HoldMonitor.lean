import Mathlib.Data.List.Chain

/-
  A monitor that demands a response and that it is held.

  After an activation a good item must arrive in time. From
  then on only good items may arrive, none too long after the
  one before, until the hold is over. Items that arrive
  before the activation is known are kept and judged later.

  Key definitions include:
    * `HoldMonitor.Rule`
    * `HoldMonitor.apply`
    * `HoldMonitor.Held`
    * `HoldMonitor.Responds`

  Key theorems include:
    * `HoldMonitor.tick_foldl_apply`
    * `HoldMonitor.tick_foldl_awaiting`
    * `HoldMonitor.verdict_of_activation`
    * `HoldMonitor.verdict_of_no_activation`
-/

namespace HoldMonitor

------------------------------------------------------------
-- Rules
------------------------------------------------------------

/-
  What the monitor demands. A time span is late for the first
  good item, held when it reaches the end of the hold, and
  wide when it is too long between good items. The hold in
  whole units is at least every span that is not held.
-/
structure Rule (α : Type) where
  capacity : Nat
  timely : Int → Bool
  expired : Int → Bool
  fine : α → Bool
  good : α → Bool
  late : Int → Bool
  wide : Int → Bool
  held : Int → Bool
  hold : Int
  fine_of_good : ∀ x, good x = true → fine x = true
  late_mono :
    ∀ a b, a ≤ b → late a = true → late b = true
  wide_mono :
    ∀ a b, a ≤ b → wide a = true → wide b = true
  held_mono :
    ∀ a b, a ≤ b → held a = true → held b = true
  le_hold : ∀ n, held n = false → n ≤ hold

/-
  Where the monitor stands. It waits for the activation with
  the items seen so far, it awaits the first good item since
  a time, or the hold began at a time and the last good item
  arrived at another.
-/
inductive Phase (α : Type) where
| waiting : List (α × Int) → Phase α
| awaiting : Int → Phase α
| holding : Int → Int → Int → Phase α
| passed : Phase α
| failed : Phase α

/- An activation has a stamp besides its time. -/
inductive Input (α : Type) where
| activate : Int → Int → Input α
| item : α → Int → Input α
| tick : Int → Input α

/- The time of an input. -/
def Input.time {α : Type} : Input α → Int
| .activate _ time => time
| .item _ time => time
| .tick time => time

/- The item that an input brings. -/
def Input.item? {α : Type} : Input α → Option (α × Int)
| .item x time => some (x, time)
| _ => none

variable {α : Type}

/- The monitor looks at the clock. -/
def tick
    (r : Rule α)
    (now : Int) : Phase α → Phase α
| .waiting buffer =>
    if r.expired now then .failed else .waiting buffer
| .awaiting start =>
    if r.late (now - start) then .failed else .awaiting start
| .holding start first last =>
    if r.held (now - first) then
      if r.wide (r.hold - (last - first)) then
        .failed
      else
        .passed
    else if r.wide (now - last) then
      .failed
    else
      .holding start first last
| .passed => .passed
| .failed => .failed

/- The monitor sees an item. -/
def observe
    (r : Rule α)
    (p : Phase α)
    (item : α × Int) : Phase α :=
  match p with
  | .waiting buffer =>
      if buffer.length < r.capacity then
        .waiting (buffer ++ [item])
      else
        .failed
  | .awaiting start =>
      if ¬ r.fine item.1 ∨ r.late (item.2 - start) then
        .failed
      else if r.good item.1 then
        .holding start item.2 item.2
      else
        .awaiting start
  | .holding start first last =>
      if r.held (item.2 - first) then
        if r.wide (r.hold - (last - first)) then
          .failed
        else
          .passed
      else if r.wide (item.2 - last) ∨ ¬ r.good item.1 then
        .failed
      else
        .holding start first item.2
  | .passed => .passed
  | .failed => .failed

/- The monitor learns of the activation. -/
def activate
    (r : Rule α)
    (stamp : Int) : Phase α → Phase α
| .waiting buffer =>
    if r.timely stamp then
      (buffer.filter fun item => stamp ≤ item.2).foldl
        (observe r) (.awaiting stamp)
    else
      .failed
| p => p

def apply
    (r : Rule α)
    (p : Phase α) : Input α → Phase α
| .activate stamp _ => activate r stamp p
| .item x time => observe r p (x, time)
| .tick now => tick r now p

/- The items among the inputs, in order. -/
def items (inputs : List (Input α)) : List (α × Int) :=
  inputs.filterMap Input.item?

------------------------------------------------------------
-- Responses
------------------------------------------------------------

/- The items before the end of a hold. -/
def during
    (r : Rule α)
    (first : Int)
    (items : List (α × Int)) : List (α × Int) :=
  items.filter fun item => ¬ r.held (item.2 - first)

/-
  The items keep up a hold that began at a time and whose
  last good item so far arrived at another.
-/
structure Held
    (r : Rule α)
    (first last : Int)
    (items : List (α × Int)) : Prop where
  good : ∀ item ∈ during r first items, r.good item.1 = true
  gaps :
    (last :: (during r first items).map Prod.snd).IsChain
      fun a b => r.wide (b - a) = false
  final :
    r.wide
      (r.hold -
        (((during r first items).map Prod.snd).getLastD last
          - first)) = false

/-
  A first good item arrives in time after nothing but fine
  ones, and the items after it keep up the hold.
-/
def Responds
    (r : Rule α)
    (start : Int)
    (items : List (α × Int)) : Prop :=
  ∃ before item after,
    items = before ++ item :: after ∧
      (∀ i ∈ before,
        r.fine i.1 = true ∧ r.good i.1 = false) ∧
        r.good item.1 = true ∧
          r.late (item.2 - start) = false ∧
            Held r item.2 item.2 after

/- The monitor has decided whether a condition holds. -/
def Decides (p : Phase α) (condition : Prop) : Prop :=
  (condition ∧ p = .passed) ∨ (¬ condition ∧ p = .failed)

theorem Decides.of_iff
    {p : Phase α}
    {a b : Prop}
    (hIff : a ↔ b)
    (hDecides : Decides p a) :
    Decides p b := by
  unfold Decides at hDecides ⊢
  rw [← hIff]
  exact hDecides

variable {r : Rule α}
variable {first last : Int}
variable {item : α × Int}
variable {items : List (α × Int)}

theorem held_nil_iff :
    Held r first last [] ↔
      r.wide (r.hold - (last - first)) = false := by
  constructor
  · intro hHeld
    exact hHeld.final
  · intro hFinal
    exact ⟨by simp [during], by simp [during], hFinal⟩

/- Once the hold is over later items do not matter. -/
theorem held_iff_of_over
    (hOver : ∀ i ∈ items, r.held (i.2 - first) = true) :
    Held r first last items ↔ Held r first last [] := by
  have hNone : during r first items = during r first [] := by
    unfold during
    rw [List.filter_nil, List.filter_eq_nil_iff]
    intro i hMember
    simp [hOver i hMember]
  constructor
  · intro hHeld
    exact ⟨hNone ▸ hHeld.good, hNone ▸ hHeld.gaps,
      hNone ▸ hHeld.final⟩
  · intro hHeld
    exact ⟨hNone ▸ hHeld.good, hNone ▸ hHeld.gaps,
      hNone ▸ hHeld.final⟩

/- Before the end of the hold the next item must be good. -/
theorem held_cons_iff
    (hInside : r.held (item.2 - first) = false) :
    Held r first last (item :: items) ↔
      r.good item.1 = true ∧
        r.wide (item.2 - last) = false ∧
          Held r first item.2 items := by
  have hDuring :
      during r first (item :: items) =
        item :: during r first items := by
    simp [during, hInside]
  constructor
  · intro ⟨hGood, hGaps, hFinal⟩
    rw [hDuring] at hGood hGaps hFinal
    rw [List.map_cons, List.isChain_cons_cons] at hGaps
    rw [List.map_cons, List.getLastD_cons] at hFinal
    rw [List.forall_mem_cons] at hGood
    exact ⟨hGood.1, hGaps.1, hGood.2, hGaps.2, hFinal⟩
  · intro ⟨hItem, hGap, hGood, hGaps, hFinal⟩
    refine ⟨?_, ?_, ?_⟩
    · rw [hDuring, List.forall_mem_cons]
      exact ⟨hItem, hGood⟩
    · rw [hDuring, List.map_cons, List.isChain_cons_cons]
      exact ⟨hGap, hGaps⟩
    · rw [hDuring, List.map_cons, List.getLastD_cons]
      exact hFinal

end HoldMonitor

------------------------------------------------------------
-- Ticks
------------------------------------------------------------

namespace HoldMonitor

variable {α : Type}
variable {r : Rule α}
variable {now later : Int}

/- The monitor has learned of the activation or failed. -/
def Phase.settled : Phase α → Bool
| .waiting _ => false
| _ => true

/-
  A gap that was too wide before the end of the hold is also
  too wide when only the hold counts.
-/
theorem wide_of_wide
    {first last : Int}
    (hLater : now ≤ later)
    (hInside : r.held (now - first) = false)
    (hWide : r.wide (now - last) = true) :
    r.wide (later - last) = true ∧
      r.wide (r.hold - (last - first)) = true := by
  have hHold := r.le_hold _ hInside
  constructor
  · exact r.wide_mono _ _ (by omega) hWide
  · exact r.wide_mono _ _ (by omega) hWide

theorem settled_tick
    (p : Phase α)
    (hSettled : p.settled = true) :
    (tick r now p).settled = true := by
  cases p with
  | waiting buffer => cases hSettled
  | awaiting start =>
      grind [tick, Phase.settled]
  | holding start first last =>
      grind [tick, Phase.settled]
  | passed => rfl
  | failed => rfl

/- An earlier tick adds nothing to a later one. -/
theorem tick_tick
    (p : Phase α)
    (hSettled : p.settled = true)
    (hLater : now ≤ later) :
    tick r later (tick r now p) = tick r later p := by
  cases p with
  | waiting buffer => cases hSettled
  | awaiting start =>
      cases hLate : r.late (now - start) with
      | false => simp [tick, hLate]
      | true =>
          have hStill : r.late (later - start) = true :=
            r.late_mono _ _ (by omega) hLate
          simp [tick, hLate, hStill]
  | holding start first last =>
      cases hHeld : r.held (now - first) with
      | true =>
          have hStill : r.held (later - first) = true :=
            r.held_mono _ _ (by omega) hHeld
          cases hWide : r.wide (r.hold - (last - first)) with
          | false => simp [tick, hHeld, hStill, hWide]
          | true => simp [tick, hHeld, hStill, hWide]
      | false =>
          cases hWide : r.wide (now - last) with
          | false => simp [tick, hHeld, hWide]
          | true =>
              have hBoth := wide_of_wide hLater hHeld hWide
              simp [tick, hHeld, hWide, hBoth.1, hBoth.2]
  | passed => rfl
  | failed => rfl

/- A tick adds nothing to a later item. -/
theorem observe_tick
    {item : α × Int}
    (p : Phase α)
    (hSettled : p.settled = true)
    (hLater : now ≤ item.2) :
    observe r (tick r now p) item = observe r p item := by
  cases p with
  | waiting buffer => cases hSettled
  | awaiting start =>
      cases hLate : r.late (now - start) with
      | false => simp [tick, hLate]
      | true =>
          have hStill : r.late (item.2 - start) = true :=
            r.late_mono _ _ (by omega) hLate
          simp [tick, observe, hLate, hStill]
  | holding start first last =>
      cases hHeld : r.held (now - first) with
      | true =>
          have hStill : r.held (item.2 - first) = true :=
            r.held_mono _ _ (by omega) hHeld
          cases hWide : r.wide (r.hold - (last - first)) with
          | false =>
              simp [tick, observe, hHeld, hStill, hWide]
          | true =>
              simp [tick, observe, hHeld, hStill, hWide]
      | false =>
          cases hWide : r.wide (now - last) with
          | false => simp [tick, hHeld, hWide]
          | true =>
              have hBoth := wide_of_wide hLater hHeld hWide
              simp [tick, observe, hHeld, hWide, hBoth.1,
                hBoth.2]
  | passed => rfl
  | failed => rfl

/- A tick during the hold decides or changes nothing. -/
theorem tick_holding_cases
    (start first last : Int) :
    (r.held (now - first) = false ∧
      r.wide (now - last) = false ∧
        tick r now (.holding start first last) =
          .holding start first last) ∨
      tick r now (.holding start first last) = .passed ∨
        tick r now (.holding start first last) = .failed := by
  rw [tick]
  cases hHeld : r.held (now - first) with
  | true =>
      cases hWide : r.wide (r.hold - (last - first)) with
      | false => simp
      | true => simp
  | false =>
      cases hWide : r.wide (now - last) with
      | false => simp
      | true => simp

/- An item counts as a tick where that decides. -/
theorem observe_eq_tick
    {start first last : Int}
    {item : α × Int}
    (hDecided :
      tick r item.2 (.holding start first last) ≠
        .holding start first last) :
    observe r (.holding start first last) item =
      tick r item.2 (.holding start first last) := by
  rw [tick] at hDecided ⊢
  rw [observe]
  cases hHeld : r.held (item.2 - first) with
  | true => rfl
  | false =>
      cases hWide : r.wide (item.2 - last) with
      | true => simp
      | false => simp [hHeld, hWide] at hDecided

theorem settled_observe
    {item : α × Int}
    (p : Phase α)
    (hSettled : p.settled = true) :
    (observe r p item).settled = true := by
  cases p with
  | waiting buffer => cases hSettled
  | awaiting start =>
      grind [observe, Phase.settled]
  | holding start first last =>
      grind [observe, Phase.settled]
  | passed => rfl
  | failed => rfl

theorem activate_of_settled
    {stamp : Int}
    (p : Phase α)
    (hSettled : p.settled = true) :
    activate r stamp p = p := by
  cases p with
  | waiting buffer => cases hSettled
  | awaiting start => rfl
  | holding start first last => rfl
  | passed => rfl
  | failed => rfl

theorem time_of_mem_items
    {inputs : List (Input α)}
    {item : α × Int}
    (hMember : item ∈ items inputs) :
    ∃ input ∈ inputs, input.time = item.2 := by
  unfold items at hMember
  rcases List.mem_filterMap.mp hMember with
    ⟨input, hInput, hItem⟩
  refine ⟨input, hInput, ?_⟩
  cases input with
  | activate stamp time => cases hItem
  | item x time =>
      cases hItem
      rfl
  | tick now => cases hItem

/-
  Once the monitor has settled only the items and the last
  tick of an ordered sequence of inputs count.
-/
theorem tick_foldl_apply
    (inputs : List (Input α))
    (p : Phase α)
    (hSettled : p.settled = true)
    (hOrdered :
      inputs.Pairwise fun a b => a.time ≤ b.time)
    (hBefore : ∀ input ∈ inputs, input.time ≤ later) :
    tick r later (inputs.foldl (apply r) p) =
      tick r later ((items inputs).foldl (observe r) p) := by
  induction inputs generalizing p with
  | nil => rfl
  | cons input inputs ih =>
      rw [List.pairwise_cons] at hOrdered
      rw [List.forall_mem_cons] at hBefore
      rw [List.foldl_cons]
      cases input with
      | activate stamp time =>
          have hSame :
              apply r p (.activate stamp time) = p :=
            activate_of_settled p hSettled
          rw [hSame]
          exact ih p hSettled hOrdered.2 hBefore.2
      | item x time =>
          exact ih _ (settled_observe p hSettled) hOrdered.2
            hBefore.2
      | tick now =>
          have hRest :=
            ih (tick r now p) (settled_tick p hSettled)
              hOrdered.2 hBefore.2
          refine hRest.trans ?_
          change
            tick r later
                ((items inputs).foldl (observe r)
                  (tick r now p)) =
              tick r later
                ((items inputs).foldl (observe r) p)
          -- The next item, or else the last tick, absorbs it.
          cases hItems : items inputs with
          | nil => exact tick_tick p hSettled hBefore.1
          | cons item rest =>
              have hMember : item ∈ items inputs := by
                rw [hItems]
                exact List.mem_cons_self
              rcases time_of_mem_items hMember with
                ⟨next, hNext, hTime⟩
              have hLater : now ≤ item.2 := by
                rw [← hTime]
                exact hOrdered.1 next hNext
              rw [List.foldl_cons, List.foldl_cons,
                observe_tick p hSettled hLater]

end HoldMonitor

------------------------------------------------------------
-- Verdicts
------------------------------------------------------------

namespace HoldMonitor

variable {α : Type}
variable {r : Rule α}
variable {start later : Int}
variable {items : List (α × Int)}

@[simp] theorem foldl_observe_passed :
    items.foldl (observe r) .passed = .passed := by
  induction items with
  | nil => rfl
  | cons item items ih => exact ih

@[simp] theorem foldl_observe_failed :
    items.foldl (observe r) .failed = .failed := by
  induction items with
  | nil => rfl
  | cons item items ih => exact ih

@[simp] theorem foldl_apply_failed
    (inputs : List (Input α)) :
    inputs.foldl (apply r) .failed = .failed := by
  induction inputs with
  | nil => rfl
  | cons input inputs ih =>
      cases input with
      | activate stamp time => exact ih
      | item x time => exact ih
      | tick now => exact ih

/-
  The items after the first good one and a tick after the
  hold decide whether the hold was kept up.
-/
theorem tick_foldl_holding
    {first last : Int}
    (hOrdered : items.Pairwise fun a b => a.2 ≤ b.2)
    (hOver : r.held (later - first) = true) :
    Decides
      (tick r later
        (items.foldl (observe r) (.holding start first last)))
      (Held r first last items) := by
  induction items generalizing last with
  | nil =>
      unfold Decides
      rw [held_nil_iff, List.foldl_nil, tick, if_pos hOver]
      cases r.wide (r.hold - (last - first)) with
      | false => simp
      | true => simp
  | cons item items ih =>
      rw [List.pairwise_cons] at hOrdered
      rw [List.foldl_cons, observe]
      cases hHeld : r.held (item.2 - first) with
      | true =>
          have hAll :
              ∀ i ∈ item :: items,
                r.held (i.2 - first) = true := by
            rw [List.forall_mem_cons]
            refine ⟨hHeld, fun i hMember => ?_⟩
            have hLater := hOrdered.1 i hMember
            exact r.held_mono _ _ (by omega) hHeld
          unfold Decides
          rw [held_iff_of_over hAll, held_nil_iff, if_pos rfl]
          cases r.wide (r.hold - (last - first)) with
          | false => simp [tick]
          | true => simp [tick]
      | false =>
          rw [if_neg Bool.false_ne_true]
          apply Decides.of_iff (held_cons_iff hHeld).symm
          cases hWide : r.wide (item.2 - last) with
          | true => simp [Decides, tick]
          | false =>
              cases hGood : r.good item.1 with
              | false => simp [Decides, tick]
              | true => simpa using ih hOrdered.2

/- The first item is the first good one or comes before it. -/
theorem responds_cons_iff
    {item : α × Int} :
    Responds r start (item :: items) ↔
      (r.good item.1 = true ∧
        r.late (item.2 - start) = false ∧
          Held r item.2 item.2 items) ∨
        (r.fine item.1 = true ∧ r.good item.1 = false ∧
          Responds r start items) := by
  constructor
  · rintro ⟨before, found, after, hSplit, hBefore, hFound⟩
    cases before with
    | nil =>
        rw [List.nil_append, List.cons.injEq] at hSplit
        rcases hSplit with ⟨hItem, hItems⟩
        subst hItem hItems
        exact .inl hFound
    | cons next before =>
        rw [List.cons_append, List.cons.injEq] at hSplit
        rcases hSplit with ⟨hItem, hItems⟩
        subst hItem
        rw [List.forall_mem_cons] at hBefore
        exact .inr ⟨hBefore.1.1, hBefore.1.2, before, found,
          after, hItems, hBefore.2, hFound⟩
  · rintro (hFound | ⟨hFine, hPoor, before, found, after,
      hSplit, hBefore, hFound⟩)
    · exact ⟨[], item, items, rfl, by simp, hFound⟩
    · refine ⟨item :: before, found, after, ?_, ?_, hFound⟩
      · rw [hSplit, List.cons_append]
      · rw [List.forall_mem_cons]
        exact ⟨⟨hFine, hPoor⟩, hBefore⟩

/- Late items do not respond. -/
theorem not_responds_of_late
    (hLate : ∀ item ∈ items, r.late (item.2 - start) = true) :
    ¬ Responds r start items := by
  rintro ⟨before, found, after, hSplit, _, _, hInTime, _⟩
  have hMember : found ∈ items := by simp [hSplit]
  rw [hLate found hMember] at hInTime
  cases hInTime

/-
  The items since the activation and a tick after everything
  that could be in time decide whether they respond.
-/
theorem tick_foldl_awaiting
    (hOrdered : items.Pairwise fun a b => a.2 ≤ b.2)
    (hLate : r.late (later - start) = true)
    (hOver :
      ∀ first, r.late (first - start) = false →
        r.held (later - first) = true) :
    Decides
      (tick r later
        (items.foldl (observe r) (.awaiting start)))
      (Responds r start items) := by
  induction items with
  | nil =>
      have hNone : ¬ Responds r start ([] : List (α × Int)) :=
        not_responds_of_late (by simp)
      exact .inr ⟨hNone, by simp [tick, hLate]⟩
  | cons item items ih =>
      rw [List.foldl_cons, observe]
      cases hTime : r.late (item.2 - start) with
      | true =>
          have hNone : ¬ Responds r start (item :: items) := by
            apply not_responds_of_late
            rw [List.forall_mem_cons]
            refine ⟨hTime, fun i hMember => ?_⟩
            have hLater :=
              (List.pairwise_cons.mp hOrdered).1 i hMember
            exact r.late_mono _ _ (by omega) hTime
          exact .inr ⟨hNone, by simp [tick]⟩
      | false =>
          apply Decides.of_iff responds_cons_iff.symm
          have hTail := (List.pairwise_cons.mp hOrdered).2
          cases hGood : r.good item.1 with
          | true =>
              have hFine := r.fine_of_good _ hGood
              have hHold :
                  Decides
                    (tick r later
                      (items.foldl (observe r)
                        (.holding start item.2 item.2)))
                    (Held r item.2 item.2 items) :=
                tick_foldl_holding hTail (hOver _ hTime)
              simpa [hFine, hTime] using hHold
          | false =>
              cases hFine : r.fine item.1 with
              | false => exact .inr ⟨by simp, by simp [tick]⟩
              | true => simpa using ih hTail

end HoldMonitor

------------------------------------------------------------
-- Runs
------------------------------------------------------------

namespace HoldMonitor

variable {α : Type}
variable {r : Rule α}
variable {later : Int}
variable {before after : List (Input α)}

/- The input tells the monitor of an activation. -/
def Input.activates : Input α → Bool
| .activate _ _ => true
| _ => false

/- Before the activation is known the items are kept. -/
theorem foldl_apply_waiting
    (buffer : List (α × Int))
    (hNone : ∀ input ∈ before, input.activates = false)
    (hTicks : ∀ now, .tick now ∈ before → r.expired now = false)
    (hRoom :
      buffer.length + (items before).length ≤ r.capacity) :
    before.foldl (apply r) (.waiting buffer) =
      .waiting (buffer ++ items before) := by
  induction before generalizing buffer with
  | nil => simp [items]
  | cons input before ih =>
      rw [List.forall_mem_cons] at hNone
      have hRest :
          ∀ now, .tick now ∈ before → r.expired now = false :=
        fun now hMember =>
          hTicks now (List.mem_cons_of_mem _ hMember)
      rw [List.foldl_cons]
      cases input with
      | activate stamp time => cases hNone.1
      | item x time =>
          have hItems :
              items (.item x time :: before) =
                (x, time) :: items before := rfl
          rw [hItems, List.length_cons] at hRoom
          have hFits : buffer.length < r.capacity := by omega
          rw [apply, observe, if_pos hFits, hItems]
          rw [ih _ hNone.2 hRest
            (by rw [List.length_append, List.length_singleton]
                omega)]
          simp
      | tick now =>
          have hHere :=
            hTicks now List.mem_cons_self
          rw [apply, tick, hHere, if_neg Bool.false_ne_true]
          exact ih buffer hNone.2 hRest hRoom

/- Without an activation the monitor fails in the end. -/
theorem verdict_of_no_activation
    (hNone : ∀ input ∈ before, input.activates = false)
    (hExpired : r.expired later = true) :
    tick r later (before.foldl (apply r) (.waiting [])) =
      .failed := by
  suffices hGeneral :
      ∀ buffer,
        tick r later
            (before.foldl (apply r) (.waiting buffer)) =
          .failed from hGeneral []
  induction before with
  | nil => simp [tick, hExpired]
  | cons input before ih =>
      rw [List.forall_mem_cons] at hNone
      intro buffer
      rw [List.foldl_cons]
      cases input with
      | activate stamp time => cases hNone.1
      | item x time =>
          rw [apply, observe]
          split
          · exact ih hNone.2 _
          · simp [tick]
      | tick now =>
          rw [apply, tick]
          split
          · simp [tick]
          · exact ih hNone.2 _

theorem settled_foldl_observe
    (items : List (α × Int))
    (p : Phase α)
    (hSettled : p.settled = true) :
    (items.foldl (observe r) p).settled = true := by
  induction items generalizing p with
  | nil => exact hSettled
  | cons item items ih =>
      exact ih _ (settled_observe p hSettled)

theorem pairwise_items
    {inputs : List (Input α)}
    (hOrdered :
      inputs.Pairwise fun a b => a.time ≤ b.time) :
    (items inputs).Pairwise fun a b => a.2 ≤ b.2 := by
  refine List.Pairwise.filterMap _ ?_ hOrdered
  intro a b hTimes x hX y hY
  cases a with
  | activate stamp time => cases hX
  | tick now => cases hX
  | item _ _ =>
      cases b with
      | activate stamp time => cases hY
      | tick now => cases hY
      | item _ _ =>
          cases hX
          cases hY
          exact hTimes

/-
  The monitor learns of the activation before anything has
  expired and with room for all items so far. Then a late
  tick decides whether the activation was timely and the
  items since then respond to it.
-/
theorem verdict_of_activation
    {stamp time : Int}
    (hNone : ∀ input ∈ before, input.activates = false)
    (hTicks : ∀ now, .tick now ∈ before → r.expired now = false)
    (hRoom : (items before).length ≤ r.capacity)
    (hStamp : stamp ≤ time)
    (hOrdered :
      (before ++ .activate stamp time :: after).Pairwise
        fun a b => a.time ≤ b.time)
    (hBefore : ∀ input ∈ after, input.time ≤ later)
    (hLate :
      r.timely stamp = true → r.late (later - stamp) = true)
    (hOver :
      r.timely stamp = true →
        ∀ first, r.late (first - stamp) = false →
          r.held (later - first) = true) :
    Decides
      (tick r later
        ((before ++ .activate stamp time :: after).foldl
          (apply r) (.waiting [])))
      (r.timely stamp = true ∧
        Responds r stamp
          ((items
            (before ++ .activate stamp time :: after)).filter
              fun item => stamp ≤ item.2)) := by
  rcases List.pairwise_append.mp hOrdered with
    ⟨_, hRest, _⟩
  rw [List.pairwise_cons] at hRest
  rw [List.foldl_append, List.foldl_cons,
    foldl_apply_waiting [] hNone hTicks (by simpa using hRoom),
    List.nil_append, apply, activate]
  cases hTimely : r.timely stamp with
  | false => exact .inr ⟨by simp, by simp [tick]⟩
  | true =>
      have hSince :
          (items after).filter (fun item => stamp ≤ item.2) =
            items after := by
        apply List.filter_eq_self.mpr
        intro item hMember
        rcases time_of_mem_items hMember with
          ⟨input, hInput, hTime⟩
        have hDelivered : time ≤ input.time :=
          hRest.1 input hInput
        exact decide_eq_true (by omega)
      have hItems :
          (items
              (before ++ .activate stamp time :: after)).filter
              (fun item => stamp ≤ item.2) =
            (items before).filter
                (fun item => stamp ≤ item.2) ++
              items after := by
        have hAll :
            items (before ++ .activate stamp time :: after) =
              items before ++ items after := by
          unfold items
          rw [List.filterMap_append,
            List.filterMap_cons_none rfl]
        rw [hAll, List.filter_append, hSince]
      have hSorted :
          ((items
            (before ++ .activate stamp time :: after)).filter
              fun item => stamp ≤ item.2).Pairwise
            fun a b => a.2 ≤ b.2 :=
        (pairwise_items hOrdered).filter _
      rw [if_pos rfl,
        tick_foldl_apply after _
          (settled_foldl_observe _ _ rfl) hRest.2 hBefore,
        ← List.foldl_append]
      rw [hItems] at hSorted ⊢
      simpa using
        tick_foldl_awaiting hSorted (hLate hTimely)
          (hOver hTimely)

end HoldMonitor
