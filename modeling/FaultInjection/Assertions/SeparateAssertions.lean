import FaultInjection.Core.AssertionReferences

/-
  What an assertion reports does not depend on the others.

  The runner keeps its assertions in one list for each type.
  A call first changes assertions and then publishes. Among
  the others an assertion goes through the same states as
  alone, and what is published about it is the same.

  Key definitions include:
    * `FaultAssertionRunner.observe`
    * `FaultAssertionRunner.announce`
    * `FaultAssertionRunner.hears`
    * `FaultAssertionRunner.Covers`
    * `FaultAssertionRunner.SameNews`

  Key theorems include:
    * `FaultAssertionRunner.step_eq`
    * `FaultAssertionRunner.advances_step`
    * `FaultAssertionRunner.assertions_do_not_interfere`
-/

------------------------------------------------------------
-- Observing And Announcing
------------------------------------------------------------

namespace FaultAssertionRunner

open Transition

/- What a call does to the assertions. -/
def observe
    (fromSeconds : Number → Int)
    (r : FaultAssertionRunner) :
    Call → Option FaultAssertionRunner
| .faultEvent event _ =>
    let observed :=
      r.twistStoppedAssertions.mapM fun assertion =>
        assertion.observeFaultEvent fromSeconds
          event.toFaultEvent event.stamp
    observed.map fun twists =>
      { r with
        faultEventAssertions :=
          r.faultEventAssertions.map fun assertion =>
            assertion.observe event.toFaultEvent
        twistStoppedAssertions := twists }
| .topicHzMessage index now =>
    let observed :=
      changeAt
        (fun assertion => some (assertion.observeMessage now))
        r.topicHzAssertions index
    observed.map fun rates =>
      { r with topicHzAssertions := rates }
| .twistMessage index message now =>
    let observed :=
      changeAt
        (fun assertion =>
          assertion.observeMessage fromSeconds message now)
        r.twistStoppedAssertions index
    observed.map fun twists =>
      { r with twistStoppedAssertions := twists }
| .update readings =>
    let elapsedSeconds :=
      Number.finite (seconds (readings.now - r.startTime))
    let updated :=
      r.twistStoppedAssertions.mapM fun assertion =>
        assertion.update fromSeconds readings.now
    updated.map fun twists =>
      { r with
        faultEventAssertions :=
          r.faultEventAssertions.map fun assertion =>
            assertion.update elapsedSeconds
        topicHzAssertions :=
          r.topicHzAssertions.map fun assertion =>
            assertion.update elapsedSeconds readings.now
        twistStoppedAssertions := twists }

/- What a call publishes afterwards. -/
def announce : Call → FaultAssertionRunner → FaultAssertionRunner
| .faultEvent _ stampOf, r => publishAssertionEvent stampOf r
| .topicHzMessage _ _, r => r
| .twistMessage _ _ _, r => r
| .update readings, r =>
    publishStatus readings.statusStamp
      (publishAssertionEvent readings.eventStamp r)

/- A call observes and then announces. -/
theorem step_eq
    (fromSeconds : Number → Int)
    (r : FaultAssertionRunner)
    (call : Call) :
    step fromSeconds r call =
      (observe fromSeconds r call).map (announce call) := by
  cases call with
  | faultEvent event stampOf =>
      rw [observe, Option.map_map, Option.map_eq_bind]
      exact rfl
  | topicHzMessage index now =>
      rw [observe, Option.map_map, Option.map_eq_bind]
      exact rfl
  | twistMessage index message now =>
      rw [observe, Option.map_map, Option.map_eq_bind]
      exact rfl
  | update readings =>
      rw [observe, Option.map_map, Option.map_eq_bind]
      exact rfl

/- What a call observes advances the results. -/
theorem advances_observe
    {fromSeconds : Number → Int}
    {r s : FaultAssertionRunner}
    {call : Call}
    (hObserve : observe fromSeconds r call = some s) :
    List.Forall₂ AssertionResult.Advances r.results
      s.results := by
  cases call with
  | faultEvent event stampOf =>
      rcases Option.map_eq_some_iff.mp hObserve with
        ⟨twists, hTwists, rfl⟩
      refine List.rel_append
        (advances_map
          (FaultEventAssertion.observe_advances _) _) ?_
      refine List.rel_append (advances_refl _) ?_
      refine advances_mapM ?_ hTwists
      intro a b hStep
      have hTwist :
          TwistStoppedAssertion.step fromSeconds a
              (.faultEvent event.toFaultEvent event.stamp
                event.stamp) =
            some b := hStep
      exact TwistStoppedAssertion.step_advances hTwist
  | topicHzMessage index now =>
      rcases Option.map_eq_some_iff.mp hObserve with
        ⟨rates, hRates, rfl⟩
      refine List.rel_append (advances_refl _) ?_
      refine List.rel_append
        (advances_changeAt ?_ hRates) (advances_refl _)
      intro a b hStep
      cases hStep
      exact TopicHzAssertion.observeMessage_advances now a
  | twistMessage index message now =>
      rcases Option.map_eq_some_iff.mp hObserve with
        ⟨twists, hTwists, rfl⟩
      refine List.rel_append (advances_refl _) ?_
      refine List.rel_append (advances_refl _) ?_
      refine advances_changeAt ?_ hTwists
      intro a b hStep
      have hTwist :
          TwistStoppedAssertion.step fromSeconds a
              (.message message now) =
            some b := hStep
      exact TwistStoppedAssertion.step_advances hTwist
  | update readings =>
      rcases Option.map_eq_some_iff.mp hObserve with
        ⟨twists, hTwists, rfl⟩
      refine List.rel_append
        (advances_map
          (FaultEventAssertion.update_advances _) _) ?_
      refine List.rel_append
        (advances_map
          (TopicHzAssertion.update_advances _ _) _) ?_
      refine advances_mapM ?_ hTwists
      intro a b hStep
      have hTwist :
          TwistStoppedAssertion.step fromSeconds a
              (.update readings.now) =
            some b := hStep
      exact TwistStoppedAssertion.step_advances hTwist

/- Announcing changes no assertion. -/
theorem announce_keeps
    (call : Call)
    (r : FaultAssertionRunner) :
    (announce call r).startTime = r.startTime ∧
      (announce call r).faultEventAssertions =
          r.faultEventAssertions ∧
        (announce call r).topicHzAssertions =
            r.topicHzAssertions ∧
          (announce call r).twistStoppedAssertions =
            r.twistStoppedAssertions := by
  have hPass :
      ∀ stampOf,
        (publishAssertionEvent stampOf r).startTime =
            r.startTime ∧
          (publishAssertionEvent stampOf
                r).faultEventAssertions =
              r.faultEventAssertions ∧
            (publishAssertionEvent stampOf
                  r).topicHzAssertions =
                r.topicHzAssertions ∧
              (publishAssertionEvent stampOf
                  r).twistStoppedAssertions =
                r.twistStoppedAssertions := by
    intro stampOf
    have hProj :
        ∀ {α : Type} (proj : FaultAssertionRunner → α),
          (∀ r published states,
              proj
                  { r with
                    published := published
                    lastPublishedStates := states } =
                proj r) →
            proj (publishAssertionEvent stampOf r) =
              proj r :=
      fun proj hSame =>
        publishAssertionEvent_proj proj hSame stampOf r
    exact
      ⟨hProj startTime fun _ _ _ => rfl,
        hProj faultEventAssertions fun _ _ _ => rfl,
        hProj topicHzAssertions fun _ _ _ => rfl,
        hProj twistStoppedAssertions fun _ _ _ => rfl⟩
  cases call with
  | faultEvent _ stampOf => exact hPass stampOf
  | topicHzMessage => exact ⟨rfl, rfl, rfl, rfl⟩
  | twistMessage => exact ⟨rfl, rfl, rfl, rfl⟩
  | update readings => exact hPass readings.eventStamp

theorem results_announce
    (call : Call)
    (r : FaultAssertionRunner) :
    (announce call r).results = r.results := by
  rcases announce_keeps call r with
    ⟨_, hEvents, hRates, hTwists⟩
  unfold results
  rw [hEvents, hRates, hTwists]

/- A call advances the results. -/
theorem advances_step
    {fromSeconds : Number → Int}
    {r s : FaultAssertionRunner}
    {call : Call}
    (hStep : step fromSeconds r call = some s) :
    List.Forall₂ AssertionResult.Advances r.results
      s.results := by
  rw [step_eq] at hStep
  rcases Option.map_eq_some_iff.mp hStep with
    ⟨u, hObserve, rfl⟩
  rw [results_announce]
  exact advances_observe hObserve

------------------------------------------------------------
-- One Assertion Among The Others
------------------------------------------------------------

/- The item at an index, if it is looked for in this list. -/
def itemAt
    {α : Type}
    (wanted : Bool)
    (index : Nat)
    (items : List α) : List α :=
  if wanted then items[index]?.toList else []

theorem mem_of_mem_itemAt
    {α : Type}
    {wanted : Bool}
    {index : Nat}
    {items : List α}
    {item : α}
    (hItem : item ∈ itemAt wanted index items) :
    item ∈ items := by
  unfold itemAt at hItem
  split at hItem
  · rw [Option.mem_toList] at hItem
    exact List.mem_of_getElem? hItem
  · cases hItem

theorem itemAt_map
    {α β : Type}
    (wanted : Bool)
    (index : Nat)
    (change : α → β)
    (items : List α) :
    itemAt wanted index (items.map change) =
      (itemAt wanted index items).map change := by
  unfold itemAt
  split
  · rw [List.getElem?_map, Option.toList_map]
  · exact rfl

/- Changing all items changes the one. -/
theorem itemAt_mapM
    {α : Type}
    {change : α → Option α}
    {items changed : List α}
    (hMap : items.mapM change = some changed)
    (wanted : Bool)
    (index : Nat) :
    (itemAt wanted index items).mapM change =
      some (itemAt wanted index changed) := by
  rw [Option.mapM_eq_some_iff] at hMap ⊢
  unfold itemAt
  split
  · induction hMap generalizing index with
    | nil => simp
    | cons hHead _ ih =>
        cases index with
        | zero => simpa using hHead
        | succ index => simpa using ih index
  · exact .nil

/- Changing the one changes it when it is alone as well. -/
theorem itemAt_changeAt_self
    {α : Type}
    {change : α → Option α}
    {items changed : List α}
    {index : Nat}
    (hAt : changeAt change items index = some changed) :
    changeAt change (itemAt true index items) 0 =
      some (itemAt true index changed) := by
  unfold itemAt
  rw [if_pos rfl, if_pos rfl]
  induction items generalizing index changed with
  | nil => cases hAt
  | cons item items ih =>
      cases index with
      | zero =>
          rcases Option.map_eq_some_iff.mp hAt with
            ⟨after, hAfter, rfl⟩
          simp [changeAt, hAfter]
      | succ index =>
          rcases Option.map_eq_some_iff.mp hAt with
            ⟨rest, hRest, rfl⟩
          simpa using ih hRest

/- Changing another item leaves the one as it was. -/
theorem itemAt_changeAt_of_ne
    {α : Type}
    {change : α → Option α}
    {items changed : List α}
    {other : Nat}
    (hAt : changeAt change items other = some changed)
    {wanted : Bool}
    {index : Nat}
    (hOther : wanted = true → other ≠ index) :
    itemAt wanted index changed =
      itemAt wanted index items := by
  unfold itemAt
  split
  · rename_i hWanted
    have hNot := hOther hWanted
    congr 1
    clear hOther
    induction items generalizing index other changed with
    | nil => cases hAt
    | cons item items ih =>
        cases other with
        | zero =>
            rcases Option.map_eq_some_iff.mp hAt with
              ⟨after, _, rfl⟩
            cases index with
            | zero => exact absurd rfl hNot
            | succ index => simp
        | succ other =>
            rcases Option.map_eq_some_iff.mp hAt with
              ⟨rest, hRest, rfl⟩
            cases index with
            | zero => simp
            | succ index =>
                have hTail :=
                  ih hRest fun hSame => hNot (by rw [hSame])
                simpa using hTail
  · exact rfl

/-
  A call as it is heard by a runner with only the assertion
  at this index among those of its type.
-/
def hears (type : String) (index : Nat) : Call → Option Call
| .topicHzMessage other now =>
    if type = "topic_hz" ∧ other = index then
      some (.topicHzMessage 0 now)
    else
      none
| .twistMessage other message now =>
    if type = "twist_stopped" ∧ other = index then
      some (.twistMessage 0 message now)
    else
      none
| call => some call

/- A runner has only the assertion at this index. -/
structure Covers
    (type : String)
    (index : Nat)
    (r alone : FaultAssertionRunner) : Prop where
  startTime : alone.startTime = r.startTime
  events :
    alone.faultEventAssertions =
      itemAt (type = "fault_event") index
        r.faultEventAssertions
  rates :
    alone.topicHzAssertions =
      itemAt (type = "topic_hz") index r.topicHzAssertions
  twists :
    alone.twistStoppedAssertions =
      itemAt (type = "twist_stopped") index
        r.twistStoppedAssertions

section Covers

variable {type : String}
variable {index : Nat}
variable {r alone u : FaultAssertionRunner}
variable {call heard : Call}

/- The result is one of those of all assertions. -/
theorem Covers.mem_results
    (hCovers : Covers type index r alone)
    {result : AssertionResult}
    (hResult : result ∈ alone.results) :
    result ∈ r.results := by
  unfold results at hResult ⊢
  simp only [hCovers.events, hCovers.rates, hCovers.twists,
    List.mem_append, List.mem_map] at hResult ⊢
  rcases hResult with ⟨item, hItem, hSame⟩ |
    ⟨item, hItem, hSame⟩ | ⟨item, hItem, hSame⟩
  · exact Or.inl ⟨item, mem_of_mem_itemAt hItem, hSame⟩
  · exact
      Or.inr (Or.inl ⟨item, mem_of_mem_itemAt hItem, hSame⟩)
  · exact
      Or.inr (Or.inr ⟨item, mem_of_mem_itemAt hItem, hSame⟩)

/- A call to another assertion changes nothing of the one. -/
theorem Covers.observe_silent
    {fromSeconds : Number → Int}
    (hCovers : Covers type index r alone)
    (hObserve : observe fromSeconds r call = some u)
    (hSilent : hears type index call = none) :
    Covers type index u alone := by
  cases call with
  | faultEvent => cases hSilent
  | topicHzMessage other now =>
      rcases Option.map_eq_some_iff.mp hObserve with
        ⟨rates, hRates, rfl⟩
      refine ⟨hCovers.startTime, hCovers.events, ?_,
        hCovers.twists⟩
      rw [hCovers.rates]
      refine (itemAt_changeAt_of_ne hRates ?_).symm
      intro hWanted hSame
      rw [decide_eq_true_iff] at hWanted
      simp [hears, hWanted, hSame] at hSilent
  | twistMessage other message now =>
      rcases Option.map_eq_some_iff.mp hObserve with
        ⟨twists, hTwists, rfl⟩
      refine ⟨hCovers.startTime, hCovers.events,
        hCovers.rates, ?_⟩
      rw [hCovers.twists]
      refine (itemAt_changeAt_of_ne hTwists ?_).symm
      intro hWanted hSame
      rw [decide_eq_true_iff] at hWanted
      simp [hears, hWanted, hSame] at hSilent
  | update => cases hSilent

/- A call that is heard does the same to the one. -/
theorem Covers.observe_heard
    {fromSeconds : Number → Int}
    (hCovers : Covers type index r alone)
    (hObserve : observe fromSeconds r call = some u)
    (hHeard : hears type index call = some heard) :
    ∃ v,
      observe fromSeconds alone heard = some v ∧
        Covers type index u v := by
  cases call with
  | faultEvent event stampOf =>
      cases hHeard
      rcases Option.map_eq_some_iff.mp hObserve with
        ⟨twists, hTwists, rfl⟩
      have hOne :=
        itemAt_mapM hTwists (type = "twist_stopped") index
      rw [← hCovers.twists] at hOne
      refine
        ⟨_, Option.map_eq_some_iff.mpr ⟨_, hOne, rfl⟩,
          hCovers.startTime, ?_, hCovers.rates, rfl⟩
      rw [itemAt_map, ← hCovers.events]
  | topicHzMessage other now =>
      rw [hears, Option.ite_none_right_eq_some] at hHeard
      rcases hHeard with ⟨⟨hType, rfl⟩, hSame⟩
      cases hSame
      rcases Option.map_eq_some_iff.mp hObserve with
        ⟨rates, hRates, rfl⟩
      have hOne := itemAt_changeAt_self hRates
      have hRatesAlone := hCovers.rates
      simp only [hType, decide_true] at hRatesAlone
      rw [← hRatesAlone] at hOne
      refine
        ⟨_, Option.map_eq_some_iff.mpr ⟨_, hOne, rfl⟩,
          hCovers.startTime, hCovers.events, ?_,
          hCovers.twists⟩
      simp only [hType, decide_true]
  | twistMessage other message now =>
      rw [hears, Option.ite_none_right_eq_some] at hHeard
      rcases hHeard with ⟨⟨hType, rfl⟩, hSame⟩
      cases hSame
      rcases Option.map_eq_some_iff.mp hObserve with
        ⟨twists, hTwists, rfl⟩
      have hOne := itemAt_changeAt_self hTwists
      have hTwistsAlone := hCovers.twists
      simp only [hType, decide_true] at hTwistsAlone
      rw [← hTwistsAlone] at hOne
      refine
        ⟨_, Option.map_eq_some_iff.mpr ⟨_, hOne, rfl⟩,
          hCovers.startTime, hCovers.events, hCovers.rates,
          ?_⟩
      simp only [hType, decide_true]
  | update readings =>
      cases hHeard
      rcases Option.map_eq_some_iff.mp hObserve with
        ⟨twists, hTwists, rfl⟩
      have hOne :=
        itemAt_mapM hTwists (type = "twist_stopped") index
      rw [← hCovers.twists] at hOne
      refine
        ⟨_, Option.map_eq_some_iff.mpr ⟨_, hOne, rfl⟩,
          hCovers.startTime, ?_, ?_, rfl⟩
      · rw [itemAt_map, ← hCovers.events, hCovers.startTime]
      · rw [itemAt_map, ← hCovers.rates, hCovers.startTime]

/- Announcing leaves the one where it was. -/
theorem Covers.announce
    (hCovers : Covers type index r alone)
    (call heard : Call) :
    Covers type index (announce call r)
      (announce heard alone) := by
  rcases announce_keeps call r with
    ⟨hTime, hEvents, hRates, hTwists⟩
  rcases announce_keeps heard alone with
    ⟨hOneTime, hOneEvents, hOneRates, hOneTwists⟩
  constructor
  · rw [hOneTime, hTime, hCovers.startTime]
  · rw [hOneEvents, hEvents, hCovers.events]
  · rw [hOneRates, hRates, hCovers.rates]
  · rw [hOneTwists, hTwists, hCovers.twists]

end Covers

------------------------------------------------------------
-- News About One Id
------------------------------------------------------------

/- Of one id as much is known as published, and the same. -/
structure SameNews
    (id : String)
    (r alone : FaultAssertionRunner) : Prop where
  last :
    alone.lastPublishedStates.find? id =
      r.lastPublishedStates.find? id
  events :
    assertionEvents alone.published =
      (assertionEvents r.published).filter fun event =>
        event.assertionId = id

section News

variable {id : String}
variable {r alone u : FaultAssertionRunner}

@[simp] theorem assertionEvents_snoc_status
    (log : List Publication)
    (results : List AssertionResult)
    (stamp : Int) :
    assertionEvents (log ++ [.scenarioStatus results stamp]) =
      assertionEvents log := by
  unfold assertionEvents
  simp

@[simp] theorem assertionEvents_snoc_event
    (log : List Publication)
    (result : AssertionResult)
    (stamp : Int) :
    assertionEvents (log ++ [.assertionEvent result stamp]) =
      assertionEvents log ++
        [assertionEvent result stamp] := by
  unfold assertionEvents
  simp

/- Publishing about another id is no news about the one. -/
theorem SameNews.publish_other
    (hNews : SameNews id r alone)
    (stampOf : String → Int)
    {result : AssertionResult}
    (hOther : result.id ≠ id) :
    SameNews id (publishResult stampOf r result) alone := by
  unfold publishResult
  split
  · exact hNews
  · split
    · exact hNews
    · refine ⟨?_, ?_⟩
      · rw [UnorderedMap.find?_insert, if_neg hOther]
        exact hNews.last
      · rw [assertionEvents_snoc_event, List.filter_append,
          hNews.events]
        simp [assertionEvent, hOther]

/- Both publish the same about the one id. -/
theorem SameNews.publish_self
    (hNews : SameNews id r alone)
    (stampOf : String → Int)
    {result : AssertionResult}
    (hSelf : result.id = id) :
    SameNews id (publishResult stampOf r result)
      (publishResult stampOf alone result) := by
  unfold publishResult
  rw [hSelf, hNews.last]
  split
  · exact hNews
  · split
    · exact hNews
    · refine ⟨?_, ?_⟩
      · rw [UnorderedMap.find?_insert_self,
          UnorderedMap.find?_insert_self]
      · rw [assertionEvents_snoc_event,
          assertionEvents_snoc_event, List.filter_append,
          hNews.events]
        simp [assertionEvent, hSelf]

/- A pass over all results is one over those of the id. -/
theorem SameNews.publish_all
    (hNews : SameNews id r alone)
    (stampOf : String → Int)
    (results : List AssertionResult) :
    SameNews id (results.foldl (publishResult stampOf) r)
      ((results.filter fun result => result.id = id).foldl
        (publishResult stampOf) alone) := by
  induction results generalizing r alone with
  | nil => exact hNews
  | cons result results ih =>
      rw [List.foldl_cons]
      by_cases hSelf : result.id = id
      · rw [List.filter_cons_of_pos (by simp [hSelf]),
          List.foldl_cons]
        exact ih (hNews.publish_self stampOf hSelf)
      · rw [List.filter_cons_of_neg (by simp [hSelf])]
        exact ih (hNews.publish_other stampOf hSelf)

/- Both announce the same about the one id. -/
theorem SameNews.announce
    {type : String}
    {index : Nat}
    {call heard : Call}
    (hNews : SameNews id r alone)
    (hHeard : hears type index call = some heard)
    (hOwn :
      alone.results =
        r.results.filter fun result => result.id = id) :
    SameNews id (announce call r) (announce heard alone) := by
  have hPass :
      ∀ stampOf,
        SameNews id (publishAssertionEvent stampOf r)
          (publishAssertionEvent stampOf alone) := by
    intro stampOf
    unfold publishAssertionEvent
    rw [hOwn]
    exact hNews.publish_all stampOf r.results
  cases call with
  | faultEvent event stampOf =>
      cases hHeard
      exact hPass stampOf
  | topicHzMessage =>
      rw [hears, Option.ite_none_right_eq_some] at hHeard
      cases hHeard.2
      exact hNews
  | twistMessage =>
      rw [hears, Option.ite_none_right_eq_some] at hHeard
      cases hHeard.2
      exact hNews
  | update readings =>
      cases hHeard
      have hEvents := hPass readings.eventStamp
      refine ⟨hEvents.last, ?_⟩
      change
        assertionEvents (_ ++ [_]) =
          (assertionEvents (_ ++ [_])).filter _
      rw [assertionEvents_snoc_status,
        assertionEvents_snoc_status]
      exact hEvents.events

/- A call to another assertion announces nothing. -/
theorem announce_silent
    {type : String}
    {index : Nat}
    {call : Call}
    (hSilent : hears type index call = none)
    (r : FaultAssertionRunner) :
    announce call r = r := by
  cases call with
  | faultEvent => cases hSilent
  | topicHzMessage => exact rfl
  | twistMessage => exact rfl
  | update => cases hSilent

/- Observing publishes nothing. -/
theorem observe_published
    {fromSeconds : Number → Int}
    {call : Call}
    (hObserve : observe fromSeconds r call = some u) :
    u.published = r.published ∧
      u.lastPublishedStates = r.lastPublishedStates := by
  cases call with
  | faultEvent =>
      rcases Option.map_eq_some_iff.mp hObserve with ⟨_, _, rfl⟩
      exact ⟨rfl, rfl⟩
  | topicHzMessage =>
      rcases Option.map_eq_some_iff.mp hObserve with ⟨_, _, rfl⟩
      exact ⟨rfl, rfl⟩
  | twistMessage =>
      rcases Option.map_eq_some_iff.mp hObserve with ⟨_, _, rfl⟩
      exact ⟨rfl, rfl⟩
  | update =>
      rcases Option.map_eq_some_iff.mp hObserve with ⟨_, _, rfl⟩
      exact ⟨rfl, rfl⟩

theorem SameNews.of_published
    {s t : FaultAssertionRunner}
    (hNews : SameNews id r alone)
    (hRunner :
      s.published = r.published ∧
        s.lastPublishedStates = r.lastPublishedStates)
    (hAlone :
      t.published = alone.published ∧
        t.lastPublishedStates = alone.lastPublishedStates) :
    SameNews id s t := by
  refine ⟨?_, ?_⟩
  · rw [hAlone.2, hRunner.2, hNews.last]
  · rw [hAlone.1, hRunner.1, hNews.events]

end News

------------------------------------------------------------
-- Runs
------------------------------------------------------------

/- The assertions that a start makes of a list. -/
theorem start_eq
    (now : Int)
    (configs : List AssertionConfig)
    (r : FaultAssertionRunner) :
    start now configs r =
      { startTime := now
        faultEventAssertions :=
          (configs.filter fun config =>
            config.type = "fault_event").map
              FaultEventAssertion.create
        topicHzAssertions :=
          (configs.filter fun config =>
            config.type = "topic_hz").map
              TopicHzAssertion.create
        twistStoppedAssertions :=
          (configs.filter fun config =>
            config.type = "twist_stopped").map
              fun config =>
                TwistStoppedAssertion.create config now
        published := r.published } := by
  unfold start
  suffices hGeneral :
      ∀ s : FaultAssertionRunner,
        configs.foldl startAssertion s =
          { s with
            faultEventAssertions :=
              s.faultEventAssertions ++
                (configs.filter fun config =>
                  config.type = "fault_event").map
                    FaultEventAssertion.create
            topicHzAssertions :=
              s.topicHzAssertions ++
                (configs.filter fun config =>
                  config.type = "topic_hz").map
                    TopicHzAssertion.create
            twistStoppedAssertions :=
              s.twistStoppedAssertions ++
                (configs.filter fun config =>
                  config.type = "twist_stopped").map
                    fun config =>
                      TwistStoppedAssertion.create config
                        s.startTime } by
    rw [hGeneral]
    simp
  induction configs with
  | nil => simp
  | cons config configs ih =>
      intro s
      rw [List.foldl_cons, ih]
      unfold startAssertion
      by_cases hEvent : config.type = "fault_event"
      · simp [hEvent]
      · by_cases hRate : config.type = "topic_hz"
        · simp [hRate]
        · by_cases hTwist : config.type = "twist_stopped"
          · simp [hTwist]
          · simp [hEvent, hRate, hTwist]

/- An assertion is found at its place among its type. -/
theorem itemAt_configs
    {α : Type}
    (create : AssertionConfig → α)
    (before after : List AssertionConfig)
    (config : AssertionConfig)
    (type : String) :
    itemAt (config.type = type)
        (before.countP fun other => other.type = config.type)
        (((before ++ config :: after).filter fun other =>
          other.type = type).map create) =
      ([config].filter fun other =>
        other.type = type).map create := by
  rw [itemAt_map]
  congr 1
  unfold itemAt
  by_cases hType : config.type = type
  · subst hType
    rw [List.countP_eq_length_filter]
    simp
  · simp [hType]

/- An assertion started alone is the one among the others. -/
theorem covers_start
    (now : Int)
    (before after : List AssertionConfig)
    (config : AssertionConfig) :
    Covers config.type
      (before.countP fun other => other.type = config.type)
      (start now (before ++ config :: after) {})
      (start now [config] {}) := by
  rw [start_eq, start_eq]
  refine ⟨rfl, ?_, ?_, ?_⟩
  · exact (itemAt_configs _ before after config _).symm
  · exact (itemAt_configs _ before after config _).symm
  · exact (itemAt_configs _ before after config _).symm

/- With distinct keys one item has the key. -/
theorem filter_key_eq
    {α κ : Type}
    [DecidableEq κ]
    {key : α → κ}
    {items : List α}
    (hDistinct : (items.map key).Nodup)
    {item : α}
    (hItem : item ∈ items) :
    (items.filter fun other => key other = key item) =
      [item] := by
  induction items with
  | nil => cases hItem
  | cons first rest ih =>
      rw [List.map_cons, List.nodup_cons] at hDistinct
      rcases List.mem_cons.mp hItem with rfl | hRest
      · have hNone :
            (rest.filter fun other => key other = key item) =
              [] := by
          rw [List.filter_eq_nil_iff]
          intro other hOther hSame
          rw [decide_eq_true_iff] at hSame
          apply hDistinct.1
          rw [← hSame]
          exact List.mem_map_of_mem hOther
        rw [List.filter_cons_of_pos (by simp), hNone]
      · have hFirst : key first ≠ key item := by
          intro hSame
          apply hDistinct.1
          rw [hSame]
          exact List.mem_map_of_mem hRest
        rw [List.filter_cons_of_neg (by simp [hFirst])]
        exact ih hDistinct.2 hRest

/- The results of an id, when the ids are distinct. -/
theorem results_of_id
    {type id : String}
    {index : Nat}
    {r alone : FaultAssertionRunner}
    (hCovers : Covers type index r alone)
    (hIds : (r.results.map AssertionResult.id).Nodup)
    (hOne : alone.results.map AssertionResult.id = [id]) :
    alone.results =
      r.results.filter fun result => result.id = id := by
  rcases List.map_eq_singleton_iff.mp hOne with
    ⟨result, hResults, hId⟩
  have hMember : result ∈ r.results :=
    hCovers.mem_results (by rw [hResults]; simp)
  rw [hResults, ← hId, filter_key_eq hIds hMember]

/- Advancing keeps the ids. -/
theorem ids_of_advances
    {before after : List AssertionResult}
    (hAdvances :
      List.Forall₂ AssertionResult.Advances before after) :
    after.map AssertionResult.id =
      before.map AssertionResult.id :=
  map_eq_of_forall₂ (hAdvances.imp fun _ _ hOne => hOne.1)

/-
  What relates a runner to one with a single assertion of it:
  the assertion, its result and the news about its id.
-/
structure Separate
    (config : AssertionConfig)
    (index : Nat)
    (r alone : FaultAssertionRunner) : Prop where
  covers : Covers config.type index r alone
  ids : (r.results.map AssertionResult.id).Nodup
  one : alone.results.map AssertionResult.id = [config.id]
  news : SameNews config.id r alone

section Separate

variable {fromSeconds : Number → Int}
variable {config : AssertionConfig}
variable {index : Nat}
variable {r alone t : FaultAssertionRunner}
variable {call heard : Call}

theorem Separate.step_silent
    (hSeparate : Separate config index r alone)
    (hStep : step fromSeconds r call = some t)
    (hSilent : hears config.type index call = none) :
    Separate config index t alone := by
  rw [step_eq] at hStep
  rcases Option.map_eq_some_iff.mp hStep with
    ⟨u, hObserve, rfl⟩
  rw [announce_silent hSilent]
  constructor
  · exact hSeparate.covers.observe_silent hObserve hSilent
  · rw [ids_of_advances (advances_observe hObserve)]
    exact hSeparate.ids
  · exact hSeparate.one
  · exact
      hSeparate.news.of_published (observe_published hObserve)
        ⟨rfl, rfl⟩

theorem Separate.step_heard
    (hSeparate : Separate config index r alone)
    (hStep : step fromSeconds r call = some t)
    (hHeard : hears config.type index call = some heard) :
    ∃ after,
      step fromSeconds alone heard = some after ∧
        Separate config index t after := by
  rw [step_eq] at hStep
  rcases Option.map_eq_some_iff.mp hStep with
    ⟨u, hObserve, rfl⟩
  rcases hSeparate.covers.observe_heard hObserve hHeard with
    ⟨v, hAlone, hCovers⟩
  have hIds : (u.results.map AssertionResult.id).Nodup := by
    rw [ids_of_advances (advances_observe hObserve)]
    exact hSeparate.ids
  have hOne :
      v.results.map AssertionResult.id = [config.id] := by
    rw [ids_of_advances (advances_observe hAlone)]
    exact hSeparate.one
  have hNews : SameNews config.id u v :=
    hSeparate.news.of_published (observe_published hObserve)
      (observe_published hAlone)
  refine ⟨announce heard v, ?_, ?_, ?_, ?_, ?_⟩
  · rw [step_eq, hAlone, Option.map_some]
  · exact hCovers.announce call heard
  · rw [results_announce]
    exact hIds
  · rw [results_announce]
    exact hOne
  · exact
      hNews.announce hHeard (results_of_id hCovers hIds hOne)

/- A start separates an assertion from the others. -/
theorem separate_start
    {before after : List AssertionConfig}
    (hTypes :
      ∀ other ∈ before ++ config :: after,
        isSupportedAssertionType other.type = true)
    (hIds :
      ((before ++ config :: after).map
        AssertionConfig.id).Nodup)
    (now : Int) :
    Separate config
      (before.countP fun other => other.type = config.type)
      (start now (before ++ config :: after) {})
      (start now [config] {}) := by
  have hOne :=
    ids_startAssertion { startTime := now }
      (hTypes config (by simp))
  refine ⟨covers_start now before after config,
    (announced_start hTypes hIds now).ids, ?_, ?_, ?_⟩
  · exact List.perm_singleton.mp hOne
  · rw [start_eq, start_eq]
  · rw [start_eq, start_eq]
    exact rfl

/-
  In every run an assertion has the result that it has alone,
  when it hears the calls that concern it, and what has been
  published about it is what would be published alone.
-/
theorem assertions_do_not_interfere
    {before after : List AssertionConfig}
    {now : Int}
    {calls : List Call}
    (hTypes :
      ∀ other ∈ before ++ config :: after,
        isSupportedAssertionType other.type = true)
    (hIds :
      ((before ++ config :: after).map
        AssertionConfig.id).Nodup)
    (hRun :
      run (step fromSeconds)
          (start now (before ++ config :: after) {}) calls =
        some r) :
    ∃ alone,
      run (step fromSeconds) (start now [config] {})
          (calls.filterMap
            (hears config.type
              (before.countP fun other =>
                other.type = config.type))) =
        some alone ∧
        alone.results =
            (r.results.filter fun result =>
              result.id = config.id) ∧
          assertionEvents alone.published =
            (assertionEvents r.published).filter fun event =>
              event.assertionId = config.id := by
  have hSeparate :
      ∃ alone,
        run (step fromSeconds) (start now [config] {})
            (calls.filterMap
              (hears config.type
                (before.countP fun other =>
                  other.type = config.type))) =
          some alone ∧
          Separate config
            (before.countP fun other =>
              other.type = config.type)
            r alone := by
    refine run_hears ?_ ?_ (separate_start hTypes hIds now) hRun
    · exact fun _ _ _ _ hHere hStep hSilent =>
        hHere.step_silent hStep hSilent
    · exact fun _ _ _ _ _ hHere hStep hHeard =>
        hHere.step_heard hStep hHeard
  rcases hSeparate with ⟨alone, hAlone, hEnd⟩
  exact
    ⟨alone, hAlone,
      results_of_id hEnd.covers hEnd.ids hEnd.one,
      hEnd.news.events⟩

end Separate

end FaultAssertionRunner

------------------------------------------------------------
-- Two Rates
------------------------------------------------------------

namespace FaultAssertionRunner.TwoRates

open Transition

def rate (id topic : String) : AssertionConfig where
  id := id
  type := "topic_hz"
  topic := topic
  minHz := some .one
  window := some .one

/- A message arrives on one of the topics, then time passes. -/
def calls : List Call :=
  [ .topicHzMessage 1 1000000000,
    .update
      { now := 1500000000
        eventStamp := fun _ => 1500000000
        statusStamp := 1500000000 } ]

/- The first assertion does not see the other's message. -/
theorem first_rate_does_not_interfere :
    ∃ r alone,
      run (step fun _ => 0)
          (start 0
            ([] ++ rate "odom" "/odom" ::
              [rate "scan" "/scan"]) {})
          calls =
        some r ∧
        run (step fun _ => 0)
            (start 0 [rate "odom" "/odom"] {})
            (calls.filterMap (hears "topic_hz" 0)) =
          some alone ∧
          alone.results =
              (r.results.filter fun result =>
                result.id = "odom") ∧
            assertionEvents alone.published =
              (assertionEvents r.published).filter
                fun event => event.assertionId = "odom" := by
  have hReturns :
      (run (step fun _ => 0)
        (start 0
          ([] ++ rate "odom" "/odom" ::
            [rate "scan" "/scan"]) {})
        calls).isSome = true := by
    decide +kernel
  rcases Option.isSome_iff_exists.mp hReturns with ⟨r, hRun⟩
  rcases assertions_do_not_interfere (by decide) (by decide)
      hRun with
    ⟨alone, hAlone⟩
  exact ⟨r, alone, hRun, hAlone⟩

end FaultAssertionRunner.TwoRates
