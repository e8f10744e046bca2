import Mathlib.Data.List.Nodup
import Mathlib.Data.List.Perm.Basic

/-
  Unordered maps with distinct keys.

  The entries stand in the order in which their keys were
  first inserted. An iteration visits them in an order that
  depends on the hash function and the table, so it is a
  parameter: `HashOrder` gives some permutation of the keys.

  Key definitions include:
    * `UnorderedMap`
    * `UnorderedMap.find?`
    * `UnorderedMap.insert`
    * `UnorderedMap.mapValues`
    * `HashOrder`
    * `UnorderedMap.enumerate`

  Key theorems include:
    * `List.find?_eq_some_iff_of_nodup_map`
    * `UnorderedMap.find?_insert`
    * `UnorderedMap.mem_keys_iff`
    * `UnorderedMap.mem_enumerate_iff`
-/

------------------------------------------------------------
-- Lists With Distinct Keys
------------------------------------------------------------

/- In a list with distinct keys each item is found by key. -/
theorem List.find?_eq_some_iff_of_nodup_map
    {α κ : Type}
    [DecidableEq κ]
    {key : α → κ}
    {items : List α}
    (hDistinct : (items.map key).Nodup)
    {k : κ}
    {item : α} :
    items.find? (fun x => key x = k) = some item ↔
      item ∈ items ∧ key item = k := by
  constructor
  · intro hFind
    have hMember := List.mem_of_find?_eq_some hFind
    have hKey := List.find?_some hFind
    exact ⟨hMember, by simpa using hKey⟩
  · rintro ⟨hMember, hKey⟩
    cases hFind : items.find? (fun x => key x = k) with
    | none =>
        rw [List.find?_eq_none] at hFind
        exact absurd (by simpa using hKey)
          (hFind item hMember)
    | some found =>
        have hFound := List.mem_of_find?_eq_some hFind
        have hFoundKey : key found = k := by
          simpa using List.find?_some hFind
        rw [List.inj_on_of_nodup_map hDistinct hFound
          hMember (hFoundKey.trans hKey.symm)]

------------------------------------------------------------
-- Entry Lists
------------------------------------------------------------

namespace UnorderedMap

variable {κ β : Type}
variable [DecidableEq κ]

/- The value of the first entry with the key. -/
def findEntry
    (k : κ) : List (κ × β) → Option β
| [] => none
| (k', v) :: es => if k' = k then some v else findEntry k es

/- Replace the entry with the key, or append one. -/
def insertEntry
    (k : κ)
    (v : β) : List (κ × β) → List (κ × β)
| [] => [(k, v)]
| (k', v') :: es =>
    if k' = k then
      (k, v) :: es
    else
      (k', v') :: insertEntry k v es

theorem keys_insertEntry
    (k : κ)
    (v : β)
    (es : List (κ × β)) :
    (insertEntry k v es).map Prod.fst =
      if k ∈ es.map Prod.fst then
        es.map Prod.fst
      else
        es.map Prod.fst ++ [k] := by
  induction es with
  | nil => simp [insertEntry]
  | cons e es ih =>
      rcases e with ⟨k', v'⟩
      by_cases hKey : k' = k
      · subst hKey
        simp [insertEntry]
      · have hKey' : ¬ k = k' := fun h => hKey h.symm
        simp only [insertEntry, hKey, if_false,
          List.map_cons, ih, List.mem_cons, hKey', false_or]
        split
        · rfl
        · rfl

theorem nodup_insertEntry
    {es : List (κ × β)}
    (hDistinct : (es.map Prod.fst).Nodup)
    (k : κ)
    (v : β) :
    ((insertEntry k v es).map Prod.fst).Nodup := by
  rw [keys_insertEntry]
  split
  · exact hDistinct
  · rename_i hFresh
    rw [List.nodup_append]
    refine ⟨hDistinct, by simp, ?_⟩
    intro a hA b hB hEq
    rw [List.mem_singleton] at hB
    subst hB hEq
    exact hFresh hA

theorem findEntry_insertEntry
    (k j : κ)
    (v : β)
    (es : List (κ × β)) :
    findEntry j (insertEntry k v es) =
      if k = j then some v else findEntry j es := by
  induction es with
  | nil => simp [insertEntry, findEntry]
  | cons e es ih =>
      rcases e with ⟨k', v'⟩
      by_cases hKey : k' = k
      · subst hKey
        by_cases hJ : k' = j
        · simp [insertEntry, findEntry, hJ]
        · simp [insertEntry, findEntry, hJ]
      · by_cases hJ : k' = j
        · subst hJ
          have hKJ : ¬ k = k' := fun h => hKey h.symm
          simp [insertEntry, findEntry, hKey, hKJ]
        · simp [insertEntry, findEntry, hKey, hJ, ih]

theorem mem_keys_iff_findEntry
    (k : κ)
    (es : List (κ × β)) :
    k ∈ es.map Prod.fst ↔ ∃ v, findEntry k es = some v := by
  induction es with
  | nil => simp [findEntry]
  | cons e es ih =>
      rcases e with ⟨k', v'⟩
      by_cases hKey : k' = k
      · simp [findEntry, hKey]
      · have hKey' : ¬ k = k' := fun h => hKey h.symm
        simp only [List.map_cons, List.mem_cons, hKey',
          false_or, findEntry, hKey, if_false]
        exact ih

/- With distinct keys every entry is found. -/
theorem mem_iff_findEntry
    {es : List (κ × β)}
    (hDistinct : (es.map Prod.fst).Nodup)
    (k : κ)
    (v : β) :
    (k, v) ∈ es ↔ findEntry k es = some v := by
  induction es with
  | nil => simp [findEntry]
  | cons e es ih =>
      rcases e with ⟨k', v'⟩
      rw [List.map_cons, List.nodup_cons] at hDistinct
      rw [List.mem_cons, ih hDistinct.2, findEntry]
      by_cases hKey : k' = k
      · subst hKey
        have hNone : findEntry k' es ≠ some v := by
          intro hFind
          exact
            hDistinct.1
              ((mem_keys_iff_findEntry k' es).mpr ⟨v, hFind⟩)
        simp [hNone, eq_comm]
      · have hKey' : ¬ k = k' := fun h => hKey h.symm
        simp [hKey, hKey']

end UnorderedMap

------------------------------------------------------------
-- Maps
------------------------------------------------------------

/- Entries with pairwise distinct keys. -/
structure UnorderedMap (κ β : Type) where
  entries : List (κ × β) := []
  distinct : (entries.map Prod.fst).Nodup := by simp

namespace UnorderedMap

variable {κ β : Type}

theorem ext_entries
    {m n : UnorderedMap κ β}
    (h : m.entries = n.entries) :
    m = n := by
  cases m
  cases n
  cases h
  rfl

instance
    [DecidableEq κ]
    [DecidableEq β] :
    DecidableEq (UnorderedMap κ β) := fun m n =>
  decidable_of_iff (m.entries = n.entries)
    ⟨ext_entries, fun h => h ▸ rfl⟩

/- The map without entries. -/
def empty : UnorderedMap κ β := {}

/- The keys in the order of their first insertion. -/
def keys (m : UnorderedMap κ β) : List κ :=
  m.entries.map Prod.fst

variable [DecidableEq κ]

/- The value stored for the key, if any. -/
def find?
    (m : UnorderedMap κ β)
    (k : κ) : Option β :=
  findEntry k m.entries

/- The key has an entry. -/
def contains
    (m : UnorderedMap κ β)
    (k : κ) : Bool :=
  (m.find? k).isSome

/- Store a value for the key, replacing an earlier one. -/
def insert
    (m : UnorderedMap κ β)
    (k : κ)
    (v : β) : UnorderedMap κ β where
  entries := insertEntry k v m.entries
  distinct := nodup_insertEntry m.distinct k v

/- Build a map by inserting the listed entries in order. -/
def ofList (es : List (κ × β)) : UnorderedMap κ β :=
  es.foldl (fun m e => m.insert e.1 e.2) empty

/- Change the value stored for the key, if there is one. -/
def modify
    (m : UnorderedMap κ β)
    (k : κ)
    (f : β → β) : UnorderedMap κ β :=
  match m.find? k with
  | none => m
  | some v => m.insert k (f v)

/- Change every stored value. -/
def mapValues
    {γ : Type}
    (m : UnorderedMap κ β)
    (f : β → γ) : UnorderedMap κ γ where
  entries := m.entries.map fun e => (e.1, f e.2)
  distinct := by
    have hKeys :
        (m.entries.map fun e => (e.1, f e.2)).map Prod.fst =
          m.entries.map Prod.fst := by
      simp
    rw [hKeys]
    exact m.distinct

@[simp] theorem find?_empty (k : κ) :
    (empty : UnorderedMap κ β).find? k = none := rfl

theorem find?_insert
    (m : UnorderedMap κ β)
    (k j : κ)
    (v : β) :
    (m.insert k v).find? j =
      if k = j then some v else m.find? j :=
  findEntry_insertEntry k j v m.entries

@[simp] theorem find?_insert_self
    (m : UnorderedMap κ β)
    (k : κ)
    (v : β) :
    (m.insert k v).find? k = some v := by
  simp [find?_insert]

theorem mem_keys_iff
    (m : UnorderedMap κ β)
    (k : κ) :
    k ∈ m.keys ↔ ∃ v, m.find? k = some v :=
  mem_keys_iff_findEntry k m.entries

theorem mem_entries_iff
    (m : UnorderedMap κ β)
    (k : κ)
    (v : β) :
    (k, v) ∈ m.entries ↔ m.find? k = some v :=
  mem_iff_findEntry m.distinct k v

theorem contains_iff
    (m : UnorderedMap κ β)
    (k : κ) :
    m.contains k = true ↔ ∃ v, m.find? k = some v := by
  simp [contains, Option.isSome_iff_exists]

theorem keys_insert
    (m : UnorderedMap κ β)
    (k : κ)
    (v : β) :
    (m.insert k v).keys =
      if k ∈ m.keys then m.keys else m.keys ++ [k] :=
  keys_insertEntry k v m.entries

theorem mem_keys_insert
    (m : UnorderedMap κ β)
    (k j : κ)
    (v : β) :
    j ∈ (m.insert k v).keys ↔ k = j ∨ j ∈ m.keys := by
  rw [mem_keys_iff, mem_keys_iff, find?_insert]
  by_cases hKey : k = j
  · simp [hKey]
  · simp [hKey]

theorem find?_modify
    (m : UnorderedMap κ β)
    (k j : κ)
    (f : β → β) :
    (m.modify k f).find? j =
      if k = j then (m.find? j).map f else m.find? j := by
  unfold modify
  cases hFind : m.find? k with
  | none =>
      by_cases hKey : k = j
      · subst hKey
        simp [hFind]
      · simp [hKey]
  | some v =>
      by_cases hKey : k = j
      · subst hKey
        simp [hFind]
      · simp [find?_insert, hKey]

@[simp] theorem keys_modify
    (m : UnorderedMap κ β)
    (k : κ)
    (f : β → β) :
    (m.modify k f).keys = m.keys := by
  unfold modify
  cases hFind : m.find? k with
  | none => rfl
  | some v =>
      have hKey : k ∈ m.keys :=
        (mem_keys_iff m k).mpr ⟨v, hFind⟩
      simp [keys_insert, hKey]

theorem find?_mapValues
    {γ : Type}
    (m : UnorderedMap κ β)
    (f : β → γ)
    (k : κ) :
    (m.mapValues f).find? k = (m.find? k).map f := by
  change
    findEntry k (m.entries.map fun e => (e.1, f e.2)) =
      (findEntry k m.entries).map f
  generalize m.entries = es
  induction es with
  | nil => rfl
  | cons e es ih =>
      rcases e with ⟨k', v⟩
      by_cases hKey : k' = k
      · simp [findEntry, hKey]
      · simp only [List.map_cons, findEntry, hKey, if_false]
        exact ih

omit [DecidableEq κ] in
@[simp] theorem keys_mapValues
    {γ : Type}
    (m : UnorderedMap κ β)
    (f : β → γ) :
    (m.mapValues f).keys = m.keys := by
  simp [keys, mapValues]

end UnorderedMap

------------------------------------------------------------
-- Iteration
------------------------------------------------------------

/- The order in which an iteration visits given keys. -/
structure HashOrder (κ : Type) where
  order : List κ → List κ
  perm : ∀ keys, (order keys).Perm keys

namespace HashOrder

variable {κ : Type}

/- Visit the keys in the order of their insertion. -/
def insertion : HashOrder κ where
  order := id
  perm := fun keys => List.Perm.refl keys

end HashOrder

namespace UnorderedMap

variable {κ β : Type}
variable [DecidableEq κ]

/- The entries in the order of an iteration. -/
def enumerate
    (h : HashOrder κ)
    (m : UnorderedMap κ β) : List (κ × β) :=
  (h.order m.keys).filterMap fun k =>
    (m.find? k).map (Prod.mk k)

theorem mem_order_keys_iff
    (h : HashOrder κ)
    (m : UnorderedMap κ β)
    (k : κ) :
    k ∈ h.order m.keys ↔ ∃ v, m.find? k = some v :=
  (h.perm m.keys).mem_iff.trans (mem_keys_iff m k)

/- An iteration visits exactly the entries of the map. -/
theorem mem_enumerate_iff
    (h : HashOrder κ)
    (m : UnorderedMap κ β)
    (k : κ)
    (v : β) :
    (k, v) ∈ m.enumerate h ↔ m.find? k = some v := by
  simp only [enumerate, List.mem_filterMap,
    Option.map_eq_some_iff, Prod.mk.injEq]
  constructor
  · rintro ⟨j, _, w, hFind, rfl, rfl⟩
    exact hFind
  · intro hFind
    exact ⟨k, (mem_order_keys_iff h m k).mpr ⟨v, hFind⟩,
      v, hFind, rfl, rfl⟩

/- It visits each key once. -/
theorem map_fst_enumerate
    (h : HashOrder κ)
    (m : UnorderedMap κ β) :
    (m.enumerate h).map Prod.fst = h.order m.keys := by
  have hSome :
      ∀ k ∈ h.order m.keys,
        ((m.find? k).map (Prod.mk k)).map Prod.fst = some k := by
    intro k hKey
    rcases (mem_order_keys_iff h m k).mp hKey with ⟨v, hFind⟩
    rw [hFind]
    rfl
  unfold enumerate
  rw [List.map_filterMap, List.filterMap_congr hSome,
    List.filterMap_some]

theorem nodup_enumerate_keys
    (h : HashOrder κ)
    (m : UnorderedMap κ β) :
    ((m.enumerate h).map Prod.fst).Nodup := by
  rw [map_fst_enumerate]
  exact (h.perm _).nodup_iff.mpr m.distinct

end UnorderedMap
