import Mathlib.Data.List.Nodup
import Mathlib.Order.Lattice

/-!
# Keyed vectors

A keyed vector holds at most one value for each key, in the order of the keys.  `add` replaces the
value of a key that is there, `removeItem` takes a key out, `filter` keeps some of the items and
`modify` changes the value of a key.
What is looked up after each of them is a simp lemma.
-/

namespace Msm7x27a

/-- Pairs of a key and a value, with strictly increasing keys. -/
structure KeyedVector (K V : Type*) [LinearOrder K] where
  toList : List (K × V)
  sorted : (toList.map Prod.fst).Pairwise (· < ·)

namespace KeyedVector

variable {K V : Type*} [LinearOrder K] {v : KeyedVector K V} {k k' : K} {x y : V}

def keys (v : KeyedVector K V) : List K := v.toList.map Prod.fst

instance : Membership K (KeyedVector K V) := ⟨fun v k => k ∈ v.keys⟩

instance (k : K) (v : KeyedVector K V) : Decidable (k ∈ v) :=
  decidable_of_iff (∃ p ∈ v.toList, p.1 = k) List.mem_map.symm

def valueFor (v : KeyedVector K V) (k : K) : Option V :=
  (v.toList.find? fun p => p.1 = k).map Prod.snd

def empty : KeyedVector K V := ⟨[], by simp⟩

theorem item_unique (hx : (k, x) ∈ v.toList) (hy : (k, y) ∈ v.toList) : x = y := by
  have hnodup : (v.toList.map Prod.fst).Nodup := v.sorted.imp ne_of_lt
  exact (Prod.mk.inj (List.inj_on_of_nodup_map hnodup hx hy rfl)).2

theorem valueFor_eq_some : v.valueFor k = some x ↔ (k, x) ∈ v.toList := by
  unfold valueFor
  constructor
  · intro h
    obtain ⟨⟨k', y⟩, hf, rfl⟩ := Option.map_eq_some_iff.1 h
    have hk : k' = k := by simpa using List.find?_some hf
    exact hk ▸ List.mem_of_find?_eq_some hf
  · intro h
    cases hf : v.toList.find? fun p => decide (p.1 = k) with
    | none => exact absurd (List.find?_eq_none.1 hf _ h) (by simp)
    | some p =>
      obtain ⟨k', y⟩ := p
      have hk : k' = k := by simpa using List.find?_some hf
      have hy := List.mem_of_find?_eq_some hf
      rw [hk] at hy
      simp [item_unique hy h]

theorem mem_iff_valueFor : k ∈ v ↔ ∃ x, v.valueFor k = some x := by
  simp only [valueFor_eq_some]
  constructor
  · intro h
    obtain ⟨⟨k', x⟩, hx, rfl⟩ := List.mem_map.1 h
    exact ⟨x, hx⟩
  · rintro ⟨x, hx⟩
    exact List.mem_map.2 ⟨_, hx, rfl⟩

theorem valueFor_eq_none : v.valueFor k = none ↔ k ∉ v := by
  rw [mem_iff_valueFor, Option.eq_none_iff_forall_ne_some]
  push Not
  rfl

/-- The value of a key, new or old. -/
def add (v : KeyedVector K V) (k : K) (x : V) : KeyedVector K V where
  toList := v.toList.filter (fun p => p.1 < k) ++ (k, x) :: v.toList.filter fun p => k < p.1
  sorted := by
    have hsub : ∀ q : K × V → Bool, ((v.toList.filter q).map Prod.fst).Pairwise (· < ·) :=
      fun q => v.sorted.sublist (List.filter_sublist.map _)
    rw [List.map_append, List.map_cons, List.pairwise_append, List.pairwise_cons]
    refine ⟨hsub _, ⟨?_, hsub _⟩, ?_⟩
    · intro a ha
      obtain ⟨p, hp, rfl⟩ := List.mem_map.1 ha
      simpa using (List.mem_filter.1 hp).2
    · intro a ha b hb
      obtain ⟨p, hp, rfl⟩ := List.mem_map.1 ha
      have hpk : p.1 < k := by simpa using (List.mem_filter.1 hp).2
      rcases List.mem_cons.1 hb with rfl | hb
      · exact hpk
      · obtain ⟨q, hq, rfl⟩ := List.mem_map.1 hb
        have hkq : k < q.1 := by simpa using (List.mem_filter.1 hq).2
        exact lt_trans hpk hkq

theorem mem_toList_add : (k', y) ∈ (v.add k x).toList ↔
    k' = k ∧ y = x ∨ k' ≠ k ∧ (k', y) ∈ v.toList := by
  simp only [add, List.mem_append, List.mem_filter, List.mem_cons, Prod.mk.injEq, decide_eq_true_eq]
  constructor
  · rintro (⟨h, hlt⟩ | h | ⟨h, hlt⟩)
    · exact .inr ⟨ne_of_lt hlt, h⟩
    · exact .inl h
    · exact .inr ⟨ne_of_gt hlt, h⟩
  · rintro (h | ⟨hne, h⟩)
    · exact .inr (.inl h)
    · rcases lt_or_gt_of_ne hne with hlt | hlt
      · exact .inl ⟨h, hlt⟩
      · exact .inr (.inr ⟨h, hlt⟩)

@[simp] theorem valueFor_add :
    (v.add k x).valueFor k' = if k' = k then some x else v.valueFor k' := by
  apply Option.ext
  intro y
  rw [valueFor_eq_some, mem_toList_add]
  split
  next h => simp [h, eq_comm]
  next h => simp [h, valueFor_eq_some]

@[simp] theorem mem_add : k' ∈ v.add k x ↔ k' = k ∨ k' ∈ v := by
  simp only [mem_iff_valueFor, valueFor_add]
  split
  next h => simp [h]
  next h => simp [h]

/-- The items with `q`. -/
def filter (v : KeyedVector K V) (q : K → V → Bool) : KeyedVector K V where
  toList := v.toList.filter fun p => q p.1 p.2
  sorted := v.sorted.sublist (List.filter_sublist.map _)

@[simp] theorem valueFor_filter {q : K → V → Bool} :
    (v.filter q).valueFor k = (v.valueFor k).filter (q k) := by
  apply Option.ext
  intro y
  rw [valueFor_eq_some, filter, List.mem_filter, Option.filter_eq_some_iff, valueFor_eq_some]

def removeItem (v : KeyedVector K V) (k : K) : KeyedVector K V := v.filter fun k' _ => k' ≠ k

@[simp] theorem valueFor_removeItem :
    (v.removeItem k).valueFor k' = if k' = k then none else v.valueFor k' := by
  unfold removeItem
  rw [valueFor_filter]
  split
  next h => simp [h]
  next h => cases v.valueFor k' <;> simp [h]

/-- Adding a new key and taking it out again changes nothing. -/
theorem valueFor_removeItem_add (h : k ∉ v) :
    ((v.add k x).removeItem k).valueFor k' = v.valueFor k' := by
  rw [valueFor_removeItem, valueFor_add]
  split
  next e => rw [e, valueFor_eq_none.2 h]
  next => rfl

/-- The value of a key is changed, if the key is there. -/
def modify (v : KeyedVector K V) (k : K) (f : V → V) : KeyedVector K V where
  toList := v.toList.map fun p => if p.1 = k then (p.1, f p.2) else p
  sorted := by
    have h : (v.toList.map fun p => if p.1 = k then (p.1, f p.2) else p).map Prod.fst =
        v.toList.map Prod.fst := by
      rw [List.map_map]
      apply List.map_congr_left
      intro p _
      dsimp only [Function.comp_apply]
      split <;> rfl
    rw [h]
    exact v.sorted

@[simp] theorem valueFor_modify {f : V → V} : (v.modify k f).valueFor k' =
    if k' = k then (v.valueFor k').map f else v.valueFor k' := by
  apply Option.ext
  intro y
  rw [valueFor_eq_some, modify, List.mem_map]
  split
  next h =>
    subst h
    simp only [Option.map_eq_some_iff, valueFor_eq_some]
    constructor
    · rintro ⟨⟨k', x⟩, hx, e⟩
      split at e
      next hk =>
        obtain ⟨rfl, rfl⟩ := Prod.mk.inj e
        exact ⟨x, hx, rfl⟩
      next hk => exact absurd (Prod.mk.inj e).1 hk
    · rintro ⟨x, hx, rfl⟩
      exact ⟨(_, x), hx, if_pos rfl⟩
  next h =>
    rw [valueFor_eq_some]
    constructor
    · rintro ⟨⟨k', x⟩, hx, e⟩
      split at e
      next hk => exact absurd (hk ▸ (Prod.mk.inj e).1.symm) h
      next hk => exact e ▸ hx
    · intro hx
      exact ⟨(k', y), hx, if_neg h⟩

end KeyedVector

end Msm7x27a
