import Mathlib.Data.List.Perm.Basic
import Mathlib.Data.List.Nodup

/-!
# Pending items

Items wait in a list under keys that are distinct, and are taken out by key.  However the list is
kept, a run of keys takes each item whose key occurs, once, and leaves the others.
-/

namespace Msm7x27a.Pending

variable {K A : Type*} {key : A → K} {take : K → List A → Option A × List A} {k : K} {ks : List K}
  {a : A} {l : List A}

/-- `take` takes the item with a key out, and finds none only if there is none. -/
structure Takes (key : A → K) (take : K → List A → Option A × List A) : Prop where
  found : ∀ {k l a}, (take k l).1 = some a → key a = k ∧ l.Perm (a :: (take k l).2)
  absent : ∀ {k l}, (take k l).1 = none → (take k l).2 = l ∧ ∀ a ∈ l, key a ≠ k

/-- The items for the keys, in the order of the keys, and what is left. -/
def takeAll (take : K → List A → Option A × List A) : List K → List A → List A × List A
  | [], l => ([], l)
  | k :: ks, l => ((take k l).1.toList ++ (takeAll take ks (take k l).2).1,
      (takeAll take ks (take k l).2).2)

/-- A key that no item has is not found, and nothing changes. -/
theorem Takes.of_absent (h : Takes key take) (hk : ∀ a ∈ l, key a ≠ k) : take k l = (none, l) := by
  cases ht : (take k l).1 with
  | none => exact Prod.ext ht (h.absent ht).1
  | some a =>
    obtain ⟨hkey, hperm⟩ := h.found ht
    exact absurd hkey (hk a (hperm.mem_iff.2 (List.mem_cons_self ..)))

variable [DecidableEq K]

/-- **Each item once.** A run of keys takes the items whose keys occur, and leaves the others. -/
theorem takeAll_perm (h : Takes key take) (hl : (l.map key).Nodup) :
    (takeAll take ks l).1.Perm (l.filter fun a => key a ∈ ks) ∧
      (takeAll take ks l).2.Perm (l.filter fun a => key a ∉ ks) := by
  induction ks generalizing l with
  | nil => simp [takeAll]
  | cons k ks ih =>
    -- Items with another key than `k` are taken if their key is one of the others.
    have hmem : ∀ {b}, key b ≠ k → (key b ∈ k :: ks ↔ key b ∈ ks) := fun hb => by simp [hb]
    cases ht : (take k l).1 with
    | none =>
      obtain ⟨hrest, hne⟩ := h.absent ht
      obtain ⟨h1, h2⟩ := ih hl
      unfold takeAll
      rw [ht, hrest]
      constructor
      · rw [List.filter_congr fun b hb => decide_eq_decide.2 (hmem (hne b hb))]
        exact h1
      · rw [List.filter_congr fun b hb => decide_eq_decide.2 (not_congr (hmem (hne b hb)))]
        exact h2
    | some a =>
      obtain ⟨rfl, hperm⟩ := h.found ht
      have hnodup : ((a :: (take (key a) l).2).map key).Nodup := (hperm.map key).nodup_iff.1 hl
      obtain ⟨hnot, hrest⟩ := List.nodup_cons.1 hnodup
      have hne : ∀ b ∈ (take (key a) l).2, key b ≠ key a :=
        fun b hb e => hnot (List.mem_map.2 ⟨b, hb, e⟩)
      obtain ⟨h1, h2⟩ := ih hrest
      unfold takeAll
      rw [ht]
      constructor
      · refine .trans ?_ (hperm.filter _).symm
        rw [List.filter_cons_of_pos (by simp),
          List.filter_congr fun b hb => decide_eq_decide.2 (hmem (hne b hb))]
        exact h1.cons a
      · refine .trans ?_ (hperm.filter _).symm
        rw [List.filter_cons_of_neg (by simp),
          List.filter_congr fun b hb => decide_eq_decide.2 (not_congr (hmem (hne b hb)))]
        exact h2

/-- What is left has none of the keys. -/
theorem not_mem_of_left (h : Takes key take) (hl : (l.map key).Nodup) (hk : k ∈ ks) :
    ∀ a ∈ (takeAll take ks l).2, key a ≠ k := by
  intro a ha e
  have hleft := (takeAll_perm h hl).2.mem_iff.1 ha
  rw [List.mem_filter, decide_eq_true_eq] at hleft
  exact hleft.2 (e ▸ hk)

end Msm7x27a.Pending
