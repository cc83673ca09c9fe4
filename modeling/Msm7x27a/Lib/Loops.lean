import Mathlib.Data.List.Count
import Mathlib.Logic.Function.Basic
import Mathlib.Order.Bounds.Basic
import Mathlib.Order.Nat

/-!
# Loops

* `iterate` takes turns until there is none: a loop in which every turn makes something smaller ends,
  and what every turn keeps holds where it ends;
* `isLUB_foldl` is about a loop that keeps the least upper bound of what it has seen;
* `foldl_update` is about a loop over distinct indices that changes one entry of a table in each
  round, `foldl_update_entry` about one that changes the same entry in all of them, and
  `countP_of_eq_except` counts over a table that changes in one entry;
* `last_iff` finds the last value in a loop over increasing keys.
-/

namespace Msm7x27a.Loops

section Turns

variable {σ : Type*} {turn : σ → Option σ} {x y : σ} {fuel : ℕ}

/-- The state in which the loop ends, in at most `fuel` turns; it ends where there is no turn. -/
def iterate (turn : σ → Option σ) : ℕ → σ → Option σ
  | 0, _ => none
  | fuel + 1, x =>
    match turn x with
    | none => some x
    | some y => iterate turn fuel y

theorem iterate_succ (h : turn x = some y) : iterate turn (fuel + 1) x = iterate turn fuel y := by
  rw [iterate, h]

theorem iterate_end (h : turn x = none) : iterate turn (fuel + 1) x = some x := by
  rw [iterate, h]

/-- **Loops end.** A loop ends if every turn makes something smaller. -/
theorem iterate_of_measure (μ : σ → ℕ) (hμ : ∀ x y, turn x = some y → μ y < μ x) (h : μ x < fuel) :
    ∃ y, iterate turn fuel x = some y := by
  induction fuel generalizing x with
  | zero => exact absurd h (Nat.not_lt_zero _)
  | succ fuel ih =>
    unfold iterate
    cases hturn : turn x with
    | none => exact ⟨x, rfl⟩
    | some y =>
      have hless := hμ x y hturn
      exact ih (by omega)

/-- **The invariant rule.** What every turn keeps holds where the loop ends, and there is no turn
there. -/
theorem iterate_inv {I : σ → Prop} (hI : ∀ x y, I x → turn x = some y → I y) (hx : I x)
    (h : iterate turn fuel x = some y) : I y ∧ turn y = none := by
  induction fuel generalizing x with
  | zero => cases h
  | succ fuel ih =>
    unfold iterate at h
    split at h
    next hturn =>
      obtain rfl := Option.some.inj h
      exact ⟨hx, hturn⟩
    next x' hturn => exact ih (hI x x' hx hturn) h

/-- More turns than are needed change nothing. -/
theorem iterate_mono {fuel' : ℕ} (hle : fuel ≤ fuel') (h : iterate turn fuel x = some y) :
    iterate turn fuel' x = some y := by
  induction fuel generalizing x fuel' with
  | zero => cases h
  | succ fuel ih =>
    obtain ⟨n, rfl⟩ : ∃ n, fuel' = n + 1 := ⟨fuel' - 1, by omega⟩
    unfold iterate at h ⊢
    cases hturn : turn x with
    | none =>
      rw [hturn] at h
      exact h
    | some x' =>
      rw [hturn] at h
      exact ih (by omega) h

end Turns

section Descent

variable {α β : Type*} [LinearOrder β] (cost : α → β)

/-- Where a walk from `a` along the list ends that goes on while the cost does not rise. -/
def descend : α → List α → α
  | a, [] => a
  | a, b :: l => if cost a < cost b then a else descend b l

/-- Once the cost has risen it stays up. -/
def Valley (l : List α) : Prop :=
  ∀ a b c, List.Sublist [a, b, c] l → cost a < cost b → cost b ≤ cost c

variable {cost}

theorem Valley.tail {a : α} {l : List α} (h : Valley cost (a :: l)) : Valley cost l :=
  fun x y z hxyz => h x y z (hxyz.cons a)

theorem descend_mem (a : α) (l : List α) : descend cost a l ∈ a :: l := by
  induction l generalizing a with
  | nil => exact List.mem_cons_self ..
  | cons b l ih =>
    unfold descend
    split
    · exact List.mem_cons_self ..
    · exact List.mem_cons_of_mem _ (ih b)

/-- **A walk down a valley ends at the bottom.** -/
theorem descend_le {a : α} {l : List α} (h : Valley cost (a :: l)) :
    ∀ x ∈ a :: l, cost (descend cost a l) ≤ cost x := by
  induction l generalizing a with
  | nil =>
    intro x hx
    rw [List.mem_singleton.1 hx]
    rfl
  | cons b l ih =>
    unfold descend
    split
    next hrise =>
      intro x hx
      rcases List.mem_cons.1 hx with rfl | hx
      · exact le_refl _
      rcases List.mem_cons.1 hx with rfl | hx
      · exact le_of_lt hrise
      · have hsub : List.Sublist [a, b, x] (a :: b :: l) :=
          (List.singleton_sublist.2 hx).cons_cons b |>.cons_cons a
        exact le_trans (le_of_lt hrise) (h a b x hsub hrise)
    next hfall =>
      have hbottom := ih h.tail
      intro x hx
      rcases List.mem_cons.1 hx with rfl | hx
      · exact le_trans (hbottom b (List.mem_cons_self ..)) (not_lt.1 hfall)
      · exact hbottom x hx

/-- Costs that agree on the list take the walk to the same place. -/
theorem descend_congr {cost' : α → β} {a : α} {l : List α} (h : ∀ x ∈ a :: l, cost x = cost' x) :
    descend cost a l = descend cost' a l := by
  induction l generalizing a with
  | nil => rfl
  | cons b l ih =>
    unfold descend
    rw [h a (List.mem_cons_self ..), h b (List.mem_cons_of_mem _ (List.mem_cons_self ..)),
      ih fun x hx => h x (List.mem_cons_of_mem _ hx)]

end Descent

/-- A loop whose every round takes in a set of values keeps their least upper bound. -/
theorem isLUB_foldl {α β : Type*} [Preorder β] {g : β → α → β} {T : α → Set β}
    (hstep : ∀ S w a, IsLUB S w → IsLUB (S ∪ T a) (g w a)) (l : List α) {S : Set β} {w : β}
    (h : IsLUB S w) : IsLUB (S ∪ {b | ∃ a ∈ l, b ∈ T a}) (l.foldl g w) := by
  induction l generalizing S w with
  | nil =>
    have he : S ∪ {b | ∃ a ∈ ([] : List α), b ∈ T a} = S := by
      ext b
      simp
    rw [he]
    exact h
  | cons a l ih =>
    have he : S ∪ {b | ∃ a' ∈ a :: l, b ∈ T a'} = S ∪ T a ∪ {b | ∃ a' ∈ l, b ∈ T a'} := by
      ext b
      simp [or_assoc]
    rw [he, List.foldl_cons]
    exact ih (hstep S w a h)

/-- A round that takes in one value, or none. -/
theorem isLUB_ite_max {S : Set ℕ} {w : ℕ} (p : Prop) [Decidable p] (a : ℕ) (h : IsLUB S w) :
    IsLUB (S ∪ {b | p ∧ b = a}) (if p then max w a else w) := by
  split
  next hp =>
    have he : {b | p ∧ b = a} = {a} := by
      ext b
      exact and_iff_right hp
    rw [he]
    exact h.union isLUB_singleton
  next hp =>
    have he : {b | p ∧ b = a} = ∅ := by
      ext b
      exact iff_of_false (fun hb => hp hb.1) id
    rw [he, Set.union_empty]
    exact h

variable {ι β : Type*} [DecidableEq ι]

/-- Every entry of the list is changed once, from what it was at first. -/
theorem foldl_update (g : ι → β → β) {l : List ι} (hl : l.Nodup) (y : ι → β) (i : ι) :
    l.foldl (fun y a => Function.update y a (g a (y a))) y i = if i ∈ l then g i (y i) else y i := by
  induction l generalizing y with
  | nil => rfl
  | cons a l ih =>
    obtain ⟨ha, hl⟩ := List.nodup_cons.1 hl
    rw [List.foldl_cons, ih hl]
    by_cases hi : i = a
    · subst hi
      simp [ha]
    · simp [hi]

/-- A loop that changes one entry only. -/
theorem foldl_update_entry {α : Type*} (g : β → α → β) (i : ι) (l : List α) (y : ι → β) :
    l.foldl (fun y a => Function.update y i (g (y i) a)) y = Function.update y i (l.foldl g (y i)) := by
  induction l generalizing y with
  | nil => exact (Function.update_eq_self i y).symm
  | cons a l ih =>
    rw [List.foldl_cons, ih, Function.update_self, Function.update_idem]
    rfl

/-- Two predicates that differ at most at one element of the list. -/
theorem countP_of_eq_except (q q' : ι → Bool) {l : List ι} {a : ι} (hl : l.Nodup) (ha : a ∈ l)
    (h : ∀ x, x ≠ a → q' x = q x) :
    l.countP q' + (if q a then 1 else 0) = l.countP q + if q' a then 1 else 0 := by
  have hperm := List.perm_cons_erase ha
  have herase : (l.erase a).countP q' = (l.erase a).countP q := by
    apply List.countP_congr
    intro x hx
    rw [h x (hl.mem_erase_iff.1 hx).1]
  rw [hperm.countP_eq, hperm.countP_eq q, List.countP_cons, List.countP_cons, herase]
  omega

/-- The last of increasing keys that has a value. -/
theorem last_iff {κ γ : Type*} [LinearOrder κ] {l : List κ} (hl : l.Pairwise (· < ·)) (g : κ → Option γ)
    (y : γ) : l.reverse.findSome? g = some y ↔
      ∃ k ∈ l, g k = some y ∧ ∀ k' ∈ l, k < k' → g k' = none := by
  induction l with
  | nil => simp
  | cons a l ih =>
    obtain ⟨ha, hl⟩ := List.pairwise_cons.1 hl
    have happ : (a :: l).reverse.findSome? g = (l.reverse.findSome? g).or (g a) := by
      rw [List.reverse_cons, List.findSome?_append]
      simp
    rw [happ, Option.or_eq_some_iff, ih hl]
    constructor
    · rintro (⟨k, hk, hg, hlast⟩ | ⟨hnone, hg⟩)
      · refine ⟨k, List.mem_cons_of_mem _ hk, hg, fun k' hk' hlt => ?_⟩
        rcases List.mem_cons.1 hk' with rfl | hk'
        · exact absurd hlt (lt_asymm (ha k hk))
        · exact hlast k' hk' hlt
      · refine ⟨a, List.mem_cons_self .., hg, fun k' hk' hlt => ?_⟩
        rcases List.mem_cons.1 hk' with rfl | hk'
        · exact absurd hlt (lt_irrefl _)
        · exact List.findSome?_eq_none_iff.1 hnone k' (List.mem_reverse.2 hk')
    · rintro ⟨k, hk, hg, hlast⟩
      rcases List.mem_cons.1 hk with rfl | hk
      · refine .inr ⟨List.findSome?_eq_none_iff.2 fun k' hk' => ?_, hg⟩
        have hmem := List.mem_reverse.1 hk'
        exact hlast k' (List.mem_cons_of_mem _ hmem) (ha k' hmem)
      · exact .inl ⟨k, hk, hg, fun k' hk' => hlast k' (List.mem_cons_of_mem _ hk')⟩

end Msm7x27a.Loops
