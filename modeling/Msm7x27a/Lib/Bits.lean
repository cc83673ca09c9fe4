import Mathlib.Data.List.Nodup
import Mathlib.Tactic.Common

/-!
# Masks of bits

A mask is `Within` another if all its bits are bits of the other, and `OneBit` if it has one bit: such
a mask is within another or has no bit in common with it, and two different ones have none in common.
Counting the bits tells it (`oneBit_iff_countP`).
-/

namespace Msm7x27a.Bits

variable {w : ℕ} {x y z : BitVec w}

/-- Every bit of `x` is a bit of `y`. -/
def Within (x y : BitVec w) : Prop := x &&& ~~~y = 0

instance (x y : BitVec w) : Decidable (Within x y) := inferInstanceAs (Decidable (x &&& ~~~y = 0))

/-- One bit is set. -/
def OneBit (x : BitVec w) : Prop := ∃ i < w, x = BitVec.twoPow w i

instance (x : BitVec w) : Decidable (OneBit x) :=
  inferInstanceAs (Decidable (∃ i < w, x = BitVec.twoPow w i))

theorem within_iff : Within x y ↔ ∀ i, x.getLsbD i = true → y.getLsbD i = true := by
  unfold Within
  constructor
  · intro h i hx
    have hi : i < w := BitVec.lt_of_getLsbD hx
    have hbit : (x &&& ~~~y).getLsbD i = false := by rw [h]; simp
    simpa [hx, hi] using hbit
  · intro h
    apply BitVec.eq_of_getLsbD_eq
    intro i hi
    have hi' := h i
    cases hx : x.getLsbD i <;> simp_all

theorem within_zero (x : BitVec w) : Within 0 x := within_iff.2 fun i h => by simp at h

theorem Within.trans (h : Within x y) (h' : Within y z) : Within x z :=
  within_iff.2 fun i hi => within_iff.1 h' i (within_iff.1 h i hi)

theorem within_and_left (x y : BitVec w) : Within (x &&& y) x := by
  rw [within_iff]
  intro i hi
  rw [BitVec.getLsbD_and, Bool.and_eq_true] at hi
  exact hi.1

theorem within_or_left (x y : BitVec w) : Within x (x ||| y) := by
  rw [within_iff]
  intro i hi
  rw [BitVec.getLsbD_or, hi, Bool.true_or]

theorem within_or_right (x y : BitVec w) : Within y (x ||| y) := by
  rw [within_iff]
  intro i hi
  rw [BitVec.getLsbD_or, hi, Bool.or_true]

theorem Within.or (h : Within x z) (h' : Within y z) : Within (x ||| y) z := by
  rw [within_iff]
  intro i hi
  rw [BitVec.getLsbD_or, Bool.or_eq_true] at hi
  rcases hi with hi | hi
  · exact within_iff.1 h i hi
  · exact within_iff.1 h' i hi

theorem Within.and_eq (h : Within x y) : y &&& x = x := by
  apply BitVec.eq_of_getLsbD_eq
  intro i hi
  rw [BitVec.getLsbD_and]
  cases hx : x.getLsbD i with
  | false => rw [Bool.and_false]
  | true => rw [within_iff.1 h i hx, Bool.and_true]

theorem Within.or_eq (h : Within x y) : y ||| x = y := by
  apply BitVec.eq_of_getLsbD_eq
  intro i hi
  rw [BitVec.getLsbD_or]
  cases hx : x.getLsbD i with
  | false => rw [Bool.or_false]
  | true => rw [within_iff.1 h i hx, Bool.or_true]

theorem Within.and_left (h : Within x y) (z : BitVec w) : Within (z &&& x) (z &&& y) := by
  rw [within_iff]
  intro i hi
  rw [BitVec.getLsbD_and, Bool.and_eq_true] at hi ⊢
  exact ⟨hi.1, within_iff.1 h i hi.2⟩

theorem Within.ne_zero (h : Within x y) (hx : x ≠ 0) : y ≠ 0 := by
  rintro rfl
  apply hx
  rw [← h.and_eq]
  exact BitVec.zero_and

/-- What has no bit of `z` stays when the bits of `z` are taken out. -/
theorem Within.and_not (h : Within x y) (hz : x &&& z = 0) : Within x (y &&& ~~~(y &&& z)) := by
  rw [within_iff]
  intro i hi
  have hy := within_iff.1 h i hi
  have hzi : z.getLsbD i = false := by
    have hbit : (x &&& z).getLsbD i = false := by rw [hz]; simp
    rwa [BitVec.getLsbD_and, hi, Bool.true_and] at hbit
  rw [BitVec.getLsbD_and, BitVec.getLsbD_not, BitVec.getLsbD_and, hy, hzi]
  simp [BitVec.lt_of_getLsbD hi]

theorem or_ne_zero : x ||| y ≠ 0 ↔ x ≠ 0 ∨ y ≠ 0 := by
  rw [← not_and_or, not_iff_not]
  exact BitVec.or_eq_zero_iff

/-- Bits that are none of `z` are added. -/
theorem or_and_of_disjoint (h : y &&& z = 0) : (x ||| y) &&& z = x &&& z := by
  apply BitVec.eq_of_getLsbD_eq
  intro i hi
  have hbit : (y &&& z).getLsbD i = false := by rw [h]; simp
  rw [BitVec.getLsbD_and] at hbit
  rw [BitVec.getLsbD_and, BitVec.getLsbD_or, BitVec.getLsbD_and, Bool.and_or_distrib_right, hbit,
    Bool.or_false]

/-- Bits that are none of `z` are taken out. -/
theorem and_not_and_of_disjoint (h : x &&& y &&& z = 0) : x &&& ~~~y &&& z = x &&& z := by
  apply BitVec.eq_of_getLsbD_eq
  intro i hi
  have hbit : (x &&& y &&& z).getLsbD i = false := by rw [h]; simp
  rw [BitVec.getLsbD_and, BitVec.getLsbD_and] at hbit
  rw [BitVec.getLsbD_and, BitVec.getLsbD_and, BitVec.getLsbD_and, BitVec.getLsbD_not]
  cases hx : x.getLsbD i <;> cases hy : y.getLsbD i <;> simp_all

theorem eq_and_not_iff : x = x &&& ~~~y ↔ x &&& y = 0 := by
  constructor
  · intro h
    rw [h, BitVec.and_assoc, BitVec.not_and_self]
    exact BitVec.and_zero
  · intro h
    apply BitVec.eq_of_getLsbD_eq
    intro i hi
    have hbit : (x &&& y).getLsbD i = false := by rw [h]; simp
    rw [BitVec.getLsbD_and] at hbit
    rw [BitVec.getLsbD_and, BitVec.getLsbD_not, decide_eq_true hi, Bool.true_and]
    cases hx : x.getLsbD i <;> simp_all

theorem OneBit.ne_zero (h : OneBit x) : x ≠ 0 := by
  obtain ⟨i, hi, rfl⟩ := h
  intro e
  have hbit : (BitVec.twoPow w i).getLsbD i = true := by simp [hi]
  rw [e] at hbit
  simp at hbit

/-- A single bit is there or not. -/
theorem OneBit.and_eq (h : OneBit x) (y : BitVec w) : y &&& x = 0 ∨ y &&& x = x := by
  obtain ⟨i, hi, rfl⟩ := h
  rw [BitVec.and_twoPow]
  split
  · exact .inr rfl
  · exact .inl rfl

theorem OneBit.within_iff (h : OneBit x) : Within x y ↔ y &&& x ≠ 0 := by
  constructor
  · intro hw e
    rw [hw.and_eq] at e
    exact h.ne_zero e
  · intro hne
    have e := (h.and_eq y).resolve_left hne
    exact e ▸ within_and_left y x

theorem OneBit.and_eq_zero (hx : OneBit x) (hy : OneBit y) (h : x ≠ y) : x &&& y = 0 := by
  rcases hy.and_eq x with e | e
  · exact e
  · rcases hx.and_eq y with e' | e'
    · rw [BitVec.and_comm]
      exact e'
    · rw [BitVec.and_comm] at e'
      exact absurd (e'.symm.trans e) h

/-- A single bit is what counting the bits finds one of. -/
theorem oneBit_iff_countP : OneBit x ↔ (List.range w).countP (x.getLsbD ·) = 1 := by
  constructor
  · rintro ⟨i, hi, rfl⟩
    have hbit : ∀ j ∈ List.range w, (BitVec.twoPow w i).getLsbD j = true ↔ (j == i) = true := by
      intro j _
      rw [BitVec.getLsbD_twoPow, decide_eq_true hi, Bool.true_and, decide_eq_true_eq, beq_iff_eq]
      exact eq_comm
    rw [List.countP_congr hbit]
    exact List.count_eq_one_of_mem List.nodup_range (List.mem_range.2 hi)
  · intro hcount
    rw [List.countP_eq_length_filter] at hcount
    obtain ⟨i, hfilter⟩ := List.length_eq_one_iff.1 hcount
    have hmem : ∀ j, j < w ∧ x.getLsbD j = true ↔ j = i := by
      intro j
      rw [← List.mem_range, ← List.mem_filter (p := (x.getLsbD ·)), hfilter, List.mem_singleton]
    have hi : i < w := ((hmem i).2 rfl).1
    refine ⟨i, hi, BitVec.eq_of_getLsbD_eq fun j hj => ?_⟩
    rw [BitVec.getLsbD_twoPow, decide_eq_true hi, Bool.true_and, Bool.eq_iff_iff, decide_eq_true_eq,
      eq_comm (a := i), ← hmem j]
    exact (and_iff_right hj).symm

theorem countP_pos_of_ne_zero (h : x ≠ 0) : 0 < (List.range w).countP (x.getLsbD ·) := by
  by_contra hcount
  apply h
  apply BitVec.eq_of_getLsbD_eq
  intro i hi
  have hnone := List.countP_eq_zero.1 (Nat.eq_zero_of_not_pos hcount) i (List.mem_range.2 hi)
  exact (Bool.eq_false_iff.2 hnone).trans BitVec.getLsbD_zero.symm

end Msm7x27a.Bits
