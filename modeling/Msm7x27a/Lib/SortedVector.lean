import Mathlib.Data.List.Sort
import Mathlib.Data.List.Nodup
import Mathlib.Order.Lattice

/-!
# Sorted vectors

A sorted vector holds each of its elements once, in increasing order: `add` puts an element at its
place, `indexOf` finds the place, and `removeAt` takes a place out.
-/

namespace Msm7x27a

/-- A list in strictly increasing order. -/
structure SortedVector (α : Type*) [LinearOrder α] where
  toList : List α
  sorted : toList.Pairwise (· < ·)
  deriving DecidableEq

namespace SortedVector

variable {α : Type*} [LinearOrder α]

instance : Membership α (SortedVector α) := ⟨fun v a => a ∈ v.toList⟩

instance (a : α) (v : SortedVector α) : Decidable (a ∈ v) :=
  inferInstanceAs (Decidable (a ∈ v.toList))

theorem mem_def {a : α} {v : SortedVector α} : a ∈ v ↔ a ∈ v.toList := Iff.rfl

def empty : SortedVector α := ⟨[], .nil⟩

@[simp] theorem not_mem_empty (a : α) : a ∉ (empty : SortedVector α) := by simp [mem_def, empty]

theorem nodup (v : SortedVector α) : v.toList.Nodup := v.sorted.imp ne_of_lt

def size (v : SortedVector α) : ℕ := v.toList.length

theorem sorted_orderedInsert {a : α} {l : List α} (hl : l.Pairwise (· < ·)) (ha : a ∉ l) :
    (l.orderedInsert (· ≤ ·) a).Pairwise (· < ·) := by
  have hle : (l.orderedInsert (· ≤ ·) a).Pairwise (· ≤ ·) := (hl.imp le_of_lt).orderedInsert a
  have hne : (l.orderedInsert (· ≤ ·) a).Nodup :=
    ((l.perm_orderedInsert (r := (· ≤ ·)) a).nodup_iff).2 (List.nodup_cons.2 ⟨ha, hl.imp ne_of_lt⟩)
  exact (hle.and hne).imp fun h => lt_of_le_of_ne h.1 h.2

/-- An element that is there already is not added again. -/
def add (v : SortedVector α) (a : α) : SortedVector α :=
  if h : a ∈ v then v else ⟨v.toList.orderedInsert (· ≤ ·) a, sorted_orderedInsert v.sorted h⟩

@[simp] theorem mem_add {v : SortedVector α} {a b : α} : b ∈ v.add a ↔ b = a ∨ b ∈ v := by
  unfold add
  split
  next h =>
    constructor
    · exact .inr
    · rintro (rfl | hb)
      · exact h
      · exact hb
  next h => exact List.mem_orderedInsert _

theorem size_add {v : SortedVector α} {a : α} (h : a ∉ v) : (v.add a).size = v.size + 1 := by
  unfold add
  rw [dif_neg h]
  exact List.orderedInsert_length ..

/-- The elements that a loop adds. -/
theorem mem_foldl_add {β : Type*} {q : β → Prop} [DecidablePred q] {f : β → α} {l : List β}
    {v : SortedVector α} {a : α} :
    a ∈ l.foldl (fun v b => if q b then v.add (f b) else v) v ↔
      a ∈ v ∨ ∃ b ∈ l, q b ∧ f b = a := by
  induction l generalizing v with
  | nil => simp
  | cons b l ih =>
    rw [List.foldl_cons, ih]
    by_cases hb : q b
    · simp only [hb, if_true, mem_add, List.exists_mem_cons_iff, true_and, eq_comm (a := a)]
      rw [or_assoc, or_left_comm]
    · simp only [hb, if_false, List.exists_mem_cons_iff, false_and, false_or]

/-- The place of an element. -/
def indexOf (v : SortedVector α) (a : α) : Option ℕ := v.toList.idxOf? a

/-- The element at a place. -/
def get? (v : SortedVector α) (i : ℕ) : Option α := v.toList[i]?

theorem get?_of_indexOf {v : SortedVector α} {a : α} {i : ℕ} (h : v.indexOf a = some i) :
    v.get? i = some a := by
  obtain ⟨hi, ha, -⟩ := List.idxOf?_eq_some_iff.1 h
  exact List.getElem?_eq_some_iff.2 ⟨hi, by simpa using ha⟩

theorem indexOf_eq_none {v : SortedVector α} {a : α} : v.indexOf a = none ↔ a ∉ v :=
  List.idxOf?_eq_none_iff

theorem mem_of_get? {v : SortedVector α} {a : α} {i : ℕ} (h : v.get? i = some a) : a ∈ v :=
  List.mem_of_getElem? h

theorem lt_of_get? {v : SortedVector α} {a : α} {i : ℕ} (h : v.get? i = some a) : i < v.size :=
  (List.getElem?_eq_some_iff.1 h).1

/-- What stands before a place, and what after it. -/
theorem split_of_get? {v : SortedVector α} {a : α} {i : ℕ} (h : v.get? i = some a) :
    ∃ l l', v.toList = l ++ a :: l' ∧ i = l.length := by
  obtain ⟨hi, ha⟩ := List.getElem?_eq_some_iff.1 h
  refine ⟨v.toList.take i, v.toList.drop (i + 1), ?_, (List.length_take_of_le hi.le).symm⟩
  rw [← ha, ← List.drop_eq_getElem_cons hi, List.take_append_drop]

theorem mem_of_indexOf {v : SortedVector α} {a : α} {i : ℕ} (h : v.indexOf a = some i) : a ∈ v :=
  mem_of_get? (get?_of_indexOf h)

/-- Nothing happens if the place is out of range. -/
def removeAt (v : SortedVector α) (i : ℕ) : SortedVector α :=
  ⟨v.toList.eraseIdx i, v.sorted.sublist (List.eraseIdx_sublist ..)⟩

theorem toList_removeAt {v : SortedVector α} {a : α} {l l' : List α} (h : v.toList = l ++ a :: l') :
    (v.removeAt l.length).toList = l ++ l' := by
  show v.toList.eraseIdx l.length = l ++ l'
  rw [h, List.eraseIdx_append_of_length_le le_rfl, Nat.sub_self]
  rfl

theorem size_removeAt {v : SortedVector α} {i : ℕ} (h : i < v.size) :
    (v.removeAt i).size + 1 = v.size := by
  unfold size removeAt
  rw [List.length_eraseIdx_of_lt h]
  have hpos : 0 < v.toList.length := Nat.zero_lt_of_lt h
  omega

theorem exists_mem {v : SortedVector α} (h : v ≠ empty) : ∃ a, a ∈ v := by
  obtain ⟨l, hl⟩ := v
  cases l with
  | nil => exact absurd rfl h
  | cons a l => exact ⟨a, List.mem_cons_self ..⟩

theorem eq_empty_or_singleton {v : SortedVector α} (h : v.size ≤ 1) :
    v = empty ∨ ∃ a, v.toList = [a] := by
  obtain ⟨l, hl⟩ := v
  match l with
  | [] => exact .inl rfl
  | [a] => exact .inr ⟨a, rfl⟩
  | _ :: _ :: _ => simp [size] at h

theorem get?_of_lt {v : SortedVector α} {i : ℕ} (h : i < v.size) : ∃ a, v.get? i = some a :=
  ⟨_, List.getElem?_eq_getElem h⟩

/-- An element has one place. -/
theorem get?_inj {v : SortedVector α} {a : α} {i j : ℕ} (hi : v.get? i = some a)
    (hj : v.get? j = some a) : i = j := by
  obtain ⟨hi', ha⟩ := List.getElem?_eq_some_iff.1 hi
  obtain ⟨hj', hb⟩ := List.getElem?_eq_some_iff.1 hj
  exact (v.nodup.getElem_inj_iff).1 (ha.trans hb.symm)

/-- Taking out the place of `a` takes out `a` and nothing else. -/
theorem mem_removeAt {v : SortedVector α} {a b : α} {i : ℕ} (h : v.get? i = some a) :
    b ∈ v.removeAt i ↔ b ∈ v ∧ b ≠ a := by
  obtain ⟨hi, ha⟩ := List.getElem?_eq_some_iff.1 h
  have he : v.toList.eraseIdx i = v.toList.erase a := by
    rw [← ha, v.nodup.erase_getElem i hi]
  show b ∈ v.toList.eraseIdx i ↔ _
  rw [he, v.nodup.mem_erase_iff]
  exact and_comm

end SortedVector

end Msm7x27a
