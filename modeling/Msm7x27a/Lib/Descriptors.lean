import Msm7x27a.Lib.KeyedVector
import Mathlib.Data.List.Perm.Subperm

/-!
# Tables of descriptors

The descriptors of a process are the keys of a table.  The kernel gives a new one a number that is not
in use, and a number that was closed may be given again.
-/

namespace Msm7x27a.Descriptors

/-- The number of a new descriptor, by the numbers in use. -/
structure Kernel where
  descriptor : List ℕ → ℕ
  fresh : ∀ used, descriptor used ∉ used

variable {F : Type*} (K : Kernel) (t : KeyedVector ℕ F)

def Kernel.next : ℕ := K.descriptor t.keys

def Kernel.opened (file : F) : KeyedVector ℕ F := t.add (K.next t) file

variable {K : Kernel} {t : KeyedVector ℕ F} {file file' : F} {fd : ℕ}

theorem next_not_mem : K.next t ∉ t := K.fresh t.keys

theorem valueFor_opened : (K.opened t file).valueFor fd =
    if fd = K.next t then some file else t.valueFor fd := KeyedVector.valueFor_add

/-- What is open keeps its number. -/
theorem valueFor_opened_of_some (h : t.valueFor fd = some file') :
    (K.opened t file).valueFor fd = some file' := by
  rw [valueFor_opened, if_neg, h]
  rintro rfl
  exact next_not_mem (KeyedVector.mem_iff_valueFor.2 ⟨_, h⟩)

/-! ### The lowest number -/

/-- The lowest number that is not in use. -/
def lowest (used : List ℕ) : ℕ := ((List.range (used.length + 1)).find? (· ∉ used)).getD 0

theorem lowest_fresh (used : List ℕ) : lowest used ∉ used := by
  unfold lowest
  rcases h : (List.range (used.length + 1)).find? (· ∉ used) with - | n
  · -- there are more numbers than descriptors
    have hsub : List.range (used.length + 1) ⊆ used := by
      intro n hn
      simpa using List.find?_eq_none.1 h n hn
    have := (List.subperm_of_subset List.nodup_range hsub).length_le
    rw [List.length_range] at this
    omega
  · simpa using List.find?_some h

def Kernel.plain : Kernel := ⟨lowest, lowest_fresh⟩

end Msm7x27a.Descriptors
