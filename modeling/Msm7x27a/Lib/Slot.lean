import Mathlib.Data.List.Basic

/-!
# Values that are kept and told

A slot keeps the last value that was put, so that a value that is put again need not be told again.
`f` is how a value is told.  Others may tell a value past the slot, or store one in it that was never
told (`foreign`); until the next value that differs is put, what is kept is then not what was told.

* `Slot.Coherent` is kept by every use of a slot (`Coherent.use`, `Coherent.uses`);
* `delivered_iff_harmless` says exactly when a value that is put is the last one told.
-/

namespace Msm7x27a

variable {V W : Type*}

structure Slot (V W : Type*) where
  kept : V
  told : Option W
  /-- The last use was another's. -/
  foreign : Bool

namespace Slot

/-- What is done with a slot. -/
inductive Use (V W : Type*) where
  | put (v : V) (force : Bool)
  | tell (w : W)
  | store (v : V)

variable [DecidableEq V] (f : V → W)

def use (c : Slot V W) : Use V W → Slot V W
  | .put v force => if v ≠ c.kept ∨ force = true then ⟨v, some (f v), false⟩ else c
  | .tell w => ⟨c.kept, some w, true⟩
  | .store v => ⟨v, c.told, true⟩

/-- What is kept was told, or it is the first value and none was. -/
def Coherent (unset : V) (c : Slot V W) : Prop :=
  c.foreign = false → c.told = some (f c.kept) ∨ c.told = none ∧ c.kept = unset

/-- The value that is put is the last one told. -/
def Delivered (c : Slot V W) : Use V W → Prop
  | .put v force => (c.use f (.put v force)).told = some (f v)
  | _ => True

/-- A value that is kept already is put after a use by another only if it was told all the same. -/
def Harmless (c : Slot V W) : Use V W → Prop
  | .put v force =>
    force = false → v = c.kept → c.foreign = true → c.told = some (f v)
  | _ => True

variable {f} {unset v : V} {c : Slot V W} {u : Use V W} {force : Bool}

theorem use_put_of_eq (h : v = c.kept) (hf : force = false) : c.use f (.put v force) = c := by
  unfold use
  exact if_neg (by simp [h, hf])

theorem use_put_of_ne (h : v ≠ c.kept ∨ force = true) :
    c.use f (.put v force) = ⟨v, some (f v), false⟩ := if_pos h

theorem Coherent.use (h : Coherent f unset c) (u : Use V W) : Coherent f unset (c.use f u) := by
  cases u with
  | put v force =>
    by_cases hput : v ≠ c.kept ∨ force = true
    · rw [use_put_of_ne hput]
      exact fun _ => .inl rfl
    · push Not at hput
      rw [use_put_of_eq hput.1 (by simpa using hput.2)]
      exact h
  | tell w => exact fun e => absurd e (by simp [Slot.use])
  | store v => exact fun e => absurd e (by simp [Slot.use])

theorem Coherent.uses (h : Coherent f unset c) (us : List (Use V W)) :
    Coherent f unset (us.foldl (Slot.use f) c) := by
  induction us generalizing c with
  | nil => exact h
  | cons u us ih => exact ih (h.use u)

/-- **A value that is put.** It is the last one told unless it is not told again after a use by
another. -/
theorem delivered_iff_harmless (h : Coherent f unset c) (hu : ∀ v force, u = .put v force → v ≠ unset) :
    Delivered f c u ↔ Harmless f c u := by
  cases u with
  | put v force =>
    have hne := hu v force rfl
    by_cases hput : v ≠ c.kept ∨ force = true
    · refine iff_of_true ?_ ?_
      · change (c.use f (.put v force)).told = some (f v)
        rw [use_put_of_ne hput]
      · intro hforce hkept
        simp [hkept, hforce] at hput
    · push Not at hput
      obtain ⟨hkept, hforce⟩ := hput
      have hforce : force = false := by simpa using hforce
      change (c.use f (.put v force)).told = some (f v) ↔ _
      rw [use_put_of_eq hkept hforce]
      constructor
      · exact fun htold _ _ _ => htold
      · intro hharm
        by_cases hforeign : c.foreign = true
        · exact hharm hforce hkept hforeign
        · rcases h (by simpa using hforeign) with htold | ⟨-, hunset⟩
          · rw [htold, hkept]
          · exact absurd (hkept.trans hunset) hne
  | tell w => exact Iff.rfl
  | store v => exact Iff.rfl

end Slot

end Msm7x27a
