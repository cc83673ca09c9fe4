import Mathlib.Data.List.Perm.Basic
import Mathlib.Data.List.Nodup
import Mathlib.Logic.Function.Basic

/-!
# Cells that are written

A memory maps cells to numbers, and a write sets a cell or adds bits to it.  What a cell holds after
some writes depends on the writes to that cell alone; if they all add bits, it does not depend on
their order either.  So where the writes come from several sources, it is enough to keep the order
of those sources that set the cell.
-/

namespace Msm7x27a.Cells

variable {κ A K : Type*}

/-- One write to a cell. -/
inductive Write (κ : Type*) where
  | set (c : κ) (v : ℕ)
  | or (c : κ) (m : ℕ)

namespace Write

/-- The cell that is written. -/
def cell : Write κ → κ
  | set c _ => c
  | or c _ => c

/-- The write only adds bits. -/
def Adds : Write κ → Prop
  | set _ _ => False
  | or _ _ => True

@[simp] theorem cell_set (c : κ) (v : ℕ) : (set c v).cell = c := rfl
@[simp] theorem cell_or (c : κ) (m : ℕ) : (or c m).cell = c := rfl

variable [DecidableEq κ]

def apply : Write κ → (κ → ℕ) → κ → ℕ
  | set c v, T => Function.update T c v
  | or c m, T => Function.update T c (T c ||| m)

theorem apply_other {w : Write κ} {c : κ} (h : w.cell ≠ c) (T : κ → ℕ) : w.apply T c = T c := by
  cases w with
  | set c' v => exact Function.update_of_ne (Ne.symm h) _ _
  | or c' m => exact Function.update_of_ne (Ne.symm h) _ _

/-- What a cell holds after a write depends on what it held, not on the other cells. -/
theorem apply_congr (w : Write κ) {T T' : κ → ℕ} {c : κ} (h : T c = T' c) :
    w.apply T c = w.apply T' c := by
  by_cases hc : w.cell = c
  · subst hc
    cases w with
    | set c v => simp [apply]
    | or c m => simpa [apply] using congrArg (· ||| m) h
  · rw [apply_other hc, apply_other hc, h]

end Write

open Write

variable [DecidableEq κ] [DecidableEq K]

/-- The writes one after the other. -/
def applyAll (ws : List (Write κ)) (T : κ → ℕ) : κ → ℕ := ws.foldl (fun T w => w.apply T) T

variable {ws ws' : List (Write κ)} {c : κ} {T T' : κ → ℕ}

@[simp] theorem applyAll_cons (w : Write κ) (ws : List (Write κ)) (T : κ → ℕ) :
    applyAll (w :: ws) T = applyAll ws (w.apply T) := rfl

theorem applyAll_append (ws ws' : List (Write κ)) (T : κ → ℕ) :
    applyAll (ws ++ ws') T = applyAll ws' (applyAll ws T) := List.foldl_append

theorem applyAll_congr (ws : List (Write κ)) (h : T c = T' c) : applyAll ws T c = applyAll ws T' c := by
  induction ws generalizing T T' with
  | nil => exact h
  | cons w ws ih => exact ih (w.apply_congr h)

/-- A cell that is not written keeps what it holds. -/
theorem applyAll_other (h : ∀ w ∈ ws, w.cell ≠ c) (T : κ → ℕ) : applyAll ws T c = T c := by
  induction ws generalizing T with
  | nil => rfl
  | cons w ws ih =>
    rw [applyAll_cons, ih fun w' hw' => h w' (List.mem_cons_of_mem _ hw')]
    exact apply_other (h w (List.mem_cons_self ..)) T

/-! ### One cell after several sources of writes -/

/-- **Only the sources of the cell.** If the sources that write to a cell all have one key, the
others do not matter to it. -/
theorem applyAll_flatMap_filter {f : A → List (Write κ)} {key : A → K} {k : K}
    (h : ∀ a, ∀ w ∈ f a, w.cell = c → key a = k) (l : List A) (T : κ → ℕ) :
    applyAll (l.flatMap f) T c = applyAll ((l.filter (key · = k)).flatMap f) T c := by
  induction l generalizing T with
  | nil => rfl
  | cons a l ih =>
    rw [List.flatMap_cons, applyAll_append, ih]
    by_cases hk : key a = k
    · rw [List.filter_cons_of_pos (by simpa using hk), List.flatMap_cons, applyAll_append]
    · rw [List.filter_cons_of_neg (by simpa using hk)]
      apply applyAll_congr
      apply applyAll_other
      intro w hw hc
      exact hk (h a w hw hc)

/-- Writes that add bits to a cell may come in any order. -/
theorem applyAll_perm (hp : ws.Perm ws') (h : ∀ w ∈ ws, w.cell = c → w.Adds) (T : κ → ℕ) :
    applyAll ws T c = applyAll ws' T c := by
  induction hp generalizing T with
  | nil => rfl
  | cons w hp ih => exact ih (fun w' hw' => h w' (List.mem_cons_of_mem _ hw')) _
  | swap w w' l =>
    rw [applyAll_cons, applyAll_cons, applyAll_cons, applyAll_cons]
    apply applyAll_congr
    by_cases hw : w.cell = c
    · by_cases hw' : w'.cell = c
      · have hadds := h w (by simp) hw
        have hadds' := h w' (by simp) hw'
        cases w with
        | set d v => exact hadds.elim
        | or d m =>
          cases w' with
          | set d' v' => exact hadds'.elim
          | or d' m' =>
            rw [cell_or] at hw hw'
            subst hw
            subst hw'
            simp only [Write.apply, Function.update_self]
            rw [Nat.or_assoc, Nat.or_comm m', ← Nat.or_assoc]
      · rw [apply_congr w (apply_other hw' T), apply_other hw']
    · rw [apply_other hw, apply_congr w' (apply_other hw T)]
  | trans hp _ ih ih' =>
    rw [ih h T, ih' (fun w hw => h w (hp.mem_iff.2 hw)) T]

/-! ### Values set one after the other -/

/-- Values set to distinct cells are all there at the end. -/
theorem applyAll_set {l : List (κ × ℕ)} (hl : (l.map Prod.fst).Nodup) {x : κ × ℕ} (hx : x ∈ l)
    (T : κ → ℕ) : applyAll (l.map fun x => set x.1 x.2) T x.1 = x.2 := by
  induction l generalizing T with
  | nil => cases hx
  | cons y l ih =>
    rw [List.map_cons, List.nodup_cons] at hl
    rw [List.map_cons, applyAll_cons]
    rcases List.mem_cons.1 hx with rfl | hx
    · rw [applyAll_other]
      · simp [Write.apply]
      · -- its cell is not among the others
        intro w hw hc
        obtain ⟨z, hz, rfl⟩ := List.mem_map.1 hw
        exact hl.1 (List.mem_map.2 ⟨z, hz, hc⟩)
    · exact ih hl.2 hx _

end Msm7x27a.Cells
