import Mathlib.Data.List.Perm.Basic

/-!
# Leases

Resources are acquired and released.  `held` replays a log, newest first: releasing what is not held
fails, so a log that leaves nothing held has released everything it acquired, each time once.
-/

namespace Msm7x27a.Leases

variable {R : Type*}

inductive Use (R : Type*) where
  | acquire (r : R)
  | release (r : R)
  deriving DecidableEq

variable [DecidableEq R]

/-- What is held after a log; `none` if something was released that was not held. -/
def held : List (Use R) → Option (List R)
  | [] => some []
  | .acquire r :: log => (held log).map (r :: ·)
  | .release r :: log => (held log).bind fun l => if r ∈ l then some (l.erase r) else none

/-- After the log the resources `l` are held, in any order. -/
def Holds (log : List (Use R)) (l : List R) : Prop := ∃ l', held log = some l' ∧ l'.Perm l

variable {log : List (Use R)} {l l' : List R} {r : R}

theorem holds_nil : Holds ([] : List (Use R)) [] := ⟨[], rfl, .nil⟩

theorem Holds.perm (h : Holds log l) (hp : l.Perm l') : Holds log l' := by
  obtain ⟨t, ht, htl⟩ := h
  exact ⟨t, ht, htl.trans hp⟩

theorem Holds.acquire (h : Holds log l) (r : R) : Holds (.acquire r :: log) (r :: l) := by
  obtain ⟨t, ht, htl⟩ := h
  refine ⟨r :: t, ?_, htl.cons r⟩
  rw [held, ht]
  rfl

theorem Holds.release (h : Holds log (r :: l)) : Holds (.release r :: log) l := by
  obtain ⟨t, ht, htl⟩ := h
  have hr : r ∈ t := htl.mem_iff.2 (List.mem_cons_self ..)
  refine ⟨t.erase r, ?_, ?_⟩
  · rw [held, ht]
    exact if_pos hr
  · have he := htl.erase r
    rwa [List.erase_cons_head] at he

/-- The log has released what it acquired. -/
def Settled (log : List (Use R)) : Prop := held log = some []

instance (log : List (Use R)) : Decidable (Settled log) := by unfold Settled; infer_instance

theorem Holds.settled (h : Holds log []) : Settled log := by
  obtain ⟨t, ht, htl⟩ := h
  rw [Settled, ht, htl.eq_nil]

/-! ### Longer logs -/

variable {us : List (Use R)}

theorem exists_held_of_append (h : held (us ++ log) = some l) : ∃ l', held log = some l' := by
  induction us generalizing l with
  | nil => exact ⟨l, h⟩
  | cons u us ih =>
    cases u with
    | acquire r =>
      obtain ⟨l', h', -⟩ := Option.map_eq_some_iff.1 h
      exact ih h'
    | release r =>
      obtain ⟨l', h', -⟩ := Option.bind_eq_some_iff.1 h
      exact ih h'

/-- What is held and not released stays held. -/
theorem mem_held_append (h : held log = some l') (hr : r ∈ l') (hnot : .release r ∉ us)
    (h' : held (us ++ log) = some l) : r ∈ l := by
  induction us generalizing l with
  | nil =>
    obtain rfl : l' = l := Option.some.inj (h.symm.trans h')
    exact hr
  | cons u us ih =>
    have hnot' : Use.release r ∉ us := fun hm => hnot (List.mem_cons_of_mem _ hm)
    cases u with
    | acquire r' =>
      obtain ⟨t, ht, rfl⟩ := Option.map_eq_some_iff.1 h'
      exact List.mem_cons_of_mem _ (ih hnot' ht)
    | release r' =>
      obtain ⟨t, ht, he⟩ := Option.bind_eq_some_iff.1 h'
      have hne : r ≠ r' := by
        rintro rfl
        exact hnot (List.mem_cons_self ..)
      split at he
      · obtain rfl := Option.some.inj he
        exact (List.mem_erase_of_ne hne).2 (ih hnot' ht)
      · cases he

end Msm7x27a.Leases
