import Mathlib.Data.List.Basic

/-!
# Logs

A log is a list of events, newest first.  `Always Q log` says that every event `e` of the log has
`Q before e`, where `before` is the log at the time.  What is read off a log stays as it is while the
log grows by events that do not matter for it (`Grows.read_eq`).

A trace is a list of events, oldest first.  `Followed p r trace` says that every event with `p` has a
later one that is its `r`.
-/

namespace Msm7x27a.Log

variable {E : Type*} {Q : List E → E → Prop}

/-- What each event of a list keeps, the list keeps. -/
theorem append_induction {P : List E → Prop} {l log : List E} (h : P log)
    (hl : ∀ e ∈ l, ∀ log, P log → P (e :: log)) : P (l ++ log) := by
  induction l with
  | nil => exact h
  | cons e l ih =>
    exact hl e (List.mem_cons_self ..) _ (ih fun e' he' => hl e' (List.mem_cons_of_mem _ he'))

/-- What is read off a log is not changed by events that do not matter for it. -/
theorem read_append {β : Type*} {read : List E → β} {l log : List E}
    (hl : ∀ e ∈ l, ∀ log, read (e :: log) = read log) : read (l ++ log) = read log :=
  append_induction (P := fun log' => read log' = read log) rfl fun e he log' h => (hl e he log').trans h

/-- The log has grown by events with `p`. -/
def Grows (p : E → Prop) (log log' : List E) : Prop := ∃ l, log' = l ++ log ∧ ∀ e ∈ l, p e

theorem Grows.refl {p : E → Prop} (log : List E) : Grows p log log := ⟨[], rfl, by simp⟩

theorem Grows.cons {p : E → Prop} {e : E} (h : p e) (log : List E) : Grows p log (e :: log) :=
  ⟨[e], rfl, by simpa using h⟩

theorem Grows.trans {p : E → Prop} {a b c : List E} (h : Grows p a b) (h' : Grows p b c) :
    Grows p a c := by
  obtain ⟨l, rfl, hl⟩ := h
  obtain ⟨l', rfl, hl'⟩ := h'
  refine ⟨l' ++ l, by simp, ?_⟩
  intro e he
  exact (List.mem_append.1 he).elim (hl' e) (hl e)

theorem Grows.mono {p q : E → Prop} {log log' : List E} (h : Grows p log log')
    (hpq : ∀ e, p e → q e) : Grows q log log' := by
  obtain ⟨l, hl, hp⟩ := h
  exact ⟨l, hl, fun e he => hpq e (hp e he)⟩

/-- What holds of the events of a log and of those it has grown by holds of all. -/
theorem Grows.forall {p : E → Prop} {log log' : List E} (h : Grows p log log')
    (hlog : ∀ e ∈ log, p e) : ∀ e ∈ log', p e := by
  obtain ⟨l, rfl, hp⟩ := h
  intro e he
  exact (List.mem_append.1 he).elim (hp e) (hlog e)

theorem Grows.read_eq {β : Type*} {read : List E → β} {p : E → Prop} {log log' : List E}
    (h : Grows p log log') (hread : ∀ e, p e → ∀ log, read (e :: log) = read log) :
    read log' = read log := by
  obtain ⟨l, rfl, hp⟩ := h
  exact read_append fun e he => hread e (hp e he)

/-- Every event has `Q` of the log before it. -/
def Always (Q : List E → E → Prop) : List E → Prop
  | [] => True
  | e :: log => Q log e ∧ Always Q log

instance decidableAlways [∀ log e, Decidable (Q log e)] : DecidablePred (Always Q)
  | [] => .isTrue trivial
  | _ :: log => @instDecidableAnd _ _ _ (decidableAlways log)

theorem Always.of_append {l log : List E} (h : Always Q (l ++ log)) : Always Q log := by
  induction l with
  | nil => exact h
  | cons e l ih => exact ih h.2

theorem Always.of_suffix {log log' : List E} (h : Always Q log') (hs : log <:+ log') :
    Always Q log := by
  obtain ⟨l, rfl⟩ := hs
  exact h.of_append

/-- Events that have `Q` of every log may be put before any log. -/
theorem Always.append {l log : List E} (h : Always Q log) (hl : ∀ e ∈ l, ∀ log, Q log e) :
    Always Q (l ++ log) :=
  append_induction h fun e he log h' => ⟨hl e he log, h'⟩

/-! ### Traces -/

/-- Every event with `p` has a later one that is its `r`. -/
def Followed (p : E → Prop) (r : E → E → Prop) : List E → Prop
  | [] => True
  | e :: trace => (p e → ∃ e' ∈ trace, r e e') ∧ Followed p r trace

instance decidableFollowed {p : E → Prop} {r : E → E → Prop} [DecidablePred p] [DecidableRel r] :
    DecidablePred (Followed p r)
  | [] => .isTrue trivial
  | _ :: trace => @instDecidableAnd _ _ _ (decidableFollowed trace)

section Followed

variable {p : E → Prop} {r : E → E → Prop} {l l' : List E}

theorem Followed.append (h : Followed p r l) (h' : Followed p r l') : Followed p r (l ++ l') := by
  induction l with
  | nil => exact h'
  | cons e l ih =>
    refine ⟨fun he => ?_, ih h.2⟩
    obtain ⟨e', hmem, hr⟩ := h.1 he
    exact ⟨e', List.mem_append_left _ hmem, hr⟩

theorem followed_flatMap {A : Type*} {f : A → List E} {as : List A}
    (h : ∀ a ∈ as, Followed p r (f a)) : Followed p r (as.flatMap f) := by
  induction as with
  | nil => trivial
  | cons a as ih =>
    rw [List.flatMap_cons]
    exact (h a (List.mem_cons_self ..)).append (ih fun a' h' => h a' (List.mem_cons_of_mem _ h'))

theorem Followed.of_append (h : Followed p r (l ++ l')) : Followed p r l' := by
  induction l with
  | nil => exact h
  | cons e l ih => exact ih h.2

end Followed

end Msm7x27a.Log
