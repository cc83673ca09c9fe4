import Msm7x27a.Lib.Threads

/-!
# What a mutex guards

Threads share a state, and one mutex guards a part of it.  A `Protocol` says what holds of the state
whoever moves, what holds while nobody has the mutex, what a region does and what a thread relies on
where it is in its code.  `Proper` follows the code of one thread through what the others may do.

`Respected.step` is the rule: if what a region does is what every other thread relies on, the protocol
is respected in every configuration of a run.
-/

set_option linter.unusedSectionVars false

namespace Msm7x27a.Threads

variable {σ μ κ ρ ι τ : Type} [DecidableEq μ] [DecidableEq κ] [DecidableEq τ]

/-- The assertions; a `Bool` says whether the thread has the mutex. -/
structure Protocol (σ μ κ ρ : Type) where
  mutex : μ
  /-- In every state. -/
  inv : σ → Prop
  /-- While nobody has the mutex. -/
  free : σ → Prop
  /-- What a region does. -/
  guar : Bool → ρ → σ → σ → Prop
  /-- What the others may do while a thread is at this code. -/
  rely : Bool → Cmd σ μ κ ρ → σ → σ → Prop
  refl : ∀ b k s, rely b k s s
  trans : ∀ b k s s' s'', rely b k s s' → rely b k s' s'' → rely b k s s''
  free_of_guar : ∀ r s s', guar false r s s' → free s → free s'

/-- The code takes and gives back the mutex in turn, and keeps to the protocol from here on. -/
def Proper (P : Protocol σ μ κ ρ) : Bool → Cmd σ μ κ ρ → σ → Prop
  | b, .done, _ => b = false
  | b, .lock m k, s => b = false ∧ m = P.mutex ∧
    ∀ s', P.rely false (.lock m k) s s' → P.inv s' → P.free s' → Proper P true k s'
  | b, .unlock m k, s => b = true ∧ m = P.mutex ∧
    ∀ s', P.rely true (.unlock m k) s s' → P.inv s' → P.free s' ∧ Proper P false k s'
  | b, .act r f sig k, s => ∀ s', P.rely b (.act r f sig k) s s' → P.inv s' →
    P.inv (f s') ∧ P.guar b r s' (f s') ∧ Proper P b (k s') (f s')
  | _, .wait .., _ => False

variable {P : Protocol σ μ κ ρ} {S : System σ μ κ ρ ι τ} {c c' : Config σ μ κ ρ ι τ}

theorem Proper.rely {b : Bool} {k : Cmd σ μ κ ρ} {s s' : σ} (h : Proper P b k s)
    (hr : P.rely b k s s') : Proper P b k s' := by
  cases k with
  | done => exact h
  | lock m k =>
    obtain rfl := h.1
    exact ⟨rfl, h.2.1, fun s'' hr' => h.2.2 s'' (P.trans _ _ _ _ _ hr hr')⟩
  | unlock m k =>
    obtain rfl := h.1
    exact ⟨rfl, h.2.1, fun s'' hr' => h.2.2 s'' (P.trans _ _ _ _ _ hr hr')⟩
  | act r f sig k => exact fun s'' hr' => h s'' (P.trans _ _ _ _ _ hr hr')
  | wait v m k => exact h

/-- The thread has the mutex of the protocol. -/
def Config.holds (P : Protocol σ μ κ ρ) (c : Config σ μ κ ρ ι τ) (t : τ) : Bool :=
  c.owner P.mutex = some t

theorem Config.holds_of_free (h : c.owner P.mutex = none) (t : τ) : c.holds P t = false := by
  simp [Config.holds, h]

/-- Every thread keeps to the protocol, and nobody waits for a signal. -/
structure Respected (P : Protocol σ μ κ ρ) (c : Config σ μ κ ρ ι τ) : Prop where
  waiters : c.waiters = []
  inv : P.inv c.shared
  free : c.owner P.mutex = none → P.free c.shared
  proper : ∀ t, Proper P (c.holds P t) (c.code t) c.shared

theorem respected_init {s : σ} (hinv : P.inv s) (hfree : P.free s) :
    Respected P (Config.init s : Config σ μ κ ρ ι τ) where
  waiters := rfl
  inv := hinv
  free _ := hfree
  proper _ := rfl

/-- What the regions do is what the other threads rely on. -/
def Compatible (P : Protocol σ μ κ ρ) (c : Config σ μ κ ρ ι τ) : Label κ ι τ → Prop
  | .step t _ => ∀ r f sig k, c.code t = .act r f sig k →
    P.guar (c.holds P t) r c.shared (f c.shared) → ∀ u, u ≠ t →
      P.rely (c.holds P u) (c.code u) c.shared (f c.shared)
  | _ => True

/-- **The rule.** A step whose region does what the others rely on respects the protocol. -/
theorem Respected.step (h : Respected P c) (hprog : ∀ i s, P.inv s → Proper P false (S.prog i) s)
    {l : Label κ ι τ} (hcompatible : Compatible P c l) (hs : Threads.step S c l = some c') :
    Respected P c' := by
  cases fires_of_step hs with
  | @start t i _ hc _ =>
    refine ⟨h.waiters, h.inv, h.free, fun u => ?_⟩
    by_cases hu : u = t
    · subst hu
      have hnot : c.holds P u = false := by
        have := h.proper u
        rwa [hc] at this
      change Proper P (c.holds P u) ((c.goto u (S.prog i)).code u) c.shared
      rw [hnot, Config.goto_self]
      exact hprog i _ h.inv
    · change Proper P (c.holds P u) ((c.goto t (S.prog i)).code u) c.shared
      rw [Config.goto_ne hu]
      exact h.proper u
  | spurious hw =>
    rw [h.waiters] at hw
    cases hw
  | @lock t w m k _ hc ho =>
    have ht := h.proper t
    rw [hc] at ht
    obtain ⟨-, rfl, hnext⟩ := ht
    have hholds : ∀ u, ((c.setOwner P.mutex (some t)).goto t k).holds P u = decide (u = t) := by
      intro u
      refine decide_eq_decide.2 ?_
      change Function.update c.owner P.mutex (some t) P.mutex = some u ↔ u = t
      rw [Function.update_self, Option.some_inj, eq_comm]
    refine ⟨h.waiters, h.inv, fun e => ?_, fun u => ?_⟩
    · change Function.update c.owner P.mutex (some t) P.mutex = none at e
      rw [Function.update_self] at e
      cases e
    · rw [hholds]
      by_cases hu : u = t
      · subst hu
        rw [Config.goto_self, decide_eq_true rfl]
        exact hnext _ (P.refl ..) h.inv (h.free ho)
      · rw [Config.goto_ne hu, decide_eq_false hu]
        exact Config.holds_of_free ho u ▸ h.proper u
  | @unlock t w m k _ hc ho =>
    have ht := h.proper t
    rw [hc] at ht
    obtain ⟨-, rfl, hnext⟩ := ht
    have hafter := hnext _ (P.refl ..) h.inv
    have hfree : ((c.setOwner P.mutex none).goto t k).owner P.mutex = none := by
      change Function.update c.owner P.mutex none P.mutex = none
      rw [Function.update_self]
    refine ⟨h.waiters, h.inv, fun _ => hafter.1, fun u => ?_⟩
    rw [Config.holds_of_free hfree]
    by_cases hu : u = t
    · subst hu
      rw [Config.goto_self]
      exact hafter.2
    · rw [Config.goto_ne hu]
      have hnot : c.holds P u = false := by
        refine decide_eq_false ?_
        rw [ho, Option.some_inj]
        exact fun e => hu e.symm
      exact hnot ▸ h.proper u
  | @wait t w v m k _ hc _ =>
    have ht := h.proper t
    rw [hc] at ht
    exact absurd ht id
  | @act t w r f sig k ws _ hc hw =>
    have ht := h.proper t
    rw [hc] at ht
    obtain ⟨hinv, hguar, hnext⟩ := ht _ (P.refl ..) h.inv
    have hws : ws = [] := by
      have := hw.sublist
      rw [h.waiters] at this
      exact List.sublist_nil.1 this
    refine ⟨hws, hinv, fun ho => ?_, fun u => ?_⟩
    · have hnot : c.holds P t = false := Config.holds_of_free ho t
      exact P.free_of_guar r _ _ (hnot ▸ hguar) (h.free ho)
    · change Proper P (c.holds P u) ((c.goto t (k c.shared)).code u) (f c.shared)
      by_cases hu : u = t
      · subst hu
        rw [Config.goto_self]
        exact hnext
      · rw [Config.goto_ne hu]
        exact (h.proper u).rely (hcompatible r f sig k hc hguar u hu)

end Msm7x27a.Threads
