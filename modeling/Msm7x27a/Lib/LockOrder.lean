import Mathlib.Logic.Relation
import Msm7x27a.Lib.Threads

/-!
# Lock orders

`Requests R` is a discipline for the requests in code: a mutex `m` is requested with `H` held only
where `R H m`.  Code is *ordered* by a rank of the mutexes when every mutex it requests ranks above
those it holds.  Where that is so in a configuration, no thread requests a mutex it holds and no
threads wait for each other in a cycle (`no_cycle`): along a chain of waiting threads the rank of
the requested mutex grows.
-/

set_option linter.unusedSectionVars false

namespace Msm7x27a.Threads

variable {σ μ κ ρ ι τ : Type} [DecidableEq μ] [DecidableEq κ] [DecidableEq τ]

/-- A request of `m` with `H` held meets `R H m`, a mutex given back is held, and nothing is held at
the end. -/
def Requests (R : Set μ → μ → Prop) (H : Set μ) : Cmd σ μ κ ρ → Prop
  | .done => H = ∅
  | .lock m _ => R H m
  | .unlock m _ => m ∈ H
  | .act .. => True
  | .wait _ m _ => m ∈ H

/-- The mutex ranks above all that are held. -/
def Above (rank : μ → ℕ) (H : Set μ) (m : μ) : Prop := ∀ n ∈ H, rank n < rank m

theorem above_empty {rank : μ → ℕ} {m : μ} : Above rank ∅ m :=
  fun n hn => absurd hn (Set.notMem_empty n)

/-- Every request in the code is for a mutex that ranks above those held. -/
abbrev Ordered (rank : μ → ℕ) (G : ρ → σ → Prop) : Set μ → Cmd σ μ κ ρ → Prop :=
  Each (Requests (Above rank)) G

variable {S : System σ μ κ ρ ι τ} {c : Config σ μ κ ρ ι τ} {rank : μ → ℕ} {G : ρ → σ → Prop}

/-! ### Building code with requests of one kind -/

section Building

variable {R : Set μ → μ → Prop} {H : Set μ} {m : μ} {k : Cmd σ μ κ ρ}

theorem Requests.act {r : ρ} {f : σ → σ} {sig : σ → Option κ} {k : σ → Cmd σ μ κ ρ}
    (h : ∀ s, Each (Requests R) G H (k s)) : Each (Requests R) G H (.act r f sig k) :=
  ⟨trivial, fun s _ => h s⟩

theorem Requests.unlock (hm : m ∉ H) (h : Each (Requests R) G H k) :
    Each (Requests R) G (insert m H) (.unlock m k) :=
  Each.unlock hm (Set.mem_insert m H) h

theorem Requests.wait {v : κ} (hm : m ∉ H) (hR : R H m) (h : Each (Requests R) G (insert m H) k) :
    Each (Requests R) G (insert m H) (.wait v m k) := by
  refine ⟨Set.mem_insert m H, ?_, ?_⟩
  · rwa [Set.insert_sdiff_self_of_notMem hm]
  · rwa [Set.insert_sdiff_self_of_notMem hm]

/-- A mutex is taken from above all that are held, so that it is not one of them. -/
theorem Ordered.lock (hm : Above rank H m) (h : m ∉ H → Ordered rank G (insert m H) k) :
    Ordered rank G H (.lock m k) :=
  ⟨hm, h fun e => lt_irrefl _ (hm m e)⟩

end Building

/-! ### Runs of ordered code -/

theorem requests_closed {R : ι → Set μ → μ → Prop} (h : ∀ i, Each (Requests (R i)) G ∅ (S.prog i)) :
    Closed S G fun i => Each (Requests (R i)) G :=
  each_closed (fun _ _ h => h) h

/-- A thread that requests a mutex runs an operation that may, with what it holds. -/
theorem CodeInv.request {R : ι → Set μ → μ → Prop}
    (h : CodeInv (fun i => Each (Requests (R i)) G) c) {t : τ} {m : μ} (hm : m ∈ c.requests t) :
    ∃ i, c.op t = some i ∧ R i (c.held t) m := by
  obtain ⟨-, k, hc⟩ := Config.mem_requests.1 hm
  obtain ⟨i, hi, hk⟩ := h.here (t := t) (by simp [hc])
  rw [hc] at hk
  exact ⟨i, hi, hk⟩

/-- The last thread of a chain of waiting threads requests a mutex of higher rank than the first. -/
theorem rank_lt_of_chain (h : ∀ t, ∀ m ∈ c.requests t, Above rank (c.held t) m) {t u : τ}
    (htu : Relation.TransGen c.WaitsFor t u) {m n : μ} (ht : m ∈ c.requests t)
    (hu : n ∈ c.requests u) : rank m < rank n := by
  have hone : ∀ {a b : τ} {m n : μ}, c.WaitsFor a b → m ∈ c.requests a → n ∈ c.requests b →
      rank m < rank n := by
    rintro a b m n ⟨m', hm', hm⟩ ha hb
    obtain rfl : m' = m := Option.some.inj (Option.mem_def.1 hm' ▸ ha)
    exact h b n hb m' hm
  induction htu generalizing n with
  | single hw => exact hone hw ht hu
  | tail _ hw ih =>
    obtain ⟨n', hn', -⟩ := id hw
    exact (ih hn').trans (hone hw hn' hu)

/-- **No deadlock.** Where every thread requests mutexes that rank above those it holds, no thread
waits for itself, directly or through other threads. -/
theorem no_cycle (h : ∀ t, ∀ m ∈ c.requests t, Above rank (c.held t) m) (t : τ) :
    ¬ Relation.TransGen c.WaitsFor t t := by
  intro ht
  obtain ⟨u, ⟨m, hm, -⟩, -⟩ := Relation.TransGen.head'_iff.1 ht
  exact lt_irrefl _ (rank_lt_of_chain h ht hm hm)

/-- Ordered code requests mutexes that rank above those held. -/
theorem CodeInv.above (h : CodeInv (fun _ : ι => Ordered rank G) c) (t : τ) :
    ∀ m ∈ c.requests t, Above rank (c.held t) m := by
  intro m hm
  obtain ⟨-, -, hR⟩ := h.request (R := fun _ => Above rank) hm
  exact hR

/-! ### Code that runs alone -/

/-- Nobody is parked, and the mutexes held are those of `t`, which holds `H`. -/
structure Sole (c : Config σ μ κ ρ ι τ) (t : τ) (H : Set μ) : Prop where
  waiters : c.waiters = []
  held : ∀ m ∈ H, c.owner m = some t
  free : ∀ m, m ∉ H → c.owner m = none

namespace Sole

variable {t : τ} {H : Set μ} (h : Sole c t H)

include h

theorem not_parked (u : τ) : ¬ c.Parked u := by simp [Config.Parked, h.waiters]

theorem goto (k : Cmd σ μ κ ρ) : Sole (c.goto t k) t H := ⟨h.waiters, h.held, h.free⟩

theorem take (m : μ) : Sole (c.setOwner m (some t)) t (insert m H) := by
  refine ⟨h.waiters, ?_, ?_⟩
  · intro n hn
    by_cases hnm : n = m
    · simp [Config.setOwner, hnm]
    · simpa [Config.setOwner, hnm] using h.held n (hn.resolve_left hnm)
  · intro n hn
    rw [Set.mem_insert_iff, not_or] at hn
    simpa [Config.setOwner, hn.1] using h.free n hn.2

theorem drop (m : μ) : Sole (c.setOwner m none) t (H \ {m}) := by
  refine ⟨h.waiters, ?_, ?_⟩
  · intro n hn
    have hnm : n ≠ m := by simpa using hn.2
    simpa [Config.setOwner, hnm] using h.held n hn.1
  · intro n hn
    by_cases hnm : n = m
    · simp [Config.setOwner, hnm]
    · have : n ∉ H := fun e => hn ⟨e, by simpa using hnm⟩
      simpa [Config.setOwner, hnm] using h.free n this

end Sole

/-- **Code that runs alone.** Ordered code whose thread finds every other mutex free and nobody
parked can run to its end without any other thread, and does what `Cmd.alone` says. -/
theorem solo (S : System σ μ κ ρ ι τ) {k : Cmd σ μ κ ρ} {c : Config σ μ κ ρ ι τ} {H : Set μ} {t : τ}
    (ho : Ordered rank (fun _ _ => True) H k) (h : Sole c t H) (hc : c.code t = k) :
    ∃ ls c', Runs.run (step S) c ls = some c' ∧ c'.code t = .done ∧
      c'.shared = k.alone c.shared := by
  have hp := h.not_parked t
  induction k generalizing c H with
  | done => exact ⟨[], c, rfl, hc, rfl⟩
  | lock m k ih =>
    have hm : c.owner m = none := h.free m fun hm => lt_irrefl _ (ho.1 m hm)
    have hs : step S c (.step t none) = some ((c.setOwner m (some t)).goto t k) := by
      simp [step, hp, hc, hm]
    have h' := (h.take m).goto k
    obtain ⟨ls, c', hr, hd⟩ := ih ho.2 h' (Config.goto_self ..) (h'.not_parked t)
    exact ⟨_ :: ls, c', Runs.run_cons.2 ⟨_, hs, hr⟩, hd⟩
  | unlock m k ih =>
    have hs : step S c (.step t none) = some ((c.setOwner m none).goto t k) := by
      simp [step, hp, hc, h.held m ho.1]
    have h' := (h.drop m).goto k
    obtain ⟨ls, c', hr, hd⟩ := ih ho.2 h' (Config.goto_self ..) (h'.not_parked t)
    exact ⟨_ :: ls, c', Runs.run_cons.2 ⟨_, hs, hr⟩, hd⟩
  | act r f sig k ih =>
    have hs : step S c (.step t none) =
        some { c.goto t (k c.shared) with shared := f c.shared } := by
      cases hsig : sig c.shared <;> simp [step, hp, hc, hsig, h.waiters, Config.goto]
    have h' : Sole { c.goto t (k c.shared) with shared := f c.shared } t H :=
      ⟨h.waiters, h.held, h.free⟩
    obtain ⟨ls, c', hr, hd⟩ := ih c.shared (ho.2 c.shared trivial) h' (Config.goto_self ..)
      (h'.not_parked t)
    exact ⟨_ :: ls, c', Runs.run_cons.2 ⟨_, hs, hr⟩, hd⟩
  | wait v m k ih =>
    -- it parks, wakes on its own and takes the mutex again
    let c₁ : Config σ μ κ ρ ι τ := (c.setOwner m none).goto t (.lock m k)
    have hs : step S c (.step t none) = some { c₁ with waiters := (v, t) :: c.waiters } := by
      simp [step, hp, hc, h.held m ho.1, c₁]
    have hw : step S { c₁ with waiters := (v, t) :: c.waiters } (.spurious v t) = some c₁ := by
      have hwait : c₁.waiters = [] := h.waiters
      simp [step, ← hwait, h.waiters]
    have h₁ : Sole c₁ t (H \ {m}) := (h.drop m).goto _
    have hfree : c₁.owner m = none := h₁.free m fun e => e.2 rfl
    have hl : step S c₁ (.step t none) = some ((c₁.setOwner m (some t)).goto t k) := by
      have hcode : c₁.code t = .lock m k := Config.goto_self ..
      simp [step, h₁.not_parked t, hcode, hfree]
    have h' := (h₁.take m).goto k
    obtain ⟨ls, c', hr, hd⟩ := ih ho.2.2 h' (Config.goto_self ..) (h'.not_parked t)
    exact ⟨_ :: _ :: _ :: ls, c', Runs.run_cons.2 ⟨_, hs, Runs.run_cons.2 ⟨_, hw,
      Runs.run_cons.2 ⟨_, hl, hr⟩⟩⟩, hd⟩

end Msm7x27a.Threads
