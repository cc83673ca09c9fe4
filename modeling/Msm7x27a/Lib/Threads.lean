import Mathlib.Data.Set.Insert
import Mathlib.Logic.Function.Basic
import Mathlib.Order.BooleanAlgebra.Set
import Msm7x27a.Lib.Runs

/-!
# Threads with mutexes and condition variables

A small language for the code of a thread and its interleaving semantics.  `Cmd` is the code that
is still to run: acquisitions and releases of non-recursive mutexes, waits on a condition variable,
and *regions*, the atomic pieces of code between them.  A region has a name, an effect on the
shared state, the condition variable it signals (if it does), and a continuation that may look at
the shared state it started from.

* `Config` is the shared state, the owner of every mutex, the code of every thread and the threads
  parked on condition variables; there is no bound on the number of threads;
* `step` is the interleaving: a label names the thread that moves, and for a signal the thread it
  wakes.  A signal wakes a parked thread if there is one, and is lost otherwise; a parked thread
  may also wake on its own (`spurious`);
* `Closed.inv` lifts a property of code that is kept along the code to every thread of every
  reachable configuration.
-/

set_option linter.unusedSectionVars false

namespace Msm7x27a.Threads

/-- Code of a thread over the shared state `σ`, the mutexes `μ`, the condition variables `κ` and
the region names `ρ`. -/
inductive Cmd (σ μ κ ρ : Type) where
  | done
  | lock (m : μ) (k : Cmd σ μ κ ρ)
  | unlock (m : μ) (k : Cmd σ μ κ ρ)
  | act (r : ρ) (f : σ → σ) (sig : σ → Option κ) (k : σ → Cmd σ μ κ ρ)
  | wait (v : κ) (m : μ) (k : Cmd σ μ κ ρ)

instance decidableDone {σ μ κ ρ : Type} : (k : Cmd σ μ κ ρ) → Decidable (k = .done)
  | .done => .isTrue rfl
  | .lock .. | .unlock .. | .act .. | .wait .. => .isFalse nofun

/-- What the code does to the shared state when no other thread moves. -/
def Cmd.alone {σ μ κ ρ : Type} : Cmd σ μ κ ρ → σ → σ
  | .done, s => s
  | .lock _ k, s | .unlock _ k, s | .wait _ _ k, s => k.alone s
  | .act _ f _ k, s => (k s).alone (f s)

/-- The operations `ι` that threads run: the code of each, and which thread may begin which
operation in which shared state. -/
structure System (σ μ κ ρ ι τ : Type) where
  prog : ι → Cmd σ μ κ ρ
  may : τ → ι → σ → Bool

/-- A configuration.  `op t` is the operation that `t` runs, or ran last. -/
structure Config (σ μ κ ρ ι τ : Type) where
  shared : σ
  owner : μ → Option τ
  code : τ → Cmd σ μ κ ρ
  waiters : List (κ × τ)
  op : τ → Option ι

/-- What moves: a thread begins an operation, runs its next command (a signal wakes `woken`), or
wakes without a signal. -/
inductive Label (κ ι τ : Type) where
  | start (t : τ) (i : ι)
  | step (t : τ) (woken : Option τ)
  | spurious (v : κ) (t : τ)

variable {σ μ κ ρ ι τ : Type} [DecidableEq μ] [DecidableEq κ] [DecidableEq τ]

namespace Config

/-- The start: every thread idle, every mutex free. -/
def init (s : σ) : Config σ μ κ ρ ι τ where
  shared := s
  owner := fun _ => none
  code := fun _ => .done
  waiters := []
  op := fun _ => none

/-- The thread is parked on a condition variable. -/
def Parked (c : Config σ μ κ ρ ι τ) (t : τ) : Prop := t ∈ c.waiters.map Prod.snd

instance (c : Config σ μ κ ρ ι τ) (t : τ) : Decidable (c.Parked t) := by
  unfold Parked; infer_instance

/-- The mutex a thread is about to take. -/
def requests (c : Config σ μ κ ρ ι τ) (t : τ) : Option μ :=
  if c.Parked t then none else
  match c.code t with
  | .lock m _ => some m
  | _ => none

/-- The mutexes a thread holds. -/
def held (c : Config σ μ κ ρ ι τ) (t : τ) : Set μ := {m | c.owner m = some t}

/-- `t` requests a mutex that `u` holds. -/
def WaitsFor (c : Config σ μ κ ρ ι τ) (t u : τ) : Prop :=
  ∃ m ∈ c.requests t, c.owner m = some u

instance (c : Config σ μ κ ρ ι τ) (t u : τ) : Decidable (c.WaitsFor t u) :=
  decidable_of_iff ((c.requests t).any fun m => decide (c.owner m = some u)) <| by
    simp [WaitsFor, Option.any_eq_true]

/-- The thread has no operation in progress. -/
def Idle (c : Config σ μ κ ρ ι τ) (t : τ) : Prop := ∀ i, c.op t = some i → c.code t = .done

/-- `t` is left with the code `k`. -/
def goto (c : Config σ μ κ ρ ι τ) (t : τ) (k : Cmd σ μ κ ρ) : Config σ μ κ ρ ι τ :=
  { c with code := Function.update c.code t k }

/-- The mutex `m` passes to `o`. -/
def setOwner (c : Config σ μ κ ρ ι τ) (m : μ) (o : Option τ) : Config σ μ κ ρ ι τ :=
  { c with owner := Function.update c.owner m o }

end Config

/-- One step of the interleaving; `none` when the label is not possible. -/
def step (S : System σ μ κ ρ ι τ) (c : Config σ μ κ ρ ι τ) :
    Label κ ι τ → Option (Config σ μ κ ρ ι τ)
  | .start t i =>
    if c.Parked t then none else
    match c.code t with
    | .done => if S.may t i c.shared then
        some { c.goto t (S.prog i) with op := Function.update c.op t (some i) } else none
    | _ => none
  | .spurious v t => if (v, t) ∈ c.waiters then some { c with waiters := c.waiters.erase (v, t) } else none
  | .step t woken =>
    if c.Parked t then none else
    match c.code t with
    | .done => none
    | .lock m k => if c.owner m = none then some ((c.setOwner m (some t)).goto t k) else none
    | .unlock m k => if c.owner m = some t then some ((c.setOwner m none).goto t k) else none
    | .wait v m k =>
      if c.owner m = some t then
        some { (c.setOwner m none).goto t (.lock m k) with waiters := (v, t) :: c.waiters }
      else none
    | .act _ f sig k =>
      let c' := { c.goto t (k c.shared) with shared := f c.shared }
      match sig c.shared, woken with
      | none, _ => some c'
      | some v, some u =>
        if (v, u) ∈ c.waiters then some { c' with waiters := c.waiters.erase (v, u) } else none
      | some v, none => if ∀ p ∈ c.waiters, p.1 ≠ v then some c' else none

/-! ### What a step can do -/

/-- The threads parked after a region that signals `sig`, when `woken` is the thread named by the
label: the signal is lost when nobody is parked on it. -/
inductive Woken (ws : List (κ × τ)) : Option κ → Option τ → List (κ × τ) → Prop
  | silent (w : Option τ) : Woken ws none w ws
  | lost {v : κ} : (∀ p ∈ ws, p.1 ≠ v) → Woken ws (some v) none ws
  | wakes {v : κ} {u : τ} : (v, u) ∈ ws → Woken ws (some v) (some u) (ws.erase (v, u))

/-- The steps of the interleaving, one constructor for each kind of command. -/
inductive Fires (S : System σ μ κ ρ ι τ) (c : Config σ μ κ ρ ι τ) :
    Label κ ι τ → Config σ μ κ ρ ι τ → Prop
  | start {t : τ} {i : ι} : ¬ c.Parked t → c.code t = .done → S.may t i c.shared = true →
      Fires S c (.start t i) { c.goto t (S.prog i) with op := Function.update c.op t (some i) }
  | spurious {v : κ} {t : τ} : (v, t) ∈ c.waiters →
      Fires S c (.spurious v t) { c with waiters := c.waiters.erase (v, t) }
  | lock {t : τ} {w : Option τ} {m : μ} {k : Cmd σ μ κ ρ} : ¬ c.Parked t → c.code t = .lock m k →
      c.owner m = none → Fires S c (.step t w) ((c.setOwner m (some t)).goto t k)
  | unlock {t : τ} {w : Option τ} {m : μ} {k : Cmd σ μ κ ρ} : ¬ c.Parked t →
      c.code t = .unlock m k → c.owner m = some t →
      Fires S c (.step t w) ((c.setOwner m none).goto t k)
  | wait {t : τ} {w : Option τ} {v : κ} {m : μ} {k : Cmd σ μ κ ρ} : ¬ c.Parked t →
      c.code t = .wait v m k → c.owner m = some t →
      Fires S c (.step t w)
        { (c.setOwner m none).goto t (.lock m k) with waiters := (v, t) :: c.waiters }
  | act {t : τ} {w : Option τ} {r : ρ} {f : σ → σ} {sig : σ → Option κ} {k : σ → Cmd σ μ κ ρ}
      {ws : List (κ × τ)} : ¬ c.Parked t → c.code t = .act r f sig k →
      Woken c.waiters (sig c.shared) w ws →
      Fires S c (.step t w) { c.goto t (k c.shared) with shared := f c.shared, waiters := ws }

variable {S : System σ μ κ ρ ι τ} {c c' : Config σ μ κ ρ ι τ}

theorem fires_of_step {l : Label κ ι τ} (h : step S c l = some c') : Fires S c l c' := by
  cases l with
  | start t i =>
    simp only [step] at h
    split at h
    · cases h
    rename_i hp
    cases hc : c.code t with
    | done =>
      simp only [hc] at h
      split at h
      · cases h; exact .start hp hc ‹_›
      · cases h
    | _ => simp [hc] at h
  | spurious v t =>
    simp only [step] at h
    split at h
    · cases h; exact .spurious ‹_›
    · cases h
  | step t w =>
    simp only [step] at h
    split at h
    · cases h
    rename_i hp
    cases hc : c.code t with
    | done => simp [hc] at h
    | lock m k =>
      simp only [hc] at h
      split at h
      · cases h; exact .lock hp hc ‹_›
      · cases h
    | unlock m k =>
      simp only [hc] at h
      split at h
      · cases h; exact .unlock hp hc ‹_›
      · cases h
    | wait v m k =>
      simp only [hc] at h
      split at h
      · cases h; exact .wait hp hc ‹_›
      · cases h
    | act r f sig k =>
      simp only [hc] at h
      cases hs : sig c.shared with
      | none =>
        simp only [hs] at h
        cases h
        exact .act hp hc (hs ▸ .silent w)
      | some v =>
        cases w with
        | none =>
          simp only [hs] at h
          split at h
          · cases h; exact .act hp hc (hs ▸ .lost ‹_›)
          · cases h
        | some u =>
          simp only [hs] at h
          split at h
          · cases h; exact .act hp hc (hs ▸ .wakes ‹_›)
          · cases h

/-- Every thread is parked at most once. -/
def ParkedOnce (c : Config σ μ κ ρ ι τ) : Prop := (c.waiters.map Prod.snd).Nodup

theorem Woken.sublist {ws ws' : List (κ × τ)} {o : Option κ} {w : Option τ}
    (h : Woken ws o w ws') : ws'.Sublist ws := by
  cases h with
  | silent => exact List.Sublist.refl _
  | lost => exact List.Sublist.refl _
  | wakes => exact List.erase_sublist

theorem parkedOnce_step {l : Label κ ι τ} (h : ParkedOnce c) (hs : step S c l = some c') :
    ParkedOnce c' := by
  cases fires_of_step hs with
  | start | lock | unlock => exact h
  | spurious _ => exact h.sublist (List.erase_sublist.map _)
  | act _ _ hw => exact h.sublist (hw.sublist.map _)
  | wait hp _ _ => exact List.nodup_cons.2 ⟨hp, h⟩

/-- A thread taken off the list of parked threads is parked no more, and the others stay. -/
theorem mem_map_snd_erase {ws : List (κ × τ)} (hnd : (ws.map Prod.snd).Nodup) {v : κ} {u : τ}
    (h : (v, u) ∈ ws) (t : τ) :
    t ∈ (ws.erase (v, u)).map Prod.snd ↔ t ∈ ws.map Prod.snd ∧ t ≠ u := by
  induction ws with
  | nil => simp at h
  | cons p ws ih =>
    obtain ⟨hp, hnd'⟩ := List.nodup_cons.1 hnd
    by_cases hpu : p = (v, u)
    · subst hpu
      rw [List.erase_cons_head, List.map_cons, List.mem_cons]
      constructor
      · exact fun ht => ⟨Or.inr ht, fun e => hp (e ▸ ht)⟩
      · rintro ⟨rfl | ht, hne⟩
        · exact absurd rfl hne
        · exact ht
    · have hmem : (v, u) ∈ ws := (List.mem_cons.1 h).resolve_left (Ne.symm hpu)
      have hpu2 : p.2 ≠ u := fun e => hp (e ▸ List.mem_map_of_mem (f := Prod.snd) hmem)
      rw [List.erase_cons_tail (by simpa using hpu), List.map_cons, List.mem_cons, ih hnd' hmem,
        List.map_cons, List.mem_cons]
      constructor
      · rintro (rfl | ⟨ht, hne⟩)
        · exact ⟨Or.inl rfl, hpu2⟩
        · exact ⟨Or.inr ht, hne⟩
      · rintro ⟨rfl | ht, hne⟩
        · exact Or.inl rfl
        · exact Or.inr ⟨ht, hne⟩

/-! ### Properties of code -/

namespace Config

@[simp] theorem goto_self (t : τ) (k : Cmd σ μ κ ρ) : (c.goto t k).code t = k := by simp [goto]
@[simp] theorem goto_ne {t u : τ} (h : u ≠ t) (k : Cmd σ μ κ ρ) :
    (c.goto t k).code u = c.code u := by simp [goto, h]
@[simp] theorem goto_held (t u : τ) (k : Cmd σ μ κ ρ) : (c.goto t k).held u = c.held u := rfl
@[simp] theorem setOwner_code (m : μ) (o : Option τ) : (c.setOwner m o).code = c.code := rfl

theorem mem_requests {m : μ} {t : τ} :
    m ∈ c.requests t ↔ ¬ c.Parked t ∧ ∃ k, c.code t = .lock m k := by
  unfold requests
  by_cases hp : c.Parked t
  · simp [hp]
  · cases hc : c.code t <;> simp [hp, eq_comm]

/-- Taking a free mutex adds it to what the taker holds, and to nobody else's. -/
theorem held_take {m : μ} {t : τ} (h : c.owner m = none) (u : τ) :
    (c.setOwner m (some t)).held u = if u = t then insert m (c.held t) else c.held u := by
  ext n
  by_cases hn : n = m
  · subst hn
    by_cases hu : u = t
    · simp [held, setOwner, hu]
    · simp [held, setOwner, hu, h, Ne.symm hu]
  · by_cases hu : u = t <;> simp [held, setOwner, hu, hn]

/-- Giving a mutex back takes it from what the holder holds, and from nobody else's. -/
theorem held_drop {m : μ} {t : τ} (h : c.owner m = some t) (u : τ) :
    (c.setOwner m none).held u = if u = t then c.held t \ {m} else c.held u := by
  ext n
  by_cases hn : n = m
  · subst hn
    by_cases hu : u = t
    · simp [held, setOwner, hu]
    · simp [held, setOwner, hu, h, Ne.symm hu]
  · by_cases hu : u = t <;> simp [held, setOwner, hu, hn]

end Config

/-- Who holds a mutex after a step held it before, or is the thread that moved and requested it. -/
theorem owner_of_step {l : Label κ ι τ} (hs : step S c l = some c') {m : μ} {t : τ}
    (h : c'.owner m = some t) :
    c.owner m = some t ∨ (∃ w, l = .step t w) ∧ m ∈ c.requests t := by
  have hdrop : ∀ n, Function.update c.owner n none m = some t → c.owner m = some t := by
    intro n hn
    by_cases hmn : m = n
    · simp [hmn] at hn
    · simpa [hmn] using hn
  cases fires_of_step hs with
  | start | spurious | act => exact .inl h
  | @lock u w n k hp hc ho =>
    by_cases hmn : m = n
    · subst hmn
      have hu : u = t := by simpa [Config.setOwner, Config.goto] using h
      subst hu
      exact .inr ⟨⟨w, rfl⟩, Config.mem_requests.2 ⟨hp, k, hc⟩⟩
    · left
      simpa [Config.setOwner, Config.goto, hmn] using h
  | unlock => exact .inl (hdrop _ h)
  | wait => exact .inl (hdrop _ h)

/-- A thread's operation stays, unless the thread had nothing left to run. -/
theorem op_of_step {l : Label κ ι τ} (hs : step S c l = some c') {t : τ} (hc : c.code t ≠ .done) :
    c'.op t = c.op t := by
  cases fires_of_step hs with
  | @start u i _ hu _ =>
    have htu : t ≠ u := fun e => hc (e ▸ hu)
    simp [htu]
  | spurious | lock | unlock | wait | act => rfl

/-- `Φ i H k` is kept along code: what is left of the operation `i` when the thread holds `H`.
Regions are followed from the shared states `G` allows. -/
structure Closed (S : System σ μ κ ρ ι τ) (G : ρ → σ → Prop)
    (Φ : ι → Set μ → Cmd σ μ κ ρ → Prop) : Prop where
  start : ∀ i, Φ i ∅ (S.prog i)
  done : ∀ {i H}, Φ i H .done → H = ∅
  lock : ∀ {i H m k}, Φ i H (.lock m k) → Φ i (insert m H) k
  unlock : ∀ {i H m k}, Φ i H (.unlock m k) → Φ i (H \ {m}) k
  act : ∀ {i H r f sig k s}, Φ i H (.act r f sig k) → G r s → Φ i H (k s)
  wait : ∀ {i H v m k}, m ∈ H → Φ i H (.wait v m k) → Φ i (H \ {m}) (.lock m k)

/-- The condition on a step that a region it runs has `G`. -/
def OnRegion (G : Config σ μ κ ρ ι τ → ρ → Prop) (c : Config σ μ κ ρ ι τ) : Label κ ι τ → Prop
  | .step t _ => ∀ r f sig k, c.code t = .act r f sig k → G c r
  | _ => True

instance decidableOnRegion (G : Config σ μ κ ρ ι τ → ρ → Prop) [∀ c r, Decidable (G c r)]
    (c : Config σ μ κ ρ ι τ) : ∀ l, Decidable (OnRegion G c l)
  | .start .. | .spurious .. => .isTrue trivial
  | .step t _ =>
    match h : c.code t with
    | .act r f sig k =>
      decidable_of_iff (G c r) ⟨fun hG _ _ _ _ e => by rw [h] at e; cases e; exact hG,
        fun hG => hG r f sig k h⟩
    | .done | .lock .. | .unlock .. | .wait .. => .isTrue fun _ _ _ _ e => by rw [h] at e; cases e

/-- The regions run from shared states that `G` allows. -/
abbrev Guard (G : ρ → σ → Prop) : Config σ μ κ ρ ι τ → Label κ ι τ → Prop :=
  OnRegion fun c r => G r c.shared

theorem guard_true (c : Config σ μ κ ρ ι τ) (l : Label κ ι τ) : Guard (fun _ _ => True) c l := by
  cases l with
  | step t w => exact fun _ _ _ _ _ => trivial
  | _ => trivial

/-- What every thread keeps of a property of code: a thread that has begun an operation has `Φ` of
what is left of it, and one that has not has nothing. -/
def CodeInv (Φ : ι → Set μ → Cmd σ μ κ ρ → Prop) (c : Config σ μ κ ρ ι τ) : Prop :=
  ∀ t, match c.op t with
    | some i => Φ i (c.held t) (c.code t)
    | none => c.held t = ∅ ∧ c.code t = .done

/-- A thread with code left has begun an operation. -/
theorem CodeInv.exists_op {Φ : ι → Set μ → Cmd σ μ κ ρ → Prop} (h : CodeInv Φ c) {t : τ}
    (hc : c.code t ≠ .done) : ∃ i, c.op t = some i ∧ Φ i (c.held t) (c.code t) := by
  have := h t
  cases hi : c.op t with
  | none => rw [hi] at this; exact absurd this.2 hc
  | some i => rw [hi] at this; exact ⟨i, rfl, this⟩

theorem codeInv_init (Φ : ι → Set μ → Cmd σ μ κ ρ → Prop) (s : σ) :
    CodeInv Φ (Config.init s : Config σ μ κ ρ ι τ) := by
  intro t
  exact ⟨by ext m; simp [Config.held, Config.init], rfl⟩

/-- An idle thread holds no mutex. -/
theorem CodeInv.held_of_done {G : ρ → σ → Prop} {Φ : ι → Set μ → Cmd σ μ κ ρ → Prop}
    (hΦ : Closed S G Φ) (h : CodeInv Φ c) {t : τ} (hc : c.code t = .done) : c.held t = ∅ := by
  have := h t
  cases hi : c.op t with
  | none => rw [hi] at this; exact this.1
  | some i => rw [hi, hc] at this; exact hΦ.done this

/-- Only the thread that moved has to be looked at. -/
theorem CodeInv.of_moved {Φ : ι → Set μ → Cmd σ μ κ ρ → Prop} (h : CodeInv Φ c) {t : τ} {i : ι}
    (hop : c'.op t = some i) (ht : Φ i (c'.held t) (c'.code t))
    (ho : ∀ u, u ≠ t → c'.op u = c.op u ∧ c'.held u = c.held u ∧ c'.code u = c.code u) :
    CodeInv Φ c' := by
  intro u
  by_cases hu : u = t
  · subst hu; rw [hop]; exact ht
  · obtain ⟨h1, h2, h3⟩ := ho u hu
    rw [h1, h2, h3]
    exact h u

theorem CodeInv.step {G : ρ → σ → Prop} {Φ : ι → Set μ → Cmd σ μ κ ρ → Prop}
    (hΦ : Closed S G Φ) (h : CodeInv Φ c) {l : Label κ ι τ} (hg : Guard G c l)
    (hs : step S c l = some c') : CodeInv Φ c' := by
  cases fires_of_step hs with
  | @start t i _ hc _ =>
    have hh : c.held t = ∅ := h.held_of_done hΦ hc
    refine h.of_moved (t := t) (i := i) (by simp) ?_ fun u hu => ⟨by simp [hu], rfl, ?_⟩
    · show Φ i (c.held t) ((c.goto t (S.prog i)).code t)
      rw [hh, Config.goto_self]
      exact hΦ.start i
    · exact Config.goto_ne hu _
  | spurious _ => exact h
  | @lock t w m k hp hc ho =>
    obtain ⟨i, hi, hk⟩ := h.exists_op (t := t) (by simp [hc])
    refine h.of_moved (t := t) (i := i) hi ?_ fun u hu => ⟨rfl, ?_, Config.goto_ne hu _⟩
    · rw [Config.goto_self, Config.goto_held, Config.held_take ho, if_pos rfl]
      exact hΦ.lock (hc ▸ hk)
    · rw [Config.goto_held, Config.held_take ho, if_neg hu]
  | @unlock t w m k hp hc ho =>
    obtain ⟨i, hi, hk⟩ := h.exists_op (t := t) (by simp [hc])
    refine h.of_moved (t := t) (i := i) hi ?_ fun u hu => ⟨rfl, ?_, Config.goto_ne hu _⟩
    · rw [Config.goto_self, Config.goto_held, Config.held_drop ho, if_pos rfl]
      exact hΦ.unlock (hc ▸ hk)
    · rw [Config.goto_held, Config.held_drop ho, if_neg hu]
  | @wait t w v m k hp hc ho =>
    obtain ⟨i, hi, hk⟩ := h.exists_op (t := t) (by simp [hc])
    refine h.of_moved (t := t) (i := i) hi ?_ fun u hu => ⟨rfl, ?_, Config.goto_ne hu _⟩
    · show Φ i (((c.setOwner m none).goto t (.lock m k)).held t) _
      rw [Config.goto_held, Config.held_drop ho, if_pos rfl]
      show Φ i _ (((c.setOwner m none).goto t (.lock m k)).code t)
      rw [Config.goto_self]
      exact hΦ.wait ho (hc ▸ hk)
    · show ((c.setOwner m none).goto t (.lock m k)).held u = _
      rw [Config.goto_held, Config.held_drop ho, if_neg hu]
  | @act t w r f sig k ws hp hc hw =>
    obtain ⟨i, hi, hk⟩ := h.exists_op (t := t) (by simp [hc])
    refine h.of_moved (t := t) (i := i) hi ?_ fun u hu => ⟨rfl, rfl, Config.goto_ne hu _⟩
    show Φ i (c.held t) ((c.goto t (k c.shared)).code t)
    rw [Config.goto_self]
    exact hΦ.act (hc ▸ hk) (hg r f sig k hc)

/-- **Properties of code hold along every run** whose regions all run where `G` allows. -/
theorem Closed.inv {G : ρ → σ → Prop} {Φ : ι → Set μ → Cmd σ μ κ ρ → Prop} (hΦ : Closed S G Φ)
    {s : σ} {ls : List (Label κ ι τ)} (hg : Runs.Along (step S) (Guard G) (Config.init s) ls)
    (hr : Runs.run (step S) (Config.init s) ls = some c) : CodeInv Φ c :=
  Runs.run_inv (fun _ _ _ h hg hs => CodeInv.step hΦ h hg hs) (codeInv_init Φ s) hg hr

/-! ### What holds at every point of code -/

/-- `A H k` holds at every point of the code, of what is left `k` and the mutexes `H` held there.
Regions are followed from the shared states `G` allows. -/
def Each (A : Set μ → Cmd σ μ κ ρ → Prop) (G : ρ → σ → Prop) : Set μ → Cmd σ μ κ ρ → Prop
  | H, .done => A H .done
  | H, .lock m k => A H (.lock m k) ∧ Each A G (insert m H) k
  | H, .unlock m k => A H (.unlock m k) ∧ Each A G (H \ {m}) k
  | H, .act r f sig k => A H (.act r f sig k) ∧ ∀ s, G r s → Each A G H (k s)
  | H, .wait v m k => A H (.wait v m k) ∧ A (H \ {m}) (.lock m k) ∧ Each A G (insert m (H \ {m})) k

section Each

variable {A : Set μ → Cmd σ μ κ ρ → Prop} {B : ι → Set μ → Cmd σ μ κ ρ → Prop} {G : ρ → σ → Prop}

theorem Each.here {H : Set μ} {k : Cmd σ μ κ ρ} (h : Each A G H k) : A H k := by
  cases k with
  | done => exact h
  | _ => exact h.1

/-- A mutex given back is not held afterwards. -/
theorem Each.unlock {H : Set μ} {m : μ} {k : Cmd σ μ κ ρ} (hm : m ∉ H)
    (hA : A (insert m H) (.unlock m k)) (h : Each A G H k) :
    Each A G (insert m H) (.unlock m k) := by
  refine ⟨hA, ?_⟩
  rwa [Set.insert_sdiff_self_of_notMem hm]

theorem each_closed (hdone : ∀ i H, B i H .done → H = ∅) (h : ∀ i, Each (B i) G ∅ (S.prog i)) :
    Closed S G fun i => Each (B i) G where
  start := h
  done h := hdone _ _ h
  lock h := h.2
  unlock h := h.2
  act h hG := h.2 _ hG
  wait _ h := h.2

/-- A thread with code left is at a point of the operation it has begun. -/
theorem CodeInv.here (h : CodeInv (fun i => Each (B i) G) c) {t : τ} (hc : c.code t ≠ .done) :
    ∃ i, c.op t = some i ∧ B i (c.held t) (c.code t) := by
  obtain ⟨i, hi, hk⟩ := h.exists_op hc
  exact ⟨i, hi, hk.here⟩

end Each

/-! ### Who has begun what -/

/-- Threads have begun only operations that `Q` allows them, if that is so at the beginning. -/
theorem begun_of_step {Q : τ → ι → Prop} (hmay : ∀ t i s, S.may t i s = true → Q t i)
    {l : Label κ ι τ} (hs : step S c l = some c') (h : ∀ t, ∀ i ∈ c.op t, Q t i) :
    ∀ t, ∀ i ∈ c'.op t, Q t i := by
  cases fires_of_step hs with
  | @start u j _ _ hm =>
    intro t i hi
    by_cases htu : t = u
    · subst htu
      have : j = i := by simpa using hi
      exact this ▸ hmay t j _ hm
    · exact h t i (by simpa [htu] using hi)
  | spurious | lock | unlock | wait | act => exact h

end Msm7x27a.Threads
