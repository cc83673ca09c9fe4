import Msm7x27a.Lib.Threads

/-!
# Rely and guarantee for one thread

One thread is followed through its code while the others change the shared state.  What the others
may do while the thread holds the mutexes `H` is the *rely* relation of `H`; `Safe` is the
condition on code, mutexes and shared state from which the thread, whatever the others do within
the rely, runs every region in a state with `Spec.region`, parks only in a state with `Spec.park`,
and ends only in a state with `Spec.post`.

`Spec.allow` and `Spec.wake` are what may be assumed: the state in which the thread runs a region,
and the state in which it is woken.  `Safe.inv` is the rule: if the steps of the others stay within
the rely, the thread is safe in every reachable configuration.
-/

set_option linter.unusedSectionVars false

namespace Msm7x27a.Threads

variable {σ μ κ ρ ι τ : Type} [DecidableEq μ] [DecidableEq κ] [DecidableEq τ]

/-- The assertions of a rely and guarantee argument about one thread. -/
structure Spec (σ μ ρ : Type) where
  /-- What the others may do while the thread holds these mutexes. -/
  rely : Set μ → σ → σ → Prop
  /-- Assumed where the thread runs the region. -/
  allow : ρ → σ → Prop
  /-- Assumed where the thread is woken. -/
  wake : σ → Prop
  /-- Shown where the thread runs the region. -/
  region : ρ → σ → Prop
  /-- Shown where the thread parks. -/
  park : σ → Prop
  /-- Shown where the thread ends an operation, and assumed where it begins the next. -/
  post : σ → Prop
  refl : ∀ H s, rely H s s
  trans : ∀ H s s' s'', rely H s s' → rely H s' s'' → rely H s s''

/-- The thread meets the assertions from here on, whatever the others do within the rely. -/
def Safe (A : Spec σ μ ρ) : Set μ → Cmd σ μ κ ρ → σ → Prop
  | H, .done, s => ∀ s', A.rely H s s' → A.post s'
  | H, .lock m k, s => ∀ s', A.rely H s s' → Safe A (insert m H) k s'
  | H, .unlock m k, s => ∀ s', A.rely H s s' → Safe A (H \ {m}) k s'
  | H, .act r f _ k, s => ∀ s', A.rely H s s' → A.allow r s' →
      A.region r s' ∧ Safe A H (k s') (f s')
  | H, .wait _ m k, s => ∀ s', A.rely H s s' →
      A.park s' ∧ ∀ s'', A.rely (H \ {m}) s' s'' → A.wake s'' →
        ∀ s₃, A.rely (H \ {m}) s'' s₃ → Safe A (insert m (H \ {m})) k s₃

theorem Safe.rely {A : Spec σ μ ρ} {H : Set μ} {k : Cmd σ μ κ ρ} {s s' : σ} (h : Safe A H k s)
    (hr : A.rely H s s') : Safe A H k s' := by
  cases k <;> exact fun s'' hr' => h s'' (A.trans _ _ _ _ hr hr')

/-- A parked thread: safe once it is woken, whenever that is. -/
def SafeParked (A : Spec σ μ ρ) (H : Set μ) (k : Cmd σ μ κ ρ) (s : σ) : Prop :=
  ∀ s', A.rely H s s' → A.wake s' → Safe A H k s'

/-- The thread `a` is safe in the configuration. -/
def SafeAt (A : Spec σ μ ρ) (a : τ) (c : Config σ μ κ ρ ι τ) : Prop :=
  (¬ c.Parked a → Safe A (c.held a) (c.code a) c.shared) ∧
  (c.Parked a → SafeParked A (c.held a) (c.code a) c.shared)

/-- What is asked of a step for the thread `a` to stay safe: its regions run where `allow` says,
it is woken where `wake` says, and the others stay within the rely. -/
structure StepOk (A : Spec σ μ ρ) (a : τ) (c : Config σ μ κ ρ ι τ) (l : Label κ ι τ) : Prop where
  allow : ∀ w r f sig k, l = .step a w → c.code a = .act r f sig k → A.allow r c.shared
  wake : ∀ t r f sig k v, l = .step t (some a) → c.code t = .act r f sig k →
    sig c.shared = some v → c.Parked a → A.wake (f c.shared)
  spurious : ∀ v, l = .spurious v a → A.wake c.shared
  rely : ∀ t w r f sig k, t ≠ a → l = .step t w → ¬ c.Parked t → c.code t = .act r f sig k →
    A.rely (c.held a) c.shared (f c.shared)

variable {S : System σ μ κ ρ ι τ} {A : Spec σ μ ρ} {a : τ} {c c' : Config σ μ κ ρ ι τ}

/-- What the others do within the rely leaves the thread safe, while it stays where it is. -/
theorem SafeAt.of_rely (h : SafeAt A a c) (hcode : c'.code a = c.code a)
    (hheld : c'.held a = c.held a) (hpark : c'.Parked a ↔ c.Parked a)
    (hr : A.rely (c.held a) c.shared c'.shared) : SafeAt A a c' := by
  constructor
  · intro hp
    rw [hcode, hheld]
    exact (h.1 fun e => hp (hpark.2 e)).rely hr
  · intro hp s' hr' hw
    rw [hcode, hheld]
    rw [hheld] at hr'
    exact h.2 (hpark.1 hp) s' (A.trans _ _ _ _ hr hr') hw

/-- A woken thread is safe. -/
theorem SafeAt.of_woken (h : SafeAt A a c) (hp : c.Parked a) (hcode : c'.code a = c.code a)
    (hheld : c'.held a = c.held a) (hnp : ¬ c'.Parked a)
    (hr : A.rely (c.held a) c.shared c'.shared) (hw : A.wake c'.shared) : SafeAt A a c' := by
  refine ⟨fun _ => ?_, fun e => absurd e hnp⟩
  rw [hcode, hheld]
  exact h.2 hp _ hr hw

/-- A thread that moved and is not parked. -/
theorem SafeAt.of_safe (hnp : ¬ c.Parked a) (h : Safe A (c.held a) (c.code a) c.shared) :
    SafeAt A a c := ⟨fun _ => h, fun e => absurd e hnp⟩

/-- The code of a thread that is safe and not parked. -/
theorem SafeAt.of_code (h : SafeAt A a c) (hnp : ¬ c.Parked a) {k : Cmd σ μ κ ρ} (hc : c.code a = k) :
    Safe A (c.held a) k c.shared := hc ▸ h.1 hnp

theorem SafeAt.step {G : ρ → σ → Prop} {Φ : ι → Set μ → Cmd σ μ κ ρ → Prop} (hΦ : Closed S G Φ)
    (hci : CodeInv Φ c) (hpo : ParkedOnce c)
    (hprog : ∀ i s, A.post s → S.may a i s = true → Safe A ∅ (S.prog i) s)
    (h : SafeAt A a c) {l : Label κ ι τ} (hok : StepOk A a c l) (hs : step S c l = some c') :
    SafeAt A a c' := by
  cases fires_of_step hs with
  | @start t i hp hc hm =>
    by_cases hta : t = a
    · subst hta
      refine .of_safe hp ?_
      have hh : c.held t = ∅ := hci.held_of_done hΦ hc
      have hpost : A.post c.shared := h.of_code hp hc _ (A.refl _ _)
      show Safe A (c.held t) ((c.goto t (S.prog i)).code t) c.shared
      rw [hh, Config.goto_self]
      exact hprog i _ hpost hm
    · exact h.of_rely (Config.goto_ne (Ne.symm hta) _) rfl Iff.rfl (A.refl _ _)
  | @spurious v t hv =>
    have hmem := mem_map_snd_erase hpo hv a
    by_cases hta : a = t
    · subst hta
      have hp : c.Parked a := List.mem_map_of_mem (f := Prod.snd) hv
      exact h.of_woken hp rfl rfl (fun e => (hmem.1 e).2 rfl) (A.refl _ _) (hok.spurious v rfl)
    · exact h.of_rely rfl rfl ⟨fun e => (hmem.1 e).1, fun e => hmem.2 ⟨e, hta⟩⟩ (A.refl _ _)
  | @lock t w m k hp hc ho =>
    have hheld := Config.held_take (t := t) ho a
    by_cases hta : a = t
    · subst hta
      refine .of_safe hp ?_
      rw [Config.goto_self, Config.goto_held, hheld, if_pos rfl]
      exact h.of_code hp hc _ (A.refl _ _)
    · rw [if_neg hta] at hheld
      exact h.of_rely (Config.goto_ne hta _) hheld Iff.rfl (A.refl _ _)
  | @unlock t w m k hp hc ho =>
    have hheld := Config.held_drop (t := t) ho a
    by_cases hta : a = t
    · subst hta
      refine .of_safe hp ?_
      rw [Config.goto_self, Config.goto_held, hheld, if_pos rfl]
      exact h.of_code hp hc _ (A.refl _ _)
    · rw [if_neg hta] at hheld
      exact h.of_rely (Config.goto_ne hta _) hheld Iff.rfl (A.refl _ _)
  | @wait t w v m k hp hc ho =>
    have hheld := Config.held_drop (t := t) ho a
    by_cases hta : a = t
    · subst hta
      rw [if_pos rfl] at hheld
      have hw := (h.of_code hp hc _ (A.refl _ _)).2
      refine ⟨fun e => absurd (List.mem_cons_self ..) e, fun _ s' hr hwake => ?_⟩
      show Safe A (((c.setOwner m none).goto a (.lock m k)).held a)
        (((c.setOwner m none).goto a (.lock m k)).code a) s'
      rw [Config.goto_self, Config.goto_held, hheld]
      change A.rely (((c.setOwner m none).goto a (.lock m k)).held a) c.shared s' at hr
      rw [Config.goto_held, hheld] at hr
      exact fun s'' hr' => hw s' hr hwake s'' hr'
    · rw [if_neg hta] at hheld
      refine h.of_rely (Config.goto_ne hta _) hheld ?_ (A.refl _ _)
      exact ⟨fun e => (List.mem_cons.1 e).resolve_left hta, fun e => List.mem_cons_of_mem _ e⟩
  | @act t w r f sig k ws hp hc hw =>
    by_cases hta : a = t
    · subst hta
      have hnext := (h.of_code hp hc _ (A.refl _ _) (hok.allow w r f sig k rfl hc)).2
      have hnp : a ∉ ws.map Prod.snd := fun e => hp ((hw.sublist.map _).subset e)
      refine .of_safe hnp ?_
      show Safe A (c.held a) ((c.goto a (k c.shared)).code a) (f c.shared)
      rw [Config.goto_self]
      exact hnext
    · have hr := hok.rely t w r f sig k (Ne.symm hta) rfl hp hc
      have hcode : (c.goto t (k c.shared)).code a = c.code a := Config.goto_ne hta _
      generalize hsig : sig c.shared = o at hw
      cases hw with
      | silent | lost => exact h.of_rely hcode rfl Iff.rfl hr
      | @wakes v u hv =>
        have hmem := mem_map_snd_erase hpo hv a
        by_cases hau : a = u
        · subst hau
          have hpa : c.Parked a := List.mem_map_of_mem (f := Prod.snd) hv
          exact h.of_woken hpa hcode rfl (fun e => (hmem.1 e).2 rfl) hr
            (hok.wake t r f sig k v rfl hc hsig hpa)
        · exact h.of_rely hcode rfl ⟨fun e => (hmem.1 e).1, fun e => hmem.2 ⟨e, hau⟩⟩ hr

/-- At the start the thread is safe, if the shared state is one it may begin an operation in. -/
theorem safeAt_init {s : σ} (h : ∀ s', A.rely ∅ s s' → A.post s') :
    SafeAt A a (Config.init s : Config σ μ κ ρ ι τ) := by
  refine .of_safe (by simp [Config.Parked, Config.init]) ?_
  have : (Config.init s : Config σ μ κ ρ ι τ).held a = ∅ := by
    ext m; simp [Config.held, Config.init]
  rw [this]
  exact h

/-- A safe thread runs its region in a state with the region's assertion. -/
theorem SafeAt.region (h : SafeAt A a c) (hp : ¬ c.Parked a) {r : ρ} {f : σ → σ}
    {sig : σ → Option κ} {k : σ → Cmd σ μ κ ρ} (hc : c.code a = .act r f sig k)
    (ha : A.allow r c.shared) : A.region r c.shared := by
  have := h.1 hp
  rw [hc] at this
  exact (this _ (A.refl _ _) ha).1

/-- The condition on a step that the thread `a`, if it is woken, is woken in a state with `W`. -/
def OnWake (W : σ → Prop) (a : τ) (c : Config σ μ κ ρ ι τ) : Label κ ι τ → Prop
  | .spurious _ t => t = a → W c.shared
  | .step t w => w = some a → c.Parked a →
      ∀ r f sig k, c.code t = .act r f sig k → (sig c.shared).isSome → W (f c.shared)
  | _ => True

instance decidableOnWake (W : σ → Prop) [DecidablePred W] (a : τ) (c : Config σ μ κ ρ ι τ) :
    ∀ l, Decidable (OnWake W a c l)
  | .start .. => .isTrue trivial
  | .spurious _ t => inferInstanceAs (Decidable (t = a → W c.shared))
  | .step t w =>
    match h : c.code t with
    | .act r f sig k =>
      decidable_of_iff (w = some a → c.Parked a → (sig c.shared).isSome → W (f c.shared))
        ⟨fun hW e hp _ _ _ _ e' => by rw [h] at e'; cases e'; exact hW e hp,
          fun hW e hp => hW e hp r f sig k h⟩
    | .done | .lock .. | .unlock .. | .wait .. =>
      .isTrue fun _ _ _ _ _ _ e => by rw [h] at e; cases e

/-! ### Code that keeps an assertion -/

/-- The code runs its next region wherever `P` holds, and keeps `P`. -/
def Keeps (A : Spec σ μ ρ) (P : σ → Prop) (_ : Set μ) : Cmd σ μ κ ρ → Prop
  | .act r f _ _ => ∀ s, P s → A.region r s ∧ P (f s)
  | .wait .. => False
  | _ => True

/-- Code that does not park and keeps an assertion, which the others keep too and which is enough at
the end, is safe. -/
theorem Safe.of_keeps {P : σ → Prop} (hrely : ∀ H s s', A.rely H s s' → P s → P s')
    (hpost : ∀ s, P s → A.post s) {H : Set μ} {k : Cmd σ μ κ ρ}
    (hk : Each (Keeps A P) (fun _ s => P s) H k) {s : σ} (hs : P s) : Safe A H k s := by
  induction k generalizing H s with
  | done => exact fun s' hr => hpost _ (hrely _ _ _ hr hs)
  | lock m k ih => exact fun s' hr => ih hk.2 (hrely _ _ _ hr hs)
  | unlock m k ih => exact fun s' hr => ih hk.2 (hrely _ _ _ hr hs)
  | act r f sig k ih =>
    intro s' hr _
    have hs' := hrely _ _ _ hr hs
    obtain ⟨hreg, hf⟩ := hk.1 s' hs'
    exact ⟨hreg, ih s' (hk.2 s' hs') hf⟩
  | wait v m k => exact absurd hk.1 id

end Msm7x27a.Threads
