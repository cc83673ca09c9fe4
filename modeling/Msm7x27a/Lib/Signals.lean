import Msm7x27a.Lib.Threads

/-!
# Wakeups of one thread

A thread `a` parks on a condition variable `v` while `P` holds of the shared state, and the others
are to signal `v` when they make `P` false.  Some regions, those of `Sig`, signal.  The code of the
others is *polite* when each region that makes `P` false is one of them, or has one to come
(`Owes`).  If `a` parks only where `P` holds and the regions of `Sig` do signal while it is parked,
then whenever `a` is parked either `P` holds or a thread still owes a signal (`Told.step`), and when
the others have nothing left to run no wakeup has been lost (`Told.quiet`).
-/

set_option linter.unusedSectionVars false

namespace Msm7x27a.Threads

variable {σ μ κ ρ ι τ : Type} [DecidableEq μ] [DecidableEq κ] [DecidableEq τ]

/-- A region of `Sig` is still to run, whatever the regions before it find. -/
def Owes (Sig : ρ → Prop) : Cmd σ μ κ ρ → Prop
  | .done => False
  | .lock _ k | .unlock _ k | .wait _ _ k => Owes Sig k
  | .act r _ _ k => Sig r ∨ ∀ s, Owes Sig (k s)

/-- The code does not park, and where its next region makes `P` false a signal is given or owed. -/
def Polite (P : σ → Prop) (Sig : ρ → Prop) : Cmd σ μ κ ρ → Prop
  | .wait .. => False
  | .act r f _ k => ∀ s, P s → P (f s) ∨ Sig r ∨ Owes Sig (k s)
  | _ => True

/-- Nobody but `a` is parked, and it only while `P` holds or somebody else owes a signal. -/
structure Told (P : σ → Prop) (Sig : ρ → Prop) (v : κ) (a : τ) (c : Config σ μ κ ρ ι τ) : Prop where
  only : c.waiters = [] ∨ c.waiters = [(v, a)]
  told : c.Parked a → P c.shared ∨ ∃ u, u ≠ a ∧ Owes Sig (c.code u)

variable {S : System σ μ κ ρ ι τ} {c c' : Config σ μ κ ρ ι τ} {P : σ → Prop} {Sig : ρ → Prop} {v : κ}
  {a : τ}

theorem told_init (s : σ) : Told P Sig v a (Config.init s : Config σ μ κ ρ ι τ) where
  only := .inl rfl
  told h := by simp [Config.Parked, Config.init] at h

/-- **No wakeup is lost.** -/
theorem Told.quiet (h : Told P Sig v a c) (hp : c.Parked a) (hd : ∀ u, u ≠ a → c.code u = .done) :
    P c.shared := by
  rcases h.told hp with hP | ⟨u, hu, ho⟩
  · exact hP
  · rw [hd u hu] at ho
    exact absurd ho id

/-- A thread that moves without running a region still owes what it owed. -/
theorem Told.of_moved (h : Told P Sig v a c) (hw : c'.waiters = c.waiters)
    (hs : c'.shared = c.shared) (ho : ∀ u, u ≠ a → Owes Sig (c.code u) → Owes Sig (c'.code u)) :
    Told P Sig v a c' := by
  refine ⟨by rw [hw]; exact h.only, fun hp => ?_⟩
  rw [hs]
  rcases h.told (by rwa [Config.Parked, ← hw]) with hP | ⟨u, hu, hou⟩
  · exact .inl hP
  · exact .inr ⟨u, hu, ho u hu hou⟩

/-- The others owe after a step of `t` what they owed, if `t` does. -/
theorem owes_goto {t : τ} {k : Cmd σ μ κ ρ} (hk : t ≠ a → Owes Sig (c.code t) → Owes Sig k) (u : τ)
    (hu : u ≠ a) (h : Owes Sig (c.code u)) : Owes Sig ((c.goto t k).code u) := by
  by_cases hut : u = t
  · subst hut
    rw [Config.goto_self]
    exact hk hu h
  · rwa [Config.goto_ne hut]

/-- Who is woken or lost, nobody but `a` is parked afterwards. -/
theorem Woken.only {ws ws' : List (κ × τ)} {o : Option κ} {w : Option τ} (hw : Woken ws o w ws')
    (h : ws = [] ∨ ws = [(v, a)]) : ws' = [] ∨ ws' = [(v, a)] := by
  rcases h with rfl | rfl
  · exact .inl (List.sublist_nil.1 hw.sublist)
  · exact List.sublist_singleton.1 hw.sublist

/-- A signal wakes `a`. -/
theorem Woken.wakes_only {ws' : List (κ × τ)} {w : Option τ} (hw : Woken [(v, a)] (some v) w ws') :
    ws' = [] := by
  cases hw with
  | lost h => exact absurd rfl (h _ (List.mem_singleton_self _))
  | wakes hu =>
    obtain rfl : _ = a := by simpa using hu
    simp

theorem Told.step (h : Told P Sig v a c) (hpolite : ∀ u, u ≠ a → Polite P Sig (c.code u))
    (hpark : ∀ w m k, c.code a = .wait w m k → w = v ∧ P c.shared) {l : Label κ ι τ}
    (hsig : ∀ t w r f sig k, t ≠ a → l = .step t w → c.code t = .act r f sig k → Sig r →
      c.Parked a → sig c.shared = some v)
    (hs : step S c l = some c') : Told P Sig v a c' := by
  cases fires_of_step hs with
  | @start t i hp hc _ =>
    refine h.of_moved rfl rfl (owes_goto fun _ ho => ?_)
    rw [hc] at ho
    exact absurd ho id
  | @spurious w t hw =>
    have hnil : c.waiters.erase (w, t) = [] := by
      rcases h.only with e | e
      · simp [e] at hw
      · rw [e] at hw ⊢
        rw [List.mem_singleton.1 hw, List.erase_cons_head]
    exact ⟨.inl hnil, fun hp => by simp [Config.Parked, hnil] at hp⟩
  | @lock t _ _ _ _ hc _ =>
    refine h.of_moved rfl rfl (owes_goto fun _ ho => ?_)
    rw [hc] at ho
    exact ho
  | @unlock t _ _ _ _ hc _ =>
    refine h.of_moved rfl rfl (owes_goto fun _ ho => ?_)
    rw [hc] at ho
    exact ho
  | @wait t _ w m k hp hc _ =>
    have hta : t = a := by
      by_contra hta
      have := hpolite t hta
      rwa [hc] at this
    subst hta
    obtain ⟨rfl, hP⟩ := hpark _ _ _ hc
    refine ⟨.inr ?_, fun _ => .inl hP⟩
    show (w, t) :: c.waiters = _
    rcases h.only with e | e
    · rw [e]
    · simp [Config.Parked, e] at hp
  | @act t w r f sig k ws hp hc hw =>
    refine ⟨hw.only h.only, fun hpa => ?_⟩
    have hpark : c.Parked a := (hw.sublist.map Prod.snd).subset hpa
    have hta : t ≠ a := fun e => hp (e ▸ hpark)
    -- a region of `Sig` would have woken `a`
    have hr : ¬ Sig r := by
      intro hr
      rw [hsig t w r f sig k hta rfl hc hr hpark] at hw
      have honly : c.waiters = [(v, a)] :=
        h.only.resolve_left fun e => by simp [Config.Parked, e] at hpark
      rw [honly] at hw
      simp [Config.Parked, hw.wakes_only] at hpa
    have hpol := hpolite t hta
    rw [hc] at hpol
    have howes : Owes Sig (k c.shared) → ∃ u, u ≠ a ∧ Owes Sig ((c.goto t (k c.shared)).code u) :=
      fun ho => ⟨t, hta, by rwa [Config.goto_self]⟩
    rcases h.told hpark with hP | ⟨u, hu, ho⟩
    · rcases hpol c.shared hP with hP' | hr' | ho
      · exact .inl hP'
      · exact absurd hr' hr
      · exact .inr (howes ho)
    · refine .inr ⟨u, hu, owes_goto (fun _ ho => ?_) u hu ho⟩
      rw [hc] at ho
      exact ho.resolve_left hr _

end Msm7x27a.Threads
