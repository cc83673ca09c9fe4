import Msm7x27a.Power.Boost
import Msm7x27a.Lib.Resource

/-!
# The descriptors of the power HAL

`descriptors_kept`: however hints and other code interleave, at most one boost pulse descriptor is
open, it is the one in `boostpulse_fd`, no other descriptor of the HAL outlasts the lock, and the HAL
never closes a descriptor of other code.

A hint writes without the lock.  `hints_delivered`: if the descriptor is closed only while no other
thread is about to use it, then every hint goes to a boost pulse, and a descriptor is closed only after
a write to it has failed.
-/

namespace Msm7x27a.Power

open Msm7x27a.Descriptors (Kernel valueFor_opened valueFor_opened_of_some)
open Msm7x27a.Threads
open Msm7x27a.Runs

/-! ### What is kept -/

/-- A write to the descriptor has failed since it was opened. -/
def RefusedSince (fd : Int) : List Event → Prop
  | [] => False
  | .refused fd' :: log => fd' = fd ∨ RefusedSince fd log
  | .opened fd' _ :: log => (fd' : Int) ≠ fd ∧ RefusedSince fd log
  | _ :: log => RefusedSince fd log

/-- Boost pulses are closed only after a write to them has failed. -/
def Justified : List Event → Prop
  | [] => True
  | .closed fd (.boostpulse _) :: log => RefusedSince fd log ∧ Justified log
  | _ :: log => Justified log

/-- Hints went to boost pulses only. -/
def Delivered (log : List Event) : Prop :=
  ∀ file duration, .hinted file duration ∈ log → ∃ governor, file = .boostpulse governor

/-- Whatever the threads do, the open boost pulse is the one in `boostpulse_fd`.  `calm` says that what
a thread is about to use is not closed. -/
structure Inv (calm : Prop) (s : State) : Prop where
  only : ∀ fd governor, s.files.valueFor fd = some (.boostpulse governor) → s.boostpulse_fd = fd
  held : s.boostpulse_fd = -1 ∨
    ∃ fd governor, s.boostpulse_fd = (fd : ℕ) ∧ s.files.valueFor fd = some (.boostpulse governor)
  own : ∀ fd, .closed fd .foreign ∉ s.log
  justified : calm → Justified s.log
  delivered : calm → Delivered s.log

/-- Beside boost pulses and foreign descriptors at most `temp` is open. -/
def Temps (temp : Option (ℕ × File)) (s : State) : Prop :=
  ∀ fd file, s.files.valueFor fd = some file →
    file = .foreign ∨ (∃ governor, file = .boostpulse governor) ∨ temp = some (fd, file)

/-- What the HAL has is the same; a failed write is not forgotten. -/
structure SameOwn (s s' : State) : Prop where
  boostpulse_fd : s'.boostpulse_fd = s.boostpulse_fd
  governor : s'.governor = s.governor
  files : ∀ fd file, file ≠ .foreign →
    (s'.files.valueFor fd = some file ↔ s.files.valueFor fd = some file)
  refused : ∀ fd, RefusedSince fd s.log → RefusedSince fd s'.log

/-- While it is open, `boostpulse_fd` is the same, and a failed write is not forgotten. -/
def SameFd (s s' : State) : Prop :=
  0 ≤ s.boostpulse_fd → s'.boostpulse_fd = s.boostpulse_fd ∧
    ∀ fd, RefusedSince fd s.log → RefusedSince fd s'.log

/-- The thread is about to use `boostpulse_fd` without the lock, or to close it. -/
def InUse : Code → Bool
  | .act .check .. | .act .load .. | .act .write .. => true
  | .lock _ (.act .closeBoost ..) => true
  | _ => false

variable {calm : Prop} {K : Kernel} {o : Outcomes} {s s' s'' : State} {fd : ℕ} {file : File}
  {temp : Option (ℕ × File)}

theorem SameOwn.refl (s : State) : SameOwn s s := ⟨rfl, rfl, fun _ _ _ => Iff.rfl, fun _ h => h⟩

theorem SameOwn.trans (h : SameOwn s s') (h' : SameOwn s' s'') : SameOwn s s'' where
  boostpulse_fd := h'.boostpulse_fd.trans h.boostpulse_fd
  governor := h'.governor.trans h.governor
  files fd file hf := (h'.files fd file hf).trans (h.files fd file hf)
  refused fd hr := h'.refused fd (h.refused fd hr)

theorem SameFd.trans (h : SameFd s s') (h' : SameFd s' s'') : SameFd s s'' := by
  intro hopen
  obtain ⟨hfd, hrefused⟩ := h hopen
  obtain ⟨hfd', hrefused'⟩ := h' (hfd ▸ hopen)
  exact ⟨hfd'.trans hfd, fun fd hr => hrefused' fd (hrefused fd hr)⟩

theorem SameOwn.sameFd (h : SameOwn s s') : SameFd s s' := fun _ => ⟨h.boostpulse_fd, h.refused⟩

theorem Temps.same (h : Temps temp s) (hs : SameOwn s s') : Temps temp s' := by
  intro fd file hf
  by_cases hforeign : file = .foreign
  · exact .inl hforeign
  · exact h fd file ((hs.files fd file hforeign).1 hf)

/-! ### One operation on the descriptors -/

/-- A file that the HAL opens and closes again. -/
def Temporary (file : File) : Prop := file ≠ .foreign ∧ ∀ governor, file ≠ .boostpulse governor

theorem sameOwn_openForeign : SameOwn s (s.openFile K .foreign) where
  boostpulse_fd := rfl
  governor := rfl
  refused _ h := h
  files fd file hfile := by
    constructor
    · intro h
      rw [State.openFile, valueFor_opened] at h
      split at h
      · exact absurd (Option.some.inj h).symm hfile
      · exact h
    · exact valueFor_opened_of_some

/-- A file that is no boost pulse is opened. -/
theorem Inv.openFile (h : Inv calm s) (hfile : ∀ governor, file ≠ .boostpulse governor) :
    Inv calm (s.openFile K file) where
  only fd governor hboost := by
    rw [State.openFile, valueFor_opened] at hboost
    split at hboost
    · exact absurd (Option.some.inj hboost) (hfile governor)
    · exact h.only fd governor hboost
  held := h.held.imp_right fun ⟨fd, governor, hfd, hboost⟩ =>
    ⟨fd, governor, hfd, valueFor_opened_of_some hboost⟩
  own := h.own
  justified := h.justified
  delivered := h.delivered

theorem close_eq (h : s.files.valueFor fd = some file) : s.close fd =
    { s with files := s.files.removeItem fd, log := .closed fd file :: s.log } := by
  unfold State.close
  rw [h]

/-- A file that is open for a while is closed. -/
theorem Inv.close (h : Inv calm s) (hopen : s.files.valueFor fd = some file) (hfile : Temporary file) :
    Inv calm (s.close fd) := by
  rw [close_eq hopen]
  refine ⟨?_, ?_, ?_, ?_, ?_⟩
  · intro fd' governor hboost
    change (s.files.removeItem fd).valueFor fd' = _ at hboost
    rw [KeyedVector.valueFor_removeItem] at hboost
    split at hboost
    · cases hboost
    · exact h.only fd' governor hboost
  · refine h.held.imp_right ?_
    rintro ⟨fd', governor, hfd, hboost⟩
    refine ⟨fd', governor, hfd, ?_⟩
    change (s.files.removeItem fd).valueFor fd' = _
    rw [KeyedVector.valueFor_removeItem, if_neg, hboost]
    rintro rfl
    exact hfile.2 governor (Option.some.inj (hopen.symm.trans hboost))
  · intro fd' hmem
    rcases List.mem_cons.1 hmem with e | hmem
    · injection e with _ e
      exact hfile.1 e.symm
    · exact h.own fd' hmem
  · intro hcalm
    cases file with
    | boostpulse governor => exact absurd rfl (hfile.2 governor)
    | scaling_governor | parameter | foreign => exact h.justified hcalm
  · intro hcalm file' duration hmem
    rcases List.mem_cons.1 hmem with e | hmem
    · cases e
    · exact h.delivered hcalm file' duration hmem

/-- An entry of the log that is neither a hint nor a close. -/
theorem Inv.log (h : Inv calm s) (hfiles : s'.files = s.files) (hfd : s'.boostpulse_fd = s.boostpulse_fd)
    {e : Event} (hlog : s'.log = e :: s.log) (hclosed : ∀ fd file, e ≠ .closed fd file)
    (hhinted : ∀ file duration, e = .hinted file duration → calm → ∃ governor, file = .boostpulse governor) :
    Inv calm s' := by
  refine ⟨?_, ?_, ?_, ?_, ?_⟩
  · rw [hfiles, hfd]
    exact h.only
  · rw [hfiles, hfd]
    exact h.held
  · intro fd hmem
    rw [hlog] at hmem
    rcases List.mem_cons.1 hmem with he | hmem
    · exact hclosed fd .foreign he.symm
    · exact h.own fd hmem
  · intro hcalm
    rw [hlog]
    cases e with
    | closed fd file => exact absurd rfl (hclosed fd file)
    | opened | configured | hinted | refused => exact h.justified hcalm
  · intro hcalm file duration hmem
    rw [hlog] at hmem
    rcases List.mem_cons.1 hmem with he | hmem
    · exact hhinted file duration he.symm hcalm
    · exact h.delivered hcalm file duration hmem

/-! ### Under the lock -/

/-- The protocol of the HAL's lock. -/
def protocol (calm : Prop) : Protocol State Mutex Empty Region where
  mutex := .lock
  inv := Inv calm
  free := Temps none
  guar
    | false, _, s, s' => SameOwn s s'
    | true, r, s, s' => r ≠ .closeBoost → SameFd s s'
  rely
    | true, _, s, s' => SameOwn s s'
    | false, k, s, s' => calm → InUse k = true → SameFd s s'
  refl
    | true, _, s => .refl s
    | false, _, _ => fun _ _ _ => ⟨rfl, fun _ h => h⟩
  trans
    | true, _, _, _, _ => SameOwn.trans
    | false, _, _, _, _ => fun h h' hc hu => (h hc hu).trans (h' hc hu)
  free_of_guar _ _ _ h hfree := hfree.same h

/-- What the thread that has the lock knows of the descriptors. -/
structure Locked (boost : Int) (temp : Option (ℕ × File)) (s : State) : Prop where
  boost : s.boostpulse_fd = boost
  temps : Temps temp s
  present : ∀ fd file, temp = some (fd, file) → s.files.valueFor fd = some file ∧ Temporary file

variable {boost : Int}

theorem Locked.same (h : Locked boost temp s) (hs : SameOwn s s') : Locked boost temp s' where
  boost := hs.boostpulse_fd.trans h.boost
  temps := h.temps.same hs
  present fd file ht :=
    ⟨(hs.files fd file (h.present fd file ht).2.1).2 (h.present fd file ht).1, (h.present fd file ht).2⟩

theorem Locked.openFile (h : Locked boost none s) (hfile : Temporary file) :
    Locked boost (some (s.next K, file)) (s.openFile K file) where
  boost := h.boost
  temps fd file' hf := by
    rw [State.openFile, valueFor_opened] at hf
    split at hf
    next e =>
      rw [e, Option.some.inj hf]
      exact .inr (.inr rfl)
    next => exact (h.temps fd file' hf).imp_right (·.imp_right fun e => nomatch e)
  present fd file' ht := by
    obtain ⟨rfl, rfl⟩ := Prod.mk.inj (Option.some.inj ht)
    exact ⟨valueFor_opened.trans (if_pos rfl), hfile⟩

theorem Locked.close (h : Locked boost (some (fd, file)) s) : Locked boost none (s.close fd) := by
  rw [close_eq (h.present fd file rfl).1]
  refine ⟨h.boost, fun fd' file' hf => ?_, fun _ _ e => nomatch e⟩
  change (s.files.removeItem fd).valueFor fd' = _ at hf
  rw [KeyedVector.valueFor_removeItem] at hf
  split at hf
  next => cases hf
  next hne =>
    refine (h.temps fd' file' hf).imp_right (·.imp_right fun e => ?_)
    exact absurd (Prod.mk.inj (Option.some.inj e)).1.symm hne

theorem sameFd_close : SameFd s (s.close fd) := by
  unfold State.close
  split
  · exact fun _ => ⟨rfl, fun _ h => h⟩
  · exact fun _ => ⟨rfl, fun _ h => h⟩

/-- A file is opened, something is done, and it is closed. -/
theorem proper_temporary (hfile : Temporary file) {f : State → State → State} {k : Code}
    (hf : ∀ s s', Locked boost (some (s.next K, file)) s' → Inv calm s' →
      Inv calm (f s s') ∧ SameFd s' (f s s') ∧ Locked boost (some (s.next K, file)) (f s s'))
    (hk : ∀ s, Locked boost none s → Inv calm s → Proper (protocol calm) true k s)
    (h : Locked boost none s) : Proper (protocol calm) true
      (act .work (fun s => s.openFile K file) fun s => act .work (f s) fun _ =>
        act .work (fun s' => s'.close (s.next K)) fun _ => k) s := by
  intro s₁ hs₁ hinv₁
  have hopen := (h.same hs₁).openFile (K := K) hfile
  refine ⟨hinv₁.openFile hfile.2, fun _ _ => ⟨rfl, fun _ h => h⟩, fun s₂ hs₂ hinv₂ => ?_⟩
  obtain ⟨hinv₃, hsame₃, hlocked₃⟩ := hf s₁ s₂ (hopen.same hs₂) hinv₂
  refine ⟨hinv₃, fun _ => hsame₃, fun s₄ hs₄ hinv₄ => ?_⟩
  have hlocked₄ := hlocked₃.same hs₄
  have hinv₅ := hinv₄.close (hlocked₄.present _ _ rfl).1 hfile
  exact ⟨hinv₅, fun _ => sameFd_close, hk _ hlocked₄.close hinv₅⟩

theorem proper_sysfs_read {k : Bool → Code}
    (hk : ∀ ok s, Locked boost none s → Inv calm s → Proper (protocol calm) true (k ok) s)
    (h : Locked boost none s) (hinv : Inv calm s) :
    Proper (protocol calm) true (sysfs_read K o k) s := by
  unfold sysfs_read
  split
  · have hfile : Temporary .scaling_governor := ⟨nofun, nofun⟩
    refine proper_temporary hfile (fun s s' hlocked hinv' => ?_) (hk _) h
    unfold State.read
    split
    · exact ⟨hinv', fun _ => ⟨rfl, fun _ h => h⟩, hlocked⟩
    · exact ⟨⟨hinv'.1, hinv'.2, hinv'.3, hinv'.4, hinv'.5⟩, fun _ => ⟨rfl, fun _ h => h⟩,
        ⟨hlocked.1, hlocked.2, hlocked.3⟩⟩
  · exact hk _ s h hinv

theorem proper_sysfs_write {governor : Governor} {name value : String} {k : Code}
    (hk : ∀ s, Locked boost none s → Inv calm s → Proper (protocol calm) true k s)
    (h : Locked boost none s) (hinv : Inv calm s) :
    Proper (protocol calm) true (sysfs_write K o governor name value k) s := by
  unfold sysfs_write
  split
  · have hfile : Temporary (.parameter governor name) := ⟨nofun, nofun⟩
    refine proper_temporary hfile (fun s s' hlocked hinv' => ?_) hk h
    unfold State.configure
    split
    · exact ⟨hinv', fun _ => ⟨rfl, fun _ h => h⟩, hlocked⟩
    · exact ⟨hinv'.log rfl rfl rfl nofun nofun, fun _ => ⟨rfl, fun _ h => h⟩,
        ⟨hlocked.1, hlocked.2, hlocked.3⟩⟩
  · exact hk s h hinv

theorem proper_configure_governor {k : Code}
    (hk : ∀ s, Locked boost none s → Inv calm s → Proper (protocol calm) true k s)
    (h : Locked boost none s) : Proper (protocol calm) true (configure_governor K o k) s := by
  intro s₁ hs₁ hinv₁
  refine ⟨hinv₁, fun _ _ => ⟨rfl, fun _ h => h⟩, ?_⟩
  have hwrites : ∀ (governor : Governor) (l : List (String × String)) (s : State),
      Locked boost none s → Inv calm s → Proper (protocol calm) true
        (l.foldr (fun p k => sysfs_write K o governor p.1 p.2 k) k) s := by
    intro governor l
    induction l with
    | nil => exact hk
    | cons p l ih => exact fun s => proper_sysfs_write ih
  dsimp only [id]
  split
  · exact hk _ (h.same hs₁) hinv₁
  · exact hwrites _ _ _ (h.same hs₁) hinv₁

theorem proper_unlock {k : Code} (hk : ∀ s, Inv calm s → Proper (protocol calm) false k s)
    (h : Locked boost none s) : Proper (protocol calm) true (.unlock .lock k) s :=
  ⟨rfl, rfl, fun s' hs hinv => ⟨(h.same hs).temps, hk s' hinv⟩⟩

/-- The boost pulse is opened while none is. -/
theorem openBoost_spec (h : Locked (-1) none s) (hinv : Inv calm s) (opens : Bool) :
    Inv calm (s.openBoost K opens) ∧ SameFd s (s.openBoost K opens) ∧
      ∃ boost, Locked boost none (s.openBoost K opens) := by
  have hsame : ∀ s', SameFd s s' := by
    intro s' hopen
    rw [h.boost] at hopen
    omega
  refine ⟨?_, hsame _, ?_⟩
  · unfold State.openBoost
    split
    · exact hinv
    next governor _ =>
      split
      · refine ⟨?_, ?_, ?_, ?_, ?_⟩
        · intro fd governor' hboost
          change (s.openFile K _).files.valueFor fd = _ at hboost
          rw [State.openFile, valueFor_opened] at hboost
          split at hboost
          next e => exact congrArg Nat.cast e.symm
          next =>
            have := (hinv.only fd governor' hboost).symm.trans h.boost
            omega
        · exact .inr ⟨s.next K, governor, rfl, valueFor_opened.trans (if_pos rfl)⟩
        · intro fd hmem
          rcases List.mem_cons.1 hmem with e | hmem
          · cases e
          · exact hinv.own fd hmem
        · exact hinv.justified
        · intro hcalm file duration hmem
          rcases List.mem_cons.1 hmem with e | hmem
          · cases e
          · exact hinv.delivered hcalm file duration hmem
      · have hfd : s.boostpulse_fd = -1 := h.boost
        exact ⟨hfd ▸ hinv.only, .inl rfl, hinv.own, hinv.justified, hinv.delivered⟩
  · unfold State.openBoost
    split
    · exact ⟨-1, h⟩
    next governor _ =>
      split
      · refine ⟨s.next K, rfl, fun fd file hf => ?_, fun _ _ e => nomatch e⟩
        change (s.openFile K _).files.valueFor fd = _ at hf
        rw [State.openFile, valueFor_opened] at hf
        split at hf
        · exact .inr (.inl ⟨governor, (Option.some.inj hf).symm⟩)
        · exact h.temps fd file hf
      · exact ⟨-1, rfl, h.temps, h.present⟩

/-- A warning is remembered. -/
theorem warn_spec (h : Locked boost none s) (hinv : Inv calm s) (p : Prop) [Decidable p] :
    Inv calm (if p then s.warn else s) ∧ SameFd s (if p then s.warn else s) ∧
      Locked boost none (if p then s.warn else s) := by
  split
  · exact ⟨⟨hinv.1, hinv.2, hinv.3, hinv.4, hinv.5⟩, fun _ => ⟨rfl, fun _ h => h⟩, ⟨h.1, h.2, h.3⟩⟩
  · exact ⟨hinv, fun _ => ⟨rfl, fun _ h => h⟩, h⟩

theorem proper_boostpulse_open {k : Code}
    (hk : ∀ s, Inv calm s → Proper (protocol calm) false k s) (s : State) :
    Proper (protocol calm) false (boostpulse_open K o k) s := by
  refine ⟨rfl, rfl, fun s₁ _ hinv₁ hfree₁ s₂ hs₂ hinv₂ => ?_⟩
  have hlocked : Locked s₂.boostpulse_fd none s₂ := ⟨rfl, Temps.same hfree₁ hs₂, fun _ _ e => nomatch e⟩
  refine ⟨hinv₂, fun _ => (SameOwn.refl s₂).sameFd, ?_⟩
  dsimp only [id]
  split
  next hclosed =>
    -- the descriptor is -1, and the governor is read
    have hboost : s₂.boostpulse_fd = -1 := by
      rcases hinv₂.held with h | ⟨fd, _, h, _⟩
      · exact h
      · omega
    rw [hboost] at hlocked
    refine proper_sysfs_read (fun ok s₃ hlocked₃ hinv₃ => ?_) hlocked hinv₂
    cases ok with
    | false =>
      intro s₄ hs₄ hinv₄
      obtain ⟨hinv₅, hsame₅, hlocked₅⟩ := warn_spec (hlocked₃.same hs₄) hinv₄ True
      rw [if_pos trivial] at hinv₅ hsame₅ hlocked₅
      exact ⟨hinv₅, fun _ => hsame₅, proper_unlock hk hlocked₅⟩
    | true =>
      intro s₄ hs₄ hinv₄
      have hlocked₄ := hlocked₃.same hs₄
      have hstrip : Locked (-1) none s₄.strip := ⟨hlocked₄.1, hlocked₄.2, hlocked₄.3⟩
      refine ⟨⟨hinv₄.1, hinv₄.2, hinv₄.3, hinv₄.4, hinv₄.5⟩, fun _ _ => ⟨rfl, fun _ h => h⟩, ?_⟩
      intro s₅ hs₅ hinv₅
      obtain ⟨hinv₆, hsame₆, boost, hlocked₆⟩ := openBoost_spec (K := K) (hstrip.same hs₅) hinv₅ o.boostOpens
      refine ⟨hinv₆, fun _ => hsame₆, fun s₇ hs₇ hinv₇ => ?_⟩
      obtain ⟨hinv₈, hsame₈, hlocked₈⟩ := warn_spec (hlocked₆.same hs₇) hinv₇ (s₇.boostpulse_fd < 0)
      refine ⟨hinv₈, fun _ => hsame₈, ?_⟩
      dsimp only
      by_cases hpos : 0 < s₇.boostpulse_fd
      · rw [if_pos hpos]
        exact proper_configure_governor (fun s h _ => proper_unlock hk h) hlocked₈
      · rw [if_neg hpos]
        exact proper_unlock hk hlocked₈
  next => exact proper_unlock hk hlocked

/-! ### Without the lock -/

/-- The boost pulse is closed. -/
theorem closeBoost_spec (h : Temps none s) (hinv : Inv calm s)
    (hrefused : calm → 0 ≤ s.boostpulse_fd → RefusedSince s.boostpulse_fd s.log) :
    Inv calm s.closeBoost ∧ Locked (-1) none s.closeBoost := by
  unfold State.closeBoost
  split
  next hopen =>
    rcases hinv.held with e | ⟨fd, governor, hfd, hboost⟩
    · omega
    · rw [hfd, Int.toNat_natCast, close_eq hboost]
      have hgone : ∀ fd' file, (s.files.removeItem fd).valueFor fd' = some file →
          s.files.valueFor fd' = some file ∧ fd' ≠ fd := by
        intro fd' file hf
        rw [KeyedVector.valueFor_removeItem] at hf
        split at hf
        next => cases hf
        next hne => exact ⟨hf, hne⟩
      have hnone : ∀ fd' governor', (s.files.removeItem fd).valueFor fd' ≠ some (.boostpulse governor') := by
        intro fd' governor' hf
        obtain ⟨hf, hne⟩ := hgone fd' _ hf
        have := hinv.only fd' governor' hf
        omega
      refine ⟨⟨fun fd' governor' hf => absurd hf (hnone fd' governor'), .inl rfl, ?_, ?_, ?_⟩, rfl,
        fun fd' file hf => h fd' file (hgone fd' file hf).1, fun _ _ e => nomatch e⟩
      · intro fd' hmem
        rcases List.mem_cons.1 hmem with e | hmem
        · cases e
        · exact hinv.own fd' hmem
      · intro hcalm
        have hr := hrefused hcalm hopen
        rw [hfd] at hr
        exact ⟨hr, hinv.justified hcalm⟩
      · intro hcalm file duration hmem
        rcases List.mem_cons.1 hmem with e | hmem
        · cases e
        · exact hinv.delivered hcalm file duration hmem
  next hclosed =>
    have hfd : s.boostpulse_fd = -1 := by
      rcases hinv.held with e | ⟨fd, _, e, _⟩
      · exact e
      · omega
    exact ⟨⟨hfd ▸ hinv.only, .inl rfl, hinv.own, hinv.justified, hinv.delivered⟩, rfl, h,
      fun _ _ e => nomatch e⟩

/-- The write of a hint, with the descriptor that was loaded. -/
theorem proper_writeHint {data : Int} (hopen : calm → 0 ≤ s.boostpulse_fd) :
    Proper (protocol calm) false (writeHint o data s.boostpulse_fd) s := by
  intro s₁ hs₁ hinv₁
  have hsame : calm → s₁.boostpulse_fd = s.boostpulse_fd := fun hcalm => (hs₁ hcalm rfl (hopen hcalm)).1
  dsimp only
  unfold State.hint
  rcases htarget : s₁.target s.boostpulse_fd o.accepts with - | file
  · refine ⟨hinv₁.log rfl rfl rfl nofun nofun, ⟨rfl, rfl, fun _ _ _ => Iff.rfl, fun _ h => .inr h⟩, ?_⟩
    refine ⟨rfl, rfl, fun s₂ hs₂ hinv₂ hfree₂ s₃ hs₃ hinv₃ => ?_⟩
    have hrefused : calm → 0 ≤ s₃.boostpulse_fd → RefusedSince s₃.boostpulse_fd s₃.log := by
      intro hcalm _
      obtain ⟨hfd, hkept⟩ := hs₂ hcalm rfl ((hsame hcalm).symm ▸ hopen hcalm)
      rw [hs₃.boostpulse_fd, hfd, hsame hcalm]
      exact hs₃.refused _ (hkept _ (.inl rfl))
    obtain ⟨hinv₄, hlocked₄⟩ := closeBoost_spec (Temps.same hfree₂ hs₃) hinv₃ hrefused
    exact ⟨hinv₄, fun hne => absurd rfl hne, proper_unlock (fun _ _ => rfl) hlocked₄⟩
  · refine ⟨hinv₁.log rfl rfl rfl nofun ?_, ⟨rfl, rfl, fun _ _ _ => Iff.rfl, fun _ h => h⟩, rfl⟩
    intro file' duration e hcalm
    injection e with e
    subst e
    -- the descriptor is still the one that was loaded
    unfold State.target at htarget
    rcases hinv₁.held with hnone | ⟨fd, governor, hfd, hboost⟩
    · have := hopen hcalm
      have := hsame hcalm
      omega
    · rw [hsame hcalm] at hfd
      rw [hfd, Int.toNat_natCast, hboost] at htarget
      split at htarget
      · exact ⟨governor, (Option.some.inj htarget).symm⟩
      · cases htarget

theorem proper_cm_power_hint (hint : Hint) (data : Int) (s : State) :
    Proper (protocol calm) false (cm_power_hint K o hint data) s := by
  have hpulse : Proper (protocol calm) false (boostpulse_open K o <| act .check id fun s =>
      if 0 ≤ s.boostpulse_fd then act .load id fun s => writeHint o data s.boostpulse_fd else .done) s := by
    refine proper_boostpulse_open ?_ s
    intro s₁ _ s₂ _ hinv₂
    refine ⟨hinv₂, .refl s₂, ?_⟩
    dsimp only [id]
    split
    next hopen =>
      intro s₃ hs₃ hinv₃
      refine ⟨hinv₃, .refl s₃, proper_writeHint fun hcalm => ?_⟩
      exact (hs₃ hcalm rfl hopen).1.symm ▸ hopen
    next => rfl
  cases hint with
  | interaction | cpuBoost => exact hpulse
  | vsync | other => rfl

theorem log_closeForeign (fd : ℕ) (s : State) : (s.closeForeign fd).log = s.log := by
  unfold State.closeForeign
  split <;> rfl

theorem sameOwn_closeForeign (fd : ℕ) (s : State) : SameOwn s (s.closeForeign fd) := by
  unfold State.closeForeign
  split
  next hforeign =>
    refine ⟨rfl, rfl, fun fd' file hfile => ?_, fun _ h => h⟩
    change (s.files.removeItem fd).valueFor fd' = _ ↔ _
    rw [KeyedVector.valueFor_removeItem]
    split
    next e =>
      subst e
      rw [hforeign]
      exact iff_of_false nofun fun e => hfile (Option.some.inj e).symm
    next => exact Iff.rfl
  next => exact .refl s

/-- What other code does to its descriptors is nothing to the HAL. -/
theorem Inv.sameOwn (h : Inv calm s) (hs : SameOwn s s') (hlog : s'.log = s.log) : Inv calm s' where
  only fd governor hboost := hs.boostpulse_fd.trans
    (h.only fd governor ((hs.files fd (.boostpulse governor) nofun).1 hboost))
  held := by
    rw [hs.boostpulse_fd]
    exact h.held.imp_right fun ⟨fd, governor, hfd, hboost⟩ =>
      ⟨fd, governor, hfd, (hs.files fd (.boostpulse governor) nofun).2 hboost⟩
  own := hlog ▸ h.own
  justified := hlog ▸ h.justified
  delivered := hlog ▸ h.delivered

variable {τ : Type}

theorem proper_prog (i : Request) (s : State) :
    Proper (protocol calm) false ((system K τ).prog i) s := by
  cases i with
  | cm_power_hint hint data o => exact proper_cm_power_hint hint data s
  | openForeign => exact fun s' _ hinv' => ⟨hinv'.openFile nofun, sameOwn_openForeign, rfl⟩
  | closeForeign fd =>
    intro s' _ hinv'
    have hsame := sameOwn_closeForeign fd s'
    exact ⟨hinv'.sameOwn hsame (log_closeForeign fd s'), hsame, rfl⟩

/-! ### Every run -/

variable [DecidableEq τ]

/-- The configurations of the threads that run hints. -/
abbrev Hints (τ : Type) := Config State Mutex Empty Region Request τ

/-- The thread is about to close the descriptor. -/
def AtClose : Code → Bool
  | .act .closeBoost .. => true
  | _ => false

/-- The descriptor is closed only while no other thread is about to use it, or to close it. -/
def Calm (c : Hints τ) : Label Empty Request τ → Prop
  | .step t _ => AtClose (c.code t) = true → ∀ u, u ≠ t → InUse (c.code u) = false
  | _ => True

instance {n : ℕ} (c : Hints (Fin n)) : ∀ l, Decidable (Calm c l)
  | .step t _ => inferInstanceAs (Decidable (AtClose (c.code t) = true →
    ∀ u, u ≠ t → InUse (c.code u) = false))
  | .start .. | .spurious .. => .isTrue trivial

theorem compatible {c : Hints τ} {l : Label Empty Request τ} (h : calm → Calm c l) :
    Compatible (protocol calm) c l := by
  cases l with
  | start | spurious => trivial
  | step t w =>
    intro r f sig k hc hguar u hu
    cases ht : c.holds (protocol calm) t with
    | false =>
      rw [ht] at hguar
      cases c.holds (protocol calm) u with
      | true => exact hguar
      | false => exact fun _ _ => SameOwn.sameFd hguar
    | true =>
      -- only one thread has the lock
      have hnot : c.holds (protocol calm) u = false := by
        refine decide_eq_false fun e => hu ?_
        exact Option.some.inj (e.symm.trans (of_decide_eq_true ht))
      rw [ht] at hguar
      rw [hnot]
      intro hcalm hinuse
      refine hguar fun hclose => ?_
      subst hclose
      have hidle := h hcalm (by rw [hc]; rfl) u hu
      rw [hidle] at hinuse
      cases hinuse

theorem start_valueFor (governor : List Char) (foreign : List ℕ)
    (h : (start governor foreign).files.valueFor fd = some file) : file = .foreign := by
  have hfold : ∀ (l : List ℕ) (v : KeyedVector ℕ File),
      (∀ fd file, v.valueFor fd = some file → file = .foreign) →
      ∀ fd file, (l.foldl (fun v fd => v.add fd .foreign) v).valueFor fd = some file → file = .foreign := by
    intro l
    induction l with
    | nil => exact fun v hv => hv
    | cons n l ih =>
      refine fun v hv => ih _ fun fd file hf => ?_
      rw [KeyedVector.valueFor_add] at hf
      split at hf
      · exact (Option.some.inj hf).symm
      · exact hv fd file hf
  exact hfold foreign .empty (fun _ _ e => nomatch e) fd file h

theorem inv_start (governor : List Char) (foreign : List ℕ) : Inv calm (start governor foreign) where
  only _ _ h := nomatch start_valueFor governor foreign h
  held := .inl rfl
  own _ h := nomatch h
  justified _ := trivial
  delivered _ _ _ h := nomatch h

variable {governor : List Char} {foreign : List ℕ} {c : Hints τ}
  {ls : List (Label Empty Request τ)}

theorem respected_run (hcalm : calm → Along (step (system K τ)) Calm (Config.init (start governor foreign)) ls)
    (hr : run (step (system K τ)) (Config.init (start governor foreign)) ls = some c) :
    Respected (protocol calm) c := by
  have hfree : Temps none (start governor foreign) :=
    fun fd file h => .inl (start_valueFor governor foreign h)
  by_cases h : calm
  · exact run_inv (fun c l c' hI hC hs => Respected.step hI (fun i s _ => proper_prog i s)
      (compatible fun _ => hC) hs) (respected_init (inv_start governor foreign) hfree) (hcalm h) hr
  · exact run_inv (fun c l c' hI _ hs => Respected.step hI (fun i s _ => proper_prog i s)
      (compatible fun hc => absurd hc h) hs) (respected_init (inv_start governor foreign) hfree)
      (along_true (fun _ _ => trivial) _ ls) hr

/-- **The descriptors of the HAL.** However hints and other code interleave, the boost pulse that is
open is the one in `boostpulse_fd`, while nobody has the lock the HAL has no other descriptor, and it
has closed no descriptor of other code. -/
theorem descriptors_kept
    (hr : run (step (system K τ)) (Config.init (start governor foreign)) ls = some c) :
    (∀ fd : ℕ, (∃ g, c.shared.files.valueFor fd = some (.boostpulse g)) ↔ c.shared.boostpulse_fd = fd) ∧
      (c.owner .lock = none → ∀ fd file, c.shared.files.valueFor fd = some file →
        file = .foreign ∨ ∃ g, file = .boostpulse g) ∧
      ∀ fd, .closed fd .foreign ∉ c.shared.log := by
  have h : Respected (protocol False) c := respected_run nofun hr
  have hinv : Inv False c.shared := h.inv
  refine ⟨fun fd => ⟨fun ⟨g, hg⟩ => hinv.only fd g hg, fun hfd => ?_⟩, fun hfree fd file hf => ?_,
    hinv.own⟩
  · rcases hinv.held with e | ⟨fd', g, e, hg⟩
    · omega
    · obtain rfl : fd = fd' := by omega
      exact ⟨g, hg⟩
  · exact (h.free hfree fd file hf).imp_right (·.resolve_right fun e => nomatch e)

/-- **Delivery.** If the descriptor is closed only while no other thread is about to use it, every hint
goes to a boost pulse, and a boost pulse is closed only after a write to it has failed. -/
theorem hints_delivered
    (hcalm : Along (step (system K τ)) Calm (Config.init (start governor foreign)) ls)
    (hr : run (step (system K τ)) (Config.init (start governor foreign)) ls = some c) :
    Delivered c.shared.log ∧ Justified c.shared.log := by
  have hinv : Inv True c.shared := (respected_run (fun _ => hcalm) hr).inv
  exact ⟨hinv.delivered trivial, hinv.justified trivial⟩

/-! ### Two threads -/

/-- Every file can be opened; the governor is `ondemand`. -/
def ondemandFiles (accepts : Bool) : Outcomes where
  governorOpens := true
  text := some ['o', 'n', 'd', 'e', 'm', 'a', 'n', 'd', '\n']
  boostOpens := true
  parameterOpens _ := true
  accepts := accepts

def steps (t : Fin 2) (n : ℕ) : List (Label Empty Request (Fin 2)) := List.replicate n (.step t none)

/-- Thread 0 writes a hint.  The hint of thread 1 is refused, and it closes the descriptor. -/
def refusedHint : List (Label Empty Request (Fin 2)) :=
  .start 0 (.cm_power_hint .interaction 0 (ondemandFiles true)) :: steps 0 28 ++
    .start 1 (.cm_power_hint .cpuBoost 5 (ondemandFiles false)) :: steps 1 9

/-- The hint was delivered, and the refused descriptor is closed. -/
theorem hints_delivered_refused : ∃ c : Hints (Fin 2),
    run (step (system .plain (Fin 2))) (Config.init (start [] [0, 1, 2])) refusedHint = some c ∧
      c.shared.boostpulse_fd = -1 ∧ Delivered c.shared.log ∧ Justified c.shared.log := by
  have hrun : ∃ c, run (step (system .plain (Fin 2))) (Config.init (start [] [0, 1, 2])) refusedHint = some c ∧
      c.shared.boostpulse_fd = -1 := exists_run (by decide +kernel)
  obtain ⟨c, hr, hfd⟩ := hrun
  exact ⟨c, hr, hfd, hints_delivered (by decide +kernel) hr⟩

/-- The HAL has no descriptor left. -/
theorem descriptors_kept_refused : ∃ c : Hints (Fin 2),
    run (step (system .plain (Fin 2))) (Config.init (start [] [0, 1, 2])) refusedHint = some c ∧
      c.owner .lock = none ∧
      (∀ fd : ℕ, (∃ g, c.shared.files.valueFor fd = some (.boostpulse g)) ↔ c.shared.boostpulse_fd = fd) ∧
      (c.owner .lock = none → ∀ fd file, c.shared.files.valueFor fd = some file →
        file = .foreign ∨ ∃ g, file = .boostpulse g) ∧
      ∀ fd, .closed fd .foreign ∉ c.shared.log := by
  have hrun : ∃ c, run (step (system .plain (Fin 2))) (Config.init (start [] [0, 1, 2])) refusedHint = some c ∧
      c.owner .lock = none := exists_run (by decide +kernel)
  obtain ⟨c, hr, hfree⟩ := hrun
  exact ⟨c, hr, hfree, descriptors_kept hr⟩

/-- Thread 0 has loaded the descriptor when thread 1 closes it, and other code gets its number. -/
def strayHint : List (Label Empty Request (Fin 2)) :=
  .start 0 (.cm_power_hint .interaction 0 (ondemandFiles true)) :: steps 0 27 ++
    .start 1 (.cm_power_hint .cpuBoost 5 (ondemandFiles false)) :: steps 1 9 ++
    .start 1 .openForeign :: steps 1 1 ++ steps 0 1

-- the hint is written to the descriptor of the other code
example : ((run (step (system .plain (Fin 2))) (Config.init (start [] [0, 1, 2])) strayHint).any fun c =>
    c.shared.log.head? matches some (.hinted .foreign 1)) = true := by decide +kernel

end Msm7x27a.Power
