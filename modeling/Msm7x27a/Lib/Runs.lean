import Mathlib.Data.List.Basic

/-!
# Runs of a partial step function

A system is a function `step : S → L → Option S`: the operation `l` takes the state `s` to
`step s l`, and `none` says that the operation cannot be carried out there.

* `run step s ls` carries out the operations `ls` in order;
* `Along step C s ls` says that every step of that run meets `C`, a condition on the state before
  the step and the operation;
* `run_inv` is the invariant rule, and `along_congr` replaces one condition by another that agrees
  with it on the states of an invariant.
-/

namespace Msm7x27a.Runs

variable {S L : Type*} (step : S → L → Option S)

/-- The state after the operations `ls`, carried out in order. -/
def run : S → List L → Option S
  | s, [] => some s
  | s, l :: ls => (step s l).bind fun s' => run s' ls

/-- Every step of the run of `ls` from `s` meets `C`. -/
def Along (C : S → L → Prop) : S → List L → Prop
  | _, [] => True
  | s, l :: ls => C s l ∧ ∀ s' ∈ step s l, Along C s' ls

instance decidableAlong (C : S → L → Prop) [∀ s l, Decidable (C s l)] :
    ∀ s ls, Decidable (Along step C s ls)
  | _, [] => .isTrue trivial
  | s, l :: ls =>
    have := fun s' => decidableAlong C s' ls
    inferInstanceAs (Decidable (C s l ∧ ∀ s' ∈ step s l, Along step C s' ls))

/-- The condition that a step ends in a state with `P`. -/
def Ends (P : S → Prop) : S → L → Prop := fun s l => ∀ s', step s l = some s' → P s'

instance decidableEnds (P : S → Prop) [DecidablePred P] (s : S) (l : L) :
    Decidable (Ends step P s l) :=
  inferInstanceAs (Decidable (∀ s' ∈ step s l, P s'))

variable {step} {C C' : S → L → Prop} {I : S → Prop}

theorem run_cons {s t : S} {l : L} {ls : List L} :
    run step s (l :: ls) = some t ↔ ∃ s', step s l = some s' ∧ run step s' ls = some t := by
  simp [run, Option.bind_eq_some_iff]

theorem along_cons {s s' : S} {l : L} {ls : List L} (h : step s l = some s') :
    Along step C s (l :: ls) ↔ C s l ∧ Along step C s' ls := by
  simp [Along, h]

/-- A run that can be evaluated, and the state it ends in. -/
theorem exists_run {P : S → Prop} [DecidablePred P] {s : S} {ls : List L}
    (h : ((run step s ls).any fun t => decide (P t)) = true) : ∃ t, run step s ls = some t ∧ P t := by
  simpa [Option.any_eq_true] using h

/-- **The invariant rule.** What holds at the start and is kept by every step that meets `C` holds
at the end of every run whose steps all meet `C`. -/
theorem run_inv (hstep : ∀ s l s', I s → C s l → step s l = some s' → I s') {s t : S} {ls : List L}
    (hI : I s) (hC : Along step C s ls) (hr : run step s ls = some t) : I t := by
  induction ls generalizing s with
  | nil =>
    have : s = t := by simpa [run] using hr
    exact this ▸ hI
  | cons l ls ih =>
    obtain ⟨s', hs, hr'⟩ := run_cons.1 hr
    exact ih (hstep s l s' hI hC.1 hs) (hC.2 s' hs) hr'

/-- What is known of the operations can be added to the condition. -/
theorem Along.and {A : L → Prop} {s : S} {ls : List L} (hC : Along step C s ls)
    (hA : ∀ l ∈ ls, A l) : Along step (fun s l => C s l ∧ A l) s ls := by
  induction ls generalizing s with
  | nil => trivial
  | cons l ls ih =>
    refine ⟨⟨hC.1, hA l (List.mem_cons_self ..)⟩, fun s' hs => ih (hC.2 s' hs) ?_⟩
    exact fun l' h' => hA l' (List.mem_cons_of_mem _ h')

theorem along_true (h : ∀ s l, C s l) (s : S) (ls : List L) : Along step C s ls := by
  induction ls generalizing s with
  | nil => trivial
  | cons l ls ih => exact ⟨h s l, fun s' _ => ih s'⟩

/-- Two conditions that agree where an invariant holds are met by the same runs, when the steps
that meet the first keep the invariant.  The operations of the runs have `A`. -/
theorem along_congr {A : L → Prop} (hCC : ∀ s l, A l → I s → (C s l ↔ C' s l))
    (hstep : ∀ s l s', A l → I s → C s l → step s l = some s' → I s') {s : S} {ls : List L}
    (hI : I s) (hA : ∀ l ∈ ls, A l) : Along step C s ls ↔ Along step C' s ls := by
  induction ls generalizing s with
  | nil => exact Iff.rfl
  | cons l ls ih =>
    have hl := hA l (List.mem_cons_self ..)
    have ih := fun {s'} hI' => @ih s' hI' fun l' h' => hA l' (List.mem_cons_of_mem _ h')
    simp only [Along]
    constructor
    · rintro ⟨h, hs⟩
      exact ⟨(hCC s l hl hI).1 h, fun s' e => (ih (hstep s l s' hl hI h e)).1 (hs s' e)⟩
    · rintro ⟨h, hs⟩
      have h' := (hCC s l hl hI).2 h
      exact ⟨h', fun s' e => (ih (hstep s l s' hl hI h' e)).2 (hs s' e)⟩

/-- **Exact conditions.** Suppose the steps that meet `C` keep `I`, which has `P`; a step from `I`
to a state with `P` meets `C`; and a step never restores `P`.  Then a run ends in a state with `P`
if and only if every step of it meets `C`. `J` is kept by all steps. -/
theorem run_iff {P J : S → Prop} (hJ : ∀ s l s', J s → step s l = some s' → J s')
    (hI : ∀ s l s', J s → I s → C s l → step s l = some s' → I s') (hP : ∀ s, I s → P s)
    (hC : ∀ s l s', J s → I s → step s l = some s' → P s' → C s l)
    (hmono : ∀ s l s', J s → step s l = some s' → P s' → P s) {s t : S} {ls : List L}
    (hJs : J s) (hIs : I s) (hr : run step s ls = some t) : P t ↔ Along step C s ls := by
  have hback : ∀ {ls s}, J s → run step s ls = some t → P t → P s := by
    intro ls
    induction ls with
    | nil =>
      intro s _ hr ht
      have : s = t := by simpa [run] using hr
      exact this ▸ ht
    | cons l ls ih =>
      intro s hs hr ht
      obtain ⟨s', h1, h2⟩ := run_cons.1 hr
      exact hmono s l s' hs h1 (ih (hJ s l s' hs h1) h2 ht)
  induction ls generalizing s with
  | nil =>
    have : s = t := by simpa [run] using hr
    exact iff_of_true (this ▸ hP s hIs) trivial
  | cons l ls ih =>
    obtain ⟨s', hs, hr'⟩ := run_cons.1 hr
    have hJ' := hJ s l s' hJs hs
    constructor
    · intro ht
      have hc := hC s l s' hJs hIs hs (hback hJ' hr' ht)
      refine ⟨hc, fun s'' e => ?_⟩
      obtain rfl : s' = s'' := Option.some.inj (hs.symm.trans e)
      exact (ih hJ' (hI s l s' hJs hIs hc hs) hr').1 ht
    · rintro ⟨hc, hrest⟩
      exact (ih hJ' (hI s l s' hJs hIs hc hs) hr').2 (hrest s' hs)

end Msm7x27a.Runs
