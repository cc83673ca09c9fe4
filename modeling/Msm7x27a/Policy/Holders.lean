import Msm7x27a.Policy.Wiring
import Msm7x27a.Lib.Runs

/-!
# The clients of a direct output

Clients that ask for a direct output with the same arguments, and release what they have obtained.
A direct output is open while it has been obtained more often than released, but one of an on-demand
kind is closed by the first release.
-/

namespace Msm7x27a.Policy

open Msm7x27a.Runs

/-- What a client does: with one fixed request, or with a handle. -/
inductive Use where
  | get (c : Client)
  | release (output : ℕ)

/-- What the clients have obtained and released. -/
inductive Holding where
  | obtained (output : ℕ)
  | released (output : ℕ)
  deriving DecidableEq, Repr

/-! ### Histories, the latest first -/

def obtainedCount (output : ℕ) (l : List Holding) : ℕ := l.count (.obtained output)

def releasedCount (output : ℕ) (l : List Holding) : ℕ := l.count (.released output)

/-- How often the output has been obtained since it was last released. -/
def sinceRelease (output : ℕ) : List Holding → ℕ
  | [] => 0
  | .obtained o :: l => if o = output then sinceRelease output l + 1 else sinceRelease output l
  | .released o :: l => if o = output then 0 else sinceRelease output l

/-- The clients that are left: those of an on-demand kind lose it by one release. -/
def holders (onDemand : Bool) (output : ℕ) (l : List Holding) : ℕ :=
  if onDemand then sinceRelease output l else obtainedCount output l - releasedCount output l

section Histories

variable {o output : ℕ} {l : List Holding}

theorem obtainedCount_obtained : obtainedCount output (.obtained o :: l) =
    obtainedCount output l + if o = output then 1 else 0 := by
  simp [obtainedCount, List.count_cons]

theorem obtainedCount_released : obtainedCount output (.released o :: l) = obtainedCount output l := by
  simp [obtainedCount]

theorem releasedCount_obtained : releasedCount output (.obtained o :: l) = releasedCount output l := by
  simp [releasedCount]

theorem releasedCount_released : releasedCount output (.released o :: l) =
    releasedCount output l + if o = output then 1 else 0 := by
  simp [releasedCount, List.count_cons]

theorem holders_obtained (onDemand : Bool) (o : ℕ)
    (hle : releasedCount output l ≤ obtainedCount output l) :
    holders onDemand output (.obtained o :: l) =
      holders onDemand output l + if o = output then 1 else 0 := by
  unfold holders
  rw [obtainedCount_obtained, releasedCount_obtained, sinceRelease]
  split_ifs <;> omega

theorem holders_released (onDemand : Bool) (o output : ℕ) (l : List Holding) :
    holders onDemand output (.released o :: l) =
      if o = output then (if onDemand then 0 else holders onDemand output l - 1)
      else holders onDemand output l := by
  unfold holders
  rw [obtainedCount_released, releasedCount_released, sinceRelease]
  split_ifs <;> omega

theorem holders_le (onDemand : Bool) (output : ℕ) (l : List Holding) :
    holders onDemand output l ≤ obtainedCount output l := by
  unfold holders
  split
  · induction l with
    | nil => exact Nat.zero_le _
    | cons a l ih =>
      cases a with
      | obtained o =>
        rw [obtainedCount_obtained, sinceRelease]
        split <;> omega
      | released o =>
        rw [obtainedCount_released, sinceRelease]
        split <;> omega
  · omega

end Histories

/-- An output that is accepted for the request has its values, so that it is found again. -/
def Use.Reuses (config : OutputConfig) (p : ℕ) : Use → Prop
  | .get c => config.accepts (c.config (.output p) config) = true → c.config (.output p) config = config
  | .release _ => True

/-- The descriptor of an output with `n` clients. -/
structure Serves (p : ℕ) (config : OutputConfig) (F : OutputFlags) (n : ℕ)
    (desc : AudioOutputDescriptor) : Prop where
  origin : desc.origin = .profile p
  config : desc.toOutputConfig = config
  flags : desc.mFlags = F
  direct : F.DIRECT = true
  count : desc.mDirectOpenCount = n

/-- A client more. -/
theorem Serves.more {p n : ℕ} {config : OutputConfig} {F : OutputFlags}
    {desc : AudioOutputDescriptor} (h : Serves p config F n desc) :
    Serves p config F (n + 1) { desc with mDirectOpenCount := desc.mDirectOpenCount + 1 } := by
  refine ⟨h.origin, h.config, h.flags, h.direct, ?_⟩
  push_cast
  rw [h.count]

/-- A client less. -/
theorem Serves.fewer {p n : ℕ} {config : OutputConfig} {F : OutputFlags}
    {desc : AudioOutputDescriptor} (h : Serves p config F n desc) (hn : 0 < n) :
    Serves p config F (n - 1) { desc with mDirectOpenCount := desc.mDirectOpenCount - 1 } := by
  refine ⟨h.origin, h.config, h.flags, h.direct, ?_⟩
  have hcount := h.count
  dsimp only
  omega

namespace State

section Defs

variable {R : Type} (B : Base R) (H : Headers) (stream : StreamType) (config : OutputConfig)
  (flags : OutputFlags)

/-- A client gets an output, or releases one that has been obtained more often than released. -/
def useStep : State R × List Holding → Use → Option (State R × List Holding)
  | (s, l), .get c =>
    let r := s.getOutput B H c stream config flags
    some (r.2, if r.1 = 0 then l else .obtained r.1 :: l)
  | (s, l), .release output =>
    if releasedCount output l < obtainedCount output l then
      some (s.releaseOutput B output, .released output :: l)
    else none

/-- The request matches the profile. -/
def Matches (p : ℕ) (t : State R × List Holding) : Use → Prop
  | .get _ => t.1.directProfile B H stream config flags = some p
  | .release _ => True

instance (p : ℕ) (t : State R × List Holding) :
    ∀ use, Decidable (Matches B H stream config flags p t use)
  | .get _ => inferInstanceAs (Decidable (t.1.directProfile B H stream config flags = some p))
  | .release _ => inferInstanceAs (Decidable True)

/-- The flags of an output that is opened for the request. -/
def flagsFor (p : ℕ) (s : State R) : OutputFlags := (s.profile p).mFlags.union (direct flags)

end Defs

/-- The outputs of the profile are those that have clients, and count them. -/
structure Held {R : Type} (config : OutputConfig) (F : OutputFlags) (p : ℕ) (s : State R)
    (l : List Holding) : Prop where
  le : ∀ o, releasedCount o l ≤ obtainedCount o l
  zero : obtainedCount 0 l = 0
  counted : ∀ o, 0 < holders F.onDemand o l →
    ∃ desc, s.mOutputs.valueFor o = some desc ∧ Serves p config F (holders F.onDemand o l) desc
  closed : ∀ o, holders F.onDemand o l = 0 → 0 < obtainedCount o l → o ∉ s.mOutputs
  only : ∀ o desc, s.mOutputs.valueFor o = some desc → desc.origin = .profile p →
    0 < holders F.onDemand o l

variable {R : Type} {B : Base R} {H : Headers} {stream : StreamType} {config : OutputConfig}
  {flags F : OutputFlags} {c : Client} {p o output : ℕ} {s s' : State R} {l : List Holding}

theorem mem_outputsOf {desc : AudioOutputDescriptor} : (o, desc) ∈ s.outputsOf p ↔
    s.mOutputs.valueFor o = some desc ∧ desc.origin = .profile p := by
  unfold outputsOf
  rw [List.mem_filter, KeyedVector.valueFor_eq_some, decide_eq_true_eq]

/-! ### Getting an output -/

/-- Getting an output counts it, and the history stays one of releases of what was obtained. -/
theorem Held.obtained_le (h : Held config F p s l) (o : ℕ) :
    releasedCount o (.obtained output :: l) ≤ obtainedCount o (.obtained output :: l) := by
  have hle := h.le o
  rw [releasedCount_obtained, obtainedCount_obtained]
  omega

/-- An open output gets a client more. -/
theorem held_reused (h : Held config F p s l) (ho : 0 < holders F.onDemand output l) :
    Held config F p { s with mOutputs := s.mOutputs.modify output fun desc =>
      { desc with mDirectOpenCount := desc.mDirectOpenCount + 1 } } (.obtained output :: l) := by
  have hvalue : ∀ o, (s.mOutputs.modify output fun desc =>
      { desc with mDirectOpenCount := desc.mDirectOpenCount + 1 }).valueFor o =
        if o = output then (s.mOutputs.valueFor o).map fun desc =>
          { desc with mDirectOpenCount := desc.mDirectOpenCount + 1 }
        else s.mOutputs.valueFor o := fun _ => KeyedVector.valueFor_modify
  have hholders := fun o => holders_obtained F.onDemand output (h.le o)
  refine ⟨h.obtained_le, ?_, ?_, ?_, ?_⟩
  · have hne : output ≠ 0 := by
      rintro rfl
      have hle := holders_le F.onDemand 0 l
      have hzero := h.zero
      omega
    rw [obtainedCount_obtained, h.zero, if_neg hne]
  · intro o hpos
    rw [hholders] at hpos ⊢
    rw [hvalue]
    by_cases he : o = output
    · subst he
      obtain ⟨desc, hd, hserves⟩ := h.counted o ho
      rw [if_pos rfl, hd]
      rw [if_pos rfl]
      exact ⟨_, rfl, hserves.more⟩
    · rw [if_neg (Ne.symm he), Nat.add_zero] at hpos ⊢
      rw [if_neg he]
      exact h.counted o hpos
  · intro o hzero hpos
    rw [hholders] at hzero
    have he : output ≠ o := by
      rintro rfl
      rw [if_pos rfl] at hzero
      omega
    rw [obtainedCount_obtained, if_neg he] at hpos
    rw [← KeyedVector.valueFor_eq_none, hvalue, if_neg (Ne.symm he), KeyedVector.valueFor_eq_none]
    exact h.closed o (by omega) hpos
  · intro o desc hd horigin
    rw [hholders]
    rw [hvalue] at hd
    split at hd
    next he => rw [if_pos he.symm]; omega
    next he =>
      have hpos := h.only o desc hd horigin
      omega

/-- A new output has one client. -/
theorem held_opened {rest : R} {mPreviousOutputs : KeyedVector ℕ AudioOutputDescriptor}
    {desc : AudioOutputDescriptor} (h : Held config F p s l) (hnew : output ∉ s.mOutputs)
    (hne : output ≠ 0) (hserves : Serves p config F 1 desc) :
    Held config F p { s.addOutput output desc with
      rest := rest, mPreviousOutputs := mPreviousOutputs } (.obtained output :: l) := by
  have hvalue : ∀ o, (s.mOutputs.add output desc).valueFor o =
      if o = output then some desc else s.mOutputs.valueFor o := fun _ => KeyedVector.valueFor_add
  have hholders := fun o => holders_obtained F.onDemand output (h.le o)
  have hnone : holders F.onDemand output l = 0 := by
    by_contra hpos
    obtain ⟨d, hd, -⟩ := h.counted output (Nat.pos_of_ne_zero hpos)
    exact hnew (KeyedVector.mem_iff_valueFor.2 ⟨d, hd⟩)
  refine ⟨h.obtained_le, ?_, ?_, ?_, ?_⟩
  · rw [obtainedCount_obtained, h.zero, if_neg hne]
  · intro o hpos
    rw [hholders] at hpos ⊢
    show ∃ d, (s.mOutputs.add output desc).valueFor o = some d ∧ _
    rw [hvalue]
    by_cases he : o = output
    · subst he
      rw [if_pos rfl, if_pos rfl, hnone]
      exact ⟨desc, rfl, hserves⟩
    · rw [if_neg (Ne.symm he), Nat.add_zero] at hpos ⊢
      rw [if_neg he]
      exact h.counted o hpos
  · intro o hzero hpos
    rw [hholders] at hzero
    have he : output ≠ o := by
      rintro rfl
      rw [if_pos rfl] at hzero
      omega
    rw [obtainedCount_obtained, if_neg he] at hpos
    intro hmem
    rcases KeyedVector.mem_add.1 hmem with hmem | hmem
    · exact he hmem.symm
    · exact h.closed o (by omega) hpos hmem
  · intro o d hd horigin
    have hd' : (s.mOutputs.add output desc).valueFor o = some d := hd
    rw [hholders]
    rw [hvalue] at hd'
    split at hd'
    next he => rw [if_pos he.symm]; omega
    next he =>
      have hpos := h.only o d hd' horigin
      omega

theorem held_get (h : Held config (flagsFor flags p s) p s l)
    (hmatch : s.directProfile B H stream config flags = some p)
    (hreuse : (Use.get c).Reuses config p) :
    let r := s.getOutput B H c stream config flags
    Held config (flagsFor flags p s) p r.2 (if r.1 = 0 then l else .obtained r.1 :: l) ∧
      r.2.profile = s.profile := by
  have hdirect : (flagsFor flags p s).DIRECT = true := by
    unfold directProfile at hmatch
    dsimp only at hmatch
    split at hmatch
    next hd =>
      unfold flagsFor OutputFlags.union
      dsimp only
      rw [hd, Bool.or_true]
    next => cases hmatch
  -- all outputs of the profile have the values that are asked for
  have hconfig : ∀ x ∈ s.outputsOf p, x.2.toOutputConfig = config := by
    rintro ⟨o, desc⟩ hmem
    obtain ⟨hd, horigin⟩ := mem_outputsOf.1 hmem
    obtain ⟨desc', hd', hserves⟩ := h.counted o (h.only o desc hd horigin)
    obtain rfl := Option.some.inj (hd.symm.trans hd')
    exact hserves.config
  unfold getOutput
  rw [hmatch]
  unfold getDirectOutput
  dsimp only
  split
  next output desc hfind =>
    obtain ⟨hd, horigin⟩ := mem_outputsOf.1 (List.mem_of_find?_eq_some hfind)
    have hpos := h.only output desc hd horigin
    have hne : output ≠ 0 := by
      rintro rfl
      have hle := holders_le (flagsFor flags p s).onDemand 0 l
      have hzero := h.zero
      omega
    rw [if_neg hne]
    exact ⟨held_reused h hpos, rfl⟩
  next hfind =>
    have hnone : s.outputsOf p = [] := by
      rw [List.eq_nil_iff_forall_not_mem]
      intro x hx
      exact List.find?_eq_none.1 hfind x hx (decide_eq_true (hconfig x hx))
    rw [hnone]
    dsimp only [List.getLast?_nil]
    unfold openDirect
    dsimp only
    split
    · exact ⟨h, rfl⟩
    next hopen =>
      have haccepts : config.accepts (c.config (.output p) config) = true := by
        by_contra hno
        exact hopen (.inr (Bool.eq_false_of_not_eq_true hno))
      have hne : c.handle (.output p) s.mOutputs.keys ≠ 0 := c.ne_zero _ _
      rw [if_neg hne]
      refine ⟨held_opened h (handle_not_mem _ _) hne ?_, rfl⟩
      exact ⟨rfl, hreuse haccepts, rfl, hdirect, rfl⟩

/-! ### Releasing an output -/

/-- Releasing an output touches no other one; the output itself is closed with its last client. -/
theorem held_released (h : Held config F p s l)
    (hlt : releasedCount output l < obtainedCount output l)
    (hkept : ∀ o desc, o ≠ output → s.mOutputs.valueFor o = some desc → desc.isDuplicated = false →
      s'.mOutputs.valueFor o = some desc)
    (hother : ∀ o desc, o ≠ output → s'.mOutputs.valueFor o = some desc →
      s.mOutputs.valueFor o = some desc)
    (hclosed : holders F.onDemand output (.released output :: l) = 0 → output ∉ s'.mOutputs)
    (hopen : 0 < holders F.onDemand output (.released output :: l) →
      ∃ desc, s'.mOutputs.valueFor output = some desc ∧
        Serves p config F (holders F.onDemand output (.released output :: l)) desc) :
    Held config F p s' (.released output :: l) := by
  have hholders : ∀ o, o ≠ output →
      holders F.onDemand o (.released output :: l) = holders F.onDemand o l :=
    fun o hne => (holders_released ..).trans (if_neg (Ne.symm hne))
  refine ⟨?_, ?_, ?_, ?_, ?_⟩
  · intro o
    have hle := h.le o
    rw [releasedCount_released, obtainedCount_released]
    split
    next he => subst he; omega
    next => omega
  · rw [obtainedCount_released]
    exact h.zero
  · intro o hpos
    by_cases he : o = output
    · subst he
      exact hopen hpos
    · rw [hholders o he] at hpos ⊢
      obtain ⟨desc, hd, hserves⟩ := h.counted o hpos
      refine ⟨desc, hkept o desc he hd ?_, hserves⟩
      unfold AudioOutputDescriptor.isDuplicated
      rw [hserves.origin]
  · intro o hzero hpos
    by_cases he : o = output
    · subst he
      exact hclosed hzero
    · rw [hholders o he] at hzero
      rw [obtainedCount_released] at hpos
      intro hmem
      obtain ⟨desc, hd⟩ := KeyedVector.mem_iff_valueFor.1 hmem
      exact h.closed o hzero hpos (KeyedVector.mem_iff_valueFor.2 ⟨desc, hother o desc he hd⟩)
  · intro o desc hd horigin
    by_cases he : o = output
    · subst he
      by_contra hzero
      exact hclosed (by omega) (KeyedVector.mem_iff_valueFor.2 ⟨desc, hd⟩)
    · rw [hholders o he]
      exact h.only o desc (hother o desc he hd) horigin

theorem profile_closeOutput : (s.closeOutput B output).profile = s.profile := by
  unfold closeOutput
  split <;> rfl

theorem held_release (h : Held config F p s l)
    (hlt : releasedCount output l < obtainedCount output l) :
    Held config F p (s.releaseOutput B output) (.released output :: l) ∧
      (s.releaseOutput B output).profile = s.profile := by
  have hholders := holders_released F.onDemand output output l
  rw [if_pos rfl] at hholders
  by_cases hpos : 0 < holders F.onDemand output l
  · obtain ⟨desc, hd, hserves⟩ := h.counted output hpos
    have hcount := hserves.count
    have hvalue : ∀ o, (s.mOutputs.modify output fun desc =>
        { desc with mDirectOpenCount := desc.mDirectOpenCount - 1 }).valueFor o =
          if o = output then (s.mOutputs.valueFor o).map fun desc =>
            { desc with mDirectOpenCount := desc.mDirectOpenCount - 1 }
          else s.mOutputs.valueFor o := fun _ => KeyedVector.valueFor_modify
    have hflags : desc.mFlags.DIRECT = true := by rw [hserves.flags]; exact hserves.direct
    unfold releaseOutput
    rw [hd]
    dsimp only
    rw [if_pos hflags, if_neg fun hbad => by omega]
    rw [hserves.flags]
    split
    next hlast =>
      refine ⟨held_released h hlt ?_ ?_ ?_ ?_, profile_closeOutput⟩
      · intro o d hne hdo hdup
        exact valueFor_closeOutput ((hvalue o).trans ((if_neg hne).trans hdo)) hdup hne
      · intro o d hne hdo
        exact ((hvalue o).trans (if_neg hne)).symm.trans (valueFor_of_closeOutput hdo)
      · exact fun _ => not_mem_closeOutput
      · intro hleft
        rw [hholders] at hleft
        split at hleft
        · omega
        next hdemand =>
          have hone := hlast.resolve_right hdemand
          omega
    next hmore =>
      have hdemand : ¬F.onDemand = true := fun e => hmore (.inr e)
      have hleft : holders F.onDemand output (.released output :: l) = holders F.onDemand output l - 1 :=
        hholders.trans (if_neg hdemand)
      have hone : desc.mDirectOpenCount - 1 ≠ 0 := fun e => hmore (.inl e)
      refine ⟨held_released h hlt ?_ ?_ ?_ ?_, rfl⟩
      · intro o d hne hdo _
        exact (hvalue o).trans ((if_neg hne).trans hdo)
      · intro o d hne hdo
        exact ((hvalue o).trans (if_neg hne)).symm.trans hdo
      · intro hzero
        omega
      · intro _
        rw [hleft]
        exact ⟨_, (hvalue output).trans ((if_pos rfl).trans (congrArg _ hd)), hserves.fewer hpos⟩
  · have hclosed : output ∉ s.mOutputs := h.closed output (by omega) (by omega)
    have hrelease : s.releaseOutput B output = s := by
      unfold releaseOutput
      rw [KeyedVector.valueFor_eq_none.2 hclosed]
    rw [hrelease]
    refine ⟨held_released h hlt (fun _ _ _ hd _ => hd) (fun _ _ _ hd => hd) (fun _ => hclosed) ?_, rfl⟩
    intro hleft
    rw [hholders] at hleft
    split at hleft <;> omega

/-! ### Runs -/

theorem held_step {t t' : State R × List Holding} {use : Use}
    (h : Held config (flagsFor flags p t.1) p t.1 t.2) (hmatch : Matches B H stream config flags p t use)
    (hreuse : use.Reuses config p) (hs : useStep B H stream config flags t use = some t') :
    Held config (flagsFor flags p t.1) p t'.1 t'.2 ∧ t'.1.profile = t.1.profile := by
  obtain ⟨s, l⟩ := t
  cases use with
  | get c =>
    obtain rfl := Option.some.inj hs
    exact held_get h hmatch hreuse
  | release output =>
    simp only [useStep] at hs
    split at hs
    next hlt =>
      obtain rfl := Option.some.inj hs
      exact held_release h hlt
    next => cases hs

/-- **Holders.** Clients get and release outputs with one request, which matches the profile each time.
An output that was obtained is open if and only if it has been obtained more often than released; one
of an on-demand kind, if and only if it has been obtained since it was last released. -/
theorem open_iff_held {uses : List Use} {t : State R × List Holding} (hnone : s.outputsOf p = [])
    (hmatch : Along (useStep B H stream config flags) (Matches B H stream config flags p) (s, []) uses)
    (hreuse : ∀ use ∈ uses, use.Reuses config p)
    (hrun : run (useStep B H stream config flags) (s, []) uses = some t)
    (ho : 0 < obtainedCount output t.2) :
    output ∈ t.1.mOutputs ↔
      if (flagsFor flags p s).onDemand then 0 < sinceRelease output t.2
      else releasedCount output t.2 < obtainedCount output t.2 := by
  have hinv : Held config (flagsFor flags p s) p t.1 t.2 ∧ t.1.profile = s.profile := by
    refine run_inv (I := fun u => Held config (flagsFor flags p s) p u.1 u.2 ∧
      u.1.profile = s.profile) ?_ ?_ (hmatch.and hreuse) hrun
    · intro u use u' hI hC hs
      have hflags : flagsFor flags p u.1 = flagsFor flags p s := by
        unfold flagsFor
        rw [hI.2]
      obtain ⟨hheld, hprofile⟩ := held_step (hflags ▸ hI.1) hC.1 hC.2 hs
      exact ⟨hflags ▸ hheld, hprofile.trans hI.2⟩
    · refine ⟨⟨fun _ => le_rfl, rfl, ?_, ?_, ?_⟩, rfl⟩
      · intro o hpos
        have hle : holders (flagsFor flags p s).onDemand o [] ≤ 0 := holders_le ..
        exact absurd hpos (Nat.not_lt.2 hle)
      · intro o _ hpos
        exact absurd hpos (Nat.lt_irrefl 0)
      · intro o desc hd horigin
        have hmem := mem_outputsOf.2 ⟨hd, horigin⟩
        rw [hnone] at hmem
        cases hmem
  have hholders : (if (flagsFor flags p s).onDemand then 0 < sinceRelease output t.2
      else releasedCount output t.2 < obtainedCount output t.2) ↔
        0 < holders (flagsFor flags p s).onDemand output t.2 := by
    unfold holders
    split <;> omega
  rw [hholders]
  constructor
  · intro hopen
    by_contra hzero
    exact hinv.1.closed output (by omega) ho hopen
  · intro hpos
    obtain ⟨desc, hd, -⟩ := hinv.1.counted output hpos
    exact KeyedVector.mem_iff_valueFor.2 ⟨desc, hd⟩

/-- Two clients get an output, and it is open after the first has released it. -/
theorem held_by_second : ∃ t, run (useStep .plain .plain .music { mSamplingRate := 48000 }
    { DIRECT := true }) (plainDirect { DIRECT := true }, [])
      [.get .plain, .get .plain, .release 2] = some t ∧ 2 ∈ t.1.mOutputs := by
  have h : ((run (useStep .plain .plain .music { mSamplingRate := 48000 } { DIRECT := true })
      (plainDirect { DIRECT := true }, []) [.get .plain, .get .plain, .release 2]).any fun t =>
        obtainedCount 2 t.2 = 2 ∧ releasedCount 2 t.2 = 1) = true := by
    decide +kernel
  simp only [Option.any_eq_true, decide_eq_true_eq] at h
  obtain ⟨t, hrun, hobtained, hreleased⟩ := h
  refine ⟨t, hrun, ?_⟩
  have hiff : 2 ∈ t.1.mOutputs ↔ releasedCount 2 t.2 < obtainedCount 2 t.2 := by
    refine open_iff_held (p := 1) rfl ?_ ?_ hrun (by omega)
    · decide +kernel
    · intro use hmem
      simp only [List.mem_cons, List.not_mem_nil, or_false] at hmem
      rcases hmem with rfl | rfl | rfl
      · exact fun _ => rfl
      · exact fun _ => rfl
      · trivial
  rw [hiff]
  omega

/-- The first release of an LPA output closes it, though a second client has obtained it. -/
theorem lpa_closed_once : ∃ t, run (useStep .plain .plain .music { mSamplingRate := 48000 }
    { DIRECT := true, LPA := true }) (plainDirect { DIRECT := true, LPA := true }, [])
      [.get .plain, .get .plain, .release 2] = some t ∧
        obtainedCount 2 t.2 = 2 ∧ releasedCount 2 t.2 = 1 ∧ 2 ∉ t.1.mOutputs := by
  apply exists_run
  decide +kernel

end State

end Msm7x27a.Policy
