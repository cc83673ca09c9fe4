import Msm7x27a.Policy.Calls
import Msm7x27a.Policy.Effects

/-!
# Which outputs stand for what

The origins of the open outputs.  `Wired` is the invariant of the calls: an output of a profile
belongs to a loaded profile, and a duplicating output duplicates two outputs of profiles that are
open.
-/

namespace Msm7x27a.Policy

open Msm7x27a.Audio (AudioMode Status noError)
open Msm7x27a.Route (Devices)

/-- What the client interface answers to the call. -/
def Call.client : Call → Option Client
  | .setDeviceConnectionState c .. | .getOutput c .. => some c
  | _ => none

namespace State

variable {R : Type} {B : Base R} {H : Headers} {c : Client} {isAnalog : Bool} {device : Devices}
  {state : ConnectionState} {device_address : String} {outputs : SortedVector ℕ}
  {s s' s'' : State R} {o output p : ℕ}

/-- The origins of the open outputs. -/
def origins (s : State R) (o : ℕ) : Option Origin := (s.mOutputs.valueFor o).map (·.origin)

structure Wired (s : State R) : Prop where
  loaded : ∀ o p, s.origins o = some (.profile p) → p ∈ s.loadedProfiles
  duplicated : ∀ o o₁ o₂, s.origins o = some (.duplicated o₁ o₂) →
    (∃ p, s.origins o₁ = some (.profile p)) ∧ ∃ p, s.origins o₂ = some (.profile p)
  primary : ∀ o₁ o₂, s.origins s.mPrimaryOutput ≠ some (.duplicated o₁ o₂)

/-- The same outputs are open for the same. -/
structure SameWiring (s s' : State R) : Prop where
  origins : s'.origins = s.origins
  mPrimaryOutput : s'.mPrimaryOutput = s.mPrimaryOutput
  mHwModules : s'.mHwModules = s.mHwModules

theorem SameWiring.refl (s : State R) : SameWiring s s := ⟨rfl, rfl, rfl⟩

theorem SameWiring.trans (h : SameWiring s s') (h' : SameWiring s' s'') : SameWiring s s'' :=
  ⟨h'.1.trans h.1, h'.2.trans h.2, h'.3.trans h.3⟩

theorem SameWiring.wired (h : SameWiring s s') (hw : Wired s) : Wired s' := by
  have hloaded : s'.loadedProfiles = s.loadedProfiles := by
    unfold loadedProfiles
    rw [h.mHwModules]
  refine ⟨?_, ?_, ?_⟩
  · rw [h.origins, hloaded]
    exact hw.loaded
  · rw [h.origins]
    exact hw.duplicated
  · rw [h.origins, h.mPrimaryOutput]
    exact hw.primary

theorem origins_congr (h : s'.mOutputs = s.mOutputs) : s'.origins = s.origins := by
  unfold origins
  rw [h]

theorem Same.wiring (h : Same s s') : SameWiring s s' :=
  ⟨origins_congr h.mOutputs, h.mPrimaryOutput, h.mHwModules⟩

theorem OnlyOutputs.wiring (h : OnlyOutputs s s') (ho : SameOutputs s s') : SameWiring s s' where
  origins := by
    funext o
    unfold State.origins
    rw [ho o]
  mPrimaryOutput := h.keeps.mPrimaryOutput
  mHwModules := h.keeps.mHwModules

theorem mem_mOutputs : o ∈ s.mOutputs ↔ ∃ origin, s.origins o = some origin := by
  unfold origins
  rw [KeyedVector.mem_iff_valueFor]
  constructor
  · rintro ⟨desc, hd⟩
    exact ⟨desc.origin, by rw [hd]; rfl⟩
  · rintro ⟨origin, ho⟩
    obtain ⟨desc, hd, -⟩ := Option.map_eq_some_iff.1 ho
    exact ⟨desc, hd⟩

theorem origins_of_valueFor {desc : AudioOutputDescriptor}
    (h : s.mOutputs.valueFor o = some desc) : s.origins o = some desc.origin := by
  unfold origins
  rw [h]
  rfl

/-- A count is no matter of wiring. -/
theorem wiring_modify {f : AudioOutputDescriptor → AudioOutputDescriptor}
    (hf : ∀ desc, (f desc).origin = desc.origin) :
    SameWiring s { s with mOutputs := s.mOutputs.modify output f } := by
  refine ⟨?_, rfl, rfl⟩
  funext o
  unfold origins
  rw [KeyedVector.valueFor_modify]
  split
  · rw [Option.map_map]
    congr 1
    funext desc
    exact hf desc
  · rfl

/-! ### Opening and closing -/

theorem origins_addOutput {desc : AudioOutputDescriptor} : (s.addOutput output desc).origins o =
    if o = output then some desc.origin else s.origins o := by
  unfold origins addOutput
  dsimp only
  rw [KeyedVector.valueFor_add]
  split <;> rfl

/-- A new output of a loaded profile. -/
theorem wired_addOutput {desc : AudioOutputDescriptor} (hw : Wired s) (hnew : output ∉ s.mOutputs)
    (horigin : desc.origin = .profile p) (hp : p ∈ s.loadedProfiles) :
    Wired (s.addOutput output desc) := by
  have hkept : ∀ o q, s.origins o = some (.profile q) →
      (s.addOutput output desc).origins o = some (.profile q) := by
    intro o q ho
    rw [origins_addOutput, if_neg, ho]
    rintro rfl
    exact hnew (mem_mOutputs.2 ⟨_, ho⟩)
  refine ⟨?_, ?_, ?_⟩
  · intro o q ho
    rw [origins_addOutput, horigin] at ho
    split at ho
    · obtain rfl := Origin.profile.inj (Option.some.inj ho)
      exact hp
    · exact hw.loaded o q ho
  · intro o o₁ o₂ ho
    rw [origins_addOutput, horigin] at ho
    split at ho
    · cases ho
    · obtain ⟨⟨q₁, h1⟩, ⟨q₂, h2⟩⟩ := hw.duplicated o o₁ o₂ ho
      exact ⟨⟨q₁, hkept o₁ q₁ h1⟩, ⟨q₂, hkept o₂ q₂ h2⟩⟩
  · intro o₁ o₂ ho
    rw [origins_addOutput, horigin] at ho
    split at ho
    · cases ho
    · exact hw.primary o₁ o₂ ho

/-- Another output of a profile stays open when one is closed. -/
theorem origins_closeOutput (h : s.origins o = some (.profile p)) (hne : o ≠ output) :
    (s.closeOutput B output).origins o = some (.profile p) := by
  obtain ⟨desc, hd, horigin⟩ := Option.map_eq_some_iff.1 h
  rw [← horigin]
  refine origins_of_valueFor (valueFor_closeOutput hd ?_ hne)
  unfold AudioOutputDescriptor.isDuplicated
  rw [horigin]

theorem origins_of_closeOutput {origin : Origin}
    (h : (s.closeOutput B output).origins o = some origin) : s.origins o = some origin := by
  obtain ⟨desc, hd, rfl⟩ := Option.map_eq_some_iff.1 h
  exact origins_of_valueFor (valueFor_of_closeOutput hd)

/-- A closed output takes with it what duplicates it. -/
theorem not_duplicates_of_closeOutput (h : output ∈ s.mOutputs) {desc : AudioOutputDescriptor}
    (hd : (s.closeOutput B output).mOutputs.valueFor o = some desc) : ¬Duplicates desc output := by
  unfold closeOutput at hd
  rw [if_pos h, KeyedVector.valueFor_filter] at hd
  have hkept := (Option.filter_eq_some_iff.1 hd).2
  exact (of_decide_eq_true hkept).2

theorem wired_closeOutput (hw : Wired s) (output : ℕ) : Wired (s.closeOutput B output) := by
  have hkeeps := keeps_closeOutput (B := B) (s := s) output
  have hloaded : (s.closeOutput B output).loadedProfiles = s.loadedProfiles := by
    unfold loadedProfiles
    rw [hkeeps.mHwModules]
  refine ⟨?_, ?_, ?_⟩
  · intro o q ho
    rw [hloaded]
    exact hw.loaded o q (origins_of_closeOutput ho)
  · intro o o₁ o₂ ho
    obtain ⟨⟨q₁, h1⟩, ⟨q₂, h2⟩⟩ := hw.duplicated o o₁ o₂ (origins_of_closeOutput ho)
    by_cases hopen : output ∈ s.mOutputs
    · obtain ⟨desc, hd, horigin⟩ := Option.map_eq_some_iff.1 ho
      have hno := not_duplicates_of_closeOutput hopen hd
      unfold Duplicates at hno
      rw [horigin] at hno
      exact ⟨⟨q₁, origins_closeOutput h1 fun e => hno (.inl e)⟩,
        ⟨q₂, origins_closeOutput h2 fun e => hno (.inr e)⟩⟩
    · unfold closeOutput
      rw [if_neg hopen]
      exact ⟨⟨q₁, h1⟩, ⟨q₂, h2⟩⟩
  · intro o₁ o₂ ho
    rw [hkeeps.mPrimaryOutput] at ho
    exact hw.primary o₁ o₂ (origins_of_closeOutput ho)

theorem wired_closeUnused {l : List ℕ} (hw : Wired s) (h : s.closeUnused B state l = some s') :
    Wired s' := by
  induction l generalizing s with
  | nil =>
    obtain rfl := Option.some.inj h
    exact hw
  | cons output l ih =>
    unfold closeUnused at h
    split at h
    · exact ih (wired_closeOutput hw output) h
    · split at h
      · cases h
      · split at h
        · exact ih (wired_closeOutput hw output) h
        · exact ih hw h

/-! ### The outputs for a device -/

/-- A new output that duplicates another duplicates the primary one, which is open. -/
theorem wired_opened (hw : Wired s) (hprimary : s.mPrimaryOutput ∈ s.mOutputs)
    (hp : p ∈ s.loadedProfiles) (honly : OnlyOutputs s s') (h : Opened p s s' output) : Wired s' := by
  have hloaded : s'.loadedProfiles = s.loadedProfiles := by
    unfold loadedProfiles
    rw [honly.keeps.mHwModules]
  have hkept : ∀ o origin, s.origins o = some origin → s'.origins o = some origin := by
    intro o origin ho
    unfold origins
    rw [h.kept o (mem_mOutputs.2 ⟨_, ho⟩)]
    exact ho
  have hnew : s'.origins output = some (.profile p) := by
    obtain ⟨desc, hd, horigin⟩ := h.descriptor
    rw [origins_of_valueFor hd, horigin]
  have hcases : ∀ o origin, s'.origins o = some origin → origin = .profile p ∨
      s.origins o = some origin ∨ origin = .duplicated s.mPrimaryOutput output := by
    intro o origin ho
    obtain ⟨desc, hd, rfl⟩ := Option.map_eq_some_iff.1 ho
    rcases h.added o desc hd with rfl | hm | ⟨-, horigin⟩
    · rw [hnew] at ho
      exact .inl (Option.some.inj ho).symm
    · rw [h.kept o hm] at hd
      exact .inr (.inl (origins_of_valueFor hd))
    · exact .inr (.inr horigin)
  refine ⟨?_, ?_, ?_⟩
  · intro o q ho
    rw [hloaded]
    rcases hcases o _ ho with e | ho | e
    · obtain rfl := Origin.profile.inj e
      exact hp
    · exact hw.loaded o q ho
    · cases e
  · intro o o₁ o₂ ho
    rcases hcases o _ ho with e | ho | e
    · cases e
    · obtain ⟨⟨q₁, h1⟩, ⟨q₂, h2⟩⟩ := hw.duplicated o o₁ o₂ ho
      exact ⟨⟨q₁, hkept _ _ h1⟩, ⟨q₂, hkept _ _ h2⟩⟩
    · obtain ⟨rfl, rfl⟩ := Origin.duplicated.inj e
      obtain ⟨origin, horigin⟩ := mem_mOutputs.1 hprimary
      cases origin with
      | profile q => exact ⟨⟨q, hkept _ _ horigin⟩, ⟨p, hnew⟩⟩
      | duplicated o₁ o₂ => exact absurd horigin (hw.primary o₁ o₂)
  · intro o₁ o₂ ho
    obtain ⟨origin, horigin⟩ := mem_mOutputs.1 hprimary
    rw [honly.keeps.mPrimaryOutput, hkept _ _ horigin] at ho
    exact hw.primary o₁ o₂ (horigin.trans ho)

theorem wired_openProfiles {ps : List ℕ} (hw : Wired s) (hprimary : s.mPrimaryOutput ∈ s.mOutputs)
    (hps : ∀ p ∈ ps, p ∈ s.loadedProfiles) : Wired (openProfiles c ps s outputs).1 := by
  induction ps generalizing s outputs with
  | nil => exact hw
  | cons p ps ih =>
    have honly : OnlyOutputs s (s.openProfile c p).1 := only_openProfile
    have hp : p ∈ s.loadedProfiles := hps p (List.mem_cons_self ..)
    have hps' : ∀ p ∈ ps, p ∈ s.loadedProfiles := fun p h => hps p (List.mem_cons_of_mem _ h)
    have hloaded : (s.openProfile c p).1.loadedProfiles = s.loadedProfiles := by
      unfold loadedProfiles
      rw [honly.keeps.mHwModules]
    rcases openProfiles_cons c p ps s outputs with ⟨-, e⟩ | ⟨-, hsame, e⟩ | ⟨output, -, hopened, e⟩
    · rw [e]
      exact ih hw hprimary hps'
    · have hwiring := honly.wiring hsame
      rw [e]
      refine ih (hwiring.wired hw) ?_ (hloaded ▸ hps')
      rw [mem_mOutputs, hwiring.mPrimaryOutput, hwiring.origins]
      exact mem_mOutputs.1 hprimary
    · rw [e]
      refine ih (wired_opened hw hprimary hp honly hopened) ?_ (hloaded ▸ hps')
      rw [honly.keeps.mPrimaryOutput, KeyedVector.mem_iff_valueFor, hopened.kept _ hprimary]
      exact KeyedVector.mem_iff_valueFor.1 hprimary

theorem wired_connectOutputs (hw : Wired s) (hprimary : s.mPrimaryOutput ∈ s.mOutputs) :
    Wired (s.connectOutputs c device).2.1 := by
  unfold connectOutputs
  dsimp only
  split
  · exact hw
  · exact wired_openProfiles hw hprimary fun p hp => (mem_profilesFor.1 hp).1

/-- What is open afterwards was open, or has a handle of the client's. -/
theorem mem_openProfile (h : o ∈ (s.openProfile c p).1.mOutputs) :
    o ∈ s.mOutputs ∨ ∃ r used, o = c.handle r used := by
  have hadd : ∀ {v : KeyedVector ℕ AudioOutputDescriptor} {r used desc},
      o ∈ v.add (c.handle r used) desc → o ∈ v ∨ ∃ r used, o = c.handle r used := by
    intro v r used desc hm
    rcases KeyedVector.mem_add.1 hm with hm | hm
    · exact .inr ⟨r, used, hm⟩
    · exact .inl hm
  unfold openProfile at h
  dsimp only at h
  split at h
  · exact .inl h
  · split at h
    · split at h
      · exact .inl h
      · exact hadd h
    · split at h
      · rcases hadd h with h | h
        · exact hadd h
        · exact .inr h
      · obtain ⟨desc, hd⟩ := KeyedVector.mem_iff_valueFor.1 h
        rw [KeyedVector.valueFor_removeItem] at hd
        split at hd
        · cases hd
        · exact hadd (KeyedVector.mem_iff_valueFor.2 ⟨desc, hd⟩)

theorem mem_openProfiles_of {ps : List ℕ} (h : o ∈ (openProfiles c ps s outputs).1.mOutputs) :
    o ∈ s.mOutputs ∨ ∃ r used, o = c.handle r used := by
  induction ps generalizing s outputs with
  | nil => exact .inl h
  | cons p ps ih =>
    have hone := mem_openProfile (c := c) (p := p) (s := s) (o := o)
    unfold openProfiles at h
    split at h
    · exact ih h
    · split at h
      next s₁ e =>
        rw [e] at hone
        exact (ih h).elim hone .inr
      next s₁ output e =>
        rw [e] at hone
        exact (ih h).elim hone .inr

/-- The primary output is open afterwards only if it was open, as its handle is not used again. -/
theorem primary_of_connectOutputs (hc : ∀ r used, c.handle r used ≠ s.mPrimaryOutput)
    (h : s.mPrimaryOutput ∈ (s.connectOutputs c device).2.1.mOutputs) :
    s.mPrimaryOutput ∈ s.mOutputs := by
  have hopen : ∀ {ps outputs}, s.mPrimaryOutput ∈ (openProfiles c ps s outputs).1.mOutputs →
      s.mPrimaryOutput ∈ s.mOutputs := by
    intro ps outputs hm
    rcases mem_openProfiles_of hm with hm | ⟨r, used, e⟩
    · exact hm
    · exact absurd e.symm (hc r used)
  unfold connectOutputs at h
  dsimp only at h
  split at h
  · exact h
  · exact hopen h

theorem plain_handle (r : Request) (used : List ℕ) : Client.plain.handle r used ≠ 1 := by
  have hle : 1 ≤ used.foldr max 1 := by
    induction used with
    | nil => exact le_rfl
    | cons h used ih => exact ih.trans (le_max_right ..)
  exact ne_of_gt (Nat.lt_succ_of_le hle)

theorem origins_plainDirect (flags : OutputFlags) (o : ℕ) :
    (plainDirect flags).origins o = if o = 1 then some (.profile 0) else none := by
  have hadd : (plainDirect flags).mOutputs.valueFor o = if o = 1 then some _ else none :=
    KeyedVector.valueFor_add
  unfold origins
  rw [hadd]
  split <;> rfl

/-! ### Calls -/

theorem wiring_countFm (B : Base R) (H : Headers) (device : Devices) (state : ConnectionState)
    (s : State R) : SameWiring s (s.countFm B H device state).1 := by
  refine ⟨?_, keeps_countFm.mPrimaryOutput, keeps_countFm.mHwModules⟩
  have hmodify : ∀ delta : Int, SameWiring s { s with
      mOutputs := s.mOutputs.modify s.mPrimaryOutput (·.changeRefCount .music delta) } :=
    fun delta => wiring_modify fun _ => rfl
  unfold origins
  rw [mOutputs_countFm]
  split
  · exact (hmodify _).origins
  · rfl

theorem wired_finishOutput (hw : Wired s) (h : s.finishOutput B H device state outputs = some s') :
    Wired s' := by
  obtain ⟨-, s₁, s₂, hkeeps, ho, hclose, hsame⟩ := finishOutput_cases h
  have hcount : SameWiring s s₁ := by
    refine ⟨?_, hkeeps.mPrimaryOutput, hkeeps.mHwModules⟩
    rw [origins_congr ho]
    exact (wiring_countFm B H device state s).origins
  exact hsame.wiring.wired (wired_closeUnused (hcount.wired hw) hclose)

theorem wiring_startFm (hs : s.startFm H isAnalog device = some s') : SameWiring s s' := by
  obtain ⟨-, mode, rfl⟩ := startFm_cases hs
  exact ⟨rfl, rfl, rfl⟩

theorem wiring_setForceUse (usage : ForceUse) (config : ForcedConfig) (s : State R) :
    SameWiring s (s.setForceUse B H usage config) := by
  have happly : ∀ s' : State R, SameWiring s s' → SameWiring s (s'.applyForceUse B H) :=
    fun s' h => h.trans (same_applyForceUse s').wiring
  unfold setForceUse
  split
  · exact happly s (.refl s)
  · split
    · exact .refl s
    · split
      · exact ⟨rfl, rfl, rfl⟩
      · exact happly _ ⟨rfl, rfl, rfl⟩
  · split
    · exact .refl s
    · exact happly _ ⟨rfl, rfl, rfl⟩

theorem wiring_stopFm (hs : s.stopFm B H device = some s') : SameWiring s s' := by
  by_cases hfm : device = H.AUDIO_DEVICE_OUT_FM
  · refine .trans ?_ (stopFm_of_fm hfm hs).wiring
    unfold fmOff
    dsimp only
    have hoff : SameWiring s (s.setFmMode .none) := ⟨rfl, rfl, rfl⟩
    split
    · exact hoff.trans (wiring_setForceUse ..)
    · exact hoff
  · rw [stopFm_of_ne hfm] at hs
    obtain rfl := Option.some.inj hs
    exact .refl s

theorem wiring_setInputState : SameWiring s (s.setInputState B H device state).2 := by
  obtain ⟨hkeeps, ho⟩ := keeps_setInputState B H device state s
  exact ⟨origins_congr ho, hkeeps.mPrimaryOutput, hkeeps.mHwModules⟩

theorem wiring_changePaired : SameWiring s (s.changePaired B H device state).2 := by
  obtain ⟨hkeeps, ho⟩ := keeps_changePaired B H device state s
  exact ⟨origins_congr ho, hkeeps.mPrimaryOutput, hkeeps.mHwModules⟩

/-- The primary output of a run is the same, and the outputs stay wired. -/
def KeepsWired (s s' : State R) : Prop := Wired s → Wired s' ∧ s'.mPrimaryOutput = s.mPrimaryOutput

theorem SameWiring.keepsWired (h : SameWiring s s') : KeepsWired s s' :=
  fun hw => ⟨h.wired hw, h.mPrimaryOutput⟩

theorem KeepsWired.trans (h : KeepsWired s s') (h' : KeepsWired s' s'') : KeepsWired s s'' := by
  intro hw
  obtain ⟨hw', hp⟩ := h hw
  obtain ⟨hw'', hp'⟩ := h' hw'
  exact ⟨hw'', hp'.trans hp⟩

theorem keepsWired_closeOutput (output : ℕ) : KeepsWired s (s.closeOutput B output) :=
  fun hw => ⟨wired_closeOutput hw output, (keeps_closeOutput output).mPrimaryOutput⟩

/-- The end of a call on an output device. -/
theorem wired_finish (h : s.finishOutput B H device state outputs = some s') :
    KeepsWired s (s'.changePaired B H device state).2 := by
  refine KeepsWired.trans (fun hw => ?_) wiring_changePaired.keepsWired
  exact ⟨wired_finishOutput hw h, (keeps_finishOutput h).mPrimaryOutput⟩

theorem wired_outputChange {r : Status × State R}
    (hc : ∀ r used, c.handle r used ≠ s.mPrimaryOutput)
    (h : OutputChange B H c isAnalog device s state r) : KeepsWired s r.2 := by
  intro hw
  cases h with
  | busy h => exact ⟨hw, rfl⟩
  | refused h1 hc h2 ho =>
    have hwiring := (wiring_startFm h1).trans (h2.wiring ho)
    exact ⟨hwiring.wired hw, hwiring.mPrimaryOutput⟩
  | @connected s₁ s₂ s₃ h1 hcon h2 ho h3 =>
    have hstart := wiring_startFm h1
    have hw₁ : Wired s₁ := hstart.wired hw
    have hopen : s₁.mPrimaryOutput ∈ s₁.mOutputs := by
      have hprimary := (finishOutput_cases h3).1
      rw [h2.mPrimaryOutput, ho] at hprimary
      exact primary_of_connectOutputs (hstart.mPrimaryOutput ▸ hc) hprimary
    have honly : OnlyOutputs s₁ (s₁.checkOutputsForDevice c device .available).2.1 :=
      only_connectOutputs
    have hw₂ : Wired s₂ := by
      refine SameWiring.wired ⟨origins_congr ho, ?_, ?_⟩ (wired_connectOutputs hw₁ hopen)
      · exact h2.mPrimaryOutput.trans honly.keeps.mPrimaryOutput.symm
      · exact h2.mHwModules.trans honly.keeps.mHwModules.symm
    obtain ⟨hw', hp'⟩ := wired_finish h3 hw₂
    exact ⟨hw', hp'.trans (h2.mPrimaryOutput.trans hstart.mPrimaryOutput)⟩
  | absent h1 hc =>
    have hwiring := wiring_stopFm h1
    exact ⟨hwiring.wired hw, hwiring.mPrimaryOutput⟩
  | @disconnected s₁ s₂ s₃ h1 hcon h2 ho h3 =>
    have hdevices : SameWiring s₁ s₂ := ⟨origins_congr ho, h2.mPrimaryOutput, h2.mHwModules⟩
    exact ((wiring_stopFm h1).trans hdevices).keepsWired.trans (wired_finish h3) hw
  | badState code => exact ⟨hw, rfl⟩

theorem wired_setDeviceConnectionState {r : Status × State R}
    (hc : ∀ r used, c.handle r used ≠ s.mPrimaryOutput)
    (h : s.setDeviceConnectionState B H c isAnalog device state device_address = some r) :
    KeepsWired s r.2 := by
  rcases setDeviceConnectionState_cases h with ⟨rfl, -⟩ | ⟨-, h⟩ | ⟨-, rfl⟩
  · exact (SameWiring.refl s).keepsWired
  · have hsave : SameWiring s s.saveOutputs := ⟨rfl, rfl, rfl⟩
    exact hsave.keepsWired.trans (wired_outputChange hc h)
  · exact wiring_setInputState.keepsWired

theorem wired_openDirect {config : OutputConfig} {flags : OutputFlags} (hp : p ∈ s.loadedProfiles) :
    KeepsWired s (s.openDirect B c p config flags).2 := by
  intro hw
  unfold openDirect
  dsimp only
  split
  · exact ⟨hw, rfl⟩
  · have hadd : Wired (s.addOutput (c.handle (.output p) s.mOutputs.keys)
        ((s.profile p).directDescriptor p (c.config (.output p) config) flags)) :=
      wired_addOutput hw (handle_not_mem _ _) rfl hp
    refine ⟨SameWiring.wired ?_ hadd, rfl⟩
    exact ⟨rfl, rfl, rfl⟩

theorem wired_getDirectOutput {config : OutputConfig} {flags : OutputFlags}
    (hp : p ∈ s.loadedProfiles) : KeepsWired s (s.getDirectOutput B c p config flags).2 := by
  unfold getDirectOutput
  split
  next output desc h =>
    have hmodify : SameWiring s { s with mOutputs := s.mOutputs.modify output fun desc =>
        { desc with mDirectOpenCount := desc.mDirectOpenCount + 1 } } := wiring_modify fun _ => rfl
    exact hmodify.keepsWired
  next =>
    split
    next output desc h =>
      refine (keepsWired_closeOutput output).trans (wired_openDirect ?_)
      unfold loadedProfiles at hp ⊢
      rw [(keeps_closeOutput output).mHwModules]
      exact hp
    next => exact wired_openDirect hp

theorem wired_getOutput {stream : StreamType} {config : OutputConfig} {flags : OutputFlags} :
    KeepsWired s (s.getOutput B H c stream config flags).2 := by
  unfold getOutput
  split
  next p hp =>
    apply wired_getDirectOutput
    unfold directProfile getProfileForDirectOutput at hp
    dsimp only at hp
    split at hp
    · exact List.mem_of_find?_eq_some hp
    · cases hp
  next => exact (SameWiring.refl s).keepsWired

theorem wired_releaseOutput : KeepsWired s (s.releaseOutput B output) := by
  unfold releaseOutput
  split
  · exact (SameWiring.refl s).keepsWired
  · split
    · split
      · exact (SameWiring.refl s).keepsWired
      · dsimp only
        have hmodify : SameWiring s { s with mOutputs := s.mOutputs.modify output fun desc =>
            { desc with mDirectOpenCount := desc.mDirectOpenCount - 1 } } :=
          wiring_modify fun _ => rfl
        split
        · refine (hmodify.keepsWired.trans (keepsWired_closeOutput (B := B) output)).trans ?_
          exact SameWiring.keepsWired ⟨rfl, rfl, rfl⟩
        · exact hmodify.keepsWired
    · exact (SameWiring.refl s).keepsWired

theorem wiring_changeRefCount (output : ℕ) (stream : StreamType) (delta : Int) (s : State R) :
    SameWiring s (s.changeRefCount output stream delta) := by
  have hone : ∀ (s : State R) output, SameWiring s (s.countOne output stream delta) :=
    fun s output => wiring_modify fun _ => rfl
  unfold changeRefCount
  split
  · exact ((hone s _).trans (hone _ _)).trans (hone _ _)
  · exact hone s output

theorem wiring_startOutput {stream : StreamType} :
    SameWiring s (s.startOutput B H output stream).2 := by
  by_cases h : output ∈ s.mOutputs
  · exact (wiring_changeRefCount ..).trans (same_startOutput h).wiring
  · rw [startOutput_of_closed h]
    exact .refl s

theorem wiring_stopOutput {stream : StreamType} :
    SameWiring s (s.stopOutput B output stream).2 := by
  by_cases h : output ∈ s.mOutputs
  · refine .trans ?_ (same_stopOutput h).wiring
    split
    · exact .refl s
    · exact wiring_changeRefCount ..
  · rw [stopOutput_of_closed h]
    exact .refl s

/-- **The invariant.** Every call keeps the outputs wired. -/
theorem wired_step {call : Call}
    (hc : ∀ c ∈ call.client, ∀ r used, c.handle r used ≠ s.mPrimaryOutput)
    (h : step B H s call = some s') : KeepsWired s s' := by
  cases call with
  | setDeviceConnectionState c isAnalog device state device_address =>
    obtain ⟨r, hr, rfl⟩ := Option.map_eq_some_iff.1 h
    exact wired_setDeviceConnectionState (hc c rfl) hr
  | setForceUse usage config =>
    obtain rfl := Option.some.inj h
    exact (wiring_setForceUse usage config s).keepsWired
  | setPhoneState state => exact (same_setPhoneState h).wiring.keepsWired
  | getOutput c stream config flags =>
    obtain rfl := Option.some.inj h
    exact wired_getOutput
  | releaseOutput output =>
    obtain rfl := Option.some.inj h
    exact wired_releaseOutput
  | startOutput output stream =>
    obtain rfl := Option.some.inj h
    exact wiring_startOutput.keepsWired
  | stopOutput output stream =>
    obtain rfl := Option.some.inj h
    exact wiring_stopOutput.keepsWired

end State

end Msm7x27a.Policy
