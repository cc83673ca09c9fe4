import Msm7x27a.Policy.Manager

/-!
# Outputs for a device

`checkOutputsForDevice`.  When a device is connected it lists the open outputs that can be routed to
the device and opens an output for every other profile that can; a profile whose output cannot be
opened is dropped.  When a device is disconnected it lists the outputs that are not needed any more.
-/

namespace Msm7x27a.Policy

open Msm7x27a.Audio (Status noError badValue)
open Msm7x27a.Route (Devices)

namespace IOProfile

/-- The first rate is 0: the rates are queried from an open output. -/
def dynamicRates (p : IOProfile) : Bool := p.mSamplingRates.head? = some 0

def dynamicFormats (p : IOProfile) : Bool := p.mFormats.head? = some 0

def dynamicMasks (p : IOProfile) : Bool := p.mChannelMasks.head? = some 0

/-- A list that should have been queried has no entry.  The channel masks are checked if the formats
are dynamic. -/
def missingParam (p : IOProfile) : Bool :=
  p.dynamicRates && p.mSamplingRates.length < 2 ||
    p.dynamicFormats && p.mFormats.length < 2 ||
    p.dynamicFormats && p.mChannelMasks.length < 2

/-- The queries of a direct output; the values that a reply names are appended. -/
def query (c : Client) (address : ℕ) (p : IOProfile) : IOProfile :=
  let p := if p.dynamicRates then
    { p with mSamplingRates := p.mSamplingRates ++ (c.samplingRates address).getD [] } else p
  let p := if p.dynamicFormats then
    { p with mFormats := p.mFormats ++ (c.formats address).getD [] } else p
  if p.dynamicMasks then
    { p with mChannelMasks := p.mChannelMasks ++ (c.channelMasks address).getD [] } else p

/-- What was queried is cleared. -/
def clearDynamic (p : IOProfile) : IOProfile :=
  let p := if p.dynamicRates then { p with mSamplingRates := [0] } else p
  let p := if p.dynamicFormats then { p with mFormats := [0] } else p
  if p.dynamicMasks then { p with mChannelMasks := [0] } else p

/-- The descriptor of an output of the profile at `address`: it is opened for the first of the
profile's values, and `openOutput` may change them. -/
def descriptor (address : ℕ) (opened : OutputConfig → OutputConfig) (p : IOProfile) :
    AudioOutputDescriptor where
  toOutputConfig := opened {
    mSamplingRate := p.mSamplingRates.head?.getD 0
    mFormat := p.mFormats.head?.getD 0
    mChannelMask := p.mChannelMasks.head?.getD 0 }
  origin := .profile address
  mFlags := p.mFlags

end IOProfile

namespace State

variable {R : Type}

/-- The handles of the outputs that are not duplicated and whose devices have `p`. -/
def outputsWith (s : State R) (p : Devices → Bool) : SortedVector ℕ :=
  s.mOutputs.toList.foldl (fun outputs o =>
    if o.2.isDuplicated = false ∧ p (s.supportedBy o.2) then outputs.add o.1 else outputs) .empty

/-- The profiles of the loaded modules. -/
def loadedProfiles (s : State R) : List ℕ :=
  (s.mHwModules.filter fun m => m.mHandle ≠ 0).flatMap HwModule.mOutputProfiles

/-- The profiles that can be routed to the device. -/
def profilesFor (s : State R) (device : Devices) : SortedVector ℕ :=
  s.loadedProfiles.foldl (fun profiles p =>
    if (s.profile p).mSupportedDevices.has device then profiles.add p else profiles) .empty

/-- An output is open for the profile. -/
def isOpen (s : State R) (p : ℕ) : Bool :=
  s.mOutputs.toList.any fun o => o.2.origin = .profile p

/-- The output for a profile that is open neither for it nor on demand: the handle, if it stays. -/
def openProfile (c : Client) (p : ℕ) (s : State R) : State R × Option ℕ :=
  let flags := (s.profile p).mFlags
  if flags.onDemand ∨ c.opens (.output p) = false then (s, none)
  else
    let output := c.handle (.output p) s.mOutputs.keys
    let desc := (s.profile p).descriptor p (c.config (.output p))
    if flags.DIRECT then
      let s := { s with profile := Function.update s.profile p ((s.profile p).query c p) }
      if (s.profile p).missingParam then (s, none) else (s.addOutput output desc, some output)
    else
      let s := s.addOutput output desc
      if c.opens (.duplicate p) then
        let duplicatedOutput := c.handle (.duplicate p) s.mOutputs.keys
        (s.addOutput duplicatedOutput { desc with
          origin := .duplicated s.mPrimaryOutput output
          mFlags := {} }, some output)
      else ({ s with mOutputs := s.mOutputs.removeItem output }, none)

/-- The loop over the profiles: the state, the outputs, and the profiles that are left. -/
def openProfiles (c : Client) : List ℕ → State R → SortedVector ℕ →
    State R × SortedVector ℕ × List ℕ
  | [], s, outputs => (s, outputs, [])
  | p :: ps, s, outputs =>
    if s.isOpen p then
      let r := openProfiles c ps s outputs
      (r.1, r.2.1, p :: r.2.2)
    else
      match s.openProfile c p with
      | (s, none) => openProfiles c ps s outputs
      | (s, some output) =>
        let r := openProfiles c ps s (outputs.add output)
        (r.1, r.2.1, p :: r.2.2)

/-- `checkOutputsForDevice` for a device that is connected. -/
def connectOutputs (c : Client) (device : Devices) (s : State R) : Status × State R × SortedVector ℕ :=
  let outputs := s.outputsWith fun supported => supported.has device
  let profiles := (s.profilesFor device).toList
  if profiles = [] ∧ outputs.toList = [] then (badValue, s, outputs)
  else
    let r := openProfiles c profiles s outputs
    (if r.2.2 = [] then badValue else noError, r.1, r.2.1)

/-- A direct profile of the device forgets what was queried. -/
def clearDirect (device : Devices) (profile : ℕ → IOProfile) (p : ℕ) : ℕ → IOProfile :=
  if (profile p).mSupportedDevices.has device ∧ (profile p).mFlags.DIRECT then
    Function.update profile p (profile p).clearDynamic
  else profile

/-- `checkOutputsForDevice` for a device that is disconnected. -/
def disconnectOutputs (device : Devices) (s : State R) : Status × State R × SortedVector ℕ :=
  (noError, { s with profile := s.loadedProfiles.foldl (clearDirect device) s.profile },
    s.outputsWith fun supported => !supported.has s.mAvailableOutputDevices)

def checkOutputsForDevice (c : Client) (device : Devices) (state : ConnectionState) (s : State R) :
    Status × State R × SortedVector ℕ :=
  if state = .available then s.connectOutputs c device else s.disconnectOutputs device

/-! ### What the check changes -/

/-- At most the outputs and the profiles differ. -/
def OnlyOutputs (s s' : State R) : Prop :=
  s' = { s with mOutputs := s'.mOutputs, profile := s'.profile }

/-- The same outputs are open, with the same descriptors. -/
def SameOutputs (s s' : State R) : Prop :=
  ∀ output, s'.mOutputs.valueFor output = s.mOutputs.valueFor output

/-- An output has been opened for the profile, beside those that were open. -/
structure Opened (p : ℕ) (s s' : State R) (output : ℕ) : Prop where
  new : output ∉ s.mOutputs
  kept : ∀ o ∈ s.mOutputs, s'.mOutputs.valueFor o = s.mOutputs.valueFor o
  descriptor : ∃ desc, s'.mOutputs.valueFor output = some desc ∧ desc.origin = .profile p
  /-- Another new output duplicates it and the primary one. -/
  added : ∀ o desc, s'.mOutputs.valueFor o = some desc → o = output ∨ o ∈ s.mOutputs ∨
    o ∉ s.mOutputs ∧ desc.origin = .duplicated s.mPrimaryOutput output

/-- The listed outputs are open, and not duplicating ones. -/
def Listed (s : State R) (outputs : SortedVector ℕ) : Prop :=
  ∀ output ∈ outputs, ∃ desc, s.mOutputs.valueFor output = some desc ∧ desc.isDuplicated = false

section Check

variable {c : Client} {p : ℕ} {s s' s'' : State R} {outputs : SortedVector ℕ} {device : Devices}

theorem OnlyOutputs.refl (s : State R) : OnlyOutputs s s := rfl

theorem OnlyOutputs.trans (h : OnlyOutputs s s') (h' : OnlyOutputs s' s'') : OnlyOutputs s s'' := by
  unfold OnlyOutputs at *
  rw [h', h]

theorem only_openProfile : OnlyOutputs s (s.openProfile c p).1 := by
  unfold openProfile
  dsimp only
  split
  · rfl
  · split
    · split <;> rfl
    · split <;> rfl

theorem handle_not_mem (r : Request) (v : KeyedVector ℕ AudioOutputDescriptor) :
    c.handle r v.keys ∉ v := c.fresh r v.keys

/-- **One profile.** Its output stays, beside those that were open, or none is opened. -/
theorem openProfile_cases (c : Client) (p : ℕ) (s : State R) :
    (s.openProfile c p).2 = none ∧ SameOutputs s (s.openProfile c p).1 ∨
      ∃ output, (s.openProfile c p).2 = some output ∧ Opened p s (s.openProfile c p).1 output := by
  have hnew := handle_not_mem (c := c) (.output p) s.mOutputs
  have hne : ∀ o ∈ s.mOutputs, o ≠ c.handle (.output p) s.mOutputs.keys := fun o ho e => hnew (e ▸ ho)
  unfold openProfile
  dsimp only
  split
  · exact .inl ⟨rfl, fun _ => rfl⟩
  · split
    · split
      · exact .inl ⟨rfl, fun _ => rfl⟩
      · refine .inr ⟨_, rfl, hnew, ?_, ⟨(s.profile p).descriptor p (c.config (.output p)),
          KeyedVector.valueFor_add.trans (if_pos rfl), rfl⟩, ?_⟩
        · intro o ho
          exact KeyedVector.valueFor_add.trans (if_neg (hne o ho))
        · intro o desc ho
          rcases KeyedVector.mem_add.1 (KeyedVector.mem_iff_valueFor.2 ⟨desc, ho⟩) with h | h
          · exact .inl h
          · exact .inr (.inl h)
    · split
      · -- the duplicating output has another handle again
        have hdup := handle_not_mem (c := c) (.duplicate p) (s.addOutput
          (c.handle (.output p) s.mOutputs.keys)
          ((s.profile p).descriptor p (c.config (.output p)))).mOutputs
        have hne' : ∀ o, o = c.handle (.output p) s.mOutputs.keys ∨ o ∈ s.mOutputs →
            o ≠ c.handle (.duplicate p) _ := fun o ho e => hdup (e ▸ KeyedVector.mem_add.2 ho)
        refine .inr ⟨_, rfl, hnew, ?_, ⟨(s.profile p).descriptor p (c.config (.output p)), ?_, rfl⟩,
          ?_⟩
        · intro o ho
          refine KeyedVector.valueFor_add.trans ((if_neg (hne' o (.inr ho))).trans ?_)
          exact KeyedVector.valueFor_add.trans (if_neg (hne o ho))
        · refine KeyedVector.valueFor_add.trans ((if_neg (hne' _ (.inl rfl))).trans ?_)
          exact KeyedVector.valueFor_add.trans (if_pos rfl)
        · intro o desc ho
          rcases KeyedVector.mem_add.1 (KeyedVector.mem_iff_valueFor.2 ⟨desc, ho⟩) with h | h
          · obtain rfl := Option.some.inj ((KeyedVector.valueFor_add.trans (if_pos h)).symm.trans ho)
            exact .inr (.inr ⟨fun hm => hne' o (.inr hm) h, rfl⟩)
          · rcases KeyedVector.mem_add.1 h with h | h
            · exact .inl h
            · exact .inr (.inl h)
      · exact .inl ⟨rfl, fun _ => KeyedVector.valueFor_removeItem_add hnew⟩

/-! ### The loop -/

section Loop

variable {ps : List ℕ} {output : ℕ}

theorem openProfiles_open (h : s.isOpen p = true) : openProfiles c (p :: ps) s outputs =
    ((openProfiles c ps s outputs).1, (openProfiles c ps s outputs).2.1,
      p :: (openProfiles c ps s outputs).2.2) := by
  rw [openProfiles, if_pos h]

theorem openProfiles_none (h : s.isOpen p = false) (hnone : (s.openProfile c p).2 = none) :
    openProfiles c (p :: ps) s outputs = openProfiles c ps (s.openProfile c p).1 outputs := by
  rw [openProfiles, if_neg (Bool.eq_false_iff.1 h)]
  rcases e : s.openProfile c p with ⟨s', r⟩
  rw [e] at hnone
  obtain rfl : r = none := hnone
  rfl

theorem openProfiles_some (h : s.isOpen p = false) (hsome : (s.openProfile c p).2 = some output) :
    openProfiles c (p :: ps) s outputs =
      ((openProfiles c ps (s.openProfile c p).1 (outputs.add output)).1,
        (openProfiles c ps (s.openProfile c p).1 (outputs.add output)).2.1,
        p :: (openProfiles c ps (s.openProfile c p).1 (outputs.add output)).2.2) := by
  rw [openProfiles, if_neg (Bool.eq_false_iff.1 h)]
  rcases e : s.openProfile c p with ⟨s', r⟩
  rw [e] at hsome
  obtain rfl : r = some output := hsome
  rfl

/-- **One turn.** The profile is open already; or its output cannot be opened, and the profile is
dropped; or its output is listed. -/
theorem openProfiles_cons (c : Client) (p : ℕ) (ps : List ℕ) (s : State R)
    (outputs : SortedVector ℕ) :
    s.isOpen p = true ∧ openProfiles c (p :: ps) s outputs =
        ((openProfiles c ps s outputs).1, (openProfiles c ps s outputs).2.1,
          p :: (openProfiles c ps s outputs).2.2) ∨
      s.isOpen p = false ∧ SameOutputs s (s.openProfile c p).1 ∧
        openProfiles c (p :: ps) s outputs = openProfiles c ps (s.openProfile c p).1 outputs ∨
      ∃ output, s.isOpen p = false ∧ Opened p s (s.openProfile c p).1 output ∧
        openProfiles c (p :: ps) s outputs =
          ((openProfiles c ps (s.openProfile c p).1 (outputs.add output)).1,
            (openProfiles c ps (s.openProfile c p).1 (outputs.add output)).2.1,
            p :: (openProfiles c ps (s.openProfile c p).1 (outputs.add output)).2.2) := by
  cases hopen : s.isOpen p with
  | true => exact .inl ⟨rfl, openProfiles_open hopen⟩
  | false =>
    rcases openProfile_cases c p s with ⟨hnone, hsame⟩ | ⟨output, hsome, hopened⟩
    · exact .inr (.inl ⟨rfl, hsame, openProfiles_none hopen hnone⟩)
    · exact .inr (.inr ⟨output, rfl, hopened, openProfiles_some hopen hsome⟩)

end Loop

theorem only_openProfiles {ps : List ℕ} : OnlyOutputs s (openProfiles c ps s outputs).1 := by
  induction ps generalizing s outputs with
  | nil => rfl
  | cons p ps ih =>
    have honly : OnlyOutputs s (s.openProfile c p).1 := only_openProfile
    rcases openProfiles_cons c p ps s outputs with ⟨-, e⟩ | ⟨-, -, e⟩ | ⟨output, -, -, e⟩
    · rw [e]
      exact ih
    · rw [e]
      exact honly.trans ih
    · rw [e]
      exact honly.trans ih

/-- If no profile is left, every output that was opened is closed again. -/
theorem same_openProfiles {ps : List ℕ} (h : (openProfiles c ps s outputs).2.2 = []) :
    SameOutputs s (openProfiles c ps s outputs).1 := by
  induction ps generalizing s outputs with
  | nil => exact fun _ => rfl
  | cons p ps ih =>
    rcases openProfiles_cons c p ps s outputs with ⟨-, e⟩ | ⟨-, hsame, e⟩ | ⟨output, -, -, e⟩
    · rw [e] at h
      cases h
    · rw [e] at h ⊢
      exact fun output => (ih h output).trans (hsame output)
    · rw [e] at h
      cases h

theorem Opened.listed {output : ℕ} (h : Opened p s s' output) (hl : Listed s outputs) :
    Listed s' (outputs.add output) := by
  intro o ho
  rcases SortedVector.mem_add.1 ho with rfl | ho
  · obtain ⟨desc, hd, horigin⟩ := h.descriptor
    refine ⟨desc, hd, ?_⟩
    simp only [AudioOutputDescriptor.isDuplicated, horigin]
  · obtain ⟨desc, hd, hdup⟩ := hl o ho
    exact ⟨desc, (h.kept o (KeyedVector.mem_iff_valueFor.2 ⟨desc, hd⟩)).trans hd, hdup⟩

theorem listed_openProfiles {ps : List ℕ} (hl : Listed s outputs) :
    Listed (openProfiles c ps s outputs).1 (openProfiles c ps s outputs).2.1 := by
  induction ps generalizing s outputs with
  | nil => exact hl
  | cons p ps ih =>
    rcases openProfiles_cons c p ps s outputs with ⟨-, e⟩ | ⟨-, hsame, e⟩ | ⟨output, -, hopened, e⟩
    · rw [e]
      exact ih hl
    · rw [e]
      apply ih
      intro o ho
      rw [hsame o]
      exact hl o ho
    · rw [e]
      exact ih (hopened.listed hl)

/-- Opening outputs leaves the open ones open, and lists no other of them. -/
theorem kept_openProfiles {ps : List ℕ} :
    (∀ o ∈ s.mOutputs, (openProfiles c ps s outputs).1.mOutputs.valueFor o =
      s.mOutputs.valueFor o) ∧
    ∀ o ∈ (openProfiles c ps s outputs).2.1, o ∈ outputs ∨ o ∉ s.mOutputs := by
  induction ps generalizing s outputs with
  | nil => exact ⟨fun _ _ => rfl, fun _ => .inl⟩
  | cons p ps ih =>
    rcases openProfiles_cons c p ps s outputs with ⟨-, e⟩ | ⟨-, hsame, e⟩ | ⟨output, -, hopened, e⟩
    · rw [e]
      exact ih
    · have hmem : ∀ o, o ∈ (s.openProfile c p).1.mOutputs ↔ o ∈ s.mOutputs := by
        intro o
        rw [KeyedVector.mem_iff_valueFor, KeyedVector.mem_iff_valueFor, hsame o]
      rw [e]
      refine ⟨fun o ho => ?_, fun o ho => ?_⟩
      · exact (ih.1 o ((hmem o).2 ho)).trans (hsame o)
      · exact (ih.2 o ho).imp_right fun h hm => h ((hmem o).2 hm)
    · have hmem : ∀ o ∈ s.mOutputs, o ∈ (s.openProfile c p).1.mOutputs := by
        intro o ho
        rw [KeyedVector.mem_iff_valueFor] at ho ⊢
        rwa [hopened.kept o (KeyedVector.mem_iff_valueFor.2 ho)]
      rw [e]
      refine ⟨fun o ho => ?_, fun o ho => ?_⟩
      · exact (ih.1 o (hmem o ho)).trans (hopened.kept o ho)
      · rcases ih.2 o ho with h | h
        · rcases SortedVector.mem_add.1 h with rfl | h
          · exact .inr hopened.new
          · exact .inl h
        · exact .inr fun hm => h (hmem o hm)

theorem mem_outputsWith {o : ℕ} {q : Devices → Bool} : o ∈ s.outputsWith q ↔
    ∃ desc, s.mOutputs.valueFor o = some desc ∧ desc.isDuplicated = false ∧
      q (s.supportedBy desc) = true := by
  unfold outputsWith
  rw [SortedVector.mem_foldl_add]
  simp only [SortedVector.not_mem_empty, false_or, KeyedVector.valueFor_eq_some]
  constructor
  · rintro ⟨⟨o, desc⟩, hd, hq, rfl⟩
    exact ⟨desc, hd, hq⟩
  · rintro ⟨desc, hd, hq⟩
    exact ⟨(o, desc), hd, hq, rfl⟩

theorem mem_profilesFor : p ∈ s.profilesFor device ↔
    p ∈ s.loadedProfiles ∧ (s.profile p).mSupportedDevices.has device = true := by
  unfold profilesFor
  rw [SortedVector.mem_foldl_add]
  simp

theorem listed_outputsWith (s : State R) (q : Devices → Bool) : Listed s (s.outputsWith q) := by
  intro o ho
  obtain ⟨desc, hd, hdup, -⟩ := mem_outputsWith.1 ho
  exact ⟨desc, hd, hdup⟩

theorem listed_connectOutputs :
    Listed (s.connectOutputs c device).2.1 (s.connectOutputs c device).2.2 := by
  unfold connectOutputs
  dsimp only
  split
  · exact listed_outputsWith s _
  · exact listed_openProfiles (listed_outputsWith s _)

/-- The outputs for a device: open ones that can be routed to it, and new ones. -/
theorem kept_connectOutputs (c : Client) (device : Devices) (s : State R) :
    (∀ o ∈ s.mOutputs, (s.connectOutputs c device).2.1.mOutputs.valueFor o =
      s.mOutputs.valueFor o) ∧
    ∀ o ∈ (s.connectOutputs c device).2.2,
      o ∈ s.outputsWith (fun supported => supported.has device) ∨ o ∉ s.mOutputs := by
  unfold connectOutputs
  dsimp only
  split
  · exact ⟨fun _ _ => rfl, fun _ => .inl⟩
  · exact kept_openProfiles

theorem subset_openProfiles {ps : List ℕ} {o : ℕ} (ho : o ∈ outputs) :
    o ∈ (openProfiles c ps s outputs).2.1 := by
  induction ps generalizing s outputs with
  | nil => exact ho
  | cons p ps ih =>
    rcases openProfiles_cons c p ps s outputs with ⟨-, e⟩ | ⟨-, -, e⟩ | ⟨output, -, -, e⟩
    · rw [e]
      exact ih ho
    · rw [e]
      exact ih ho
    · rw [e]
      exact ih (SortedVector.mem_add.2 (.inr ho))

/-- A profile that is open stays in the list. -/
theorem mem_openProfiles {ps : List ℕ} {o : ℕ} {desc : AudioOutputDescriptor} (hp : p ∈ ps)
    (ho : s.mOutputs.valueFor o = some desc) (horigin : desc.origin = .profile p) :
    p ∈ (openProfiles c ps s outputs).2.2 := by
  induction ps generalizing s outputs with
  | nil => cases hp
  | cons p' ps ih =>
    have hne : s.isOpen p' = false → p ∈ ps := by
      intro hclosed
      refine (List.mem_cons.1 hp).resolve_left ?_
      rintro rfl
      refine Bool.eq_false_iff.1 hclosed (List.any_eq_true.2 ?_)
      exact ⟨(o, desc), KeyedVector.valueFor_eq_some.1 ho, decide_eq_true horigin⟩
    rcases openProfiles_cons c p' ps s outputs with
      ⟨-, e⟩ | ⟨hclosed, hsame, e⟩ | ⟨output, hclosed, hopened, e⟩
    · rw [e]
      rcases List.mem_cons.1 hp with rfl | hp
      · exact List.mem_cons_self ..
      · exact List.mem_cons_of_mem _ (ih hp ho)
    · rw [e]
      exact ih (hne hclosed) ((hsame o).trans ho)
    · rw [e]
      refine List.mem_cons_of_mem _ (ih (hne hclosed) ?_)
      exact (hopened.kept o (KeyedVector.mem_iff_valueFor.2 ⟨desc, ho⟩)).trans ho

theorem subset_connectOutputs {o : ℕ}
    (ho : o ∈ s.outputsWith fun supported => supported.has device) :
    o ∈ (s.connectOutputs c device).2.2 := by
  unfold connectOutputs
  dsimp only
  split
  · exact ho
  · exact subset_openProfiles ho

/-- The check succeeds if an output is open that can be routed to the device. -/
theorem connectOutputs_of_open {o : ℕ} {desc : AudioOutputDescriptor} (hp : p ∈ s.loadedProfiles)
    (hd : (s.profile p).mSupportedDevices.has device = true)
    (ho : s.mOutputs.valueFor o = some desc) (horigin : desc.origin = .profile p) :
    (s.connectOutputs c device).1 = noError := by
  have hmem : p ∈ (s.profilesFor device).toList := mem_profilesFor.2 ⟨hp, hd⟩
  unfold connectOutputs
  dsimp only
  rw [if_neg fun h => List.ne_nil_of_mem hmem h.1]
  exact if_neg (List.ne_nil_of_mem (mem_openProfiles hmem ho horigin))

theorem only_connectOutputs : OnlyOutputs s (s.connectOutputs c device).2.1 := by
  unfold connectOutputs
  dsimp only
  split
  · rfl
  · exact only_openProfiles

/-- **A failed check.** No output is opened or closed by a check that fails. -/
theorem same_connectOutputs (h : (s.connectOutputs c device).1 ≠ noError) :
    SameOutputs s (s.connectOutputs c device).2.1 := by
  unfold connectOutputs at h ⊢
  dsimp only at h ⊢
  split at h
  next h1 =>
    rw [if_pos h1]
    exact fun _ => rfl
  next h1 =>
    rw [if_neg h1]
    split at h
    next hleft => exact same_openProfiles hleft
    next => exact absurd rfl h

end Check

end State

end Msm7x27a.Policy
