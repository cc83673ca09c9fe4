import Msm7x27a.Policy.Opening

/-!
# The outputs that are found for a new device

What `checkOutputsForDevice` lists and leaves open when a device is connected: the outputs of the
profiles that can be routed to it, one for each profile.  The client interface has the outputs open
that are registered, whatever fails on the way.
-/

namespace Msm7x27a.Policy

open Msm7x27a.Audio (Status noError badValue)
open Msm7x27a.Route (Devices)

namespace State

variable {R : Type} {c : Client} {device : Devices} {s s' : State R} {outputs : SortedVector ℕ}
  {o output p q : ℕ} {ps : List ℕ}

/-- No two outputs are open for one profile. -/
def OnePerProfile (s : State R) : Prop :=
  ∀ o o' p, s.origins o = some (.profile p) → s.origins o' = some (.profile p) → o = o'

/-- The open outputs of the profiles that can be routed to the device. -/
def Lists (outputs : SortedVector ℕ) (device : Devices) (s : State R) : Prop :=
  ∀ o, o ∈ outputs ↔ ∃ p, s.origins o = some (.profile p) ∧
    (s.profile p).mSupportedDevices.has device = true

/-! ### One profile -/

theorem isOpen_iff : s.isOpen p = true ↔ ∃ o, s.origins o = some (.profile p) := by
  unfold isOpen
  rw [List.any_eq_true]
  constructor
  · rintro ⟨⟨o, desc⟩, hmem, horigin⟩
    refine ⟨o, ?_⟩
    rw [origins_of_valueFor (KeyedVector.valueFor_eq_some.2 hmem), of_decide_eq_true horigin]
  · rintro ⟨o, ho⟩
    obtain ⟨desc, hd, horigin⟩ := Option.map_eq_some_iff.1 ho
    exact ⟨(o, desc), KeyedVector.valueFor_eq_some.1 hd, decide_eq_true horigin⟩

theorem SameOutputs.origins (h : SameOutputs s s') : s'.origins = s.origins := by
  funext o
  unfold State.origins
  rw [h o]

/-- The outputs of profiles are those that were open, and the new one. -/
theorem Opened.origins (h : Opened p s s' output) :
    s'.origins o = some (.profile q) ↔ o = output ∧ q = p ∨ s.origins o = some (.profile q) := by
  obtain ⟨desc, hd, horigin⟩ := h.descriptor
  have hnew : s'.origins output = some (.profile p) := by
    rw [origins_of_valueFor hd, horigin]
  constructor
  · intro ho
    obtain ⟨desc', hd', horigin'⟩ := Option.map_eq_some_iff.1 ho
    rcases h.added o desc' hd' with rfl | hold | ⟨-, hdup⟩
    · rw [hnew] at ho
      exact .inl ⟨rfl, (Origin.profile.inj (Option.some.inj ho)).symm⟩
    · rw [h.kept o hold] at hd'
      rw [origins_of_valueFor hd', horigin']
      exact .inr rfl
    · rw [hdup] at horigin'
      cases horigin'
  · rintro (⟨rfl, rfl⟩ | ho)
    · exact hnew
    · obtain ⟨desc', hd', horigin'⟩ := Option.map_eq_some_iff.1 ho
      rw [← h.kept o (KeyedVector.mem_iff_valueFor.2 ⟨desc', hd'⟩)] at hd'
      rw [origins_of_valueFor hd', horigin']

theorem supported_query (p : IOProfile) (address : ℕ) :
    (p.query c address).mSupportedDevices = p.mSupportedDevices := by
  unfold IOProfile.query
  dsimp only
  split <;> split <;> split <;> rfl

/-- The profile that is opened may be queried; the other profiles stay as they are. -/
theorem profile_openProfile (c : Client) (p : ℕ) (s : State R) :
    (s.openProfile c p).1.profile = s.profile ∨
      (s.openProfile c p).1.profile = Function.update s.profile p ((s.profile p).query c p) := by
  unfold openProfile
  dsimp only
  split
  · exact .inl rfl
  · split
    · split
      · exact .inr rfl
      · exact .inr rfl
    · split
      · exact .inl rfl
      · exact .inl rfl

theorem supported_openProfile (c : Client) (p q : ℕ) (s : State R) :
    ((s.openProfile c p).1.profile q).mSupportedDevices = (s.profile q).mSupportedDevices := by
  rcases profile_openProfile c p s with h | h
  · rw [h]
  · rw [h]
    by_cases hq : q = p
    · rw [hq, Function.update_self, supported_query]
    · rw [Function.update_of_ne hq]

theorem OnePerProfile.opened (hone : s.OnePerProfile) (hclosed : s.isOpen p = false)
    (h : Opened p s s' output) : s'.OnePerProfile := by
  have hno : ∀ o, s.origins o ≠ some (.profile p) :=
    fun o ho => Bool.eq_false_iff.1 hclosed (isOpen_iff.2 ⟨o, ho⟩)
  intro o o' q ho ho'
  rcases h.origins.1 ho with ⟨rfl, rfl⟩ | hold
  · rcases h.origins.1 ho' with ⟨rfl, -⟩ | hold'
    · rfl
    · exact absurd hold' (hno o')
  · rcases h.origins.1 ho' with ⟨-, rfl⟩ | hold'
    · exact absurd hold (hno o)
    · exact hone o o' q hold hold'

/-! ### The loop over the profiles -/

/-- The outputs are listed and the profiles have one output each, after every turn. -/
theorem lists_openProfiles (hps : ∀ p ∈ ps, (s.profile p).mSupportedDevices.has device = true)
    (hone : s.OnePerProfile) (hl : Lists outputs device s) :
    (openProfiles c ps s outputs).1.OnePerProfile ∧
      Lists (openProfiles c ps s outputs).2.1 device (openProfiles c ps s outputs).1 := by
  induction ps generalizing s outputs with
  | nil => exact ⟨hone, hl⟩
  | cons p ps ih =>
    have hps' : ∀ q ∈ ps, ((s.openProfile c p).1.profile q).mSupportedDevices.has device = true := by
      intro q hq
      rw [supported_openProfile]
      exact hps q (List.mem_cons_of_mem _ hq)
    rcases openProfiles_cons c p ps s outputs with
      ⟨-, e⟩ | ⟨-, hsame, e⟩ | ⟨output, hclosed, hopened, e⟩
    · rw [e]
      exact ih (fun q hq => hps q (List.mem_cons_of_mem _ hq)) hone hl
    · rw [e]
      refine ih hps' ?_ ?_
      · unfold OnePerProfile
        rw [hsame.origins]
        exact hone
      · intro o
        rw [hl o, hsame.origins]
        simp only [supported_openProfile]
    · rw [e]
      refine ih hps' (hone.opened hclosed hopened) ?_
      intro o
      rw [SortedVector.mem_add, hl o]
      simp only [supported_openProfile, hopened.origins]
      constructor
      · rintro (rfl | ⟨q, ho, hdevice⟩)
        · exact ⟨p, .inl ⟨rfl, rfl⟩, hps p (List.mem_cons_self ..)⟩
        · exact ⟨q, .inr ho, hdevice⟩
      · rintro ⟨q, ⟨rfl, -⟩ | ho, hdevice⟩
        · exact .inl rfl
        · exact .inr ⟨q, ho, hdevice⟩

/-- If no profile is left, nothing has been listed. -/
theorem outputs_openProfiles (h : (openProfiles c ps s outputs).2.2 = []) :
    (openProfiles c ps s outputs).2.1 = outputs := by
  induction ps generalizing s outputs with
  | nil => rfl
  | cons p ps ih =>
    rcases openProfiles_cons c p ps s outputs with ⟨-, e⟩ | ⟨-, -, e⟩ | ⟨output, -, -, e⟩
    · rw [e] at h
      cases h
    · rw [e] at h ⊢
      exact ih h
    · rw [e] at h
      cases h

theorem lists_outputsWith (device : Devices) (s : State R) :
    Lists (s.outputsWith fun supported => supported.has device) device s := by
  intro o
  rw [mem_outputsWith]
  constructor
  · rintro ⟨desc, hd, hdup, hdevice⟩
    cases horigin : desc.origin with
    | profile p =>
      unfold supportedBy at hdevice
      rw [horigin] at hdevice
      exact ⟨p, by rw [origins_of_valueFor hd, horigin], hdevice⟩
    | duplicated o₁ o₂ =>
      unfold AudioOutputDescriptor.isDuplicated at hdup
      rw [horigin] at hdup
      cases hdup
  · rintro ⟨p, ho, hdevice⟩
    obtain ⟨desc, hd, horigin⟩ := Option.map_eq_some_iff.1 ho
    refine ⟨desc, hd, ?_, ?_⟩
    · unfold AudioOutputDescriptor.isDuplicated
      rw [horigin]
    · unfold supportedBy
      rw [horigin]
      exact hdevice

/-! ### The client interface -/

theorem opened_addOutput {desc : AudioOutputDescriptor} :
    (s.addOutput output desc).opened = insert output s.opened := by
  ext o
  exact KeyedVector.mem_add

/-- The outputs that the client interface has open are those that are registered. -/
theorem apply_openCalls (c : Client) (p : ℕ) (s : State R) :
    (s.openCalls c p).foldl ClientCall.apply s.opened = (s.openProfile c p).1.opened := by
  have hnew : c.handle (.output p) s.mOutputs.keys ∉ s.opened :=
    handle_not_mem (.output p) s.mOutputs
  unfold openCalls openProfile
  dsimp only
  split
  · rfl
  · split
    · simp only [Function.update_self]
      split
      · exact Set.insert_sdiff_self_of_notMem hnew
      · exact opened_addOutput.symm
    · split
      · rw [opened_addOutput, opened_addOutput]
        rfl
      · refine (Set.insert_sdiff_self_of_notMem hnew).trans ?_
        ext o
        simp only [opened, addOutput, Set.mem_ofPred_eq, KeyedVector.mem_iff_valueFor,
          KeyedVector.valueFor_removeItem_add hnew]

theorem apply_openProfilesCalls : (openProfilesCalls c ps s).foldl ClientCall.apply s.opened =
    (openProfiles c ps s outputs).1.opened := by
  induction ps generalizing s outputs with
  | nil => rfl
  | cons p ps ih =>
    cases hopen : s.isOpen p with
    | true =>
      rw [openProfilesCalls_open hopen, openProfiles_open hopen]
      exact ih
    | false =>
      rw [openProfilesCalls_closed hopen, List.foldl_append, apply_openCalls]
      cases hopened : (s.openProfile c p).2 with
      | none =>
        rw [openProfiles_none hopen hopened]
        exact ih
      | some output =>
        rw [openProfiles_some hopen hopened]
        exact ih

/-- Only an output that has just been opened is closed. -/
theorem not_mem_of_closeOutput (h : .closeOutput o ∈ s.openCalls c p) : o ∉ s.mOutputs := by
  have hnew := handle_not_mem (c := c) (.output p) s.mOutputs
  unfold openCalls at h
  dsimp only at h
  split at h
  · simp at h
  · split at h
    · split at h
      · obtain rfl : o = c.handle (.output p) s.mOutputs.keys := by simpa using h
        exact hnew
      · simp at h
    · split at h
      · simp at h
      · obtain rfl : o = c.handle (.output p) s.mOutputs.keys := by simpa using h
        exact hnew

theorem mem_openProfile_of_mem (h : o ∈ s.mOutputs) : o ∈ (s.openProfile c p).1.mOutputs := by
  rw [KeyedVector.mem_iff_valueFor] at h ⊢
  rcases openProfile_cases c p s with ⟨-, hsame⟩ | ⟨output, -, hopened⟩
  · rwa [hsame o]
  · rwa [hopened.kept o (KeyedVector.mem_iff_valueFor.2 h)]

theorem not_mem_of_closeOutput_loop (h : .closeOutput o ∈ openProfilesCalls c ps s) :
    o ∉ s.mOutputs := by
  induction ps generalizing s with
  | nil => cases h
  | cons p ps ih =>
    cases hopen : s.isOpen p with
    | true =>
      rw [openProfilesCalls_open hopen] at h
      exact ih h
    | false =>
      rw [openProfilesCalls_closed hopen, List.mem_append] at h
      rcases h with h | h
      · exact not_mem_of_closeOutput h
      · exact fun hm => ih h (mem_openProfile_of_mem hm)

/-! ### The check -/

theorem lists_connectOutputs (hone : s.OnePerProfile) :
    (s.connectOutputs c device).2.1.OnePerProfile ∧
      Lists (s.connectOutputs c device).2.2 device (s.connectOutputs c device).2.1 := by
  unfold connectOutputs
  dsimp only
  split
  · exact ⟨hone, lists_outputsWith device s⟩
  · exact lists_openProfiles (fun p hp => (mem_profilesFor.1 hp).2) hone (lists_outputsWith device s)

/-- A check that fails lists nothing: a profile that is open stays in the vector. -/
theorem outputs_connectOutputs (hloaded : ∀ o p, s.origins o = some (.profile p) → p ∈ s.loadedProfiles)
    (h : (s.connectOutputs c device).1 ≠ noError) : ∀ o, o ∉ (s.connectOutputs c device).2.2 := by
  have hopen : ∀ {o}, (o ∈ s.outputsWith fun supported => supported.has device) →
      (s.connectOutputs c device).1 = noError := by
    intro o ho
    obtain ⟨p, horigin, hdevice⟩ := (lists_outputsWith device s o).1 ho
    obtain ⟨desc, hd, hprofile⟩ := Option.map_eq_some_iff.1 horigin
    exact connectOutputs_of_open (hloaded o p horigin) hdevice hd hprofile
  have hnone : ∀ o, o ∉ s.outputsWith fun supported => supported.has device :=
    fun o ho => h (hopen ho)
  unfold connectOutputs at h ⊢
  dsimp only at h ⊢
  split at h
  next h1 =>
    rw [if_pos h1]
    exact hnone
  next h1 =>
    rw [if_neg h1]
    split at h
    next hleft =>
      dsimp only
      rw [outputs_openProfiles hleft]
      exact hnone
    next => exact absurd rfl h

theorem status_connectOutputs (c : Client) (device : Devices) (s : State R) :
    (s.connectOutputs c device).1 = noError ∨ (s.connectOutputs c device).1 = badValue := by
  unfold connectOutputs
  dsimp only
  split
  · exact .inr rfl
  · split
    · exact .inr rfl
    · exact .inl rfl

/-- Nothing is asked of the client interface if there is neither a profile nor an output. -/
theorem apply_connectCalls : (s.connectCalls c device).foldl ClientCall.apply s.opened =
    (s.connectOutputs c device).2.1.opened := by
  unfold connectCalls connectOutputs
  dsimp only
  split
  next h =>
    rw [h.1]
    rfl
  next => exact apply_openProfilesCalls

/-- What the check of a new device leaves: the outputs of the device are listed, one for each
profile; or no output is listed, and the same outputs are open as before. -/
structure Found (device : Devices) (s : State R) (status : Status) (l : ProfileLoop R) : Prop where
  answers : status = noError ∨ status = badValue
  lists : status = noError → l.state.OnePerProfile ∧ Lists l.outputs device l.state
  fails : status = badValue → SameOutputs s l.state ∧ ∀ o, o ∉ l.outputs
  kept : ∀ o ∈ s.mOutputs, l.state.mOutputs.valueFor o = s.mOutputs.valueFor o
  spared : ∀ o ∈ s.mOutputs, .closeOutput o ∉ l.calls
  /-- The client interface has no other outputs open than the registered ones. -/
  opened : l.calls.foldl ClientCall.apply s.opened = l.state.opened

/-- **Outputs for a new device.** The loop ends, whatever profiles there are and whatever the client
interface answers, and the outputs of the device are found. -/
theorem finds_outputs (c : Client) (device : Devices) (s : State R)
    (hloaded : ∀ o p, s.origins o = some (.profile p) → p ∈ s.loadedProfiles)
    (hone : s.OnePerProfile) : ∃ status, ∃ l : ProfileLoop R,
      (∀ fuel, (s.profilesFor device).size < fuel → s.connectLoop c device fuel = some (status, l)) ∧
      Found device s status l := by
  obtain ⟨l, hl, hstate, houtputs, hcalls⟩ := connectLoop_eq c device s
  have hbad : noError ≠ badValue := by decide
  refine ⟨(s.connectOutputs c device).1, l, hl, status_connectOutputs c device s, ?_, ?_, ?_, ?_, ?_⟩
  · intro _
    rw [hstate, houtputs]
    exact lists_connectOutputs hone
  · intro hstatus
    have hfailed : (s.connectOutputs c device).1 ≠ noError := fun e => hbad (e.symm.trans hstatus)
    rw [hstate, houtputs]
    exact ⟨same_connectOutputs hfailed, outputs_connectOutputs hloaded hfailed⟩
  · rw [hstate]
    exact (kept_connectOutputs c device s).1
  · rw [hcalls]
    exact fun o ho hmem => not_mem_of_closeOutput_loop hmem ho
  · rw [hstate, hcalls]
    exact apply_connectCalls

/-- A headset is connected, and a direct profile can be routed to it. -/
theorem finds_outputs_headset : ∃ status, ∃ l : ProfileLoop Unit,
    (∀ fuel, ((plainDirect { DIRECT := true }).profilesFor 0x4).size < fuel →
      (plainDirect { DIRECT := true }).connectLoop .plain 0x4 fuel = some (status, l)) ∧
    Found 0x4 (plainDirect { DIRECT := true }) status l := by
  refine finds_outputs .plain 0x4 (plainDirect { DIRECT := true }) ?_ ?_
  · intro o p ho
    rw [origins_plainDirect] at ho
    split at ho
    · obtain rfl := Origin.profile.inj (Option.some.inj ho)
      decide
    · cases ho
  · intro o o' p ho ho'
    rw [origins_plainDirect] at ho ho'
    split at ho
    next h =>
      split at ho'
      next h' => exact h.trans h'.symm
      next => cases ho'
    next => cases ho

end State

end Msm7x27a.Policy
