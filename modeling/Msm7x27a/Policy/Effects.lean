import Msm7x27a.Policy.Atomic

/-!
# What one call changes

`OutputChange` lists what `setDeviceConnectionState` can do to a state once its output device has
passed the checks, and `setDeviceConnectionState_cases` what it can do at all.  Closing the outputs
that are not used opens none, closes those, and leaves the others open.
-/

namespace Msm7x27a.Policy

open Msm7x27a.Audio (Status noError badValue)
open Msm7x27a.Route (Devices)

namespace State

variable {R : Type} {B : Base R} {H : Headers} {c : Client} {isAnalog : Bool} {device : Devices}
  {state : ConnectionState} {device_address : String} {outputs : SortedVector ℕ} {s s' : State R}

/-! ### The exits of a call -/

/-- What an accepted output device can do. -/
inductive OutputChange (B : Base R) (H : Headers) (c : Client) (isAnalog : Bool) (device : Devices)
    (s : State R) : ConnectionState → Status × State R → Prop
  /-- FM has a mode already. -/
  | busy (h : s.startFm H isAnalog device = none) :
    OutputChange B H c isAnalog device s .available (invalidOperation, s)
  | refused {s₁ s₂ : State R} (h1 : s.startFm H isAnalog device = some s₁)
      (hc : ¬s₁.Connects c device) (h2 : OnlyOutputs s₁ s₂) (ho : SameOutputs s₁ s₂) :
    OutputChange B H c isAnalog device s .available (invalidOperation, s₂)
  | connected {s₁ s₂ s₃ : State R} (h1 : s.startFm H isAnalog device = some s₁)
      (hc : s₁.Connects c device)
      (h2 : Keeps { s₁ with mAvailableOutputDevices := s₁.mAvailableOutputDevices ||| device } s₂)
      (ho : s₂.mOutputs = (s₁.checkOutputsForDevice c device .available).2.1.mOutputs)
      (h3 : s₂.finishOutput B H device .available
        (s₁.checkOutputsForDevice c device .available).2.2 = some s₃) :
    OutputChange B H c isAnalog device s .available (s₃.changePaired B H device .available)
  | absent {s₁ : State R} (h1 : s.stopFm B H device = some s₁)
      (hc : s.mAvailableOutputDevices.has device = false) :
    OutputChange B H c isAnalog device s .unavailable (invalidOperation, s₁)
  | disconnected {s₁ s₂ s₃ : State R} (h1 : s.stopFm B H device = some s₁)
      (hc : s.mAvailableOutputDevices.has device = true)
      (h2 : Keeps { s₁ with
        mAvailableOutputDevices := s₁.mAvailableOutputDevices &&& ~~~device } s₂)
      (ho : s₂.mOutputs = s₁.mOutputs)
      (h3 : s₂.finishOutput B H device .unavailable (s₁.outputsWith fun supported =>
        !supported.has (s₁.mAvailableOutputDevices &&& ~~~device)) = some s₃) :
    OutputChange B H c isAnalog device s .unavailable (s₃.changePaired B H device .unavailable)
  | badState (code : ℕ) : OutputChange B H c isAnalog device s (.other code) (badValue, s)

theorem changeOutput_cases {r : Status × State R}
    (h : s.changeOutput B H c isAnalog device state device_address = some r) :
    OutputChange B H c isAnalog device s state r := by
  cases state with
  | available =>
    rcases hs : s.startFm H isAnalog device with - | s₁
    · rw [changeOutput_of_error invalidOperation_ne (connect_of_none B c device_address hs)] at h
      obtain rfl := Option.some.inj h
      exact .busy hs
    · by_cases hc : s₁.Connects c device
      · obtain ⟨s₂, h2, hkeeps, houtputs⟩ := connect_ok B c device_address hs hc
        rw [changeOutput_of_ok h2] at h
        obtain ⟨s₃, h3, rfl⟩ := Option.map_eq_some_iff.1 h
        exact .connected hs hc hkeeps houtputs h3
      · obtain ⟨s₂, outputs, h2, honly, hsame⟩ := connect_refused B c device_address hs hc
        rw [changeOutput_of_error invalidOperation_ne h2] at h
        obtain rfl := Option.some.inj h
        exact .refused hs hc honly hsame
  | unavailable =>
    rcases hs : s.stopFm B H device with - | s₁
    · unfold changeOutput setOutputState disconnectDevice at h
      rw [hs] at h
      cases h
    · rcases Bool.eq_false_or_eq_true (s.mAvailableOutputDevices.has device) with hc | hc
      · obtain ⟨s₂, h2, hkeeps, houtputs⟩ := disconnect_ok c isAnalog device_address hs hc
        rw [changeOutput_of_ok h2] at h
        obtain ⟨s₃, h3, rfl⟩ := Option.map_eq_some_iff.1 h
        exact .disconnected hs hc hkeeps houtputs h3
      · rw [changeOutput_of_error invalidOperation_ne
          (disconnect_refused c isAnalog device_address hs hc)] at h
        obtain rfl := Option.some.inj h
        exact .absent hs hc
  | other code =>
    rw [changeOutput_of_error badValue_ne rfl] at h
    obtain rfl := Option.some.inj h
    exact .badState code

/-- A call is refused, changes an output device and what comes with it, or an input device. -/
theorem setDeviceConnectionState_cases {r : Status × State R}
    (h : s.setDeviceConnectionState B H c isAnalog device state device_address = some r) :
    r = (badValue, s) ∧ ¬s.Accepted H device device_address ∨
      s.Accepted H device device_address ∧
        OutputChange B H c isAnalog device s.saveOutputs state r ∨
      H.audio_is_output_device device = false ∧ r = s.setInputState B H device state := by
  unfold setDeviceConnectionState at h
  split at h
  next hclass =>
    obtain rfl := Option.some.inj h
    exact .inl ⟨rfl, fun ha => absurd (ha.output.symm.trans hclass.1) (by decide)⟩
  next =>
    split at h
    next haddress =>
      obtain rfl := Option.some.inj h
      exact .inl ⟨rfl, fun ha => absurd haddress (not_le.2 ha.address)⟩
    next haddress =>
      split at h
      next hdev =>
        split at h
        next hrefused =>
          obtain rfl := Option.some.inj h
          exact .inl ⟨rfl, fun ha => absurd (ha.present.symm.trans hrefused) (by decide)⟩
        next hpresent =>
          exact .inr (.inl ⟨⟨hdev, not_le.1 haddress, by simpa using hpresent⟩,
            changeOutput_cases h⟩)
      next hdev =>
        obtain rfl := Option.some.inj h
        exact .inr (.inr ⟨by simpa using hdev, rfl⟩)

/-! ### The input device -/

/-- The input devices are all that changes of what `Keeps` names. -/
theorem keeps_setInputState (B : Base R) (H : Headers) (device : Devices) (state : ConnectionState)
    (s : State R) : Keeps { s with mAvailableInputDevices :=
      (s.setInputState B H device state).2.mAvailableInputDevices }
        (s.setInputState B H device state).2 ∧
    (s.setInputState B H device state).2.mOutputs = s.mOutputs := by
  unfold setInputState
  cases state with
  | available =>
    dsimp only
    split
    · exact ⟨.refl s, rfl⟩
    · have h := same_routeActiveInput (B := B) (H := H) { s with mAvailableInputDevices :=
        s.mAvailableInputDevices ||| (device &&& ~~~H.AUDIO_DEVICE_BIT_IN) }
      exact ⟨⟨h.keeps.1, rfl, h.keeps.3, h.keeps.4, h.keeps.5, h.keeps.6, h.keeps.7⟩, h.mOutputs⟩
  | unavailable =>
    dsimp only
    split
    · exact ⟨.refl s, rfl⟩
    · have h := same_routeActiveInput (B := B) (H := H) { s with mAvailableInputDevices :=
        s.mAvailableInputDevices &&& ~~~device }
      exact ⟨⟨h.keeps.1, rfl, h.keeps.3, h.keeps.4, h.keeps.5, h.keeps.6, h.keeps.7⟩, h.mOutputs⟩
  | other code => exact ⟨.refl s, rfl⟩

theorem keeps_changePaired (B : Base R) (H : Headers) (device : Devices) (state : ConnectionState)
    (s : State R) : Keeps { s with mAvailableInputDevices :=
      (s.changePaired B H device state).2.mAvailableInputDevices }
        (s.changePaired B H device state).2 ∧
    (s.changePaired B H device state).2.mOutputs = s.mOutputs := by
  unfold changePaired
  split
  · exact ⟨.refl s, rfl⟩
  · split
    · exact keeps_setInputState ..
    · exact ⟨.refl s, rfl⟩

/-! ### Outputs that are closed -/

/-- The output is closed after a device has changed. -/
def Unused (state : ConnectionState) (desc : AudioOutputDescriptor) : Prop :=
  state = .unavailable ∨ desc.mFlags.DIRECT = true ∧ desc.mFlags.onDemand = false

variable {o output : ℕ} {desc : AudioOutputDescriptor} {l : List ℕ}

theorem valueFor_of_closeOutput
    (h : (s.closeOutput B output).mOutputs.valueFor o = some desc) :
    s.mOutputs.valueFor o = some desc := by
  unfold closeOutput at h
  split at h
  · rw [KeyedVector.valueFor_filter] at h
    exact (Option.filter_eq_some_iff.1 h).1
  · exact h

theorem not_mem_closeOutput : output ∉ (s.closeOutput B output).mOutputs := by
  unfold closeOutput
  split
  · rw [← KeyedVector.valueFor_eq_none, KeyedVector.valueFor_filter]
    cases s.mOutputs.valueFor output <;> simp
  next h => exact h

/-- An output that neither is the closed one nor duplicates it stays open. -/
theorem closeOutput_spares (ho : s.mOutputs.valueFor o = some desc) (hne : o ≠ output)
    (hdup : ¬Duplicates desc output) : (s.closeOutput B output).mOutputs.valueFor o = some desc := by
  unfold closeOutput
  split
  · rw [KeyedVector.valueFor_filter, ho]
    exact Option.filter_some_pos (by simp [hne, hdup])
  · exact ho

theorem valueFor_of_closeUnused (h : s.closeUnused B state l = some s')
    (ho : s'.mOutputs.valueFor o = some desc) : s.mOutputs.valueFor o = some desc := by
  induction l generalizing s with
  | nil =>
    obtain rfl := Option.some.inj h
    exact ho
  | cons output l ih =>
    unfold closeUnused at h
    split at h
    · exact valueFor_of_closeOutput (ih h)
    · split at h
      · cases h
      · split at h
        · exact valueFor_of_closeOutput (ih h)
        · exact ih h

/-- An output that is neither closed itself nor duplicates one that is stays open. -/
theorem closeUnused_spares (h : s.closeUnused B state l = some s')
    (ho : s.mOutputs.valueFor o = some desc)
    (hl : ∀ output ∈ l, ∀ d, s.mOutputs.valueFor output = some d → Unused state d →
      o ≠ output ∧ ¬Duplicates desc output) : s'.mOutputs.valueFor o = some desc := by
  induction l generalizing s with
  | nil =>
    obtain rfl := Option.some.inj h
    exact ho
  | cons output l ih =>
    have hkept : (∀ d, s.mOutputs.valueFor output = some d → Unused state d) →
        (s.closeOutput B output).mOutputs.valueFor o = some desc := by
      intro hunused
      rcases hv : s.mOutputs.valueFor output with - | d
      · unfold closeOutput
        rw [if_neg (KeyedVector.valueFor_eq_none.1 hv)]
        exact ho
      · obtain ⟨hne, hdup⟩ := hl output (List.mem_cons_self ..) d hv (hunused d hv)
        exact closeOutput_spares ho hne hdup
    have hrest : ∀ o' ∈ l, ∀ d, (s.closeOutput B output).mOutputs.valueFor o' = some d →
        Unused state d → o ≠ o' ∧ ¬Duplicates desc o' :=
      fun o' ho' d hd => hl o' (List.mem_cons_of_mem _ ho') d (valueFor_of_closeOutput hd)
    unfold closeUnused at h
    split at h
    next hstate => exact ih h (hkept fun _ _ => .inl hstate) hrest
    next =>
      split at h
      · cases h
      next d hd =>
        split at h
        next hflags =>
          refine ih h (hkept fun d' hd' => .inr ?_) hrest
          obtain rfl := Option.some.inj (hd.symm.trans hd')
          exact hflags
        next => exact ih h ho fun o' ho' => hl o' (List.mem_cons_of_mem _ ho')

/-- The outputs in the list that are not used are closed. -/
theorem not_mem_closeUnused (h : s.closeUnused B state l = some s') (hmem : o ∈ l)
    (ho : s.mOutputs.valueFor o = some desc) (hunused : Unused state desc) : o ∉ s'.mOutputs := by
  intro hopen
  obtain ⟨desc', hd'⟩ := KeyedVector.mem_iff_valueFor.1 hopen
  have hne : ∀ {s₁ : State R} {l' : List ℕ}, o ∉ s₁.mOutputs →
      s₁.closeUnused B state l' = some s' → False := fun hno h1 =>
    hno (KeyedVector.mem_iff_valueFor.2 ⟨desc', valueFor_of_closeUnused h1 hd'⟩)
  induction l generalizing s with
  | nil => cases hmem
  | cons output l ih =>
    unfold closeUnused at h
    have hclosed : o = output → (s.closeOutput B output).closeUnused B state l ≠ some s' := by
      rintro rfl h1
      exact hne not_mem_closeOutput h1
    split at h
    next hstate =>
      rcases List.mem_cons.1 hmem with e | hmem
      · exact hclosed e h
      · by_cases ho' : o ∈ (s.closeOutput B output).mOutputs
        · obtain ⟨d, hd⟩ := KeyedVector.mem_iff_valueFor.1 ho'
          have e : desc = d := Option.some.inj (ho.symm.trans (valueFor_of_closeOutput hd))
          exact ih h hmem (e ▸ hd)
        · exact hne ho' h
    next hstate =>
      split at h
      · cases h
      next d hd =>
        split at h
        next hflags =>
          rcases List.mem_cons.1 hmem with e | hmem
          · exact hclosed e h
          · by_cases ho' : o ∈ (s.closeOutput B output).mOutputs
            · obtain ⟨d', hd''⟩ := KeyedVector.mem_iff_valueFor.1 ho'
              have e : desc = d' := Option.some.inj (ho.symm.trans (valueFor_of_closeOutput hd''))
              exact ih h hmem (e ▸ hd'')
            · exact hne ho' h
        next hflags =>
          rcases List.mem_cons.1 hmem with rfl | hmem
          · obtain rfl := Option.some.inj (hd.symm.trans ho)
            rcases hunused with hu | hu
            · exact hstate hu
            · exact hflags hu
          · exact ih h hmem ho

end State

end Msm7x27a.Policy
