import Msm7x27a.Policy.MuteDelays
import Msm7x27a.Policy.Wiring
import Mathlib.Data.Int.ModEq

/-!
# What the hardware is told

`setOutputDevice`.  A duplicating output passes the device on to the outputs it is duplicated to.  Any
other one takes the part of the device that its profile supports: it mutes what does not fit, waits,
and sends the routing and the volumes to the hardware.  `told` is what holds after any calls.

The calls that change what devices there are give every output its device again, in the order of the
handles, and a duplicating output then overrides what the outputs under it were given before.
`rerouted_iff` says when that makes a difference.
-/

namespace Msm7x27a.Policy

open Msm7x27a.Audio (Status noError)
open Msm7x27a.Route (Devices)
open Msm7x27a.Log

/-! ### One call -/

/-- A descriptor: of a profile's output, or of one that is duplicated to two others. -/
inductive Descriptor where
  | profile (mId : ℕ)
  | duplicated (mOutput1 mOutput2 : Descriptor)

/-- The outputs of profiles under a descriptor. -/
def Descriptor.leaves : Descriptor → List ℕ
  | .profile mId => [mId]
  | .duplicated mOutput1 mOutput2 => mOutput1.leaves ++ mOutput2.leaves

/-- What a check asks of the outputs and of the strategies. -/
structure Activity where
  isActive : ℕ → Bool
  getDeviceForStrategy : ℕ → Devices
  isStrategyActive : ℕ → ℕ → Bool

/-- What is done to the hardware. -/
inductive RoutingEvent where
  | strategyMute (c : StrategyMuteCall)
  | usleep (us : ℕ)
  | routing (output : ℕ) (device : Devices) (delayMs : ℕ)
  | streamVolumes (output : ℕ) (device : Devices) (delayMs : ℕ)
  deriving DecidableEq

/-- The devices of the descriptors, 0 in a new one, and the mutes by device. -/
structure Routing where
  mDevice : ℕ → Devices
  mutes : Mutes
  log : List RoutingEvent := []

/-- No output was told anything. -/
def Routing.start : Routing where
  mDevice _ := 0
  mutes := Mutes.none

section Call

variable (H : Headers) (v : TimedOutputs) (n : ℕ) (act : Activity) (device : Devices) (delayMs : ℕ)

namespace Routing

/-- The check of an output whose device was `prevDevice`. -/
def muteCheck (output : ℕ) (prevDevice : Devices) (r : Routing) : MuteCheck where
  output := output
  prevDevice := prevDevice
  delayMs := delayMs
  device := r.mDevice output
  isActive := act.isActive output
  getDeviceForStrategy := act.getDeviceForStrategy
  isStrategyActive := act.isStrategyActive

/-- `checkDeviceMuteStrategies`: what it returns, and the mutes it makes before it sleeps. -/
def checkMutes (output : ℕ) (prevDevice : Devices) (r : Routing) : ℕ × Routing :=
  let x := r.muteCheck act delayMs output prevDevice
  let (muteWaitMs, calls) := timedCheckDeviceMuteStrategies H v n r.mutes x
  let slept := if muteWaitMs = 0 then [] else [RoutingEvent.usleep (muteWaitMs * 1000 % 2 ^ 32)]
  (muteWaitMs, { r with
    mutes := (checkDeviceMuteStrategies H v.toOutputSet n r.mutes x).2
    log := slept ++ (calls.reverse.map .strategyMute ++ r.log) })

/-- The device of a descriptor. -/
def setDevice (output : ℕ) (device : Devices) (r : Routing) : Routing :=
  { r with mDevice := Function.update r.mDevice output device }

/-- The output of a profile. -/
def setProfileDevice (output : ℕ) (r : Routing) : ℕ × Routing :=
  if device ≠ 0 ∧ device &&& v.supportedDevices output = 0 then (0, r)
  else
    let device := device &&& v.supportedDevices output
    let prevDevice := r.mDevice output
    let r := if device ≠ 0 then r.setDevice output device else r
    let (muteWaitMs, r) := r.checkMutes H v n act delayMs output prevDevice
    if device = 0 then (muteWaitMs, r)
    else
      let delayMs := if device = prevDevice then 0 else delayMs
      (muteWaitMs, { r with
        log := .streamVolumes output device delayMs :: .routing output device delayMs :: r.log })

/-- The time that was waited, in 32 bits, and what was done.  `force` is not read. -/
def setOutputDevice : Descriptor → Routing → ℕ × Routing
  | .duplicated mOutput1 mOutput2, r =>
    let (wait1, r) := setOutputDevice mOutput1 r
    let (wait2, r) := setOutputDevice mOutput2 r
    ((wait1 + wait2) % 2 ^ 32, r)
  | .profile output, r => r.setProfileDevice H v n act device delayMs output

end Routing

end Call

/-- A call of `setOutputDevice`, with the outputs that are open at the time. -/
structure RoutingCall where
  outputs : TimedOutputs
  activity : Activity
  descriptor : Descriptor
  device : Devices
  delayMs : ℕ

def Routing.call (H : Headers) (n : ℕ) (r : Routing) (c : RoutingCall) : ℕ × Routing :=
  r.setOutputDevice H c.outputs n c.activity c.device c.delayMs c.descriptor

/-! ### What the hardware was told -/

def RoutingEvent.routing? (output : ℕ) : RoutingEvent → Option (Devices × ℕ)
  | .routing o device delayMs => if o = output then some (device, delayMs) else none
  | _ => none

def RoutingEvent.streamVolumes? (output : ℕ) : RoutingEvent → Option (Devices × ℕ)
  | .streamVolumes o device delayMs => if o = output then some (device, delayMs) else none
  | _ => none

def RoutingEvent.slept : RoutingEvent → ℕ
  | .usleep us => us
  | _ => 0

/-- The last routing that the output was told, with its delay. -/
def toldRouting (output : ℕ) (log : List RoutingEvent) : Option (Devices × ℕ) :=
  log.findSome? (·.routing? output)

/-- The device that the volumes of the output were applied for, with the delay. -/
def toldVolumes (output : ℕ) (log : List RoutingEvent) : Option (Devices × ℕ) :=
  log.findSome? (·.streamVolumes? output)

def slept (log : List RoutingEvent) : ℕ := (log.map (·.slept)).sum

/-- An event that is neither a routing nor volumes. -/
def Quiet (e : RoutingEvent) : Prop := ∀ o, e.routing? o = none ∧ e.streamVolumes? o = none

/-- A routing that the output has already is sent without delay. -/
def Undelayed (before : List RoutingEvent) (e : RoutingEvent) : Prop :=
  ∀ output device delayMs, e = .routing output device delayMs →
    (toldRouting output before).map Prod.fst = some device → delayMs = 0

namespace Routing

/-- What the descriptors hold is what the hardware was told. -/
structure Told (r : Routing) : Prop where
  routing : ∀ o, (toldRouting o r.log).map Prod.fst = if r.mDevice o = 0 then none else some (r.mDevice o)
  volumes : ∀ o, toldVolumes o r.log = toldRouting o r.log
  undelayed : Always Undelayed r.log

variable {H : Headers} {v : TimedOutputs} {n : ℕ} {act : Activity} {device prevDevice : Devices}
  {delayMs output : ℕ} {r : Routing}

theorem mDevice_checkMutes :
    (r.checkMutes H v n act delayMs output prevDevice).2.mDevice = r.mDevice := rfl

/-- A check mutes and sleeps only. -/
theorem grows_checkMutes : Grows Quiet r.log
    (r.checkMutes H v n act delayMs output prevDevice).2.log := by
  unfold checkMutes
  dsimp only
  refine ⟨_ ++ _, (List.append_assoc ..).symm, ?_⟩
  intro e he o
  rcases List.mem_append.1 he with he | he
  · split at he
    · cases he
    · obtain rfl := List.mem_singleton.1 he
      exact ⟨rfl, rfl⟩
  · obtain ⟨c, -, rfl⟩ := List.mem_map.1 he
    exact ⟨rfl, rfl⟩

/-- The mutes are no sleep. -/
theorem slept_mutes (calls : List StrategyMuteCall) (log : List RoutingEvent) :
    slept (calls.map .strategyMute ++ log) = slept log := by
  induction calls with
  | nil => rfl
  | cons c calls ih =>
    have hc : slept (.strategyMute c :: (calls.map .strategyMute ++ log)) =
        0 + slept (calls.map .strategyMute ++ log) := rfl
    rw [List.map_cons, List.cons_append, hc, ih, Nat.zero_add]

/-- It sleeps for what it returns. -/
theorem slept_checkMutes : slept (r.checkMutes H v n act delayMs output prevDevice).2.log ≡
    slept r.log + 1000 * (r.checkMutes H v n act delayMs output prevDevice).1 [MOD 2 ^ 32] := by
  unfold checkMutes
  generalize timedCheckDeviceMuteStrategies H v n r.mutes (r.muteCheck act delayMs output prevDevice) = t
  dsimp only
  split
  next h =>
    rw [List.nil_append, slept_mutes, h]
    exact Nat.ModEq.refl _
  next h =>
    have hsum : ∀ us log, slept (.usleep us :: log) = us + slept log := fun _ _ => rfl
    rw [List.singleton_append, hsum, slept_mutes, Nat.add_comm, Nat.mul_comm]
    exact (Nat.mod_modEq _ _).add_left _

/-! ### The descriptors hold what was told -/

theorem toldRouting_grows {log log' : List RoutingEvent} (h : Grows Quiet log log') (o : ℕ) :
    toldRouting o log' = toldRouting o log := by
  refine h.read_eq fun e he log => ?_
  unfold toldRouting
  rw [List.findSome?_cons, (he o).1]

theorem toldVolumes_grows {log log' : List RoutingEvent} (h : Grows Quiet log log') (o : ℕ) :
    toldVolumes o log' = toldVolumes o log := by
  refine h.read_eq fun e he log => ?_
  unfold toldVolumes
  rw [List.findSome?_cons, (he o).2]

theorem undelayed_grows {log log' : List RoutingEvent} (h : Grows Quiet log log')
    (hlog : Always Undelayed log) : Always Undelayed log' := by
  obtain ⟨l, rfl, hl⟩ := h
  refine hlog.append fun e he before output device delayMs hrouting => ?_
  have hnone := (hl e he output).1
  rw [hrouting] at hnone
  have hsome : (RoutingEvent.routing output device delayMs).routing? output = some (device, delayMs) :=
    if_pos rfl
  cases hsome.symm.trans hnone

theorem Told.grows {r' : Routing} (h : Told r) (hm : r'.mDevice = r.mDevice)
    (hlog : Grows Quiet r.log r'.log) : Told r' where
  routing o := by
    rw [toldRouting_grows hlog, hm]
    exact h.routing o
  volumes o := by
    rw [toldRouting_grows hlog, toldVolumes_grows hlog]
    exact h.volumes o
  undelayed := undelayed_grows hlog h.undelayed

theorem toldRouting_cons (o : ℕ) (e : RoutingEvent) (log : List RoutingEvent) :
    toldRouting o (e :: log) = (e.routing? o).or (toldRouting o log) := by
  unfold toldRouting
  rw [List.findSome?_cons]
  cases e.routing? o <;> rfl

theorem toldVolumes_cons (o : ℕ) (e : RoutingEvent) (log : List RoutingEvent) :
    toldVolumes o (e :: log) = (e.streamVolumes? o).or (toldVolumes o log) := by
  unfold toldVolumes
  rw [List.findSome?_cons]
  cases e.streamVolumes? o <;> rfl

/-- The output gets a device, and the hardware is told. -/
theorem Told.route {r' : Routing} (h : Told r) (hdevice : device ≠ 0) {log : List RoutingEvent}
    (hlog : Grows Quiet r.log log) (hm : r'.mDevice = Function.update r.mDevice output device)
    (hdelay : device = r.mDevice output → delayMs = 0)
    (he : r'.log = .streamVolumes output device delayMs :: .routing output device delayMs :: log) :
    Told r' where
  routing o := by
    rw [he, hm, toldRouting_cons, toldRouting_cons]
    by_cases ho : output = o
    · subst ho
      rw [Function.update_self, if_neg hdevice]
      simp [RoutingEvent.routing?]
    · rw [Function.update_of_ne (Ne.symm ho), ← h.routing o, ← toldRouting_grows hlog]
      simp [RoutingEvent.routing?, ho]
  volumes o := by
    rw [he, toldVolumes_cons, toldVolumes_cons, toldRouting_cons, toldRouting_cons,
      toldVolumes_grows hlog, toldRouting_grows hlog, h.volumes o]
    rfl
  undelayed := by
    rw [he]
    have hvolumes : ∀ before, Undelayed before (.streamVolumes output device delayMs) := by
      intro before o d ms e
      cases e
    refine And.intro (hvolumes _) (And.intro ?_ (undelayed_grows hlog h.undelayed))
    intro o d ms e htold
    obtain ⟨rfl, rfl, rfl⟩ := RoutingEvent.routing.inj e
    rw [toldRouting_grows hlog, h.routing output] at htold
    split at htold
    · cases htold
    · exact hdelay (Option.some.inj htold).symm

theorem Told.setProfileDevice (h : Told r) :
    Told (r.setProfileDevice H v n act device delayMs output).2 := by
  unfold Routing.setProfileDevice
  split
  · exact h
  · dsimp only
    by_cases hdevice : device &&& v.supportedDevices output = 0
    · rw [if_neg (not_not.2 hdevice), if_pos hdevice]
      exact h.grows mDevice_checkMutes grows_checkMutes
    · rw [if_pos hdevice, if_neg hdevice]
      have hlog : (r.setDevice output (device &&& v.supportedDevices output)).log = r.log := rfl
      exact h.route hdevice (hlog ▸ grows_checkMutes) rfl (fun e => if_pos e) rfl

theorem Told.setOutputDevice (h : Told r) (descriptor : Descriptor) :
    Told (r.setOutputDevice H v n act device delayMs descriptor).2 := by
  induction descriptor generalizing r with
  | profile output => exact h.setProfileDevice
  | duplicated mOutput1 mOutput2 ih1 ih2 => exact ih2 (ih1 h)

/-! ### A call sleeps for what it returns -/

theorem slept_setProfileDevice : slept (r.setProfileDevice H v n act device delayMs output).2.log ≡
    slept r.log + 1000 * (r.setProfileDevice H v n act device delayMs output).1 [MOD 2 ^ 32] := by
  unfold Routing.setProfileDevice
  split
  · exact Nat.ModEq.refl _
  · dsimp only
    generalize hr : (if device &&& v.supportedDevices output ≠ 0 then
      r.setDevice output (device &&& v.supportedDevices output) else r) = r'
    have hlog : r'.log = r.log := by
      rw [← hr]
      split <;> rfl
    have hcheck : slept (r'.checkMutes H v n act delayMs output (r.mDevice output)).2.log ≡
        slept r'.log + 1000 * (r'.checkMutes H v n act delayMs output (r.mDevice output)).1 [MOD 2 ^ 32] :=
      slept_checkMutes
    rw [hlog] at hcheck
    split
    · exact hcheck
    · have hrouted : ∀ d ms log, slept (.streamVolumes output d ms :: .routing output d ms :: log) =
          slept log := by
        intro d ms log
        simp [slept, RoutingEvent.slept]
      rw [hrouted]
      exact hcheck

theorem slept_setOutputDevice (descriptor : Descriptor) :
    slept (r.setOutputDevice H v n act device delayMs descriptor).2.log ≡
      slept r.log + 1000 * (r.setOutputDevice H v n act device delayMs descriptor).1 [MOD 2 ^ 32] := by
  induction descriptor generalizing r with
  | profile output => exact slept_setProfileDevice
  | duplicated mOutput1 mOutput2 ih1 ih2 =>
    unfold Routing.setOutputDevice
    dsimp only
    generalize hr : r.setOutputDevice H v n act device delayMs mOutput1 = p
    have hfirst := ih1 (r := r)
    rw [hr] at hfirst
    have hsum : ∀ a b : ℕ, 1000 * ((a + b) % 2 ^ 32) ≡ 1000 * a + 1000 * b [MOD 2 ^ 32] := by
      intro a b
      rw [← Nat.mul_add]
      exact (Nat.mod_modEq _ _).mul_left _
    calc slept (p.2.setOutputDevice H v n act device delayMs mOutput2).2.log
        ≡ slept p.2.log + 1000 * (p.2.setOutputDevice H v n act device delayMs mOutput2).1
          [MOD 2 ^ 32] := ih2
      _ ≡ slept r.log + 1000 * p.1 +
          1000 * (p.2.setOutputDevice H v n act device delayMs mOutput2).1 [MOD 2 ^ 32] :=
        hfirst.add_right _
      _ = slept r.log + (1000 * p.1 +
          1000 * (p.2.setOutputDevice H v n act device delayMs mOutput2).1) := Nat.add_assoc ..
      _ ≡ slept r.log +
          1000 * ((p.1 + (p.2.setOutputDevice H v n act device delayMs mOutput2).1) % 2 ^ 32)
          [MOD 2 ^ 32] := (hsum _ _).symm.add_left _

theorem told_start : Told start where
  routing _ := rfl
  volumes _ := rfl
  undelayed := trivial

/-- **What was told.** If the device of each descriptor is the last routing that its output was told,
the volumes were last applied for that routing and with its delay, and a routing that the output had
already was sent without delay, then so it is after any calls.  A call sleeps for the time that it
returns. -/
theorem told (h : Told r) (calls : List RoutingCall) (c : RoutingCall) :
    Told (calls.foldl (fun r c => (r.call H n c).2) r) ∧
      slept ((calls.foldl (fun r c => (r.call H n c).2) r).call H n c).2.log ≡
        slept (calls.foldl (fun r c => (r.call H n c).2) r).log +
          1000 * ((calls.foldl (fun r c => (r.call H n c).2) r).call H n c).1 [MOD 2 ^ 32] := by
  refine ⟨?_, slept_setOutputDevice _⟩
  induction calls generalizing r with
  | nil => exact h
  | cons c calls ih => exact ih (h.setOutputDevice c.descriptor)

/-- A call for the speaker, while two outputs are open and silent. -/
def speakerCall (descriptor : Descriptor) (delayMs : ℕ) : RoutingCall where
  outputs := { plainTimed with keys := [1, 2], nodup := by decide }
  activity := ⟨fun _ => false, fun _ => 0, fun _ _ => false⟩
  descriptor := descriptor
  device := 0x2
  delayMs := delayMs

/-- An output goes to the speaker, then a duplicating one takes the other output and it there. -/
def onSpeaker : Routing :=
  [speakerCall (.profile 1) 0, speakerCall (.duplicated (.profile 2) (.profile 1)) 20].foldl
    (fun r c => (r.call .plain 6 c).2) start

theorem told_speaker : Told onSpeaker ∧
    slept (onSpeaker.call .plain 6 (speakerCall (.profile 1) 20)).2.log ≡
      slept onSpeaker.log + 1000 * (onSpeaker.call .plain 6 (speakerCall (.profile 1) 20)).1
        [MOD 2 ^ 32] :=
  told told_start _ (speakerCall (.profile 1) 20)

/-! ### What a call does to the devices -/

theorem mDevice_setProfileDevice (o : ℕ) :
    (r.setProfileDevice H v n act device delayMs output).2.mDevice o =
      if o = output ∧ device &&& v.supportedDevices o ≠ 0 then device &&& v.supportedDevices o
      else r.mDevice o := by
  unfold Routing.setProfileDevice
  split
  next hunsupported =>
    rw [if_neg]
    rintro ⟨rfl, hsupported⟩
    exact hsupported hunsupported.2
  next =>
    dsimp only
    by_cases hdevice : device &&& v.supportedDevices output = 0
    · rw [if_neg (not_not.2 hdevice), if_pos hdevice, mDevice_checkMutes, if_neg]
      rintro ⟨rfl, hsupported⟩
      exact hsupported hdevice
    · rw [if_pos hdevice, if_neg hdevice, mDevice_checkMutes]
      unfold Routing.setDevice
      by_cases ho : o = output
      · subst ho
        rw [if_pos ⟨rfl, hdevice⟩]
        exact Function.update_self ..
      · rw [if_neg fun h => ho h.1]
        exact Function.update_of_ne ho _ _

/-- Each output under the descriptor takes the part of the device that it supports, if there is one. -/
theorem mDevice_setOutputDevice (o : ℕ) (descriptor : Descriptor) :
    (r.setOutputDevice H v n act device delayMs descriptor).2.mDevice o =
      if o ∈ descriptor.leaves ∧ device &&& v.supportedDevices o ≠ 0 then device &&& v.supportedDevices o
      else r.mDevice o := by
  induction descriptor generalizing r with
  | profile output =>
    have hleaf : o ∈ (Descriptor.profile output).leaves ↔ o = output := List.mem_singleton
    simp only [hleaf]
    exact mDevice_setProfileDevice o
  | duplicated mOutput1 mOutput2 ih1 ih2 =>
    have hleaves : o ∈ (Descriptor.duplicated mOutput1 mOutput2).leaves ↔
        o ∈ mOutput1.leaves ∨ o ∈ mOutput2.leaves := List.mem_append
    have hboth : (r.setOutputDevice H v n act device delayMs (.duplicated mOutput1 mOutput2)).2.mDevice o =
        ((r.setOutputDevice H v n act device delayMs mOutput1).2.setOutputDevice H v n act device delayMs
          mOutput2).2.mDevice o := rfl
    rw [hboth, ih2, ih1]
    simp only [hleaves]
    split_ifs <;> tauto

end Routing

/-! ### Every output gets its device again -/

/-- The latencies of the outputs, and their flags. -/
structure Timing where
  latency : ℕ → ℕ
  latency_lt : ∀ o, latency o < 2 ^ 32
  mFlags : ℕ → BitVec 32
  AUDIO_OUTPUT_FLAG_LPA : BitVec 32

namespace State

variable {R : Type} (B : Base R) (s : State R)

/-- The outputs that a duplicating output is duplicated to are those of profiles. -/
def descriptor (o : ℕ) : Option Descriptor :=
  (s.origins o).map fun
    | .profile _ => .profile o
    | .duplicated mOutput1 mOutput2 => .duplicated (.profile mOutput1) (.profile mOutput2)

/-- What the output of a profile supports. -/
def profileDevices (o : ℕ) : Devices :=
  match s.origins o with
  | some (.profile p) => (s.profile p).mSupportedDevices
  | _ => 0

/-- The outputs of the state, as a check sees them. -/
def timed (t : Timing) : TimedOutputs where
  keys := s.mOutputs.keys
  nodup := s.mOutputs.sorted.imp ne_of_lt
  supportedDevices o :=
    match s.origins o with
    | some (.duplicated o₁ o₂) => s.profileDevices o₁ ||| s.profileDevices o₂
    | _ => s.profileDevices o
  isDuplicated o := (s.mOutputs.valueFor o).any (·.isDuplicated)
  latency := t.latency
  mFlags := t.mFlags
  AUDIO_OUTPUT_FLAG_LPA := t.AUDIO_OUTPUT_FLAG_LPA
  latency_lt := t.latency_lt

/-- The part of the device chosen for `d` that the output `o` supports. -/
def choice (d o : ℕ) : Devices := B.getNewDevice s d true &&& s.profileDevices o

/-- The output `d` duplicates the output `o`. -/
def DuplicatesTo (d o : ℕ) : Prop :=
  ∃ o₁ o₂, s.origins d = some (.duplicated o₁ o₂) ∧ (o₁ = o ∨ o₂ = o)

/-- The device chosen for `d`, which duplicates `o` and comes after it, is another one for `o`, and no
output after `d` changes it again. -/
structure Overrides (d o : ℕ) : Prop where
  duplicates : s.DuplicatesTo d o
  after : o < d
  supported : s.choice B d o ≠ 0
  differs : s.choice B d o ≠ s.choice B o o
  last : ∀ d', d < d' → s.DuplicatesTo d' o → s.choice B d' o = 0

end State

/-- The calls that the events record, newest first. -/
def Routing.replay (H : Headers) (v : TimedOutputs) (n : ℕ) (act : Routing → Activity)
    (descriptor : ℕ → Option Descriptor) (delayMs : ℕ) : List Event → Routing → Routing
  | [], r => r
  | .setOutputDevice output device _ :: events, r =>
    let r := replay H v n act descriptor delayMs events r
    match descriptor output with
    | some desc => (r.setOutputDevice H v n (act r) device delayMs desc).2
    | none => r
  | _ :: events, r => replay H v n act descriptor delayMs events r

namespace State

variable {R : Type} {B : Base R} {H : Headers} {t : Timing} {v : TimedOutputs} {n : ℕ}
  {act : Routing → Activity} {delayMs : ℕ} {s s' : State R} {d o p : ℕ} {r : Routing}

/-- The choice of the base class does not depend on inputs, nor on what was sent. -/
def ChoosesForOutputs (B : Base R) : Prop :=
  ∀ (s : State R) mInputs mAvailableInputDevices log o fromCache,
    B.getNewDevice { s with
      mInputs := mInputs, mAvailableInputDevices := mAvailableInputDevices, log := log } o fromCache =
      B.getNewDevice s o fromCache

/-- What an output tells the output `o`. -/
def tells (B : Base R) (s : State R) (o d : ℕ) : Option Devices :=
  (s.descriptor d).bind fun desc =>
    if o ∈ desc.leaves ∧ s.choice B d o ≠ 0 then some (s.choice B d o) else none

theorem tells_self (ho : s.origins o = some (.profile p)) (hchoice : s.choice B o o ≠ 0) :
    tells B s o o = some (s.choice B o o) := by
  unfold tells descriptor
  rw [ho]
  exact if_pos ⟨List.mem_singleton_self o, hchoice⟩

/-- Only the output itself, and those that duplicate it, tell it anything. -/
theorem tells_iff (hne : d ≠ o) {device : Devices} : tells B s o d = some device ↔
    s.DuplicatesTo d o ∧ s.choice B d o ≠ 0 ∧ device = s.choice B d o := by
  unfold tells descriptor DuplicatesTo
  rcases s.origins d with - | (p | ⟨o₁, o₂⟩)
  · simp
  · have hleaf : o ∉ (Descriptor.profile d).leaves := by
      rw [Descriptor.leaves, List.mem_singleton]
      exact hne.symm
    simp [hleaf]
  · have hleaves : o ∈ (Descriptor.duplicated (.profile o₁) (.profile o₂)).leaves ↔
        o₁ = o ∨ o₂ = o := by
      simp [Descriptor.leaves, eq_comm]
    simp only [Option.map_some, Option.bind_some, hleaves]
    constructor
    · intro h
      split at h
      next hif => exact ⟨⟨o₁, o₂, rfl, hif.1⟩, hif.2, (Option.some.inj h).symm⟩
      next => cases h
    · rintro ⟨⟨_, _, e, hdup⟩, hchoice, rfl⟩
      obtain ⟨rfl, rfl⟩ := Origin.duplicated.inj (Option.some.inj e)
      exact if_pos ⟨hdup, hchoice⟩

theorem tells_none (hne : d ≠ o) :
    tells B s o d = none ↔ (s.DuplicatesTo d o → s.choice B d o = 0) := by
  rw [Option.eq_none_iff_forall_ne_some]
  constructor
  · intro h hdup
    by_contra hchoice
    exact h _ ((tells_iff hne).2 ⟨hdup, hchoice, rfl⟩)
  · intro h device htells
    obtain ⟨hdup, hchoice, -⟩ := (tells_iff hne).1 htells
    exact hchoice (h hdup)

/-- One round of the loop. -/
theorem mDevice_replay_one (ho : s.origins o = some (.profile p)) (force : Bool)
    (events : List Event) :
    (Routing.replay H (s.timed t) n act s.descriptor delayMs
        (.setOutputDevice d (B.getNewDevice s d true) force :: events) r).mDevice o =
      (tells B s o d).getD
        ((Routing.replay H (s.timed t) n act s.descriptor delayMs events r).mDevice o) := by
  have hv : (s.timed t).supportedDevices o = s.profileDevices o := by
    unfold timed
    dsimp only
    rw [ho]
  unfold tells
  rw [Routing.replay]
  rcases s.descriptor d with - | desc
  · rfl
  · dsimp only
    rw [Routing.mDevice_setOutputDevice, hv, Option.bind_some]
    unfold choice
    split <;> rfl

theorem replay_append (events events' : List Event) (descriptor : ℕ → Option Descriptor) :
    Routing.replay H v n act descriptor delayMs (events ++ events') r =
      Routing.replay H v n act descriptor delayMs events
        (Routing.replay H v n act descriptor delayMs events' r) := by
  induction events with
  | nil => rfl
  | cons e events ih =>
    cases e with
    | setOutputDevice output device force =>
      rw [List.cons_append, Routing.replay, Routing.replay, ih]
    | setParameters handle parameter => exact ih
    | setStrategyMute strategy on output => exact ih
    | setStreamMute stream on output => exact ih

/-- What the loop over the handles `ks` sends, and what the output `o` gets from it. -/
theorem route_keys (hB : ChoosesForOutputs B) (force : State R → ℕ → Devices → Bool)
    (ks : List ℕ) (log : List Event) :
    ∃ events, (ks.foldl (fun s output => s.setOutputDevice output (B.getNewDevice s output true)
        (force s output (B.getNewDevice s output true))) { s with log := log }) =
        { s with log := events ++ log } ∧
      ∀ o p, s.origins o = some (.profile p) → ∀ r,
        (Routing.replay H (s.timed t) n act s.descriptor delayMs events r).mDevice o =
          (ks.reverse.findSome? (tells B s o)).getD (r.mDevice o) := by
  induction ks generalizing log with
  | nil => exact ⟨[], rfl, fun _ _ _ _ => rfl⟩
  | cons k ks ih =>
    have hchoice : B.getNewDevice { s with log := log } k true = B.getNewDevice s k true :=
      hB s s.mInputs s.mAvailableInputDevices log k true
    generalize hforce : force { s with log := log } k (B.getNewDevice s k true) = forced
    obtain ⟨events, hevents, htold⟩ :=
      ih (.setOutputDevice k (B.getNewDevice s k true) forced :: log)
    refine ⟨events ++ [.setOutputDevice k (B.getNewDevice s k true) forced], ?_, ?_⟩
    · rw [List.foldl_cons, hchoice, hforce, List.append_assoc]
      exact hevents
    · intro o p ho r
      rw [replay_append, htold o p ho, mDevice_replay_one ho, List.reverse_cons,
        List.findSome?_append]
      have hone : [k].findSome? (tells B s o) = tells B s o k := by
        rw [List.findSome?_cons]
        cases tells B s o k <;> rfl
      rw [hone]
      cases ks.reverse.findSome? (tells B s o) <;> rfl

/-- The output has the device that was chosen for it unless another one overrides it. -/
theorem last_told_iff (ho : s.origins o = some (.profile p)) (hchoice : s.choice B o o ≠ 0)
    (device : Devices) :
    (s.mOutputs.keys.reverse.findSome? (tells B s o)).getD device = s.choice B o o ↔
      ∀ d, ¬s.Overrides B d o := by
  have hsorted : s.mOutputs.keys.Pairwise (· < ·) := s.mOutputs.sorted
  have hopen : o ∈ s.mOutputs.keys := mem_mOutputs.2 ⟨_, ho⟩
  have hself := tells_self ho hchoice
  have hmem : ∀ d, s.DuplicatesTo d o → d ∈ s.mOutputs.keys :=
    fun d ⟨_, _, hd, _⟩ => mem_mOutputs.2 ⟨_, hd⟩
  constructor
  · intro h d hd
    have hne : d ≠ o := ne_of_gt hd.after
    have hlast : s.mOutputs.keys.reverse.findSome? (tells B s o) = some (s.choice B d o) := by
      refine (Loops.last_iff hsorted _ _).2 ⟨d, hmem d hd.duplicates,
        (tells_iff hne).2 ⟨hd.duplicates, hd.supported, rfl⟩, fun d' _ hlt => ?_⟩
      exact (tells_none (ne_of_gt (hd.after.trans hlt))).2 (hd.last d' hlt)
    rw [hlast] at h
    exact hd.differs h
  · intro h
    -- the last output that tells it anything is itself, or agrees with it
    rcases hlast : s.mOutputs.keys.reverse.findSome? (tells B s o) with - | told
    · have hnone := List.findSome?_eq_none_iff.1 hlast o (List.mem_reverse.2 hopen)
      cases hself.symm.trans hnone
    · obtain ⟨k, hk, htold, hafter⟩ := (Loops.last_iff hsorted _ _).1 hlast
      by_cases hne : k = o
      · subst hne
        exact Option.some.inj (htold.symm.trans hself)
      · obtain ⟨hdup, hsupported, rfl⟩ := (tells_iff hne).1 htold
        have hle : ¬k < o := by
          intro hlt
          cases hself.symm.trans (hafter o hopen hlt)
        by_contra hdiffers
        refine h k ⟨hdup, by omega, hsupported, hdiffers, fun d' hlt hdup' => ?_⟩
        exact (tells_none (by omega)).1 (hafter d' (hmem d' hdup') hlt) hdup'

/-! ### The calls that end so -/

/-- The events gave every output its device: each has what was chosen for it unless another output
overrides it. -/
def GivesDevices (B : Base R) (H : Headers) (t : Timing) (n : ℕ) (act : Routing → Activity)
    (delayMs : ℕ) (s : State R) (events : List Event) : Prop :=
  ∀ o p, s.origins o = some (.profile p) → s.choice B o o ≠ 0 → ∀ r,
    ((Routing.replay H (s.timed t) n act s.descriptor delayMs events r).mDevice o = s.choice B o o ↔
      ∀ d, ¬s.Overrides B d o)

/-- At most inputs have changed, and the log. -/
def OnlyInputs (s s' : State R) : Prop :=
  ∃ mInputs mAvailableInputDevices log, s' = { s with
    mInputs := mInputs, mAvailableInputDevices := mAvailableInputDevices, log := log }

theorem OnlyInputs.choice (hB : ChoosesForOutputs B) (h : OnlyInputs s s') :
    s'.choice B d o = s.choice B d o := by
  obtain ⟨mInputs, mAvailableInputDevices, log, rfl⟩ := h
  exact congrArg (· &&& s.profileDevices o) (hB s mInputs mAvailableInputDevices log d true)

theorem OnlyInputs.origins (h : OnlyInputs s s') : s'.origins = s.origins := by
  obtain ⟨mInputs, mAvailableInputDevices, log, rfl⟩ := h
  rfl

theorem OnlyInputs.overrides (hB : ChoosesForOutputs B) (h : OnlyInputs s s')
    (hd : s.Overrides B d o) : s'.Overrides B d o where
  duplicates := by
    unfold DuplicatesTo
    rw [h.origins]
    exact hd.duplicates
  after := hd.after
  supported := by
    rw [h.choice hB]
    exact hd.supported
  differs := by
    rw [h.choice hB, h.choice hB]
    exact hd.differs
  last d' hlt hdup := by
    unfold DuplicatesTo at hdup
    rw [h.origins] at hdup
    rw [h.choice hB]
    exact hd.last d' hlt hdup

theorem OnlyInputs.symm (h : OnlyInputs s s') : OnlyInputs s' s := by
  obtain ⟨mInputs, mAvailableInputDevices, log, rfl⟩ := h
  exact ⟨s.mInputs, s.mAvailableInputDevices, s.log, rfl⟩

theorem OnlyInputs.trans {s'' : State R} (h : OnlyInputs s s') (h' : OnlyInputs s' s'') :
    OnlyInputs s s'' := by
  obtain ⟨mInputs, mAvailableInputDevices, log, rfl⟩ := h
  obtain ⟨mInputs', mAvailableInputDevices', log', rfl⟩ := h'
  exact ⟨mInputs', mAvailableInputDevices', log', rfl⟩

/-- What inputs are told does not matter. -/
theorem GivesDevices.inputs (hB : ChoosesForOutputs B) {events l : List Event}
    (h : GivesDevices B H t n act delayMs s events) (hs : OnlyInputs s s')
    (hl : ∀ e ∈ l, ∃ handle parameter, e = .setParameters handle parameter) :
    GivesDevices B H t n act delayMs s' (l ++ events) := by
  intro o p ho hne r
  rw [hs.origins] at ho
  rw [hs.choice hB] at hne ⊢
  have hquiet : Routing.replay H (s'.timed t) n act s'.descriptor delayMs (l ++ events) r =
      Routing.replay H (s.timed t) n act s.descriptor delayMs events r := by
    obtain ⟨mInputs, mAvailableInputDevices, log, rfl⟩ := hs
    induction l with
    | nil => rfl
    | cons e l ih =>
      obtain ⟨handle, parameter, rfl⟩ := hl e (List.mem_cons_self ..)
      exact ih fun e he => hl e (List.mem_cons_of_mem _ he)
  rw [hquiet, h o p ho hne r]
  exact ⟨fun hno d hd => hno d (hs.symm.overrides hB hd), fun hno d hd => hno d (hs.overrides hB hd)⟩

/-- The loop over all outputs. -/
theorem givesDevices_routeOutputs (hB : ChoosesForOutputs B)
    (force : State R → ℕ → Devices → Bool) : ∃ events,
      (s.routeOutputs B force).log = events ++ s.log ∧
        GivesDevices B H t n act delayMs (s.routeOutputs B force) events := by
  obtain ⟨events, hevents, htold⟩ : ∃ events, s.routeOutputs B force = { s with log := events ++ s.log } ∧
      ∀ o p, s.origins o = some (.profile p) → ∀ r,
        (Routing.replay H (s.timed t) n act s.descriptor delayMs events r).mDevice o =
          (s.mOutputs.keys.reverse.findSome? (tells B s o)).getD (r.mDevice o) :=
    route_keys hB force s.mOutputs.keys s.log
  have hgives : GivesDevices B H t n act delayMs s events := by
    intro o p ho hne r
    rw [htold o p ho r]
    exact last_told_iff ho hne _
  have honly : OnlyInputs s (s.routeOutputs B force) := ⟨_, _, _, hevents⟩
  exact ⟨events, by rw [hevents], hgives.inputs hB honly (l := []) nofun⟩

/-- The inputs are told something after that. -/
structure TellsInputs (s s' : State R) : Prop where
  only : OnlyInputs s s'
  log : Grows (fun e => ∃ handle parameter, e = .setParameters handle parameter) s.log s'.log

theorem tellsInputs_routeActiveInput (s : State R) : TellsInputs s (s.routeActiveInput B H) := by
  have hrefl : TellsInputs s s := ⟨⟨_, _, _, rfl⟩, .refl _⟩
  unfold routeActiveInput
  dsimp only
  split
  · exact hrefl
  · split
    · exact hrefl
    · split
      · exact ⟨⟨_, _, _, rfl⟩, .cons ⟨_, _, rfl⟩ _⟩
      · exact hrefl

theorem tellsInputs_setInputState {device : Devices} {state : ConnectionState} :
    TellsInputs s (s.setInputState B H device state).2 := by
  have hrefl : TellsInputs s s := ⟨⟨_, _, _, rfl⟩, .refl _⟩
  have hroute : ∀ mAvailableInputDevices, TellsInputs s ({ s with
      mAvailableInputDevices := mAvailableInputDevices }.routeActiveInput B H) := by
    intro mAvailableInputDevices
    have h := tellsInputs_routeActiveInput (B := B) (H := H)
      { s with mAvailableInputDevices := mAvailableInputDevices }
    exact ⟨.trans ⟨_, _, _, rfl⟩ h.only, h.log⟩
  unfold setInputState
  split
  · split
    · exact hrefl
    · exact hroute _
  · split
    · exact hrefl
    · exact hroute _
  · exact hrefl

theorem tellsInputs_changePaired {device : Devices} {state : ConnectionState} :
    TellsInputs s (s.changePaired B H device state).2 := by
  have hrefl : TellsInputs s s := ⟨⟨_, _, _, rfl⟩, .refl _⟩
  unfold changePaired
  split
  · exact hrefl
  · split
    · exact tellsInputs_setInputState
    · exact hrefl

theorem GivesDevices.tellsInputs (hB : ChoosesForOutputs B) {events log : List Event}
    (h : GivesDevices B H t n act delayMs s events) (hlog : s.log = events ++ log)
    (hs : TellsInputs s s') :
    ∃ events log, s'.log = events ++ log ∧ GivesDevices B H t n act delayMs s' events := by
  obtain ⟨l, hl, hparameters⟩ := hs.log
  refine ⟨l ++ events, log, ?_, h.inputs hB hs.only hparameters⟩
  rw [hl, hlog, List.append_assoc]

/-- The forced use is applied at once. -/
def appliesForce (s : State R) : ForceUse → ForcedConfig → Bool
  | .other _, _ => true
  | .media, config => accepts .media config && !(s.fmMode = .digital ∧ config = .none)
  | usage, config => accepts usage config

theorem setForceUse_of_applies {usage : ForceUse} {config : ForcedConfig}
    (h : s.appliesForce usage config = true) :
    ∃ s₁ : State R, s.setForceUse B H usage config = s₁.applyForceUse B H := by
  have hstored : accepts usage config = true → (∀ code, usage ≠ .other code) → usage ≠ .media →
      s.setForceUse B H usage config = (s.storeForceUse usage config).applyForceUse B H := by
    intro haccepts hother hmedia
    unfold setForceUse
    split
    next code => exact absurd rfl (hother code)
    next => exact absurd rfl hmedia
    next => exact if_neg (by simp [haccepts])
  cases usage with
  | other code => exact ⟨s, rfl⟩
  | media =>
    obtain ⟨haccepts, hdigital⟩ := Bool.and_eq_true_iff.1 h
    refine ⟨{ s with pendingForceNone := false }.storeForceUse .media config, ?_⟩
    unfold setForceUse
    dsimp only
    rw [if_neg (by simp [haccepts]), if_neg (of_decide_eq_false (Bool.not_eq_true' _ ▸ hdigital))]
  | communication => exact ⟨_, hstored h (by simp) (by simp)⟩
  | record => exact ⟨_, hstored h (by simp) (by simp)⟩
  | dock => exact ⟨_, hstored h (by simp) (by simp)⟩
  | system => exact ⟨_, hstored h (by simp) (by simp)⟩

/-- The calls that give every output its device: a forced use that is applied, and an output device
that is connected or disconnected. -/
def reroutes (B : Base R) (H : Headers) (s : State R) : Call → Bool
  | .setForceUse usage config => s.appliesForce usage config
  | .setDeviceConnectionState c isAnalog device state device_address =>
    H.audio_is_output_device device &&
      (s.setDeviceConnectionState B H c isAnalog device state device_address).any (·.1 = noError)
  | _ => false

theorem finishOutput_routes {device : Devices} {state : ConnectionState} {outputs : SortedVector ℕ}
    (h : s.finishOutput B H device state outputs = some s') :
    ∃ s₁ force, s' = routeOutputs B force s₁ := by
  unfold finishOutput at h
  split at h
  · obtain ⟨s₁, -, rfl⟩ := Option.map_eq_some_iff.1 h
    exact ⟨_, _, rfl⟩
  · cases h

theorem connection_routes {c : Client} {isAnalog : Bool} {device : Devices} {state : ConnectionState}
    {device_address : String} {r : Status × State R} (hdevice : H.audio_is_output_device device = true)
    (hok : r.1 = noError)
    (h : s.setDeviceConnectionState B H c isAnalog device state device_address = some r) :
    ∃ s₁ force, TellsInputs (routeOutputs B force s₁) r.2 := by
  have hfinish : ∀ {s₂ s₃ : State R} {outputs : SortedVector ℕ} {state : ConnectionState},
      s₂.finishOutput B H device state outputs = some s₃ →
        ∃ s₁ force, TellsInputs (routeOutputs B force s₁) (s₃.changePaired B H device state).2 := by
    intro s₂ s₃ outputs state h3
    obtain ⟨s₁, force, rfl⟩ := finishOutput_routes h3
    exact ⟨s₁, force, tellsInputs_changePaired⟩
  rcases setDeviceConnectionState_cases h with ⟨rfl, -⟩ | ⟨-, hchange⟩ | ⟨hinput, -⟩
  · exact absurd hok badValue_ne
  · cases hchange with
    | busy => exact absurd hok invalidOperation_ne
    | refused => exact absurd hok invalidOperation_ne
    | connected h1 hc h2 ho h3 => exact hfinish h3
    | absent => exact absurd hok invalidOperation_ne
    | disconnected h1 hc h2 ho h3 => exact hfinish h3
    | badState => exact absurd hok badValue_ne
  · cases hdevice.symm.trans hinput

/-- **Rerouting.** When a forced use has been applied, or an output device has been connected or
disconnected, the hardware has been told for each output what was chosen for it, if anything was, if
and only if no output that duplicates it and comes later overrides that with another choice. -/
theorem rerouted_iff {call : Call} (hB : ChoosesForOutputs B) (hcall : s.reroutes B H call = true)
    (hs : step B H s call = some s') :
    ∃ events log, s'.log = events ++ log ∧ GivesDevices B H t n act delayMs s' events := by
  have hroutes : ∀ {s₁ s₂ : State R} {force : State R → ℕ → Devices → Bool},
      TellsInputs (routeOutputs B force s₁) s₂ → ∃ events log, s₂.log = events ++ log ∧
        GivesDevices B H t n act delayMs s₂ events := by
    intro s₁ s₂ force htells
    obtain ⟨events, hlog, hgives⟩ : ∃ events, (s₁.routeOutputs B force).log = events ++ s₁.log ∧
        GivesDevices B H t n act delayMs (s₁.routeOutputs B force) events :=
      givesDevices_routeOutputs hB force
    exact hgives.tellsInputs hB hlog htells
  cases call with
  | setForceUse usage config =>
    obtain rfl := Option.some.inj hs
    obtain ⟨s₁, hs₁⟩ := setForceUse_of_applies (B := B) (H := H) hcall
    rw [hs₁]
    exact hroutes (tellsInputs_routeActiveInput _)
  | setDeviceConnectionState c isAnalog device state device_address =>
    obtain ⟨r, hr, rfl⟩ := Option.map_eq_some_iff.1 hs
    obtain ⟨hdevice, hok⟩ := Bool.and_eq_true_iff.1 hcall
    rw [hr] at hok
    obtain ⟨s₁, force, htells⟩ := connection_routes hdevice (by simpa using hok) hr
    exact hroutes htells
  | setPhoneState state => cases hcall
  | getOutput c stream config flags => cases hcall
  | releaseOutput output => cases hcall
  | startOutput output stream => cases hcall
  | stopOutput output stream => cases hcall

end State

/-! ### A duplicated output -/

/-- The device of each output is fixed. -/
def Base.fixed (chosen : ℕ → Devices) : Base Unit := { Base.plain with
  getNewDevice := fun _ o _ => chosen o }

/-- The primary output, an A2DP output, and one that is duplicated to both. -/
def withDuplicated : State Unit := { State.plain with
  mOutputs := ((KeyedVector.empty.add 1 { origin := .profile 0 }).add 2 { origin := .profile 1 }).add 3
    { origin := .duplicated 2 1 }
  profile := fun p => if p = 1 then { mSupportedDevices := 0x380 } else { mSupportedDevices := 0x8047f } }

def plainTiming : Timing where
  latency _ := 32
  latency_lt _ := Nat.lt_two_pow_self
  mFlags _ := 0
  AUDIO_OUTPUT_FLAG_LPA := 0x10

/-- The speaker is forced, and the primary output has it. -/
theorem rerouted_speaker : ∃ s' events log,
    step (Base.fixed fun _ => 0x2) .plain withDuplicated (.setForceUse .media .speaker) = some s' ∧
      s'.log = events ++ log ∧ (Routing.replay .plain (s'.timed plainTiming) 6
        (fun _ => ⟨fun _ => false, fun _ => 0, fun _ _ => false⟩) s'.descriptor 0 events
        .start).mDevice 1 = 0x2 := by
  have hcall : withDuplicated.reroutes (Base.fixed fun _ => 0x2) .plain
      (.setForceUse .media .speaker) = true := by decide
  obtain ⟨s', hs⟩ : ∃ s', step (Base.fixed fun _ => 0x2) .plain withDuplicated
      (.setForceUse .media .speaker) = some s' := ⟨_, rfl⟩
  obtain ⟨events, log, hlog, hgives⟩ : ∃ events log, s'.log = events ++ log ∧
      State.GivesDevices (Base.fixed fun _ => 0x2) .plain plainTiming 6
        (fun _ => ⟨fun _ => false, fun _ => 0, fun _ _ => false⟩) 0 s' events :=
    State.rerouted_iff (fun _ _ _ _ _ _ => rfl) hcall hs
  obtain rfl := Option.some.inj hs
  refine ⟨_, events, log, rfl, hlog, (hgives 1 0 rfl (by decide) .start).2 ?_⟩
  intro d hd
  exact hd.differs rfl

/-- The duplicated output takes the speaker away from the primary one. -/
example : withDuplicated.Overrides (Base.fixed fun o => if o = 3 then 0x1 else 0x2) 3 1 where
  duplicates := ⟨2, 1, rfl, .inr rfl⟩
  after := by decide
  supported := by decide
  differs := by decide
  last d hlt hdup := by
    obtain ⟨_, _, horigin, -⟩ := hdup
    have hnone : withDuplicated.origins d = none := by
      have h1 : d ≠ 1 := by omega
      have h2 : d ≠ 2 := by omega
      have h3 : d ≠ 3 := by omega
      have hempty : (KeyedVector.empty : KeyedVector ℕ AudioOutputDescriptor).valueFor d = none := rfl
      simp [State.origins, withDuplicated, h1, h2, h3, hempty]
    cases hnone.symm.trans horigin

end Msm7x27a.Policy
