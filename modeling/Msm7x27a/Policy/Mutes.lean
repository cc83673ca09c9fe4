import Msm7x27a.Policy.Manager
import Msm7x27a.Lib.Loops
import Msm7x27a.Lib.Runs

/-!
# Mutes by device

`checkDeviceMuteStrategies`.  A strategy is muted on the outputs that share a device with an output
whose device does not fit it, and unmuted when it fits again; a flag for each output and strategy
remembers which.  A change of device mutes the output for a while beside that, and the strategies
whose flags stay as they are then are muted or unmuted once more.
-/

namespace Msm7x27a.Policy

open Msm7x27a.Route (Devices)
open Msm7x27a.Runs

/-! ### One check -/

/-- The open outputs, and what does not change of them. -/
structure OutputSet where
  keys : List ℕ
  nodup : keys.Nodup
  supportedDevices : ℕ → Devices
  isDuplicated : ℕ → Bool
  latency : ℕ → ℕ

/-- The mutes of a strategy, by output. -/
structure StrategyMutes where
  mMuteCount : ℕ → ℕ
  mStrategyMutedByDevice : ℕ → Bool

/-- The mutes of the strategies, by number. -/
abbrev Mutes := ℕ → StrategyMutes

/-- Nothing is muted. -/
def Mutes.none : Mutes := fun _ => ⟨fun _ => 0, fun _ => false⟩

/-- The arguments of a check, and what it asks of the output and of the strategies. -/
structure MuteCheck where
  output : ℕ
  prevDevice : Devices
  delayMs : ℕ
  device : Devices
  isActive : Bool
  getDeviceForStrategy : ℕ → Devices
  isStrategyActive : ℕ → ℕ → Bool

def popCount (device : Devices) : ℕ := (List.range 32).countP (device.getLsbD ·)

/-- The two outputs share a device. -/
def OutputSet.shares (v : OutputSet) (output o : ℕ) : Bool :=
  v.supportedDevices o &&& v.supportedDevices output ≠ 0

/-- The base class counts the mutes of a strategy on an output. -/
def setStrategyMute (on : Bool) (count : ℕ) : ℕ := if on then count + 1 else count - 1

section Check

variable (H : Headers) (v : OutputSet)

def getDeviceForVolume (device : Devices) : Devices :=
  if device = 0 then H.AUDIO_DEVICE_OUT_SPEAKER
  else if 1 < popCount device then
    if device.has H.AUDIO_DEVICE_OUT_SPEAKER then H.AUDIO_DEVICE_OUT_SPEAKER
    else if device.has H.AUDIO_DEVICE_OUT_FM then H.AUDIO_DEVICE_OUT_FM
    else if device.has H.AUDIO_DEVICE_OUT_WIRED_HEADSET then H.AUDIO_DEVICE_OUT_WIRED_HEADSET
    else device &&& H.AUDIO_DEVICE_OUT_ALL_A2DP
  else device

namespace MuteCheck

variable (x : MuteCheck)

def shouldMute : Bool :=
  x.isActive && (if x.device.has H.AUDIO_DEVICE_OUT_FM then 3 else 2) ≤ popCount x.device

/-- The volume of the new device differs. -/
def tempMute : Bool :=
  x.isActive && getDeviceForVolume H x.device ≠ getDeviceForVolume H x.prevDevice

/-- The device does not fit the strategy. -/
def mute (i : ℕ) : Bool :=
  x.shouldMute H && (x.getDeviceForStrategy i).has x.device && x.getDeviceForStrategy i ≠ x.device

/-- The flag of the strategy changes. -/
def doMute (i : ℕ) (m : StrategyMutes) : Bool :=
  x.mute H i && !m.mStrategyMutedByDevice x.output || !x.mute H i && m.mStrategyMutedByDevice x.output

/-- The count on an output.  A temporary mute of the output itself is set and taken back. -/
def muteOutput (i o count : ℕ) : ℕ :=
  if v.shares x.output o = false then count
  else
    let count := setStrategyMute (x.mute H i) count
    if x.isStrategyActive i o ∧ x.tempMute H ∧ o = x.output then
      setStrategyMute false (setStrategyMute true count)
    else count

/-- One strategy. -/
def muteStrategy (i : ℕ) (m : StrategyMutes) : StrategyMutes where
  mStrategyMutedByDevice :=
    if x.doMute H i m then Function.update m.mStrategyMutedByDevice x.output (x.mute H i)
    else m.mStrategyMutedByDevice
  mMuteCount :=
    if x.doMute H i m || x.tempMute H then
      v.keys.foldl (fun count o => Function.update count o (x.muteOutput H v i o (count o))) m.mMuteCount
    else m.mMuteCount

/-- The longest latency of the outputs on which an active strategy is muted. -/
def muteWaitMs (n : ℕ) (m : Mutes) : ℕ :=
  (List.range n).foldl (fun wait i =>
    if x.doMute H i (m i) || x.tempMute H then
      v.keys.foldl (fun wait o =>
        if v.shares x.output o ∧ x.isStrategyActive i o ∧
            (x.tempMute H ∧ o = x.output ∨ x.mute H i) then max wait (v.latency o) else wait) wait
    else wait) 0

end MuteCheck

/-- The time it waited, and the mutes of the `n` strategies. -/
def checkDeviceMuteStrategies (n : ℕ) (m : Mutes) (x : MuteCheck) : ℕ × Mutes :=
  if v.isDuplicated x.output then (0, m)
  else
    (2 * x.muteWaitMs H v n m - x.delayMs,
      (List.range n).foldl (fun m i => Function.update m i (x.muteStrategy H v i (m i))) m)

/-- Checks as steps. -/
def muteStep (n : ℕ) (m : Mutes) (x : MuteCheck) : Option Mutes :=
  some (checkDeviceMuteStrategies H v n m x).2

end Check

/-! ### The balance -/

/-- The outputs that share a device with the output and mute the strategy. -/
def mutedBy (v : OutputSet) (m : StrategyMutes) (o : ℕ) : ℕ :=
  v.keys.countP fun d => v.shares o d && m.mStrategyMutedByDevice d

/-- The count of every strategy on every output is the number of outputs that mute it there. -/
def Balanced (v : OutputSet) (n : ℕ) (m : Mutes) : Prop :=
  ∀ i < n, ∀ o ∈ v.keys, (m i).mMuteCount o = mutedBy v (m i) o

instance (v : OutputSet) (n : ℕ) (m : Mutes) : Decidable (Balanced v n m) :=
  inferInstanceAs (Decidable (∀ i < n, ∀ o ∈ v.keys, (m i).mMuteCount o = mutedBy v (m i) o))

/-- A check that mutes for a while finds no strategy muted whose flag does not change, on an output
that shares a device. -/
def NoStray (H : Headers) (v : OutputSet) (n : ℕ) (m : Mutes) (x : MuteCheck) : Prop :=
  x.tempMute H = true → ∀ i < n, x.doMute H i (m i) = false →
    ∀ o ∈ v.keys, v.shares x.output o = true → mutedBy v (m i) o = 0

instance (H : Headers) (v : OutputSet) (n : ℕ) (m : Mutes) (x : MuteCheck) :
    Decidable (NoStray H v n m x) :=
  inferInstanceAs (Decidable (x.tempMute H = true → ∀ i < n, x.doMute H i (m i) = false →
    ∀ o ∈ v.keys, v.shares x.output o = true → mutedBy v (m i) o = 0))

section Balance

variable {H : Headers} {v : OutputSet} {x : MuteCheck} {n i o d : ℕ} {m : Mutes} {w : StrategyMutes}

theorem shares_comm : v.shares o d = v.shares d o := by
  unfold OutputSet.shares
  rw [BitVec.and_comm]

theorem muteOutput_of_shares (h : v.shares x.output o = true) (count : ℕ) :
    x.muteOutput H v i o count = setStrategyMute (x.mute H i) count := by
  unfold MuteCheck.muteOutput
  rw [if_neg (by simp [h])]
  -- what is muted for a while is unmuted at once
  have htemp : ∀ count, setStrategyMute false (setStrategyMute true count) = count :=
    fun count => Nat.add_sub_cancel count 1
  dsimp only
  rw [htemp, ite_self]

theorem muteOutput_of_not_shares (h : v.shares x.output o = false) (count : ℕ) :
    x.muteOutput H v i o count = count := if_pos h

/-- The count of one strategy on one output after a check. -/
theorem mMuteCount_muteStrategy (ho : o ∈ v.keys) : (x.muteStrategy H v i w).mMuteCount o =
    if (x.doMute H i w || x.tempMute H) && v.shares x.output o then
      setStrategyMute (x.mute H i) (w.mMuteCount o) else w.mMuteCount o := by
  unfold MuteCheck.muteStrategy
  dsimp only
  rcases Bool.eq_false_or_eq_true (x.doMute H i w || x.tempMute H) with hloop | hloop
  · rw [if_pos hloop, hloop, Bool.true_and, Loops.foldl_update _ v.nodup, if_pos ho]
    split
    next hshares => exact muteOutput_of_shares hshares _
    next hshares => exact muteOutput_of_not_shares (by simpa using hshares) _
  · rw [if_neg (by simp [hloop]), hloop, Bool.false_and]
    rfl

theorem doMute_eq_false : x.doMute H i w = false ↔ w.mStrategyMutedByDevice x.output = x.mute H i := by
  unfold MuteCheck.doMute
  cases x.mute H i <;> cases w.mStrategyMutedByDevice x.output <;> decide

/-- The flag of the output says whether its device fits. -/
theorem muted_muteStrategy (i d : ℕ) : (x.muteStrategy H v i w).mStrategyMutedByDevice d =
    if d = x.output then x.mute H i else w.mStrategyMutedByDevice d := by
  unfold MuteCheck.muteStrategy
  dsimp only
  split
  · exact Function.update_apply ..
  next hsame =>
    split
    next he => rw [he, doMute_eq_false.1 (by simpa using hsame)]
    next => rfl

/-- The number of outputs that mute changes with the flag of the output that is checked. -/
theorem mutedBy_muteStrategy (hd : x.output ∈ v.keys) (i o : ℕ) :
    mutedBy v (x.muteStrategy H v i w) o +
        (if (v.shares o x.output && w.mStrategyMutedByDevice x.output) = true then 1 else 0) =
      mutedBy v w o + if (v.shares o x.output && x.mute H i) = true then 1 else 0 := by
  have hcount := Loops.countP_of_eq_except (fun d => v.shares o d && w.mStrategyMutedByDevice d)
    (fun d => v.shares o d && (x.muteStrategy H v i w).mStrategyMutedByDevice d) v.nodup hd (by
      intro d hne
      rw [muted_muteStrategy, if_neg hne])
  rw [muted_muteStrategy, if_pos rfl] at hcount
  exact hcount

/-- An output that is muted by its own device counts. -/
theorem mutedBy_pos (hd : d ∈ v.keys) (hshares : v.shares o d = true)
    (hmuted : w.mStrategyMutedByDevice d = true) : 0 < mutedBy v w o :=
  List.countP_pos_iff.2 ⟨d, hd, by rw [hshares, hmuted]; rfl⟩

/-- **One strategy on one output.** It stays balanced unless a temporary mute moves a count that no
flag follows. -/
theorem balanced_strategy_iff (hd : x.output ∈ v.keys) (ho : o ∈ v.keys)
    (hb : w.mMuteCount o = mutedBy v w o) :
    (x.muteStrategy H v i w).mMuteCount o = mutedBy v (x.muteStrategy H v i w) o ↔
      (x.tempMute H = true → x.doMute H i w = false → v.shares x.output o = true →
        mutedBy v w o = 0) := by
  have hcount := mMuteCount_muteStrategy (H := H) (x := x) (w := w) (i := i) ho
  have hnumber := mutedBy_muteStrategy (H := H) (w := w) hd i o
  rw [shares_comm] at hnumber
  rw [hcount, hb]
  rcases Bool.eq_false_or_eq_true (v.shares x.output o) with hshares | hshares
  · rw [hshares, Bool.true_and, Bool.true_and] at hnumber
    rw [hshares, Bool.and_true]
    rcases Bool.eq_false_or_eq_true (x.doMute H i w) with hdo | hdo
    · -- the flag changes, and the count with it
      have hne : w.mStrategyMutedByDevice x.output ≠ x.mute H i := by
        intro e
        rw [doMute_eq_false.2 e] at hdo
        cases hdo
      rw [hdo, Bool.true_or, if_pos rfl]
      refine iff_of_true ?_ fun _ e => absurd e (by decide)
      unfold setStrategyMute
      cases hmute : x.mute H i with
      | true =>
        have hflag : w.mStrategyMutedByDevice x.output = false := by simpa [hmute] using hne
        simp only [hmute, hflag, if_true, Bool.false_eq_true, if_false] at hnumber ⊢
        omega
      | false =>
        have hflag : w.mStrategyMutedByDevice x.output = true := by simpa [hmute] using hne
        simp only [hmute, hflag, if_true, Bool.false_eq_true, if_false] at hnumber ⊢
        omega
    · -- the flag stays as it is, so the number of outputs that mute does
      have hflag := doMute_eq_false.1 hdo
      rw [hflag] at hnumber
      have hsame : mutedBy v (x.muteStrategy H v i w) o = mutedBy v w o := by omega
      rw [hsame, hdo, Bool.false_or]
      cases htemp : x.tempMute H with
      | false => exact iff_of_true rfl fun e => absurd e (by decide)
      | true =>
        simp only [if_true, true_imp_iff]
        unfold setStrategyMute
        split
        next hmute =>
          have hpos := mutedBy_pos hd (shares_comm.trans hshares) (hflag.trans hmute)
          omega
        next => omega
  · rw [hshares, Bool.false_and, Bool.false_and] at hnumber
    rw [hshares, Bool.and_false]
    refine iff_of_true ?_ fun _ _ e => absurd e (by decide)
    simpa using hnumber.symm

/-- **One check.** The mutes stay balanced if and only if none is moved without its flag. -/
theorem balanced_check_iff (hd : x.output ∈ v.keys) (hdup : v.isDuplicated x.output = false)
    (hb : Balanced v n m) :
    Balanced v n (checkDeviceMuteStrategies H v n m x).2 ↔ NoStray H v n m x := by
  have hstrategy : ∀ i < n, (checkDeviceMuteStrategies H v n m x).2 i = x.muteStrategy H v i (m i) := by
    intro i hi
    unfold checkDeviceMuteStrategies
    rw [if_neg (by simp [hdup])]
    dsimp only
    rw [Loops.foldl_update _ List.nodup_range, if_pos (List.mem_range.2 hi)]
  have hiff : ∀ i (hi : i < n) o (ho : o ∈ v.keys),
      ((checkDeviceMuteStrategies H v n m x).2 i).mMuteCount o =
          mutedBy v ((checkDeviceMuteStrategies H v n m x).2 i) o ↔
        (x.tempMute H = true → x.doMute H i (m i) = false → v.shares x.output o = true →
          mutedBy v (m i) o = 0) := by
    intro i hi o ho
    rw [hstrategy i hi]
    exact balanced_strategy_iff hd ho (hb i hi o ho)
  constructor
  · intro h htemp i hi hdo o ho hshares
    exact (hiff i hi o ho).1 (h i hi o ho) htemp hdo hshares
  · intro h i hi o ho
    exact (hiff i hi o ho).2 fun htemp hdo hshares => h htemp i hi hdo o ho hshares

/-- **Mutes by device.** From the start on, the mutes are balanced after every check of a run if and
only if every check that mutes for a while finds no mute that it would move without its flag. -/
theorem balanced_iff {checks : List MuteCheck}
    (hx : ∀ x ∈ checks, x.output ∈ v.keys ∧ v.isDuplicated x.output = false) :
    Along (muteStep H v n) (Ends (muteStep H v n) (Balanced v n)) Mutes.none checks ↔
      Along (muteStep H v n) (NoStray H v n) Mutes.none checks := by
  refine along_congr (I := Balanced v n) ?_ ?_ ?_ hx
  · intro m x hx hb
    rw [← balanced_check_iff hx.1 hx.2 hb]
    constructor
    · intro h
      exact h _ rfl
    · intro h m' hm
      exact Option.some.inj hm ▸ h
  · intro m x m' _ _ h hm
    exact h m' hm
  · intro i _ o _
    refine (List.countP_eq_zero.2 ?_).symm
    intro d _
    simp [Mutes.none]

/-- One output for the speaker, a headset and headphones. -/
def plainOutputs : OutputSet where
  keys := [1]
  nodup := List.nodup_singleton 1
  supportedDevices _ := 0xe
  isDuplicated _ := false
  latency _ := 40

/-- The output is active with a device, and the first strategy goes to the headset. -/
def plainCheck (prevDevice device : Devices) : MuteCheck where
  output := 1
  prevDevice := prevDevice
  delayMs := 0
  device := device
  isActive := true
  getDeviceForStrategy i := if i = 0 then 0x4 else device
  isStrategyActive _ _ := true

/-- The speaker is added to the headset and taken away again. -/
theorem balanced_plain : Along (muteStep .plain plainOutputs 6)
    (Ends (muteStep .plain plainOutputs 6) (Balanced plainOutputs 6)) Mutes.none
      [plainCheck 0x4 0x6, plainCheck 0x6 0x4] := by
  refine (balanced_iff ?_).2 (by decide +kernel)
  intro x hx
  simp only [List.mem_cons, List.not_mem_nil, or_false] at hx
  rcases hx with rfl | rfl
  · exact ⟨List.mem_singleton_self 1, rfl⟩
  · exact ⟨List.mem_singleton_self 1, rfl⟩

/-- The device goes from speaker and headset to headphones and headset.  The first strategy is muted
once more, though its flag is set already. -/
theorem muted_twice : ¬Along (muteStep .plain plainOutputs 6)
    (Ends (muteStep .plain plainOutputs 6) (Balanced plainOutputs 6)) Mutes.none
      [plainCheck 0x4 0x6, plainCheck 0x6 0xc] := by
  decide +kernel

end Balance

end Msm7x27a.Policy
