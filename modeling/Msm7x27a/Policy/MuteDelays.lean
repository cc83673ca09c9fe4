import Msm7x27a.Policy.Mutes
import Msm7x27a.Lib.Log
import Mathlib.Algebra.Group.Nat.Defs

/-!
# How long a mute lasts

The calls of `setStrategyMute` that `checkDeviceMuteStrategies` makes, with their delays, and what it
returns, computed in 32 bits.  A temporary mute is meant to last for twice the latency of the output,
or four times for LPA, but the conditional takes the product for its condition: the delay is 4 ms or
2 ms.  `outlasts_iff` says when that is enough.
-/

namespace Msm7x27a.Policy

open Msm7x27a.Route (Devices)
open Msm7x27a.Log

/-- A call of `setStrategyMute`.  Those of the temporary mute are told from the one by device. -/
structure StrategyMuteCall where
  strategy : ℕ
  on : Bool
  output : ℕ
  delayMs : ℕ
  device : Devices
  temporary : Bool
  deriving DecidableEq

/-- What the call does to the counts, by strategy and output. -/
def StrategyMuteCall.count (counts : ℕ → ℕ → ℕ) (c : StrategyMuteCall) : ℕ → ℕ → ℕ :=
  Function.update counts c.strategy
    (Function.update (counts c.strategy) c.output
      (setStrategyMute c.on (counts c.strategy c.output)))

/-- The open outputs with their flags.  A latency has 32 bits. -/
structure TimedOutputs extends OutputSet where
  mFlags : ℕ → BitVec 32
  AUDIO_OUTPUT_FLAG_LPA : BitVec 32
  latency_lt : ∀ o, latency o < 2 ^ 32

namespace TimedOutputs

variable (v : TimedOutputs)

def lpa (o : ℕ) : BitVec 32 := v.mFlags o &&& v.AUDIO_OUTPUT_FLAG_LPA

/-- `desc->latency() * (desc->mFlags & AUDIO_OUTPUT_FLAG_LPA) ? 4 : 2`: the product is the condition. -/
def unmuteDelay (o : ℕ) : ℕ := if v.latency o * (v.lpa o).toNat % 2 ^ 32 ≠ 0 then 4 else 2

/-- What is buffered: twice the latency, and four times that of an LPA output. -/
def buffered (o : ℕ) : ℕ := if v.lpa o ≠ 0 then 4 * v.latency o else 2 * v.latency o

/-- A call that takes the temporary mute back when the buffered audio is over. -/
def Unmutes (c u : StrategyMuteCall) : Prop :=
  u.on = false ∧ u.strategy = c.strategy ∧ u.output = c.output ∧ v.buffered c.output ≤ u.delayMs

instance : DecidableRel v.Unmutes := fun c u =>
  inferInstanceAs (Decidable (u.on = false ∧ u.strategy = c.strategy ∧ u.output = c.output ∧
    v.buffered c.output ≤ u.delayMs))

/-- Every temporary mute is followed by its unmute. -/
def Outlasts : List StrategyMuteCall → Prop :=
  Followed (fun c => c.temporary = true ∧ c.on = true) v.Unmutes

instance : DecidablePred v.Outlasts := fun _ => decidableFollowed _

end TimedOutputs

namespace MuteCheck

variable (H : Headers) (v : TimedOutputs) (x : MuteCheck)

/-- The strategy is muted for a while on the output. -/
def MutesTemporarily (i o : ℕ) : Prop := x.isStrategyActive i o ∧ x.tempMute H ∧ o = x.output

instance (i o : ℕ) : Decidable (x.MutesTemporarily H i o) :=
  inferInstanceAs (Decidable (x.isStrategyActive i o ∧ x.tempMute H ∧ o = x.output))

/-- The calls for one strategy and one output. -/
def outputCalls (i o : ℕ) : List StrategyMuteCall :=
  if v.shares x.output o = false then []
  else
    { strategy := i, on := x.mute H i, output := o,
      delayMs := if x.mute H i then 0 else x.delayMs * 4 % 2 ^ 32, device := 0, temporary := false } ::
    if x.MutesTemporarily H i o then
      [{ strategy := i, on := true, output := o, delayMs := 0, device := 0, temporary := true },
        { strategy := i, on := false, output := o, delayMs := v.unmuteDelay o, device := x.device,
          temporary := true }]
    else []

def strategyCalls (i : ℕ) (m : StrategyMutes) : List StrategyMuteCall :=
  if x.doMute H i m || x.tempMute H then v.keys.flatMap (x.outputCalls H v i) else []

def calls (n : ℕ) (m : Mutes) : List StrategyMuteCall :=
  (List.range n).flatMap fun i => x.strategyCalls H v i (m i)

/-- The time that is waited, in 32 bits. -/
def waitedMs (n : ℕ) (m : Mutes) : ℕ :=
  let muteWaitMs := x.muteWaitMs H v.toOutputSet n m * 2 % 2 ^ 32
  if x.delayMs < muteWaitMs then muteWaitMs - x.delayMs else 0

/-- The strategy is active on the output and muted there, by device or for a while. -/
def MutedActive (i o : ℕ) : Prop :=
  v.shares x.output o ∧ x.isStrategyActive i o ∧ (x.tempMute H ∧ o = x.output ∨ x.mute H i)

instance (i o : ℕ) : Decidable (x.MutedActive H v i o) :=
  inferInstanceAs (Decidable (v.shares x.output o ∧ x.isStrategyActive i o ∧
    (x.tempMute H ∧ o = x.output ∨ x.mute H i)))

/-- The latencies of the outputs on which an active strategy is muted. -/
def mutedLatencies (n : ℕ) (m : Mutes) : Set ℕ :=
  {latency | ∃ i < n, (x.doMute H i (m i) || x.tempMute H) = true ∧
    ∃ o ∈ v.keys, x.MutedActive H v i o ∧ latency = v.latency o}

end MuteCheck

/-- What is returned, and the calls. -/
def timedCheckDeviceMuteStrategies (H : Headers) (v : TimedOutputs) (n : ℕ) (m : Mutes) (x : MuteCheck) :
    ℕ × List StrategyMuteCall :=
  if v.isDuplicated x.output then (0, []) else (x.waitedMs H v n m, x.calls H v n m)

section Check

variable {H : Headers} {v : TimedOutputs} {x : MuteCheck} {n i o : ℕ} {m : Mutes} {w : StrategyMutes}

/-! ### The calls make the counts -/

theorem count_outputCalls (counts : ℕ → ℕ → ℕ) :
    (x.outputCalls H v i o).foldl StrategyMuteCall.count counts =
      Function.update counts i
        (Function.update (counts i) o (x.muteOutput H v.toOutputSet i o (counts i o))) := by
  unfold MuteCheck.outputCalls MuteCheck.muteOutput
  split
  · simp
  · dsimp only
    by_cases htemp : x.isStrategyActive i o ∧ x.tempMute H ∧ o = x.output
    · have hcalls : x.MutesTemporarily H i o := htemp
      rw [if_pos htemp, if_pos hcalls]
      simp [StrategyMuteCall.count]
    · have hcalls : ¬x.MutesTemporarily H i o := htemp
      rw [if_neg htemp, if_neg hcalls]
      rfl

theorem count_strategyCalls (counts : ℕ → ℕ → ℕ) :
    (x.strategyCalls H v i w).foldl StrategyMuteCall.count counts =
      Function.update counts i
        (x.muteStrategy H v.toOutputSet i { w with mMuteCount := counts i }).mMuteCount := by
  have hdo : x.doMute H i { w with mMuteCount := counts i } = x.doMute H i w := rfl
  unfold MuteCheck.strategyCalls MuteCheck.muteStrategy
  dsimp only
  rw [hdo]
  split
  · rw [List.foldl_flatMap]
    simp only [count_outputCalls]
    exact Loops.foldl_update_entry
      (fun count o => Function.update count o (x.muteOutput H v.toOutputSet i o (count o))) i v.keys
      counts
  · exact (Function.update_eq_self i counts).symm

/-- The counts after a check are those that its calls make. -/
theorem count_calls (hdup : v.isDuplicated x.output = false) (i o : ℕ) :
    (timedCheckDeviceMuteStrategies H v n m x).2.foldl StrategyMuteCall.count
        (fun i => (m i).mMuteCount) i o =
      ((checkDeviceMuteStrategies H v.toOutputSet n m x).2 i).mMuteCount o := by
  have hcalls := Loops.foldl_update
    (fun i count => (x.muteStrategy H v.toOutputSet i { m i with mMuteCount := count }).mMuteCount)
    (List.nodup_range : (List.range n).Nodup) (fun i => (m i).mMuteCount) i
  unfold timedCheckDeviceMuteStrategies checkDeviceMuteStrategies
  rw [if_neg (by simp [hdup]), if_neg (by simp [hdup])]
  unfold MuteCheck.calls
  dsimp only
  rw [List.foldl_flatMap]
  simp only [count_strategyCalls]
  rw [hcalls, Loops.foldl_update _ List.nodup_range]
  split <;> rfl

/-! ### The unmutes -/

/-- The delay is enough for a latency of at most a millisecond. -/
theorem buffered_le_unmuteDelay : v.buffered o ≤ v.unmuteDelay o ↔ v.latency o ≤ 1 := by
  have hlpa : v.lpa o ≠ 0 ↔ (v.lpa o).toNat ≠ 0 := not_congr BitVec.toNat_eq
  have hlt := (v.lpa o).isLt
  unfold TimedOutputs.buffered TimedOutputs.unmuteDelay
  simp only [hlpa]
  by_cases hzero : (v.lpa o).toNat = 0
  · simp only [hzero, Nat.mul_zero, Nat.zero_mod, ne_eq, not_true, if_false]
    omega
  · rw [if_pos hzero]
    constructor
    · intro h
      split at h <;> omega
    · intro h
      have hcases : v.latency o = 0 ∨ v.latency o = 1 := by omega
      rcases hcases with hnone | hone
      · rw [hnone]
        exact Nat.zero_le _
      · rw [hone, Nat.one_mul, Nat.mod_eq_of_lt hlt, if_pos hzero]

theorem outlasts_outputCalls (h : x.MutesTemporarily H i o → v.latency o ≤ 1) :
    v.Outlasts (x.outputCalls H v i o) := by
  unfold MuteCheck.outputCalls
  split
  · trivial
  · refine ⟨fun hc => absurd hc.1 Bool.false_ne_true, ?_⟩
    split
    next htemp =>
      refine ⟨fun _ => ?_, fun hc => absurd hc.2 Bool.false_ne_true, trivial⟩
      exact ⟨_, List.mem_singleton_self _, rfl, rfl, rfl, buffered_le_unmuteDelay.2 (h htemp)⟩
    next => trivial

theorem mem_outputCalls {c : StrategyMuteCall} (h : c ∈ x.outputCalls H v i o) :
    c.strategy = i ∧ c.output = o := by
  unfold MuteCheck.outputCalls at h
  split at h
  · cases h
  · rcases List.mem_cons.1 h with rfl | h
    · exact ⟨rfl, rfl⟩
    · split at h
      · simp only [List.mem_cons, List.not_mem_nil, or_false] at h
        rcases h with rfl | rfl
        · exact ⟨rfl, rfl⟩
        · exact ⟨rfl, rfl⟩
      · cases h

theorem mem_strategyCalls {c : StrategyMuteCall} (h : c ∈ x.strategyCalls H v i w) :
    c.strategy = i := by
  unfold MuteCheck.strategyCalls at h
  split at h
  · obtain ⟨o, -, hc⟩ := List.mem_flatMap.1 h
    exact (mem_outputCalls hc).1
  · cases h

/-- A list of indices, with what comes before one and after it. -/
theorem flatMap_split {α : Type*} {f : ℕ → List α} {l : List ℕ} {a : ℕ} (hl : l.Nodup) (ha : a ∈ l) :
    ∃ before after : List ℕ, a ∉ after ∧ l.flatMap f = before.flatMap f ++ (f a ++ after.flatMap f) := by
  obtain ⟨before, after, rfl⟩ := List.append_of_mem ha
  refine ⟨before, after, ?_, ?_⟩
  · exact (List.nodup_cons.1 (List.nodup_append.1 hl).2.1).1
  · rw [List.flatMap_append, List.flatMap_cons]

/-- A temporary mute that is followed by its unmute is followed by the one of its own turn. -/
theorem latency_le_of_outlasts (hi : i < n) (ho : o ∈ v.keys) (hshares : v.shares x.output o = true)
    (htemp : x.MutesTemporarily H i o) (h : v.Outlasts (x.calls H v n m)) : v.latency o ≤ 1 := by
  obtain ⟨before, after, hafter, he⟩ := flatMap_split (f := fun i => x.strategyCalls H v i (m i))
    List.nodup_range (List.mem_range.2 hi)
  obtain ⟨before', after', hafter', he'⟩ := flatMap_split (f := x.outputCalls H v i) v.nodup ho
  have hloop : (x.doMute H i (m i) || x.tempMute H) = true := by
    rw [htemp.2.1, Bool.or_true]
  unfold MuteCheck.calls at h
  rw [he] at h
  have hturn := Followed.of_append h
  rw [MuteCheck.strategyCalls, if_pos hloop, he', List.append_assoc] at hturn
  have hown := Followed.of_append hturn
  rw [List.append_assoc] at hown
  unfold MuteCheck.outputCalls at hown
  rw [if_neg (by simp [hshares]), if_pos htemp] at hown
  obtain ⟨u, hu, hoff, hstrategy, houtput, hdelay⟩ := hown.2.1 ⟨rfl, rfl⟩
  rcases List.mem_cons.1 hu with rfl | hu
  · exact buffered_le_unmuteDelay.1 hdelay
  rcases List.mem_append.1 hu with hu | hu
  · cases hu
  rcases List.mem_append.1 hu with hu | hu
  · obtain ⟨o', ho', hu⟩ := List.mem_flatMap.1 hu
    have heq : o' = o := (mem_outputCalls hu).2.symm.trans houtput
    exact absurd (heq ▸ ho') hafter'
  · obtain ⟨i', hi', hu⟩ := List.mem_flatMap.1 hu
    have heq : i' = i := (mem_strategyCalls hu).symm.trans hstrategy
    exact absurd (heq ▸ hi') hafter

/-- The temporary mutes outlast what is buffered if there is none, or next to nothing is buffered. -/
theorem outlasts_calls_iff : v.Outlasts (x.calls H v n m) ↔
    ∀ i < n, ∀ o ∈ v.keys, v.shares x.output o = true → x.MutesTemporarily H i o →
      v.latency o ≤ 1 := by
  constructor
  · intro h i hi o ho hshares htemp
    exact latency_le_of_outlasts hi ho hshares htemp h
  · intro h
    refine followed_flatMap fun i hi => ?_
    unfold MuteCheck.strategyCalls
    split
    · refine followed_flatMap fun o ho => ?_
      rcases Bool.eq_false_or_eq_true (v.shares x.output o) with hshares | hshares
      · exact outlasts_outputCalls fun htemp => h i (List.mem_range.1 hi) o ho hshares htemp
      · unfold MuteCheck.outputCalls
        rw [if_pos hshares]
        trivial
    · trivial

/-! ### The wait -/

/-- The loops find the largest of the latencies. -/
theorem muteWaitMs_isLUB :
    IsLUB (x.mutedLatencies H v n m) (x.muteWaitMs H v.toOutputSet n m) := by
  have hinner : ∀ i (S : Set ℕ) w o, IsLUB S w →
      IsLUB (S ∪ {l | x.MutedActive H v i o ∧ l = v.latency o})
        (if x.MutedActive H v i o then max w (v.latency o) else w) :=
    fun i S w o h => Loops.isLUB_ite_max _ _ h
  have houter : ∀ (S : Set ℕ) w i, IsLUB S w → IsLUB
      (S ∪ {l | (x.doMute H i (m i) || x.tempMute H) = true ∧
        ∃ o ∈ v.keys, x.MutedActive H v i o ∧ l = v.latency o})
      (if x.doMute H i (m i) || x.tempMute H then
        v.keys.foldl (fun w o => if x.MutedActive H v i o then max w (v.latency o) else w) w
      else w) := by
    intro S w i h
    rcases Bool.eq_false_or_eq_true (x.doMute H i (m i) || x.tempMute H) with hloop | hloop
    · simp only [hloop, if_true, true_and]
      exact Loops.isLUB_foldl (hinner i) v.keys h
    · simpa only [hloop, Bool.false_eq_true, if_false, false_and, Set.ofPred_false, Set.union_empty]
        using h
  have hall := Loops.isLUB_foldl houter (List.range n) isLUB_empty
  simp only [Set.empty_union, List.mem_range] at hall
  exact hall

theorem muteWaitMs_lt : x.muteWaitMs H v.toOutputSet n m < 2 ^ 32 := by
  have hle : x.muteWaitMs H v.toOutputSet n m ≤ 2 ^ 32 - 1 := by
    refine muteWaitMs_isLUB.2 ?_
    rintro l ⟨i, -, -, o, -, -, rfl⟩
    have := v.latency_lt o
    omega
  omega

/-- Doubled in 32 bits, the largest latency is right up to where the delay takes in what is lost. -/
theorem waitedMs_iff : (x.waitedMs H v n m = 0 ∨
      x.waitedMs H v n m + x.delayMs = 2 * x.muteWaitMs H v.toOutputSet n m) ↔
    2 * x.muteWaitMs H v.toOutputSet n m ≤ 2 ^ 32 + x.delayMs := by
  have hlt := muteWaitMs_lt (H := H) (v := v) (x := x) (n := n) (m := m)
  unfold MuteCheck.waitedMs
  dsimp only
  split <;> omega

theorem muteWaitMs_le_iff (bound : ℕ) : 2 * x.muteWaitMs H v.toOutputSet n m ≤ bound ↔
    ∀ latency ∈ x.mutedLatencies H v n m, 2 * latency ≤ bound := by
  constructor
  · intro h latency hmem
    have := muteWaitMs_isLUB.1 hmem
    omega
  · intro h
    have hle : x.muteWaitMs H v.toOutputSet n m ≤ bound / 2 := by
      refine muteWaitMs_isLUB.2 fun latency hmem => ?_
      have := h latency hmem
      omega
    omega

/-- Below `2 ^ 31` the 32 bits lose nothing. -/
theorem timedCheck_fst (h : ∀ latency ∈ x.mutedLatencies H v n m, latency < 2 ^ 31) :
    (timedCheckDeviceMuteStrategies H v n m x).1 =
      (checkDeviceMuteStrategies H v.toOutputSet n m x).1 := by
  have hle : 2 * x.muteWaitMs H v.toOutputSet n m ≤ 2 ^ 32 - 2 := by
    refine (muteWaitMs_le_iff _).2 fun latency hmem => ?_
    have := h latency hmem
    omega
  unfold timedCheckDeviceMuteStrategies checkDeviceMuteStrategies
  split
  · rfl
  · unfold MuteCheck.waitedMs
    dsimp only
    split <;> omega

/-- **Temporary mutes.** Every temporary mute outlasts what is buffered, and the time returned is none
or twice the largest latency less the delay, if and only if no output with a latency above a
millisecond is muted for a while, and no latency is too large to be doubled in 32 bits. -/
theorem outlasts_iff (hdup : v.isDuplicated x.output = false) :
    (v.Outlasts (timedCheckDeviceMuteStrategies H v n m x).2 ∧
      ∀ longest, IsLUB (x.mutedLatencies H v n m) longest →
        (timedCheckDeviceMuteStrategies H v n m x).1 = 0 ∨
          (timedCheckDeviceMuteStrategies H v n m x).1 + x.delayMs = 2 * longest) ↔
      (∀ i < n, ∀ o ∈ v.keys, v.shares x.output o = true → x.MutesTemporarily H i o →
        v.latency o ≤ 1) ∧
      ∀ latency ∈ x.mutedLatencies H v n m, 2 * latency ≤ 2 ^ 32 + x.delayMs := by
  have htimed : timedCheckDeviceMuteStrategies H v n m x =
      (x.waitedMs H v n m, x.calls H v n m) := if_neg (by simp [hdup])
  rw [htimed, outlasts_calls_iff, ← muteWaitMs_le_iff, ← waitedMs_iff]
  refine and_congr_right fun _ => ?_
  constructor
  · intro h
    exact h _ muteWaitMs_isLUB
  · intro h longest hlongest
    rw [hlongest.unique muteWaitMs_isLUB]
    exact h

end Check

/-- The outputs of `plainOutputs`, none of them for LPA. -/
def plainTimed : TimedOutputs where
  toOutputSet := plainOutputs
  mFlags _ := 0
  AUDIO_OUTPUT_FLAG_LPA := 0x10
  latency_lt _ := (by decide : 40 < 2 ^ 32)

/-- One output, with a latency of a millisecond. -/
def shortTimed : TimedOutputs where
  toOutputSet := { plainOutputs with latency := fun _ => 1 }
  mFlags _ := 0
  AUDIO_OUTPUT_FLAG_LPA := 0x10
  latency_lt _ := (by decide : 1 < 2 ^ 32)

/-- The speaker is added to the headset, and the strategies are muted for two milliseconds. -/
theorem outlasts_short : shortTimed.Outlasts
      (timedCheckDeviceMuteStrategies .plain shortTimed 6 Mutes.none (plainCheck 0x4 0x6)).2 ∧
    ∀ longest, IsLUB ((plainCheck 0x4 0x6).mutedLatencies .plain shortTimed 6 Mutes.none) longest →
      (timedCheckDeviceMuteStrategies .plain shortTimed 6 Mutes.none (plainCheck 0x4 0x6)).1 = 0 ∨
        (timedCheckDeviceMuteStrategies .plain shortTimed 6 Mutes.none (plainCheck 0x4 0x6)).1 +
          (plainCheck 0x4 0x6).delayMs = 2 * longest := by
  refine (outlasts_iff rfl).2 ⟨by decide +kernel, ?_⟩
  rintro latency ⟨i, -, -, o, -, -, rfl⟩
  exact (by decide : 2 * 1 ≤ 2 ^ 32 + 0)

/-- The speaker is added to the headset: what is buffered for 40 ms is unmuted after two. -/
theorem unmuted_early : ¬plainTimed.Outlasts
    (timedCheckDeviceMuteStrategies .plain plainTimed 6 Mutes.none (plainCheck 0x4 0x6)).2 := by
  decide +kernel

end Msm7x27a.Policy
