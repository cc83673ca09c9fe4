import Msm7x27a.Audio.Hardware
import Msm7x27a.Lib.Loops
import Mathlib.Data.Int.Notation
import Mathlib.Order.Nat
import Mathlib.Tactic.SplitIfs
import Mathlib.Algebra.Group.Nat.Defs

/-!
# The nearest rate

`getInputSampleRate` walks along `inputSamplingRates` while the difference does not rise.  On a sorted
table such a walk ends at the nearest entry, if the differences are the true ones.  They are computed
in 32 bits and read as signed: from `2 ^ 31 + 8001` on the first one is too small, and from
`2 ^ 31 + 9513` on the walk stops there.
-/

namespace Msm7x27a.Audio

open Loops

/-- How far apart two rates are, as integers. -/
def distance (sampleRate rate : ℕ) : ℕ := ((sampleRate : ℤ) - rate).natAbs

/-- An entry of the table from which no entry is nearer to the rate. -/
def Nearest (sampleRate r : ℕ) : Prop :=
  r ∈ inputSamplingRates ∧ ∀ q ∈ inputSamplingRates, distance sampleRate r ≤ distance sampleRate q

instance (sampleRate r : ℕ) : Decidable (Nearest sampleRate r) :=
  inferInstanceAs (Decidable (_ ∧ ∀ q ∈ inputSamplingRates, _))

/-! ### The differences -/

theorem toInt_sub_ofNat (a b : ℕ) :
    (BitVec.ofNat 32 a - BitVec.ofNat 32 b).toInt = ((a : ℤ) - b).bmod (2 ^ 32) := by
  rw [BitVec.toInt_sub, BitVec.toInt_ofNat', BitVec.toInt_ofNat', Int.sub_bmod_bmod, Int.bmod_sub_bmod]

theorem rateDelta_eq {sampleRate rate : ℕ} (hs : sampleRate < 2 ^ 32) (hr : rate < 2 ^ 31) :
    rateDelta sampleRate rate =
      if sampleRate ≤ 2 ^ 31 + rate then distance sampleRate rate
      else 2 ^ 32 + rate - sampleRate := by
  unfold rateDelta distance
  rw [toInt_sub_ofNat, Int.bmod_def]
  split_ifs <;> omega

theorem rateDelta_le (sampleRate rate : ℕ) : rateDelta sampleRate rate ≤ 2 ^ 31 := by
  have hlow := BitVec.le_toInt (BitVec.ofNat 32 sampleRate - BitVec.ofNat 32 rate)
  have hhigh := BitVec.toInt_lt (x := BitVec.ofNat 32 sampleRate - BitVec.ofNat 32 rate)
  unfold rateDelta
  omega

/-- Along a sorted table the distances fall, and then they rise. -/
theorem valley_distance (sampleRate : ℕ) {rates : List ℕ} (h : rates.Pairwise (· < ·)) :
    Valley (distance sampleRate) rates := by
  intro a b c habc hrise
  have hsorted := h.sublist habc
  have hbc : b < c := (List.pairwise_cons.1 (List.pairwise_cons.1 hsorted).2).1 c (by simp)
  have hab : a < b := (List.pairwise_cons.1 hsorted).1 b (by simp)
  unfold distance at hrise ⊢
  omega

/-! ### The walk -/

theorem nearestRate_eq (sampleRate last : ℕ) (rates : List ℕ) :
    nearestRate sampleRate (rateDelta sampleRate last) last rates =
      descend (rateDelta sampleRate) last rates := by
  induction rates generalizing last with
  | nil => rfl
  | cons rate rates ih =>
    unfold nearestRate descend
    dsimp only
    rw [ih rate]

/-- The entries after the first. -/
def laterRates : List ℕ := inputSamplingRates.tail

/-- No difference is larger than what the loop starts from, so the first turn goes on. -/
theorem getInputSampleRate_eq (sampleRate : ℕ) :
    getInputSampleRate sampleRate = descend (rateDelta sampleRate) 8000 laterRates := by
  have hfirst : ¬0xFFFFFFFF < rateDelta sampleRate 8000 := by
    have := rateDelta_le sampleRate 8000
    omega
  unfold getInputSampleRate inputSamplingRates nearestRate
  dsimp only
  rw [if_neg hfirst, nearestRate_eq]
  rfl

theorem getInputSampleRate_mem (sampleRate : ℕ) : getInputSampleRate sampleRate ∈ inputSamplingRates := by
  rw [getInputSampleRate_eq]
  exact descend_mem 8000 laterRates

/-- The test of the two `set`: an entry of the table is its own rate, and nothing else is. -/
theorem getInputSampleRate_self (sampleRate : ℕ) :
    getInputSampleRate sampleRate = sampleRate ↔ sampleRate ∈ inputSamplingRates := by
  have hall : ∀ r ∈ inputSamplingRates, getInputSampleRate r = r := by decide
  constructor
  · intro hself
    rw [← hself]
    exact getInputSampleRate_mem sampleRate
  · exact hall sampleRate

/-- While the differences are the true ones, the walk ends at the nearest rate. -/
theorem descend_nearest {sampleRate rate : ℕ} {rates : List ℕ}
    (hsorted : (rate :: rates).Pairwise (· < ·))
    (htrue : ∀ r ∈ rate :: rates, rateDelta sampleRate r = distance sampleRate r) :
    ∀ q ∈ rate :: rates,
      distance sampleRate (descend (rateDelta sampleRate) rate rates) ≤ distance sampleRate q := by
  rw [descend_congr htrue]
  exact descend_le (valley_distance sampleRate hsorted)

theorem rateDelta_true {sampleRate rate : ℕ} (hs : sampleRate < 2 ^ 32) (hr : rate < 2 ^ 31)
    (hle : sampleRate ≤ 2 ^ 31 + rate) : rateDelta sampleRate rate = distance sampleRate rate := by
  rw [rateDelta_eq hs hr, if_pos hle]

/-- Up to `2 ^ 31 + 8000` every difference is the true one. -/
theorem nearest_of_le {sampleRate : ℕ} (h : sampleRate ≤ 2 ^ 31 + 8000) :
    Nearest sampleRate (getInputSampleRate sampleRate) := by
  refine ⟨getInputSampleRate_mem sampleRate, ?_⟩
  rw [getInputSampleRate_eq]
  refine descend_nearest (by decide) fun r hr => ?_
  have hrange : ∀ r ∈ 8000 :: laterRates, 8000 ≤ r ∧ r < 2 ^ 31 := by decide
  obtain ⟨hlow, hhigh⟩ := hrange r hr
  exact rateDelta_true (by omega) hhigh (by omega)

theorem rateDelta_first {sampleRate : ℕ} (hs : sampleRate < 2 ^ 32) (h : 2 ^ 31 + 8000 < sampleRate) :
    rateDelta sampleRate 8000 = 2 ^ 32 + 8000 - sampleRate := by
  rw [rateDelta_eq hs (by decide), if_neg (by omega)]

/-- Up to `2 ^ 31 + 9512` the walk goes on to the second entry, from where the differences are the
true ones. -/
theorem nearest_of_wrapped {sampleRate : ℕ} (h : 2 ^ 31 + 8000 < sampleRate)
    (hle : sampleRate ≤ 2 ^ 31 + 9512) : Nearest sampleRate (getInputSampleRate sampleRate) := by
  refine ⟨getInputSampleRate_mem sampleRate, ?_⟩
  have hs : sampleRate < 2 ^ 32 := by omega
  have hsecond : rateDelta sampleRate 11025 = sampleRate - 11025 := by
    rw [rateDelta_true hs (by decide) (by omega)]
    unfold distance
    omega
  have hgo : ¬rateDelta sampleRate 8000 < rateDelta sampleRate 11025 := by
    rw [rateDelta_first hs h, hsecond]
    omega
  have hrest : getInputSampleRate sampleRate =
      descend (rateDelta sampleRate) 11025 laterRates.tail := by
    rw [getInputSampleRate_eq]
    exact if_neg hgo
  have hnear : ∀ q ∈ 11025 :: laterRates.tail,
      distance sampleRate (getInputSampleRate sampleRate) ≤ distance sampleRate q := by
    rw [hrest]
    refine descend_nearest (by decide) fun r hr => ?_
    have hrange : ∀ r ∈ 11025 :: laterRates.tail, 11025 ≤ r ∧ r < 2 ^ 31 := by decide
    obtain ⟨hlow, hhigh⟩ := hrange r hr
    exact rateDelta_true hs hhigh (by omega)
  intro q hq
  rcases List.mem_cons.1 hq with rfl | hq
  · have hless : distance sampleRate 11025 ≤ distance sampleRate 8000 := by
      unfold distance
      omega
    exact (hnear 11025 (List.mem_cons_self ..)).trans hless
  · exact hnear q hq

/-- Above `2 ^ 31 + 9512` the walk stops at the first entry. -/
theorem getInputSampleRate_far {sampleRate : ℕ} (hs : sampleRate < 2 ^ 32)
    (h : 2 ^ 31 + 9512 < sampleRate) : getInputSampleRate sampleRate = 8000 := by
  have hstop : rateDelta sampleRate 8000 < rateDelta sampleRate 11025 := by
    rw [rateDelta_first hs (by omega), rateDelta_eq hs (by decide)]
    unfold distance
    split <;> omega
  rw [getInputSampleRate_eq]
  exact if_pos hstop

/-- **The nearest rate.** The entry that is returned is the nearest one, and the rate itself exactly
when that is an entry, for the rates up to `2 ^ 31 + 9512` and no others. -/
theorem getInputSampleRate_nearest_iff (sampleRate : BitVec 32) :
    (Nearest sampleRate.toNat (getInputSampleRate sampleRate.toNat) ∧
      (getInputSampleRate sampleRate.toNat = sampleRate.toNat ↔
        sampleRate.toNat ∈ inputSamplingRates)) ↔
      sampleRate.toNat ≤ 2 ^ 31 + 9512 := by
  constructor
  · rintro ⟨⟨_, hnear⟩, _⟩
    by_contra hfar
    have h48000 := hnear 48000 (by decide)
    rw [getInputSampleRate_far sampleRate.isLt (Nat.lt_of_not_le hfar)] at h48000
    unfold distance at h48000
    omega
  · intro hle
    refine ⟨?_, getInputSampleRate_self _⟩
    rcases Nat.lt_or_ge (2 ^ 31 + 8000) sampleRate.toNat with hwrapped | htrue
    · exact nearest_of_wrapped hwrapped hle
    · exact nearest_of_le htrue

/-- The largest rate gets the smallest of the table. -/
theorem getInputSampleRate_not_nearest :
    getInputSampleRate (0xFFFFFFFF : BitVec 32).toNat = 8000 ∧
      ¬Nearest (0xFFFFFFFF : BitVec 32).toNat (getInputSampleRate (0xFFFFFFFF : BitVec 32).toNat) := by
  decide

end Msm7x27a.Audio
