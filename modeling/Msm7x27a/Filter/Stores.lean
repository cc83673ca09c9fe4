import Msm7x27a.Filter.Parameters

/-!
# The stores of each record

What a property of stores needs to hold of everything that a record puts out, kind by kind, also where
the record is not accepted.
-/

namespace Msm7x27a.Filter

open Msm7x27a.Cells Msm7x27a.Scan

/-- The digit of an index. -/
def digitOf (i : ℕ) : Char := Char.ofNat ('1'.toNat + i)

/-! ### What the records put out -/

section Records

variable {P : Store → Prop} {c : Cell} {α : Type} {d s : ℕ} {m : Part Unit}

theorem emits_strtok : Emits P strtok := emits_next einval

theorem emits_header : Emits P header := emits_strtok.bind fun _ => emits_strtok

theorem emits_number : Emits P number := emits_token.bind fun _ => emits_pure _

theorem emits_store (h : ∀ v, P (.set c v)) : Emits P (store c) := emits_put fun p => h (uint16 p)

/-- One field, and the token after it. -/
theorem emits_store_strtok (h : ∀ v, P (.set c v)) (hm : Emits P m) :
    Emits P (do store c; strtok; m) := (emits_store h).bind fun _ => emits_strtok.bind fun _ => hm

/-- The next token, as a field. -/
theorem emits_strtok_store (h : ∀ v, P (.set c v)) (hm : Emits P m) :
    Emits P (do strtok; store c; m) := emits_strtok.bind fun _ => (emits_store h).bind fun _ => hm

theorem emits_enable {bit : ℕ} (flag : ℕ) (h : P (.or (.enable_preproc_mask s) bit)) :
    Emits P (enable s flag bit) := by
  unfold enable
  split
  · exact emits_emit h
  · exact emits_pure ()

/-- What a record `A` may put out. -/
theorem emits_iirRecord (hparams : ∀ i < 48, ∀ v, P (.set (.iir_cfg d (.iir_params i)) v))
    (hflag : ∀ v, P (.set (.rx_iir_flag d) v)) (hbands : ∀ v, P (.set (.iir_cfg d .num_bands) v)) :
    Emits P (iirRecord d) := by
  unfold iirRecord
  refine emits_header.bind fun _ => emits_strtok.bind fun _ => Emits.bind ?_ fun _ => ?_
  · exact emits_loop fun i hi => (emits_store (hparams i hi)).bind fun _ => emits_strtok
  · exact emits_store_strtok hflag (emits_store hbands)

/-- What a record `B` may put out. -/
theorem emits_adrcRecord (hexists : P (.set (.adrc_filter_exists d) 1))
    (hflag : ∀ v, P (.set (.adrc_flag d) v)) (hparams : ∀ i < 8, ∀ v, P (.set (.adrc_cfg d i) v)) :
    Emits P (adrcRecord d) := by
  unfold adrcRecord
  refine (emits_emit hexists).bind fun _ => emits_header.bind fun _ => emits_strtok_store hflag ?_
  refine Emits.bind ?_ fun _ => emits_strtok
  exact emits_loop fun i hi => emits_strtok.bind fun _ => emits_store (hparams i hi)

/-- What a record `C` may put out. -/
theorem emits_eqRecord {audioeq : Option EqCal} (hflag : ∀ v, P (.set (.eq_flag d) v))
    (hbands : ∀ v, P (.set (.equalizer d .bands) v))
    (hparams : ∀ i < 132, ∀ v, P (.set (.equalizer d (.params i)) v)) :
    Emits P (eqRecord d audioeq) := by
  unfold eqRecord
  refine emits_header.bind fun _ => emits_strtok.bind fun _ => emits_store_strtok hflag ?_
  cases audioeq with
  | none => exact emits_fail (-1)
  | some eq_cal =>
    refine Emits.bind ?_ fun _ => (emits_emit (hbands 8)).bind fun _ => emits_loop fun i hi => ?_
    · exact (emits_emit (hbands 0)).bind fun _ => emits_loop fun i hi => emits_emit (hparams i hi 0)
    · unfold eqBand storeCoefs
      refine emits_number.bind fun gain => emits_strtok.bind fun _ => ?_
      refine emits_number.bind fun freq => emits_strtok.bind fun _ => ?_
      refine emits_number.bind fun type => emits_strtok.bind fun _ => ?_
      refine emits_number.bind fun qf => emits_strtok.bind fun _ => ?_
      refine (emits_loop fun j hj => emits_emit (hparams _ ?_ _)).bind fun _ =>
        (emits_loop fun j hj => emits_emit (hparams _ ?_ _)).bind fun _ =>
          emits_emit (hparams _ ?_ _)
      all_goals omega

/-- What a record `D` may put out: the limits of its loops come with the record. -/
theorem emits_mbadrcRecord (hexists : P (.set (.mbadrc_filter_exists d) 1))
    (hcfg : ∀ m v, P (.set (.mbadrc_cfg d m) v)) (hflag : ∀ v, P (.set (.mbadrc_flag d) v)) :
    Emits P (mbadrcRecord d) := by
  unfold mbadrcRecord mbadrcRest
  refine (emits_emit hexists).bind fun _ => emits_header.bind fun _ =>
    emits_strtok_store (hcfg _) (emits_number.bind fun num_bands => ?_)
  refine emits_strtok_store (hcfg _) (emits_strtok_store (hcfg _) (emits_strtok_store (hcfg _) ?_))
  refine emits_number.bind fun ext_buf_size => ?_
  refine emits_strtok_store (hcfg _) (emits_strtok_store (hcfg _) (emits_strtok_store (hcfg _) ?_))
  refine Emits.bind ?_ fun _ => Emits.bind ?_ fun _ => emits_strtok.bind fun _ => emits_store hflag
  · exact emits_loop fun i _ => emits_loop fun j _ => emits_strtok.bind fun _ => emits_store (hcfg _)
  · exact emits_loop fun i _ => emits_strtok.bind fun _ => emits_store (hcfg _)

theorem swapped_lt {i : ℕ} (h : i < 48) : swapped i < 48 := by
  unfold swapped
  split
  · exact h
  · split <;> omega

/-- What a record `E` may put out. -/
theorem emits_txIirRecord (hcfg : ∀ m, m.inside = true → ∀ v, P (.set (.tx_iir_cfg s m) v))
    (hflag : ∀ v, P (.set (.txiir_flag d) v)) (hmask : P (.or (.enable_preproc_mask s) TX_IIR_ENABLE)) :
    Emits P (txIirRecord d s) := by
  unfold txIirRecord
  refine emits_header.bind fun _ => emits_strtok.bind fun _ => Emits.bind ?_ fun _ => ?_
  · exact emits_loop fun i hi => (emits_store (hcfg (.iir_params _) (decide_eq_true (swapped_lt hi)))).bind
      fun _ => emits_strtok
  · refine emits_store_strtok (hcfg _ rfl) ((emits_store hflag).bind fun _ => emits_number.bind fun _ => ?_)
    refine emits_strtok_store (hcfg _ rfl) ?_
    exact (emits_emit (hcfg _ rfl 0)).bind fun _ => emits_enable _ hmask

/-- What a record `F` may put out. -/
theorem emits_agcRecord (hcfg : ∀ m, m.inside = true → ∀ v, P (.set (.tx_agc_cfg s m) v))
    (hflag : ∀ v, P (.set (.agc_flag d) v)) (hmask : P (.or (.enable_preproc_mask s) AGC_ENABLE)) :
    Emits P (agcRecord d s) := by
  unfold agcRecord
  refine emits_header.bind fun _ => emits_strtok.bind fun _ => ?_
  refine emits_store_strtok (hcfg _ rfl) (emits_store_strtok (hcfg _ rfl) ?_)
  refine emits_store_strtok (hcfg _ rfl) (emits_store_strtok (hcfg _ rfl) ?_)
  refine emits_store_strtok (hcfg _ rfl) (Emits.bind ?_ fun _ => ?_)
  · exact emits_loop fun i hi => (emits_store (hcfg (.agc_params _) (decide_eq_true hi))).bind fun _ => emits_strtok
  · exact (emits_store hflag).bind fun _ => emits_number.bind fun _ => emits_enable _ hmask

/-- What a record `G` may put out. -/
theorem emits_nsRecord (hcfg : ∀ m v, P (.set (.ns_cfg s m) v)) (hflag : ∀ v, P (.set (.ns_flag d) v))
    (hmask : P (.or (.enable_preproc_mask s) NS_ENABLE)) : Emits P (nsRecord d s) := by
  unfold nsRecord
  refine emits_header.bind fun _ => emits_strtok_store (hcfg _) (emits_strtok_store (hcfg _) ?_)
  refine emits_strtok_store (hcfg _) (emits_strtok_store (hcfg _) ?_)
  refine emits_strtok_store (hcfg _) (emits_strtok_store (hcfg _) ?_)
  refine emits_strtok_store (hcfg _) (emits_strtok_store (hcfg _) ?_)
  refine emits_strtok_store hflag (emits_number.bind fun _ => emits_enable _ hmask)

end Records

/-! ### The digit of a line -/

theorem deviceId_eq {digit : Char} {d : ℕ} (h : deviceId digit = some d) :
    d < 3 ∧ digit = digitOf d := by
  unfold deviceId at h
  split at h
  all_goals first
    | (obtain rfl := Option.some.inj h; decide)
    | cases h

theorem sampIndex_eq {digit : Char} {s : ℕ} (h : sampIndex digit = some s) :
    s < 9 ∧ digit = digitOf s := by
  unfold sampIndex at h
  split at h
  all_goals first
    | (obtain rfl := Option.some.inj h; decide)
    | cases h

variable {audioeq : Option EqCal} {P : Store → Prop}

theorem emits_onDevice {record : ℕ → Part Unit} {digit : Char}
    (h : ∀ d, d < 3 → digit = digitOf d → Emits P (record d)) : Emits P (onDevice record digit) := by
  unfold onDevice
  split
  next d hd => exact h d (deviceId_eq hd).1 (deviceId_eq hd).2
  next => exact emits_pure ()

theorem emits_onRate {record : ℕ → Part Unit} {digit : Char}
    (h : ∀ s, s < 9 → digit = digitOf s → Emits P (record s)) : Emits P (onRate record digit) := by
  unfold onRate
  split
  next s hs => exact h s (sampIndex_eq hs).1 (sampIndex_eq hs).2
  next => exact emits_fail einval

end Msm7x27a.Filter
