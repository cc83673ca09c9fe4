import Msm7x27a.Filter.Tables

/-!
# Storing a line of filter parameters

`check_and_set_audpp_parameters`, as a scanner of the tokens of its line that puts out each store into
a table, and `get_audpp_filter`, which hands it one line after the other.  Where the source reads a
number back from the cell it has just stored it to (the limits of two loops, the flags of the
preprocessing), the scanner uses the number that was stored.
-/

namespace Msm7x27a.Filter

open Msm7x27a.Cells Msm7x27a.Scan

def einval : Int := -22

def TX_IIR_ENABLE : ℕ := 4
def AGC_ENABLE : ℕ := 1
def NS_ENABLE : ℕ := 2

/-- A store into a table. -/
abbrev Store := Write Cell

/-- A part of `check_and_set_audpp_parameters`; an error is the value it returns. -/
abbrev Part := Scanner (List Char) Int Store

/-- `if (!(p = strtok(NULL, seps))) goto token_err;` -/
def strtok : Part Unit := next einval

/-- `cell = (uint16_t)strtol(p, &ps, 16)` -/
def store (c : Cell) : Part Unit := put fun p => .set c (uint16 p)

/-- The number at `p`. -/
def number : Part ℕ := do return uint16 (← token)

/-- What `audioeq_calccoefs` leaves in its result arrays. -/
structure Coefs where
  numerator : ℕ → ℕ
  denominator : ℕ → ℕ
  shift : ℕ → ℕ

/-- `audioeq_calccoefs`, of gain, frequency, rate, type and quality factor. -/
abbrev EqCal := Int → Int → Int → ℕ → Int → Coefs

section Records

variable (device_id samp_index : ℕ)

/-- Up to the first field: the table header and the table description. -/
def header : Part Unit := do
  strtok
  strtok

/-- A record `A`: the IIR filter. -/
def iirRecord : Part Unit := do
  header
  strtok
  loop 48 fun i => do
    store (.iir_cfg device_id (.iir_params i))
    strtok
  store (.rx_iir_flag device_id)
  strtok
  store (.iir_cfg device_id .num_bands)

/-- A record `B`: ADRC. -/
def adrcRecord : Part Unit := do
  emit (.set (.adrc_filter_exists device_id) 1)
  header
  strtok
  store (.adrc_flag device_id)
  loop 8 fun i => do
    strtok
    store (.adrc_cfg device_id i)
  strtok

/-- `memset(&equalizer[device_id], 0, sizeof(eqalizer))` -/
def clearEqualizer : Part Unit := do
  emit (.set (.equalizer device_id .bands) 0)
  loop 132 fun i => emit (.set (.equalizer device_id (.params i)) 0)

/-- The coefficients of one of `bands` bands go to the equalizer. -/
def storeCoefs (bands i : ℕ) (c : Coefs) : Part Unit := do
  loop 6 fun j => emit (.set (.equalizer device_id (.params (i * 6 + j))) (c.numerator j))
  loop 4 fun j =>
    emit (.set (.equalizer device_id (.params (bands * 6 + i * 4 + j))) (c.denominator j))
  emit (.set (.equalizer device_id (.params (bands * 10 + i))) (c.shift 0))

/-- One band of a record `C`. -/
def eqBand (eq_cal : EqCal) (bands i : ℕ) : Part Unit := do
  let gain ← number
  strtok
  let freq ← number
  strtok
  let type ← number
  strtok
  let qf ← number
  strtok
  storeCoefs device_id bands i (eq_cal (int16 gain) freq 48000 type qf)

/-- A record `C`: the equalizer; `audioeq` is the library, if it can be opened. -/
def eqRecord (audioeq : Option EqCal) : Part Unit := do
  header
  strtok
  store (.eq_flag device_id)
  strtok
  match audioeq with
  | none => fail (-1)
  | some eq_cal =>
    clearEqualizer device_id
    emit (.set (.equalizer device_id .bands) 8)
    loop 8 (eqBand device_id eq_cal 8)

/-- A record `D` from `ext_partition` on. -/
def mbadrcRest (num_bands ext_buf_size : ℕ) : Part Unit := do
  strtok
  store (.mbadrc_cfg device_id .ext_partition)
  strtok
  store (.mbadrc_cfg device_id .ext_buf_msw)
  strtok
  store (.mbadrc_cfg device_id .ext_buf_lsw)
  loop num_bands fun i => loop 10 fun j => do
    strtok
    store (.mbadrc_cfg device_id (.adrc_band i j))
  loop (ext_buf_size / 2) fun i => do
    strtok
    store (.mbadrc_cfg device_id (.ext_buf i))
  strtok
  store (.mbadrc_flag device_id)

/-- A record `D`: MBADRC. -/
def mbadrcRecord : Part Unit := do
  emit (.set (.mbadrc_filter_exists device_id) 1)
  header
  strtok
  store (.mbadrc_cfg device_id .num_bands)
  let num_bands ← number
  strtok
  store (.mbadrc_cfg device_id .down_samp_level)
  strtok
  store (.mbadrc_cfg device_id .adrc_delay)
  strtok
  store (.mbadrc_cfg device_id .ext_buf_size)
  let ext_buf_size ← number
  mbadrcRest device_id num_bands ext_buf_size

/-- The coefficients of a record `E` come in pairs, the second before the first, up to the 40th. -/
def swapped (i : ℕ) : ℕ := if i ≥ 40 then i else if i % 2 ≠ 0 then i - 1 else i + 1

/-- `if (flag != 0) enable_preproc_mask[samp_index] |= bit;` -/
def enable (flag bit : ℕ) : Part Unit :=
  if flag ≠ 0 then emit (.or (.enable_preproc_mask samp_index) bit) else pure ()

/-- A record `E`: the TX IIR filter. -/
def txIirRecord : Part Unit := do
  header
  strtok
  loop 48 fun i => do
    store (.tx_iir_cfg samp_index (.iir_params (swapped i)))
    strtok
  store (.tx_iir_cfg samp_index .active_flag)
  strtok
  store (.txiir_flag device_id)
  let txiir_flag ← number
  strtok
  store (.tx_iir_cfg samp_index .num_bands)
  emit (.set (.tx_iir_cfg samp_index .cmd_id) 0)
  enable samp_index txiir_flag TX_IIR_ENABLE

/-- A record `F`: the AGC filter. -/
def agcRecord : Part Unit := do
  header
  strtok
  store (.tx_agc_cfg samp_index .cmd_id)
  strtok
  store (.tx_agc_cfg samp_index .tx_agc_param_mask)
  strtok
  store (.tx_agc_cfg samp_index .tx_agc_enable_flag)
  strtok
  store (.tx_agc_cfg samp_index .static_gain)
  strtok
  store (.tx_agc_cfg samp_index .adaptive_gain_flag)
  strtok
  loop 19 fun i => do
    store (.tx_agc_cfg samp_index (.agc_params i))
    strtok
  store (.agc_flag device_id)
  enable samp_index (← number) AGC_ENABLE

/-- A record `G`: noise suppression. -/
def nsRecord : Part Unit := do
  header
  strtok
  store (.ns_cfg samp_index .cmd_id)
  strtok
  store (.ns_cfg samp_index .ec_mode_new)
  strtok
  store (.ns_cfg samp_index .dens_gamma_n)
  strtok
  store (.ns_cfg samp_index .dens_nfe_block_size)
  strtok
  store (.ns_cfg samp_index .dens_limit_ns)
  strtok
  store (.ns_cfg samp_index .dens_limit_ns_d)
  strtok
  store (.ns_cfg samp_index .wb_gamma_e)
  strtok
  store (.ns_cfg samp_index .wb_gamma_n)
  strtok
  store (.ns_flag device_id)
  enable samp_index (← number) NS_ENABLE

end Records

/-! ### A line -/

/-- The device of a record `A` to `D`. -/
def deviceId : Char → Option ℕ
  | '1' => some 0
  | '2' => some 1
  | '3' => some 2
  | _ => none

/-- The index of the sampling rate of a record `E` to `G`. -/
def sampIndex : Char → Option ℕ
  | '1' => some 0
  | '2' => some 1
  | '3' => some 2
  | '4' => some 3
  | '5' => some 4
  | '6' => some 5
  | '7' => some 6
  | '8' => some 7
  | '9' => some 8
  | _ => none

/-- A record that is for one of the three devices, or nothing. -/
def onDevice (record : ℕ → Part Unit) (digit : Char) : Part Unit :=
  match deviceId digit with
  | some device_id => record device_id
  | none => pure ()

/-- A record that is for one of the nine rates, or an error. -/
def onRate (record : ℕ → Part Unit) (digit : Char) : Part Unit :=
  match sampIndex digit with
  | some samp_index => record samp_index
  | none => fail einval

/-- The record of a line with these first two characters; `device_id` stays 0 in `E` to `G`. -/
def recordOf (audioeq : Option EqCal) (letter digit : Char) : Part Unit :=
  match letter with
  | 'A' => onDevice iirRecord digit
  | 'B' => onDevice adrcRecord digit
  | 'C' => onDevice (eqRecord · audioeq) digit
  | 'D' => onDevice mbadrcRecord digit
  | 'E' => onRate (txIirRecord 0) digit
  | 'F' => onRate (agcRecord 0) digit
  | 'G' => onRate (nsRecord 0) digit
  | _ => pure ()

/-- The character at an index of the buffer; it ends with a 0. -/
def charAt (buf : List Char) (i : ℕ) : Char := buf.getD i '\x00'

/-- The stores that a line makes, and how the record ends. -/
def scanLine (audioeq : Option EqCal) (buf : List Char) :
    List Store × Except Int (Unit × Cursor (List Char)) :=
  (recordOf audioeq (charAt buf 0) (charAt buf 1)).run ⟨[], tokens buf⟩

/-- The stores, in order. -/
def stores (audioeq : Option EqCal) (buf : List Char) : List Store := (scanLine audioeq buf).1

def result (audioeq : Option EqCal) (buf : List Char) : Int :=
  match (scanLine audioeq buf).2 with
  | .ok _ => 0
  | .error e => e

/-- The tables after a line, and the value returned. -/
def check_and_set_audpp_parameters (audioeq : Option EqCal) (buf : List Char) (T : Tables) :
    Tables × Int :=
  (applyAll (stores audioeq buf) T, result audioeq buf)

/-- `lines` is what `get_audpp_filter` cuts out of the file: each ends with a line feed, and none after
a byte `0xFF` at the start of a line is read.  It stops at a line that is not accepted. -/
def get_audpp_filter (audioeq : Option EqCal) : List (List Char) → Tables → Tables × Int
  | [], T => (T, 0)
  | buf :: lines, T =>
    if (check_and_set_audpp_parameters audioeq buf T).2 ≠ 0 then
      ((check_and_set_audpp_parameters audioeq buf T).1, -1)
    else get_audpp_filter audioeq lines (check_and_set_audpp_parameters audioeq buf T).1

end Msm7x27a.Filter
