import Msm7x27a.Lib.Cells
import Msm7x27a.Lib.Scan

/-!
# The filter tables and their lines

The tables that `AudioFilter.csv` fills: each cell is a member of a table at an index, as `AudioHardware`
declares them.  A line is cut into tokens by `strtok`, and the values of its fields are read by
`strtol`; each value is stored as 16 bits.
-/

namespace Msm7x27a.Filter

open Msm7x27a.Cells

inductive RxIirFilter where
  | num_bands
  | iir_params (i : ℕ)
  deriving DecidableEq

inductive Eqalizer where
  | bands
  | params (i : ℕ)
  deriving DecidableEq

inductive MbadrcFilter where
  | num_bands | down_samp_level | adrc_delay | ext_buf_size | ext_partition | ext_buf_msw | ext_buf_lsw
  | adrc_band (i j : ℕ)
  | ext_buf (i : ℕ)
  deriving DecidableEq

inductive TxIir where
  | cmd_id | active_flag | num_bands
  | iir_params (i : ℕ)
  deriving DecidableEq

inductive TxAgc where
  | cmd_id | tx_agc_param_mask | tx_agc_enable_flag | static_gain | adaptive_gain_flag
  | agc_params (i : ℕ)
  deriving DecidableEq

inductive Ns where
  | cmd_id | ec_mode_new | dens_gamma_n | dens_nfe_block_size | dens_limit_ns | dens_limit_ns_d
  | wb_gamma_e | wb_gamma_n
  deriving DecidableEq

/-- A cell of the tables. -/
inductive Cell where
  | iir_cfg (device_id : ℕ) (m : RxIirFilter)
  | rx_iir_flag (device_id : ℕ)
  | adrc_cfg (device_id i : ℕ)
  | adrc_flag (device_id : ℕ)
  | adrc_filter_exists (device_id : ℕ)
  | equalizer (device_id : ℕ) (m : Eqalizer)
  | eq_flag (device_id : ℕ)
  | mbadrc_cfg (device_id : ℕ) (m : MbadrcFilter)
  | mbadrc_flag (device_id : ℕ)
  | mbadrc_filter_exists (device_id : ℕ)
  | tx_iir_cfg (samp_index : ℕ) (m : TxIir)
  | txiir_flag (device_id : ℕ)
  | tx_agc_cfg (samp_index : ℕ) (m : TxAgc)
  | agc_flag (device_id : ℕ)
  | ns_cfg (samp_index : ℕ) (m : Ns)
  | ns_flag (device_id : ℕ)
  | enable_preproc_mask (samp_index : ℕ)
  deriving DecidableEq

/-! ### The declared sizes -/

/-- The member of `rx_iir_filter` is in its array. -/
def RxIirFilter.inside : RxIirFilter → Bool
  | iir_params i => i < 48
  | _ => true

def Eqalizer.inside : Eqalizer → Bool
  | params i => i < 132
  | _ => true

def MbadrcFilter.inside : MbadrcFilter → Bool
  | adrc_band i j => i < 5 && j < 10
  | ext_buf i => i < 196
  | _ => true

def TxIir.inside : TxIir → Bool
  | iir_params i => i < 48
  | _ => true

def TxAgc.inside : TxAgc → Bool
  | agc_params i => i < 19
  | _ => true

/-- The indices of the cell are inside the arrays as they are declared. -/
def Cell.inside : Cell → Bool
  | iir_cfg d m => d < 3 && m.inside
  | adrc_cfg d i => d < 3 && i < 8
  | equalizer d m => d < 3 && m.inside
  | mbadrc_cfg d m => d < 3 && m.inside
  | rx_iir_flag d | adrc_flag d | adrc_filter_exists d | eq_flag d | mbadrc_flag d
  | mbadrc_filter_exists d | txiir_flag d | agc_flag d | ns_flag d => d < 3
  | tx_iir_cfg s m => s < 9 && m.inside
  | tx_agc_cfg s m => s < 9 && m.inside
  | ns_cfg s _ | enable_preproc_mask s => s < 9

/-- What the tables hold; a flag `true` is 1. -/
abbrev Tables := Cell → ℕ

/-! ### Tokens and numbers -/

/-- What `strtok` gives with the separator `,`, call after call. -/
def tokens (buf : List Char) : List (List Char) := (buf.splitOn ',').filter (· ≠ [])

def isSpace (c : Char) : Bool := c = ' ' || ('\t' ≤ c && c ≤ '\r')

/-- The value of a hexadecimal digit. -/
def hexDigit (c : Char) : Option ℕ :=
  if '0' ≤ c && c ≤ '9' then some (c.toNat - '0'.toNat)
  else if 'a' ≤ c && c ≤ 'f' then some (c.toNat - 'a'.toNat + 10)
  else if 'A' ≤ c && c ≤ 'F' then some (c.toNat - 'A'.toNat + 10)
  else none

/-- The digits at the front of a text, as a number after `n`. -/
def hexValue (n : ℕ) : List Char → ℕ
  | [] => n
  | c :: s =>
    match hexDigit c with
    | some v => hexValue (16 * n + v) s
    | none => n

/-- The prefix `0x` that base 16 allows. -/
def dropPrefix : List Char → List Char
  | '0' :: 'x' :: s => s
  | '0' :: 'X' :: s => s
  | s => s

/-- `strtol(p, &ps, 16)`, where `long` has 32 bits: out of range it gives the nearest bound. -/
def strtol (p : List Char) : Int :=
  match p.dropWhile isSpace with
  | '-' :: s => max (-2147483648) (-hexValue 0 (dropPrefix s) : Int)
  | '+' :: s => min 2147483647 (hexValue 0 (dropPrefix s) : Int)
  | s => min 2147483647 (hexValue 0 (dropPrefix s) : Int)

/-- `(uint16_t)strtol(p, &ps, 16)` -/
def uint16 (p : List Char) : ℕ := (strtol p % 65536).toNat

/-- `(int16_t)` of a number of 16 bits. -/
def int16 (v : ℕ) : Int := if v < 32768 then v else v - 65536

example : uint16 ['F', 'F', 'F', 'C', '\r'] = 65532 := by decide
example : uint16 ['3', '.', '0', '0', 'E', '+', '0', '8'] = 3 := by decide

end Msm7x27a.Filter
