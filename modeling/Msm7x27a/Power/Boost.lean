import Msm7x27a.Lib.Threads
import Msm7x27a.Lib.Descriptors
import Mathlib.Data.List.DropRight

/-!
# The boost pulse of the power HAL

`power.c` as a program of `Lib.Threads`: `cm_power_hint` opens the boost pulse file of the governor,
configures the governor and writes the hint.  Every system call is a region of its own, as threads
run hints side by side and only parts of a hint are under the lock; other code of the process opens
and closes descriptors too.

What the calls return comes with the hint.  The table of descriptors is the process's, and the kernel
gives a new descriptor a number that is not in use.
-/

namespace Msm7x27a.Power

open Msm7x27a.Descriptors (Kernel)
open Msm7x27a.Threads

inductive Governor where
  | ondemand | interactive
  deriving DecidableEq, Repr

/-- What a descriptor is of.  The governor's file is opened for reading, the other ones of the HAL for
writing; `foreign` is a descriptor of other code. -/
inductive File where
  | scaling_governor
  | boostpulse (governor : Governor)
  | parameter (governor : Governor) (name : String)
  | foreign
  deriving Repr

/-- What was done, as far as descriptors go. -/
inductive Event where
  | opened (fd : ℕ) (governor : Governor)
  | configured (fd : ℕ) (file : File) (value : String)
  | hinted (file : File) (duration : Int)
  /-- The write of a hint has failed. -/
  | refused (fd : Int)
  | closed (fd : ℕ) (file : File)
  deriving Repr

/-- `struct cm_power_module`, the static `governor`, and the descriptors of the process.  The log is
newest first. -/
structure State where
  boostpulse_fd : Int := -1
  boostpulse_warned : Bool := false
  governor : List Char := []
  files : KeyedVector ℕ File := .empty
  log : List Event := []

/-- What the calls of one hint return. -/
structure Outcomes where
  governorOpens : Bool
  /-- What is read of the governor's file, if the read succeeds. -/
  text : Option (List Char)
  boostOpens : Bool
  parameterOpens : String → Bool
  /-- The driver takes the hint. -/
  accepts : Bool

/-- `POWER_HINT_*`. -/
inductive Hint where
  | vsync | interaction | cpuBoost | other
  deriving DecidableEq, Repr

/-- What a thread may run: a hint, or other code that opens or closes a descriptor of its own. -/
inductive Request where
  | cm_power_hint (hint : Hint) (data : Int) (o : Outcomes)
  | openForeign
  | closeForeign (fd : ℕ)

inductive Mutex where
  | lock
  deriving DecidableEq, Repr

inductive Region where
  | work
  /-- `boostpulse_open` returns `boostpulse_fd`. -/
  | check
  /-- `boostpulse_fd` is read for the write. -/
  | load
  | write
  /-- The descriptor is closed after a write has failed. -/
  | closeBoost
  deriving DecidableEq, Repr

abbrev Code := Cmd State Mutex Empty Region

/-! ### The state -/

/-- A string ends at its first NUL. -/
def cString (text : List Char) : List Char := text.takeWhile (· ≠ '\x00')

/-- `strncmp(governor, "ondemand", 8) == 0` and so on. -/
def governorOf (governor : List Char) : Option Governor :=
  if ['o', 'n', 'd', 'e', 'm', 'a', 'n', 'd'].isPrefixOf governor then some .ondemand
  else if ['i', 'n', 't', 'e', 'r', 'a', 'c', 't', 'i', 'v', 'e'].isPrefixOf governor then
    some .interactive
  else none

/-- The parameters of a governor, below `/sys/devices/system/cpu/cpufreq`. -/
def parameters : Governor → List (String × String)
  | .ondemand =>
    [("sampling_rate", "50000"), ("up_threshold", "90"), ("io_is_busy", "0"),
      ("sampling_down_factor", "4"), ("down_differential", "10")]
  | .interactive =>
    [("timer_rate", "30000"), ("min_sample_time", "90000"), ("io_is_busy", "0"),
      ("hispeed_freq", "1008000"), ("above_hispeed_delay", "30000")]

namespace State

variable (K : Kernel) (s : State)

/-- The number that the next descriptor gets. -/
def next : ℕ := K.next s.files

def openFile (file : File) : State := { s with files := K.opened s.files file }

def close (fd : ℕ) : State :=
  match s.files.valueFor fd with
  | none => s
  | some file => { s with files := s.files.removeItem fd, log := .closed fd file :: s.log }

/-- `sysfs_read` has room for 19 characters. -/
def read (text : Option (List Char)) : State :=
  match text with
  | none => s
  | some text => { s with governor := cString (text.take 19) }

/-- The newline at the end goes. -/
def strip : State := { s with governor := s.governor.rdropWhile fun c => c = '\n' || c = '\r' }

/-- The value of a parameter is written to whatever has the descriptor. -/
def configure (fd : ℕ) (value : String) : State :=
  match s.files.valueFor fd with
  | none => s
  | some file => { s with log := .configured fd file value :: s.log }

/-- The boost pulse of the governor, if it is one of the two. -/
def openBoost (opens : Bool) : State :=
  match governorOf s.governor with
  | none => s
  | some governor =>
    if opens then
      { s.openFile K (.boostpulse governor) with
        boostpulse_fd := s.next K
        log := .opened (s.next K) governor :: s.log }
    else { s with boostpulse_fd := -1 }

def warn : State := { s with boostpulse_warned := true }

/-- The file that a hint is written to, if the write succeeds. -/
def target (fd : Int) (accepts : Bool) : Option File :=
  if 0 ≤ fd ∧ accepts then
    match s.files.valueFor fd.toNat with
    | some .scaling_governor => none
    | file => file
  else none

def hint (fd : Int) (duration : Int) (accepts : Bool) : State :=
  match s.target fd accepts with
  | some file => { s with log := .hinted file duration :: s.log }
  | none => { s with log := .refused fd :: s.log }

/-- `close(-1)` does nothing. -/
def closeBoost : State :=
  { (if 0 ≤ s.boostpulse_fd then s.close s.boostpulse_fd.toNat else s) with
    boostpulse_fd := -1
    boostpulse_warned := false }

/-- Other code closes what is its own. -/
def closeForeign (fd : ℕ) : State :=
  match s.files.valueFor fd with
  | some .foreign => { s with files := s.files.removeItem fd }
  | _ => s

end State

/-! ### The code -/

/-- A region that signals nothing. -/
def act (r : Region) (f : State → State) (k : State → Code) : Code := .act r f (fun _ => none) k

section Programs

variable (K : Kernel) (o : Outcomes)

def sysfs_read (k : Bool → Code) : Code :=
  if o.governorOpens then
    act .work (fun s => s.openFile K .scaling_governor) fun s =>
    act .work (fun s => s.read o.text) fun _ =>
    act .work (fun s' => s'.close (s.next K)) fun _ =>
    k o.text.isSome
  else k false

def sysfs_write (governor : Governor) (name value : String) (k : Code) : Code :=
  if o.parameterOpens name then
    act .work (fun s => s.openFile K (.parameter governor name)) fun s =>
    act .work (fun s' => s'.configure (s.next K) value) fun _ =>
    act .work (fun s' => s'.close (s.next K)) fun _ =>
    k
  else k

def get_scaling_governor (k : Bool → Code) : Code :=
  sysfs_read K o fun ok =>
  if ok then act .work (fun s => s.strip) fun _ => k true else k false

def configure_governor (k : Code) : Code :=
  act .work id fun s =>
  match governorOf s.governor with
  | none => k
  | some governor => (parameters governor).foldr (fun p k => sysfs_write K o governor p.1 p.2 k) k

def boostpulse_open (k : Code) : Code :=
  .lock .lock <|
  act .work id fun s =>
  if s.boostpulse_fd < 0 then
    get_scaling_governor K o fun ok =>
    if ok then
      act .work (fun s => s.openBoost K o.boostOpens) fun _ =>
      act .work (fun s => if s.boostpulse_fd < 0 then s.warn else s) fun s =>
      if 0 < s.boostpulse_fd then configure_governor K o (.unlock .lock k) else .unlock .lock k
    else act .work (fun s => s.warn) fun _ => .unlock .lock k
  else .unlock .lock k

/-- The duration that is written; `data` is 0 for a null pointer. -/
def duration (data : Int) : Int := if data ≠ 0 then data else 1

/-- The write of the hint, and what follows if it fails. -/
def writeHint (data : Int) (fd : Int) : Code :=
  act .write (fun s => s.hint fd (duration data) o.accepts) fun s =>
  if (s.target fd o.accepts).isSome then .done
  else
    .lock .lock <|
    act .closeBoost (fun s => s.closeBoost) fun _ =>
    .unlock .lock .done

def cm_power_hint (hint : Hint) (data : Int) : Code :=
  match hint with
  | .interaction | .cpuBoost =>
    boostpulse_open K o <|
    act .check id fun s =>
    if 0 ≤ s.boostpulse_fd then
      act .load id fun s => writeHint o data s.boostpulse_fd
    else .done
  | .vsync | .other => .done

end Programs

/-- Any thread may begin any request at any time. -/
def system (K : Kernel) (τ : Type) : System State Mutex Empty Region Request τ where
  prog
    | .cm_power_hint hint data o => cm_power_hint K o hint data
    | .openForeign => act .work (fun s => s.openFile K .foreign) fun _ => .done
    | .closeForeign fd => act .work (fun s => s.closeForeign fd) fun _ => .done
  may _ _ _ := true

/-- `cm_power_init` has read and configured the governor; other code has descriptors of its own. -/
def start (governor : List Char) (foreign : List ℕ) : State where
  governor := governor
  files := foreign.foldl (fun v fd => v.add fd .foreign) .empty

end Msm7x27a.Power
