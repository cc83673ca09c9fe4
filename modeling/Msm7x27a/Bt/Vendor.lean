import Msm7x27a.Bt.Rfkill
import Msm7x27a.Lib.Descriptors
import Msm7x27a.Lib.Runs
import Msm7x27a.Route.Parameters

/-!
# The Bluetooth vendor library

`bt_vendor_qcom_init` and `bt_vendor_qcom_op`.  The stack opens and closes the serial line, switches
the power and asks for configurations that are all done in the library's `hci_qcomm_init`.

The descriptor of the serial line is a static variable, 0 at first, that a close leaves as it is, as
does an open that fails half way.  `serial_iff` says exactly when the line that is open is always the
one the stack was given, and no descriptor of other code is closed.
-/

namespace Msm7x27a.Bt

open Msm7x27a.Bytes
open Msm7x27a.Descriptors (Kernel valueFor_opened valueFor_opened_of_some)
open Msm7x27a.Runs

inductive File where
  | uart
  /-- Of other code. -/
  | foreign
  deriving DecidableEq, Repr

/-- The callbacks of the stack, in the order of their opcodes. -/
inductive Callback where
  | fwcfg_cb | scocfg_cb | lpm_cb | epilog_cb
  deriving DecidableEq, Repr

/-- An address, first byte first. -/
abbrev Address := Fin 6 → Byte

/-- What was done, newest first in the log. -/
inductive Event where
  | called (callback : Callback)
  /-- `1` or `0` is written to the state of the rfkill device. -/
  | wrote (device : ℕ) (on : Bool)
  | system (command : List Char)
  | closed (fd : ℕ) (file : File)
  deriving DecidableEq, Repr

/-- The static variables, the descriptors of the process, and what the stack was given. -/
structure Vendor where
  bt_vendor_callbacks : Bool := false
  /-- `bt_vendor_local_bdaddr` is no null pointer. -/
  bt_vendor_local_bdaddr : Bool := false
  bt_hardware_power_state_path : Option ℕ := none
  /-- The static variable of `bt_hardware_serial`. -/
  fd : Int := 0
  files : KeyedVector ℕ File := .empty
  /-- The descriptor in the array of the stack, until the stack closes the line. -/
  fd_array : Option ℕ := none
  log : List Event := []

/-- Which calls succeed when the serial line is opened. -/
structure SerialOutcome where
  opens : Bool
  tcflush : Bool
  tcgetattr : Bool
  tcsetattr : Bool

def SerialOutcome.setUp (o : SerialOutcome) : Bool := o.tcflush && o.tcgetattr && o.tcsetattr

/-- What is found when the power is switched: whether the state can be written, what
`bt_vendor_local_bdaddr` points to, and `persist.service.bt.power`. -/
structure PowerOutcome where
  writes : Bool
  address : Address
  bt_power_property : List Char

/-- The calls of the stack, and other code that opens or closes a descriptor of its own. -/
inductive Op where
  | init (p_cb local_bdaddr : Bool) (junk : ℕ → Byte) (rfkill : List TypeFile)
  | powerCtrl (power_state : ℕ) (o : PowerOutcome)
  | configure (callback : Callback)
  | userialOpen (o : SerialOutcome)
  | userialClose
  | getLpmIdleTimeout
  | lpmWakeSetState
  | openForeign
  | closeForeign (fd : ℕ)

/-! ### The firmware -/

/-- A digit of `%X`. -/
def hexDigit (n : ℕ) : Char :=
  ['0', '1', '2', '3', '4', '5', '6', '7', '8', '9', 'A', 'B', 'C', 'D', 'E', 'F'].getD n '0'

/-- `%02X`. -/
def hex2 (b : Byte) : List Char := [hexDigit (b.toNat / 16), hexDigit (b.toNat % 16)]

/-- `bt_power`, from 0 to 2. -/
def powerClass (bt_power_property : List Char) : ℕ := (min 2 (Route.atoi bt_power_property)).toNat

/-- `%02X:%02X:%02X:%02X:%02X:%02X`. -/
def hexAddress (address : Address) : List Char :=
  hex2 (address 0) ++ [':'] ++ hex2 (address 1) ++ [':'] ++ hex2 (address 2) ++ [':'] ++
    hex2 (address 3) ++ [':'] ++ hex2 (address 4) ++ [':'] ++ hex2 (address 5)

/-- What `snprintf` puts into `mac_argument`, which has 256 characters. -/
def mac_argument (address : Address) (bt_power_property : List Char) : List Char :=
  ("/system/bin/hci_qcomm_init --force-hw-sleep --board-address ".toList ++ hexAddress address ++
    " --power-class ".toList ++ (toString (powerClass bt_power_property)).toList).take 255

theorem hexDigit_inj : ∀ m < 16, ∀ n < 16, hexDigit m = hexDigit n → m = n := by decide

theorem hex2_inj {b b' : Byte} (h : hex2 b = hex2 b') : b = b' := by
  unfold hex2 at h
  obtain ⟨hhigh, hrest⟩ := List.cons.inj h
  have hb := b.isLt
  have hb' := b'.isLt
  have hhigh := hexDigit_inj _ (by omega) _ (by omega) hhigh
  have hlow := hexDigit_inj _ (by omega) _ (by omega) (List.cons.inj hrest).1
  exact BitVec.eq_of_toNat_eq (by omega)

theorem hexAddress_inj {address address' : Address} (h : hexAddress address = hexAddress address') :
    address = address' := by
  have hlast : ∀ {l l' : List Char} {b b' : Byte},
      l ++ [':'] ++ hex2 b = l' ++ [':'] ++ hex2 b' → l = l' ∧ b = b' := by
    intro l l' b b' h
    obtain ⟨hfront, hback⟩ := List.append_inj' h rfl
    exact ⟨List.append_cancel_right hfront, hex2_inj hback⟩
  obtain ⟨h, h5⟩ := hlast h
  obtain ⟨h, h4⟩ := hlast h
  obtain ⟨h, h3⟩ := hlast h
  obtain ⟨h, h2⟩ := hlast h
  obtain ⟨h, h1⟩ := hlast h
  have h0 := hex2_inj h
  funext i
  match i with
  | 0 => exact h0
  | 1 => exact h1
  | 2 => exact h2
  | 3 => exact h3
  | 4 => exact h4
  | 5 => exact h5

theorem powerClass_le (bt_power_property : List Char) : powerClass bt_power_property ≤ 2 := by
  unfold powerClass
  omega

/-- A power class is one digit. -/
theorem length_powerClass : ∀ n ≤ 2, (toString n).toList.length = 1 := by decide

theorem powerClass_inj : ∀ m ≤ 2, ∀ n ≤ 2, (toString m).toList = (toString n).toList → m = n := by decide

/-- The command is not cut off. -/
theorem mac_argument_whole (address : Address) (bt_power_property : List Char) :
    mac_argument address bt_power_property =
      "/system/bin/hci_qcomm_init --force-hw-sleep --board-address ".toList ++ hexAddress address ++
        " --power-class ".toList ++ (toString (powerClass bt_power_property)).toList := by
  have hcommand : "/system/bin/hci_qcomm_init --force-hw-sleep --board-address ".toList.length = 60 := by
    decide
  have haddress : (hexAddress address).length = 17 := rfl
  have hoption : " --power-class ".toList.length = 15 := by decide
  refine List.take_of_length_le ?_
  rw [List.length_append, List.length_append, List.length_append, hcommand, haddress, hoption,
    length_powerClass _ (powerClass_le _)]
  omega

/-- **The command.** It is not cut off, and says which address the firmware gets and which power
class. -/
theorem mac_argument_inj (address : Address) (p : List Char) :
    mac_argument address p =
        "/system/bin/hci_qcomm_init --force-hw-sleep --board-address ".toList ++ hexAddress address ++
          " --power-class ".toList ++ (toString (powerClass p)).toList ∧
      ∀ (address' : Address) (p' : List Char), mac_argument address p = mac_argument address' p' ↔
        address = address' ∧ powerClass p = powerClass p' := by
  refine ⟨mac_argument_whole address p, fun address' p' => ?_⟩
  constructor
  · intro h
    rw [mac_argument_whole, mac_argument_whole] at h
    have hclass := length_powerClass _ (powerClass_le p)
    have hclass' := length_powerClass _ (powerClass_le p')
    obtain ⟨hfront, hback⟩ := List.append_inj' h (hclass.trans hclass'.symm)
    have haddress := List.append_cancel_left (List.append_cancel_right hfront)
    exact ⟨hexAddress_inj haddress, powerClass_inj _ (powerClass_le p) _ (powerClass_le p') hback⟩
  · rintro ⟨rfl, h⟩
    unfold mac_argument
    rw [h]

/-! ### The calls -/

namespace Vendor

variable (K : Kernel) (s : Vendor)

/-- The descriptor is taken out of the table, if it is there. -/
def close (fd : Int) : Vendor :=
  if 0 ≤ fd then
    match s.files.valueFor fd.toNat with
    | none => s
    | some file => { s with files := s.files.removeItem fd.toNat, log := .closed fd.toNat file :: s.log }
  else s

/-- `bt_hardware_serial(true)`. -/
def openSerial (o : SerialOutcome) : Int × Vendor :=
  if o.opens then
    let s := { s with files := K.opened s.files .uart, fd := K.next s.files }
    if o.setUp then (s.fd, s) else (-1, s.close s.fd)
  else (-1, { s with fd := -1 })

def bt_hardware_download_firmware (o : PowerOutcome) : Vendor :=
  { s with log := .system (mac_argument o.address o.bt_power_property) :: s.log }

/-- What is written is not checked; `none` is a null pointer dereference. -/
def bt_hardware_power (enable : Bool) (o : PowerOutcome) : Option Vendor :=
  let s := match s.bt_hardware_power_state_path with
    | none => s
    | some device => if o.writes then { s with log := .wrote device enable :: s.log } else s
  if enable then
    if s.bt_vendor_local_bdaddr then some (s.bt_hardware_download_firmware o) else none
  else some s

def bt_vendor_qcom_init (p_cb local_bdaddr : Bool) (junk : ℕ → Byte) (rfkill : List TypeFile) : Vendor :=
  if p_cb then
    { s with
      bt_vendor_callbacks := true
      bt_vendor_local_bdaddr := local_bdaddr
      bt_hardware_power_state_path :=
        (bt_get_rfkill_state_path junk rfkill).or s.bt_hardware_power_state_path }
  else s

/-- `BT_VND_OP_USERIAL_OPEN`; it returns 1 whatever happens. -/
def userialOpen (o : SerialOutcome) : Vendor :=
  let r := s.openSerial K o
  if 0 < r.1 then { r.2 with fd_array := some r.1.toNat } else r.2

/-- `BT_VND_OP_USERIAL_CLOSE`. -/
def userialClose : Vendor := { s.close s.fd with fd_array := none }

/-- `none` is a null pointer dereference. -/
def step : Op → Option Vendor
  | .init p_cb local_bdaddr junk rfkill => some (s.bt_vendor_qcom_init p_cb local_bdaddr junk rfkill)
  | .powerCtrl power_state o =>
    -- `BT_VND_PWR_OFF` is 0 and `BT_VND_PWR_ON` is 1
    if power_state = 0 then s.bt_hardware_power false o
    else if power_state = 1 then s.bt_hardware_power true o
    else some s
  | .configure callback =>
    if s.bt_vendor_callbacks then some { s with log := .called callback :: s.log } else none
  | .userialOpen o => some (s.userialOpen K o)
  | .userialClose => some s.userialClose
  | .getLpmIdleTimeout | .lpmWakeSetState => some s
  | .openForeign => some { s with files := K.opened s.files .foreign }
  | .closeForeign fd =>
    some (if s.files.valueFor fd = some .foreign then { s with files := s.files.removeItem fd } else s)

/-! ### The serial line -/

/-- The serial line that is open is the one that the stack was given, and no descriptor of other code
was closed. -/
def Clean : Prop :=
  (∀ fd, s.files.valueFor fd = some .uart → s.fd_array = some fd) ∧ ∀ fd, .closed fd .foreign ∉ s.log

/-- The line is opened only while it is not open, and does not get the number 0.  It is closed only
when the static variable is not the number of other code, and no line is open but its own. -/
def Paired : Vendor → Op → Prop
  | s, .userialOpen o => o.opens = true → o.setUp = true →
    K.next s.files ≠ 0 ∧ ∀ fd, s.files.valueFor fd ≠ some .uart
  | s, .userialClose => (0 ≤ s.fd → s.files.valueFor s.fd.toNat ≠ some .foreign) ∧
    ∀ fd, s.files.valueFor fd = some .uart → s.fd = (fd : ℕ)
  | _, _ => True

variable {K : Kernel} {s s' : Vendor} {op : Op}

/-- The line is clean, and the stack was not given the number 0. -/
structure Inv (s : Vendor) : Prop where
  clean : s.Clean
  given : ∀ fd, s.fd_array = some fd → fd ≠ 0

theorem valueFor_close (n : Int) (fd : ℕ) : (s.close n).files.valueFor fd =
    if (fd : Int) = n then none else s.files.valueFor fd := by
  unfold close
  by_cases hn : 0 ≤ n
  · rw [if_pos hn]
    have hfd : (fd : Int) = n ↔ fd = n.toNat := by omega
    split
    next hnone =>
      split
      next e => rw [hfd.1 e, hnone]
      next => rfl
    next =>
      change (s.files.removeItem n.toNat).valueFor fd = _
      rw [KeyedVector.valueFor_removeItem]
      simp only [hfd]
  · rw [if_neg hn, if_neg (by omega)]

theorem mem_log_close {n : Int} {fd : ℕ} : .closed fd .foreign ∈ (s.close n).log ↔
    .closed fd .foreign ∈ s.log ∨ (fd : Int) = n ∧ s.files.valueFor fd = some .foreign := by
  unfold close
  by_cases hn : 0 ≤ n
  · rw [if_pos hn]
    have hfd : (fd : Int) = n ↔ fd = n.toNat := by omega
    split
    next hnone =>
      refine (or_iff_left ?_).symm
      rintro ⟨e, hforeign⟩
      rw [hfd.1 e, hnone] at hforeign
      cases hforeign
    next file hsome =>
      rw [List.mem_cons, or_comm]
      refine or_congr_right ⟨fun e => ?_, ?_⟩
      · injection e with e₁ e₂
        exact ⟨hfd.2 e₁, by rw [e₁, hsome, e₂]⟩
      · rintro ⟨e, hforeign⟩
        rw [hfd.1 e, hsome] at hforeign
        rw [hfd.1 e, Option.some.inj hforeign]
  · rw [if_neg hn]
    refine (or_iff_left ?_).symm
    rintro ⟨e, -⟩
    omega

theorem fd_array_close (n : Int) : (s.close n).fd_array = s.fd_array := by
  unfold close
  split
  · split <;> rfl
  · rfl

/-- The same lines are open, and no more descriptors of other code were closed. -/
theorem Clean.of_same (h : s.Clean)
    (hfiles : ∀ fd, s'.files.valueFor fd = some .uart → s.files.valueFor fd = some .uart)
    (hgiven : s'.fd_array = s.fd_array)
    (hlog : ∀ fd, .closed fd .foreign ∈ s'.log → .closed fd .foreign ∈ s.log) : s'.Clean :=
  ⟨fun fd hfd => hgiven.trans (h.1 fd (hfiles fd hfd)), fun fd hfd => h.2 fd (hlog fd hfd)⟩

/-- The line cannot be set up, and is closed again. -/
theorem userialOpen_failed {o : SerialOutcome} (hopens : o.opens = true) (hsetUp : ¬o.setUp = true) :
    s.userialOpen K o = close { s with files := K.opened s.files .uart, fd := K.next s.files }
      (K.next s.files) := by
  have hnone : ¬(0 : Int) < -1 := by decide
  unfold userialOpen openSerial
  rw [if_pos hopens, if_neg hsetUp]
  exact if_neg hnone

/-- An open that fails leaves nothing open. -/
theorem Clean.openSerial_failed {o : SerialOutcome} (h : s.Clean)
    (ho : ¬(o.opens = true ∧ o.setUp = true)) :
    (s.userialOpen K o).Clean ∧ (s.userialOpen K o).fd_array = s.fd_array := by
  by_cases hopens : o.opens = true
  · rw [userialOpen_failed hopens fun hsetUp => ho ⟨hopens, hsetUp⟩]
    refine ⟨h.of_same (fun fd hfd => ?_) (fd_array_close _) fun fd hfd => ?_, fd_array_close _⟩
    · rw [valueFor_close] at hfd
      split at hfd
      next => cases hfd
      next hne =>
        change (K.opened s.files .uart).valueFor fd = _ at hfd
        rwa [valueFor_opened, if_neg (by omega)] at hfd
    · refine (mem_log_close.1 hfd).resolve_right ?_
      rintro ⟨e, hforeign⟩
      change (K.opened s.files .uart).valueFor fd = _ at hforeign
      rw [valueFor_opened, if_pos (by omega)] at hforeign
      cases hforeign
  · have hnone : ¬(0 : Int) < -1 := by decide
    have hclosed : s.userialOpen K o = { s with fd := -1 } := by
      unfold userialOpen openSerial
      rw [if_neg hopens]
      exact if_neg hnone
    rw [hclosed]
    exact ⟨h, rfl⟩

/-- The line is open, and the stack is given its number unless that is 0. -/
theorem userialOpen_ok {o : SerialOutcome} (hopens : o.opens = true) (hsetUp : o.setUp = true) :
    (s.userialOpen K o).files = K.opened s.files .uart ∧ (s.userialOpen K o).log = s.log ∧
      (s.userialOpen K o).fd_array =
        if K.next s.files = 0 then s.fd_array else some (K.next s.files) := by
  unfold userialOpen openSerial
  rw [if_pos hopens, if_pos hsetUp]
  dsimp only
  by_cases hzero : K.next s.files = 0
  · rw [if_neg (by omega), if_pos hzero]
    exact ⟨rfl, rfl, rfl⟩
  · rw [if_pos (by omega), if_neg hzero]
    exact ⟨rfl, rfl, by rw [Int.toNat_natCast]⟩

theorem Inv.userialOpen_iff (h : s.Inv) (o : SerialOutcome) :
    (s.userialOpen K o).Clean ↔ Paired K s (.userialOpen o) := by
  by_cases ho : o.opens = true ∧ o.setUp = true
  · obtain ⟨hopens, hsetUp⟩ := ho
    obtain ⟨hfiles, hlog, hgiven⟩ := userialOpen_ok (K := K) (s := s) hopens hsetUp
    have hnew : (s.userialOpen K o).files.valueFor (K.next s.files) = some .uart := by
      rw [hfiles, valueFor_opened, if_pos rfl]
    constructor
    · rintro ⟨hclean, -⟩ _ _
      have hfd := hclean _ hnew
      rw [hgiven] at hfd
      have hne : K.next s.files ≠ 0 := by
        intro hzero
        rw [if_pos hzero] at hfd
        exact h.given _ hfd hzero
      refine ⟨hne, fun fd hold => ?_⟩
      have hfd' := hclean fd (by rw [hfiles]; exact valueFor_opened_of_some hold)
      rw [hgiven, if_neg hne] at hfd'
      obtain rfl := Option.some.inj hfd'
      exact Descriptors.next_not_mem (KeyedVector.mem_iff_valueFor.2 ⟨_, hold⟩)
    · intro hpaired
      obtain ⟨hne, hnone⟩ := hpaired hopens hsetUp
      refine ⟨fun fd hfd => ?_, hlog ▸ h.clean.2⟩
      rw [hfiles, valueFor_opened] at hfd
      rw [hgiven, if_neg hne]
      split at hfd
      next e => rw [e]
      next => exact absurd hfd (hnone fd)
  · exact iff_of_true (h.clean.openSerial_failed ho).1 fun hopens hsetUp => absurd ⟨hopens, hsetUp⟩ ho

theorem Inv.userialClose_iff (h : s.Inv) : s.userialClose.Clean ↔ Paired K s .userialClose := by
  have hfiles : ∀ fd, s.userialClose.files.valueFor fd =
      if (fd : Int) = s.fd then none else s.files.valueFor fd := valueFor_close s.fd
  constructor
  · rintro ⟨hclean, hown⟩
    refine ⟨fun hpos hforeign => ?_, fun fd hfd => ?_⟩
    · exact hown s.fd.toNat (mem_log_close.2 (.inr ⟨by omega, hforeign⟩))
    · by_contra hne
      have hgiven := hclean fd (by rw [hfiles, if_neg fun e => hne e.symm]; exact hfd)
      cases hgiven
  · rintro ⟨hforeign, hown⟩
    refine ⟨fun fd hfd => ?_, fun fd hfd => ?_⟩
    · rw [hfiles] at hfd
      split at hfd
      next => cases hfd
      next hne => exact absurd (hown fd hfd).symm hne
    · rcases mem_log_close.1 hfd with hfd | ⟨e, hfd⟩
      · exact h.clean.2 fd hfd
      · refine hforeign (by omega) ?_
        rw [← e, Int.toNat_natCast]
        exact hfd

/-- The other calls do nothing to the line. -/
theorem Inv.step_other (h : s.Inv) (hs : s.step K op = some s') (hopen : ∀ o, op ≠ .userialOpen o)
    (hclose : op ≠ .userialClose) : s'.Inv := by
  have hsame : ∀ {s' : Vendor}, s'.files = s.files → s'.fd_array = s.fd_array →
      (∀ fd, .closed fd .foreign ∈ s'.log → .closed fd .foreign ∈ s.log) → s'.Inv :=
    fun hfiles hgiven hlog => ⟨h.clean.of_same (fun fd hfd => hfiles ▸ hfd) hgiven hlog, hgiven ▸ h.given⟩
  cases op with
  | userialOpen o => exact absurd rfl (hopen o)
  | userialClose => exact absurd rfl hclose
  | init p_cb local_bdaddr junk rfkill =>
    obtain rfl := Option.some.inj hs
    unfold bt_vendor_qcom_init
    split
    · exact hsame rfl rfl fun _ h => h
    · exact h
  | powerCtrl power_state o =>
    have hpower : ∀ enable, s.bt_hardware_power enable o = some s' → s'.Inv := by
      intro enable hs
      have hwritten : ∃ log, (∀ fd, .closed fd .foreign ∈ log → .closed fd .foreign ∈ s.log) ∧
          (match s.bt_hardware_power_state_path with
            | none => s
            | some device => if o.writes then { s with log := .wrote device enable :: s.log } else s) =
            { s with log := log } := by
        split
        · exact ⟨s.log, fun _ h => h, rfl⟩
        · split
          · exact ⟨_, fun _ h => by simpa using h, rfl⟩
          · exact ⟨s.log, fun _ h => h, rfl⟩
      obtain ⟨log, hlog, he⟩ := hwritten
      unfold bt_hardware_power at hs
      rw [he] at hs
      dsimp only at hs
      split_ifs at hs
      · obtain rfl := Option.some.inj hs
        exact hsame rfl rfl fun fd hfd => hlog fd (by simpa [bt_hardware_download_firmware] using hfd)
      · obtain rfl := Option.some.inj hs
        exact hsame rfl rfl hlog
    unfold step at hs
    dsimp only at hs
    split_ifs at hs
    · exact hpower false hs
    · exact hpower true hs
    · obtain rfl := Option.some.inj hs
      exact h
  | configure callback =>
    unfold step at hs
    dsimp only at hs
    split_ifs at hs
    obtain rfl := Option.some.inj hs
    exact hsame rfl rfl fun fd hfd => by simpa using hfd
  | getLpmIdleTimeout | lpmWakeSetState =>
    obtain rfl := Option.some.inj hs
    exact h
  | openForeign =>
    obtain rfl := Option.some.inj hs
    refine ⟨h.clean.of_same (fun fd hfd => ?_) rfl fun _ h => h, h.given⟩
    change (K.opened s.files .foreign).valueFor fd = _ at hfd
    rw [valueFor_opened] at hfd
    split at hfd
    · cases hfd
    · exact hfd
  | closeForeign fd =>
    obtain rfl := Option.some.inj hs
    split
    · refine ⟨h.clean.of_same (fun fd' hfd => ?_) rfl fun _ h => h, h.given⟩
      change (s.files.removeItem fd).valueFor fd' = _ at hfd
      rw [KeyedVector.valueFor_removeItem] at hfd
      split at hfd
      · cases hfd
      · exact hfd
    · exact h

theorem Inv.ends_iff (h : s.Inv) (op : Op) : Ends (step K) Clean s op ↔ Paired K s op := by
  have hsome : ∀ {s'}, s.step K op = some s' → (Ends (step K) Clean s op ↔ s'.Clean) := by
    intro s' hs
    constructor
    · exact fun he => he s' hs
    · intro hclean s'' hs'
      obtain rfl := Option.some.inj (hs.symm.trans hs')
      exact hclean
  cases op with
  | userialOpen o => exact (hsome rfl).trans (h.userialOpen_iff o)
  | userialClose => exact (hsome rfl).trans h.userialClose_iff
  | init | powerCtrl | configure | getLpmIdleTimeout | lpmWakeSetState | openForeign | closeForeign =>
    refine iff_of_true (fun s' hs => ?_) trivial
    exact (h.step_other hs nofun nofun).clean

theorem Inv.step (h : s.Inv) (he : Ends (step K) Clean s op) (hs : s.step K op = some s') : s'.Inv := by
  refine ⟨he s' hs, ?_⟩
  cases op with
  | userialOpen o =>
    obtain rfl := Option.some.inj hs
    by_cases ho : o.opens = true ∧ o.setUp = true
    · obtain ⟨-, -, hgiven⟩ := userialOpen_ok (K := K) (s := s) ho.1 ho.2
      intro fd hfd
      rw [hgiven] at hfd
      split at hfd
      next => exact h.given fd hfd
      next hne =>
        obtain rfl := Option.some.inj hfd
        exact hne
    · rw [(h.clean.openSerial_failed ho).2]
      exact h.given
  | userialClose =>
    obtain rfl := Option.some.inj hs
    exact fun fd hfd => by cases hfd
  | init | powerCtrl | configure | getLpmIdleTimeout | lpmWakeSetState | openForeign | closeForeign =>
    exact (h.step_other hs nofun nofun).given

/-- Descriptors of other code, and nothing else. -/
def start (foreign : List ℕ) : Vendor where
  files := foreign.foldl (fun v fd => v.add fd .foreign) .empty

/-- **The serial line.** In a run the line that is open is always the one the stack was given, and no
descriptor of other code is closed, if and only if opens and closes are paired. -/
theorem serial_iff (foreign : List ℕ) (ops : List Op) :
    Along (step K) (Ends (step K) Clean) (start foreign) ops ↔
      Along (step K) (Paired K) (start foreign) ops := by
  have hfold : ∀ (l : List ℕ) (v : KeyedVector ℕ File), (∀ fd, v.valueFor fd ≠ some .uart) →
      ∀ fd, (l.foldl (fun v fd => v.add fd .foreign) v).valueFor fd ≠ some .uart := by
    intro l
    induction l with
    | nil => exact fun v hv => hv
    | cons n l ih =>
      refine fun v hv => ih _ fun fd hfd => ?_
      rw [KeyedVector.valueFor_add] at hfd
      split at hfd
      · cases hfd
      · exact hv fd hfd
  have hstart : (start foreign).Inv := by
    refine ⟨⟨fun fd hfd => ?_, fun _ h => nomatch h⟩, fun _ h => nomatch h⟩
    exact absurd hfd (hfold foreign .empty nofun fd)
  exact along_congr (A := fun _ => True) (fun _ op _ h => h.ends_iff op)
    (fun _ _ _ _ h he hs => h.step he hs) hstart fun _ _ => trivial

-- a close before the first open closes the descriptor 0
example : (start [0, 1, 2]).userialClose.log = [.closed 0 .foreign] := by decide

end Vendor

end Msm7x27a.Bt
