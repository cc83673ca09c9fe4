import Msm7x27a.Filter.Tables
import Msm7x27a.Route.Routing

/-!
# `AudioHardware::setParameters`

A string of parameters is parsed outside; what counts of it is the value it has for each key.  The
keys are handled one after the other, and three of them end in `doRouting`.  Outside of a call
`tty_mode` returns early, before `voip_rate` is looked at, so whether a bit rate is stored depends on
what travels with it (`composes_iff`).
-/

namespace Msm7x27a.Route

open Msm7x27a.Audio

/-- A value, as its characters. -/
abbrev Value := List Char

/-- The keys that `setParameters` looks for. -/
inductive Key where
  | bt_headset_nrec | bt_headset_vgs | bt_headset_name | dualmic_enabled | tty_mode | voip_rate
  deriving DecidableEq, Repr

/-- A string of parameters: its length, and the values it has. -/
structure KeyValuePairs where
  length : ℕ
  get : Key → Option Value
  pos : ∀ k v, get k = some v → 0 < length

namespace KeyValuePairs

/-- The string has the key. -/
def Has (p : KeyValuePairs) (k : Key) : Prop := (p.get k).isSome

instance (p : KeyValuePairs) (k : Key) : Decidable (p.Has k) :=
  inferInstanceAs (Decidable ((p.get k).isSome = true))

/-- The strings have no key in common. -/
def Disjoint (a b : KeyValuePairs) : Prop := ∀ k, ¬(a.Has k ∧ b.Has k)

/-- A string of that length with one key. -/
def single (length : ℕ) (k : Key) (value : Value) (h : 0 < length) : KeyValuePairs where
  length := length
  get k' := if k' = k then some value else none
  pos _ _ _ := h

/-- The string `a;b`. -/
def append (a b : KeyValuePairs) : KeyValuePairs where
  length := a.length + 1 + b.length
  get k := (a.get k).or (b.get k)
  pos _ _ _ := Nat.lt_of_lt_of_le (Nat.succ_pos _) (Nat.le_add_right _ _)

end KeyValuePairs

/-! ### Values -/

def BT_NREC_VALUE_ON : Value := ['o', 'n']

/-- `strcasecmp` gives 0. -/
def sameText (a b : Value) : Bool := a.map Char.toLower = b.map Char.toLower

/-- The digits at the front of a text, as a number after `n`. -/
def decValue (n : ℕ) : Value → ℕ
  | [] => n
  | c :: s => if '0' ≤ c && c ≤ '9' then decValue (10 * n + (c.toNat - '0'.toNat)) s else n

/-- `atoi`, where `long` has 32 bits: out of range it gives the nearest bound. -/
def atoi (p : Value) : Int :=
  match p.dropWhile Filter.isSpace with
  | '-' :: s => max (-2147483648) (-decValue 0 s : Int)
  | '+' :: s => min 2147483647 (decValue 0 s : Int)
  | s => min 2147483647 (decValue 0 s : Int)

/-- What `mVoipBitRate` is assigned. -/
def bitRate (value : Value) : ℕ := (atoi value % 4294967296).toNat

def ttyMode (value : Value) : TtyMode :=
  if value = ['f', 'u', 'l', 'l'] then .full
  else if value = ['h', 'c', 'o'] then .hco
  else if value = ['v', 'c', 'o'] then .vco
  else .off

/-! ### The members -/

/-- `msm_snd_endpoint` -/
structure SndEndpoint where
  id : ℕ
  name : Value
  deriving DecidableEq, Repr

/-- The members of `AudioHardware` that `setParameters` works with. -/
structure Hardware where
  state : State
  mBluetoothNrec : Bool := true
  mBluetoothVGS : Bool := false
  mBluetoothId : ℕ := 0
  mSndEndpoints : List SndEndpoint

/-- The id that `bt_headset_name` selects. -/
def bluetoothId (value : Value) (mSndEndpoints : List SndEndpoint) : ℕ :=
  ((mSndEndpoints.find? fun ept => sameText value ept.name).map SndEndpoint.id).getD 0

namespace Hardware

def setBluetoothNrec (p : KeyValuePairs) (d : Hardware) : Hardware :=
  match p.get .bt_headset_nrec with
  | some value => { d with mBluetoothNrec := value = BT_NREC_VALUE_ON }
  | none => d

def setBluetoothVGS (p : KeyValuePairs) (d : Hardware) : Hardware :=
  match p.get .bt_headset_vgs with
  | some value => { d with mBluetoothVGS := value = BT_NREC_VALUE_ON }
  | none => d

/-- `doRouting(NULL)`; `none` stands for `mOutput->devices()` without `mOutput`. -/
def route (E : Env) (a : Answers) (d : Hardware) : Option Hardware :=
  (doRouting E a none 0 d.state).map fun r => { d with state := r.2 }

def setBluetoothName (E : Env) (a : Answers) (p : KeyValuePairs) (d : Hardware) : Option Hardware :=
  match p.get .bt_headset_name with
  | some value =>
    let d := { d with mBluetoothId := bluetoothId value d.mSndEndpoints }
    if d.mBluetoothId = 0 then d.route E a else some d
  | none => some d

def setDualMic (E : Env) (a : Answers) (p : KeyValuePairs) (d : Hardware) : Option Hardware :=
  match p.get .dualmic_enabled with
  | some value =>
    { d with state := { d.state with mDualMicEnabled := value = ['t', 'r', 'u', 'e'] } }.route E a
  | none => some d

def setVoipRate (p : KeyValuePairs) (d : Hardware) : Hardware :=
  match p.get .voip_rate with
  | some value =>
    { d with state := { d.state with hw := { d.state.hw with mVoipBitRate := bitRate value } } }
  | none => d

/-- `setParameters` from `tty_mode` on: outside of a call it returns. -/
def setTtyAndRate (E : Env) (a : Answers) (p : KeyValuePairs) (d : Hardware) : Option Hardware :=
  match p.get .tty_mode with
  | some value =>
    let d := { d with state := { d.state with mTtyMode := ttyMode value } }
    if d.state.hw.mMode ≠ .inCall then some d
    else if d.state.hw.mCurSndDevice = E.e .HEADSET then (d.route E a).map (setVoipRate p)
    else some (d.setVoipRate p)
  | none => some (d.setVoipRate p)

/-- `setParameters`; `w` is what the `doRouting` of each key meets. -/
def setParameters (E : Env) (w : Key → Answers) (p : KeyValuePairs) (d : Hardware) :
    Option (Status × Hardware) :=
  if p.length = 0 then some (badValue, d)
  else
    (setBluetoothName E (w .bt_headset_name) p ((d.setBluetoothNrec p).setBluetoothVGS p)).bind
      fun d => (setDualMic E (w .dualmic_enabled) p d).bind
        fun d => (setTtyAndRate E (w .tty_mode) p d).map fun d => (noError, d)

end Hardware

/-! ### What is left of the parameters -/

/-- The members that the parameters set. -/
@[ext]
structure Fields where
  mBluetoothNrec : Bool
  mBluetoothVGS : Bool
  mBluetoothId : ℕ
  mDualMicEnabled : Bool
  mTtyMode : TtyMode
  mVoipBitRate : ℕ
  deriving DecidableEq, Repr

def Hardware.fields (d : Hardware) : Fields where
  mBluetoothNrec := d.mBluetoothNrec
  mBluetoothVGS := d.mBluetoothVGS
  mBluetoothId := d.mBluetoothId
  mDualMicEnabled := d.state.mDualMicEnabled
  mTtyMode := d.state.mTtyMode
  mVoipBitRate := d.state.hw.mVoipBitRate

/-- What a value, if there is one, makes of a member. -/
def put {β : Type*} (value : Option Value) (g : Value → β) (old : β) : β := (value.map g).getD old

/-- A string with `tty_mode` leaves the bit rate outside of a call. -/
def KeyValuePairs.StopsEarly (p : KeyValuePairs) (mMode : AudioMode) : Prop :=
  p.Has .tty_mode ∧ mMode ≠ .inCall

instance (p : KeyValuePairs) (mMode : AudioMode) : Decidable (p.StopsEarly mMode) :=
  inferInstanceAs (Decidable (p.Has .tty_mode ∧ mMode ≠ .inCall))

/-- What a string makes of the members. -/
def Fields.after (mMode : AudioMode) (mSndEndpoints : List SndEndpoint) (p : KeyValuePairs)
    (f : Fields) : Fields where
  mBluetoothNrec := put (p.get .bt_headset_nrec) (· = BT_NREC_VALUE_ON) f.mBluetoothNrec
  mBluetoothVGS := put (p.get .bt_headset_vgs) (· = BT_NREC_VALUE_ON) f.mBluetoothVGS
  mBluetoothId := put (p.get .bt_headset_name) (bluetoothId · mSndEndpoints) f.mBluetoothId
  mDualMicEnabled := put (p.get .dualmic_enabled) (· = ['t', 'r', 'u', 'e']) f.mDualMicEnabled
  mTtyMode := put (p.get .tty_mode) ttyMode f.mTtyMode
  mVoipBitRate :=
    if p.StopsEarly mMode then f.mVoipBitRate
    else put (p.get .voip_rate) bitRate f.mVoipBitRate

/-- What `setParameters` leaves alone. -/
structure Kept (d d' : Hardware) : Prop where
  mMode : d'.state.hw.mMode = d.state.hw.mMode
  mSndEndpoints : d'.mSndEndpoints = d.mSndEndpoints
  mOutput : d'.state.mOutput = d.state.mOutput

theorem Kept.refl (d : Hardware) : Kept d d := ⟨rfl, rfl, rfl⟩

theorem Kept.trans {a b c : Hardware} (h : Kept a b) (h' : Kept b c) : Kept a c :=
  ⟨h'.mMode.trans h.mMode, h'.mSndEndpoints.trans h.mSndEndpoints, h'.mOutput.trans h.mOutput⟩

namespace Hardware

section Spec

variable {E : Env} {a : Answers} {p : KeyValuePairs} {d : Hardware}

/-- `doRouting` sets none of the members. -/
theorem route_spec (ho : d.state.mOutput.isSome) :
    ∃ d', d.route E a = some d' ∧ d'.fields = d.fields ∧ Kept d d' := by
  obtain ⟨o, ho⟩ := Option.isSome_iff_exists.1 ho
  have hout : d.state.outputDevices 0 = some o.2.mDevices := by
    unfold State.outputDevices
    rw [ho]
    rfl
  have hr : ∀ device, ∀ s : State, (routeTo E a device s).2.mTtyMode = s.mTtyMode ∧
      (routeTo E a device s).2.mDualMicEnabled = s.mDualMicEnabled ∧
      (routeTo E a device s).2.hw.mVoipBitRate = s.hw.mVoipBitRate ∧
      (routeTo E a device s).2.hw.mMode = s.hw.mMode ∧
      (routeTo E a device s).2.mOutput = s.mOutput := by
    intro device s
    unfold routeTo
    split <;> exact ⟨rfl, rfl, rfl, rfl, rfl⟩
  have hs : ∀ input mask, ∀ s : State, (doRoutingOf E a input mask s).2.mTtyMode = s.mTtyMode ∧
      (doRoutingOf E a input mask s).2.mDualMicEnabled = s.mDualMicEnabled ∧
      (doRoutingOf E a input mask s).2.hw.mVoipBitRate = s.hw.mVoipBitRate ∧
      (doRoutingOf E a input mask s).2.hw.mMode = s.hw.mMode ∧
      (doRoutingOf E a input mask s).2.mOutput = s.mOutput := by
    intro input mask s
    unfold doRoutingOf
    split
    · exact ⟨rfl, rfl, rfl, rfl, rfl⟩
    · exact hr _ _
  obtain ⟨htty, hdual, hrate, hmode, hout'⟩ := hs none o.2.mDevices d.state
  refine ⟨{ d with state := (doRoutingOf E a none o.2.mDevices d.state).2 }, ?_, ?_, ?_⟩
  · unfold route doRouting
    rw [hout]
    rfl
  · exact Fields.ext rfl rfl rfl hdual htty hrate
  · exact ⟨hmode, rfl, hout'⟩

theorem setBluetooth_spec (p : KeyValuePairs) (d : Hardware) :
    ((d.setBluetoothNrec p).setBluetoothVGS p).fields =
        { d.fields with
          mBluetoothNrec := put (p.get .bt_headset_nrec) (· = BT_NREC_VALUE_ON) d.fields.mBluetoothNrec
          mBluetoothVGS := put (p.get .bt_headset_vgs) (· = BT_NREC_VALUE_ON) d.fields.mBluetoothVGS } ∧
      Kept d ((d.setBluetoothNrec p).setBluetoothVGS p) := by
  unfold setBluetoothNrec setBluetoothVGS put
  cases p.get .bt_headset_nrec with
  | none => cases p.get .bt_headset_vgs <;> exact ⟨rfl, rfl, rfl, rfl⟩
  | some value => cases p.get .bt_headset_vgs <;> exact ⟨rfl, rfl, rfl, rfl⟩

theorem setBluetoothName_spec (ho : d.state.mOutput.isSome) :
    ∃ d', setBluetoothName E a p d = some d' ∧
      d'.fields = { d.fields with
        mBluetoothId := put (p.get .bt_headset_name) (bluetoothId · d.mSndEndpoints)
          d.fields.mBluetoothId } ∧
      Kept d d' := by
  unfold setBluetoothName put
  cases p.get .bt_headset_name with
  | none => exact ⟨d, rfl, rfl, .refl d⟩
  | some value =>
    dsimp only
    split
    · obtain ⟨d', hd', hf, hk⟩ := route_spec (E := E) (a := a)
        (d := { d with mBluetoothId := bluetoothId value d.mSndEndpoints }) ho
      exact ⟨d', hd', hf, ⟨hk.mMode, hk.mSndEndpoints, hk.mOutput⟩⟩
    · exact ⟨_, rfl, rfl, ⟨rfl, rfl, rfl⟩⟩

theorem setDualMic_spec (ho : d.state.mOutput.isSome) :
    ∃ d', setDualMic E a p d = some d' ∧
      d'.fields = { d.fields with
        mDualMicEnabled :=
          put (p.get .dualmic_enabled) (· = ['t', 'r', 'u', 'e']) d.fields.mDualMicEnabled } ∧
      Kept d d' := by
  unfold setDualMic put
  cases p.get .dualmic_enabled with
  | none => exact ⟨d, rfl, rfl, .refl d⟩
  | some value =>
    obtain ⟨d', hd', hf, hk⟩ := route_spec (E := E) (a := a) (d := { d with
      state := { d.state with mDualMicEnabled := value = ['t', 'r', 'u', 'e'] } }) ho
    exact ⟨d', hd', hf, ⟨hk.mMode, hk.mSndEndpoints, hk.mOutput⟩⟩

theorem setVoipRate_spec (p : KeyValuePairs) (d : Hardware) :
    (d.setVoipRate p).fields =
        { d.fields with mVoipBitRate := put (p.get .voip_rate) bitRate d.fields.mVoipBitRate } ∧
      Kept d (d.setVoipRate p) := by
  unfold setVoipRate put
  cases p.get .voip_rate <;> exact ⟨rfl, rfl, rfl, rfl⟩

theorem setTtyAndRate_spec (ho : d.state.mOutput.isSome) :
    ∃ d', setTtyAndRate E a p d = some d' ∧
      d'.fields = { d.fields with
        mTtyMode := put (p.get .tty_mode) ttyMode d.fields.mTtyMode
        mVoipBitRate :=
          if p.StopsEarly d.state.hw.mMode then d.fields.mVoipBitRate
          else put (p.get .voip_rate) bitRate d.fields.mVoipBitRate } ∧
      Kept d d' := by
  unfold setTtyAndRate
  cases ht : p.get .tty_mode with
  | none =>
    obtain ⟨hf, hk⟩ := setVoipRate_spec p d
    have hstop : ¬p.StopsEarly d.state.hw.mMode := by
      intro h
      have hhas := h.1
      rw [KeyValuePairs.Has, ht] at hhas
      exact Bool.false_ne_true hhas
    rw [if_neg hstop]
    exact ⟨_, rfl, hf, hk⟩
  | some value =>
    have hhas : p.Has .tty_mode := by
      rw [KeyValuePairs.Has, ht]
      rfl
    dsimp only
    by_cases hcall : d.state.hw.mMode = .inCall
    · have hstop : ¬p.StopsEarly d.state.hw.mMode := fun h => h.2 hcall
      rw [if_neg (not_not_intro hcall), if_neg hstop]
      split
      · -- the headset is routed again before the bit rate is set
        obtain ⟨d', hd', hf, hk⟩ := route_spec (E := E) (a := a)
          (d := { d with state := { d.state with mTtyMode := ttyMode value } }) ho
        obtain ⟨hf', hk'⟩ := setVoipRate_spec p d'
        refine ⟨d'.setVoipRate p, ?_, ?_, ?_⟩
        · rw [hd']
          rfl
        · rw [hf', hf]
          rfl
        · exact Kept.trans ⟨hk.mMode, hk.mSndEndpoints, hk.mOutput⟩ hk'
      · obtain ⟨hf, hk⟩ := setVoipRate_spec p
          { d with state := { d.state with mTtyMode := ttyMode value } }
        exact ⟨_, rfl, hf, ⟨hk.mMode, hk.mSndEndpoints, hk.mOutput⟩⟩
    · have hstop : p.StopsEarly d.state.hw.mMode := ⟨hhas, hcall⟩
      rw [if_pos hcall, if_pos hstop]
      exact ⟨_, rfl, rfl, ⟨rfl, rfl, rfl⟩⟩

/-- **What `setParameters` does**, whatever `doRouting` meets. -/
theorem setParameters_spec (w : Key → Answers) (p : KeyValuePairs) (ho : d.state.mOutput.isSome) :
    ∃ status d', setParameters E w p d = some (status, d') ∧
      d'.fields = d.fields.after d.state.hw.mMode d.mSndEndpoints p ∧ Kept d d' := by
  unfold setParameters
  split
  · -- an empty string has no values
    next hlen =>
    have hnone : ∀ k, p.get k = none := by
      intro k
      cases hk : p.get k with
      | none => rfl
      | some v => exact absurd hlen (Nat.ne_of_gt (p.pos k v hk))
    refine ⟨_, _, rfl, ?_, .refl d⟩
    unfold Fields.after put
    simp only [hnone, Option.map_none, Option.getD_none, ite_self]
  · obtain ⟨hf₁, hk₁⟩ := setBluetooth_spec p d
    have ho₁ : ((d.setBluetoothNrec p).setBluetoothVGS p).state.mOutput.isSome := hk₁.mOutput ▸ ho
    obtain ⟨d₂, hd₂, hf₂, hk₂⟩ := setBluetoothName_spec (E := E) (a := w .bt_headset_name) (p := p) ho₁
    have ho₂ : d₂.state.mOutput.isSome := hk₂.mOutput ▸ ho₁
    obtain ⟨d₃, hd₃, hf₃, hk₃⟩ := setDualMic_spec (E := E) (a := w .dualmic_enabled) (p := p) ho₂
    have ho₃ : d₃.state.mOutput.isSome := hk₃.mOutput ▸ ho₂
    obtain ⟨d₄, hd₄, hf₄, hk₄⟩ := setTtyAndRate_spec (E := E) (a := w .tty_mode) (p := p) ho₃
    have hk := (hk₁.trans hk₂).trans hk₃
    refine ⟨noError, d₄, ?_, ?_, hk.trans hk₄⟩
    · rw [hd₂, Option.bind_some, hd₃, Option.bind_some, hd₄]
      rfl
    · rw [hf₄, hf₃, hf₂, hf₁, hk.mMode, hk₁.mSndEndpoints]
      rfl

end Spec

end Hardware

/-! ### Two strings -/

section Compose

variable {mMode : AudioMode} {mSndEndpoints : List SndEndpoint} {a b : KeyValuePairs} {f : Fields}

theorem put_or {β : Type*} {x y : Option Value} (h : ¬(x.isSome ∧ y.isSome)) (g : Value → β)
    (old : β) : put (x.or y) g old = put y g (put x g old) := by
  cases x with
  | none => rfl
  | some v =>
    cases y with
    | none => rfl
    | some v' => exact absurd ⟨rfl, rfl⟩ h

theorem has_append (k : Key) : (a.append b).Has k ↔ a.Has k ∨ b.Has k := by
  unfold KeyValuePairs.Has KeyValuePairs.append
  rw [Option.isSome_or, Bool.or_eq_true]

/-- A value that is there stays, if it is what the member holds. -/
theorem put_eq_self_iff {x : Option Value} (old : ℕ) :
    put x bitRate old = old ↔ ∀ v, x = some v → bitRate v = old := by
  cases x with
  | none => exact iff_of_true rfl fun v h => by cases h
  | some v => exact ⟨fun h v' hv => by cases hv; exact h, fun h => h v rfl⟩

/-- One string has `tty_mode`, and the other one a bit rate. -/
def Parted (a b : KeyValuePairs) (v : Value) : Prop :=
  a.Has .tty_mode ∧ b.get .voip_rate = some v ∨ a.get .voip_rate = some v ∧ b.Has .tty_mode

/-- The bit rate of `a;b` and of `a`, then `b`. -/
theorem rate_append_iff (mSndEndpoints : List SndEndpoint) (hd : a.Disjoint b) :
    (f.after mMode mSndEndpoints (a.append b)).mVoipBitRate =
        ((f.after mMode mSndEndpoints a).after mMode mSndEndpoints b).mVoipBitRate ↔
      (mMode = .inCall ∨ ∀ v, Parted a b v → bitRate v = f.mVoipBitRate) := by
  have hput : put ((a.append b).get .voip_rate) bitRate f.mVoipBitRate =
      put (b.get .voip_rate) bitRate (put (a.get .voip_rate) bitRate f.mVoipBitRate) :=
    put_or (hd .voip_rate) _ _
  have hstops : (a.append b).StopsEarly mMode ↔ a.StopsEarly mMode ∨ b.StopsEarly mMode := by
    unfold KeyValuePairs.StopsEarly
    rw [has_append, or_and_right]
  unfold Fields.after
  dsimp only
  rw [hput]
  by_cases hcall : mMode = .inCall
  · -- in a call neither string stops early
    have hgo : ∀ p : KeyValuePairs, ¬p.StopsEarly mMode := fun p h => h.2 hcall
    rw [if_neg (hgo _), if_neg (hgo _), if_neg (hgo _)]
    exact iff_of_true rfl (.inl hcall)
  · rw [or_iff_right hcall]
    by_cases ha : a.Has .tty_mode
    · have hb : ¬b.Has .tty_mode := fun hb => hd _ ⟨ha, hb⟩
      rw [if_pos (hstops.2 (.inl ⟨ha, hcall⟩)), if_pos (show a.StopsEarly mMode from ⟨ha, hcall⟩),
        if_neg (show ¬b.StopsEarly mMode from fun h => hb h.1), eq_comm, put_eq_self_iff]
      refine forall_congr' fun v => ?_
      have hv : Parted a b v ↔ b.get .voip_rate = some v :=
        (or_iff_left fun h => hb h.2).trans (and_iff_right ha)
      rw [hv]
    · have hva : ¬a.StopsEarly mMode := fun h => ha h.1
      rw [if_neg hva]
      by_cases hb : b.Has .tty_mode
      · rw [if_pos (hstops.2 (.inr ⟨hb, hcall⟩)), if_pos (show b.StopsEarly mMode from ⟨hb, hcall⟩),
          eq_comm, put_eq_self_iff]
        refine forall_congr' fun v => ?_
        have hv : Parted a b v ↔ a.get .voip_rate = some v :=
          (or_iff_right fun h => ha h.1).trans (and_iff_left hb)
        rw [hv]
      · have hvb : ¬b.StopsEarly mMode := fun h => hb h.1
        rw [if_neg hvb, if_neg fun h => (hstops.1 h).elim hva hvb]
        exact iff_of_true rfl fun v h => absurd h (not_or_intro (fun h => ha h.1) fun h => hb h.2)

/-- The other members are set alike. -/
theorem after_append_iff (hd : a.Disjoint b) :
    f.after mMode mSndEndpoints (a.append b) =
        (f.after mMode mSndEndpoints a).after mMode mSndEndpoints b ↔
      (mMode = .inCall ∨ ∀ v, Parted a b v → bitRate v = f.mVoipBitRate) := by
  rw [← rate_append_iff mSndEndpoints hd]
  refine ⟨congrArg Fields.mVoipBitRate, fun h => ?_⟩
  exact Fields.ext (put_or (hd _) _ _) (put_or (hd _) _ _) (put_or (hd _) _ _) (put_or (hd _) _ _)
    (put_or (hd _) _ _) h

/-- **When parameters compose.** With an output open, `a;b` leaves the members as `a` and then `b` do
exactly if there is a call, or no bit rate travels apart from `tty_mode`, except the one that is set. -/
theorem composes_iff {E : Env} {w w₁ w₂ : Key → Answers} {d : Hardware} (hd : a.Disjoint b)
    (ho : d.state.mOutput.isSome) :
    ((d.setParameters E w (a.append b)).map fun r => r.2.fields) =
        ((d.setParameters E w₁ a).bind fun r => r.2.setParameters E w₂ b).map (fun r => r.2.fields) ↔
      (d.state.hw.mMode = .inCall ∨ ∀ v, Parted a b v → bitRate v = d.state.hw.mVoipBitRate) := by
  obtain ⟨_, d₀, h₀, hf₀, -⟩ := Hardware.setParameters_spec (E := E) w (a.append b) ho
  obtain ⟨_, d₁, h₁, hf₁, hk₁⟩ := Hardware.setParameters_spec (E := E) w₁ a ho
  have ho₁ : d₁.state.mOutput.isSome := hk₁.mOutput ▸ ho
  obtain ⟨_, d₂, h₂, hf₂, -⟩ := Hardware.setParameters_spec (E := E) w₂ b ho₁
  rw [h₀, h₁, Option.bind_some, h₂, Option.map_some, Option.map_some, Option.some_inj, hf₀, hf₂, hf₁,
    hk₁.mMode, hk₁.mSndEndpoints]
  exact after_append_iff hd

end Compose

/-- `tty_mode=full` -/
def ttyFull : KeyValuePairs := .single 13 .tty_mode ['f', 'u', 'l', 'l'] (by decide)

/-- `voip_rate=7950` -/
def rate7950 : KeyValuePairs := .single 14 .voip_rate ['7', '9', '5', '0'] (by decide)

/-- An output is open. -/
def anOutput (mMode : AudioMode) : Hardware where
  state := { init 0 none with hw := { mMode := mMode }, mOutput := some (1, {}) }
  mSndEndpoints := []

theorem disjoint_ttyFull_rate7950 : ttyFull.Disjoint rate7950 := by
  rintro k ⟨ha, hb⟩
  cases k with
  | tty_mode => exact Bool.false_ne_true hb
  | _ => exact Bool.false_ne_true ha

theorem composes_in_call :
    (((anOutput .inCall).setParameters Env.plain (fun _ => {}) (ttyFull.append rate7950)).map
        fun r => r.2.fields) =
      (((anOutput .inCall).setParameters Env.plain (fun _ => {}) ttyFull).bind fun r =>
        r.2.setParameters Env.plain (fun _ => {}) rate7950).map (fun r => r.2.fields) :=
  (composes_iff disjoint_ttyFull_rate7950 rfl).2 (.inl rfl)

/-- Outside of a call the bit rate is lost next to `tty_mode`. -/
theorem drops_bit_rate :
    ((anOutput .normal).setParameters Env.plain (fun _ => {}) (ttyFull.append rate7950)).map
        (fun r => r.2.fields) ≠
      (((anOutput .normal).setParameters Env.plain (fun _ => {}) ttyFull).bind fun r =>
        r.2.setParameters Env.plain (fun _ => {}) rate7950).map (fun r => r.2.fields) := by
  decide

end Msm7x27a.Route
