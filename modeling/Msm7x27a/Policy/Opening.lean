import Msm7x27a.Policy.Wiring
import Msm7x27a.Lib.Loops

/-!
# The loop over the profiles of a new device

`checkOutputsForDevice` walks a vector of profiles and takes the profiles out of it whose output
cannot be opened; the index, which is signed, is stepped back then.  `ProfileLoop.turn` is a turn of
that loop as it is written, with the calls of the client interface, and `openProfiles` is shown to be
what it computes.

A duplicating output is opened beside the new output; the client interface opens none if the primary
output is not open.
-/

namespace Msm7x27a.Policy

open Msm7x27a.Audio (Status noError badValue)
open Msm7x27a.Route (Devices)

/-- The calls of the client interface that open or close an output. -/
inductive ClientCall where
  | openOutput (mProfile output : ℕ)
  | openDuplicateOutput (output1 output2 duplicatedOutput : ℕ)
  | closeOutput (output : ℕ)
  deriving DecidableEq, Repr

namespace ClientCall

/-- The outputs that the client interface has open after the call. -/
def apply (opened : Set ℕ) : ClientCall → Set ℕ
  | openOutput _ output => insert output opened
  | openDuplicateOutput _ _ duplicatedOutput => insert duplicatedOutput opened
  | closeOutput output => opened \ {output}

end ClientCall

namespace State

variable {R : Type}

/-- The calls for a profile that has no open output; a call that fails is not one of them. -/
def openCalls (c : Client) (p : ℕ) (s : State R) : List ClientCall :=
  let flags := (s.profile p).mFlags
  if flags.onDemand ∨ c.opens (.output p) = false then []
  else
    let output := c.handle (.output p) s.mOutputs.keys
    if flags.DIRECT then
      if ((s.profile p).query c p).missingParam then [.openOutput p output, .closeOutput output]
      else [.openOutput p output]
    else
      let s := s.addOutput output ((s.profile p).descriptor p (c.config (.output p)))
      if c.opens (.duplicate p) then
        [.openOutput p output,
          .openDuplicateOutput output s.mPrimaryOutput (c.handle (.duplicate p) s.mOutputs.keys)]
      else [.openOutput p output, .closeOutput output]

/-- The calls of the loop over the profiles. -/
def openProfilesCalls (c : Client) : List ℕ → State R → List ClientCall
  | [], _ => []
  | p :: ps, s =>
    if s.isOpen p then openProfilesCalls c ps s
    else s.openCalls c p ++ openProfilesCalls c ps (s.openProfile c p).1

/-- The outputs that are open. -/
def opened (s : State R) : Set ℕ := {o | o ∈ s.mOutputs}

end State

/-- The variables of the loop. -/
structure ProfileLoop (R : Type) where
  profile_index : ℤ := 0
  profiles : SortedVector ℕ
  state : State R
  outputs : SortedVector ℕ
  calls : List ClientCall := []

namespace ProfileLoop

variable {R : Type}

/-- The body of the loop, before the index is stepped. -/
def body (c : Client) (profile : ℕ) (l : ProfileLoop R) : ProfileLoop R :=
  if l.state.isOpen profile then l
  else
    let r := l.state.openProfile c profile
    let l := { l with state := r.1, calls := l.calls ++ l.state.openCalls c profile }
    match r.2 with
    | none =>
      { l with
        profiles := l.profiles.removeAt l.profile_index.toNat
        profile_index := l.profile_index - 1 }
    | some output => { l with outputs := l.outputs.add output }

def next (l : ProfileLoop R) : ProfileLoop R := { l with profile_index := l.profile_index + 1 }

/-- A turn of the loop; there is none from the end of the vector on. -/
def turn (c : Client) (l : ProfileLoop R) : Option (ProfileLoop R) :=
  if l.profile_index < l.profiles.size then
    (l.profiles.get? l.profile_index.toNat).map fun profile => (l.body c profile).next
  else none

end ProfileLoop

namespace State

variable {R : Type}

/-- `checkOutputsForDevice` for a device that is connected, with the loop as it is written: the
status and the variables at the end, if the loop ends in `fuel` turns. -/
def connectLoop (c : Client) (device : Devices) (fuel : ℕ) (s : State R) :
    Option (Status × ProfileLoop R) :=
  let l : ProfileLoop R := {
    profiles := s.profilesFor device
    state := s
    outputs := s.outputsWith fun supported => supported.has device }
  if l.profiles.toList = [] ∧ l.outputs.toList = [] then some (badValue, l)
  else
    (Loops.iterate (ProfileLoop.turn c) fuel l).map fun l =>
      (if l.profiles.toList = [] then badValue else noError, l)

end State

/-! ### The loop ends, and computes `openProfiles` -/

namespace State

variable {R : Type} {c : Client} {s : State R} {p : ℕ} {ps : List ℕ}

theorem openProfilesCalls_open (h : s.isOpen p = true) :
    openProfilesCalls c (p :: ps) s = openProfilesCalls c ps s := by
  rw [openProfilesCalls, if_pos h]

theorem openProfilesCalls_closed (h : s.isOpen p = false) : openProfilesCalls c (p :: ps) s =
    s.openCalls c p ++ openProfilesCalls c ps (s.openProfile c p).1 := by
  rw [openProfilesCalls, if_neg (Bool.eq_false_iff.1 h)]

end State

namespace ProfileLoop

variable {R : Type} {c : Client} {l l' : ProfileLoop R} {p : ℕ}

/-- What is left to do. -/
def measure (l : ProfileLoop R) : ℕ := (l.profiles.size - l.profile_index).toNat

/-- What a turn does: it passes the profile, takes it out, or opens its output. -/
theorem turn_cases (h : l.turn c = some l') (hindex : 0 ≤ l.profile_index) :
    ∃ i p, l.profile_index = (i : ℕ) ∧ l.profiles.get? i = some p ∧
      (l.state.isOpen p = true ∧ l' = { l with profile_index := (i + 1 : ℕ) } ∨
        l.state.isOpen p = false ∧ (l.state.openProfile c p).2 = none ∧
          l' = {
            profile_index := (i : ℕ)
            profiles := l.profiles.removeAt i
            state := (l.state.openProfile c p).1
            outputs := l.outputs
            calls := l.calls ++ l.state.openCalls c p } ∨
        ∃ output, l.state.isOpen p = false ∧ (l.state.openProfile c p).2 = some output ∧
          l' = {
            profile_index := (i + 1 : ℕ)
            profiles := l.profiles
            state := (l.state.openProfile c p).1
            outputs := l.outputs.add output
            calls := l.calls ++ l.state.openCalls c p }) := by
  obtain ⟨i, hi⟩ : ∃ i : ℕ, l.profile_index = i := ⟨_, (Int.toNat_of_nonneg hindex).symm⟩
  unfold turn at h
  split at h
  · obtain ⟨p, hp, rfl⟩ := Option.map_eq_some_iff.1 h
    rw [hi, Int.toNat_natCast] at hp
    refine ⟨i, p, hi, hp, ?_⟩
    unfold body next
    split
    next hopen =>
      refine .inl ⟨hopen, ?_⟩
      rw [hi]
      rfl
    next hopen =>
      rw [Bool.not_eq_true] at hopen
      dsimp only
      cases hopened : (l.state.openProfile c p).2 with
      | none =>
        refine .inr (.inl ⟨hopen, rfl, ?_⟩)
        dsimp only
        rw [hi, Int.toNat_natCast, Int.sub_add_cancel]
      | some output =>
        refine .inr (.inr ⟨output, hopen, rfl, ?_⟩)
        dsimp only
        rw [hi]
        rfl
  · cases h

/-- Every turn leaves less to do, as a profile that is taken out is gone when the index is stepped
back. -/
theorem measure_turn (h : l.turn c = some l') : l'.measure < l.measure := by
  unfold turn at h
  split at h
  next hlt =>
    obtain ⟨p, hp, rfl⟩ := Option.map_eq_some_iff.1 h
    have hsize := SortedVector.size_removeAt (SortedVector.lt_of_get? hp)
    unfold measure next body
    split
    · dsimp only
      omega
    · dsimp only
      split
      · dsimp only
        omega
      · dsimp only
        omega
  next => cases h

/-- What is computed from here on: the state, the outputs, the profiles that are left and the
calls. -/
def finish (c : Client) (l : ProfileLoop R) :
    State R × SortedVector ℕ × List ℕ × List ClientCall :=
  let rest := l.profiles.toList.drop l.profile_index.toNat
  let r := State.openProfiles c rest l.state l.outputs
  (r.1, r.2.1, l.profiles.toList.take l.profile_index.toNat ++ r.2.2,
    l.calls ++ State.openProfilesCalls c rest l.state)

theorem finish_of (done rest : List ℕ) (hprofiles : l.profiles.toList = done ++ rest)
    (hindex : l.profile_index = done.length) :
    l.finish c = ((State.openProfiles c rest l.state l.outputs).1,
      (State.openProfiles c rest l.state l.outputs).2.1,
      done ++ (State.openProfiles c rest l.state l.outputs).2.2,
      l.calls ++ State.openProfilesCalls c rest l.state) := by
  unfold finish
  rw [hindex, Int.toNat_natCast, hprofiles, List.drop_left, List.take_left]

/-- A turn does what was to be done first. -/
theorem finish_turn (hindex : 0 ≤ l.profile_index) (h : l.turn c = some l') :
    0 ≤ l'.profile_index ∧ l'.finish c = l.finish c := by
  obtain ⟨i, p, hi, hp, hcases⟩ := turn_cases h hindex
  obtain ⟨done, rest, hprofiles, rfl⟩ := SortedVector.split_of_get? hp
  rw [finish_of _ _ hprofiles hi]
  rcases hcases with ⟨hopen, rfl⟩ | ⟨hopen, hnone, rfl⟩ | ⟨output, hopen, hsome, rfl⟩
  · refine ⟨Int.natCast_nonneg _, ?_⟩
    rw [finish_of (done ++ [p]) rest (by simpa using hprofiles) (by simp),
      State.openProfiles_open hopen, State.openProfilesCalls_open hopen, List.append_assoc]
    rfl
  · refine ⟨Int.natCast_nonneg _, ?_⟩
    have herase := SortedVector.toList_removeAt hprofiles
    rw [finish_of done rest herase rfl, State.openProfiles_none hopen hnone,
      State.openProfilesCalls_closed hopen, List.append_assoc]
  · refine ⟨Int.natCast_nonneg _, ?_⟩
    rw [finish_of (done ++ [p]) rest (by simpa using hprofiles) (by simp),
      State.openProfiles_some hopen hsome, State.openProfilesCalls_closed hopen, List.append_assoc,
      List.append_assoc]
    rfl

/-- Nothing is left to do where there is no turn. -/
theorem finish_end (hindex : 0 ≤ l.profile_index) (h : l.turn c = none) :
    l.finish c = (l.state, l.outputs, l.profiles.toList, l.calls) := by
  have hsize : (l.profiles.size : ℤ) ≤ l.profile_index := by
    by_contra hlt
    rw [not_le] at hlt
    have hnat : l.profile_index.toNat < l.profiles.size := by omega
    obtain ⟨p, hp⟩ := SortedVector.get?_of_lt hnat
    unfold turn at h
    rw [if_pos hlt, hp] at h
    cases h
  have hlength : l.profiles.toList.length ≤ l.profile_index.toNat := by
    unfold SortedVector.size at hsize
    omega
  unfold finish
  rw [List.drop_eq_nil_of_le hlength, List.take_of_length_le hlength]
  simp only [State.openProfiles, State.openProfilesCalls, List.append_nil]

/-- **The loop.** It ends in at most one turn more than there are profiles, and computes what the
recursion over the profiles does. -/
theorem iterate_turn (hindex : l.profile_index = 0) : ∃ l' : ProfileLoop R,
    (∀ fuel, l.profiles.size < fuel → Loops.iterate (turn c) fuel l = some l') ∧
      l.finish c = (l'.state, l'.outputs, l'.profiles.toList, l'.calls) := by
  have hmeasure : l.measure = l.profiles.size := by
    unfold measure
    rw [hindex, Int.sub_zero, Int.toNat_natCast]
  have hless : l.measure < l.profiles.size + 1 := by omega
  obtain ⟨l', hl'⟩ := Loops.iterate_of_measure measure (fun _ _ => measure_turn (c := c)) hless
  refine ⟨l', fun fuel hfuel => Loops.iterate_mono hfuel hl', ?_⟩
  have hinv : ∀ x y : ProfileLoop R, 0 ≤ x.profile_index ∧ x.finish c = l.finish c →
      x.turn c = some y → 0 ≤ y.profile_index ∧ y.finish c = l.finish c := by
    rintro x y ⟨hx, hfinish⟩ hturn
    obtain ⟨hy, hsame⟩ := finish_turn hx hturn
    exact ⟨hy, hsame.trans hfinish⟩
  obtain ⟨⟨hend, hfinish⟩, hnone⟩ := Loops.iterate_inv hinv ⟨hindex.ge, rfl⟩ hl'
  rw [← hfinish, finish_end hend hnone]

end ProfileLoop

namespace State

variable {R : Type} {s : State R} {c : Client} {device : Devices}

/-- The calls of `checkOutputsForDevice` for a device that is connected. -/
def connectCalls (c : Client) (device : Devices) (s : State R) : List ClientCall :=
  openProfilesCalls c (s.profilesFor device).toList s

/-- **The check as it is written** ends, and does what `connectOutputs` does. -/
theorem connectLoop_eq (c : Client) (device : Devices) (s : State R) : ∃ l : ProfileLoop R,
    (∀ fuel, (s.profilesFor device).size < fuel →
      s.connectLoop c device fuel = some ((s.connectOutputs c device).1, l)) ∧
    l.state = (s.connectOutputs c device).2.1 ∧ l.outputs = (s.connectOutputs c device).2.2 ∧
    l.calls = s.connectCalls c device := by
  unfold connectLoop connectOutputs connectCalls
  dsimp only
  split
  next hnone =>
    refine ⟨_, fun _ _ => rfl, rfl, rfl, ?_⟩
    rw [hnone.1]
    rfl
  next hsome =>
    obtain ⟨l, hl, hfinish⟩ := ProfileLoop.iterate_turn (c := c) (l := {
      profiles := s.profilesFor device
      state := s
      outputs := s.outputsWith fun supported => supported.has device }) rfl
    rw [ProfileLoop.finish_of [] (s.profilesFor device).toList rfl rfl] at hfinish
    obtain ⟨hstate, houtputs, hprofiles, hcalls⟩ : _ ∧ _ ∧ _ ∧ _ := by simpa using hfinish
    refine ⟨l, fun fuel hfuel => ?_, hstate.symm, houtputs.symm, hcalls.symm⟩
    rw [hl fuel hfuel, hprofiles]
    rfl

end State

end Msm7x27a.Policy
