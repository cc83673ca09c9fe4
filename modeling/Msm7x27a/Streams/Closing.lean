import Msm7x27a.Lib.Runs
import Msm7x27a.Streams.Registry

/-!
# Closing input streams concurrently

`closeInputStream` looks up the place of its stream with `mLock` held, gives the lock up to delete
`mInputs[index]`, takes it again and removes the place `index`.  Other calls may have added and
removed streams in between.  The steps of a run are the sections with `mLock` held and the deletion
between them, of any number of calls.

`Undisturbed` is the condition that the places a call works with are those of its own stream; in a
run whose steps all meet it every close deletes its stream and the vectors keep the others.
-/

namespace Msm7x27a.Streams

open List (Perm)
open scoped List

/-- A call of `closeInputStream` that has found the place of its stream: in `mVoipInputs` or in
`mInputs`.  It has yet to delete the stream or, after that, to remove the place. -/
structure Closer where
  inp : ℕ
  voip : Bool
  index : ℕ
  deleted : Bool := false
  deriving DecidableEq, Repr

/-- The stream, and the vector its place is in. -/
def Closer.key (c : Closer) : Bool × ℕ := (c.voip, c.inp)

structure Shared where
  mInputs : SortedVector ℕ
  mVoipInputs : SortedVector ℕ
  /-- The streams that are open, VoIP streams marked. -/
  opened : List (Bool × ℕ)
  closing : List Closer := []
  /-- What has been deleted; `none` is what lies behind the end of a vector. -/
  deleted : List (Option ℕ) := []
  /-- The streams whose close is past the deletion. -/
  passed : List ℕ := []
  /-- Every `removeAt` so far was in range. -/
  inRange : Bool := true
  deriving DecidableEq

namespace Shared

def vector (s : Shared) (voip : Bool) : SortedVector ℕ := if voip then s.mVoipInputs else s.mInputs

def setVector (s : Shared) (voip : Bool) (v : SortedVector ℕ) : Shared :=
  if voip then { s with mVoipInputs := v } else { s with mInputs := v }

/-- A living object has the address. -/
def Live (s : Shared) (p : ℕ) : Prop :=
  (false, p) ∈ s.opened ∨ (true, p) ∈ s.opened ∨ ∃ c ∈ s.closing, c.inp = p ∧ c.deleted = false

instance (s : Shared) (p : ℕ) : Decidable (s.Live p) := by unfold Live; infer_instance

/-- The section of `openInputStream` that adds the new stream. -/
def openInputStream (voip : Bool) (inp : ℕ) (s : Shared) : Shared :=
  { s.setVector voip ((s.vector voip).add inp) with opened := (voip, inp) :: s.opened }

/-- The first section of `closeInputStream`; a stream that is not found is refused. -/
def findInput (voip : Bool) (inp : ℕ) (s : Shared) : Shared :=
  let s := { s with opened := s.opened.erase (voip, inp) }
  match s.mInputs.indexOf inp with
  | some index => { s with closing := ⟨inp, false, index, false⟩ :: s.closing }
  | none =>
    match s.mVoipInputs.indexOf inp with
    | some index => { s with closing := ⟨inp, true, index, false⟩ :: s.closing }
    | none => { s with passed := inp :: s.passed }

/-- `delete mInputs[index]`, without the lock. -/
def deleteInput (c : Closer) (s : Shared) : Shared :=
  { s with
    closing := { c with deleted := true } :: s.closing.erase c
    deleted := (s.vector c.voip).get? c.index :: s.deleted
    passed := c.inp :: s.passed }

/-- The last section of `closeInputStream`. -/
def removeInput (c : Closer) (s : Shared) : Shared :=
  { s.setVector c.voip ((s.vector c.voip).removeAt c.index) with
    closing := s.closing.erase c
    inRange := s.inRange && decide (c.index < (s.vector c.voip).size) }

end Shared

/-- A step of one of the calls. -/
inductive ClosingOp where
  | openInput (voip : Bool) (inp : ℕ)
  | find (voip : Bool) (inp : ℕ)
  | delete (c : Closer)
  | remove (c : Closer)
  deriving DecidableEq, Repr

/-- One step; `none` if no call is at that point: only an open stream is closed, and once. -/
def closingStep (s : Shared) : ClosingOp → Option Shared
  | .openInput voip inp => if s.Live inp then none else some (s.openInputStream voip inp)
  | .find voip inp => if (voip, inp) ∈ s.opened then some (s.findInput voip inp) else none
  | .delete c => if c ∈ s.closing ∧ c.deleted = false then some (s.deleteInput c) else none
  | .remove c => if c ∈ s.closing ∧ c.deleted = true then some (s.removeInput c) else none

/-- The streams that are open at first, and no call. -/
def openStreams (inputs voips : SortedVector ℕ) : Shared where
  mInputs := inputs
  mVoipInputs := voips
  opened := inputs.toList.map (false, ·) ++ voips.toList.map (true, ·)

/-! ### The property and the condition -/

/-- The closes past the deletion have deleted their streams and nothing else, every removal was in
range, and with no close under way the vectors are the open streams. -/
structure ClosedOnce (s : Shared) : Prop where
  deleted : s.deleted.Perm (s.passed.map some)
  inRange : s.inRange = true
  rest : s.closing = [] → ∀ voip p, p ∈ s.vector voip ↔ (voip, p) ∈ s.opened

/-- A call works with the place of its own stream: when it deletes and when it removes, its stream is
still at the place it found, and neither an open nor the lookup of a VoIP stream meets a stale entry
with the address of its stream. -/
def Undisturbed (s : Shared) : ClosingOp → Prop
  | .openInput voip inp => inp ∉ s.vector voip
  | .find voip inp => voip = true → inp ∉ s.mInputs
  | .delete c | .remove c => (s.vector c.voip).get? c.index = some c.inp

instance (s : Shared) : DecidablePred (Undisturbed s)
  | .openInput .. => inferInstanceAs (Decidable (¬_))
  | .find .. => inferInstanceAs (Decidable (_ → _))
  | .delete _ | .remove _ => inferInstanceAs (Decidable (_ = _))

/-! ### The invariant -/

structure ClosingInv (s : Shared) : Prop where
  deleted : s.deleted.Perm (s.passed.map some)
  inRange : s.inRange = true
  /-- A vector holds the open streams and those whose place is yet to be removed. -/
  vector : ∀ voip p, p ∈ s.vector voip ↔ (voip, p) ∈ s.opened ∨ (voip, p) ∈ s.closing.map Closer.key
  once : (s.opened ++ s.closing.map Closer.key).Nodup

theorem ClosingInv.closedOnce {s : Shared} (h : ClosingInv s) : ClosedOnce s where
  deleted := h.deleted
  inRange := h.inRange
  rest hc voip p := by simpa [hc] using h.vector voip p

namespace Shared

@[simp] theorem vector_setVector (s : Shared) (voip b : Bool) (v : SortedVector ℕ) :
    (s.setVector voip v).vector b = if b = voip then v else s.vector b := by
  cases voip <;> cases b <;> rfl

@[simp] theorem setVector_closing (s : Shared) (voip : Bool) (v : SortedVector ℕ) :
    (s.setVector voip v).closing = s.closing := by
  cases voip <;> rfl

@[simp] theorem setVector_deleted (s : Shared) (voip : Bool) (v : SortedVector ℕ) :
    (s.setVector voip v).deleted = s.deleted := by
  cases voip <;> rfl

theorem removeInput_opened (c : Closer) (s : Shared) : (s.removeInput c).opened = s.opened := by
  unfold removeInput setVector
  split <;> rfl

@[simp] theorem setVector_passed (s : Shared) (voip : Bool) (v : SortedVector ℕ) :
    (s.setVector voip v).passed = s.passed := by
  cases voip <;> rfl

end Shared

theorem mem_openStreams {inputs voips : SortedVector ℕ} {voip : Bool} {p : ℕ} :
    (voip, p) ∈ (openStreams inputs voips).opened ↔ p ∈ (openStreams inputs voips).vector voip := by
  cases voip <;> simp [openStreams, Shared.vector, SortedVector.mem_def]

theorem inv_openStreams (inputs voips : SortedVector ℕ) : ClosingInv (openStreams inputs voips) where
  deleted := .refl _
  inRange := rfl
  vector voip p := by
    rw [← mem_openStreams]
    simp [openStreams]
  once := by
    have h1 : (inputs.toList.map (false, ·)).Nodup := inputs.nodup.map fun _ _ e => by simpa using e
    have h2 : (voips.toList.map (true, ·)).Nodup := voips.nodup.map fun _ _ e => by simpa using e
    simpa [openStreams] using List.Nodup.append h1 h2 (by simp [List.disjoint_left])

section Steps

variable {s : Shared} {voip : Bool} {p : ℕ} {c : Closer}

theorem ClosingInv.openInput (h : ClosingInv s) (hp : p ∉ s.vector voip) :
    ClosingInv (s.openInputStream voip p) where
  deleted := by simpa [Shared.openInputStream] using h.deleted
  inRange := by
    cases voip <;> exact h.inRange
  vector b q := by
    show q ∈ (s.setVector voip ((s.vector voip).add p)).vector b ↔ _
    rw [Shared.vector_setVector]
    have hq := h.vector b q
    by_cases hb : b = voip
    · subst hb
      simp [Shared.openInputStream, hq, or_assoc]
    · simp [Shared.openInputStream, hq, hb]
  once := by
    have hnot := (h.vector voip p).not.1 hp
    have hnd : ((voip, p) :: (s.opened ++ s.closing.map Closer.key)).Nodup :=
      List.nodup_cons.2 ⟨fun hm => hnot (List.mem_append.1 hm), h.once⟩
    simpa [Shared.openInputStream] using hnd

/-- A close of an open stream starts: the stream changes from the open ones to those in the calls. -/
theorem ClosingInv.start (h : ClosingInv s) (ho : (voip, p) ∈ s.opened) (index : ℕ) :
    ClosingInv { s with
      opened := s.opened.erase (voip, p), closing := ⟨p, voip, index, false⟩ :: s.closing } where
  deleted := h.deleted
  inRange := h.inRange
  vector b q := by
    refine (h.vector b q).trans ?_
    have hnd := (List.nodup_append.1 h.once).1
    simp only [List.map_cons, List.mem_cons, hnd.mem_erase_iff]
    by_cases e : (b, q) = (voip, p)
    · simp [e, ho, Closer.key]
    · simp [e, Closer.key]
  once := by
    have hperm := (List.perm_cons_erase ho).append_right (s.closing.map Closer.key)
    exact (List.perm_middle.nodup_iff).2 (hperm.nodup_iff.1 h.once)

theorem ClosingInv.find (h : ClosingInv s) (ho : (voip, p) ∈ s.opened)
    (hp : voip = true → p ∉ s.mInputs) : ClosingInv (s.findInput voip p) := by
  have hmem : p ∈ s.vector voip := (h.vector voip p).2 (.inl ho)
  unfold Shared.findInput
  dsimp only
  split
  next index hi =>
    cases voip with
    | false => exact h.start ho index
    | true => exact absurd (SortedVector.mem_of_indexOf hi) (hp rfl)
  next hi =>
    have hnot := SortedVector.indexOf_eq_none.1 hi
    cases voip with
    | false => exact absurd hmem hnot
    | true =>
      split
      next index hv => exact h.start ho index
      next hv => exact absurd hmem (SortedVector.indexOf_eq_none.1 hv)

theorem ClosingInv.delete (h : ClosingInv s) (hc : c ∈ s.closing)
    (hp : (s.vector c.voip).get? c.index = some c.inp) : ClosingInv (s.deleteInput c) := by
  have hkeys : (s.deleteInput c).closing.map Closer.key ~ s.closing.map Closer.key :=
    ((List.perm_cons_erase hc).map Closer.key).symm
  constructor
  · show ((s.vector c.voip).get? c.index :: s.deleted).Perm (some c.inp :: s.passed.map some)
    rw [hp]
    exact h.deleted.cons _
  · exact h.inRange
  · intro b q
    rw [hkeys.mem_iff]
    exact h.vector b q
  · exact ((hkeys.append_left _).nodup_iff).2 h.once

theorem ClosingInv.remove (h : ClosingInv s) (hc : c ∈ s.closing)
    (hp : (s.vector c.voip).get? c.index = some c.inp) : ClosingInv (s.removeInput c) := by
  have hkeys : s.closing.map Closer.key ~ c.key :: (s.closing.erase c).map Closer.key :=
    (List.perm_cons_erase hc).map Closer.key
  have honce : (c.key :: (s.opened ++ (s.closing.erase c).map Closer.key)).Nodup :=
    (List.perm_middle.nodup_iff).1 (((hkeys.append_left _).nodup_iff).1 h.once)
  obtain ⟨hnot, hrest⟩ := List.nodup_cons.1 honce
  constructor
  · simpa [Shared.removeInput] using h.deleted
  · have hlt : c.index < (s.vector c.voip).size := SortedVector.lt_of_get? hp
    simp [Shared.removeInput, h.inRange, hlt]
  · intro b q
    show q ∈ (s.setVector c.voip ((s.vector c.voip).removeAt c.index)).vector b ↔ _
    have hq := h.vector b q
    rw [hkeys.mem_iff, List.mem_cons] at hq
    rw [Shared.vector_setVector, Shared.removeInput_opened]
    show _ ↔ (b, q) ∈ s.opened ∨ (b, q) ∈ (s.closing.erase c).map Closer.key
    have hkey : (b, q) = c.key → ¬((b, q) ∈ s.opened ∨ (b, q) ∈ (s.closing.erase c).map Closer.key) := by
      intro e
      rw [e]
      exact fun hm => hnot (List.mem_append.2 hm)
    by_cases hb : b = c.voip
    · subst hb
      rw [if_pos rfl, SortedVector.mem_removeAt hp, hq]
      have he : (c.voip, q) = c.key ↔ q = c.inp := by simp [Closer.key]
      rw [he] at hkey ⊢
      constructor
      · rintro ⟨hin | hinp | hin, hne⟩
        · exact .inl hin
        · exact absurd hinp hne
        · exact .inr hin
      · exact fun hin => ⟨hin.imp_right .inr, fun e => hkey e hin⟩
    · have hne : (b, q) ≠ c.key := fun e => hb (congrArg Prod.fst e)
      rw [if_neg hb, hq, or_iff_right hne]
  · rw [Shared.removeInput_opened]
    exact hrest

theorem closing_step {s' : Shared} {op : ClosingOp} (h : ClosingInv s) (hu : Undisturbed s op)
    (hs : closingStep s op = some s') : ClosingInv s' := by
  cases op with
  | openInput voip p =>
    simp only [closingStep] at hs
    split at hs
    · cases hs
    · obtain rfl := Option.some.inj hs
      exact h.openInput hu
  | find voip p =>
    simp only [closingStep] at hs
    split at hs
    next ho =>
      obtain rfl := Option.some.inj hs
      exact h.find ho hu
    next => cases hs
  | delete c =>
    simp only [closingStep] at hs
    split at hs
    next hc =>
      obtain rfl := Option.some.inj hs
      exact h.delete hc.1 hu
    next => cases hs
  | remove c =>
    simp only [closingStep] at hs
    split at hs
    next hc =>
      obtain rfl := Option.some.inj hs
      exact h.remove hc.1 hu
    next => cases hs

end Steps

/-- **Concurrent closes.** In a run whose steps are all undisturbed each closed stream is deleted
once, no other is, and the vectors end as the streams still open. -/
theorem closed_once {inputs voips : SortedVector ℕ} {ops : List ClosingOp} {s : Shared}
    (hr : Runs.run closingStep (openStreams inputs voips) ops = some s)
    (hu : Runs.Along closingStep Undisturbed (openStreams inputs voips) ops) : ClosedOnce s := by
  refine ClosingInv.closedOnce ?_
  refine Runs.run_inv (C := Undisturbed) (I := ClosingInv) ?_ (inv_openStreams inputs voips) hu hr
  intro s op s' h hu hs
  exact closing_step h hu hs

/-- Three VoIP inputs are opened. -/
def threeVoips : List ClosingOp := [.openInput true 1, .openInput true 2, .openInput true 3]

/-- Two closes overlap, the one of the later stream first, and a stream is opened behind them. -/
def overlapping : List ClosingOp :=
  threeVoips ++ [.find true 1, .find true 3, .delete ⟨3, true, 2, false⟩, .remove ⟨3, true, 2, true⟩,
    .openInput true 4, .delete ⟨1, true, 0, false⟩, .remove ⟨1, true, 0, true⟩]

theorem closed_once_overlapping : ∃ s,
    Runs.run closingStep (openStreams .empty .empty) overlapping = some s ∧ ClosedOnce s := by
  have h : ∃ s, Runs.run closingStep (openStreams .empty .empty) overlapping = some s ∧
      Runs.Along closingStep Undisturbed (openStreams .empty .empty) overlapping :=
    Runs.exists_run (by decide +kernel)
  obtain ⟨s, hr, hu⟩ := h
  exact ⟨s, hr, closed_once hr hu⟩

/-- The streams 1 and 2 of three are closed; the close of 1 ends while that of 2 has its place. -/
def behindAnother : List ClosingOp :=
  threeVoips ++ [.find true 1, .find true 2, .delete ⟨1, true, 0, false⟩, .remove ⟨1, true, 0, true⟩,
    .delete ⟨2, true, 1, false⟩, .remove ⟨2, true, 1, true⟩]

/-- The second close deletes stream 3. -/
theorem deletes_other : ∃ s,
    Runs.run closingStep (openStreams .empty .empty) behindAnother = some s ∧ ¬ClosedOnce s := by
  have h : ∃ s, Runs.run closingStep (openStreams .empty .empty) behindAnother = some s ∧
      ¬s.deleted.Perm (s.passed.map some) := Runs.exists_run (by decide +kernel)
  obtain ⟨s, hr, hne⟩ := h
  exact ⟨s, hr, fun hc => hne hc.deleted⟩

end Msm7x27a.Streams
