import Mathlib.Data.List.DropRight
import Mathlib.Tactic.Common

/-!
# Unsolicited responses

`processUnsolicited`, as far as it keeps what no registrant has been there for: the NITZ time and the
proactive commands of the SIM toolkit.  The listener for the latter is set by `setOnCatProactiveCmd`,
that for the former by code of the base class.
-/

namespace Msm7x27a.Ril

abbrev JString := List Char

/-- What a registrant is given as the result. -/
inductive Payload where
  | string (s : JString)
  | pair (nitz : JString) (nitzReceiveTime : Int)
  deriving DecidableEq, Repr

/-- A handler is notified. -/
structure Notice (Handler : Type) where
  handler : Handler
  payload : Payload
  deriving DecidableEq, Repr

/-- The registrants, and what is kept for them. -/
structure RilState (Handler : Type) where
  mNITZTimeRegistrant : Option Handler := none
  mLastNITZTimeInfo : Option Payload := none
  mCatProCmdRegistrant : Option Handler := none
  mCatProCmdBuffer : Option JString := none
  deriving DecidableEq, Repr

/-- The responses that are handled here, with what is read from the parcel. -/
inductive Unsolicited where
  | nitzTimeReceived (ret : JString) (nitzReceiveTime : Int)
  | stkProactiveCommand (ret : JString)
  deriving DecidableEq, Repr

/-! ### NITZ -/

/-- A character of `[/:,+-]`. -/
def isSeparator (c : Char) : Bool := c ∈ ['/', ':', ',', '+', '-']

/-- `split`: without a separator the string itself, otherwise the parts less the empty ones at the
end. -/
def split (s : JString) : List JString :=
  if s.any isSeparator then (s.splitOnP isSeparator).rdropWhile List.isEmpty else [s]

def lastIndexOf (c : Char) (s : JString) : Option ℕ :=
  (s.reverse.idxOf? c).map fun i => s.length - 1 - i

/-- A string of nine parts or more ends before its last comma; `none` is the exception of
`substring`. -/
def strip (nitz : JString) : Option JString :=
  if 9 ≤ (split nitz).length then (lastIndexOf ',' nitz).map fun i => nitz.take i else some nitz

section Model

variable {Handler : Type}

/-- The state and the notices; `none` is an exception. -/
def processUnsolicited (response : Unsolicited) (s : RilState Handler) :
    Option (RilState Handler × List (Notice Handler)) :=
  match response with
  | .nitzTimeReceived ret nitzReceiveTime =>
    (strip ret).map fun nitz =>
      match s.mNITZTimeRegistrant with
      | some h => (s, [⟨h, .pair nitz nitzReceiveTime⟩])
      | none => ({ s with mLastNITZTimeInfo := some (.string nitz) }, [])
  | .stkProactiveCommand ret =>
    match s.mCatProCmdRegistrant with
    | some h => some (s, [⟨h, .string ret⟩])
    | none => some ({ s with mCatProCmdBuffer := some ret }, [])

def setOnCatProactiveCmd (h : Handler) (s : RilState Handler) :
    RilState Handler × List (Notice Handler) :=
  let s := { s with mCatProCmdRegistrant := some h }
  match s.mCatProCmdBuffer with
  | some ret => ({ s with mCatProCmdBuffer := none }, [⟨h, .string ret⟩])
  | none => (s, [])

/-- The base class sets the listener for the NITZ time, and gives it what has been kept. -/
structure SetsListener
    (setOnNITZTime : Handler → RilState Handler → RilState Handler × List (Notice Handler)) :
    Prop where
  registrant : ∀ h s, (setOnNITZTime h s).1.mNITZTimeRegistrant = some h
  notices : ∀ h s, (setOnNITZTime h s).2 = s.mLastNITZTimeInfo.toList.map (⟨h, ·⟩)

variable {setOnNITZTime : Handler → RilState Handler → RilState Handler × List (Notice Handler)}
  {h : Handler} {s : RilState Handler} {nitz stripped : JString} {nitzReceiveTime : Int}

/-- The notices for a listener that is set before the message. -/
def earlyNotices
    (setOnNITZTime : Handler → RilState Handler → RilState Handler × List (Notice Handler))
    (h : Handler) (nitz : JString) (nitzReceiveTime : Int) (s : RilState Handler) :
    Option (List (Notice Handler)) :=
  (processUnsolicited (.nitzTimeReceived nitz nitzReceiveTime) (setOnNITZTime h s).1).map fun r =>
    (setOnNITZTime h s).2 ++ r.2

/-- The notices for a listener that is set after it. -/
def lateNotices
    (setOnNITZTime : Handler → RilState Handler → RilState Handler × List (Notice Handler))
    (h : Handler) (nitz : JString) (nitzReceiveTime : Int) (s : RilState Handler) :
    Option (List (Notice Handler)) :=
  (processUnsolicited (.nitzTimeReceived nitz nitzReceiveTime) s).map fun r =>
    r.2 ++ (setOnNITZTime h r.1).2

/-- The listener is given the string and the time, before or after. -/
def SameNitz
    (setOnNITZTime : Handler → RilState Handler → RilState Handler × List (Notice Handler))
    (h : Handler) (nitz : JString) (nitzReceiveTime : Int) (s : RilState Handler) : Prop :=
  ∃ stripped, strip nitz = some stripped ∧
    earlyNotices setOnNITZTime h nitz nitzReceiveTime s =
      some [⟨h, .pair stripped nitzReceiveTime⟩] ∧
    lateNotices setOnNITZTime h nitz nitzReceiveTime s =
      some [⟨h, .pair stripped nitzReceiveTime⟩]

theorem processUnsolicited_nitz (nitzReceiveTime : Int) (s : RilState Handler)
    (hstrip : strip nitz = some stripped) :
    processUnsolicited (.nitzTimeReceived nitz nitzReceiveTime) s =
      some (match s.mNITZTimeRegistrant with
        | some h => (s, [⟨h, .pair stripped nitzReceiveTime⟩])
        | none => ({ s with mLastNITZTimeInfo := some (.string stripped) }, [])) :=
  congrArg (Option.map _) hstrip

theorem earlyNotices_eq (h : Handler) (nitzReceiveTime : Int) (hset : SetsListener setOnNITZTime)
    (hs : s.mLastNITZTimeInfo = none) (hstrip : strip nitz = some stripped) :
    earlyNotices setOnNITZTime h nitz nitzReceiveTime s =
      some [⟨h, .pair stripped nitzReceiveTime⟩] := by
  unfold earlyNotices
  rw [processUnsolicited_nitz _ _ hstrip, hset.registrant, hset.notices, hs]
  rfl

theorem lateNotices_eq (h : Handler) (nitzReceiveTime : Int) (hset : SetsListener setOnNITZTime)
    (hs : s.mNITZTimeRegistrant = none) (hstrip : strip nitz = some stripped) :
    lateNotices setOnNITZTime h nitz nitzReceiveTime s = some [⟨h, .string stripped⟩] := by
  unfold lateNotices
  rw [processUnsolicited_nitz _ _ hstrip, hs, Option.map_some, hset.notices]
  rfl

/-- **The NITZ time.** A listener that is set late is given the string alone, without the time. -/
theorem nitz_late (hset : SetsListener setOnNITZTime) (hs : s.mNITZTimeRegistrant = none)
    (hinfo : s.mLastNITZTimeInfo = none) (hstrip : strip nitz = some stripped) :
    earlyNotices setOnNITZTime h nitz nitzReceiveTime s =
        some [⟨h, .pair stripped nitzReceiveTime⟩] ∧
      lateNotices setOnNITZTime h nitz nitzReceiveTime s = some [⟨h, .string stripped⟩] ∧
      ¬SameNitz setOnNITZTime h nitz nitzReceiveTime s := by
  have hlate := lateNotices_eq h nitzReceiveTime hset hs hstrip
  refine ⟨earlyNotices_eq h nitzReceiveTime hset hinfo hstrip, hlate, ?_⟩
  rintro ⟨stripped', -, -, hsame⟩
  rw [hlate] at hsame
  cases hsame

/-- The listener is set and given what is kept, which is then forgotten. -/
def plainSetOnNITZTime (h : Handler) (s : RilState Handler) :
    RilState Handler × List (Notice Handler) :=
  ({ s with mNITZTimeRegistrant := some h, mLastNITZTimeInfo := none },
    s.mLastNITZTimeInfo.toList.map (⟨h, ·⟩))

theorem setsListener_plain : SetsListener (@plainSetOnNITZTime Handler) :=
  ⟨fun _ _ => rfl, fun _ _ => rfl⟩

/-- A string of ten parts, which is stripped. -/
theorem nitz_late_plain :
    earlyNotices plainSetOnNITZTime "phone" "10/06/21,20:31:54+8,0,45,6".toList 100 {} =
        some [⟨"phone", .pair "10/06/21,20:31:54+8,0,45".toList 100⟩] ∧
      lateNotices plainSetOnNITZTime "phone" "10/06/21,20:31:54+8,0,45,6".toList 100 {} =
        some [⟨"phone", .string "10/06/21,20:31:54+8,0,45".toList⟩] ∧
      ¬SameNitz plainSetOnNITZTime "phone" "10/06/21,20:31:54+8,0,45,6".toList 100 {} :=
  nitz_late setsListener_plain rfl rfl (by decide)

/-- A standard string, of eight parts: the listener that comes late is not given the time. -/
theorem nitz_without_time :
    strip "10/06/21,20:31:54+8,0".toList = some "10/06/21,20:31:54+8,0".toList ∧
      ¬SameNitz plainSetOnNITZTime "phone" "10/06/21,20:31:54+8,0".toList 100 {} := by
  refine ⟨by decide, ?_⟩
  rintro ⟨stripped, -, -, hsame⟩
  have hlate : lateNotices plainSetOnNITZTime "phone" "10/06/21,20:31:54+8,0".toList 100 {} =
      some [⟨"phone", .string "10/06/21,20:31:54+8,0".toList⟩] := by decide
  rw [hlate] at hsame
  cases hsame

/-! ### Proactive commands -/

/-- A command is received, or a listener is set. -/
inductive CatEvent (Handler : Type) where
  | stkProactiveCommand (ret : JString)
  | setOnCatProactiveCmd (h : Handler)
  deriving DecidableEq, Repr

variable {es : List (CatEvent Handler)} {l : List JString}

def CatEvent.step (s : RilState Handler) :
    CatEvent Handler → Option (RilState Handler × List (Notice Handler))
  | .stkProactiveCommand ret => processUnsolicited (.stkProactiveCommand ret) s
  | .setOnCatProactiveCmd h => some (Msm7x27a.Ril.setOnCatProactiveCmd h s)

/-- The notices of each event of a run. -/
def notices : List (CatEvent Handler) → RilState Handler → Option (List (List (Notice Handler)))
  | [], _ => some []
  | e :: es, s => (e.step s).bind fun r => (notices es r.1).map (r.2 :: ·)

/-- The notices as they should be: `l` has been received before there is a listener. -/
def dueNotices : Option Handler → List JString → List (CatEvent Handler) →
    List (List (Notice Handler))
  | _, _, [] => []
  | none, l, .stkProactiveCommand ret :: es => [] :: dueNotices none (l ++ [ret]) es
  | none, l, .setOnCatProactiveCmd h :: es =>
    l.map (fun ret => ⟨h, .string ret⟩) :: dueNotices (some h) [] es
  | some h, l, .stkProactiveCommand ret :: es => [⟨h, .string ret⟩] :: dueNotices (some h) l es
  | some _, l, .setOnCatProactiveCmd h :: es => [] :: dueNotices (some h) l es

/-- The commands in the order of receipt. -/
def commands : List (CatEvent Handler) → List JString
  | [] => []
  | .stkProactiveCommand ret :: es => ret :: commands es
  | .setOnCatProactiveCmd _ :: es => commands es

/-- The number of commands before the first listener is set. -/
def earlyCommands : List (CatEvent Handler) → ℕ
  | [] => 0
  | .stkProactiveCommand _ :: es => earlyCommands es + 1
  | .setOnCatProactiveCmd _ :: _ => 0

theorem payloads_due_of_listener (h : Handler) :
    (dueNotices (some h) [] es).flatten.map Notice.payload = (commands es).map .string := by
  induction es generalizing h with
  | nil => rfl
  | cons e es ih =>
    cases e with
    | stkProactiveCommand ret =>
      unfold dueNotices commands
      rw [List.flatten_cons, List.map_append, ih]
      rfl
    | setOnCatProactiveCmd h' =>
      unfold dueNotices commands
      rw [List.flatten_cons, List.nil_append, ih]

/-- The listener that is set in the run is set after the command. -/
theorem listener_of_cons {ret : JString} {h : Handler}
    (hh : .setOnCatProactiveCmd h ∈ CatEvent.stkProactiveCommand ret :: es) :
    ∃ h, .setOnCatProactiveCmd h ∈ es :=
  ⟨h, (List.mem_cons.1 hh).resolve_left fun e => by cases e⟩

/-- What is due is every command once, in the order of receipt. -/
theorem payloads_due (hset : ∃ h, .setOnCatProactiveCmd h ∈ es) :
    (dueNotices none l es).flatten.map Notice.payload = (l ++ commands es).map .string := by
  induction es generalizing l with
  | nil =>
    obtain ⟨h, hh⟩ := hset
    cases hh
  | cons e es ih =>
    obtain ⟨h, hh⟩ := hset
    cases e with
    | stkProactiveCommand ret =>
      have hrest := listener_of_cons hh
      unfold dueNotices commands
      rw [List.flatten_cons, List.nil_append, ih hrest, List.append_assoc]
      rfl
    | setOnCatProactiveCmd h' =>
      unfold dueNotices commands
      rw [List.flatten_cons, List.map_append, payloads_due_of_listener, List.map_append, List.map_map]
      rfl

theorem setOnCatProactiveCmd_eq (h : Handler) (s : RilState Handler) : setOnCatProactiveCmd h s =
    ({ s with mCatProCmdRegistrant := some h, mCatProCmdBuffer := none },
      s.mCatProCmdBuffer.toList.map fun ret => ⟨h, .string ret⟩) := by
  unfold setOnCatProactiveCmd
  dsimp only
  split
  next ret hbuffer =>
    rw [hbuffer]
    rfl
  next hbuffer =>
    rw [hbuffer]
    rfl

/-- Every command goes to the listener when there is one. -/
theorem notices_of_listener (h : Handler) (hs : s.mCatProCmdRegistrant = some h)
    (hbuffer : s.mCatProCmdBuffer = none) : notices es s = some (dueNotices (some h) [] es) := by
  induction es generalizing s h with
  | nil => rfl
  | cons e es ih =>
    cases e with
    | stkProactiveCommand ret =>
      have hstep : (CatEvent.stkProactiveCommand ret).step s = some (s, [⟨h, .string ret⟩]) := by
        unfold CatEvent.step processUnsolicited
        dsimp only
        rw [hs]
      unfold notices dueNotices
      rw [hstep, Option.bind_some, ih h hs hbuffer]
      rfl
    | setOnCatProactiveCmd h' =>
      have hrest := ih (s := (setOnCatProactiveCmd h' s).1) h'
        (by rw [setOnCatProactiveCmd_eq]) (by rw [setOnCatProactiveCmd_eq])
      unfold notices dueNotices CatEvent.step
      rw [Option.bind_some, hrest, setOnCatProactiveCmd_eq, hbuffer]
      rfl

theorem map_cons_eq_some {α : Type} {a : α} {x : Option (List α)} {y : List α} :
    x.map (a :: ·) = some (a :: y) ↔ x = some y := by
  cases x <;> simp

/-- The last item alone is all there is of at most one. -/
theorem map_getLast_eq_iff {α β : Type} {f : α → β} {l : List α} :
    l.getLast?.toList.map f = l.map f ↔ l.length ≤ 1 := by
  match l with
  | [] => exact iff_of_true rfl (Nat.zero_le 1)
  | [a] => exact iff_of_true rfl le_rfl
  | a :: b :: l =>
    refine iff_of_false (fun e => ?_) (by simp)
    have hlength := congrArg List.length e
    cases h : (a :: b :: l).getLast? <;> simp [h] at hlength

/-- Of the commands in `l` the last is kept. -/
theorem notices_iff (hs : s.mCatProCmdRegistrant = none) (hbuffer : s.mCatProCmdBuffer = l.getLast?)
    (hset : ∃ h, .setOnCatProactiveCmd h ∈ es) :
    notices es s = some (dueNotices none l es) ↔ l.length + earlyCommands es ≤ 1 := by
  induction es generalizing s l with
  | nil =>
    obtain ⟨h, hh⟩ := hset
    cases hh
  | cons e es ih =>
    obtain ⟨h, hh⟩ := hset
    cases e with
    | stkProactiveCommand ret =>
      have hrest := listener_of_cons hh
      have hstep : (CatEvent.stkProactiveCommand ret).step s =
          some ({ s with mCatProCmdBuffer := some ret }, []) := by
        unfold CatEvent.step processUnsolicited
        dsimp only
        rw [hs]
      have ih' := ih (s := { s with mCatProCmdBuffer := some ret }) (l := l ++ [ret]) hs
        List.getLast?_concat.symm hrest
      unfold notices dueNotices earlyCommands
      rw [hstep, Option.bind_some, map_cons_eq_some, ih', List.length_append, List.length_singleton]
      omega
    | setOnCatProactiveCmd h' =>
      have hrest : notices es (setOnCatProactiveCmd h' s).1 = some (dueNotices (some h') [] es) :=
        notices_of_listener h' (by rw [setOnCatProactiveCmd_eq]) (by rw [setOnCatProactiveCmd_eq])
      unfold notices dueNotices earlyCommands CatEvent.step
      rw [Option.bind_some, hrest, Option.map_some, setOnCatProactiveCmd_eq, hbuffer,
        Option.some_inj, List.cons.injEq, and_iff_left rfl, map_getLast_eq_iff, Nat.add_zero]

/-- **Proactive commands.** In a run in which a listener is set, every command is delivered when it
should be, once and in the order of receipt, if and only if at most one is received before. -/
theorem commands_delivered_iff (hs : s.mCatProCmdRegistrant = none)
    (hbuffer : s.mCatProCmdBuffer = none) (hset : ∃ h, .setOnCatProactiveCmd h ∈ es) :
    notices es s = some (dueNotices none [] es) ↔ earlyCommands es ≤ 1 := by
  rw [notices_iff hs (l := []) hbuffer hset, List.length_nil, Nat.zero_add]

end Model

theorem commands_delivered_once : notices [.stkProactiveCommand "D0".toList,
    .setOnCatProactiveCmd "cat", .stkProactiveCommand "D1".toList] {} =
      some (dueNotices none [] [.stkProactiveCommand "D0".toList, .setOnCatProactiveCmd "cat",
        .stkProactiveCommand "D1".toList]) :=
  (commands_delivered_iff rfl rfl ⟨"cat", by decide⟩).2 (by decide)

/-- Two commands are received before the listener is set: the first is lost. -/
theorem first_command_lost : notices [.stkProactiveCommand "D0".toList,
    .stkProactiveCommand "D1".toList, .setOnCatProactiveCmd "cat"] {} =
      some [[], [], [⟨"cat", .string "D1".toList⟩]] ∧
    notices [.stkProactiveCommand "D0".toList, .stkProactiveCommand "D1".toList,
        .setOnCatProactiveCmd "cat"] {} ≠
      some (dueNotices none [] [.stkProactiveCommand "D0".toList, .stkProactiveCommand "D1".toList,
        .setOnCatProactiveCmd "cat"]) := by
  decide

end Msm7x27a.Ril
