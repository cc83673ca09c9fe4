import Msm7x27a.Lib.Pending
import Mathlib.Tactic.Common

/-!
# Solicited responses

`processSolicited`.  A response completes the pending request with its serial: the payload is parsed by
the kind of the request, and the result or the error is sent to the request's message.  A failed
`SEND_SMS` is parsed once more.

The list of pending requests, the parsers and `onError` are code of the base class: they are
parameters.
-/

namespace Msm7x27a.Ril

open Msm7x27a.Pending

/-- `RIL_REQUEST_*`, as far as a response to it is expected. -/
inductive Request where
  | getSimStatus | enterSimPin | enterSimPuk | enterSimPin2 | enterSimPuk2 | changeSimPin
  | changeSimPin2 | enterDepersonalizationCode | getCurrentCalls | dial | getImsi | hangup
  | hangupWaitingOrBackground | hangupForegroundResumeBackground | switchWaitingOrHoldingAndActive
  | conference | udub | lastCallFailCause | signalStrength | voiceRegistrationState
  | dataRegistrationState | operator | radioPower | dtmf | sendSms | sendSmsExpectMore
  | setupDataCall | simIo | sendUssd | cancelUssd | getClir | setClir | queryCallForwardStatus
  | setCallForward | queryCallWaiting | setCallWaiting | smsAcknowledge | getImei | getImeisv
  | answer | deactivateDataCall | queryFacilityLock | setFacilityLock | changeBarringPassword
  | queryNetworkSelectionMode | setNetworkSelectionAutomatic | setNetworkSelectionManual
  | queryAvailableNetworks | dtmfStart | dtmfStop | basebandVersion | separateConnection | setMute
  | getMute | queryClip | lastDataCallFailCause | dataCallList | resetRadio | oemHookRaw
  | oemHookStrings | screenState | setSuppSvcNotification | writeSmsToSim | deleteSmsOnSim
  | setBandMode | queryAvailableBandMode | stkGetProfile | stkSetProfile | stkSendEnvelopeCommand
  | stkSendTerminalResponse | stkHandleCallSetupRequestedFromSim | explicitCallTransfer
  | setPreferredNetworkType | getPreferredNetworkType | getNeighboringCellIds | setLocationUpdates
  | cdmaSetSubscriptionSource | cdmaSetRoamingPreference | cdmaQueryRoamingPreference | setTtyMode
  | queryTtyMode | cdmaSetPreferredVoicePrivacyMode | cdmaQueryPreferredVoicePrivacyMode
  | cdmaFlash | cdmaBurstDtmf | cdmaSendSms | cdmaSmsAcknowledge | gsmGetBroadcastConfig
  | gsmSetBroadcastConfig | gsmBroadcastActivation | cdmaGetBroadcastConfig
  | cdmaSetBroadcastConfig | cdmaBroadcastActivation | cdmaValidateAndWriteAkey | cdmaSubscription
  | cdmaWriteSmsToRuim | cdmaDeleteSmsOnRuim | deviceIdentity | getSmscAddress | setSmscAddress
  | exitEmergencyCallbackMode | reportSmsMemoryStatus | reportStkServiceIsRunning | dialEmergency
  | other (code : Int)
  deriving DecidableEq, Repr

/-- The methods that parse a response. -/
inductive Parser where
  | responseIccCardStatus | responseInts | responseCallList | responseVoid | responseString
  | responseLastCallFailCause | responseSignalStrength | responseVoiceRegistrationState
  | responseStrings | responseSMS | responseSetupDataCall | responseIccIo | responseCallForward
  | responseOperatorInfos | responseDataCallList | responseRaw | responseNetworkType
  | responseCellList | responseGmsBroadcastConfig | responseCdmaBroadcastConfig
  | responseCdmaSubscription
  deriving DecidableEq, Repr

/-- The parser for the response to a request, or what is said of a request that has none. -/
def Request.parser : Request → Except String Parser
  | .getSimStatus => .ok .responseIccCardStatus
  | .enterSimPin | .enterSimPuk | .enterSimPin2 | .enterSimPuk2 | .changeSimPin | .changeSimPin2
  | .enterDepersonalizationCode | .getClir | .queryCallWaiting | .queryFacilityLock
  | .setFacilityLock | .queryNetworkSelectionMode | .getMute | .queryClip | .lastDataCallFailCause
  | .writeSmsToSim | .queryAvailableBandMode | .stkHandleCallSetupRequestedFromSim
  | .cdmaQueryRoamingPreference | .queryTtyMode | .cdmaQueryPreferredVoicePrivacyMode
  | .cdmaWriteSmsToRuim => .ok .responseInts
  | .getCurrentCalls => .ok .responseCallList
  | .dial | .hangup | .hangupWaitingOrBackground | .hangupForegroundResumeBackground
  | .switchWaitingOrHoldingAndActive | .conference | .udub | .radioPower | .dtmf | .sendUssd
  | .cancelUssd | .setClir | .setCallForward | .setCallWaiting | .smsAcknowledge | .answer
  | .deactivateDataCall | .changeBarringPassword | .setNetworkSelectionAutomatic
  | .setNetworkSelectionManual | .dtmfStart | .dtmfStop | .separateConnection | .setMute
  | .resetRadio | .screenState | .setSuppSvcNotification | .deleteSmsOnSim | .setBandMode
  | .stkSetProfile | .stkSendTerminalResponse | .explicitCallTransfer | .setPreferredNetworkType
  | .setLocationUpdates | .cdmaSetSubscriptionSource | .cdmaSetRoamingPreference | .setTtyMode
  | .cdmaSetPreferredVoicePrivacyMode | .cdmaFlash | .cdmaBurstDtmf | .cdmaSmsAcknowledge
  | .gsmSetBroadcastConfig | .gsmBroadcastActivation | .cdmaSetBroadcastConfig
  | .cdmaBroadcastActivation | .cdmaValidateAndWriteAkey | .cdmaDeleteSmsOnRuim | .setSmscAddress
  | .exitEmergencyCallbackMode | .reportSmsMemoryStatus | .reportStkServiceIsRunning
  | .dialEmergency => .ok .responseVoid
  | .getImsi | .getImei | .getImeisv | .basebandVersion | .stkGetProfile | .stkSendEnvelopeCommand
  | .getSmscAddress => .ok .responseString
  | .lastCallFailCause => .ok .responseLastCallFailCause
  | .signalStrength => .ok .responseSignalStrength
  | .voiceRegistrationState => .ok .responseVoiceRegistrationState
  | .dataRegistrationState | .operator | .oemHookStrings
  | .deviceIdentity => .ok .responseStrings
  | .sendSms | .sendSmsExpectMore | .cdmaSendSms => .ok .responseSMS
  | .setupDataCall => .ok .responseSetupDataCall
  | .simIo => .ok .responseIccIo
  | .queryCallForwardStatus => .ok .responseCallForward
  | .queryAvailableNetworks => .ok .responseOperatorInfos
  | .dataCallList => .ok .responseDataCallList
  | .oemHookRaw => .ok .responseRaw
  | .getPreferredNetworkType => .ok .responseNetworkType
  | .getNeighboringCellIds => .ok .responseCellList
  | .gsmGetBroadcastConfig => .ok .responseGmsBroadcastConfig
  | .cdmaGetBroadcastConfig => .ok .responseCdmaBroadcastConfig
  | .cdmaSubscription => .ok .responseCdmaSubscription
  | .other code => .error ("Unrecognized solicited response: " ++ toString code)

variable {Parcel Value E Message : Type}

structure RILRequest (Message : Type) where
  mSerial : Int
  mRequest : Request
  mResult : Option Message

/-- What is thrown; `E` is what the parsers and the base class throw. -/
inductive Throwable (E : Type) where
  | runtimeException (message : String)
  | thrown (e : E)
  deriving DecidableEq, Repr

/-- A message that has been sent to its target, with the `AsyncResult` in it. -/
structure Sent (Value E Message : Type) where
  mResult : Message
  result : Option Value
  exception : Option (Throwable E)
  deriving DecidableEq, Repr

/-- A parcel with a response; `p` is what follows the serial and the error. -/
structure Response (Parcel : Type) where
  serial : Int
  error : Int
  p : Parcel

/-- The code outside: what a parser returns or throws comes with the rest of the parcel. -/
structure Callees (Parcel Value E Message : Type) where
  findAndRemoveRequestFromList : Int → List (RILRequest Message) →
    Option (RILRequest Message) × List (RILRequest Message)
  dataAvail : Parcel → Int
  parse : Parser → Parcel → Except E (Option Value) × Parcel
  onError : RILRequest Message → Int → Option Value → List (Sent Value E Message)

/-- What the code relies on: a request is found by its serial and removed, and `onError` sends one
message to the request's, if it has one. -/
structure Callees.Lawful (C : Callees Parcel Value E Message) : Prop where
  takes : Takes RILRequest.mSerial C.findAndRemoveRequestFromList
  onError : ∀ rr error ret, (C.onError rr error ret).map Sent.mResult = rr.mResult.toList

/-- The result, or an exception, is sent to the request's message. -/
def RILRequest.reply (rr : RILRequest Message) (ret : Option Value) (tr : Option (Throwable E)) :
    List (Sent Value E Message) :=
  rr.mResult.toList.map fun mResult => ⟨mResult, ret, tr⟩

namespace Callees

variable (C : Callees Parcel Value E Message)

/-- The switch over the request. -/
def parseResponse (rr : RILRequest Message) (p : Parcel) :
    Except (Throwable E) (Option Value) × Parcel :=
  match rr.mRequest.parser with
  | .ok parser => ((C.parse parser p).1.mapError .thrown, (C.parse parser p).2)
  | .error message => (.error (.runtimeException message), p)

/-- A request that has been found is completed. -/
def complete (rr : RILRequest Message) (error : Int) (p : Parcel) : List (Sent Value E Message) :=
  let r := if error = 0 ∨ 0 < C.dataAvail p then C.parseResponse rr p else (.ok none, p)
  match r.1 with
  | .error tr => rr.reply none (some tr)
  | .ok ret =>
    if error ≠ 0 then
      -- Samsung sends the result of a failed SMS with error -1.
      if error = -1 ∧ rr.mRequest = .sendSms then
        match (C.parse .responseSMS r.2).1 with
        | .error _ => C.onError rr error ret
        | .ok ret => rr.reply ret none
      else C.onError rr error ret
    else rr.reply ret none

/-- The request that is returned, the requests that are left, and what is sent. -/
def processSolicited (x : Response Parcel) (mRequestList : List (RILRequest Message)) :
    Option (RILRequest Message) × List (RILRequest Message) × List (Sent Value E Message) :=
  let r := C.findAndRemoveRequestFromList x.serial mRequestList
  match r.1 with
  | none => (none, r.2, [])
  | some rr => (some rr, r.2, C.complete rr x.error x.p)

/-- Responses in order: the requests that are left, and all that is sent. -/
def processAll : List (Response Parcel) → List (RILRequest Message) →
    List (RILRequest Message) × List (Sent Value E Message)
  | [], mRequestList => (mRequestList, [])
  | x :: xs, mRequestList =>
    let r := C.processSolicited x mRequestList
    ((processAll xs r.2.1).1, r.2.2 ++ (processAll xs r.2.1).2)

/-! ### Completion -/

variable {C} {rr : RILRequest Message} {error : Int} {p : Parcel} {x : Response Parcel}
  {xs : List (Response Parcel)} {mRequestList : List (RILRequest Message)}

theorem mResult_reply (ret : Option Value) (tr : Option (Throwable E)) :
    (rr.reply ret tr).map Sent.mResult = rr.mResult.toList := by
  unfold RILRequest.reply
  rw [List.map_map]
  exact List.map_id _

/-- **One completion.** Whatever the error and the payload, and whatever the parsers return or throw,
one message is sent to the request's, if it has one, and no other. -/
theorem mResult_complete (hC : C.Lawful) :
    (C.complete rr error p).map Sent.mResult = rr.mResult.toList := by
  unfold complete
  dsimp only
  split
  next => exact mResult_reply ..
  next =>
    split
    · split
      · split
        next => exact hC.onError ..
        next => exact mResult_reply ..
      · exact hC.onError ..
    · exact mResult_reply ..

/-- A response sends a message to the request it finds, and to no other. -/
theorem processSolicited_eq (hC : C.Lawful) (x : Response Parcel)
    (mRequestList : List (RILRequest Message)) :
    (C.processSolicited x mRequestList).1 =
        (C.findAndRemoveRequestFromList x.serial mRequestList).1 ∧
      (C.processSolicited x mRequestList).2.1 =
        (C.findAndRemoveRequestFromList x.serial mRequestList).2 ∧
      (C.processSolicited x mRequestList).2.2.map Sent.mResult =
        (C.findAndRemoveRequestFromList x.serial mRequestList).1.toList.filterMap
          RILRequest.mResult := by
  unfold processSolicited
  dsimp only
  cases C.findAndRemoveRequestFromList x.serial mRequestList |>.1 with
  | none => exact ⟨rfl, rfl, rfl⟩
  | some rr =>
    refine ⟨rfl, rfl, (mResult_complete hC).trans ?_⟩
    rw [Option.toList_some, List.filterMap_cons, List.filterMap_nil]
    cases rr.mResult with
    | none => rfl
    | some mResult => rfl

/-- A run of responses takes the requests with their serials. -/
theorem processAll_eq (hC : C.Lawful) (xs : List (Response Parcel))
    (mRequestList : List (RILRequest Message)) : (C.processAll xs mRequestList).1 =
      (takeAll C.findAndRemoveRequestFromList (xs.map Response.serial) mRequestList).2 ∧
    (C.processAll xs mRequestList).2.map Sent.mResult =
      (takeAll C.findAndRemoveRequestFromList (xs.map Response.serial) mRequestList).1.filterMap
        RILRequest.mResult := by
  induction xs generalizing mRequestList with
  | nil => exact ⟨rfl, rfl⟩
  | cons x xs ih =>
    obtain ⟨-, hleft, hsent⟩ := processSolicited_eq hC x mRequestList
    unfold processAll
    rw [List.map_cons]
    unfold takeAll
    dsimp only
    rw [List.map_append, List.filterMap_append, hsent, hleft]
    exact ⟨(ih _).1, congrArg _ (ih _).2⟩

/-- **Each request once.** In every run of responses, one message is sent to the message of each
pending request whose serial occurs, and none to any other; a response with a serial that has occurred
does nothing. -/
theorem completed_once (hC : C.Lawful) (hserials : (mRequestList.map RILRequest.mSerial).Nodup) :
    ((C.processAll xs mRequestList).2.map Sent.mResult).Perm
        ((mRequestList.filter fun rr => rr.mSerial ∈ xs.map Response.serial).filterMap
          RILRequest.mResult) ∧
      ∀ x : Response Parcel, x.serial ∈ xs.map Response.serial →
        C.processSolicited x (C.processAll xs mRequestList).1 =
          (none, (C.processAll xs mRequestList).1, []) := by
  obtain ⟨hleft, hsent⟩ := processAll_eq hC xs mRequestList
  refine ⟨?_, fun x hx => ?_⟩
  · rw [hsent]
    exact (takeAll_perm hC.takes hserials).1.filterMap _
  · have habsent := not_mem_of_left hC.takes hserials hx
    rw [← hleft] at habsent
    unfold processSolicited
    rw [hC.takes.of_absent habsent]

/-- The first request with the serial is found; a parser throws when the parcel is empty. -/
def plain : Callees Int Int Unit String where
  findAndRemoveRequestFromList serial l :=
    (l.find? fun rr => rr.mSerial = serial, l.eraseP fun rr => rr.mSerial = serial)
  dataAvail p := p
  parse _ p := if 0 < p then (.ok (some p), p - 1) else (.error (), p)
  onError rr error ret := rr.reply (ret.map fun value => value + error) (some (.thrown ()))

theorem lawful_plain : plain.Lawful where
  takes := by
    constructor
    · intro serial l rr h
      have hkey : rr.mSerial = serial := by simpa using List.find?_some h
      refine ⟨hkey, ?_⟩
      induction l with
      | nil => cases h
      | cons rr' l ih =>
        have h' : (rr' :: l).find? (fun rr => rr.mSerial = serial) = some rr := h
        show (rr' :: l).Perm (rr :: (rr' :: l).eraseP fun rr => rr.mSerial = serial)
        by_cases hs : rr'.mSerial = serial
        · rw [List.find?_cons_of_pos (by simpa using hs)] at h'
          obtain rfl := Option.some.inj h'
          rw [List.eraseP_cons_of_pos (by simpa using hs)]
        · rw [List.find?_cons_of_neg (by simpa using hs)] at h'
          rw [List.eraseP_cons_of_neg (by simpa using hs)]
          exact ((ih h').cons rr').trans (.swap ..)
    · intro serial l h
      have hne : ∀ rr ∈ l, rr.mSerial ≠ serial := by simpa using List.find?_eq_none.1 h
      exact ⟨List.eraseP_of_forall_not (by simpa using hne), hne⟩
  onError _ _ _ := mResult_reply ..

/-- An SMS fails with a result, a response comes that nobody waits for, and the first one again.  The
call still waits. -/
theorem completed_once_plain :
    ((plain.processAll [⟨7, -1, 2⟩, ⟨9, 0, 1⟩, ⟨7, 0, 1⟩]
        [⟨7, .sendSms, some "sms"⟩, ⟨8, .dial, some "dial"⟩]).2.map Sent.mResult).Perm ["sms"] ∧
      plain.processSolicited ⟨7, 0, 1⟩ (plain.processAll [⟨7, -1, 2⟩, ⟨9, 0, 1⟩, ⟨7, 0, 1⟩]
          [⟨7, .sendSms, some "sms"⟩, ⟨8, .dial, some "dial"⟩]).1 =
        (none, (plain.processAll [⟨7, -1, 2⟩, ⟨9, 0, 1⟩, ⟨7, 0, 1⟩]
          [⟨7, .sendSms, some "sms"⟩, ⟨8, .dial, some "dial"⟩]).1, []) := by
  refine ⟨(completed_once lawful_plain ?_).1, (completed_once lawful_plain ?_).2 _ (by decide)⟩
  · decide
  · decide

end Callees

end Msm7x27a.Ril
