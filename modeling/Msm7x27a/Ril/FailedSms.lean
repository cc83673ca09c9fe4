import Msm7x27a.Ril.Solicited

/-!
# The result of a failed SMS

A failed `SEND_SMS` with a payload is parsed twice: by the switch over the requests, because there is
data, and by the fix for Samsung, which replaces the first result.  The second parse begins where the
first has ended.

`keeps_payload_iff` says which results come through.
-/

namespace Msm7x27a.Ril

structure SmsResponse where
  messageRef : Int
  ackPDU : Option String
  errorCode : Int
  deriving DecidableEq, Repr

/-- What reading past the end gives. -/
def SmsResponse.empty : SmsResponse := ⟨0, none, 0⟩

/-- The reads of a `Parcel`, which move its position. -/
structure Reader (Parcel : Type) where
  readInt : Parcel → Int × Parcel
  readString : Parcel → Option String × Parcel
  dataAvail : Parcel → Int

variable {Parcel Value E Message : Type}

namespace Reader

variable (R : Reader Parcel)

/-- `responseSMS`, with the parcel as it leaves it. -/
def responseSMS (p : Parcel) : SmsResponse × Parcel :=
  let messageRef := R.readInt p
  let ackPDU := R.readString messageRef.2
  let errorCode := R.readInt ackPDU.2
  (⟨messageRef.1, ackPDU.1, errorCode.1⟩, errorCode.2)

/-- Reading past the end gives zero or null. -/
structure Lawful : Prop where
  readInt : ∀ p, R.dataAvail p = 0 → R.readInt p = (0, p)
  readString : ∀ p, R.dataAvail p = 0 → R.readString p = (none, p)

/-- The parcel holds the encoding of a result and nothing else. -/
structure Encodes (p : Parcel) (r : SmsResponse) : Prop where
  avail : 0 < R.dataAvail p
  reads : (R.responseSMS p).1 = r
  ends : R.dataAvail (R.responseSMS p).2 = 0

variable {R}

theorem responseSMS_end (hR : R.Lawful) {p : Parcel} (hend : R.dataAvail p = 0) :
    R.responseSMS p = (.empty, p) := by
  unfold responseSMS
  dsimp only
  rw [hR.readInt p hend]
  dsimp only
  rw [hR.readString p hend]
  dsimp only
  rw [hR.readInt p hend]
  rfl

end Reader

/-- The callees parse an SMS with these reads; `sms` is the result as an object. -/
structure Callees.ReadsSms (C : Callees Parcel Value E Message) (R : Reader Parcel)
    (sms : SmsResponse → Value) : Prop where
  dataAvail : ∀ p, C.dataAvail p = R.dataAvail p
  parse : ∀ p, C.parse .responseSMS p = (.ok (some (sms (R.responseSMS p).1)), (R.responseSMS p).2)
  injective : Function.Injective sms

namespace Callees

variable {C : Callees Parcel Value E Message} {R : Reader Parcel} {sms : SmsResponse → Value}
  {rr : RILRequest Message} {p : Parcel} {r : SmsResponse} {x : Response Parcel}
  {mRequestList : List (RILRequest Message)} {m : Message}

/-- The second parse replaces the first. -/
theorem complete_failedSms (hC : C.ReadsSms R sms) (hR : R.Lawful) (hreq : rr.mRequest = .sendSms)
    (henc : R.Encodes p r) : C.complete rr (-1) p = rr.reply (some (sms .empty)) none := by
  have hparse : C.parseResponse rr p = (.ok (some (sms r)), (R.responseSMS p).2) := by
    unfold parseResponse
    rw [hreq]
    dsimp only [Request.parser]
    rw [hC.parse, henc.reads]
    rfl
  have hdata : (-1 : Int) = 0 ∨ 0 < C.dataAvail p := by
    rw [hC.dataAvail]
    exact Or.inr henc.avail
  unfold complete
  rw [if_pos hdata, hparse]
  dsimp only
  rw [if_pos (by decide), if_pos ⟨rfl, hreq⟩, hC.parse, Reader.responseSMS_end hR henc.ends]

/-- **Which results come through.** A failed SMS delivers its result, without an exception, exactly
if the result is the one that an empty parcel gives. -/
theorem keeps_payload_iff (hC : C.ReadsSms R sms) (hR : R.Lawful)
    (hfound : (C.findAndRemoveRequestFromList x.serial mRequestList).1 = some rr)
    (hreq : rr.mRequest = .sendSms) (hmessage : rr.mResult = some m) (herror : x.error = -1)
    (henc : R.Encodes x.p r) :
    (C.processSolicited x mRequestList).2.2 = [⟨m, some (sms r), none⟩] ↔ r = .empty := by
  unfold processSolicited
  dsimp only
  rw [hfound]
  dsimp only
  rw [herror, complete_failedSms hC hR hreq henc]
  unfold RILRequest.reply
  rw [hmessage]
  constructor
  · intro h
    have hone := List.head_eq_of_cons_eq h
    have hvalue : some (sms .empty) = some (sms r) := congrArg Sent.result hone
    exact (hC.injective (Option.some.inj hvalue)).symm
  · rintro rfl
    rfl

/-! ### A parcel of items -/

inductive Item where
  | int (n : Int) | string (s : Option String)
  deriving DecidableEq, Repr

def itemReader : Reader (List Item) where
  readInt
    | .int n :: p => (n, p)
    | p => (0, p)
  readString
    | .string s :: p => (s, p)
    | p => (none, p)
  dataAvail p := p.length

theorem lawful_itemReader : itemReader.Lawful where
  readInt p h := by
    cases List.length_eq_zero_iff.1 (Int.ofNat_eq_zero.1 h)
    rfl
  readString p h := by
    cases List.length_eq_zero_iff.1 (Int.ofNat_eq_zero.1 h)
    rfl

/-- Every response is parsed as that to an SMS. -/
def smsOnly : Callees (List Item) SmsResponse Unit String where
  findAndRemoveRequestFromList := plain.findAndRemoveRequestFromList
  dataAvail := itemReader.dataAvail
  parse _ p := (.ok (some (itemReader.responseSMS p).1), (itemReader.responseSMS p).2)
  onError rr _ ret := rr.reply ret (some (.thrown ()))

theorem readsSms_smsOnly : smsOnly.ReadsSms itemReader id :=
  ⟨fun _ => rfl, fun _ => rfl, Function.injective_id⟩

theorem keeps_payload_empty :
    (smsOnly.processSolicited ⟨7, -1, [.int 0, .string none, .int 0]⟩
      [⟨7, .sendSms, some "sms"⟩]).2.2 = [⟨"sms", some .empty, none⟩] :=
  (keeps_payload_iff (r := .empty) readsSms_smsOnly lawful_itemReader rfl rfl rfl rfl
    ⟨by decide, rfl, rfl⟩).2 rfl

/-- The reference, the acknowledgement and the error code are lost. -/
theorem loses_payload :
    itemReader.Encodes [.int 5, .string (some "D0"), .int 500] ⟨5, some "D0", 500⟩ ∧
      (smsOnly.processSolicited ⟨7, -1, [.int 5, .string (some "D0"), .int 500]⟩
        [⟨7, .sendSms, some "sms"⟩]).2.2 = [⟨"sms", some .empty, none⟩] ∧
      (smsOnly.processSolicited ⟨7, -1, [.int 5, .string (some "D0"), .int 500]⟩
        [⟨7, .sendSms, some "sms"⟩]).2.2 ≠ [⟨"sms", some ⟨5, some "D0", 500⟩, none⟩] := by
  refine ⟨⟨by decide, rfl, rfl⟩, rfl, fun h => ?_⟩
  have hone := List.head_eq_of_cons_eq h
  cases congrArg Sent.result hone

end Callees

end Msm7x27a.Ril
