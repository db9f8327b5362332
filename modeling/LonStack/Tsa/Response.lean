import LonStack.Tsa.Agreement

namespace LonStack

open Lib

def Call.answers (i : Fin RECEIVE_TRANS_COUNT) : Call → Bool
  | .storeResponse _ j => j == i
  | _ => false

def answer (i : Fin RECEIVE_TRANS_COUNT) : CallHistory → Option TSASendParam
  | [] => none
  | x :: h => if x.2.answers i then x.1.tsaRespQ.peek else answer i h

def Answered (i : Fin RECEIVE_TRANS_COUNT) (h : CallHistory) (rr : ReceiveRecord) : Prop :=
  rr.InUse → rr.transState = .responded → ∃ q, answer i h = some q ∧ rr.response = q.apdu

variable {h h₁ h₂ : CallHistory} {gp g₀ : ProtocolStackData} {c : Call}
  {i : Fin RECEIVE_TRANS_COUNT}

theorem answer_cons (hc : c.answers i = false) : answer i ((gp, c) :: h) = answer i h := by
  rw [answer, hc, if_neg Bool.false_ne_true]

theorem RecordStep.answered {rr : ReceiveRecord} (hstep : RecordStep gp i c rr)
    (hc : c.answers i = false) (ha : Answered i h (gp.recvRec i)) :
    Answered i ((gp, c) :: h) rr := by
  intro huse hstate
  rw [answer_cons hc]
  cases hstep with
  | opened => simp at hstate
  | kept => exact ha huse hstate
  | released | freed => exact absurd rfl huse
  | closed | authenticated | delivered => simp at hstate
  | challenged _ _ huse _ hstate' =>
    rcases hstate' with hstate' | hstate'
    · exact ha huse (hstate' ▸ hstate)
    · simp [hstate'] at hstate
  | responded => simp [Call.answers] at hc

theorem answered_step (hg : c.Guard h gp) (hpool : c.movesPool gp = false) (ha : Answered i h (gp.recvRec i)) :
    Answered i ((gp, c) :: h) ((c.apply gp).recvRec i) := by
  cases hc : c.answers i with
  | false => exact (recordStep hg hpool i).answered hc ha
  | true =>
    cases c with
    | storeResponse response j =>
      obtain rfl : j = i := by simpa [Call.answers] using hc
      obtain ⟨-, q, hq, rfl, -⟩ := hg
      intro _ _
      refine ⟨q, ?_, ?_⟩
      · rw [answer, hc, if_pos rfl, hq]
      · simp [Call.apply]
    | _ => simp [Call.answers] at hc

theorem Reaches.answered (hrun : Reaches g₀ h gp) (hinit : g₀.PowerUp) :
    EachCall (fun h gp c => c.Guard h gp ∧
      ((∀ x ∈ h, x.2.movesPool x.1 = false) → ∀ i, Answered i h (gp.recvRec i))) h :=
  (hrun.invariant_while (I := fun h gp => ∀ i, Answered i h (gp.recvRec i))
    (fun i huse => absurd huse (hinit.recvRec i))
    (fun _ _ _ hg hpool ih i => answered_step hg hpool (ih i))).2

theorem sends_snSendResponse {nullResponse flexResponse : Bool} {nw : NWSendParam}
    (hs : Sends gp (gp.snSendResponse i nullResponse flexResponse) (gp.recvRec i).priority nw) :
    ∃ destAddr slot, nw = (gp.recvRec i).responsePdu destAddr slot ∧
      (gp.recvRec i).answerAddr gp.eep
        (if flexResponse then { (gp.recvRec i).srcAddr.dmn with domainIndex := FLEX_DOMAIN }
          else (gp.recvRec i).srcAddr.dmn) = some destAddr := by
  simp only [ProtocolStackData.snSendResponse] at hs
  split at hs
  case isTrue => exact absurd hs (not_sends_self rfl)
  case isFalse =>
    split at hs
    case isTrue => exact absurd hs (not_sends_self rfl)
    case isFalse =>
      split at hs
      case isTrue => exact absurd hs (not_sends_self rfl)
      case isFalse =>
        split at hs
        case isTrue => exact absurd hs (not_sends_self rfl)
        case isFalse =>
          split at hs
          case h_1 => exact absurd hs (not_sends_self rfl)
          case h_2 =>
            split at hs
            case isFalse => exact absurd hs (not_sends_self rfl)
            case isTrue =>
              split at hs
              case h_1 => exact absurd hs (not_sends_self rfl)
              case h_2 destAddr hdest =>
                obtain ⟨slot, rfl⟩ := sends_pushNw rfl hs
                exact ⟨destAddr, slot, rfl, hdest⟩

theorem ReceiveRecord.isTspdu_responsePdu (rr : ReceiveRecord) (destAddr : DestinationAddress)
    (slot : NWSendParam) :
    (rr.responsePdu destAddr slot).IsTspdu rr.version rr.transNum false Pdu.RESPONSE_MSG
      (transNumLo rr.version rr.transNum) rr.response where
  version := rfl
  pduSize := by
    simp only [responsePdu, rspSize]
    omega
  hdr := rfl
  length_low := length_transNumLo _ _
  data := by
    simp only [responsePdu, Pdu.store, storeBytes, List.append_assoc]
    exact ⟨_, rfl⟩

def ProtocolStackData.requestCode (gp : ProtocolStackData) (priority : Bool) : UInt8 :=
  ((gp.tsaOutQ priority).data (gp.xmitRec priority).apdu).apdu.headD 0

def HandsOver (gp : ProtocolStackData) (p : TSAReceiveParam) (e : APPReceiveParam) : Prop :=
  ∃ g sent, (g, .takeResponse p sent) ∈ (Tsa.snReceiveResponse p).log Call.apply gp ∧
    (g.takeResponse p sent).appCeRspInQ.toList = g.appCeRspInQ.toList ++ [e]

def deliveredResponse (requestCode : UInt8) (xcvrParams : XcvrParam) (response : List UInt8) :
    List UInt8 :=
  if requestCode = ND_opcode_base ||| ND_QUERY_XCVR_BIDIR ∧
      response.length = 1 + IZOT_COMMUNICATIONS_PARAMETER_LENGTH then
    response ++ xcvrParams.toList
  else response

theorem takeResponse_mem_log {p : TSAReceiveParam} {g : ProtocolStackData} {sent : TSASendParam}
    (hmem : (g, .takeResponse p sent) ∈ (Tsa.snReceiveResponse p).log Call.apply gp) : g = gp := by
  have hwp : (Tsa.snReceiveResponse p).wp Call.apply
      (fun _ s c => ∀ sent, c = .takeResponse p sent → s = gp) (fun _ _ _ => True) [] gp := by
    simp only [Tsa.snReceiveResponse, Prog.monadBind_eq, Prog.wp_bind, Tsa.wp_gp]
    split
    · simp
    · split
      · trivial
      · split
        · trivial
        · simp only [Prog.wp_bind, Tsa.wp_call, Tsa.wp_gp]
          refine ⟨fun _ _ => trivial, ?_⟩
          split
          · simp only [Tsa.terminateTrans, Prog.monadBind_eq, Prog.wp_bind, Tsa.wp_gp]
            split
            · simp
            · split <;> simp
          · simp
  have hall := (hwp.log trivial).1.forall_mem
    (P := fun x => ∀ sent, x.2 = Call.takeResponse p sent → x.1 = gp)
  rw [List.append_nil] at hall
  exact hall _ hmem sent rfl

theorem takeResponse_mem_log_of {p : TSAReceiveParam} {sent : TSASendParam}
    (hstale : gp.answerIsStale .session p = false) (hroom : gp.appCeRspInQ.full = false)
    (hsent : (gp.tsaOutQ p.priority).peek = some sent) :
    (gp, .takeResponse p sent) ∈ (Tsa.snReceiveResponse p).log Call.apply gp := by
  rw [Queue.peek_eq_head?] at hsent
  simp [Tsa.snReceiveResponse, Prog.bind, Tsa.gp, Prog.log, hstale, hroom, hsent, Tsa.call,
    Prog.perform]

theorem HandsOver.eq {p : TSAReceiveParam} {e : APPReceiveParam} (he : HandsOver gp p e) :
    ∃ sent slot, e = ProtocolStackData.responseMessage p sent (gp.requestCode p.priority) slot := by
  obtain ⟨g, sent, hmem, he⟩ := he
  obtain rfl := takeResponse_mem_log hmem
  simp only [ProtocolStackData.takeResponse] at he
  split at he
  · simp only [Queue.toList_push] at he
    split at he
    · rw [List.append_cancel_left_eq, List.cons.injEq] at he
      exact ⟨sent, _, he.1.symm⟩
    · simp at he
  · simp [ProtocolStackData.modifyTsaOut] at he

def APPReceiveParam.Holds (e : APPReceiveParam) (response : List UInt8) : Prop :=
  e.apdu.take e.pduSize = response ∧ e.pduSize = response.length

section

variable {p : TSAReceiveParam} {sent : TSASendParam} {requestCode : UInt8}
  {slot : APPReceiveParam} {response : List UInt8}

theorem holds_responseMessage (hindex : p.dataIndex = 0) (hsize : p.pduSize = response.length + 1)
    (hbytes : bytesAt p.pdu.data 0 response.length = response) :
    (ProtocolStackData.responseMessage p sent requestCode slot).Holds
      (deliveredResponse requestCode p.xcvrParams response) := by
  simp only [ProtocolStackData.responseMessage, APPReceiveParam.Holds, deliveredResponse, hindex,
    hsize, Nat.sub_zero, Nat.add_sub_cancel, hbytes]
  split
  case isTrue hamended =>
    rw [storeBytes, List.take_append_of_le_length (Nat.le_of_eq hamended.2.symm), ← hamended.2,
      List.take_length, List.drop_left, storeBytes, ← List.append_assoc]
    refine ⟨List.take_left' ?_, ?_⟩ <;> simp
  case isFalse => exact ⟨List.take_left, rfl⟩

theorem not_holds_responseMessage (hsize : p.pduSize = response.length + 2) :
    ¬(ProtocolStackData.responseMessage p sent requestCode slot).Holds
      (deliveredResponse requestCode p.xcvrParams response) := by
  intro hholds
  have hlength := hholds.2
  simp only [ProtocolStackData.responseMessage, deliveredResponse, hsize] at hlength
  split at hlength
  · split at hlength
    · simp at hlength
    · omega
  · split at hlength
    · simp at hlength
    · omega

end

structure ResponseExchange (g : ProtocolStackData) (i : Fin RECEIVE_TRANS_COUNT)
    (nullResponse flexResponse : Bool) (gp : ProtocolStackData) (p : TSAReceiveParam)
    (e : APPReceiveParam) : Prop where
  sent : ∃ nw,
    Sends g (g.snSendResponse i nullResponse flexResponse) (g.recvRec i).priority nw ∧
      p.Carries nw ∧ p.pduSize = nw.pduSize
  taken : HandsOver gp p e

/-- The requester's application gets the response as the responder's application gave it if and
only if the request came with the legacy protocol, as long as no answer to a challenge moved the
records. -/
theorem response_arrives_iff {nullResponse flexResponse : Bool} {g gr : ProtocolStackData}
    {p : TSAReceiveParam} {e : APPReceiveParam} (hinit : g₀.PowerUp)
    (hrun : Reaches g₀ (h₂ ++ (g, .snSendResponse nullResponse flexResponse i) :: h₁) gr)
    (hpool : ∀ x ∈ h₁, x.2.movesPool x.1 = false)
    (hx : ResponseExchange g i nullResponse flexResponse gp p e) :
    ∃ q, answer i h₁ = some q ∧
      (e.Holds (deliveredResponse (gp.requestCode p.priority) p.xcvrParams q.apdu) ↔
        (g.recvRec i).version = LsProtocolModeLegacy) := by
  obtain ⟨hg, hanswered⟩ := (hrun.answered hinit).split rfl
  obtain ⟨q, hq, hresponse⟩ := hanswered hpool i hg.1 hg.2
  refine ⟨q, hq, ?_⟩
  obtain ⟨nw, hs, hp, hsize⟩ := hx.sent
  obtain ⟨destAddr, slot, rfl, -⟩ := sends_snSendResponse hs
  obtain ⟨sent, slot', rfl⟩ := hx.taken.eq
  have hform := (g.recvRec i).isTspdu_responsePdu destAddr slot
  rw [hresponse] at hform
  have hindex := hp.tspdu_dataIndex hform
  have hbytes := hp.tspdu_bytes hform
  rw [hform.pduSize] at hsize
  constructor
  · intro hholds
    by_contra hv
    refine not_holds_responseMessage ?_ hholds
    rw [hsize, dataIndex, if_neg hv]
  · intro hv
    have hzero : dataIndex (g.recvRec i).version = 0 := by rw [dataIndex, if_pos hv]
    rw [hzero] at hindex hbytes hsize
    rw [Nat.add_zero] at hsize
    exact holds_responseMessage hindex hsize hbytes

theorem log_sessionLayerSend (gp : ProtocolStackData) {q : TSASendParam} (hblocked : gp.sendBlocked = false)
    (hroom : (gp.nwOutQ false).full = false) (hq : gp.tsaRespQ.peek = some q)
    (hservice : q.service = .response) (hi : gp.findRR q.reqId = some i) :
    ∃ r, Tsa.sessionLayerSend.log Call.apply gp =
      [r, ((Call.storeResponse q.apdu i).apply gp, .snSendResponse q.nullResponse q.flexResponse i),
        (gp, .storeResponse q.apdu i)] := by
  have hempty : gp.tsaRespQ.empty = false := by
    unfold Queue.empty
    unfold Queue.peek at hq
    split at hq
    · simp at hq
    · split at hq <;> simp_all
  rw [Queue.peek_eq_head?] at hq
  simp [Tsa.sessionLayerSend, Tsa.sendResponse, Prog.bind, Tsa.gp, Prog.log, hblocked, hroom, hq,
    hservice, hi, hempty, Tsa.call, Prog.perform]

def requestEvents (version : Nat) : List Event :=
  [.env (.networkReceive (messageFrom (nodeSource 2) version .spdu Pdu.REQUEST_MSG 0 [0x10])),
    .sessionLayerReceive,
    .env (.appRespond
      { (default : TSASendParam) with service := .response, reqId := 1, apdu := [0x21, 0x22] })]

def responder (version : Nat) : CallHistory × ProtocolStackData :=
  runEvents (requestEvents version) ([], .reset default 3 50)

def sender (version : Nat) : ProtocolStackData :=
  (Call.storeResponse [0x21, 0x22] ⟨0, by decide⟩).apply (responder version).2

def requester : ProtocolStackData :=
  (runEvents
    [.env (.appSend false (messageTo (nodeAddress 3) .request 5 [0x10])), .sessionLayerSend]
    ([], .reset default 3 50)).2

def arrivedResponse (version : Nat) : TSAReceiveParam :=
  let nw := (((sender version).snSendResponse ⟨0, by decide⟩ false false).nwOutQ false).data 0
  { (default : TSAReceiveParam) with
    srcAddr := nodeSource 3
    pduSize := nw.pduSize
    pduType := .spdu
    version := nw.version
    pdu := nw.pdu }

def handedOver (version : Nat) : APPReceiveParam :=
  (requester.takeResponse (arrivedResponse version)
    ((requester.tsaOutQ false).data 0)).appCeRspInQ.data 0

theorem reaches_sender (version : Nat) (hv : version = 0 ∨ version = 2) :
    ∃ h₂ gr, Reaches (.reset default 3 50)
      (h₂ ++ (sender version, .snSendResponse false false 0) ::
        ((responder version).2, .storeResponse [0x21, 0x22] 0) :: (responder version).1) gr := by
  obtain ⟨r, hlog⟩ := log_sessionLayerSend (responder version).2 (i := 0)
    (q := { (default : TSASendParam) with service := .response, reqId := 1, apdu := [0x21, 0x22] })
    (by rcases hv with rfl | rfl <;> decide +kernel)
    (by rcases hv with rfl | rfl <;> decide +kernel)
    (by rcases hv with rfl | rfl <;> decide +kernel) rfl
    (by rcases hv with rfl | rfl <;> decide +kernel)
  have hrun := ((ProtocolStackData.reset default 3 50).reaches_runEvents
    (requestEvents version)).next .sessionLayerSend
  rw [Event.prog, ← responder, hlog] at hrun
  exact ⟨[r], _, hrun⟩

theorem responseExchange_arrived {version : Nat} (hv : version = 0 ∨ version = 2) :
    ResponseExchange (sender version) 0 false false requester (arrivedResponse version)
      (handedOver version) where
  sent := by
    refine ⟨(((sender version).snSendResponse ⟨0, by decide⟩ false false).nwOutQ false).data 0, ?_⟩
    unfold Sends
    rcases hv with rfl | rfl
    · exact ⟨by decide +kernel, ⟨by decide +kernel, by decide +kernel, by decide +kernel⟩,
        by decide +kernel⟩
    · exact ⟨by decide +kernel, ⟨by decide +kernel, by decide +kernel, by decide +kernel⟩,
        by decide +kernel⟩
  taken := by
    refine ⟨requester, (requester.tsaOutQ false).data 0, takeResponse_mem_log_of ?_ ?_ ?_, ?_⟩
    · rcases hv with rfl | rfl <;> decide +kernel
    · decide +kernel
    · rcases hv with rfl | rfl <;> decide +kernel
    · rcases hv with rfl | rfl <;> decide +kernel

theorem not_response_arrives :
    ¬∀ (g₀ gr g gp : ProtocolStackData) (h₂ h₁ : CallHistory) (i : Fin RECEIVE_TRANS_COUNT)
      (nullResponse flexResponse : Bool) (p : TSAReceiveParam) (e : APPReceiveParam),
      g₀.PowerUp → Reaches g₀ (h₂ ++ (g, .snSendResponse nullResponse flexResponse i) :: h₁) gr →
      ResponseExchange g i nullResponse flexResponse gp p e →
      ∃ q, answer i h₁ = some q ∧
        e.Holds (deliveredResponse (gp.requestCode p.priority) p.xcvrParams q.apdu) := by
  intro hall
  obtain ⟨h₂, gr, hrun⟩ := reaches_sender 2 (.inr rfl)
  obtain ⟨q, hq, hholds⟩ := hall _ _ _ _ _ _ _ _ _ _ _
    (ProtocolStackData.powerUp_reset default 3 50) hrun (responseExchange_arrived (.inr rfl))
  have hanswer : (answer 0 (((responder 2).2, .storeResponse [0x21, 0x22] 0) ::
      (responder 2).1)).map TSASendParam.apdu = some [0x21, 0x22] := by decide +kernel
  rw [hq, Option.map_some, Option.some.injEq] at hanswer
  rw [hanswer] at hholds
  revert hholds
  unfold APPReceiveParam.Holds
  decide +kernel

theorem response_arrives_legacy :
    (handedOver 0).Holds
      (deliveredResponse (requester.requestCode false) (arrivedResponse 0).xcvrParams
        [0x21, 0x22]) := by
  obtain ⟨h₂, gr, hrun⟩ := reaches_sender 0 (.inl rfl)
  obtain ⟨q, hq, hiff⟩ := response_arrives_iff (ProtocolStackData.powerUp_reset default 3 50) hrun
    (by decide +kernel) (responseExchange_arrived (.inl rfl))
  have hanswer : (answer 0 (((responder 0).2, .storeResponse [0x21, 0x22] 0) ::
      (responder 0).1)).map TSASendParam.apdu = some [0x21, 0x22] := by decide +kernel
  rw [hq, Option.map_some, Option.some.injEq] at hanswer
  rw [hanswer] at hiff
  exact hiff.2 (by decide +kernel)

end LonStack
