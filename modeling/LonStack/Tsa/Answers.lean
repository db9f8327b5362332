import LonStack.Tsa.TwoNodes

namespace LonStack

open Lib

def TSAReceiveParam.responseApdu (p : TSAReceiveParam) : List UInt8 :=
  bytesAt p.pdu.data p.dataIndex (p.pduSize - p.dataIndex - 1)

theorem TSAReceiveParam.Carries.responseApdu {p : TSAReceiveParam} {nw : NWSendParam} {v num : Nat}
    {auth : Bool} {pduMsgType : UInt8} {low bytes : List UInt8} (hp : p.Carries nw)
    (hsize : p.pduSize = nw.pduSize) (hnw : nw.IsTspdu v num auth pduMsgType low bytes) :
    p.responseApdu = bytes := by
  have hbytes := hp.tspdu_bytes hnw
  have hlength : p.pduSize - LonStack.dataIndex v - 1 = bytes.length := by
    rw [hsize, hnw.pduSize]
    omega
  rw [TSAReceiveParam.responseApdu, hp.tspdu_dataIndex hnw, hlength, hbytes]

section

variable {l : Connection} {s t : Bool → ProtocolStackData} {h : Bool → CallHistory} {side : Bool}

theorem Received.response {p : TSAReceiveParam} (hp : Received (h side) p) (hrun : l.Runs s h t)
    (hindex : l.domainIndex (!side) ≠ FLEX_DOMAIN) (hpeer : l.IsPeer side p.srcAddr)
    (hspdu : p.pduType = .spdu) (hresponse : p.pdu.pduMsgType = Pdu.RESPONSE_MSG) :
    ∃ r nullResponse flexResponse i, (r, .snSendResponse nullResponse flexResponse i) ∈ h (!side) ∧
      (r.recvRec i).priority = p.priority ∧
      ((r.recvRec i).transNum < transNumBound (r.recvRec i).version →
        p.transNum = (r.recvRec i).transNum) ∧
      p.responseApdu = (r.recvRec i).response ∧ l.IsPeer (!side) (r.recvRec i).srcAddr := by
  obtain ⟨r, c, nw, hmem, hqueued, -, harrives, happ⟩ := hp.sent hrun hpeer
  have htype : nw.pdu.pduMsgType = Pdu.RESPONSE_MSG := by
    rw [← hresponse, Pdu.pduMsgType, Pdu.pduMsgType, harrives.carries.hdr]
  have hnwtype : nw.pduType = .spdu := harrives.pduType.symm.trans hspdu
  cases hqueued with
  | message _ hother => exact absurd htype hother
  | ack _ _ _ _ _ hack =>
    subst hack
    cases hnwtype
  | authpdu hauth =>
    rw [hauth] at hnwtype
    cases hnwtype
  | apdu =>
    rw [happ _ rfl] at hnwtype
    cases hnwtype
  | response i nullResponse flexResponse destAddr slot hpriority hanswer hnw =>
    subst hnw
    have hform := (r.recvRec i).isTspdu_responsePdu destAddr slot
    refine ⟨r, nullResponse, flexResponse, i, hmem, hpriority, fun hnum => ?_,
      harrives.carries.responseApdu harrives.pduSize hform, ?_⟩
    · exact (harrives.carries.tspdu_transNum_iff hform (by decide)).mpr ⟨hnum, rfl⟩
    · obtain ⟨hdmn, hnode⟩ := ReceiveRecord.node_answerAddr hanswer
      refine ⟨?_, ?_⟩
      · have hdomain : destAddr.dmn.domainIndex = l.domainIndex (!side) := harrives.domainIndex
        rw [hdmn] at hdomain
        split at hdomain
        case isTrue => exact absurd hdomain.symm hindex
        case isFalse => exact hdomain
      · rw [Bool.not_not]
        exact harrives.addr _ hnode

theorem handed_before_answer {g₀ gp : ProtocolStackData} {h : CallHistory}
    {i : Fin RECEIVE_TRANS_COUNT} {rr : ReceiveRecord} {x : ProtocolStackData × Call}
    (hrun : Reaches g₀ h gp) (hinit : g₀.PowerUp) (hover : ∀ x ∈ h, x.2.overruns x.1 = false)
    (hroom : ∀ x ∈ h, x.2.losesMessage x.1 = false)
    (hx : x ∈ h) (hanswers : AnswersWith i rr x) :
    ∃ h₂ x h₁, h = h₂ ++ x :: h₁ ∧ AnswersWith i rr x ∧ ∃ y ∈ h₁, HandedOver i rr y := by
  obtain ⟨h₂, h₁, rfl⟩ := List.append_of_mem hx
  obtain ⟨g, c⟩ := x
  obtain ⟨hg, hk⟩ := (hrun.known hinit hover).2.split rfl
  obtain ⟨rfl, -, hsrc, -, hapdu⟩ := id hanswers
  have huse : (g.recvRec i).InUse := by
    rw [ReceiveRecord.InUse, hg.1.1]
    decide
  obtain ⟨y, hy, henters, hysrc⟩ := (hk.delivered (fun y hy => hroom y (by simp [hy])) i
    (hk.initialised i huse) (.inl hg.1.2)).exists
  exact ⟨h₂, _, h₁, rfl, hanswers, y, hy, hapdu ▸ henters, hysrc.trans hsrc⟩

structure Connection.Serves (l : Connection) (side : Bool) (h : CallHistory) (num : Nat)
    (apdu response : List UInt8) (i : Fin RECEIVE_TRANS_COUNT) (rr : ReceiveRecord) : Prop where
  peer : l.IsPeer side rr.srcAddr
  transNum : rr.transNum = num
  apdu : rr.apdu = apdu
  response : rr.response = response
  answered : ∃ h₂ x h₁, h = h₂ ++ x :: h₁ ∧ AnswersWith i rr x ∧ ∃ y ∈ h₁, HandedOver i rr y

end

def sentRequest : List Event :=
  [.env (.appSend false (messageTo (nodeAddress 2) .request 7 [0x10])), .sessionLayerSend]

def arrivedRequest : TSAReceiveParam := broughtBy (callAt sentRequest 0) true

def answeredRequest : List Event :=
  [.env (.networkReceive arrivedRequest), .sessionLayerReceive,
    .env (.appRespond
      { (default : TSASendParam) with service := .response, reqId := 1, apdu := [0x21, 0x22] }),
    .sessionLayerSend]

def arrivedAnswer : TSAReceiveParam := broughtBy (callAt answeredRequest 1) false

def takenAnswer : List Event := [.env (.networkReceive arrivedAnswer), .sessionLayerReceive]

theorem runs_sentRequest :
    ∃ h t, twoNodes.Runs (fun _ => .reset default 3 50) h t ∧
      h false = (runEvents (sentRequest ++ takenAnswer) ([], .reset default 3 50)).1 ∧
      h true = (runEvents answeredRequest ([], .reset default 3 50)).1 :=
  Connection.Runs.exchange false arrivedRequest arrivedAnswer
    (by decide +kernel)
    (brings_callAt (lastQueued (.reset default 3 50) sentRequest) (by decide +kernel)
      (by decide +kernel) (by decide +kernel) (by decide +kernel))
    (by decide +kernel)
    (brings_callAt ((queuedBy (callAt answeredRequest 1)).headD default) (by decide +kernel)
      (by decide +kernel) (by decide +kernel) (by decide +kernel))
    (by decide +kernel)

def takingCall : ProtocolStackData × Call := callAt (sentRequest ++ takenAnswer) 3

end LonStack
