import LonStack.Buffers
import LonStack.NetworkRoundTrip
import LonStack.Tsa.Response
import LonStack.Tsa.Retransmit

namespace LonStack

open Lib

variable {gp : ProtocolStackData} {c : Call} {b : Bool} {nw : NWSendParam}

def Call.outgoing (gp : ProtocolStackData) : Call → Option (Bool × Nat × Nat)
  | .startTrans _ b p _ _ => some (b, p.apduSize, (gp.xmitRec b).version)
  | .snSendResponse _ _ i =>
    some ((gp.recvRec i).priority, (gp.recvRec i).rspSize, (gp.recvRec i).version)
  | _ => none

theorem pduSize_startTrans {layer : Layer} {p : TSASendParam} {nwDestAddr : DestinationAddress}
    {rptTimer : Nat} (hs : Sends gp (gp.startTrans layer b p nwDestAddr rptTimer) b nw) :
    nw.pduSize = p.apduSize + dataIndex (gp.xmitRec b).version + 1 := by
  simp only [ProtocolStackData.startTrans] at hs
  split at hs
  case isTrue => exact absurd hs (not_sends_self rfl)
  case isFalse =>
    obtain ⟨slot, rfl⟩ := sends_pushNw rfl hs
    simp only [TransmitRecord.firstPdu, ProtocolStackData.newXmitRec, TSASendParam.forDest,
      TSASendParam.apduSize]
    split <;> rfl

theorem Call.pduSize_outgoing {apduSize version : Nat}
    (hc : c.outgoing gp = some (b, apduSize, version)) (hs : Sends gp (c.apply gp) b nw) :
    nw.pduSize = apduSize + dataIndex version + 1 := by
  cases c with
  | startTrans layer b' p nwDestAddr rptTimer =>
    simp only [Call.outgoing, Option.some.injEq, Prod.mk.injEq] at hc
    obtain ⟨rfl, rfl, rfl⟩ := hc
    exact pduSize_startTrans hs
  | snSendResponse nullResponse flexResponse i =>
    simp only [Call.outgoing, Option.some.injEq, Prod.mk.injEq] at hc
    obtain ⟨rfl, rfl, rfl⟩ := hc
    obtain ⟨destAddr, slot, rfl, -⟩ := sends_snSendResponse hs
    rfl
  | _ => simp [Call.outgoing] at hc

/-- The parameter block and the PDU of an entry are no longer than the items of its queue. -/
theorem entries_fit_iff {nb : NetworkBuffers} {lb : LinkBuffers}
    (hnb : networkLayerReset NW_OUT_BUF_SIZE = some nb) (hlb : linkLayerReset = some lb) :
    (∀ (gp : ProtocolStackData) (c : Call) (b : Bool) (apduSize version : Nat) (nw : NWSendParam),
      c.outgoing gp = some (b, apduSize, version) → Sends gp (c.apply gp) b nw →
        (sizeofNWSendParam + nw.pduSize ≤ nb.nwOutQ b ↔
          apduSize + dataIndex version ≤ if b then 254 else 232)) ∧
    ∀ (gp : NetworkStackData) (b : Bool) (nw : NWSendParam) (lk : LKSendParam),
      gp.SendsNpdu b nw lk →
        (sizeofLKSendParam + lk.pduSize ≤ lb.lkOutQ b ↔
          1 + (nw.destAddr.addr.domainAt + (gp.sendDomain nw.destAddr.dmn).1) + nw.pduSize ≤ 82) := by
  constructor
  · intro gp c b apduSize version nw hc hs
    obtain rfl := Option.some.inj (networkLayerReset_eq.symm.trans hnb)
    rw [Call.pduSize_outgoing hc hs]
    cases b with
    | false =>
      change 26 + (apduSize + dataIndex version + 1) ≤ 259 ↔ apduSize + dataIndex version ≤ 232
      omega
    | true =>
      change 26 + (apduSize + dataIndex version + 1) ≤ 281 ↔ apduSize + dataIndex version ≤ 254
      omega
  · intro gp b nw lk hs
    obtain rfl := Option.some.inj (linkLayerReset_eq.symm.trans hlb)
    obtain ⟨-, -, -, -, -, -, hsize, -⟩ := NetworkStackData.formNpdu_spec hs.formNpdu
    change 6 + lk.pduSize ≤ 88 ↔ _
    omega

def bufferedNode : ProtocolStackData := .reset default 3 255

def shortMessage : List Event :=
  [.env (.appSend false (messageTo (nodeAddress 2) .acknowledged 1 [0x10])), .transportLayerSend]

theorem entries_fit_shortMessage :
    sizeofNWSendParam + (lastQueued bufferedNode shortMessage).pduSize ≤ 259 ∧
      sizeofLKSendParam + (sentNpdu 1).pduSize ≤ 88 := by
  obtain ⟨hnw, hlk⟩ := entries_fit_iff networkLayerReset_eq linkLayerReset_eq
  constructor
  · refine (hnw (lastStep bufferedNode shortMessage).1 (lastStep bufferedNode shortMessage).2 false
      1 0 _ (by decide +kernel) (by unfold Sends; decide +kernel)).mpr (by decide)
  · refine (hlk (networkSender 1) true waitingPdu _ ?_).mpr (by decide)
    unfold NetworkStackData.SendsNpdu
    decide +kernel

def longMessage : List Event :=
  [.env (.appSend false (messageTo (nodeAddress 2) .acknowledged 1 (List.replicate 233 0x10))),
    .transportLayerSend]

theorem not_entries_fit :
    ¬∀ (nb : NetworkBuffers) (g₀ gp gr : ProtocolStackData) (h₂ h₁ : CallHistory) (c : Call)
      (b : Bool) (nw : NWSendParam),
      networkLayerReset NW_OUT_BUF_SIZE = some nb → g₀.PowerUp →
      (∀ b, g₀.nwOutBufSize b = nb.nwOutBufSize b) → Reaches g₀ (h₂ ++ (gp, c) :: h₁) gr →
      (c.outgoing gp).isSome = true → Sends gp (c.apply gp) b nw →
      sizeofNWSendParam + nw.pduSize ≤ nb.nwOutQ b := by
  intro hall
  have hrun := ProtocolStackData.reaches_lastStep bufferedNode longMessage (by decide +kernel)
  rw [← Prod.mk.eta (p := lastStep bufferedNode longMessage)] at hrun
  have hfits := hall _ bufferedNode (lastStep bufferedNode longMessage).1 _ [] _
    (lastStep bufferedNode longMessage).2 false (lastQueued bufferedNode longMessage) rfl
    (ProtocolStackData.powerUp_reset default 3 255) (by decide)
    hrun (by decide +kernel) (by unfold Sends; decide +kernel)
  have hsize : (lastQueued bufferedNode longMessage).pduSize = 234 := by decide +kernel
  rw [hsize] at hfits
  exact absurd hfits (by decide)

end LonStack
