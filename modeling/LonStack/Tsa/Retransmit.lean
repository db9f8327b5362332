import LonStack.PduLaws
import LonStack.Tsa.Completion
import LonStack.Tsa.Frame

namespace LonStack

open Lib

def ProtocolStackData.Fits (gp : ProtocolStackData) (b : Bool) : Prop :=
  (gp.transCtrl b).inProgress = true → (gp.xmitRec b).apduSize + 1 ≤ gp.nwOutBufSize b

variable {h h₁ h₂ : CallHistory} {gp g₀ : ProtocolStackData} {c : Call} {b : Bool}

@[simp]
theorem Call.nwOutBufSize_apply (c : Call) (gp : ProtocolStackData) :
    (c.apply gp).nwOutBufSize = gp.nwOutBufSize := by
  cases hc : c.outer with
  | false => exact congrArg (fun frame => frame.1.nwOutBufSize) (c.frame_apply hc gp)
  | true =>
    cases c with
    | env e => cases e <;> rfl
    | dropTsaIn => rfl
    | sendReplyToChallenge useOma p =>
      exact congrArg NodeData.nwOutBufSize (gp.toNodeData_sendReplyToChallenge useOma p)
    | _ => cases hc

theorem fits_step (hg : c.Guard h gp) (hm : gp.QueuesMarked) (hfits : gp.Fits b) :
    (c.apply gp).Fits b := by
  obtain ⟨x, hstep, status, heq⟩ := exists_sendStep hg hm b
  have hsize : ((c.apply gp).xmitRec b).apduSize = x.apduSize := by rw [heq]
  unfold ProtocolStackData.Fits at hfits ⊢
  rw [Call.nwOutBufSize_apply, hsize]
  generalize (c.apply gp).transCtrl b = ctrl, (c.apply gp).tsaOutQ b = q at hstep ⊢
  cases hstep with
  | kept _ hx | responseTaken _ _ _ hx | ackCounted _ _ hx =>
    have hsame : x.apduSize = (gp.xmitRec b).apduSize := congrArg Transaction.apduSize hx
    rw [hsame]
    exact hfits
  | completed => exact hfits
  | refused _ _ _ hctrl =>
    rw [hctrl]
    exact hfits
  | terminated => exact fun hprogress => absurd hprogress Bool.false_ne_true
  | @started layer p nwDestAddr rptTimer _ _ _ _ _ _ _ hx =>
    have hsame : x.apduSize = p.apduSize := congrArg Transaction.apduSize hx
    have hrejected := hg.2.2.2
    simp only [TSASendParam.rejected, Bool.or_eq_false_iff, decide_eq_false_iff_not,
      Nat.not_lt] at hrejected
    rw [hsame]
    exact fun _ => hrejected.2
  | memberCounted _ _ _ hx =>
    have hsame : x.apduSize = (gp.xmitRec b).apduSize := by
      split at hx
      all_goals exact congrArg Transaction.apduSize hx
    rw [hsame]
    exact hfits

theorem decodeBufferSize_le {code size : Nat} (h : decodeBufferSize code = some size) :
    size ≤ 255 := by
  have hall : ∀ size ∈ bufSizeCodeLGbl, size ≤ 255 := by decide
  exact hall size (List.mem_of_getElem? h)

def ProtocolStackData.BuffersDecoded (gp : ProtocolStackData) : Prop :=
  ∀ b, ∃ code, decodeBufferSize code = some (gp.nwOutBufSize b)

theorem Reaches.fits (hrun : Reaches g₀ h gp) (hinit : g₀.PowerUp) (hbuf : g₀.BuffersDecoded) :
    EachCall (fun h gp c => c.Guard h gp ∧ ∀ b, gp.nwOutBufSize b ≤ 255 ∧ gp.Fits b) h := by
  obtain ⟨-, hcalls⟩ := hrun.invariant
    (I := fun _ gp => gp.QueuesMarked ∧ gp.BuffersDecoded ∧ ∀ b, gp.Fits b)
    ⟨fun b m hm => by simp [hinit.messages b] at hm, hbuf,
      fun b hprogress => by simp [hinit.transCtrl b] at hprogress⟩
    (fun _ _ _ hg hI =>
      ⟨queuesMarked_step hg hI.1, fun b => by rw [Call.nwOutBufSize_apply]; exact hI.2.1 b,
        fun b => fits_step hg hI.1 (hI.2.2 b)⟩)
  refine hcalls.mono fun _ gp _ hx => ⟨hx.1, fun b => ⟨?_, hx.2.2.2 b⟩⟩
  obtain ⟨code, hcode⟩ := hx.2.2.1 b
  exact decodeBufferSize_le hcode

def TSAReceiveParam.messageApdu (p : TSAReceiveParam) : List UInt8 :=
  if p.pdu.pduMsgType = Pdu.REM_MSG_MSG then p.remApdu else p.newMsgApdu

def TSAReceiveParam.Decodes (p : TSAReceiveParam) (transNum : Nat) (apdu : List UInt8) : Prop :=
  p.transNum = transNum ∧ p.messageApdu = apdu

namespace TSAReceiveParam.Carries

variable {p : TSAReceiveParam} {nw : NWSendParam} {v num : Nat} {auth : Bool}
  {pduMsgType : UInt8} {low apdu : List UInt8}

theorem decodes_iff_of_message (hp : p.Carries nw) (hsize : p.pduSize = nw.pduSize)
    (hnw : nw.IsTspdu v num auth pduMsgType low apdu) (htype : pduMsgType < 5)
    (hlen : apdu.length < 65536) :
    p.Decodes num apdu ↔ num < transNumBound v ∧ low = transNumLo v num := by
  have htype' : pduMsgType < 8 := UInt8.lt_trans htype (by decide)
  have hnot : p.pdu.pduMsgType ≠ Pdu.REM_MSG_MSG := by
    rw [(hp.tspdu_fields hnw htype').1]
    exact UInt8.ne_of_lt htype
  have happdu : p.messageApdu = apdu := by
    have hn : (apdu.length + 1 + LonStack.dataIndex v + 65536 - 1 - LonStack.dataIndex v) % 65536 =
        apdu.length := by omega
    rw [messageApdu, if_neg hnot, newMsgApdu, hp.tspdu_dataIndex hnw, hsize, hnw.pduSize, hn]
    exact hp.tspdu_bytes hnw
  rw [Decodes, and_iff_left happdu]
  exact hp.tspdu_transNum_iff hnw htype'

theorem remApdu_eq {n : Nat} {mList : List UInt8} (hp : p.Carries nw)
    (hsize : p.pduSize = nw.pduSize)
    (hnw : nw.IsTspdu v num auth Pdu.REM_MSG_MSG low (UInt8.ofNat n :: mList ++ apdu))
    (hn : n < 256) (hlist : mList.length = n) (hlen : apdu.length < 65536) : p.remApdu = apdu := by
  have hindex := hp.tspdu_dataIndex hnw
  have hbytes := hp.tspdu_bytes hnw
  have hlength : (UInt8.ofNat n :: mList ++ apdu).length = 1 + (n + apdu.length) := by
    simp [hlist]
    omega
  rw [hlength, bytesAt_add, bytesAt_add, List.cons_append, ← List.singleton_append] at hbytes
  obtain ⟨hfirst, hrest⟩ := List.append_inj hbytes (by simp)
  have happdu := (List.append_inj hrest (by simp [hlist])).2
  have hcount : p.mListLength = n := by
    have : p.pdu.byte (LonStack.dataIndex v) = UInt8.ofNat n := by
      simpa [bytesAt, Pdu.byte] using hfirst
    rw [mListLength, hindex, this, UInt8.toNat_ofNat', Nat.mod_eq_of_lt hn]
  have hm : (1 + (n + apdu.length) + 1 + LonStack.dataIndex v + 2 * 65536 - 2 - n -
      LonStack.dataIndex v) % 65536 = apdu.length := by omega
  rw [remApdu, hcount, hindex, hsize, hnw.pduSize, hlength, hm, Nat.add_comm 1]
  exact happdu

theorem decodes_iff_of_remMsg {n : Nat} {mList : List UInt8} (hp : p.Carries nw)
    (hsize : p.pduSize = nw.pduSize)
    (hnw : nw.IsTspdu v num auth Pdu.REM_MSG_MSG low (UInt8.ofNat n :: mList ++ apdu))
    (hn : n < 256) (hlist : mList.length = n) (hlen : apdu.length < 65536) :
    p.Decodes num apdu ↔ num < transNumBound v ∧ low = transNumLo v num := by
  have hrem : p.messageApdu = apdu := by
    rw [messageApdu, if_pos (hp.tspdu_fields hnw (by decide)).1]
    exact hp.remApdu_eq hsize hnw hn hlist hlen
  rw [Decodes, and_iff_left hrem]
  exact hp.tspdu_transNum_iff hnw (by decide)

end TSAReceiveParam.Carries

namespace TransmitRecord

variable (x : TransmitRecord) (p : TSASendParam) (layer : Layer) (deltaBL : Nat)
  (pduMsgType : UInt8) (bytes : List UInt8) (slot : NWSendParam)

theorem isTspdu_retry :
    (x.retry p layer deltaBL pduMsgType bytes slot).IsTspdu x.version x.transNum p.auth pduMsgType
      (transNumLo x.version x.transNum) bytes where
  version := rfl
  pduSize := rfl
  hdr := rfl
  length_low := length_transNumLo _ _
  data := by
    simp only [retry, Pdu.store, storeBytes, List.append_assoc]
    exact ⟨_, rfl⟩

def lowAfterReminder : List UInt8 :=
  if x.version = LsProtocolModeLegacy then []
  else if p.service = .acknowledged ∨ p.service = .request then [slot.pdu.byte 0]
  else [UInt8.ofNat x.transNum]

theorem isTspdu_retryAfterReminder :
    (x.retryAfterReminder p layer deltaBL pduMsgType bytes slot).IsTspdu x.version x.transNum p.auth
      pduMsgType (x.lowAfterReminder p slot) bytes where
  version := rfl
  pduSize := rfl
  hdr := rfl
  length_low := by
    unfold lowAfterReminder dataIndex
    split
    · rfl
    · split <;> rfl
  data := by
    simp only [retryAfterReminder, Pdu.store, storeBytes, List.append_assoc]
    exact ⟨_, rfl⟩

theorem isTspdu_firstPdu (hbytes : bytes.length = x.apduSize) :
    ∃ pduMsgType < 4,
      (x.firstPdu p layer bytes slot).IsTspdu x.version x.transNum p.auth pduMsgType
        (transNumLo x.version x.transNum) bytes := by
  refine ⟨_, ?_, ⟨rfl, ?_, rfl, length_transNumLo _ _, ?_⟩⟩
  · split
    · decide
    · cases layer <;> decide
  · simp only [firstPdu, hbytes]
    omega
  · simp only [firstPdu, Pdu.store, storeBytes, List.append_assoc]
    exact ⟨_, rfl⟩

end TransmitRecord

namespace ProtocolStackData

def retriesAsPair (gp : ProtocolStackData) (b : Bool) : Bool :=
  match (gp.tsaOutQ b).toList.head? with
  | none => false
  | some p =>
    (p.service == .acknowledged || p.service == .request) &&
      (gp.xmitRec b).nwDestAddr.addressMode == .multicast &&
      2 < (gp.xmitRec b).mListLength.getD 0

inductive CarriesMessage (gp : ProtocolStackData) (b : Bool) (low : List UInt8) (nw : NWSendParam) :
    Prop
  | whole (auth : Bool) (pduMsgType : UInt8) :
      pduMsgType < 4 →
      nw.IsTspdu (gp.xmitRec b).version (gp.xmitRec b).transNum auth pduMsgType low
        (gp.xmitApdu b) →
      CarriesMessage gp b low nw
  | withList (auth : Bool) (mList : List UInt8) :
      mList.length < 256 →
      nw.IsTspdu (gp.xmitRec b).version (gp.xmitRec b).transNum auth Pdu.REM_MSG_MSG low
        (UInt8.ofNat mList.length :: mList ++ gp.xmitApdu b) →
      CarriesMessage gp b low nw

end ProtocolStackData

theorem TSAReceiveParam.Carries.decodes_iff {p : TSAReceiveParam} {nw : NWSendParam}
    {low : List UInt8} (hp : p.Carries nw) (hsize : p.pduSize = nw.pduSize)
    (hnw : gp.CarriesMessage b low nw) (hlen : (gp.xmitRec b).apduSize < 65536) :
    p.Decodes (gp.xmitRec b).transNum (gp.xmitApdu b) ↔
      (gp.xmitRec b).transNum < transNumBound (gp.xmitRec b).version ∧
        low = transNumLo (gp.xmitRec b).version (gp.xmitRec b).transNum := by
  have hlen' : (gp.xmitApdu b).length < 65536 := by
    rw [ProtocolStackData.xmitApdu, length_bytesAt]
    exact hlen
  cases hnw with
  | whole auth pduMsgType htype hform =>
    exact hp.decodes_iff_of_message hsize hform (UInt8.lt_trans htype (by decide)) hlen'
  | withList auth mList hlist hform => exact hp.decodes_iff_of_remMsg hsize hform hlist rfl hlen'

namespace ProtocolStackData

def retryLow (gp : ProtocolStackData) (b : Bool) : List UInt8 :=
  if gp.retriesAsPair b && (gp.xmitRec b).version != LsProtocolModeLegacy then
    [(gp.nwOutQ b).nextSlot.pdu.byte 0]
  else transNumLo (gp.xmitRec b).version (gp.xmitRec b).transNum

theorem retryLow_of_single (h : gp.retriesAsPair b = false) :
    gp.retryLow b = transNumLo (gp.xmitRec b).version (gp.xmitRec b).transNum := by
  rw [retryLow, h, Bool.false_and, if_neg Bool.false_ne_true]

theorem lowAfterReminder_eq {p : TSASendParam} (hpair : gp.retriesAsPair b = true)
    (hservice : p.service = .acknowledged ∨ p.service = .request) :
    (gp.xmitRec b).lowAfterReminder p (gp.nwOutQ b).nextSlot = gp.retryLow b := by
  rw [TransmitRecord.lowAfterReminder, retryLow, hpair, if_pos hservice]
  by_cases hv : (gp.xmitRec b).version = LsProtocolModeLegacy
  · simp [hv, transNumLo]
  · simp [hv]

inductive Retries (gp : ProtocolStackData) (b : Bool) (layer : Layer) : NWSendParam → Prop
  | whole (p : TSASendParam) (deltaBL : Nat) (pduMsgType : UInt8) (slot : NWSendParam) :
      pduMsgType < 4 → gp.retriesAsPair b = false →
      Retries gp b layer
        ((gp.xmitRec b).retry p layer deltaBL pduMsgType (gp.xmitApdu b) slot)
  | remMsg (p : TSASendParam) (deltaBL length : Nat) (slot : NWSendParam) :
      (gp.xmitRec b).mListLength = some length → length ≤ 2 → gp.retriesAsPair b = false →
      (gp.xmitRec b).nwDestAddr.addressMode = .multicast →
      Retries gp b layer
        ((gp.xmitRec b).retry p layer deltaBL Pdu.REM_MSG_MSG
          ((gp.xmitRec b).mList length ++ gp.xmitApdu b) slot)
  | reminder (p : TSASendParam) (length : Nat) (slot : NWSendParam) :
      (gp.xmitRec b).mListLength = some length →
      (gp.xmitRec b).nwDestAddr.addressMode = .multicast →
      Retries gp b layer
        { (gp.xmitRec b).retry p layer 0 Pdu.REMINDER_MSG ((gp.xmitRec b).mList length) slot with
          dropIfUnconfigured := true }
  | afterReminder (p : TSASendParam) (deltaBL : Nat) (pduMsgType : UInt8) :
      pduMsgType < 4 → gp.retriesAsPair b = true →
      p.service = .acknowledged ∨ p.service = .request →
      Retries gp b layer
        ((gp.xmitRec b).retryAfterReminder p layer deltaBL pduMsgType (gp.xmitApdu b)
          (gp.nwOutQ b).nextSlot)
  | noReminder (p : TSASendParam) (deltaBL : Nat) (pduMsgType : UInt8) (slot : NWSendParam) :
      pduMsgType < 4 → gp.retriesAsPair b = false →
      ¬(p.service = .acknowledged ∨ p.service = .request) →
      Retries gp b layer
        ((gp.xmitRec b).retryAfterReminder p layer deltaBL pduMsgType (gp.xmitApdu b) slot)

theorem retries_of_added {layer : Layer} {nw : NWSendParam}
    (h : nw ∈ (gp.nwOutQ b).added ((gp.retransmit layer b).nwOutQ b)) :
    gp.Retries b layer nw := by
  simp only [retransmit] at h
  split at h
  case h_1 => simp [Queue.added_self] at h
  case h_2 p hp =>
    rw [Queue.peek_eq_head?] at hp
    split at h
    case isTrue => simp [modifyXmit, Queue.added_self] at h
    case isFalse =>
      split at h
      case isTrue hservice =>
        simp only [modifyXmit, pushNw, Function.update_self] at h
        rw [Queue.eq_of_mem_added_push h]
        exact .whole p _ _ _ (by decide) (by simp [retriesAsPair, hp, hservice])
      case isFalse =>
        split at h
        case isTrue hmode =>
          split at h
          case isTrue =>
            simp only [modifyXmit, pushNw, Function.update_self] at h
            rw [Queue.eq_of_mem_added_push h]
            exact .whole p _ _ _ (by cases layer <;> decide) (by simp [retriesAsPair, hp, hmode])
          case isFalse => simp [modifyXmit, Queue.added_self] at h
        case isFalse hmode =>
          rw [ne_eq, Decidable.not_not] at hmode
          split at h
          case h_1 => simp [modifyXmit, Queue.added_self] at h
          case h_2 length hlength =>
            split at h
            case isTrue hshort =>
              simp only [modifyXmit, pushNw, Function.update_self] at h
              have hpair : gp.retriesAsPair b = false := by
                simp [retriesAsPair, hp, hlength]
                omega
              rw [Queue.eq_of_mem_added_push h]
              exact .remMsg p _ length _ hlength hshort hpair hmode
            case isFalse hlong =>
              split at h
              case isTrue => simp [modifyXmit, Queue.added_self] at h
              case isFalse =>
                have htype : (if p.service = .acknowledged then Pdu.ACKD_MSG
                    else Pdu.REQUEST_MSG) < 4 := by split <;> decide
                by_cases hservice : p.service = .acknowledged ∨ p.service = .request
                · have hpair : gp.retriesAsPair b = true := by
                    simp [retriesAsPair, hp, hlength, hmode, hservice]
                    omega
                  simp only [modifyXmit, pushNw, Function.update_self, if_pos hservice] at h
                  rcases Queue.eq_of_mem_added_push_push h with hnw | hnw
                  · rw [hnw]
                    exact .reminder p length _ hlength hmode
                  · rw [hnw]
                    exact .afterReminder p _ _ htype hpair hservice
                · have hpair : gp.retriesAsPair b = false := by
                    rw [not_or] at hservice
                    simp [retriesAsPair, hp, hservice]
                  simp only [modifyXmit, pushNw, Function.update_self, if_neg hservice] at h
                  rw [Queue.eq_of_mem_added_push h]
                  exact .noReminder p _ _ _ htype hpair hservice

theorem added_retransmit {layer : Layer} {nw : NWSendParam}
    (h : nw ∈ (gp.nwOutQ b).added ((gp.retransmit layer b).nwOutQ b)) :
    nw.pdu.pduMsgType = Pdu.REMINDER_MSG ∨ gp.CarriesMessage b (gp.retryLow b) nw := by
  cases retries_of_added h with
  | whole p deltaBL pduMsgType slot htype hpair =>
    rw [retryLow_of_single hpair]
    exact .inr (.whole _ _ htype (TransmitRecord.isTspdu_retry ..))
  | remMsg p deltaBL length slot hlength hshort hpair =>
    rw [retryLow_of_single hpair]
    have hform := (gp.xmitRec b).isTspdu_retry p layer deltaBL Pdu.REM_MSG_MSG
      ((gp.xmitRec b).mList length ++ gp.xmitApdu b) slot
    refine .inr (.withList p.auth ((List.range length).map (gp.xmitRec b).mListByte) ?_ ?_)
    · simp
      omega
    · rw [List.length_map, List.length_range]
      exact hform
  | reminder => exact .inl (Pdu.tspduHdr_fields (by decide) _ _ _).1
  | afterReminder p deltaBL pduMsgType htype hpair hservice =>
    right
    rw [← lowAfterReminder_eq hpair hservice]
    exact .whole _ _ htype (TransmitRecord.isTspdu_retryAfterReminder ..)
  | noReminder p deltaBL pduMsgType slot htype hpair hservice =>
    right
    have hlow : (gp.xmitRec b).lowAfterReminder p slot =
        transNumLo (gp.xmitRec b).version (gp.xmitRec b).transNum := by
      rw [TransmitRecord.lowAfterReminder, if_neg hservice, transNumLo]
    rw [retryLow_of_single hpair, ← hlow]
    exact .whole _ _ htype (TransmitRecord.isTspdu_retryAfterReminder ..)

theorem message_retransmit (gp : ProtocolStackData) (b : Bool) (layer : Layer) :
    ((gp.retransmit layer b).xmitRec b).version = (gp.xmitRec b).version ∧
      ((gp.retransmit layer b).xmitRec b).transNum = (gp.xmitRec b).transNum ∧
      (gp.retransmit layer b).xmitApdu b = gp.xmitApdu b := by
  have hkept : ((gp.retransmit layer b).xmitRec b).version = (gp.xmitRec b).version ∧
      ((gp.retransmit layer b).xmitRec b).transNum = (gp.xmitRec b).transNum := by
    simp only [retransmit]
    repeat' split
    all_goals first
      | exact ⟨rfl, rfl⟩
      | simp [TransmitRecord.loseRetry, TransmitRecord.countRetry]
  have hx : ((gp.retransmit layer b).xmitRec b).transaction = (gp.xmitRec b).transaction :=
    gp.transaction_retransmit layer
  refine ⟨hkept.1, hkept.2, ?_⟩
  rw [xmitApdu, xmitApdu, tsaOutQ_retransmit]
  have hapdu : ((gp.retransmit layer b).xmitRec b).apdu = (gp.xmitRec b).apdu :=
    congrArg Transaction.apdu hx
  have hsize : ((gp.retransmit layer b).xmitRec b).apduSize = (gp.xmitRec b).apduSize :=
    congrArg Transaction.apduSize hx
  rw [hapdu, hsize]

theorem added_startTrans {layer : Layer} {p : TSASendParam} {nwDestAddr : DestinationAddress}
    {rptTimer : Nat} {nw : NWSendParam} (hp : (gp.tsaOutQ b).peek = some p)
    (h : nw ∈ (gp.nwOutQ b).added
      ((gp.startTrans layer b p nwDestAddr rptTimer).nwOutQ b)) :
    (gp.startTrans layer b p nwDestAddr rptTimer).CarriesMessage b
      (transNumLo ((gp.startTrans layer b p nwDestAddr rptTimer).xmitRec b).version
        ((gp.startTrans layer b p nwDestAddr rptTimer).xmitRec b).transNum) nw ∧
      ((gp.startTrans layer b p nwDestAddr rptTimer).xmitRec b).apduSize = p.apduSize := by
  have hslot : ((gp.tsaOutQ b).fillHead (p.forDest nwDestAddr)).data
      ((gp.tsaOutQ b).fillHead (p.forDest nwDestAddr)).headIndex = p.forDest nwDestAddr := by
    rw [Queue.fillHead, if_pos (by rw [hp]; rfl)]
    exact Function.update_self ..
  simp only [startTrans] at h ⊢
  split at h
  case isTrue => simp [modifyTsaOut, Queue.added_self] at h
  case isFalse hcode =>
    simp only [if_neg hcode]
    simp only [pushNw, Function.update_self] at h ⊢
    rw [Queue.eq_of_mem_added_push h]
    generalize hx : newXmitRec layer b (p.forDest nwDestAddr) nwDestAddr rptTimer _ _ = x
    have hapdu : ((gp.tsaOutQ b).fillHead (p.forDest nwDestAddr)).data x.apdu = p.forDest nwDestAddr := by
      rw [← hx]
      simpa [newXmitRec, modifyTsaOut] using hslot
    have hsize : x.apduSize = (p.forDest nwDestAddr).apduSize := by rw [← hx]; rfl
    obtain ⟨pduMsgType, htype, hform⟩ := x.isTspdu_firstPdu (p.forDest nwDestAddr) layer
      (bytesAt (p.forDest nwDestAddr).apdu 0 (p.forDest nwDestAddr).apduSize)
      (gp.nwOutQ b).tailSlot (by rw [length_bytesAt, hsize])
    refine ⟨.whole (p.forDest nwDestAddr).auth pduMsgType htype ?_, ?_⟩
    · simp only [xmitApdu, Function.update_self, modifyTsaOut, hapdu, hsize]
      exact hform
    · rw [hsize, TSASendParam.apduSize_forDest]

end ProtocolStackData

def Call.transmits (b : Bool) : Call → Bool
  | .startTrans _ b' _ _ _ => b' == b
  | .retransmit _ b' => b' == b
  | _ => false

/-- The message goes out behind a REMINDER, and the slot for it holds another byte in the place of
the low byte of its transaction number. -/
def misplacesLow (b : Bool) (x : ProtocolStackData × Call) : Bool :=
  match x.2 with
  | .retransmit _ _ =>
    x.1.retriesAsPair b && (x.1.xmitRec b).version != LsProtocolModeLegacy &&
      (x.1.nwOutQ b).nextSlot.pdu.byte 0 != UInt8.ofNat (x.1.xmitRec b).transNum
  | _ => false

theorem retryLow_eq_iff (layer : Layer) (b' : Bool) :
    gp.retryLow b = transNumLo (gp.xmitRec b).version (gp.xmitRec b).transNum ↔
      misplacesLow b (gp, .retransmit layer b') = false := by
  simp only [ProtocolStackData.retryLow, misplacesLow, transNumLo]
  by_cases hpair : (gp.retriesAsPair b && (gp.xmitRec b).version != LsProtocolModeLegacy) = true
  · have hv : (gp.xmitRec b).version ≠ LsProtocolModeLegacy := by
      simp only [Bool.and_eq_true, bne_iff_ne] at hpair
      exact hpair.2
    rw [if_pos hpair, if_neg hv, hpair]
    simp
  · rw [if_neg hpair, Bool.not_eq_true] at *
    simp [hpair]

/-- Every PDU of a transaction that carries its message is read as it was meant, unless the number
of the transaction is too large for the header or the low byte of the number is misplaced. -/
theorem message_decodes_iff {gr : ProtocolStackData} {nw : NWSendParam} {p : TSAReceiveParam}
    (hinit : g₀.PowerUp) (hbuf : g₀.BuffersDecoded) (hrun : Reaches g₀ (h₂ ++ (gp, c) :: h₁) gr)
    (hc : c.transmits b = true) (htrans : ((c.apply gp).transCtrl b).inProgress = true)
    (hnw : nw ∈ (gp.nwOutQ b).added ((c.apply gp).nwOutQ b)) (hmsg : nw.pdu.pduMsgType ≠ Pdu.REMINDER_MSG) (hp : p.Carries nw)
    (hsize : p.pduSize = nw.pduSize) :
    p.Decodes ((c.apply gp).xmitRec b).transNum ((c.apply gp).xmitApdu b) ↔
      ((c.apply gp).xmitRec b).transNum < transNumBound ((c.apply gp).xmitRec b).version ∧
        misplacesLow b (gp, c) = false := by
  obtain ⟨hg, hfits⟩ := (hrun.fits hinit hbuf).split rfl
  obtain ⟨hbound, hfits⟩ := hfits b
  cases c with
  | startTrans layer b' q a rpt =>
    obtain rfl : b' = b := by simpa [Call.transmits] using hc
    obtain ⟨hform, happdu⟩ := ProtocolStackData.added_startTrans hg.2.1 hnw
    have hrejected := hg.2.2.2
    simp only [TSASendParam.rejected, Bool.or_eq_false_iff, decide_eq_false_iff_not,
      Nat.not_lt] at hrejected
    rw [Call.apply, hp.decodes_iff hsize hform (by omega), and_iff_left rfl, misplacesLow,
      and_iff_left rfl]
  | retransmit layer b' =>
    obtain rfl : b' = b := by simpa [Call.transmits] using hc
    have hform := (ProtocolStackData.added_retransmit hnw).resolve_left hmsg
    obtain ⟨hversion, hnum, happdu⟩ :=
      gp.message_retransmit b' layer
    rw [Call.apply, ProtocolStackData.transCtrl_retransmit] at htrans
    have hlen := hfits htrans
    rw [Call.apply, hversion, hnum, happdu, hp.decodes_iff hsize hform (by omega),
      retryLow_eq_iff layer b']
  | _ => simp [Call.transmits] at hc

def lastStep (g₀ : ProtocolStackData) (es : List Event) : ProtocolStackData × Call :=
  (runEvents es ([], g₀)).1.headD (g₀, .dropTsaIn)

def lastQueued (g₀ : ProtocolStackData) (es : List Event) : NWSendParam :=
  let x := lastStep g₀ es
  ((x.1.nwOutQ false).added ((x.2.apply x.1).nwOutQ false)).headD default

def lastReceived (g₀ : ProtocolStackData) (es : List Event) : TSAReceiveParam :=
  let nw := lastQueued g₀ es
  { (default : TSAReceiveParam) with
    pduSize := nw.pduSize
    pduType := nw.pduType
    version := nw.version
    pdu := nw.pdu }

theorem ProtocolStackData.reaches_lastStep (g₀ : ProtocolStackData) (es : List Event)
    (hes : (runEvents es ([], g₀)).1.isEmpty = false) :
    Reaches g₀ ([] ++ lastStep g₀ es :: (runEvents es ([], g₀)).1.tail) (runEvents es ([], g₀)).2 := by
  have hrun := g₀.reaches_runEvents es
  rw [lastStep]
  generalize (runEvents es ([], g₀)).1 = h at hes hrun
  cases h with
  | nil => simp at hes
  | cons => exact hrun

def forwardedRequest : List Event :=
  [.env (.networkReceive
      (messageFrom (nodeSource 2) LsProtocolModeEnhanced .spdu Pdu.REQUEST_MSG 0x123 [0x10])),
    .sessionLayerReceive,
    .env (.appSend false
      { messageTo (nodeAddress 3) .request 1 [0x10] with proxy := true, txInherit := true }),
    .sessionLayerSend]

theorem not_message_decodes :
    ¬∀ (g₀ gp gr : ProtocolStackData) (h₂ h₁ : CallHistory) (c : Call) (b : Bool)
      (nw : NWSendParam) (p : TSAReceiveParam),
      g₀.PowerUp → g₀.BuffersDecoded → Reaches g₀ (h₂ ++ (gp, c) :: h₁) gr →
      c.transmits b = true → ((c.apply gp).transCtrl b).inProgress = true →
      nw ∈ (gp.nwOutQ b).added ((c.apply gp).nwOutQ b) →
      nw.pdu.pduMsgType ≠ Pdu.REMINDER_MSG → p.Carries nw → p.pduSize = nw.pduSize →
      p.Decodes ((c.apply gp).xmitRec b).transNum ((c.apply gp).xmitApdu b) := by
  intro hall
  have hdecodes := hall _ _ _ _ _ _ false (lastQueued (.reset default 3 50) forwardedRequest)
    (lastReceived (.reset default 3 50) forwardedRequest)
    (ProtocolStackData.powerUp_reset default 3 50) (fun _ => ⟨10, rfl⟩)
    (ProtocolStackData.reaches_lastStep _ forwardedRequest (by decide +kernel)) (by decide +kernel)
    (by decide +kernel) (by decide +kernel) (by decide +kernel) ⟨rfl, rfl, rfl⟩ rfl
  revert hdecodes
  unfold TSAReceiveParam.Decodes
  decide +kernel

def retriedMessage : List Event :=
  [.env (.appSend false
      (messageTo { groupAddress 4 3 with repeatRetry := 1 } .acknowledged 7 [0x10, 0x20])),
    .transportLayerSend,
    .env (.tick 1000),
    .transportLayerSend]

theorem message_decodes_retriedMessage :
    (lastReceived (.reset default 4 50) retriedMessage).Decodes 0 [0x10, 0x20] := by
  have hiff := message_decodes_iff (b := false) (ProtocolStackData.powerUp_reset default 4 50)
    (fun _ => ⟨10, rfl⟩)
    (ProtocolStackData.reaches_lastStep _ retriedMessage (by decide +kernel)) (by decide +kernel)
    (by decide +kernel) (by decide +kernel : lastQueued (.reset default 4 50) retriedMessage ∈ _) (by decide +kernel)
    (⟨rfl, rfl, rfl⟩ : (lastReceived (.reset default 4 50) retriedMessage).Carries _) rfl
  exact hiff.2 (by decide +kernel)

end LonStack
