import LonStack.Tsa.Retransmit
import Mathlib.Data.Finset.Card
import Mathlib.Data.Finset.Range

namespace LonStack

open Lib

theorem bit_and_bit {j k : Nat} (hj : j < 8) (hk : k < 8) :
    ((1 : UInt8) <<< UInt8.ofNat j) &&& (1 <<< UInt8.ofNat k) = 0 ↔ j ≠ k := by
  have hall : ∀ j k : Fin 8,
      ((1 : UInt8) <<< UInt8.ofNat j) &&& (1 <<< UInt8.ofNat k) = 0 ↔ (j : Nat) ≠ k := by decide
  exact hall ⟨j, hj⟩ ⟨k, hk⟩

theorem or_and_eq_zero {a b c : UInt8} : (a ||| b) &&& c = 0 ↔ a &&& c = 0 ∧ b &&& c = 0 := by
  have hdistrib : (a ||| b) &&& c = a &&& c ||| b &&& c :=
    UInt8.toBitVec_inj.mp BitVec.and_or_distrib_right
  rw [hdistrib, UInt8.or_eq_zero_iff]

theorem foldl_bits_and_bit (bit : Nat → Bool) {js : List Nat} (hjs : ∀ k ∈ js, k < 8) {j : Nat}
    (hj : j < 8) (byte : UInt8) :
    js.foldl (fun byte k => byte ||| (if bit k then (1 : UInt8) <<< UInt8.ofNat k else 0)) byte &&&
        (1 <<< UInt8.ofNat j) = 0 ↔
      byte &&& (1 <<< UInt8.ofNat j) = 0 ∧ (j ∈ js → bit j = false) := by
  induction js generalizing byte with
  | nil => simp
  | cons k js ih =>
    obtain ⟨hk, hjs⟩ := List.forall_mem_cons.mp hjs
    rw [List.foldl_cons, ih hjs, or_and_eq_zero, and_assoc]
    apply and_congr_right
    intro _
    cases hbit : bit k with
    | true =>
      rw [if_pos rfl, bit_and_bit hk hj, List.mem_cons]
      grind
    | false =>
      rw [if_neg Bool.false_ne_true, List.mem_cons]
      grind

theorem TransmitRecord.mListByte_and_bit (x : TransmitRecord) (n : Nat) {j : Nat} (hj : j < 8) :
    x.mListByte n &&& (1 <<< UInt8.ofNat j) = 0 ↔ x.ackReceived (8 * n + j) = false := by
  have hbits := foldl_bits_and_bit (fun j => x.ackReceived (8 * n + j))
    (fun k (hk : k ∈ List.range 8) => List.mem_range.mp hk) hj 0
  rw [mListByte, hbits, and_iff_right UInt8.zero_and]
  simp [hj]

theorem find?_reverse_range {p : Nat → Bool} {n i : Nat}
    (h : (List.range n).reverse.find? p = some i) :
    i < n ∧ p i = true ∧ ∀ k, i < k → k < n → p k = false := by
  induction n with
  | zero => simp at h
  | succ n ih =>
    rw [List.range_succ, List.reverse_append, List.reverse_singleton, List.singleton_append,
      List.find?_cons] at h
    cases hp : p n with
    | true =>
      rw [hp] at h
      obtain rfl : n = i := by simpa using h
      exact ⟨by omega, hp, fun k hlow hhigh => by omega⟩
    | false =>
      rw [hp] at h
      obtain ⟨hlt, hi, hrest⟩ := ih h
      refine ⟨by omega, hi, fun k hlow hhigh => ?_⟩
      by_cases hk : k = n
      · exact hk ▸ hp
      · exact hrest k hlow (by omega)

namespace TransmitRecord

variable {x : TransmitRecord}

def answerers (x : TransmitRecord) : Finset Nat :=
  (Finset.range (MAX_GROUP_NUMBER + 1)).filter fun member => x.ackReceived member

def MembersCounted (x : TransmitRecord) : Prop :=
  x.nwDestAddr.addressMode = .multicast → x.ackCount = x.answerers.card

theorem mem_answerers {member : Nat} :
    member ∈ x.answerers ↔ member ≤ MAX_GROUP_NUMBER ∧ x.ackReceived member = true := by
  rw [answerers, Finset.mem_filter, Finset.mem_range, Nat.lt_succ_iff]

theorem MembersCounted.mListLength (h : x.MembersCounted)
    (hmode : x.nwDestAddr.addressMode = .multicast) {length : Nat}
    (hlength : x.mListLength = some length) :
    length ≤ 8 ∧ ∀ member ≤ MAX_GROUP_NUMBER, length ≤ member / 8 →
      x.ackReceived member = false := by
  have hcount := h hmode
  rw [TransmitRecord.mListLength] at hlength
  split at hlength
  case isTrue hzero =>
    obtain rfl : 0 = length := by simpa using hlength
    refine ⟨by omega, fun member hmember _ => ?_⟩
    rw [hzero, eq_comm, Finset.card_eq_zero] at hcount
    rw [← Bool.not_eq_true]
    intro hack
    have hmem := mem_answerers.mpr ⟨hmember, hack⟩
    rw [hcount] at hmem
    exact absurd hmem (Finset.notMem_empty member)
  case isFalse =>
    obtain ⟨i, hi, rfl⟩ := Option.map_eq_some_iff.mp hlength
    obtain ⟨hlt, -, hrest⟩ := find?_reverse_range hi
    refine ⟨?_, fun member hmember hbeyond => hrest member (by omega) (by omega)⟩
    have hbound : MAX_GROUP_NUMBER = 63 := rfl
    omega

end TransmitRecord

section

variable {h : CallHistory} {gp g₀ : ProtocolStackData} {c : Call} {b : Bool}

theorem TransmitRecord.card_answerers_update {x : TransmitRecord} {member : Nat}
    (hmember : member ≤ MAX_GROUP_NUMBER) (hnew : x.ackReceived member = false)
    (hcount : x.ackCount = x.answerers.card) :
    (x.ackCount + 1) % 256 =
      ({ x with ackReceived := Function.update x.ackReceived member true }).answerers.card := by
  have hnotMem : member ∉ x.answerers := by
    rw [mem_answerers, hnew]
    simp
  have hinsert : ({ x with ackReceived := Function.update x.ackReceived member true }).answerers =
      insert member x.answerers := by
    ext k
    rw [Finset.mem_insert, mem_answerers, mem_answerers]
    by_cases hk : k = member
    · subst hk
      simp [hmember]
    · simp [hk]
  have hbound : x.answerers.card ≤ MAX_GROUP_NUMBER + 1 := by
    calc x.answerers.card
        ≤ (Finset.range (MAX_GROUP_NUMBER + 1)).card := Finset.card_filter_le _ _
      _ = MAX_GROUP_NUMBER + 1 := Finset.card_range _
  have hmax : MAX_GROUP_NUMBER = 63 := rfl
  rw [hinsert, Finset.card_insert_of_notMem hnotMem, hcount]
  omega

theorem TransmitRecord.MembersCounted.of_transaction {x y : TransmitRecord}
    (hx : x.MembersCounted) (heq : y.transaction = x.transaction) : y.MembersCounted := by
  have haddr : y.nwDestAddr = x.nwDestAddr := congrArg Transaction.nwDestAddr heq
  have hack : y.ackReceived = x.ackReceived := congrArg Transaction.ackReceived heq
  have hcount : y.ackCount = x.ackCount := congrArg Transaction.ackCount heq
  unfold MembersCounted at hx ⊢
  rw [haddr, hcount, answerers, hack]
  exact hx

theorem membersCounted_takeResponse {p : TSAReceiveParam} (sent : TSASendParam)
    (hx : (gp.xmitRec p.priority).MembersCounted) :
    ((gp.takeResponse p sent).xmitRec p.priority).MembersCounted := by
  simp only [ProtocolStackData.takeResponse]
  split
  case isFalse => exact hx
  case isTrue haccepted =>
    rw [ProtocolStackData.xmitRec_modifyXmit]
    intro hmode
    have hmode' : (gp.xmitRec p.priority).nwDestAddr.addressMode = .multicast := hmode
    have hcount := hx hmode'
    simp only [ProtocolStackData.responseAccepted, hmode', Bool.and_eq_true, beq_iff_eq,
      decide_eq_true_eq, Bool.not_eq_true'] at haccepted
    have hupdate := TransmitRecord.card_answerers_update haccepted.1.2 haccepted.2 hcount
    simp only [ProtocolStackData.modifyTsaOut, hmode', if_true]
    exact hupdate

theorem membersCounted_step (hg : c.Guard h gp) (hm : gp.QueuesMarked)
    (hx : (gp.transCtrl b).inProgress = true → (gp.xmitRec b).MembersCounted)
    (hprogress : ((c.apply gp).transCtrl b).inProgress = true) :
    ((c.apply gp).xmitRec b).MembersCounted := by
  by_cases hresponse : ∃ p sent, c = .takeResponse p sent ∧ p.priority = b
  · obtain ⟨p, sent, rfl, rfl⟩ := hresponse
    rw [Call.apply, ProtocolStackData.transCtrl_takeResponse] at hprogress
    exact membersCounted_takeResponse sent (hx hprogress)
  · obtain ⟨x, hstep, status, heq⟩ := exists_sendStep hg hm b
    suffices x.MembersCounted by
      rw [heq]
      exact this
    generalize (c.apply gp).transCtrl b = ctrl, (c.apply gp).tsaOutQ b = q at hstep hprogress
    cases hstep with
    | kept _ hsame => exact (hx hprogress).of_transaction hsame
    | completed => exact hx hprogress
    | refused _ _ _ hctrl => exact hx (hctrl ▸ hprogress)
    | terminated => exact absurd hprogress Bool.false_ne_true
    | started rptTimer _ _ _ _ hnew =>
      intro _
      have hack : x.ackReceived = fun _ => false := congrArg Transaction.ackReceived hnew
      have hcount : x.ackCount = 0 := congrArg Transaction.ackCount hnew
      rw [hcount, TransmitRecord.answerers, hack]
      simp
    | ackCounted _ hmode hcounted =>
      intro hmulticast
      have haddr : x.nwDestAddr = (gp.xmitRec b).nwDestAddr :=
        congrArg Transaction.nwDestAddr hcounted
      exact absurd (haddr ▸ hmulticast) hmode
    | memberCounted member hlayer hmode hcounted =>
      split at hcounted
      case isTrue => exact (hx hprogress).of_transaction hcounted
      case isFalse hnew =>
        rw [Bool.not_eq_true] at hnew
        have hcount := hx hprogress hmode
        have hack : x.ackReceived = Function.update (gp.xmitRec b).ackReceived member true :=
          congrArg Transaction.ackReceived hcounted
        have hone : x.ackCount = ((gp.xmitRec b).ackCount + 1) % 256 :=
          congrArg Transaction.ackCount hcounted
        intro _
        rw [hone, TransmitRecord.card_answerers_update hg.2.2 hnew hcount,
          TransmitRecord.answerers, TransmitRecord.answerers, hack]
    | responseTaken sent hp => exact absurd ⟨_, sent, rfl, hp⟩ hresponse

theorem Reaches.membersCounted (hrun : Reaches g₀ h gp) (hinit : g₀.PowerUp) :
    EachCall (fun _ gp _ => ∀ b, (gp.transCtrl b).inProgress = true →
      (gp.xmitRec b).MembersCounted) h := by
  obtain ⟨-, hcalls⟩ := hrun.invariant
    (I := fun _ gp => gp.QueuesMarked ∧
      ∀ b, (gp.transCtrl b).inProgress = true → (gp.xmitRec b).MembersCounted)
    ⟨fun b m hm => by simp [hinit.messages b] at hm,
      fun b hprogress => by simp [hinit.transCtrl b] at hprogress⟩
    (fun _ _ _ hg hI =>
      ⟨queuesMarked_step hg hI.1, fun b => membersCounted_step hg hI.1 (hI.2 b)⟩)
  exact hcalls.mono fun _ _ _ hx => hx.2.2

end

namespace TSAReceiveParam.Carries

variable {p : TSAReceiveParam} {nw : NWSendParam} {x : TransmitRecord} {v num n : Nat} {auth : Bool}
  {pduMsgType : UInt8} {low apdu : List UInt8}

theorem byte_eq (hp : p.Carries nw) {bytes : List UInt8}
    (hnw : nw.IsTspdu v num auth pduMsgType low bytes) {k : Nat} (hk : k < bytes.length) :
    p.pdu.byte (p.dataIndex + k) = bytes.getD k 0 := by
  have hbytes := hp.tspdu_bytes hnw
  rw [← hp.tspdu_dataIndex hnw] at hbytes
  rw [← hbytes, List.getD_eq_getElem?_getD]
  simp [bytesAt, Pdu.byte, hk]

theorem asksMember_iff (hp : p.Carries nw)
    (hnw : nw.IsTspdu v num auth pduMsgType low (x.mList n ++ apdu)) (hn : n ≤ 8)
    (hbeyond : ∀ member ≤ MAX_GROUP_NUMBER, n ≤ member / 8 → x.ackReceived member = false)
    {member : UInt8} (hmember : member.toNat ≤ MAX_GROUP_NUMBER) :
    p.asksMember member = true ↔ x.ackReceived member.toNat = false := by
  have hlength : (x.mList n ++ apdu).length = n + 1 + apdu.length := by
    simp [TransmitRecord.mList]
    omega
  have hcount : p.mListLength = n := by
    have hfirst := hp.byte_eq hnw (k := 0) (by omega)
    rw [TSAReceiveParam.mListLength, ← Nat.add_zero p.dataIndex, hfirst]
    simp [TransmitRecord.mList]
    omega
  unfold TSAReceiveParam.asksMember
  rw [hcount]
  by_cases hshort : n ≤ member.toNat / 8
  · simp [hshort, hbeyond member.toNat hmember hshort]
  · have hbyte := hp.byte_eq hnw (k := 1 + member.toNat / 8) (by omega)
    have hentry : (x.mList n ++ apdu).getD (1 + member.toNat / 8) 0 =
        x.mListByte (member.toNat / 8) := by
      have hrange : member.toNat / 8 < ((List.range n).map x.mListByte).length := by
        simp
        omega
      rw [TransmitRecord.mList, List.cons_append, Nat.add_comm 1, List.getD_cons_succ,
        List.getD_eq_getElem?_getD, List.getElem?_append_left hrange]
      simp [Nat.lt_of_not_le hshort]
    have hmod : member % 8 = UInt8.ofNat (member.toNat % 8) := by
      rw [← UInt8.toNat_inj]
      simp
      omega
    have hbit := x.mListByte_and_bit (member.toNat / 8) (Nat.mod_lt member.toNat (by decide : 0 < 8))
    rw [Nat.div_add_mod] at hbit
    rw [Nat.add_comm 1 p.dataIndex, Nat.add_assoc, hbyte, hentry, hmod, ← hbit]
    simp [hshort]
    omega

end TSAReceiveParam.Carries

structure ProtocolStackData.RemindedMember (r : ProtocolStackData) (layer : Layer)
    (p : TSAReceiveParam) (i : Fin RECEIVE_TRANS_COUNT) (member : UInt8) : Prop where
  found : r.retrieveRR p.srcAddr p.priority = some i
  isRemOf : p.isRemOf layer (r.recvRec i) = true
  serviceType : (r.recvRec i).serviceType ≠ .repeated
  member : r.eep.isGroupMember (r.recvRec i).srcAddr.dmn.domainIndex (r.recvRec i).srcAddr.group =
    some member

namespace Tsa

def respondToRem (layer : Layer) (p : TSAReceiveParam) (i : Fin RECEIVE_TRANS_COUNT) : Tsa Unit :=
  if p.isReminder then call .dropTsaIn else answerRem layer i

def noteRem (i : Fin RECEIVE_TRANS_COUNT) : Tsa Unit := do
  let gp ← gp
  let rr := gp.recvRec i
  if rr.transState = .delivered ∨ rr.transState = .responded then call (.noteAnswered i)
  call .dropTsaIn

theorem state_call_bind (c : Call) (f : Unit → Tsa Unit) (gp : ProtocolStackData) :
    (call c >>= f).state Call.apply gp = (f ()).state Call.apply (c.apply gp) := rfl

theorem state_gp_bind (f : ProtocolStackData → Tsa Unit) (s : ProtocolStackData) :
    (gp >>= f).state Call.apply s = (f s).state Call.apply s := rfl

theorem state_receiveRem {r : ProtocolStackData} {layer : Layer} {p : TSAReceiveParam}
    {i : Fin RECEIVE_TRANS_COUNT} {member : UInt8} (hr : r.RemindedMember layer p i member) :
    (receiveRem layer p).state Call.apply r =
      (if p.asksMember member then respondToRem layer p i else noteRem i).state Call.apply r := by
  rw [receiveRem, state_call_bind, apply_receiveRem, state_gp_bind, hr.found]
  dsimp only
  rw [hr.isRemOf, if_neg Bool.true_eq_false.mp, if_neg hr.serviceType, receiveRemFor, state_gp_bind]
  dsimp only
  rw [hr.member]
  dsimp only
  split
  · rfl
  · rfl

end Tsa

section

variable {h₁ h₂ : CallHistory} {g₀ gp gr r : ProtocolStackData} {layer layer' : Layer} {b : Bool}
  {nw : NWSendParam} {p : TSAReceiveParam} {i : Fin RECEIVE_TRANS_COUNT} {member : UInt8}

theorem NWSendParam.IsTspdu.pduMsgType_eq {v num : Nat} {auth : Bool} {pduMsgType : UInt8}
    {low bytes : List UInt8} (hnw : nw.IsTspdu v num auth pduMsgType low bytes)
    (htype : pduMsgType < 8) : nw.pdu.pduMsgType = pduMsgType := by
  have hpdu : nw.pdu = ⟨Pdu.tspduHdr auth pduMsgType (transNumHi v num), nw.pdu.data⟩ := by
    rw [← hnw.hdr]
  rw [hpdu]
  exact (Pdu.tspduHdr_fields htype _ _ _).1

theorem ProtocolStackData.Retries.withList (hnw : gp.Retries b layer nw)
    (hlist : nw.pdu.pduMsgType = Pdu.REMINDER_MSG ∨ nw.pdu.pduMsgType = Pdu.REM_MSG_MSG) :
    (gp.xmitRec b).nwDestAddr.addressMode = .multicast ∧
      ∃ length auth apdu, (gp.xmitRec b).mListLength = some length ∧
        (nw.pdu.pduMsgType = Pdu.REM_MSG_MSG → apdu = gp.xmitApdu b) ∧
        nw.IsTspdu (gp.xmitRec b).version (gp.xmitRec b).transNum auth nw.pdu.pduMsgType
          (transNumLo (gp.xmitRec b).version (gp.xmitRec b).transNum)
          ((gp.xmitRec b).mList length ++ apdu) := by
  have hother {num : Nat} {auth : Bool} {pduMsgType : UInt8} {low bytes : List UInt8}
      (hform : nw.IsTspdu (gp.xmitRec b).version num auth pduMsgType low bytes)
      (htype : pduMsgType < 4) : False := by
    rw [hform.pduMsgType_eq (UInt8.lt_trans htype (by decide))] at hlist
    rcases hlist with rfl | rfl
    · exact absurd htype (by decide)
    · exact absurd htype (by decide)
  cases hnw with
  | whole p deltaBL pduMsgType slot htype =>
    exact (hother (TransmitRecord.isTspdu_retry ..) htype).elim
  | remMsg p deltaBL length slot hlength _ _ hmode =>
    have hform := (gp.xmitRec b).isTspdu_retry p layer deltaBL Pdu.REM_MSG_MSG
      ((gp.xmitRec b).mList length ++ gp.xmitApdu b) slot
    rw [hform.pduMsgType_eq (by decide)]
    exact ⟨hmode, length, p.auth, gp.xmitApdu b, hlength, fun _ => rfl, hform⟩
  | reminder p length slot hlength hmode =>
    have hretry := (gp.xmitRec b).isTspdu_retry p layer 0 Pdu.REMINDER_MSG
      ((gp.xmitRec b).mList length) slot
    have hform : NWSendParam.IsTspdu
        { (gp.xmitRec b).retry p layer 0 Pdu.REMINDER_MSG ((gp.xmitRec b).mList length) slot with
          dropIfUnconfigured := true }
        (gp.xmitRec b).version (gp.xmitRec b).transNum p.auth Pdu.REMINDER_MSG
        (transNumLo (gp.xmitRec b).version (gp.xmitRec b).transNum)
        ((gp.xmitRec b).mList length ++ []) := by
      rw [List.append_nil]
      exact ⟨hretry.version, hretry.pduSize, hretry.hdr, hretry.length_low, hretry.data⟩
    rw [hform.pduMsgType_eq (by decide)]
    exact ⟨hmode, length, p.auth, [], hlength, fun hrem => absurd hrem (by decide), hform⟩
  | afterReminder p deltaBL pduMsgType htype =>
    exact (hother (TransmitRecord.isTspdu_retryAfterReminder ..) htype).elim
  | noReminder p deltaBL pduMsgType slot htype =>
    exact (hother (TransmitRecord.isTspdu_retryAfterReminder ..) htype).elim

/-- Every REMINDER and REM/MSG of a group transaction asks those members to respond whose answers
have not arrived, and the message of a REM/MSG is read from behind the list. -/
theorem rem_asks_missing (hinit : g₀.PowerUp) (hbuf : g₀.BuffersDecoded)
    (hrun : Reaches g₀ (h₂ ++ (gp, .retransmit layer b) :: h₁) gr)
    (htrans : (gp.transCtrl b).inProgress = true)
    (hnw : nw ∈ (gp.nwOutQ b).added ((gp.retransmit layer b).nwOutQ b))
    (hlist : nw.pdu.pduMsgType = Pdu.REMINDER_MSG ∨ nw.pdu.pduMsgType = Pdu.REM_MSG_MSG)
    (hp : p.Carries nw) (hsize : p.pduSize = nw.pduSize)
    (hr : r.RemindedMember layer' p i member) (hmember : member.toNat ≤ MAX_GROUP_NUMBER) :
    (p.asksMember member = true ↔ (gp.xmitRec b).ackReceived member.toNat = false) ∧
      (Tsa.receiveRem layer' p).state Call.apply r =
        (if (gp.xmitRec b).ackReceived member.toNat then Tsa.noteRem i
          else Tsa.respondToRem layer' p i).state Call.apply r ∧
      (p.isReminder = false → p.remApdu = gp.xmitApdu b) := by
  obtain ⟨hmode, length, auth, apdu, hlength, hmsg, hform⟩ :=
    (ProtocolStackData.retries_of_added hnw).withList hlist
  obtain ⟨-, hsizes⟩ := (hrun.fits hinit hbuf).split rfl
  have hcounted := (hrun.membersCounted hinit).split rfl b htrans
  obtain ⟨hshort, hbeyond⟩ := hcounted.mListLength hmode hlength
  have hasks := hp.asksMember_iff hform hshort hbeyond hmember
  refine ⟨hasks, ?_, fun hrem => ?_⟩
  · rw [Tsa.state_receiveRem hr]
    cases hack : (gp.xmitRec b).ackReceived member.toNat with
    | true =>
      rw [hack, Bool.true_eq_false, iff_false, Bool.not_eq_true] at hasks
      rw [hasks, if_neg Bool.false_ne_true, if_pos rfl]
    | false => rw [hasks.mpr hack, if_pos rfl, if_neg Bool.false_ne_true]
  · have htype : nw.pdu.pduMsgType = Pdu.REM_MSG_MSG := by
      rcases hlist with hreminder | hmessage
      · rw [TSAReceiveParam.isReminder, (hp.tspdu_fields hform (by rw [hreminder]; decide)).1,
          hreminder] at hrem
        exact absurd hrem (by decide)
      · exact hmessage
    rw [htype] at hform
    obtain ⟨hbound, hfits⟩ := hsizes b
    have hsmall := hfits htrans
    rw [hmsg htype] at hform
    refine hp.remApdu_eq hsize hform (by omega) (by simp) ?_
    rw [ProtocolStackData.xmitApdu, length_bytesAt]
    omega

end

def acknowledgedOnce : List Event :=
  [.env (.appSend false
      (messageTo { groupAddress 4 4 with repeatRetry := 1 } .acknowledged 7 [0x10, 0x20])),
    .transportLayerSend,
    .env (.networkReceive
      (messageFrom
        { nodeSource 3 with addressMode := .multicastAck, ackNode := ⟨⟨1, 3⟩, 4, 1⟩ }
        LsProtocolModeLegacy .tpdu Pdu.ACK_MSG 0 [])),
    .transportLayerReceive,
    .env (.tick 1000),
    .transportLayerSend]

def remForMembers : TSAReceiveParam :=
  { lastReceived (.reset default 4 50) acknowledgedOnce with srcAddr := groupSource 9 4 }

def memberTwo : ProtocolStackData :=
  (runEvents
    [.env (.networkReceive
        (messageFrom (groupSource 9 4) LsProtocolModeLegacy .tpdu Pdu.ACKD_MSG 0 [0x10, 0x20])),
      .transportLayerReceive]
    ([], .reset { (default : Eeprom) with addrTable := fun _ => ⟨0x84, 0x02, 0, 0, 4⟩ } 4 50)).2

theorem rem_asks_missing_memberTwo :
    remForMembers.asksMember 2 = true ∧ remForMembers.remApdu = [0x10, 0x20] := by
  have hrem := rem_asks_missing (b := false) (r := memberTwo) (i := 0)
    (ProtocolStackData.powerUp_reset default 4 50) (fun _ => ⟨10, rfl⟩)
    (ProtocolStackData.reaches_lastStep _ acknowledgedOnce (by decide +kernel))
    (by decide +kernel) (by decide +kernel : lastQueued (.reset default 4 50) acknowledgedOnce ∈ _)
    (by decide +kernel)
    (⟨rfl, rfl, rfl⟩ : remForMembers.Carries _) rfl
    (⟨by decide +kernel, by decide +kernel, by decide +kernel, by decide +kernel⟩ :
      memberTwo.RemindedMember .transport remForMembers 0 2) (by decide)
  exact ⟨hrem.1.mpr (by decide +kernel), (hrem.2.2 (by decide +kernel)).trans (by decide +kernel)⟩

end LonStack
