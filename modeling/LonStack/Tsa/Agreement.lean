import LonStack.PduLaws
import LonStack.Tsa.Frame
import LonStack.Tsa.System

namespace LonStack

open Lib

structure NWSendParam.IsAuthPdu (nw : NWSendParam) (v num : Nat) (fmt pduMsgType : UInt8)
    (bytes : Challenge) (group : List UInt8) : Prop where
  version : nw.version = sentVersion v
  pduSize : nw.pduSize = 9 + group.length + dataIndex v
  hdr : nw.pdu.hdr = Pdu.authHdr fmt pduMsgType (transNumHi v num)
  data : ∃ rest, nw.pdu.data = transNumLo v num ++ (bytes.toList ++ (group ++ rest))

namespace TSAReceiveParam.Carries

variable {p : TSAReceiveParam} {nw : NWSendParam} {v num : Nat} {fmt pduMsgType : UInt8}
  {bytes : Challenge} {group : List UInt8}

theorem fields (hp : p.Carries nw)
    (hnw : nw.IsAuthPdu v num fmt pduMsgType bytes group) (hfmt : fmt < 4)
    (htype : pduMsgType < 4) :
    p.pdu.fmt = fmt ∧ p.pdu.authMsgType = pduMsgType ∧
      p.pdu.transNumField = transNumHi v num % 16 := by
  have hpdu : p.pdu = ⟨Pdu.authHdr fmt pduMsgType (transNumHi v num), p.pdu.data⟩ := by
    rw [← hnw.hdr, ← hp.hdr]
  rw [hpdu]
  exact Pdu.authHdr_fields hfmt htype _ _

theorem transNum (hp : p.Carries nw)
    (hnw : nw.IsAuthPdu v num fmt pduMsgType bytes group) (hfmt : fmt < 4)
    (htype : pduMsgType < 4) : p.transNum = num % transNumBound v := by
  have hfield := (hp.fields hnw hfmt htype).2.2
  rw [TSAReceiveParam.transNum, Pdu.transNum, hp.version, hnw.version, hfield]
  simp only [sentVersion_eq_legacy_iff]
  by_cases hv : v = LsProtocolModeLegacy
  · rw [if_pos hv, transNumHi, transNumBound, if_pos hv, if_pos hv]
  · obtain ⟨rest, hdata⟩ := hnw.data
    have hbyte : p.pdu.byte 0 = UInt8.ofNat num := by
      rw [Pdu.byte, getD_of_take hp.data (by rw [hnw.pduSize]; omega), hdata, transNumLo, if_neg hv]
      rfl
    rw [if_neg hv, transNumHi, transNumBound, if_neg hv, if_neg hv, hbyte, UInt8.toNat_ofNat']
    omega

theorem authBytes (hp : p.Carries nw)
    (hnw : nw.IsAuthPdu v num fmt pduMsgType bytes group) :
    p.authBytes = bytes.toList := by
  obtain ⟨rest, hdata⟩ := hnw.data
  have hindex : p.dataIndex = (transNumLo v num).length := by
    rw [TSAReceiveParam.dataIndex, hp.version, hnw.version, dataIndex_sentVersion,
      length_transNumLo]
  have hbytes := bytesAt_append (transNumLo v num) bytes.toList (group ++ rest)
  rw [Vector.length_toList] at hbytes
  rw [TSAReceiveParam.authBytes, hindex,
    bytesAt_of_take hp.data (by rw [hnw.pduSize, length_transNumLo]; omega), hdata, hbytes]

theorem authGroup {g : UInt8} (hp : p.Carries nw)
    (hnw : nw.IsAuthPdu v num fmt pduMsgType bytes [g]) : p.authGroup = g := by
  obtain ⟨rest, hdata⟩ := hnw.data
  have hindex : p.dataIndex + 8 = (transNumLo v num ++ bytes.toList).length := by
    rw [TSAReceiveParam.dataIndex, hp.version, hnw.version, dataIndex_sentVersion]
    simp
  rw [TSAReceiveParam.authGroup, Pdu.byte,
    getD_of_take hp.data (by rw [hnw.pduSize, hindex]; simp; omega), hdata, hindex,
    ← List.append_assoc, List.getD_eq_getElem?_getD, List.getElem?_append_right (Nat.le_refl _)]
  simp

end TSAReceiveParam.Carries

theorem ReceiveRecord.isAuthPdu_challenge (rr : ReceiveRecord) (oma : Bool)
    (destAddr : DestinationAddress) (slot : NWSendParam) :
    (rr.challenge oma destAddr slot).IsAuthPdu rr.version rr.transNum
      (addrModeToFmt rr.srcAddr.addressMode)
      (if oma then Pdu.CHALLENGE_OMA_MSG else Pdu.CHALLENGE_MSG) rr.rand
      (if rr.srcAddr.addressMode = .multicast then [rr.srcAddr.group] else []) where
  version := rfl
  pduSize := rfl
  hdr := rfl
  data := by
    simp only [challenge, Pdu.store, storeBytes, List.append_assoc]
    exact ⟨_, rfl⟩

theorem TransmitRecord.isAuthPdu_reply (x : TransmitRecord) (p : TSAReceiveParam) (useOma : Bool)
    (encryptValue : Challenge) (slot : NWSendParam) :
    (x.reply p useOma encryptValue slot).IsAuthPdu p.version x.transNum p.pdu.fmt
      (if useOma then Pdu.REPLY_OMA_MSG else Pdu.REPLY_MSG) encryptValue
      (if p.pdu.fmt = 1 then [p.authGroup] else []) where
  version := rfl
  pduSize := rfl
  hdr := rfl
  data := by
    simp only [reply, Pdu.store, storeBytes, List.append_assoc]
    exact ⟨_, rfl⟩

theorem encrypt_classic (rand : Challenge) (apdu : List UInt8) {key key' : AuthKey × AuthKey}
    (hkey : key.1 = key'.1) (dest dest' : OmaAddress) :
    encrypt rand apdu key false dest = encrypt rand apdu key' false dest' := by
  simp only [encrypt, keyPasses, Bool.false_eq_true, if_false, hkey]

theorem TransmitRecord.key_loadKeys (x : TransmitRecord) (eep : Eeprom) {domIdx : Nat}
    (h : domIdx < 2) : (x.loadKeys eep domIdx).altKey.altKeyValue.1 = (eep.domainTable domIdx).key := by
  have : domIdx = 0 ∨ domIdx = 1 := by omega
  rcases this with rfl | rfl <;> rfl

structure SharesDomain (es er : Eeprom) (ds dr : Nat) : Prop where
  sender : ds < 2
  receiver : dr < 2
  id : (es.domainTable ds).id = (er.domainTable dr).id
  idLength : (es.domainTable ds).idLength = (er.domainTable dr).idLength
  key : (es.domainTable ds).key = (er.domainTable dr).key

def NetAddr.Addresses (er : Eeprom) (dr : Nat) : NetAddr → Prop
  | .subnetNode a =>
    a.subnet = (er.domainTable dr).subnet ∧ a.nodeId = (er.domainTable dr).node
  | .uniqueNodeId _ id => id = er.uniqueNodeId
  | .multicast _ => True
  | _ => False

theorem addrFmtToMode_eq {fmt : UInt8} (hfmt : fmt < 4) {mode : AddrMode}
    (h : addrFmtToMode fmt = mode) :
    mode = .broadcast ∨ mode = .multicast ∧ fmt = 1 ∨ mode = .subnetNode ∧ fmt = 2 ∨
      mode = .uniqueNodeId ∧ fmt = 3 := by
  have hall : ∀ f : Fin 4,
      addrFmtToMode (UInt8.ofNat f) = .broadcast ∨
        addrFmtToMode (UInt8.ofNat f) = .multicast ∧ UInt8.ofNat f = 1 ∨
        addrFmtToMode (UInt8.ofNat f) = .subnetNode ∧ UInt8.ofNat f = 2 ∨
        addrFmtToMode (UInt8.ofNat f) = .uniqueNodeId ∧ UInt8.ofNat f = 3 := by decide
  have := hall ⟨fmt.toNat, UInt8.lt_iff_toNat_lt.mp hfmt⟩
  rwa [UInt8.ofNat_toNat, h] at this

theorem omaDestAddr_agree {es er : Eeprom} {dest : DestinationAddress} {src : SourceAddress}
    {fmt group : UInt8} (hfmt : fmt < 4)
    (hdom : SharesDomain es er dest.dmn.domainIndex src.dmn.domainIndex)
    (haddr : dest.addr.Addresses er src.dmn.domainIndex)
    (hmode : addrFmtToMode fmt = dest.addressMode)
    (hgroup : fmt = 1 → dest.addr = .multicast group) :
    challengeOmaDestAddr es dest = replyOmaDestAddr er src fmt group := by
  have hlogical (a b : UInt8) :
      OmaAddress.logical (es.domainTable dest.dmn.domainIndex) a b =
        OmaAddress.logical (er.domainTable src.dmn.domainIndex) a b := by
    simp only [OmaAddress.logical, hdom.id, hdom.idLength]
  have hcases := addrFmtToMode_eq hfmt hmode
  unfold DestinationAddress.addressMode at hcases
  unfold challengeOmaDestAddr replyOmaDestAddr
  cases haddress : dest.addr with
  | subnetNode a =>
    rw [haddress] at haddr
    obtain rfl : fmt = 2 := by simpa [haddress, NetAddr.addressMode] using hcases
    have hnode : (a.setSelField false).node = (er.domainTable src.dmn.domainIndex).node := by
      rw [← haddr.2]
      simp [SubnetNode.setSelField, SubnetNode.nodeId]
    simp only [haddr.1, hnode, hlogical]
    rfl
  | multicast g =>
    obtain rfl : fmt = 1 := by simpa [haddress, NetAddr.addressMode] using hcases
    obtain rfl : g = group := by simpa [haddress] using hgroup rfl
    simp only [hlogical]
    rfl
  | uniqueNodeId subnet id =>
    rw [haddress] at haddr
    obtain rfl : fmt = 3 := by simpa [haddress, NetAddr.addressMode] using hcases
    obtain rfl : id = er.uniqueNodeId := haddr
    rfl
  | unbound | broadcast | multicastAck =>
    rw [haddress] at haddr
    exact haddr.elim

def Sends (gp gp' : ProtocolStackData) (priority : Bool) (nw : NWSendParam) : Prop :=
  (gp'.nwOutQ priority).toList = (gp.nwOutQ priority).toList ++ [nw]

theorem not_sends_self {gp gp' : ProtocolStackData} {priority : Bool} {nw : NWSendParam}
    (h : gp'.nwOutQ = gp.nwOutQ) : ¬Sends gp gp' priority nw := by
  intro hs
  rw [Sends, h] at hs
  simp at hs

theorem sends_pushNw {gp₀ gp : ProtocolStackData} {priority : Bool} {nw : NWSendParam}
    {fill : NWSendParam → NWSendParam} (h : gp.nwOutQ = gp₀.nwOutQ)
    (hs : Sends gp₀ (gp.pushNw priority fill) priority nw) : ∃ slot, nw = fill slot := by
  simp only [Sends, ProtocolStackData.pushNw, Function.update_self, h, Queue.toList_push] at hs
  split at hs
  · rw [List.append_cancel_left_eq, List.cons.injEq] at hs
    exact ⟨_, hs.1.symm⟩
  · simp at hs

theorem sends_initiateChallenge {gp : ProtocolStackData} {i : Fin RECEIVE_TRANS_COUNT}
    {nw : NWSendParam} (hs : Sends gp (gp.initiateChallenge i) (gp.recvRec i).priority nw) :
    ((gp.initiateChallenge i).recvRec i).transState = .authenticating ∧
      ∃ oma destAddr slot,
        nw = ((gp.initiateChallenge i).recvRec i).challenge oma destAddr slot := by
  have hdraw : (gp.drawChallenge i).nwOutQ = gp.nwOutQ ∧
      ((gp.drawChallenge i).recvRec i).priority = (gp.recvRec i).priority := by
    unfold ProtocolStackData.drawChallenge
    split
    · exact ⟨rfl, rfl⟩
    · exact ⟨rfl, by rw [ProtocolStackData.recvRec_modifyRR]⟩
  rw [← hdraw.2] at hs
  simp only [ProtocolStackData.initiateChallenge] at hs ⊢
  split at hs
  case isTrue => exact absurd hs (not_sends_self rfl)
  case isFalse hfull =>
    rw [if_neg hfull]
    split at hs
    case h_1 => exact absurd hs (not_sends_self hdraw.1)
    case h_2 destAddr _ =>
      obtain ⟨slot, rfl⟩ := sends_pushNw hdraw.1 hs
      rw [ProtocolStackData.recvRec_pushNw, ProtocolStackData.recvRec_modifyRR]
      exact ⟨rfl, _, destAddr, slot, rfl⟩

theorem sends_sendReplyToChallenge {gp : ProtocolStackData} {useOma : Bool} {p : TSAReceiveParam}
    {nw : NWSendParam} (hs : Sends gp (gp.sendReplyToChallenge useOma p) p.priority nw) :
    ProtocolStackData.challengeIsStale (gp.xmitRec p.priority) p = false ∧
      ∃ slot, nw = (gp.replyingRec useOma p).reply p useOma (gp.replyValue useOma p) slot := by
  rw [Sends, congrArg NetData.nwOutQ (gp.toNetData_sendReplyToChallenge useOma p), ← Sends] at hs
  simp only [ProtocolStackData.answerChallenge] at hs
  split at hs
  case isTrue => exact absurd hs (not_sends_self rfl)
  case isFalse =>
    split at hs
    case isTrue => exact absurd hs (not_sends_self rfl)
    case isFalse hstale =>
      split at hs
      case isTrue => exact absurd hs (not_sends_self rfl)
      case isFalse =>
        have hpush : Sends gp
            (gp.pushNw p.priority
              ((gp.replyingRec useOma p).reply p useOma (gp.replyValue useOma p)))
            p.priority nw := hs
        exact ⟨Bool.eq_false_iff.mpr hstale, sends_pushNw rfl hpush⟩

/-- A challenge to the message in record `i` of the receiver `gr` reaches the sender `gs` as `pc`,
and its answer reaches the receiver, now in state `gr'`, as `pr`. -/
structure Exchange (gs gr gr' : ProtocolStackData) (i : Fin RECEIVE_TRANS_COUNT)
    (pc pr : TSAReceiveParam) : Prop where
  encodable : ∃ p : TSAReceiveParam,
    (gr.recvRec i).transNum = p.transNum ∧ (gr.recvRec i).version = p.version
  challenge :
    ∃ nw, Sends gr (gr.initiateChallenge i) (gr.recvRec i).priority nw ∧ pc.Carries nw
  reply :
    ∃ nw, Sends gs (gs.sendReplyToChallenge (pc.pdu.authMsgType == Pdu.CHALLENGE_OMA_MSG) pc)
      pc.priority nw ∧ pr.Carries nw
  apdu : gs.xmitApdu pc.priority = (gr.recvRec i).apdu
  domainIndex :
    pc.srcAddr.dmn.domainIndex = (gs.xmitRec pc.priority).nwDestAddr.dmn.domainIndex
  altKey : (gs.xmitRec pc.priority).altKey.altKey = false
  domain :
    SharesDomain gs.eep gr'.eep (gs.xmitRec pc.priority).nwDestAddr.dmn.domainIndex
      (gr.recvRec i).srcAddr.dmn.domainIndex
  omaKeys : (pc.pdu.authMsgType == Pdu.CHALLENGE_OMA_MSG) = true →
    ∀ d, d < 2 → (gs.eep.domainTable d).key = (gr'.eep.domainTable d).key
  addr :
    (gs.xmitRec pc.priority).nwDestAddr.addr.Addresses gr'.eep
      (gr.recvRec i).srcAddr.dmn.domainIndex
  waiting : ∃ altPath needAuth,
    gr'.recvRec i =
      { (gr.initiateChallenge i).recvRec i with altPath := altPath, needAuth := needAuth }
  found : gr'.retrieveRR pr.replySource pr.priority = some i

theorem auth_processReply {gp : ProtocolStackData} {useOma : Bool} {p : TSAReceiveParam}
    {i : Fin RECEIVE_TRANS_COUNT} (hfound : gp.retrieveRR p.replySource p.priority = some i)
    (hstate : (gp.recvRec i).transState = .authenticating)
    (hgroup : p.pdu.fmt = 1 → p.authGroup = (gp.recvRec i).srcAddr.group)
    (hnum : p.transNum = (gp.recvRec i).transNum) :
    (((Tsa.processReply useOma p).state Call.apply gp).recvRec i).auth =
      ((gp.expectedReply useOma p i).toList == p.authBytes) := by
  have hwp : (Tsa.processReply useOma p).wp Call.apply (fun _ _ _ => True)
      (fun _ _ s => (s.recvRec i).auth = ((gp.expectedReply useOma p i).toList == p.authBytes))
      [] gp := by
    have hgroup' : ¬(p.pdu.fmt = 1 ∧ p.authGroup ≠ (gp.recvRec i).srcAddr.group) := by tauto
    simp only [Tsa.processReply, Prog.monadBind_eq, Prog.wp_bind, Tsa.wp_gp, Tsa.wp_call,
      Tsa.apply_processReply, hfound]
    rw [if_neg (by simp [hstate]), if_neg hgroup', if_neg (by simp [hnum])]
    simp only [Prog.wp_bind, Tsa.wp_gp, Tsa.wp_call]
    refine ⟨trivial, trivial, trivial, ?_⟩
    split
    · simp only [Prog.wp_bind, Tsa.wp_call]
      refine ⟨trivial, trivial, ?_⟩
      simp [Call.apply, ProtocolStackData.recvRec_tpSendAck, ProtocolStackData.authenticate]
    · refine ⟨trivial, ?_⟩
      simp [Call.apply, ProtocolStackData.authenticate]
  obtain ⟨-, -, hauth⟩ := hwp.log trivial
  exact hauth

namespace Exchange

variable {gs gr gr' : ProtocolStackData} {i : Fin RECEIVE_TRANS_COUNT} {pc pr : TSAReceiveParam}

theorem message (hx : Exchange gs gr gr' i pc pr) :
    (gr'.recvRec i).srcAddr = (gr.recvRec i).srcAddr ∧
      (gr'.recvRec i).apdu = (gr.recvRec i).apdu ∧
      (gr'.recvRec i).transNum = (gr.recvRec i).transNum ∧
      (gr'.recvRec i).version = (gr.recvRec i).version := by
  obtain ⟨altPath, needAuth, hrr⟩ := hx.waiting
  obtain ⟨rand, transState, -, heq⟩ := gr.recvRec_initiateChallenge i
  rw [hrr, heq, Function.update_self]
  exact ⟨rfl, rfl, rfl, rfl⟩

theorem challenged (hx : Exchange gs gr gr' i pc pr) :
    (gr'.recvRec i).transState = .authenticating ∧
      pc.pdu.fmt = addrModeToFmt (gr'.recvRec i).srcAddr.addressMode ∧
      pc.transNum = (gr'.recvRec i).transNum ∧ pc.authBytes = (gr'.recvRec i).rand.toList ∧
      ((gr'.recvRec i).srcAddr.addressMode = .multicast →
        pc.authGroup = (gr'.recvRec i).srcAddr.group) := by
  obtain ⟨altPath, needAuth, hrr⟩ := hx.waiting
  obtain ⟨nw, hs, hpc⟩ := hx.challenge
  obtain ⟨hstate, oma, destAddr, slot, hnw⟩ := sends_initiateChallenge hs
  have hform := ((gr.initiateChallenge i).recvRec i).isAuthPdu_challenge oma destAddr slot
  rw [← hnw] at hform
  have hfmt : addrModeToFmt ((gr.initiateChallenge i).recvRec i).srcAddr.addressMode < 4 := by
    cases ((gr.initiateChallenge i).recvRec i).srcAddr.addressMode <;> decide
  have htype : (if oma then Pdu.CHALLENGE_OMA_MSG else Pdu.CHALLENGE_MSG) < 4 := by
    cases oma <;> decide
  obtain ⟨p, hnum, hversion⟩ := hx.encodable
  have hbound : (gr'.recvRec i).transNum < transNumBound (gr'.recvRec i).version := by
    rw [hx.message.2.2.1, hx.message.2.2.2, hnum, hversion]
    exact p.pdu.transNum_lt p.version
  rw [hrr] at hbound ⊢
  refine ⟨hstate, (hpc.fields hform hfmt htype).1, ?_, hpc.authBytes hform, fun hmode => ?_⟩
  · rw [hpc.transNum hform hfmt htype]
    exact Nat.mod_eq_of_lt hbound
  · rw [if_pos hmode] at hform
    exact hpc.authGroup hform

theorem replied (hx : Exchange gs gr gr' i pc pr) :
    pr.pdu.fmt = pc.pdu.fmt ∧
      (pr.pdu.authMsgType == Pdu.REPLY_OMA_MSG) =
        (pc.pdu.authMsgType == Pdu.CHALLENGE_OMA_MSG) ∧
      pr.transNum = pc.transNum ∧
      pr.authBytes =
        (gs.replyValue (pc.pdu.authMsgType == Pdu.CHALLENGE_OMA_MSG) pc).toList ∧
      (pc.pdu.fmt = 1 → pr.authGroup = pc.authGroup) ∧
      addrFmtToMode pc.pdu.fmt = (gs.xmitRec pc.priority).nwDestAddr.addressMode ∧
      (pc.pdu.fmt = 1 → (gs.xmitRec pc.priority).nwDestAddr.addr = .multicast pc.authGroup) := by
  obtain ⟨nw, hs, hpr⟩ := hx.reply
  obtain ⟨hstale, slot, rfl⟩ := sends_sendReplyToChallenge hs
  generalize homa : (pc.pdu.authMsgType == Pdu.CHALLENGE_OMA_MSG) = oma at hpr
  have hform := (gs.replyingRec oma pc).isAuthPdu_reply pc oma (gs.replyValue oma pc) slot
  have htype : (if oma then Pdu.REPLY_OMA_MSG else Pdu.REPLY_MSG) < 4 := by
    cases oma <;> decide
  simp only [ProtocolStackData.challengeIsStale, Bool.or_eq_false_iff, bne_eq_false_iff_eq,
    Bool.and_eq_false_iff, beq_eq_false_iff_ne] at hstale
  obtain ⟨⟨⟨-, hnum⟩, hmode⟩, hgroup⟩ := hstale
  have hfields := hpr.fields hform pc.pdu.fmt_lt htype
  refine ⟨hfields.1, ?_, ?_, hpr.authBytes hform, fun hfmt => ?_, hmode,
    fun hfmt => hgroup.resolve_left (absurd hfmt)⟩
  · rw [hfields.2.1]
    cases oma <;> rfl
  · obtain ⟨altKey, version, hx⟩ := gs.replyingRec_eq oma pc
    rw [hpr.transNum hform pc.pdu.fmt_lt htype, hx]
    dsimp only
    rw [← hnum]
    exact Nat.mod_eq_of_lt (pc.pdu.transNum_lt pc.version)
  · rw [if_pos hfmt] at hform
    exact hpr.authGroup hform

end Exchange

variable {gs gr gr' : ProtocolStackData} {i : Fin RECEIVE_TRANS_COUNT} {pc pr : TSAReceiveParam}

/-- The reply that the sender of a message computes is the one that its receiver expects, and the
receiver accepts it. -/
theorem reply_accepted (hx : Exchange gs gr gr' i pc pr) :
    pr.authBytes = (gr'.expectedReply (pr.pdu.authMsgType == Pdu.REPLY_OMA_MSG) pr i).toList ∧
      (((Tsa.processReply (pr.pdu.authMsgType == Pdu.REPLY_OMA_MSG) pr).state Call.apply
        gr').recvRec i).auth = true := by
  obtain ⟨hstate, hfmt, hnum, hrand, hgroup⟩ := hx.challenged
  obtain ⟨hfmt', homa, hnum', hbytes, hgroup', hmode, hdest⟩ := hx.replied
  have hsrc := hx.message.1
  have hgroups : pr.pdu.fmt = 1 → pr.authGroup = (gr'.recvRec i).srcAddr.group := by
    intro h1
    rw [hfmt'] at h1
    have hmulticast : (gr'.recvRec i).srcAddr.addressMode = .multicast := by
      rw [hfmt] at h1
      cases hm : (gr'.recvRec i).srcAddr.addressMode <;> simp [hm, addrModeToFmt] at h1 ⊢
    rw [hgroup' h1, hgroup hmulticast]
  have hagree : pr.authBytes =
      (gr'.expectedReply (pr.pdu.authMsgType == Pdu.REPLY_OMA_MSG) pr i).toList := by
    have hsent : (Vector.ofFn fun i => pc.authBytes.getD i 0) = (gr'.recvRec i).rand := by
      rw [hrand]
      ext j hj
      simp
    rw [hbytes, homa, ProtocolStackData.replyValue, ProtocolStackData.expectedReply, hsent,
      hx.apdu, hx.message.2.1]
    obtain ⟨altKey, version, hrec⟩ :=
      gs.replyingRec_eq (pc.pdu.authMsgType == Pdu.CHALLENGE_OMA_MSG) pc
    have hdestAddr : (gs.replyingRec (pc.pdu.authMsgType == Pdu.CHALLENGE_OMA_MSG) pc).nwDestAddr =
        (gs.xmitRec pc.priority).nwDestAddr := by rw [hrec]
    rw [hdestAddr]
    have hrow (useOma : Bool) : gs.replyingRec useOma pc =
        (gs.xmitRec pc.priority).loadKeys gs.eep
          (if useOma then 0 else pc.srcAddr.dmn.domainIndex) := by
      simp [ProtocolStackData.replyingRec, hx.altKey]
    cases homa' : (pc.pdu.authMsgType == Pdu.CHALLENGE_OMA_MSG) with
    | true =>
      have hkeys : (gs.replyingRec true pc).altKey.altKeyValue =
          gr'.eep.authKey true (gr'.recvRec i).srcAddr.dmn.domainIndex := by
        rw [hrow, Eeprom.authKey, if_pos rfl, if_pos rfl, ← hx.omaKeys homa' 0 (by decide),
          ← hx.omaKeys homa' 1 (by decide)]
        rfl
      have hdests : challengeOmaDestAddr gs.eep (gs.xmitRec pc.priority).nwDestAddr =
          replyOmaDestAddr gr'.eep (gr'.recvRec i).srcAddr pr.pdu.fmt pr.authGroup :=
        omaDestAddr_agree pr.pdu.fmt_lt (hsrc ▸ hx.domain) (hsrc ▸ hx.addr) (hfmt' ▸ hmode)
          fun h1 => by rw [hdest (hfmt' ▸ h1), hgroup' (hfmt' ▸ h1)]
      rw [hkeys, hdests]
    | false =>
      congr 1
      apply encrypt_classic
      have hflex : (gr'.recvRec i).srcAddr.dmn.domainIndex ≠ FLEX_DOMAIN := by
        rw [hsrc]
        exact Nat.ne_of_lt hx.domain.receiver
      rw [hrow, if_neg Bool.false_ne_true, hx.domainIndex,
        TransmitRecord.key_loadKeys _ _ hx.domain.sender, Eeprom.authKey,
        if_neg Bool.false_ne_true, if_neg hflex, hx.domain.key, hsrc]
  refine ⟨hagree, ?_⟩
  rw [auth_processReply hx.found hstate hgroups (hnum'.trans hnum), hagree, beq_self_eq_true]

def omaNode (node : UInt8) : Eeprom :=
  { (default : Eeprom) with
    domainTable := fun d =>
      { id := #v[1, 2, UInt8.ofNat d, 0, 0, 0]
        subnet := 1
        nodeClone := 0x80 ||| node
        invalidIdLength := 0x0B
        key := #v[UInt8.ofNat d, 17, 34, 51, 68, 85] } }

def challenger : ProtocolStackData :=
  { ProtocolStackData.reset (omaNode 3) 3 50 with
    tickCount := 77
    recvRec := Function.update (fun _ => default) 0
      { (default : ReceiveRecord) with
        status := .session
        srcAddr :=
          { nodeSource 2 with dmn := { (default : Domain) with domainIndex := 1 } }
        transNum := 0x234
        needAuth := true
        serviceType := .request
        apdu := [0x10, 0x20, 0x30]
        version := LsProtocolModeEnhanced } }

def replier : ProtocolStackData :=
  { ProtocolStackData.reset (omaNode 2) 3 50 with
    tsaOutQ := fun _ => .init (fun _ => { (default : TSASendParam) with apdu := [0x10, 0x20, 0x30] }) 3
    xmitRec := fun _ =>
      { (default : TransmitRecord) with
        status := .session
        nwDestAddr := ⟨{ (default : Domain) with domainIndex := 1 }, .subnetNode ⟨1, 0x83⟩⟩
        transNum := 0x234
        apduSize := 3
        auth := true
        version := LsProtocolModeEnhanced } }

def ProtocolStackData.received (gp : ProtocolStackData) (node : UInt8) : TSAReceiveParam :=
  let nw := (gp.nwOutQ false).data 0
  { (default : TSAReceiveParam) with
    srcAddr := { nodeSource node with dmn := { (default : Domain) with domainIndex := 1 } }
    pduSize := nw.pduSize
    pduType := .authpdu
    version := nw.version
    pdu := nw.pdu }

def receivedChallenge : TSAReceiveParam := (challenger.initiateChallenge 0).received 3

def receivedReply : TSAReceiveParam :=
  (replier.sendReplyToChallenge true receivedChallenge).received 2

theorem exchange_oma :
    Exchange replier challenger (challenger.initiateChallenge 0) 0 receivedChallenge
      receivedReply where
  encodable :=
    ⟨messageFrom (nodeSource 2) LsProtocolModeEnhanced .spdu Pdu.REQUEST_MSG 0x234 [], by decide,
      rfl⟩
  challenge :=
    ⟨((challenger.initiateChallenge 0).nwOutQ false).data 0, by unfold Sends; decide +kernel,
      rfl, rfl, rfl⟩
  reply :=
    ⟨((replier.sendReplyToChallenge true receivedChallenge).nwOutQ false).data 0,
      by unfold Sends; decide +kernel, rfl, rfl, rfl⟩
  apdu := rfl
  domainIndex := rfl
  altKey := rfl
  domain := ⟨by decide, by decide, rfl, rfl, rfl⟩
  omaKeys _ _ _ := rfl
  addr := ⟨rfl, rfl⟩
  waiting := ⟨_, _, rfl⟩
  found := by decide +kernel

theorem reply_accepted_oma :
    (receivedReply.pdu.authMsgType == Pdu.REPLY_OMA_MSG) = true ∧
      (((Tsa.processReply (receivedReply.pdu.authMsgType == Pdu.REPLY_OMA_MSG)
        receivedReply).state Call.apply (challenger.initiateChallenge 0)).recvRec 0).auth = true :=
  ⟨by decide +kernel, (reply_accepted exchange_oma).2⟩

end LonStack
