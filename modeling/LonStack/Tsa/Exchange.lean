import LonStack.Tsa.Response
import LonStack.Tsa.SendStep

namespace LonStack

open Lib

structure ProtocolStackData.Welcomes (gp : ProtocolStackData) (p : TSAReceiveParam)
    (i : Fin RECEIVE_TRANS_COUNT) : Prop where
  head : gp.tsaInQ.peek = some p
  pduType : p.pduType = .tpdu
  pduSize : 1 ≤ p.pduSize
  pduMsgType : p.pdu.pduMsgType = Pdu.ACKD_MSG
  fresh : (gp.releaseExpired .transport).retrieveRR p.srcAddr p.priority = none
  free : (gp.releaseExpired .transport).allocateRR = some i
  unauthenticated : (gp.eep.nodeConfigured && p.pdu.auth) = false
  unicast : p.srcAddr.addressMode ≠ .multicast
  appRoom : gp.appInQ.queueEntries + 1 < gp.appInQ.queueCapacity
  appSize : p.newMsgApdu.length ≤ gp.appInBufSize
  nwRoom : (gp.nwOutQ p.priority).queueEntries + 1 < (gp.nwOutQ p.priority).queueCapacity

theorem Queue.full_of_room {α : Type} {q : Queue α} (hroom : q.queueEntries + 1 < q.queueCapacity) :
    q.full = false := by
  rw [Queue.full_eq_false_iff]
  omega

namespace ProtocolStackData

variable {gp : ProtocolStackData} {p : TSAReceiveParam} {i : Fin RECEIVE_TRANS_COUNT}

def openFor (gp : ProtocolStackData) (p : TSAReceiveParam) (i : Fin RECEIVE_TRANS_COUNT) :
    ProtocolStackData :=
  ((gp.initRR .transport p .acknowledged p.newMsgApdu true i).dropTsaIn).modifyRR i fun rr =>
    { rr with needAuth := false }

structure IsOpened (p : TSAReceiveParam) (rr : ReceiveRecord) : Prop where
  needAuth : rr.needAuth = false
  transState : rr.transState = .justReceived
  serviceType : rr.serviceType = .acknowledged
  apdu : rr.apdu = p.newMsgApdu
  srcAddr : rr.srcAddr = p.srcAddr
  transNum : rr.transNum = p.transNum
  version : rr.version = p.version
  priority : rr.priority = p.priority

theorem isOpened_openFor : IsOpened p ((gp.openFor p i).recvRec i) := by
  constructor <;> simp [openFor, initRR, dropTsaIn]

theorem deliver_of_isOpened (ho : IsOpened p (gp.recvRec i)) (happ : gp.appInQ.full = false)
    (hsize : p.newMsgApdu.length ≤ gp.appInBufSize) :
    gp.deliver i =
      { gp.modifyRR i fun rr => { rr with transState := .delivered } with
        appInQ := gp.appInQ.push (gp.recvRec i).message } := by
  have hfits : ¬gp.appInBufSize < (gp.recvRec i).apduSize := by
    rw [ReceiveRecord.apduSize, ho.apdu]
    exact Nat.not_lt.mpr hsize
  simp [deliver, ho.needAuth, happ, hfits]

end ProtocolStackData

namespace Tsa

variable {gp : ProtocolStackData} {p : TSAReceiveParam} {i : Fin RECEIVE_TRANS_COUNT}

theorem state_receiveNewMsg (hfresh : gp.retrieveRR p.srcAddr p.priority = none)
    (hfree : gp.allocateRR = some i) (hopen : (gp.eep.nodeConfigured && p.pdu.auth) = false)
    (htype : p.pdu.pduMsgType = Pdu.ACKD_MSG) :
    (receiveNewMsg .transport p).state Call.apply gp =
      (handleNewMsg .transport i).state Call.apply (gp.openFor p i) := by
  rw [receiveNewMsg]
  simp only [Prog.monadBind_eq, call, Tsa.gp, Prog.perform, Prog.bind, Prog.state, Call.apply,
    hfresh, hfree, Option.map_some, hopen]
  rw [TSAReceiveParam.newMsgService, htype]
  rfl

theorem state_handleNewMsg (ho : ProtocolStackData.IsOpened p (gp.recvRec i))
    (happ : gp.appInQ.full = false) (hsize : p.newMsgApdu.length ≤ gp.appInBufSize) :
    (handleNewMsg .transport i).state Call.apply gp = (gp.deliver i).tpSendAck i := by
  rw [handleNewMsg]
  simp [Prog.bind, Prog.state, call, Tsa.gp, Prog.perform, ReceiveRecord.unchallenged, ho.needAuth,
    ReceiveRecord.handled, ho.transState, Call.apply,
    ProtocolStackData.deliver_of_isOpened ho happ hsize, ho.serviceType]

theorem state_transportLayerReceive_ackd (hw : gp.Welcomes p i) :
    transportLayerReceive.state Call.apply gp =
      (((gp.releaseExpired .transport).openFor p i).deliver i).tpSendAck i := by
  have hhead : (gp.releaseExpired .transport).tsaInQ.peek = some p := hw.head
  have hsize : ¬p.pduSize < 1 := Nat.not_lt.mpr hw.pduSize
  have hreceive : transportLayerReceive.state Call.apply gp =
      (receiveNewMsg .transport p).state Call.apply (gp.releaseExpired .transport) := by
    rw [transportLayerReceive]
    simp only [Prog.monadBind_eq, call, Tsa.gp, Prog.perform, Prog.bind, Prog.state, Call.apply,
      hhead, hw.pduType, hw.pduMsgType, hsize]
    rfl
  rw [hreceive, state_receiveNewMsg hw.fresh hw.free hw.unauthenticated hw.pduMsgType]
  exact state_handleNewMsg ProtocolStackData.isOpened_openFor (Queue.full_of_room hw.appRoom)
    hw.appSize

end Tsa

theorem ReceiveRecord.isTspdu_ack (rr : ReceiveRecord) (destAddr : DestinationAddress)
    (slot : NWSendParam) :
    (rr.ack destAddr slot).IsTspdu rr.version rr.transNum false Pdu.ACK_MSG
      (transNumLo rr.version rr.transNum) [] where
  version := rfl
  pduSize := by simp [ack]
  hdr := rfl
  length_low := length_transNumLo _ _
  data := ⟨_, rfl⟩

namespace ProtocolStackData

variable {gp : ProtocolStackData} {p : TSAReceiveParam} {i : Fin RECEIVE_TRANS_COUNT}

theorem IsOpened.holds_message {rr : ReceiveRecord} (ho : IsOpened p rr) (slot : APPReceiveParam) :
    (rr.message slot).Holds p.newMsgApdu := by
  rw [← ho.apdu]
  exact ⟨List.take_left, rfl⟩

theorem IsOpened.answerAddr {rr : ReceiveRecord} (ho : IsOpened p rr)
    (hunicast : p.srcAddr.addressMode ≠ .multicast) (eep : Eeprom) :
    rr.answerAddr eep rr.srcAddr.dmn =
      some ⟨p.srcAddr.dmn, .subnetNode p.srcAddr.subnetAddr⟩ := by
  rw [ReceiveRecord.answerAddr, ho.srcAddr, if_neg hunicast]

theorem tpSendAck_eq {destAddr : DestinationAddress}
    (hroom : (gp.nwOutQ (gp.recvRec i).priority).full = false)
    (hanswer : (gp.recvRec i).answerAddr gp.eep (gp.recvRec i).srcAddr.dmn = some destAddr) :
    gp.tpSendAck i = gp.pushNw (gp.recvRec i).priority ((gp.recvRec i).ack destAddr) := by
  simp [tpSendAck, hroom, hanswer]

namespace Welcomes

theorem state_eq (hw : gp.Welcomes p i) :
    ∃ (gp' : ProtocolStackData) (rr : ReceiveRecord), IsOpened p rr ∧
      gp'.appInQ = gp.appInQ.push rr.message ∧ gp'.nwOutQ = gp.nwOutQ ∧
      Tsa.transportLayerReceive.state Call.apply gp =
        gp'.pushNw p.priority (rr.ack ⟨p.srcAddr.dmn, .subnetNode p.srcAddr.subnetAddr⟩) := by
  have ho := @isOpened_openFor (gp.releaseExpired .transport) p i
  have hdeliver := deliver_of_isOpened ho (Queue.full_of_room hw.appRoom) hw.appSize
  have hrr : (((gp.releaseExpired .transport).openFor p i).deliver i).recvRec i =
      { ((gp.releaseExpired .transport).openFor p i).recvRec i with transState := .delivered } := by
    rw [hdeliver]
    exact Function.update_self ..
  have happ : (((gp.releaseExpired .transport).openFor p i).deliver i).appInQ =
      gp.appInQ.push (((gp.releaseExpired .transport).openFor p i).recvRec i).message := by
    rw [hdeliver]
    rfl
  have hnw : (((gp.releaseExpired .transport).openFor p i).deliver i).nwOutQ = gp.nwOutQ := by
    rw [hdeliver]
    rfl
  have hanswer := ho.answerAddr hw.unicast
    (((gp.releaseExpired .transport).openFor p i).deliver i).eep
  rw [Tsa.state_transportLayerReceive_ackd hw]
  generalize ((gp.releaseExpired .transport).openFor p i).deliver i = gp' at hrr happ hnw hanswer
  generalize ((gp.releaseExpired .transport).openFor p i).recvRec i = rr at ho hrr happ hanswer
  refine ⟨gp', rr, ho, happ, hnw, ?_⟩
  rw [tpSendAck_eq (by rw [hrr, hnw, ho.priority]; exact Queue.full_of_room hw.nwRoom)
    (by rw [hrr]; exact hanswer), hrr, ho.priority]
  rfl

theorem delivers (hw : gp.Welcomes p i) :
    ∃ x : APPReceiveParam,
      (Tsa.transportLayerReceive.state Call.apply gp).appInQ.toList = gp.appInQ.toList ++ [x] ∧
        x.Holds p.newMsgApdu ∧ x.service = .acknowledged ∧ x.srcAddr = p.srcAddr := by
  obtain ⟨gp', rr, ho, happ, -, heq⟩ := hw.state_eq
  refine ⟨rr.message gp.appInQ.tailSlot, ?_, ho.holds_message _, ho.serviceType, ho.srcAddr⟩
  rw [heq]
  change gp'.appInQ.toList = _
  rw [happ, Queue.toList_push, if_pos hw.appRoom]

theorem acknowledges (hw : gp.Welcomes p i) :
    ∃ nw : NWSendParam,
      Sends gp (Tsa.transportLayerReceive.state Call.apply gp) p.priority nw ∧
        nw.IsTspdu p.version p.transNum false Pdu.ACK_MSG (transNumLo p.version p.transNum) [] ∧
        nw.destAddr = ⟨p.srcAddr.dmn, .subnetNode p.srcAddr.subnetAddr⟩ ∧ nw.pduType = .tpdu := by
  obtain ⟨gp', rr, ho, -, hnw, heq⟩ := hw.state_eq
  have hack := rr.isTspdu_ack ⟨p.srcAddr.dmn, .subnetNode p.srcAddr.subnetAddr⟩
    (gp.nwOutQ p.priority).tailSlot
  rw [ho.version, ho.transNum] at hack
  refine ⟨_, ?_, hack, rfl, rfl⟩
  rw [Sends, heq]
  simp only [pushNw, Function.update_self, hnw, Queue.toList_push, if_pos hw.nwRoom]

end Welcomes

end ProtocolStackData

structure ProtocolStackData.AwaitsAck (gp : ProtocolStackData) (p : TSAReceiveParam)
    (sent : TSASendParam) (dmn : Domain) (a : SubnetNode) : Prop where
  head : gp.tsaInQ.peek = some p
  pduType : p.pduType = .tpdu
  pduSize : 1 ≤ p.pduSize
  pduMsgType : p.pdu.pduMsgType = Pdu.ACK_MSG
  status : (gp.xmitRec p.priority).status = .transport
  transNum : (gp.transCtrl p.priority).validateTrans p.transNum = true
  nwDestAddr : (gp.xmitRec p.priority).nwDestAddr = ⟨dmn, .subnetNode a⟩
  domainIndex : p.srcAddr.dmn.domainIndex = dmn.domainIndex
  subnet : p.srcAddr.subnetAddr.subnet = a.subnet
  node : p.srcAddr.subnetAddr.nodeId = a.nodeId
  destCount : (gp.xmitRec p.priority).destCount = 1
  ackCount : (gp.xmitRec p.priority).ackCount = 0
  message : (gp.tsaOutQ p.priority).peek = some sent
  marked : sent.priority = p.priority
  room : gp.appCeRspInQ.queueEntries + 1 < gp.appCeRspInQ.queueCapacity

theorem ProtocolStackData.status_terminate {gp : ProtocolStackData} {b : Bool} (success : Bool) :
    ((gp.terminate b success).xmitRec b).status = .unused := by
  rw [terminate, xmitRec_sendCompletion, endTrans]
  simp

theorem ProtocolStackData.sendCompletion_spec {gp : ProtocolStackData} {b : Bool} (success : Bool)
    {sent : TSASendParam} (hmessage : (gp.tsaOutQ b).peek = some sent) (hmarked : sent.priority = b)
    (hroom : gp.appCeRspInQ.queueEntries + 1 < gp.appCeRspInQ.queueCapacity) :
    ((gp.sendCompletion b success).tsaOutQ b).toList = (gp.tsaOutQ b).toList.tail ∧
      ∃ slot, (gp.sendCompletion b success).appCeRspInQ.toList =
        gp.appCeRspInQ.toList ++ [sent.completion success slot] := by
  simp only [sendCompletion, hmessage, Queue.full_of_room hroom, hmarked]
  constructor
  · simp [modifyTsaOut, Queue.toList_dropHead, Queue.toList_fillHead]
  · exact ⟨gp.appCeRspInQ.tailSlot, by simp [Queue.toList_push, hroom]⟩

namespace ProtocolStackData.AwaitsAck

variable {gp : ProtocolStackData} {p : TSAReceiveParam} {sent : TSASendParam} {dmn : Domain}
  {a : SubnetNode}

theorem not_stale (hw : gp.AwaitsAck p sent dmn a) :
    gp.answerIsStale .transport p = false ∧ gp.ackOfOtherSubnet p = false := by
  simp [answerIsStale, ackOfOtherSubnet, hw.transNum, hw.status, Layer.txStatus, hw.nwDestAddr,
    hw.domainIndex, hw.subnet, hw.node]

theorem state_tpReceiveAck (hw : gp.AwaitsAck p sent dmn a) :
    (Tsa.tpReceiveAck p).state Call.apply gp =
      ((gp.countAck p.priority).terminate p.priority true).dropTsaIn := by
  have hmode : (gp.xmitRec p.priority).nwDestAddr.addressMode = .subnetNode := by
    rw [hw.nwDestAddr]
    rfl
  have hmessage : ((gp.countAck p.priority).tsaOutQ p.priority).peek = some sent := hw.message
  have hroom : (gp.countAck p.priority).appCeRspInQ.full = false := Queue.full_of_room hw.room
  have hsucceeded : ((gp.countAck p.priority).xmitRec p.priority).succeeded sent = true := by
    simp [countAck, TransmitRecord.succeeded, TransmitRecord.answered, hw.destCount, hw.ackCount]
  have hunused : (((gp.countAck p.priority).terminate p.priority true).dropTsaIn.xmitRec
      p.priority).status = .unused := status_terminate true
  rw [Tsa.tpReceiveAck]
  simp only [Prog.monadBind_eq, Tsa.call, Tsa.gp, Prog.perform, Prog.bind, Prog.state,
    show (Call.tpReceiveAck p).apply gp = gp from rfl, hw.not_stale.1, hw.not_stale.2, hmode]
  simp only [Bool.or_self, Bool.false_eq_true, if_false, Prog.state, Call.apply]
  rw [Tsa.terminateTrans]
  simp only [Prog.monadBind_eq, Tsa.call, Tsa.gp, Prog.perform, Prog.bind, Prog.state, hmessage, hroom]
  simp only [Bool.false_eq_true, if_false, Prog.bind, Prog.state, Call.apply, hsucceeded]
  rw [restartTimer, if_pos hunused]

theorem state_eq (hw : gp.AwaitsAck p sent dmn a) :
    Tsa.transportLayerReceive.state Call.apply gp =
      (((gp.releaseExpired .transport).countAck p.priority).terminate p.priority true).dropTsaIn := by
  have hreleased : (gp.releaseExpired .transport).AwaitsAck p sent dmn a := { hw with }
  have hhead : (gp.releaseExpired .transport).tsaInQ.peek = some p := hw.head
  have hsize : ¬p.pduSize < 1 := Nat.not_lt.mpr hw.pduSize
  rw [← hreleased.state_tpReceiveAck, Tsa.transportLayerReceive]
  simp only [Prog.monadBind_eq, Tsa.call, Tsa.gp, Prog.perform, Prog.bind, Prog.state, Call.apply,
    hhead, hw.pduType, hw.pduMsgType, hsize]
  rfl

theorem completes (hw : gp.AwaitsAck p sent dmn a) :
    ((Tsa.transportLayerReceive.state Call.apply gp).xmitRec p.priority).status = .unused ∧
      ((Tsa.transportLayerReceive.state Call.apply gp).tsaOutQ p.priority).toList =
        (gp.tsaOutQ p.priority).toList.tail ∧
      ∃ e : APPReceiveParam,
        (Tsa.transportLayerReceive.state Call.apply gp).appCeRspInQ.toList =
            gp.appCeRspInQ.toList ++ [e] ∧
          e.indication = .completion ∧ e.success = true ∧ e.tag = sent.tag := by
  rw [hw.state_eq]
  obtain ⟨htsa, slot, hce⟩ := @sendCompletion_spec
    (((gp.releaseExpired .transport).countAck p.priority).endTrans p.priority) p.priority true sent
    hw.message hw.marked hw.room
  exact ⟨status_terminate true, htsa, _, hce, rfl, rfl, rfl⟩

end ProtocolStackData.AwaitsAck

end LonStack
