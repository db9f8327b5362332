import LonStack.Node

namespace LonStack

def addrFmtToMode (fmt : UInt8) : AddrMode :=
  if fmt = 0 then .broadcast
  else if fmt = 1 then .multicast
  else if fmt = 2 then .subnetNode
  else .uniqueNodeId

def addrModeToFmt : AddrMode → UInt8
  | .unbound => 0
  | .subnetNode => 2
  | .uniqueNodeId => 3
  | .broadcast => 0
  | .multicast => 1
  | .multicastAck => 2

namespace ReceiveRecord

def matchesSource (rr : ReceiveRecord) (src : SourceAddress) (priority : Bool) : Bool :=
  priority == rr.priority && src.dmn.domainIndex == rr.srcAddr.dmn.domainIndex &&
    src.addressMode == rr.srcAddr.addressMode && src.subnetAddr == rr.srcAddr.subnetAddr &&
    (src.addressMode != .broadcast || src.broadcastSubnet == rr.srcAddr.broadcastSubnet) &&
    (src.addressMode != .multicast || src.group == rr.srcAddr.group)

/-- The address to which an acknowledgement, a response or a challenge goes. There is none if the
node is not a member of the group. -/
def answerAddr (rr : ReceiveRecord) (eep : Eeprom) (dmn : Domain) : Option DestinationAddress :=
  if rr.srcAddr.addressMode = .multicast then
    (eep.isGroupMember dmn.domainIndex rr.srcAddr.group).map fun member =>
      ⟨dmn, .multicastAck ⟨rr.srcAddr.subnetAddr, rr.srcAddr.group, member⟩⟩
  else some ⟨dmn, .subnetNode rr.srcAddr.subnetAddr⟩

def message (rr : ReceiveRecord) (slot : APPReceiveParam) : APPReceiveParam :=
  { slot with
    indication := .message
    srcAddr := rr.srcAddr
    service := rr.serviceType
    priority := rr.priority
    altPath := rr.altPath
    auth := rr.auth
    pduSize := rr.apduSize
    reqId := rr.reqId
    xcvrParams := rr.xcvrParams
    proxy := false
    apdu := storeBytes slot.apdu rr.apdu }

def ack (rr : ReceiveRecord) (destAddr : DestinationAddress) (slot : NWSendParam) : NWSendParam :=
  { slot with
    destAddr := destAddr
    pduType := .tpdu
    deltaBL := 0
    altPath := rr.altPath ||| ALT_CHANNEL_LOCK
    pduSize := 1 + dataIndex rr.version
    dropIfUnconfigured := false
    version := sentVersion rr.version
    pdu := slot.pdu.store (Pdu.tspduHdr false Pdu.ACK_MSG (transNumHi rr.version rr.transNum))
      (transNumLo rr.version rr.transNum) }

def responsePdu (rr : ReceiveRecord) (destAddr : DestinationAddress) (slot : NWSendParam) :
    NWSendParam :=
  { slot with
    destAddr := destAddr
    pduType := .spdu
    deltaBL := 0
    altPath := rr.altPath ||| ALT_CHANNEL_LOCK
    pduSize := rr.rspSize + dataIndex rr.version + 1
    dropIfUnconfigured := false
    version := sentVersion rr.version
    pdu := slot.pdu.store
      (Pdu.tspduHdr false Pdu.RESPONSE_MSG (transNumHi rr.version rr.transNum))
      (transNumLo rr.version rr.transNum ++ rr.response) }

def handled (rr : ReceiveRecord) : Bool :=
  rr.transState == .delivered || rr.transState == .responded || rr.transState == .done

def unchallenged (rr : ReceiveRecord) : Bool :=
  rr.needAuth && (rr.transState == .justReceived || rr.transState == .authenticating)

end ReceiveRecord

def computeRecvTimerValue (eep : Eeprom) (addrMode : AddrMode) (groupId : UInt8) : Nat :=
  if addrMode = .uniqueNodeId then NGTIMER_SPCL_VAL
  else if addrMode = .multicast then
    ((List.finRange NUM_ADDR_TBL_ENTRIES).foldlM
      (fun max i =>
        let a := eep.addrTable i
        if a.groupType && a.group == groupId then
          (decodeRcvTimer a.receiveTimer).map fun temp => Nat.max max temp
        else some max) 0).getD 0
  else (decodeRcvTimer eep.nonGroupReceiveTimer).getD 0

namespace TSAReceiveParam

/-- The APDU of an ACKD, UNACK_RPT or REQUEST PDU. Its size is computed in 16 bits. -/
def newMsgApdu (p : TSAReceiveParam) : List UInt8 :=
  bytesAt p.pdu.data p.dataIndex ((p.pduSize + 65536 - 1 - p.dataIndex) % 65536)

def mListLength (p : TSAReceiveParam) : Nat := (p.pdu.byte p.dataIndex).toNat

def isReminder (p : TSAReceiveParam) : Bool := p.pdu.pduMsgType == Pdu.REMINDER_MSG

def remApdu (p : TSAReceiveParam) : List UInt8 :=
  bytesAt p.pdu.data (1 + p.dataIndex + p.mListLength)
    ((p.pduSize + 2 * 65536 - 2 - p.mListLength - p.dataIndex) % 65536)

def asksMember (p : TSAReceiveParam) (member : UInt8) : Bool :=
  p.mListLength == 0 || p.mListLength ≤ member.toNat / 8 ||
    p.pdu.byte (1 + p.dataIndex + member.toNat / 8) &&& (1 <<< (member % 8)) == 0

def isRetryOf (p : TSAReceiveParam) (layer : Layer) (rr : ReceiveRecord) : Bool :=
  rr.transNum == p.transNum && rr.status == layer.rrStatus && p.pduSize - 1 == rr.apduSize &&
    bytesAt p.pdu.data p.dataIndex rr.apduSize == rr.apdu

def isRemOf (p : TSAReceiveParam) (layer : Layer) (rr : ReceiveRecord) : Bool :=
  rr.srcAddr.addressMode == .multicast && rr.transNum == p.transNum &&
    rr.status == layer.rrStatus && (p.isReminder || p.remApdu == rr.apdu)

def newMsgService (p : TSAReceiveParam) : Layer → ServiceType
  | .transport => if p.pdu.pduMsgType = Pdu.ACKD_MSG then .acknowledged else .repeated
  | .session => .request

end TSAReceiveParam

def Layer.remService : Layer → ServiceType
  | .transport => .acknowledged
  | .session => .request

namespace ProtocolStackData

def modifyRR (gp : ProtocolStackData) (i : Fin RECEIVE_TRANS_COUNT)
    (f : ReceiveRecord → ReceiveRecord) : ProtocolStackData :=
  { gp with recvRec := Function.update gp.recvRec i (f (gp.recvRec i)) }

def dropTsaIn (gp : ProtocolStackData) : ProtocolStackData :=
  { gp with tsaInQ := gp.tsaInQ.dropHead }

def pushNw (gp : ProtocolStackData) (priority : Bool) (fill : NWSendParam → NWSendParam) :
    ProtocolStackData :=
  { gp with nwOutQ := Function.update gp.nwOutQ priority ((gp.nwOutQ priority).push fill) }

def retrieveRR (gp : ProtocolStackData) (src : SourceAddress) (priority : Bool) :
    Option (Fin RECEIVE_TRANS_COUNT) :=
  Fin.find? fun i => (gp.recvRec i).matchesSource src priority

def allocateRR (gp : ProtocolStackData) : Option (Fin RECEIVE_TRANS_COUNT) :=
  Fin.find? fun i => (gp.recvRec i).status == .unused

def findRR (gp : ProtocolStackData) (id : RequestId) : Option (Fin RECEIVE_TRANS_COUNT) :=
  (Fin.find? fun i => (gp.recvRec i).status == .session && (gp.recvRec i).reqId == id).filter
    fun i => (gp.recvRec i).serviceType == .request && (gp.recvRec i).transState == .delivered

def releaseExpired (layer : Layer) (gp : ProtocolStackData) : ProtocolStackData :=
  { gp with
    recvRec := fun i =>
      let rr := gp.recvRec i
      if rr.status = layer.rrStatus && rr.recvTimer.isExpired gp.tickCount then
        { rr with status := .unused, recvTimer := rr.recvTimer.reported gp.tickCount }
      else rr }

def freeRR (i : Fin RECEIVE_TRANS_COUNT) (gp : ProtocolStackData) : ProtocolStackData :=
  gp.modifyRR i fun rr => { rr with status := .unused }

/-- Request ids wrap around; 0 is never used. -/
def nextReqId (gp : ProtocolStackData) : RequestId := if gp.reqId = 0 then 1 else gp.reqId

def initRR (layer : Layer) (p : TSAReceiveParam) (serviceType : ServiceType) (apdu : List UInt8)
    (clearReqId : Bool) (i : Fin RECEIVE_TRANS_COUNT) (gp : ProtocolStackData) :
    ProtocolStackData :=
  { gp.modifyRR i fun rr =>
      { rr with
        status := layer.rrStatus
        srcAddr := p.srcAddr
        transNum := p.transNum
        transState := .justReceived
        priority := p.priority
        altPath := p.altPath
        version := p.version
        auth := false
        reqId :=
          match layer with
          | .transport => if clearReqId then 0 else rr.reqId
          | .session => gp.nextReqId
        serviceType := serviceType
        apdu := apdu
        recvTimer := rr.recvTimer.set gp.tickCount
          (UInt32.ofNat (computeRecvTimerValue gp.eep p.srcAddr.addressMode p.srcAddr.group)) } with
    reqId :=
      match layer with
      | .transport => gp.reqId
      | .session => gp.nextReqId + 1 }

/-- A message that needs authentication and was not authenticated is not delivered. -/
def deliver (i : Fin RECEIVE_TRANS_COUNT) (gp : ProtocolStackData) : ProtocolStackData :=
  let rr := gp.recvRec i
  if rr.needAuth && rr.transState != .authenticated then
    gp.modifyRR i fun rr => { rr with transState := .done }
  else if gp.appInQ.full then gp
  else if gp.appInBufSize < rr.apduSize then gp
  else
    { gp.modifyRR i fun rr => { rr with transState := .delivered } with
      appInQ := gp.appInQ.push rr.message }

def tpSendAck (i : Fin RECEIVE_TRANS_COUNT) (gp : ProtocolStackData) : ProtocolStackData :=
  let rr := gp.recvRec i
  if (gp.nwOutQ rr.priority).full then gp
  else
    match rr.answerAddr gp.eep rr.srcAddr.dmn with
    | none => gp
    | some destAddr => gp.pushNw rr.priority (rr.ack destAddr)

def snSendResponse (i : Fin RECEIVE_TRANS_COUNT) (nullResponse flexResponse : Bool)
    (gp : ProtocolStackData) : ProtocolStackData :=
  let rr := gp.recvRec i
  if (gp.nwOutQ rr.priority).full && !nullResponse then gp
  else if rr.transState ≠ .responded ∧ rr.transState ≠ .done then gp
  else if nullResponse then gp.modifyRR i fun rr => { rr with transState := .done }
  else if gp.nwOutBufSize false < rr.rspSize + 1 then gp
  else
    match decodeBufferSize TSA_RESP_BUF_SIZE with
    | none => gp
    | some responseSize =>
      if rr.rspSize ≤ responseSize then
        let dmn :=
          if flexResponse then { rr.srcAddr.dmn with domainIndex := FLEX_DOMAIN }
          else rr.srcAddr.dmn
        match rr.answerAddr gp.eep dmn with
        | none => gp
        | some destAddr => gp.pushNw rr.priority (rr.responsePdu destAddr)
      else gp

end ProtocolStackData

end LonStack
