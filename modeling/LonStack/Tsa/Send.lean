import LonStack.Tcs
import LonStack.Tsa.Record

namespace LonStack

/-- Tags of this form mark the end of a series of network variable updates. -/
def nvLastTag (tag : MsgTag) : Bool := tag &&& 0xA000 == 0xA000

abbrev ND_opcode_base : UInt8 := 0x50
abbrev ND_QUERY_XCVR_BIDIR : UInt8 := 0x07

namespace SendAddress

def netAddr (a : SendAddress) : Except LonStatusCode NetAddr :=
  if a.groupType then .ok (.multicast a.subnet)
  else if a.typeSize = 0 then .error .destinationAddressMissing
  else if a.typeSize = 1 then .ok (.subnetNode ((SubnetNode.mk a.subnet a.node).setSelField true))
  else if a.typeSize = 2 then .ok (.uniqueNodeId a.subnet a.neuronId)
  else if a.typeSize = 3 then .ok (.broadcast a.subnet)
  else .error .badAddressType

/-- The domain index always comes from the address, whatever `dmn` says. -/
def tsaAddressConversion (a : SendAddress) (dmn : Domain) :
    Except LonStatusCode DestinationAddress :=
  a.netAddr.map fun addr => ⟨{ dmn with domainIndex := a.domain }, addr⟩

/-- What a conversion that fails leaves behind. A type that is no address mode counts as unbound. -/
def unconverted (a : SendAddress) (dmn : Domain) : DestinationAddress :=
  ⟨{ dmn with domainIndex := a.domain }, .unbound⟩

def broadcastBacklog (a : SendAddress) : Nat := if a.backlog = 0 then 15 else a.backlog

end SendAddress

namespace TSASendParam

def completion (p : TSASendParam) (success : Bool) (slot : APPReceiveParam) : APPReceiveParam :=
  { slot with
    indication := .completion
    success := success
    tag := p.tag
    proxy := p.proxy
    proxyCount := p.proxyCount
    proxyDone := p.proxyDone }

def pathFlags (p : TSASendParam) (last : Bool) : UInt8 :=
  if p.altPathOverride then p.altPath
  else
    let altPath := p.altPath &&& ~~~ALT_PATH
    if p.service ≠ .repeated ∧ last then altPath ||| ALT_PATH else altPath

def rejected (p : TSASendParam) (nwBufSize : Nat) : Bool :=
  (p.destAddr.groupType && !p.destAddr.groupType && p.service != .repeated) ||
    (p.destAddr.groupType &&
      (p.destAddr.groupSize == 1 || MAX_GROUP_NUMBER + 1 < p.destAddr.groupSize)) ||
    nwBufSize < p.apduSize + 1

/-- A broadcast needs one answer only. -/
def forDest (p : TSASendParam) (nwDestAddr : DestinationAddress) : TSASendParam :=
  if nwDestAddr.addressMode = .broadcast then { p with destAddr := p.destAddr.setMaxResponses 1 }
  else p

end TSASendParam

namespace TransmitRecord

def answered (x : TransmitRecord) : Bool :=
  x.destCount == x.ackCount || (x.nwDestAddr.addressMode == .broadcast && 1 ≤ x.ackCount)

def succeeded (x : TransmitRecord) (p : TSASendParam) : Bool :=
  p.service == .repeated || x.answered

def highestAck (x : TransmitRecord) : Option Nat :=
  (List.range (MAX_GROUP_NUMBER + 1)).reverse.find? fun i => x.ackReceived i

def mListLength (x : TransmitRecord) : Option Nat :=
  if x.ackCount = 0 then some 0 else x.highestAck.map fun i => i / 8 + 1

def mListByte (x : TransmitRecord) (b : Nat) : UInt8 :=
  (List.range 8).foldl
    (fun byte j => byte ||| (if x.ackReceived (8 * b + j) then (1 : UInt8) <<< UInt8.ofNat j else 0))
    0

def mList (x : TransmitRecord) (length : Nat) : List UInt8 :=
  UInt8.ofNat length :: (List.range length).map x.mListByte

def loseRetry (x : TransmitRecord) (tickCount : UInt32) : TransmitRecord :=
  { x with
    retriesLeft := x.retriesLeft - 1
    xmitTimer := x.xmitTimer.set tickCount (UInt32.ofNat x.xmitTimerValue) }

def countRetry (x : TransmitRecord) (tickCount : UInt32) : TransmitRecord :=
  let retriesLeft := x.retriesLeft - 1
  let xmitTimerValue :=
    if retriesLeft = 0 then (x.xmitTimerValue + x.txTimerDeltaLast) % 65536 else x.xmitTimerValue
  { x with
    retriesLeft := retriesLeft
    xmitTimerValue := xmitTimerValue
    xmitTimer := x.xmitTimer.set tickCount (UInt32.ofNat xmitTimerValue) }

def retryBacklog (x : TransmitRecord) (p : TSASendParam) : Nat :=
  if p.service = .repeated then 0
  else
    match x.nwDestAddr.addressMode with
    | .broadcast => p.destAddr.broadcastBacklog
    | .multicast => (x.destCount + 256 - x.ackCount) % 256
    | _ => 1

def retry (x : TransmitRecord) (p : TSASendParam) (layer : Layer) (deltaBL : Nat)
    (pduMsgType : UInt8) (bytes : List UInt8) (slot : NWSendParam) : NWSendParam :=
  { slot with
    destAddr := x.nwDestAddr
    pduType := layer.pduType
    deltaBL := deltaBL
    altPath := p.pathFlags (x.retriesLeft ≤ ALT_PATH_COUNT + 1) ||| ALT_RETRY
    pduSize := bytes.length + 1 + dataIndex x.version
    version := sentVersion x.version
    pdu := slot.pdu.store (Pdu.tspduHdr p.auth pduMsgType (transNumHi x.version x.transNum))
      (transNumLo x.version x.transNum ++ bytes) }

/-- The PDU after a REMINDER. In the enhanced format the low byte of its transaction number is
stored where the APDU goes, so the slot keeps the byte it held before. The low byte is in place only
in the slot at the tail, which is used here if there was no REMINDER. -/
def retryAfterReminder (x : TransmitRecord) (p : TSASendParam) (layer : Layer) (deltaBL : Nat)
    (pduMsgType : UInt8) (bytes : List UInt8) (slot : NWSendParam) : NWSendParam :=
  let low :=
    if x.version = LsProtocolModeLegacy then []
    else if p.service = .acknowledged ∨ p.service = .request then [slot.pdu.byte 0]
    else [UInt8.ofNat x.transNum]
  { x.retry p layer deltaBL pduMsgType bytes slot with
    dropIfUnconfigured := true
    pdu := slot.pdu.store (Pdu.tspduHdr p.auth pduMsgType (transNumHi x.version x.transNum))
      (low ++ bytes) }

def firstPdu (x : TransmitRecord) (p : TSASendParam) (layer : Layer) (apdu : List UInt8)
    (slot : NWSendParam) : NWSendParam :=
  { slot with
    destAddr := x.nwDestAddr
    pduType := layer.pduType
    deltaBL :=
      if p.service = .repeated then x.retriesLeft
      else
        match x.nwDestAddr.addressMode with
        | .broadcast => p.destAddr.broadcastBacklog
        | .multicast => x.destCount
        | _ => 1
    altPath := p.pathFlags (x.retriesLeft ≤ ALT_PATH_COUNT)
    pduSize := x.apduSize + dataIndex x.version + 1
    dropIfUnconfigured := true
    version := sentVersion x.version
    pdu := slot.pdu.store
      (Pdu.tspduHdr p.auth
        (if p.service = .repeated then Pdu.UNACK_RPT_MSG
          else match layer with
            | .transport => Pdu.ACKD_MSG
            | .session => Pdu.REQUEST_MSG)
        (transNumHi x.version x.transNum))
      (transNumLo x.version x.transNum ++ apdu) }

def destCountFor (addr : NetAddr) (groupSize : Nat) : Nat :=
  if addr.addressMode = .multicast then
    if (groupSize + 255) % 256 = 0 then 1 else (groupSize + 255) % 256
  else 1

end TransmitRecord

namespace ProtocolStackData

def modifyXmit (gp : ProtocolStackData) (priority : Bool) (f : TransmitRecord → TransmitRecord) :
    ProtocolStackData :=
  { gp with xmitRec := Function.update gp.xmitRec priority (f (gp.xmitRec priority)) }

def modifyTsaOut (gp : ProtocolStackData) (priority : Bool)
    (f : Queue TSASendParam → Queue TSASendParam) : ProtocolStackData :=
  { gp with tsaOutQ := Function.update gp.tsaOutQ priority (f (gp.tsaOutQ priority)) }

def sendBlocked (gp : ProtocolStackData) : Bool := gp.tsDelayTimer.running gp.tickCount

/-- Signals the completion of the message at the head of the output queue of `priority` and drops
it. The queue to drop from is chosen by the entry. -/
def sendCompletion (priority success : Bool) (gp : ProtocolStackData) : ProtocolStackData :=
  match (gp.tsaOutQ priority).peek with
  | none => gp
  | some p =>
    if gp.appCeRspInQ.full then gp
    else
      { (gp.modifyTsaOut priority fun q => q.fillHead { p with proxy := false }).modifyTsaOut
          p.priority Queue.dropHead with
        appCeRspInQ := gp.appCeRspInQ.push (p.completion success) }

def endTrans (priority : Bool) (gp : ProtocolStackData) : ProtocolStackData :=
  { gp.modifyXmit priority fun x => { x with status := .unused } with
    transCtrl := Function.update gp.transCtrl priority (gp.transCtrl priority).transDone }

def terminate (priority success : Bool) (gp : ProtocolStackData) : ProtocolStackData :=
  (gp.endTrans priority).sendCompletion priority success

def retransmit (layer : Layer) (priority : Bool) (gp : ProtocolStackData) : ProtocolStackData :=
  match (gp.tsaOutQ priority).peek with
  | none => gp
  | some p =>
    let x := gp.xmitRec priority
    let apdu := bytesAt ((gp.tsaOutQ priority).data x.apdu).apdu 0 x.apduSize
    let nwQ := gp.nwOutQ priority
    if nwQ.full then gp.modifyXmit priority fun x => x.loseRetry gp.tickCount
    else if p.service = .repeated then
      (gp.pushNw priority (x.retry p layer (x.retryBacklog p) Pdu.UNACK_RPT_MSG apdu)).modifyXmit
        priority fun x => x.countRetry gp.tickCount
    else if x.nwDestAddr.addressMode ≠ .multicast then
      if layer = .transport ∨ p.service = .request then
        (gp.pushNw priority (x.retry p layer (x.retryBacklog p)
          (match layer with
            | .transport => Pdu.ACKD_MSG
            | .session => Pdu.REQUEST_MSG) apdu)).modifyXmit
          priority fun x => x.countRetry gp.tickCount
      else gp.modifyXmit priority fun x => { x with retriesLeft := 0 }
    else
      match x.mListLength with
      | none => gp.modifyXmit priority fun x => { x with retriesLeft := 0 }
      | some length =>
        if length ≤ 2 then
          (gp.pushNw priority (x.retry p layer (x.retryBacklog p) Pdu.REM_MSG_MSG
            (x.mList length ++ apdu))).modifyXmit priority fun x => x.countRetry gp.tickCount
        else if nwQ.capacity - nwQ.entries < 2 then
          gp.modifyXmit priority fun x => x.loseRetry gp.tickCount
        else
          let gp' :=
            if p.service = .acknowledged ∨ p.service = .request then
              gp.pushNw priority fun slot =>
                { x.retry p layer 0 Pdu.REMINDER_MSG (x.mList length) slot with
                  dropIfUnconfigured := true }
            else gp
          (gp'.pushNw priority (x.retryAfterReminder p layer (x.retryBacklog p)
            (if p.service = .acknowledged then Pdu.ACKD_MSG else Pdu.REQUEST_MSG)
            apdu)).modifyXmit priority fun x => x.countRetry gp.tickCount

def inheritedNum (gp : ProtocolStackData) (p : TSASendParam) : Option Nat :=
  if p.proxy && p.txInherit then (gp.findRR p.tag).map fun i => (gp.recvRec i).transNum else none

def newXmitRec (layer : Layer) (priority : Bool) (p : TSASendParam) (nwDestAddr : DestinationAddress)
    (rptTimer transNum : Nat) (gp : ProtocolStackData) : TransmitRecord :=
  let x := gp.xmitRec priority
  let xmitTimerValue :=
    if p.service = .repeated then rptTimer else decodeTxTimer p.destAddr.transmitTimer
  { x with
    status := layer.txStatus
    nwDestAddr := nwDestAddr
    ackReceived := fun _ => false
    destCount := TransmitRecord.destCountFor nwDestAddr.addr p.destAddr.groupSize
    ackCount := 0
    transNum := transNum
    xmitTimerValue := xmitTimerValue
    xmitTimer := x.xmitTimer.set gp.tickCount (UInt32.ofNat xmitTimerValue)
    retriesLeft := p.destAddr.retry
    apdu := (gp.tsaOutQ priority).headIndex
    apduSize := p.apduSize
    auth := p.auth
    txTimerDeltaLast := if p.proxy then p.txTimerDeltaLast else 0
    altKey := if p.proxy then p.altKey else { x.altKey with altKey := false } }

def inheritTrans (gp : ProtocolStackData) (p : TSASendParam) (ctrl : TransCtrl) : TransCtrl :=
  match gp.inheritedNum p with
  | some num => ctrl.overrideTrans num
  | none => ctrl

def startTrans (layer : Layer) (priority : Bool) (p : TSASendParam)
    (nwDestAddr : DestinationAddress) (rptTimer : Nat) (gp : ProtocolStackData) :
    ProtocolStackData :=
  let p := p.forDest nwDestAddr
  let gp := gp.modifyTsaOut priority fun q => q.fillHead p
  let granted := (gp.transCtrl priority).newTrans gp.eep gp.tickCount nwDestAddr
  if granted.1 ≠ .noError then
    { gp with transCtrl := Function.update gp.transCtrl priority granted.2 }
  else
    let ctrl := gp.inheritTrans p granted.2
    let x := gp.newXmitRec layer priority p nwDestAddr rptTimer ctrl.transNum
    { gp.pushNw priority (x.firstPdu p layer (bytesAt p.apdu 0 p.apduSize)) with
      transCtrl := Function.update gp.transCtrl priority ctrl
      xmitRec := Function.update gp.xmitRec priority x }

def answerIsStale (layer : Layer) (p : TSAReceiveParam) (gp : ProtocolStackData) : Bool :=
  let x := gp.xmitRec p.priority
  !(gp.transCtrl p.priority).validateTrans p.transNum || x.status != layer.txStatus ||
    x.nwDestAddr.dmn.domainIndex != p.srcAddr.dmn.domainIndex ||
    match x.nwDestAddr.addr with
    | .subnetNode a =>
      a.subnet != p.srcAddr.subnetAddr.subnet || a.nodeId != p.srcAddr.subnetAddr.nodeId
    | .multicast group =>
      p.srcAddr.addressMode != .multicastAck || group != p.srcAddr.ackNode.groupId
    | _ => false

def ackOfOtherSubnet (p : TSAReceiveParam) (gp : ProtocolStackData) : Bool :=
  match (gp.xmitRec p.priority).nwDestAddr.addr with
  | .broadcast subnet =>
    p.srcAddr.subnetAddr.subnet != 0 && subnet != 0 && subnet != p.srcAddr.subnetAddr.subnet
  | _ => false

def countAck (priority : Bool) (gp : ProtocolStackData) : ProtocolStackData :=
  gp.modifyXmit priority fun x => { x with ackCount := (x.ackCount + 1) % 256 }

/-- Only the first answer of a group member counts. -/
def countMember (priority : Bool) (member : Nat) (gp : ProtocolStackData) : ProtocolStackData :=
  gp.modifyXmit priority fun x =>
    if x.ackReceived member then x
    else
      { x with
        ackReceived := Function.update x.ackReceived member true
        ackCount := (x.ackCount + 1) % 256 }

def restartTimer (priority : Bool) (gp : ProtocolStackData) : ProtocolStackData :=
  if (gp.xmitRec priority).status = .unused then gp
  else
    gp.modifyXmit priority fun x =>
      { x with xmitTimer := x.xmitTimer.set gp.tickCount (UInt32.ofNat x.xmitTimerValue) }

def responseAccepted (p : TSAReceiveParam) (sent : TSASendParam) (gp : ProtocolStackData) : Bool :=
  let x := gp.xmitRec p.priority
  match x.nwDestAddr.addressMode with
  | .broadcast => x.ackCount < sent.destAddr.maxResponses
  | .subnetNode => x.ackCount == 0
  | .uniqueNodeId => x.ackCount == 0
  | .multicast =>
    p.srcAddr.addressMode == .multicastAck &&
      p.srcAddr.ackNode.member.toNat ≤ MAX_GROUP_NUMBER &&
      !x.ackReceived p.srcAddr.ackNode.member.toNat
  | _ => false

/-- The MESSAGE entry of a response. Its size counts the low byte of an enhanced transaction
number, which is not copied. -/
def responseMessage (p : TSAReceiveParam) (sent : TSASendParam) (requestCode : UInt8)
    (slot : APPReceiveParam) : APPReceiveParam :=
  let pduSize := p.pduSize - 1
  let apdu := storeBytes slot.apdu
    (bytesAt p.pdu.data p.dataIndex (p.pduSize - p.dataIndex - 1))
  let amended :=
    requestCode = ND_opcode_base ||| ND_QUERY_XCVR_BIDIR ∧
      pduSize = 1 + IZOT_COMMUNICATIONS_PARAMETER_LENGTH
  { slot with
    indication := .message
    srcAddr := p.srcAddr
    service := .response
    priority := p.priority
    pduSize := if amended then pduSize + IZOT_COMMUNICATIONS_PARAMETER_LENGTH else pduSize
    auth := false
    tag := sent.tag
    proxy := sent.proxy
    proxyCount := sent.proxyCount
    proxyDone := sent.proxyDone
    xcvrParams := p.xcvrParams
    apdu :=
      if amended then
        apdu.take (1 + IZOT_COMMUNICATIONS_PARAMETER_LENGTH) ++
          storeBytes (apdu.drop (1 + IZOT_COMMUNICATIONS_PARAMETER_LENGTH)) p.xcvrParams.toList
      else apdu }

def takeResponse (p : TSAReceiveParam) (sent : TSASendParam) (gp : ProtocolStackData) :
    ProtocolStackData :=
  let x := gp.xmitRec p.priority
  let requestCode := ((gp.tsaOutQ p.priority).data x.apdu).apdu.headD 0
  let gp' := gp.modifyTsaOut p.priority fun q => q.fillHead { sent with proxyDone := true }
  if responseAccepted p sent gp then
    { gp'.modifyXmit p.priority fun x =>
        { x with
          ackReceived :=
            if x.nwDestAddr.addressMode = .multicast then
              Function.update x.ackReceived p.srcAddr.ackNode.member.toNat true
            else x.ackReceived
          ackCount := (x.ackCount + 1) % 256 } with
      appCeRspInQ := gp.appCeRspInQ.push (responseMessage p sent requestCode) }
  else gp'

def responseEnds (p : TSAReceiveParam) (sent : TSASendParam) (accepted : Bool)
    (x : TransmitRecord) : Bool :=
  match x.nwDestAddr.addressMode with
  | .broadcast => accepted && x.ackCount == sent.destAddr.maxResponses
  | .subnetNode => accepted
  | .uniqueNodeId => accepted
  | .multicast =>
    p.srcAddr.addressMode == .multicastAck &&
      p.srcAddr.ackNode.member.toNat ≤ MAX_GROUP_NUMBER && x.destCount == x.ackCount
  | _ => false

end ProtocolStackData

end LonStack
