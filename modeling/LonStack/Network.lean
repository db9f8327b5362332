import LonStack.Node
import LonStack.OsalLog

namespace LonStack

namespace PduType

def code : PduType → UInt8
  | .tpdu => 0
  | .spdu => 1
  | .authpdu => 2
  | .apdu => 3

def ofCode (code : UInt8) : PduType :=
  if code = 0 then .tpdu
  else if code = 1 then .spdu
  else if code = 2 then .authpdu
  else .apdu

end PduType

def decodeDomainLength (lengthCode : UInt8) : Nat :=
  if lengthCode = 1 then 1
  else if lengthCode = 2 then 3
  else if lengthCode = 3 then 6
  else 0

def encodeDomainLength (length : Nat) : Option UInt8 :=
  if length = 0 then some 0
  else if length = 1 then some 1
  else if length = 3 then some 2
  else if length = 6 then some 3
  else none

/-- The header byte and the bytes of `data`. Reads past the end of the buffer give 0. -/
structure Npdu where
  hdr : UInt8
  data : List UInt8
  deriving DecidableEq, Repr, Inhabited

namespace Npdu

def header (version : Nat) (pduType addrFmt domainLength : UInt8) : UInt8 :=
  (UInt8.ofNat version <<< 6) ||| (pduType <<< 4) ||| (addrFmt <<< 2) ||| domainLength

def protocolVersion (npdu : Npdu) : Nat := (npdu.hdr >>> 6).toNat

def pduType (npdu : Npdu) : PduType := .ofCode ((npdu.hdr >>> 4) &&& 3)

def addrFmt (npdu : Npdu) : UInt8 := (npdu.hdr >>> 2) &&& 3

def domainLength (npdu : Npdu) : UInt8 := npdu.hdr &&& 3

def byte (npdu : Npdu) (k : Nat) : UInt8 := npdu.data.getD k 0

def subnetAddr (npdu : Npdu) : SubnetNode := ⟨npdu.byte 0, npdu.byte 1⟩

/-- The selector bit of the source tells the two meanings of address format 2 apart. -/
def selField (npdu : Npdu) : Bool := npdu.byte 1 &&& 0x80 ≠ 0

def destAddr (npdu : Npdu) : NetAddr :=
  if npdu.addrFmt = 0 then .broadcast (npdu.byte 2)
  else if npdu.addrFmt = 1 then .multicast (npdu.byte 2)
  else if npdu.addrFmt = 2 then
    if npdu.selField then .subnetNode ⟨npdu.byte 2, npdu.byte 3⟩
    else .multicastAck ⟨⟨npdu.byte 2, npdu.byte 3⟩, npdu.byte 4, npdu.byte 5⟩
  else .uniqueNodeId (npdu.byte 2) (Vector.ofFn fun k => npdu.byte (3 + k))

end Npdu

namespace NetAddr

def addrFmt : NetAddr → Option UInt8
  | .broadcast _ => some 0
  | .multicast _ => some 1
  | .subnetNode _ => some 2
  | .multicastAck _ => some 2
  | .uniqueNodeId .. => some 3
  | .unbound => none

def bytes : NetAddr → List UInt8
  | .broadcast subnet => [subnet]
  | .multicast group => [group]
  | .subnetNode a => [a.subnet, (a.setSelField true).node]
  | .multicastAck a =>
    [a.subnetAddr.subnet, (a.subnetAddr.setSelField true).node, a.groupId, a.member]
  | .uniqueNodeId subnet id => subnet :: id.toList
  | .unbound => []

def domainAt : NetAddr → Nat
  | .broadcast _ => 3
  | .multicast _ => 3
  | .subnetNode _ => 4
  | .multicastAck _ => 6
  | .uniqueNodeId .. => 9
  | .unbound => 0

end NetAddr

structure LKSendParam where
  deltaBL : Nat
  altPath : UInt8
  pduSize : Nat
  domainIndex : Nat
  npdu : Npdu
  deriving DecidableEq, Repr, Inhabited

structure NWReceiveParam where
  priority : Bool
  altPath : UInt8
  pduSize : Nat
  npdu : Npdu
  deriving DecidableEq, Repr, Inhabited

structure NetworkStackData extends ProtocolStackData where
  nwInQ : Queue NWReceiveParam
  lkOutQ : Bool → Queue LKSendParam
  tsaInBufSize : Nat
  nmAuth : Bool
  log : EventLog

namespace NWSendParam

def bytes (nw : NWSendParam) : List UInt8 := bytesAt (nw.pdu.hdr :: nw.pdu.data) 0 nw.pduSize

def completion (nw : NWSendParam) (success : Bool) (slot : APPReceiveParam) : APPReceiveParam :=
  { slot with
    indication := .completion
    success := success
    tag := nw.tag
    proxy := nw.proxy
    proxyCount := 0
    proxyDone := false }

end NWSendParam

namespace NetworkStackData

def printLogs (statuses : List LonStatusCode) (gp : NetworkStackData) : NetworkStackData :=
  { gp with log := gp.log.osalPrintLogs gp.eep.nodeState gp.tickCount statuses }

@[simp] theorem toProtocolStackData_printLogs (statuses : List LonStatusCode)
    (gp : NetworkStackData) :
    (gp.printLogs statuses).toProtocolStackData = gp.toProtocolStackData := rfl

@[simp] theorem lkOutQ_printLogs (statuses : List LonStatusCode) (gp : NetworkStackData) :
    (gp.printLogs statuses).lkOutQ = gp.lkOutQ := rfl

def sendDomain (gp : NetworkStackData) (dmn : Domain) : Nat × List UInt8 :=
  if dmn.domainIndex < gp.eep.numDomains then
    let d := gp.eep.domainTable dmn.domainIndex
    (d.idLength, d.id.toList.take d.idLength)
  else (dmn.domainLen, dmn.domainId.toList.take dmn.domainLen)

def sendSource (gp : NetworkStackData) (dest : DestinationAddress) : SubnetNode :=
  if dest.dmn.domainIndex < gp.eep.numDomains then
    let d := gp.eep.domainTable dest.dmn.domainIndex
    SubnetNode.setSelField ⟨d.subnet, d.node⟩ (dest.addressMode != .multicastAck)
  else ⟨0, 0x80⟩

def droppedUnconfigured (gp : NetworkStackData) (nw : NWSendParam) : Bool :=
  nw.dropIfUnconfigured && nw.destAddr.dmn.domainIndex != FLEX_DOMAIN && gp.eep.nodeUnConfigured

def unsendable (gp : NetworkStackData) (nw : NWSendParam) : Bool :=
  gp.droppedUnconfigured nw ||
    (decide (nw.destAddr.dmn.domainIndex < gp.eep.numDomains) &&
      (gp.eep.domainTable nw.destAddr.dmn.domainIndex).invalid)

def formNpdu (gp : NetworkStackData) (nw : NWSendParam) : Option LKSendParam := do
  let addrFmt ← nw.destAddr.addr.addrFmt
  if gp.unsendable nw then none
  let (domainLen, domainId) := gp.sendDomain nw.destAddr.dmn
  let domainLength ← encodeDomainLength domainLen
  let src := gp.sendSource nw.destAddr
  let npdu : Npdu :=
    { hdr := Npdu.header nw.version nw.pduType.code addrFmt domainLength
      data := [src.subnet, src.node] ++ nw.destAddr.addr.bytes ++ domainId ++ nw.bytes }
  let npduSize := 1 + (nw.destAddr.addr.domainAt + domainLen) + nw.pduSize
  if gp.nwOutBufSize false < npduSize then none
  some
    { deltaBL := nw.deltaBL
      altPath := nw.altPath
      pduSize := npduSize
      domainIndex := nw.destAddr.dmn.domainIndex
      npdu := npdu }

/-- What a PDU for which there is no NPDU is logged with. Those of an unconfigured node are dropped
without a word. -/
def discardErrors (gp : NetworkStackData) (nw : NWSendParam) : List LonStatusCode :=
  if nw.destAddr.addr.addrFmt = none then [.invalidMessageMode]
  else if gp.droppedUnconfigured nw then []
  else if gp.unsendable nw ∨ encodeDomainLength (gp.sendDomain nw.destAddr.dmn).1 = none then
    [.invalidDomain]
  else [.writePastEndOfNetBuffer]

def complete (nw : NWSendParam) (success : Bool) (gp : NetworkStackData) : NetworkStackData :=
  if nw.pduType = .apdu then
    { gp with appCeRspInQ := gp.appCeRspInQ.push (nw.completion success) }
  else gp

def dropNwOut (priority : Bool) (gp : NetworkStackData) : NetworkStackData :=
  { gp with nwOutQ := Function.update gp.nwOutQ priority (gp.nwOutQ priority).dropHead }

def nwSendTerminate (priority : Bool) (nw : NWSendParam) (gp : NetworkStackData) :
    NetworkStackData :=
  (gp.complete nw false).dropNwOut priority

def pushLk (priority : Bool) (lk : LKSendParam) (gp : NetworkStackData) : NetworkStackData :=
  { gp with lkOutQ := Function.update gp.lkOutQ priority ((gp.lkOutQ priority).push fun _ => lk) }

def nwCurrent (gp : NetworkStackData) : Option Bool :=
  if !(gp.nwOutQ true).empty && !(gp.lkOutQ true).full then some true
  else if !(gp.nwOutQ false).empty && !(gp.lkOutQ false).full then some false
  else none

def sendPdu (priority : Bool) (nw : NWSendParam) (gp : NetworkStackData) : NetworkStackData :=
  if nw.pduType = .apdu ∧ gp.appCeRspInQ.full then gp.printLogs [.noBufferAvailable]
  else
    match gp.formNpdu nw with
    | none => (gp.nwSendTerminate priority nw).printLogs (gp.discardErrors nw)
    | some lk => ((gp.dropNwOut priority).pushLk priority lk).complete nw true

def networkLayerSend (gp : NetworkStackData) : NetworkStackData :=
  match gp.nwCurrent with
  | none => gp
  | some priority =>
    match (gp.nwOutQ priority).peek with
    | none => gp
    | some nw => gp.sendPdu priority nw

def isDomain (gp : NetworkStackData) (i : Nat) (domainId : List UInt8) : Bool :=
  !(gp.eep.domainTable i).invalid && domainId.length == (gp.eep.domainTable i).idLength &&
    domainId == (gp.eep.domainTable i).id.toList.take domainId.length

def domainIndexOf (gp : NetworkStackData) (domainId : List UInt8) : Nat :=
  if gp.eep.nodeConfigured && gp.isDomain 0 domainId then 0
  else if gp.eep.nodeConfigured && gp.eep.twoDomains && gp.isDomain 1 domainId then 1
  else FLEX_DOMAIN

def isOwnAddr (gp : NetworkStackData) (i : Nat) (a : SubnetNode) : Bool :=
  a == ⟨(gp.eep.domainTable i).subnet, (gp.eep.domainTable i).nodeClone⟩

def isForDomain (gp : NetworkStackData) (i : Nat) : NetAddr → Bool
  | .broadcast subnet => subnet == 0 || subnet == (gp.eep.domainTable i).subnet
  | .multicast group => (gp.eep.isGroupMember i group).isSome
  | .subnetNode a => gp.isOwnAddr i a
  | .multicastAck a => gp.isOwnAddr i a.subnetAddr && (gp.eep.isGroupMember i a.groupId).isSome
  | .uniqueNodeId .. => true
  | .unbound => false

def isForUniqueId (gp : NetworkStackData) : NetAddr → Bool
  | .uniqueNodeId _ uniqueNodeId => uniqueNodeId == gp.eep.uniqueNodeId
  | _ => true

def accepts (gp : NetworkStackData) (i : Nat) (src : SubnetNode) (dest : NetAddr) : Bool :=
  !(i != FLEX_DOMAIN && gp.isOwnAddr i src && i != 1) &&
    (i == FLEX_DOMAIN || gp.isForDomain i dest) &&
    gp.isForUniqueId dest &&
    (gp.eep.nodeConfigured || dest.addressMode == .broadcast ||
      dest.addressMode == .uniqueNodeId) &&
    !(i == FLEX_DOMAIN && gp.eep.nodeConfigured && dest.addressMode != .uniqueNodeId)

/-- The source address of a packet. `uninit` is what the memory of the record held before; fields
that do not belong to the address mode are not set. -/
def sourceAddress (uninit : SourceAddress) (domainIndex : Nat) (domainId : List UInt8)
    (npdu : Npdu) : SourceAddress where
  subnetAddr := npdu.subnetAddr
  addressMode := npdu.destAddr.addressMode
  dmn :=
    { domainIndex := domainIndex
      domainLen := domainId.length
      domainId := Vector.ofFn fun k => domainId.getD k (uninit.dmn.domainId.get k) }
  group :=
    match npdu.destAddr with
    | .multicast group => group
    | _ => uninit.group
  ackNode :=
    match npdu.destAddr with
    | .multicastAck a => a
    | _ => uninit.ackNode
  broadcastSubnet :=
    match npdu.destAddr with
    | .broadcast subnet => subnet
    | _ => uninit.broadcastSubnet

def receiveApdu (r : NWReceiveParam) (srcAddr : SourceAddress) (j pduSize : Nat)
    (gp : NetworkStackData) : NetworkStackData :=
  if gp.appInQ.full ∨ gp.appInBufSize < pduSize then gp
  else
    { gp with
      appInQ := gp.appInQ.push fun slot =>
        { slot with
          indication := .message
          srcAddr := srcAddr
          priority := r.priority
          altPath := r.altPath
          pduSize := pduSize
          auth := gp.nmAuth
          service := .unacknowledged
          apdu := bytesAt r.npdu.data j pduSize } }

def receiveTsa (r : NWReceiveParam) (srcAddr : SourceAddress) (j pduSize : Nat)
    (gp : NetworkStackData) : NetworkStackData :=
  if gp.tsaInQ.full ∨ gp.tsaInBufSize < pduSize then gp
  else
    { gp with
      tsaInQ := gp.tsaInQ.push fun slot =>
        { slot with
          pduType := r.npdu.pduType
          srcAddr := srcAddr
          priority := r.priority
          altPath := r.altPath
          pduSize := pduSize
          version := r.npdu.protocolVersion
          pdu := ⟨r.npdu.byte j, bytesAt r.npdu.data (j + 1) (pduSize - 1)⟩ } }

def receiveNpdu (uninit : SourceAddress) (r : NWReceiveParam) (gp : NetworkStackData) :
    NetworkStackData :=
  let dest := r.npdu.destAddr
  let domainLength := decodeDomainLength r.npdu.domainLength
  let domainId := bytesAt r.npdu.data dest.domainAt domainLength
  let domainIndex := gp.domainIndexOf domainId
  let j := dest.domainAt + domainLength
  if domainLength ≠ 0 ∧ domainLength ≠ 1 ∧ domainLength ≠ 3 then gp
  else if ¬gp.accepts domainIndex r.npdu.subnetAddr dest then gp
  else if r.pduSize ≤ j + 1 then gp
  else
    let srcAddr := sourceAddress uninit domainIndex domainId r.npdu
    let pduSize := r.pduSize - j - 1
    if r.npdu.pduType = .apdu then gp.receiveApdu r srcAddr j pduSize
    else gp.receiveTsa r srcAddr j pduSize

def receiveErrors (gp : NetworkStackData) (r : NWReceiveParam) : List LonStatusCode :=
  let dest := r.npdu.destAddr
  let domainLength := decodeDomainLength r.npdu.domainLength
  let domainId := bytesAt r.npdu.data dest.domainAt domainLength
  let pduSize := r.pduSize - (dest.domainAt + domainLength) - 1
  let noRoom (full : Bool) (size : Nat) : List LonStatusCode :=
    (if size < pduSize then [.writePastEndOfApplBuffer] else []) ++
      (if full ∨ size < pduSize then [.noBufferAvailable] else [])
  if domainLength ≠ 0 ∧ domainLength ≠ 1 ∧ domainLength ≠ 3 then [.invalidDomain]
  else if ¬gp.accepts (gp.domainIndexOf domainId) r.npdu.subnetAddr dest ∨ pduSize = 0 then []
  else if r.npdu.pduType = .apdu then noRoom gp.appInQ.full gp.appInBufSize
  else noRoom gp.tsaInQ.full gp.tsaInBufSize

def networkLayerReceive (uninit : SourceAddress) (gp : NetworkStackData) : NetworkStackData :=
  match gp.nwInQ.peek with
  | none => gp
  | some r =>
    { gp.receiveNpdu uninit r with nwInQ := gp.nwInQ.dropHead }.printLogs (gp.receiveErrors r)

end NetworkStackData

end LonStack
