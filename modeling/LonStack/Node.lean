import Mathlib.Algebra.Group.Nat.Even
import Mathlib.Data.Fin.Basic
import LonStack.Queue
import LonStack.Timer
import LonStack.Types

namespace LonStack

structure IzotDomain where
  id : DomainId
  subnet : UInt8
  nodeClone : UInt8
  invalidIdLength : UInt8
  key : AuthKey
  deriving DecidableEq, Repr, Inhabited

namespace IzotDomain

def node (d : IzotDomain) : UInt8 := d.nodeClone &&& 0x7F

def invalid (d : IzotDomain) : Bool := d.invalidIdLength &&& 0x80 ≠ 0

def authType (d : IzotDomain) : UInt8 := (d.invalidIdLength &&& 0x18) >>> 3

def idLength (d : IzotDomain) : Nat := (d.invalidIdLength &&& 0x07).toNat

end IzotDomain

structure IzotAddress where
  typeSize : UInt8
  domainMember : UInt8
  repeatRetry : UInt8
  receiveTransmit : UInt8
  group : UInt8
  deriving DecidableEq, Repr, Inhabited

namespace IzotAddress

def groupType (a : IzotAddress) : Bool := a.typeSize &&& 0x80 ≠ 0

def domain (a : IzotAddress) : Nat := ((a.domainMember &&& 0x80) >>> 7).toNat

def member (a : IzotAddress) : UInt8 := a.domainMember &&& 0x7F

def receiveTimer (a : IzotAddress) : Nat := ((a.receiveTransmit &&& 0xF0) >>> 4).toNat

end IzotAddress

/-- `domainTable` has two entries; what an index past them reads is the memory behind the table. -/
structure Eeprom where
  domainTable : Nat → IzotDomain
  addrTable : Fin NUM_ADDR_TBL_ENTRIES → IzotAddress
  uniqueNodeId : UniqueId
  twoDomains : Bool
  nodeState : UInt8
  config1 : UInt8
  deriving Inhabited

namespace Eeprom

def nodeConfigured (eep : Eeprom) : Bool := eep.nodeState &&& 0x04 ≠ 0

/-- Not the negation of `nodeConfigured`. -/
def nodeUnConfigured (eep : Eeprom) : Bool := eep.nodeState &&& 0x07 != 4

def numDomains (eep : Eeprom) : Nat := if eep.twoDomains then 2 else 1

def nonGroupReceiveTimer (eep : Eeprom) : Nat := ((eep.config1 &&& 0xF0) >>> 4).toNat

@[irreducible]
def isGroupMember (eep : Eeprom) (domainIndex : Nat) (group : UInt8) : Option UInt8 :=
  (Fin.find? fun i =>
    (eep.addrTable i).groupType && (eep.addrTable i).group == group &&
      (eep.addrTable i).domain == domainIndex).map fun i => (eep.addrTable i).member

def authOma (eep : Eeprom) : Bool := (eep.domainTable 0).authType == AUTH_OMA

end Eeprom

def bufSizeCodeLGbl : List Nat :=
  [255, 20, 20, 21, 22, 24, 26, 30, 34, 42, 50, 66, 82, 114, 146, 210]

def rptTimerCodeLGbl : List Nat :=
  [16, 24, 32, 48, 64, 96, 128, 192, 256, 384, 512, 768, 1024, 1536, 2048, 3072]

def rcvTimerCodeLGbl : List Nat :=
  [128, 192, 256, 384, 512, 768, 1024, 1536, 2048, 3072, 4096, 6144, 8192, 12288, 16384, 24576]

def decodeBufferSize (bufSize : Nat) : Option Nat := bufSizeCodeLGbl[bufSize]?

def decodeRptTimer (rptTimer : Nat) : Option Nat := rptTimerCodeLGbl[rptTimer]?

def decodeRcvTimer (rcvTimer : Nat) : Option Nat := rcvTimerCodeLGbl[rcvTimer]?

def decodeTxTimer (txTimer : Nat) : Nat :=
  let v := 16 * 2 ^ (txTimer / 2)
  (if txTimer % 2 = 1 then v + v / 2 else v) % 65536

abbrev TSA_RESP_BUF_SIZE : Nat := 0

inductive TxStatus
  | unused
  | session
  | transport
  | other : UInt8 → TxStatus
  deriving DecidableEq, Repr, Inhabited

def TxStatus.ofByte (byte : UInt8) : TxStatus :=
  if byte = 0 then .unused
  else if byte = 1 then .session
  else if byte = 2 then .transport
  else .other byte

inductive RrStatus
  | unused
  | session
  | transport
  deriving DecidableEq, Repr, Inhabited

inductive TransactionState
  | justReceived
  | delivered
  | done
  | authenticated
  | authenticating
  | responded
  deriving DecidableEq, Repr, Inhabited

inductive ApIndType
  | message
  | completion
  deriving DecidableEq, Repr, Inhabited

def Layer.txStatus : Layer → TxStatus
  | .transport => .transport
  | .session => .session

def Layer.rrStatus : Layer → RrStatus
  | .transport => .transport
  | .session => .session

def Layer.pduType : Layer → PduType
  | .transport => .tpdu
  | .session => .spdu

structure AltKey where
  altKey : Bool
  altKeyValue : AuthKey × AuthKey
  deriving DecidableEq, Repr, Inhabited

structure TransmitRecord where
  status : TxStatus
  nwDestAddr : DestinationAddress
  ackReceived : Nat → Bool
  destCount : Nat
  ackCount : Nat
  transNum : Nat
  xmitTimerValue : Nat
  xmitTimer : LonTimer
  retriesLeft : Nat
  /-- A pointer to the slot of the output queue that holds the APDU. -/
  apdu : Nat
  apduSize : Nat
  auth : Bool
  txTimerDeltaLast : Nat
  altKey : AltKey
  version : Nat
  deriving Inhabited

/-- `response` and `apdu` stand for a buffer together with the number of its bytes in use. -/
structure ReceiveRecord where
  status : RrStatus
  srcAddr : SourceAddress
  transNum : Nat
  reqId : RequestId
  recvTimer : LonTimer
  transState : TransactionState
  priority : Bool
  altPath : UInt8
  auth : Bool
  needAuth : Bool
  serviceType : ServiceType
  rand : Challenge
  response : List UInt8
  apdu : List UInt8
  xcvrParams : XcvrParam
  version : Nat
  deriving DecidableEq, Repr, Inhabited

def ReceiveRecord.apduSize (rr : ReceiveRecord) : Nat := rr.apdu.length

def ReceiveRecord.rspSize (rr : ReceiveRecord) : Nat := rr.response.length

structure NWSendParam where
  destAddr : DestinationAddress
  pduType : PduType
  tag : MsgTag
  deltaBL : Nat
  altPath : UInt8
  pduSize : Nat
  dropIfUnconfigured : Bool
  proxy : Bool
  version : Nat
  pdu : Pdu
  deriving DecidableEq, Repr, Inhabited

structure APPReceiveParam where
  indication : ApIndType
  success : Bool
  tag : MsgTag
  srcAddr : SourceAddress
  service : ServiceType
  priority : Bool
  altPath : UInt8
  pduSize : Nat
  auth : Bool
  reqId : RequestId
  proxy : Bool
  proxyDone : Bool
  proxyCount : UInt8
  xcvrParams : XcvrParam
  apdu : List UInt8
  deriving DecidableEq, Repr, Inhabited

structure TSASendParam where
  destAddr : SendAddress
  dmn : Domain
  service : ServiceType
  auth : Bool
  tag : MsgTag
  nullResponse : Bool
  flexResponse : Bool
  reqId : RequestId
  altPathOverride : Bool
  altPath : UInt8
  priority : Bool
  proxy : Bool
  proxyDone : Bool
  txInherit : Bool
  proxyCount : UInt8
  txTimerDeltaLast : Nat
  altKey : AltKey
  apdu : List UInt8
  deriving DecidableEq, Repr, Inhabited

def TSASendParam.apduSize (p : TSASendParam) : Nat := p.apdu.length

structure TSAReceiveParam where
  srcAddr : SourceAddress
  priority : Bool
  pduSize : Nat
  pduType : PduType
  altPath : UInt8
  xcvrParams : XcvrParam
  version : Nat
  pdu : Pdu
  deriving DecidableEq, Repr, Inhabited

def TSAReceiveParam.transNum (p : TSAReceiveParam) : Nat := p.pdu.transNum p.version

def TSAReceiveParam.dataIndex (p : TSAReceiveParam) : Nat := LonStack.dataIndex p.version

/-- The table entry of a destination holds `addressMode` and `addr` of the last transaction. -/
inductive TidAddr
  | other
  | subnetNode : SubnetNode → TidAddr
  | uniqueNodeId : UniqueId → TidAddr
  | broadcast : UInt8 → TidAddr
  | multicast : UInt8 → TidAddr
  deriving DecidableEq, Repr, Inhabited

structure TIDTableEntry where
  domainId : DomainId
  len : Nat
  addr : TidAddr
  timer : LonTimer
  tid : Nat
  deriving DecidableEq, Repr, Inhabited

/-- Transaction control of one priority. The numbers are 16 bits wide; legacy headers carry 4 of
them and enhanced ones 12. -/
structure TransCtrl where
  inProgress : Bool
  transNum : Nat
  transID : Nat
  tbl : Nat → TIDTableEntry
  tblSize : Nat
  tblSize_le : tblSize ≤ TID_TABLE_SIZE

-- The data of the stack is grouped by the side that writes it. What exists once for each
-- priority is a function of the priority.

structure NodeData where
  eep : Eeprom
  tickCount : UInt32
  tsDelayTimer : LonTimer
  appInBufSize : Nat
  nwOutBufSize : Bool → Nat

structure SendData where
  transCtrl : Bool → TransCtrl
  xmitRec : Bool → TransmitRecord
  tsaOutQ : Bool → Queue TSASendParam
  appCeRspInQ : Queue APPReceiveParam

structure RecvData where
  recvRec : Fin RECEIVE_TRANS_COUNT → ReceiveRecord
  /-- The low byte of the pointer to the pool of receive records. -/
  recvRecLow : UInt8
  /-- How the memory around the pool reads when that byte is another one. -/
  recvRecAt : UInt8 → (Fin RECEIVE_TRANS_COUNT → ReceiveRecord) →
    Fin RECEIVE_TRANS_COUNT → ReceiveRecord
  reqId : RequestId
  prevChallenge : Challenge
  rand : Nat → Nat
  appInQ : Queue APPReceiveParam
  tsaRespQ : Queue TSASendParam

structure NetData where
  tsaInQ : Queue TSAReceiveParam
  nwOutQ : Bool → Queue NWSendParam

structure ProtocolStackData extends NodeData, SendData, RecvData, NetData

end LonStack
