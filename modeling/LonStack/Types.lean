namespace LonStack

abbrev RECEIVE_TRANS_COUNT : Nat := 16
abbrev TID_TABLE_SIZE : Nat := 10
abbrev MAX_GROUP_NUMBER : Nat := 63
abbrev NUM_ADDR_TBL_ENTRIES : Nat := 254
abbrev FLEX_DOMAIN : Nat := 2
abbrev COMPUTE_DOMAIN_INDEX : Nat := 3
abbrev MIN_TABLE_TIME : Nat := 24
abbrev NGTIMER_SPCL_VAL : Nat := 8192
abbrev ALT_PATH_COUNT : Nat := 1
abbrev ALT_PATH : UInt8 := 1
abbrev ALT_RETRY : UInt8 := 2
abbrev ALT_CHANNEL_LOCK : UInt8 := 8
abbrev IZOT_COMMUNICATIONS_PARAMETER_LENGTH : Nat := 7
abbrev IZOT_AUTHENTICATION_KEY_LENGTH : Nat := 6
abbrev IZOT_OMA_AUTHENTICATION_KEY_LENGTH : Nat := 12
abbrev LsProtocolModeLegacy : Nat := 0
abbrev LsProtocolModeEnhanced : Nat := 2
abbrev AUTH_OMA : UInt8 := 1

abbrev RequestId := UInt16
abbrev MsgTag := UInt16
abbrev UniqueId := Vector UInt8 6
abbrev DomainId := Vector UInt8 6
abbrev AuthKey := Vector UInt8 6
abbrev XcvrParam := Vector UInt8 7
abbrev Challenge := Vector UInt8 8
abbrev OmaAddress := Vector UInt8 9

inductive Layer
  | transport
  | session
  deriving DecidableEq, Repr, Inhabited

inductive AddrMode
  | unbound
  | subnetNode
  | uniqueNodeId
  | broadcast
  | multicast
  | multicastAck
  deriving DecidableEq, Repr, Inhabited

inductive PduType
  | tpdu
  | spdu
  | authpdu
  | apdu
  deriving DecidableEq, Repr, Inhabited

inductive ServiceType
  | acknowledged
  | repeated
  | unacknowledged
  | request
  | response
  deriving DecidableEq, Repr, Inhabited

inductive LonStatusCode
  | noError
  | transactionInProgress
  | transactionNotAvailable
  | destinationAddressMissing
  | badAddressType
  | invalidInterfaceId
  | invalidParameter
  | invalidBufferLength
  | noBufferAvailable
  | lniWriteFailure
  | frameError
  | invalidOperation
  | invalidMessageLength
  | invalidMessageCommand
  | invalidMessageMode
  | invalidMessageService
  | invalidMessageAddress
  | invalidDomain
  | invalidAddrTableIndex
  | invalidDatapointIndex
  | dpIndexInvalid
  | datapointMsgTooShort
  | bufferSizeTooSmall
  | writeFailed
  | modeChangeFailure
  | authenticationMismatch
  | txBufferFull
  | noMemoryAvailable
  | invalidBufferSize
  | invalidBufferCount
  | stackInitializationFailure
  | incompleteMsg
  | transactionFailure
  | outputDpPropagateFailure
  | readFailed
  | writePastEndOfNetBuffer
  | writePastEndOfApplBuffer
  | noSpaceInNvTable
  | invalidNvName
  | invalidSelfDocumentation
  | noSelectorsAvailable
  | invalidSelector
  | invalidNvLength
  | persistentDataFailure
  | persistentDataAccessError
  | persistentDataDirError
  | stackNotInitialized
  | eepromWriteFail
  | iupInvalidParameter
  deriving DecidableEq, Repr, Inhabited

structure SubnetNode where
  subnet : UInt8
  node : UInt8
  deriving DecidableEq, Repr, Inhabited

namespace SubnetNode

def nodeId (a : SubnetNode) : UInt8 := a.node &&& 0x7F

def setSelField (a : SubnetNode) (bit : Bool) : SubnetNode :=
  { a with node := (a.node &&& 0x7F) ||| (if bit then (0x80 : UInt8) else 0) }

end SubnetNode

structure MulticastAckAddress where
  subnetAddr : SubnetNode
  groupId : UInt8
  member : UInt8
  deriving DecidableEq, Repr, Inhabited

structure Domain where
  domainIndex : Nat
  domainLen : Nat
  domainId : DomainId
  deriving DecidableEq, Repr, Inhabited

/-- `addressMode` together with the member of the union `addr` that it selects. -/
inductive NetAddr
  | unbound
  | subnetNode : SubnetNode → NetAddr
  | uniqueNodeId : UInt8 → UniqueId → NetAddr
  | broadcast : UInt8 → NetAddr
  | multicast : UInt8 → NetAddr
  | multicastAck : MulticastAckAddress → NetAddr
  deriving DecidableEq, Repr, Inhabited

def NetAddr.addressMode : NetAddr → AddrMode
  | .unbound => .unbound
  | .subnetNode _ => .subnetNode
  | .uniqueNodeId _ _ => .uniqueNodeId
  | .broadcast _ => .broadcast
  | .multicast _ => .multicast
  | .multicastAck _ => .multicastAck

structure DestinationAddress where
  dmn : Domain
  addr : NetAddr
  deriving DecidableEq, Repr, Inhabited

def DestinationAddress.addressMode (a : DestinationAddress) : AddrMode := a.addr.addressMode

/-- Who sent a message and in which address mode. `group` is used for multicast, `ackNode` for
multicast acknowledgements and `broadcastSubnet` for broadcast. -/
structure SourceAddress where
  subnetAddr : SubnetNode
  addressMode : AddrMode
  dmn : Domain
  group : UInt8
  ackNode : MulticastAckAddress
  broadcastSubnet : UInt8
  deriving DecidableEq, Repr, Inhabited

/-- The bytes of the union `IzotSendAddress`. The formats share the first four bytes; `subnet` is
also the group id of the group format. -/
structure SendAddress where
  typeSize : UInt8
  domainNode : UInt8
  repeatRetry : UInt8
  rsvdTransmit : UInt8
  subnet : UInt8
  neuronId : UniqueId
  deriving DecidableEq, Repr, Inhabited

namespace SendAddress

def groupType (a : SendAddress) : Bool := a.typeSize &&& 0x80 ≠ 0

def groupSize (a : SendAddress) : Nat := (a.typeSize &&& 0x7F).toNat

def domain (a : SendAddress) : Nat := ((a.domainNode &&& 0x80) >>> 7).toNat

def node (a : SendAddress) : UInt8 := a.domainNode &&& 0x7F

def backlog (a : SendAddress) : Nat := (a.domainNode &&& 0x3F).toNat

def repeatTimer (a : SendAddress) : Nat := ((a.repeatRetry &&& 0xF0) >>> 4).toNat

def retry (a : SendAddress) : Nat := (a.repeatRetry &&& 0x0F).toNat

def transmitTimer (a : SendAddress) : Nat := (a.rsvdTransmit &&& 0x0F).toNat

def maxResponses (a : SendAddress) : Nat := ((a.rsvdTransmit &&& 0xF0) >>> 4).toNat

def setMaxResponses (a : SendAddress) (n : UInt8) : SendAddress :=
  { a with rsvdTransmit := (a.rsvdTransmit &&& 0x0F) ||| (n <<< (4 : UInt8) &&& 0xF0) }

end SendAddress

/-- A TPDU, SPDU or AuthPDU: the header byte and the bytes of `data`. Reads past the end of the
buffer give 0. -/
structure Pdu where
  hdr : UInt8
  data : List UInt8
  deriving DecidableEq, Repr, Inhabited

def bytesAt (data : List UInt8) (k len : Nat) : List UInt8 :=
  (List.range len).map fun j => data.getD (k + j) 0

@[simp]
theorem length_bytesAt (data : List UInt8) (k len : Nat) : (bytesAt data k len).length = len := by
  simp [bytesAt]

/-- `memcpy` to the start of a buffer: what it held behind the copied bytes stays. -/
def storeBytes (buf bytes : List UInt8) : List UInt8 := bytes ++ buf.drop bytes.length

namespace Pdu

abbrev ACKD_MSG : UInt8 := 0
abbrev REQUEST_MSG : UInt8 := 0
abbrev CHALLENGE_MSG : UInt8 := 0
abbrev CHALLENGE_OMA_MSG : UInt8 := 1
abbrev UNACK_RPT_MSG : UInt8 := 1
abbrev ACK_MSG : UInt8 := 2
abbrev RESPONSE_MSG : UInt8 := 2
abbrev REPLY_MSG : UInt8 := 2
abbrev REPLY_OMA_MSG : UInt8 := 3
abbrev REMINDER_MSG : UInt8 := 4
abbrev REM_MSG_MSG : UInt8 := 5

def byte (pdu : Pdu) (k : Nat) : UInt8 := pdu.data.getD k 0

def auth (pdu : Pdu) : Bool := pdu.hdr &&& 0x80 ≠ 0

def pduMsgType (pdu : Pdu) : UInt8 := (pdu.hdr >>> 4) &&& 7

def fmt (pdu : Pdu) : UInt8 := pdu.hdr >>> 6

def authMsgType (pdu : Pdu) : UInt8 := (pdu.hdr >>> 4) &&& 3

def transNumField (pdu : Pdu) : Nat := (pdu.hdr &&& 0x0F).toNat

def transNum (pdu : Pdu) (version : Nat) : Nat :=
  if version = LsProtocolModeLegacy then pdu.transNumField
  else pdu.transNumField * 256 + (pdu.byte 0).toNat

def tspduHdr (auth : Bool) (pduMsgType : UInt8) (transNum : Nat) : UInt8 :=
  (if auth then (0x80 : UInt8) else 0) ||| (pduMsgType <<< 4) ||| UInt8.ofNat (transNum % 16)

def store (buf : Pdu) (hdr : UInt8) (bytes : List UInt8) : Pdu := ⟨hdr, storeBytes buf.data bytes⟩

def authHdr (fmt pduMsgType : UInt8) (transNum : Nat) : UInt8 :=
  (fmt <<< 6) ||| (pduMsgType <<< 4) ||| UInt8.ofNat (transNum % 16)

end Pdu

def dataIndex (version : Nat) : Nat := if version = LsProtocolModeLegacy then 0 else 1

def sentVersion (version : Nat) : Nat :=
  if version = LsProtocolModeLegacy then LsProtocolModeLegacy else LsProtocolModeEnhanced

def transNumHi (version : Nat) (transNum : Nat) : Nat :=
  if version = LsProtocolModeLegacy then transNum else transNum / 256

def transNumLo (version : Nat) (transNum : Nat) : List UInt8 :=
  if version = LsProtocolModeLegacy then [] else [UInt8.ofNat transNum]

end LonStack
