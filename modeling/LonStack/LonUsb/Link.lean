import LonStack.LonUsb.Frame
import LonStack.Queue

namespace LonStack.LonUsb

open Lib

abbrev OsalTickCount := UInt32

abbrev ACK_WAIT_TIME : UInt32 := 500
abbrev STARTUP_ACK_WAIT_TIME : UInt32 := 1000
abbrev DEFAULT_LLP_TIMEOUT : UInt32 := 1000
abbrev DOWNLINK_WAIT_TIME : UInt32 := 10000
abbrev NO_ACK_REQUIRED : Int := -2
abbrev ACK_WITH_NEXT_SEQ_NUM : Int := -1
abbrev LON_IFACE_MODE_LAYER5 : Int := 0
abbrev LON_IFACE_MODE_LAYER2 : Int := 1
abbrev LON_IFACE_MODE_UNKNOWN : Int := -1

inductive LonUsbIfaceType
  | u50
  | u61
  deriving DecidableEq, Repr, Inhabited

inductive UplinkState
  | idle
  | frameCode
  | frameParameter
  | codePacketChecksum
  | message
  | escapedData
  deriving DecidableEq, Repr, Inhabited

inductive DownlinkState
  | start
  | waitStartupReset
  | waitStartupResyncAck
  | waitResyncReset
  | layer5Request
  | waitLayer5Ack
  | waitL5ResyncAck
  | waitL5Reset
  | niUniqueIdRequest
  | waitNiUniqueId
  | layer2Request
  | waitLayer2Ack
  | waitL2ResyncAck
  | waitL2Reset
  | mipStatusRequest
  | waitMipStatus
  | idleStart
  | idle
  | waitCpAck
  | waitMsgAck
  | waitCpMsgReqAck
  | waitCpResponse
  | invalid
  deriving DecidableEq, Repr, Inhabited

/-- The state of one link. `usbOut` holds the bytes written to the USB device so far. -/
structure LonUsbLinkState where
  shutdown : Bool
  waitForReset : Bool
  haveReset : Bool
  waitForNull : Bool
  haveNull : Bool
  waitForUid : Bool
  uidRetries : Nat
  haveUid : Bool
  waitForStatus : Bool
  statusRetries : Nat
  haveStatus : Bool
  ready : Bool
  lonUsbIfaceType : LonUsbIfaceType
  uid : UniqueId
  configuredIfaceMode : Int
  currentIfaceMode : Int
  l2L5Mode : Int
  llpTimeout : UInt32
  lastTimeout : OsalTickCount
  uplinkState : UplinkState
  resetWaitTimer : OsalTickCount
  nullWaitTimer : OsalTickCount
  uidWaitTimer : OsalTickCount
  statusWaitTimer : OsalTickCount
  uplinkMsgTimer : OsalTickCount
  uplinkFrameError : Bool
  uplinkDuplicate : Bool
  uplinkBuffer : LonUsbQueueBuffer
  uplinkMsgIndex : Nat
  uplinkMsgLength : Nat
  uplinkSeqNumber : Int
  uplinkAckTimer : OsalTickCount
  uplinkAckTimeout : OsalTickCount
  uplinkAckTimeouts : Nat
  uplinkAckTimeoutPhase : Nat
  uplinkExpectedRsp : UInt8
  downlinkState : DownlinkState
  downlinkRejectTimer : OsalTickCount
  downlinkBufferStaging : LonUsbQueueBuffer
  downlinkBuffer : LonUsbQueueBuffer
  downlinkSeqNumber : Int
  downlinkAckSeqNumber : Int
  lonUsbDownlinkNormalQueue : Queue LonUsbQueueBuffer
  lonUsbDownlinkPriorityQueue : Queue LonUsbQueueBuffer
  lonUsbUplinkNormalQueue : Queue LonUsbQueueBuffer
  lonUsbUplinkPriorityQueue : Queue LonUsbQueueBuffer
  lonUsbUplinkRingBuffer : List UInt8
  usbOut : List UInt8

namespace LonUsbLinkState

variable (s : LonUsbLinkState)

def getDownlinkBufferCount : Nat :=
  s.lonUsbDownlinkPriorityQueue.entries + s.lonUsbDownlinkNormalQueue.entries

def getUplinkBufferCount : Nat :=
  s.lonUsbUplinkPriorityQueue.entries + s.lonUsbUplinkNormalQueue.entries

def queueDownlinkBuffer (src : LonUsbQueueBuffer) : LonUsbLinkState × LonStatusCode :=
  if src.priority = .highPriority then
    match s.lonUsbDownlinkPriorityQueue.tail with
    | none => (s, .invalidParameter)
    | some _ =>
      ({ s with
          lonUsbDownlinkPriorityQueue :=
            s.lonUsbDownlinkPriorityQueue.push fun tail => tail.memcpy src src.bufSize },
        .noError)
  else
    match s.lonUsbDownlinkNormalQueue.tail with
    | none => (s, .invalidParameter)
    | some _ =>
      ({ s with
          lonUsbDownlinkNormalQueue :=
            s.lonUsbDownlinkNormalQueue.push fun tail => tail.memcpy src src.bufSize },
        .noError)

/-- Reads into `downlinkBuffer`, the destination of every caller. -/
def readDownlinkBuffer : LonUsbLinkState × LonStatusCode :=
  if s.lonUsbDownlinkPriorityQueue.empty then
    match s.lonUsbDownlinkNormalQueue.peek with
    | none => (s, .noBufferAvailable)
    | some buffer =>
      ({ s with
          downlinkBuffer := s.downlinkBuffer.memcpy buffer buffer.bufSize
          lonUsbDownlinkNormalQueue := s.lonUsbDownlinkNormalQueue.dropHead },
        .noError)
  else
    match s.lonUsbDownlinkPriorityQueue.peek with
    | none => (s, .noBufferAvailable)
    | some buffer =>
      ({ s with
          downlinkBuffer := s.downlinkBuffer.memcpy buffer buffer.bufSize
          lonUsbDownlinkPriorityQueue := s.lonUsbDownlinkPriorityQueue.dropHead },
        .noError)

def queueUplinkBuffer : LonUsbLinkState × LonStatusCode :=
  if s.uplinkBuffer.priority = .highPriority then
    match s.lonUsbUplinkPriorityQueue.tail with
    | none => (s, .invalidParameter)
    | some _ =>
      ({ s with
          lonUsbUplinkPriorityQueue := s.lonUsbUplinkPriorityQueue.push fun _ => s.uplinkBuffer },
        .noError)
  else
    match s.lonUsbUplinkNormalQueue.tail with
    | none => (s, .invalidParameter)
    | some _ =>
      ({ s with
          lonUsbUplinkNormalQueue := s.lonUsbUplinkNormalQueue.push fun _ => s.uplinkBuffer },
        .noError)

def readUplinkBuffer : LonUsbLinkState × Option LonUsbQueueBuffer :=
  if s.lonUsbUplinkPriorityQueue.empty then
    match s.lonUsbUplinkNormalQueue.peek with
    | none => (s, none)
    | some buffer =>
      ({ s with lonUsbUplinkNormalQueue := s.lonUsbUplinkNormalQueue.dropHead }, some buffer)
  else
    match s.lonUsbUplinkPriorityQueue.peek with
    | none => (s, none)
    | some buffer =>
      ({ s with lonUsbUplinkPriorityQueue := s.lonUsbUplinkPriorityQueue.dropHead }, some buffer)

def halWriteUsb (bytes : List UInt8) : LonUsbLinkState := { s with usbOut := s.usbOut ++ bytes }

def incrementDownlinkSequence : LonUsbLinkState :=
  let seq := (s.downlinkSeqNumber + 1) % 8
  { s with downlinkSeqNumber := if seq = 0 then 1 else seq }

def startAckTimer (now : OsalTickCount) (nextState : DownlinkState) : LonUsbLinkState :=
  { s with uplinkAckTimer := now, uplinkAckTimeouts := 0, downlinkState := nextState }

def stopAckTimer : LonUsbLinkState :=
  { s with
    downlinkState :=
      if DownlinkState.idle.ctorIdx < s.downlinkState.ctorIdx then .idle else s.downlinkState
    uplinkAckTimer := 0
    uplinkAckTimeout := ACK_WAIT_TIME
    uplinkAckTimeoutPhase := 0
    uplinkAckTimeouts := 0 }

end LonUsbLinkState

def LonUsbQueueBuffer.zero : LonUsbQueueBuffer := ⟨0, 0, .normalPriority, ⟨0, 0, 0, 0⟩, ⟨fun _ => 0⟩⟩

/-- The slots of the queues come from `malloc` and hold anything. -/
def initIfaceStates (slots : Nat → LonUsbQueueBuffer) : LonUsbLinkState where
  shutdown := true
  waitForReset := false
  haveReset := false
  waitForNull := false
  haveNull := false
  waitForUid := false
  uidRetries := 0
  haveUid := false
  waitForStatus := false
  statusRetries := 0
  haveStatus := false
  ready := false
  lonUsbIfaceType := .u50
  uid := .replicate 6 0
  configuredIfaceMode := LON_IFACE_MODE_LAYER2
  currentIfaceMode := LON_IFACE_MODE_UNKNOWN
  l2L5Mode := LON_IFACE_MODE_UNKNOWN
  llpTimeout := DEFAULT_LLP_TIMEOUT
  lastTimeout := 0
  uplinkState := .idle
  resetWaitTimer := 0
  nullWaitTimer := 0
  uidWaitTimer := 0
  statusWaitTimer := 0
  uplinkMsgTimer := 0
  uplinkFrameError := false
  uplinkDuplicate := false
  uplinkBuffer := .zero
  uplinkMsgIndex := 0
  uplinkMsgLength := 0
  uplinkSeqNumber := -225 -- `~FRAME_CODE_SEQ_NUM_MASK`
  uplinkAckTimer := 0
  uplinkAckTimeout := STARTUP_ACK_WAIT_TIME
  uplinkAckTimeouts := 0
  uplinkAckTimeoutPhase := 0
  uplinkExpectedRsp := LonNiClearCmd
  downlinkState := .invalid
  downlinkRejectTimer := 0
  downlinkBufferStaging := .zero
  downlinkBuffer := .zero
  downlinkSeqNumber := 0
  downlinkAckSeqNumber := NO_ACK_REQUIRED
  lonUsbDownlinkNormalQueue := .init slots MAX_LON_DOWNLINK_BUFFERS
  lonUsbDownlinkPriorityQueue := .init slots MAX_LON_DOWNLINK_BUFFERS
  lonUsbUplinkNormalQueue := .init slots MAX_LON_UPLINK_BUFFERS
  lonUsbUplinkPriorityQueue := .init slots MAX_LON_UPLINK_BUFFERS
  lonUsbUplinkRingBuffer := []
  usbOut := []

namespace LonUsbLinkState

variable (s : LonUsbLinkState)

def resetDownlinkState : LonUsbLinkState :=
  stopAckTimer
    { s with
      downlinkBuffer := if 0 < s.downlinkBuffer.bufSize then .zero else s.downlinkBuffer
      downlinkRejectTimer := 0 }

def resetUplinkState : LonUsbLinkState :=
  { s with
    uplinkAckTimer := 0
    uplinkAckTimeout := ACK_WAIT_TIME
    uplinkAckTimeouts := 0
    uplinkAckTimeoutPhase := 0
    uplinkDuplicate := false
    uplinkFrameError := false
    uplinkMsgIndex := 0
    uplinkMsgLength := 0
    uplinkMsgTimer := 0
    uplinkState := .idle }

end LonUsbLinkState

def createFrameHeader (header : LonFrameHeader) (frameCommand parameter sequenceNum : UInt8)
    (ack : Bool) : LonFrameHeader :=
  let header := { header with frameSync := FRAME_SYNC }
  let header := ((header.setCmd frameCommand).setSeq sequenceNum).setAck (if ack then 1 else 0)
  let header := { header with parameter := parameter }
  { header with
    checksum := -computeChecksum [header.frameSync, header.frameCode, header.parameter] }

def sequenceByte (n : Int) : UInt8 := UInt8.ofNat (n % 256).toNat

def LonUsbLinkState.codePacket (s : LonUsbLinkState) (frameCmd parameter : UInt8) :
    LonFrameHeader :=
  let header : LonFrameHeader := ⟨FRAME_SYNC, 0, 0, 0⟩
  let header := header.setCmd frameCmd
  let header :=
    if 0 ≤ s.downlinkAckSeqNumber then header.setSeq (sequenceByte s.downlinkAckSeqNumber)
    else if frameCmd = MSG_FRAME_CMD ∨ s.downlinkAckSeqNumber = ACK_WITH_NEXT_SEQ_NUM then
      header.setSeq (sequenceByte s.downlinkSeqNumber)
    else header
  let header :=
    if NO_ACK_REQUIRED < s.downlinkAckSeqNumber ∧ frameCmd ≠ FAIL_FRAME_CMD then header.setAck 1
    else header
  let header := { header with parameter := parameter }
  { header with
    checksum := -computeChecksum [header.frameSync, header.frameCode, header.parameter] }

def LonUsbLinkState.writeDownlinkCodePacket (s : LonUsbLinkState) (frameCmd parameter : UInt8) :
    LonUsbLinkState :=
  let header := s.codePacket frameCmd parameter
  let s :=
    if NO_ACK_REQUIRED < s.downlinkAckSeqNumber then
      { s with downlinkAckSeqNumber := NO_ACK_REQUIRED }
    else s
  let s := s.halWriteUsb header.toList
  if frameCmd = NI_RESYNC_FRAME_CMD then { s with downlinkSeqNumber := 0, uplinkSeqNumber := 0 }
  else s

def LonUsbLinkState.announceMessage (s : LonUsbLinkState) : LonUsbLinkState :=
  writeDownlinkCodePacket { s with downlinkAckSeqNumber := ACK_WITH_NEXT_SEQ_NUM } MSG_FRAME_CMD 1

/-- The loop of `writeDownlinkMessage` over the bytes that remain; `none` when the expanded frame
no longer fits. -/
def expandFrame (expandedLength : Nat) : List UInt8 → Option (List UInt8)
  | [] => some []
  | messageByte :: rest =>
    let expandedLength := if messageByte = FRAME_SYNC then expandedLength + 1 else expandedLength
    if MAX_EXP_LON_MSG_EX_LEN - 2 ≤ expandedLength then none
    else
      let bytes :=
        if messageByte = FRAME_SYNC then [messageByte, FRAME_SYNC] else [messageByte]
      (expandFrame expandedLength rest).map (bytes ++ ·)

def LonUsbLinkState.writeDownlinkMessage (now : OsalTickCount) (s : LonUsbLinkState) :
    LonUsbLinkState × LonStatusCode :=
  if s.shutdown then (s, .invalidInterfaceId)
  else
    let s := s.announceMessage
    let srcDataFrame := s.downlinkBuffer.usbNiDataFrame.image.bytes s.downlinkBuffer.dataFrameSize
    let checksum := -computeChecksum srcDataFrame
    match expandFrame srcDataFrame.length srcDataFrame with
    | none => (s, .invalidBufferLength)
    | some expanded =>
      let trailer := if checksum = FRAME_SYNC then [checksum, FRAME_SYNC] else [checksum]
      let s :=
        if DownlinkState.idleStart.ctorIdx ≤ s.downlinkState.ctorIdx then
          s.startAckTimer now .waitMsgAck
        else s
      (s.halWriteUsb (expanded ++ trailer), .noError)

/-- The staged buffer for an extended frame. The count of the copy is a `size_t` and wraps. -/
def LonDataFrame.stageExtended (f : LonDataFrame) (buf : LonUsbQueueBuffer) : LonUsbQueueBuffer :=
  let extLength := f.extLength
  let frame := buf.usbNiDataFrame.setShortPduLength EXT_LENGTH
  let frame := (frame.setExtLength (extLength + 1)).setNiCommand f.niCommand
  let frame := frame.copyPdu 2 f.extPdu ((extLength + 2 ^ 64 - 3) % 2 ^ 64)
  let bufSize := LonUsbQueueBuffer.sizeofLonFrameHeader + 4 + extLength
  { buf with
    usbNiDataFrame := frame
    bufSize := bufSize
    dataFrameSize := bufSize - LonUsbQueueBuffer.sizeofLonFrameHeader }

def LonDataFrame.stageShort (f : LonDataFrame) (cmd : UInt8) (length : Nat)
    (buf : LonUsbQueueBuffer) : LonUsbQueueBuffer :=
  let frame := buf.usbNiDataFrame.setShortPduLength (UInt8.ofNat (length + 1))
  let frame := (frame.setNiCommand cmd).copyPdu 0 f.pdu length
  let unusedPduBytes := MAX_LON_MSG_EX_LEN - length
  { buf with
    usbNiDataFrame := frame
    bufSize := LonUsbQueueBuffer.sizeofLonUsbQueueBuffer - unusedPduBytes
    dataFrameSize := LonUsbQueueBuffer.sizeofLonNiFrame - unusedPduBytes }

def LonDataFrame.priority (f : LonDataFrame) : MessagePriorityLevel :=
  if f.niCommand = LonNiCommandMask ||| LonNiPriorityTxnQueue then .highPriority
  else .normalPriority

namespace LonUsbLinkState

variable (s : LonUsbLinkState)

def stage (f : LonDataFrame) : LonUsbLinkState × LonStatusCode :=
  let buf := s.downlinkBufferStaging
  let buf := { buf with frameHeader := createFrameHeader buf.frameHeader MSG_FRAME_CMD 0 0 true }
  if f.shortPduLength = EXT_LENGTH then
    if f.extLength ≤ MAX_LON_MSG_EX_LEN then
      ({ s with downlinkBufferStaging := f.stageExtended buf }, .noError)
    else ({ s with downlinkBufferStaging := buf }, .invalidBufferLength)
  else if s.lonUsbIfaceType = .u50 ∧ f.niCommand = LonNiLayerModeCmd ∧ f.shortPduLength ≠ 0 then
    let cmd := if f.pdu 0 = 0 then LonNiSetL5ModeCmd else LonNiSetL2ModeCmd
    ({ s with
        downlinkBufferStaging := f.stageShort cmd 0 buf
        configuredIfaceMode :=
          if f.pdu 0 = 0 then LON_IFACE_MODE_LAYER5 else LON_IFACE_MODE_LAYER2 },
      .noError)
  else
    ({ s with downlinkBufferStaging := f.stageShort f.niCommand f.shortPduLength.toNat buf },
      .noError)

def writeLonUsbMsg (inputFrame : LonDataFrame) : LonUsbLinkState × LonStatusCode :=
  if s.shutdown then (s, .invalidInterfaceId)
  else if s.getDownlinkBufferCount < MAX_LON_DOWNLINK_BUFFERS then
    match s.stage inputFrame with
    | (s, status) =>
      let s :=
        { s with
          downlinkBufferStaging :=
            { s.downlinkBufferStaging with priority := inputFrame.priority } }
      if status = .noError then s.queueDownlinkBuffer s.downlinkBufferStaging else (s, status)
  else (s, .noBufferAvailable)

end LonUsbLinkState

end LonStack.LonUsb
