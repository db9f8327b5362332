import LonStack.LonUsb.Link

namespace LonStack.LonUsb

open Lib

abbrev readMemorySuccess : UInt8 := 0x2D

def totalMessageLength (msg : LonNiFrame) : Nat :=
  if msg.shortPduLength < EXT_LENGTH then msg.shortPduLength.toNat + 1 else msg.extLength + 1 + 2

def FilteredUplink (niCmd : UInt8) : Prop :=
  niCmd &&& NI_CMD_MASK = LonNiDriverCmdMask ∨ niCmd = LonNiLayerModeCmd

instance (niCmd : UInt8) : Decidable (FilteredUplink niCmd) :=
  inferInstanceAs (Decidable (_ ∨ _))

/-- `if (!LON_SUCCESS(status)) return status;` between two calls. -/
def onSuccess (r : LonUsbLinkState × LonStatusCode)
    (next : LonUsbLinkState → LonUsbLinkState × LonStatusCode) : LonUsbLinkState × LonStatusCode :=
  if r.2 = .noError then next r.1 else r

namespace LonUsbLinkState

variable (s : LonUsbLinkState)

def processUplinkMessage : LonUsbLinkState × LonStatusCode :=
  let frame := s.uplinkBuffer.usbNiDataFrame
  let copyLength := totalMessageLength frame + 1
  if s.waitForUid then
    if 23 ≤ copyLength ∧ frame.niCommand = LonNiResponseCmd ∧ frame.pdu 14 = readMemorySuccess then
      ({ s with
          uid := Vector.ofFn fun i => frame.pdu (i + 15)
          waitForUid := false
          haveUid := true },
        .noError)
    else (s, .noError)
  else if s.waitForStatus then
    if 6 ≤ copyLength ∧ frame.niCommand = LonNiStatusCmd ∧ frame.shortPduLength = 5 then
      ({ s with
          waitForStatus := false
          haveStatus := true
          currentIfaceMode := (frame.pdu 2).toNat
          l2L5Mode := (frame.pdu 2).toNat },
        .noError)
    else (s, .noError)
  else s.queueUplinkBuffer

/-- Only a reset changes more than logs and counters. -/
def handleNiCommand (niCmd : UInt8) : LonUsbLinkState :=
  if niCmd = LonNiResetDeviceCmd then
    let frame := s.uplinkBuffer.usbNiDataFrame
    { s with
      currentIfaceMode :=
        if frame.shortPduLength ≠ 0 then (frame.pdu 0).toNat else s.currentIfaceMode
      l2L5Mode := if frame.shortPduLength ≠ 0 then (frame.pdu 0).toNat else s.l2L5Mode
      uplinkBuffer := { s.uplinkBuffer with usbNiDataFrame := frame.setShortPduLength 0 }
      uplinkMsgLength := 1
      waitForReset := false
      haveReset := s.haveReset || s.waitForReset }
  else s

/-- A completed message that is not filtered. One whose length cannot be right is not queued. -/
def acceptMessage : LonUsbLinkState × LonStatusCode :=
  let s := s.handleNiCommand s.uplinkBuffer.usbNiDataFrame.niCommand
  if LonUsbQueueBuffer.sizeofLonNiFrame + 2 < s.uplinkMsgLength + 2 then (s, .noError)
  else s.processUplinkMessage

/-- The third component tells whether a message was completed. -/
def checkUplinkCompleted : LonUsbLinkState × LonStatusCode × Bool :=
  let frame := s.uplinkBuffer.usbNiDataFrame
  if s.uplinkMsgIndex = 1 then
    ({ s with uplinkMsgLength := frame.shortPduLength.toNat }, .noError, false)
  else if s.uplinkMsgLength = EXT_LENGTH.toNat ∧ s.uplinkMsgIndex = 3 then
    ({ s with uplinkMsgLength := frame.extLength }, .noError, false)
  else if s.uplinkMsgIndex ≠ 0 ∧ s.uplinkMsgLength + 1 < s.uplinkMsgIndex then
    let r := if FilteredUplink frame.niCommand then (s, .noError) else s.acceptMessage
    (r.1.resetUplinkState, r.2, true)
  else (s, .noError, false)

def clearUplinkTransaction : LonUsbLinkState :=
  let s :=
    if s.downlinkState = .waitCpAck ∨ s.downlinkState = .waitCpResponse then
      stopAckTimer
        { s with
          downlinkBuffer :=
            { s.downlinkBuffer with
              usbNiDataFrame := s.downlinkBuffer.usbNiDataFrame.setNiCommand 0 } }
    else if s.downlinkState = .waitMsgAck then s.resetDownlinkState
    else s
  { s.incrementDownlinkSequence with
    uplinkExpectedRsp := LonNiClearCmd
    uplinkAckTimeoutPhase := 0 }

def setRejectTimer (timer : OsalTickCount) : LonUsbLinkState :=
  { s with downlinkRejectTimer := timer }

def rejectCodePacket (now : OsalTickCount) : LonUsbLinkState × LonStatusCode :=
  if s.downlinkState = .waitMsgAck ∨ s.downlinkState = .waitCpAck then
    let s := s.stopAckTimer
    if s.downlinkRejectTimer = 0 then (s.setRejectTimer now, .noError)
    else if DOWNLINK_WAIT_TIME < now - s.downlinkRejectTimer then
      ((s.setRejectTimer 0).writeDownlinkCodePacket SHORT_NI_CMD_FRAME_CMD LonNiResetDeviceCmd,
        .lniWriteFailure)
    else (s, .noError)
  else (s, .noError)

def storeShortNiCmd (parameter : UInt8) : LonUsbLinkState :=
  let frame := s.uplinkBuffer.usbNiDataFrame.setNiCommand parameter
  let frame :=
    if parameter &&& 0xF0 = LonNiError then
      (frame.setShortPduLength 5).copyPdu 0 (fun _ => 0) 4
    else frame.setShortPduLength 1
  { s with uplinkBuffer := { s.uplinkBuffer with usbNiDataFrame := frame } }

def restartOnReset (parameter : UInt8) : LonUsbLinkState :=
  if parameter = LonNiResetDeviceCmd then { s with downlinkSeqNumber := 0, downlinkState := .start }
  else s

def setDownlinkAckSeqNumber (n : Int) : LonUsbLinkState := { s with downlinkAckSeqNumber := n }

def shortNiCmdCodePacket (parameter sequenceNumber : UInt8) : LonUsbLinkState × LonStatusCode :=
  let s := s.setDownlinkAckSeqNumber sequenceNumber.toNat
  if s.uplinkDuplicate then (s.resetUplinkState, .noError)
  else if parameter = LonNiAckCmd ∨ parameter = LonNiNackCmd then (s, .noError)
  else
    let s := (s.restartOnReset parameter).storeShortNiCmd parameter
    onSuccess s.processUplinkMessage fun s => (s.resetUplinkState, .noError)

def CpFailOrReject (frameCmd : UInt8) : Prop :=
  frameCmd = FAIL_FRAME_CMD ∨ frameCmd = MSG_REJECT_FRAME_CMD

instance (frameCmd : UInt8) : Decidable (CpFailOrReject frameCmd) :=
  inferInstanceAs (Decidable (_ ∨ _))

def checkSequence (header : LonFrameHeader) : LonUsbLinkState :=
  if header.cmd ≠ 0 then
    { s with
      uplinkDuplicate :=
        s.uplinkDuplicate ||
          decide (s.uplinkSeqNumber = header.seq.toNat ∧ ¬CpFailOrReject header.cmd)
      uplinkSeqNumber := header.seq.toNat }
  else s

def processAck (header : LonFrameHeader) : LonUsbLinkState :=
  if header.ack ≠ 0 ∧ ¬CpFailOrReject header.cmd ∧ s.downlinkState ≠ .waitCpResponse then
    s.clearUplinkTransaction
  else s

def processUplinkCodePacket (now : OsalTickCount) : LonUsbLinkState × LonStatusCode :=
  let header := s.uplinkBuffer.frameHeader
  let s := (s.checkSequence header).processAck header
  if header.cmd = MSG_FRAME_CMD then
    ({ s with downlinkAckSeqNumber := header.seq.toNat, uplinkState := .message }, .noError)
  else if header.cmd = SHORT_NI_CMD_FRAME_CMD then
    s.shortNiCmdCodePacket header.parameter header.seq
  else if header.cmd = MSG_REJECT_FRAME_CMD then s.rejectCodePacket now
  else if header.cmd = FAIL_FRAME_CMD then (s.clearUplinkTransaction.stopAckTimer, .frameError)
  else if header.cmd = NULL_FRAME_CMD then
    ({ s with waitForNull := false, haveNull := s.haveNull || s.waitForNull }, .noError)
  else (s, .frameError)

def setFrameHeader (header : LonFrameHeader) : LonUsbLinkState :=
  { s with uplinkBuffer := { s.uplinkBuffer with frameHeader := header } }

def setUplinkState (state : UplinkState) : LonUsbLinkState := { s with uplinkState := state }

def setUplinkFrameError (error : Bool) : LonUsbLinkState := { s with uplinkFrameError := error }

def startMessage (now : OsalTickCount) : LonUsbLinkState :=
  { s with uplinkMsgTimer := now, uplinkState := .message }

def storeByte (b : UInt8) : LonUsbLinkState :=
  { s with
    uplinkBuffer :=
      { s.uplinkBuffer with
        usbNiDataFrame := ⟨Function.update s.uplinkBuffer.usbNiDataFrame.image s.uplinkMsgIndex b⟩ }
    uplinkMsgIndex := s.uplinkMsgIndex + 1 }

def checkMsgTimer (now : OsalTickCount) : LonUsbLinkState :=
  if s.uplinkState ≠ .idle ∧ s.llpTimeout < now - s.uplinkMsgTimer then s.resetUplinkState else s

def idleByte (b : UInt8) : LonUsbLinkState :=
  if b = FRAME_SYNC then
    ((s.setFrameHeader { s.uplinkBuffer.frameHeader with frameSync := b }).setUplinkState
      .frameCode).setUplinkFrameError false
  else s.setUplinkFrameError true

/-- A byte that is not 0 is an error on a MIP/U61, and is looked at again in state `idle`. -/
def frameCodeByte (now : OsalTickCount) (b : UInt8) : LonUsbLinkState :=
  if s.lonUsbIfaceType = .u50 then
    let header := s.uplinkBuffer.frameHeader.setAck (if b &&& 0x10 ≠ 0 then 1 else 0)
    let header := (header.setSeq ((b >>> 5) &&& 0x07)).setCmd (b &&& 0x0F)
    (s.setFrameHeader header).setUplinkState .frameParameter
  else if b = 0 then s.startMessage now
  else idleByte ((s.setUplinkState .idle).setUplinkFrameError true) b

def frameParameterByte (b : UInt8) : LonUsbLinkState :=
  (s.setFrameHeader { s.uplinkBuffer.frameHeader with parameter := b }).setUplinkState
    .codePacketChecksum

def codePacketChecksumByte (now : OsalTickCount) (b : UInt8) : LonUsbLinkState × LonStatusCode :=
  let s := s.setFrameHeader { s.uplinkBuffer.frameHeader with checksum := b }
  if validateChecksum s.uplinkBuffer.frameHeader.toList then
    onSuccess (s.processUplinkCodePacket now) fun s =>
      if s.uplinkBuffer.frameHeader.cmd = MSG_FRAME_CMD then (s.startMessage now, .noError)
      else (s.setUplinkState .idle, .noError)
  else
    (((s.setUplinkFrameError true).setDownlinkAckSeqNumber NO_ACK_REQUIRED).setUplinkState .idle,
      .noError)

/-- One round of the loop of state `message`; `last` tells that the chunk ends with this byte. -/
def messageByte (now : OsalTickCount) (last : Bool) (b : UInt8) : LonUsbLinkState × LonStatusCode :=
  let s := s.storeByte b
  if b = FRAME_SYNC then ((s.setUplinkState .escapedData).checkMsgTimer now, .noError)
  else
    match s.checkUplinkCompleted with
    | (s, status, completed) =>
      if status ≠ .noError then (s, status)
      else if completed || last then (s.checkMsgTimer now, .noError)
      else (s, .noError)

def unescape (b : UInt8) : LonUsbLinkState :=
  let s := s.setUplinkState .message
  if b = FRAME_SYNC then s
  else
    let s := s.setDownlinkAckSeqNumber NO_ACK_REQUIRED
    if b = 0 then { s with uplinkMsgIndex := 0 } else s.resetUplinkState

def escapedDataByte (b : UInt8) : LonUsbLinkState × LonStatusCode :=
  match (s.unescape b).checkUplinkCompleted with
  | (s, status, _) => (s, status)

def processUplinkByte (now : OsalTickCount) (last : Bool) (b : UInt8) :
    LonUsbLinkState × LonStatusCode :=
  match s.uplinkState with
  | .idle => (s.idleByte b, .noError)
  | .frameCode => (s.frameCodeByte now b, .noError)
  | .frameParameter => (s.frameParameterByte b, .noError)
  | .codePacketChecksum => s.codePacketChecksumByte now b
  | .message => s.messageByte now last b
  | .escapedData => s.escapedDataByte b

end LonUsbLinkState

/-- The loop of `processUplinkBytes`. A status other than `noError` gives up the rest of the chunk. -/
def processChunk (now : OsalTickCount) :
    LonUsbLinkState → List UInt8 → LonUsbLinkState × LonStatusCode
  | s, [] => (s, .noError)
  | s, b :: chunk =>
    onSuccess (s.processUplinkByte now chunk.isEmpty b) fun s => processChunk now s chunk

namespace LonUsbLinkState

variable (s : LonUsbLinkState)

def processUplinkBytes (now : OsalTickCount) (chunk : List UInt8) :
    LonUsbLinkState × LonStatusCode :=
  if s.shutdown then (s, .invalidInterfaceId) else processChunk now s chunk

end LonUsbLinkState

def parseRing (now : OsalTickCount) : Nat → Nat → LonUsbLinkState → LonUsbLinkState
  | 0, _, s => s
  | fuel + 1, processedInWindow, s =>
    if s.lonUsbUplinkRingBuffer = [] then s
    else
      let chunk := s.lonUsbUplinkRingBuffer.take MAX_BYTES_PER_USB_PARSE_CHUNK
      let s :=
        { s with
          lonUsbUplinkRingBuffer := s.lonUsbUplinkRingBuffer.drop MAX_BYTES_PER_USB_PARSE_CHUNK }
      let s := (s.processUplinkBytes now chunk).1
      if 0 < s.getUplinkBufferCount then s
      else if MAX_BYTES_PER_USB_PARSE_WINDOW < processedInWindow + chunk.length then s
      else parseRing now fuel (processedInWindow + chunk.length) s

def LonNiFrame.toDataFrame (f : LonNiFrame) : LonDataFrame :=
  let length := f.shortPduLength - 1
  { niCommand := f.niCommand
    shortPduLength := length
    pdu := Image.copy (fun _ => 0) 0 f.pdu 0 length.toNat }

namespace LonUsbLinkState

variable (s : LonUsbLinkState)

/-- Every chunk takes bytes out of the ring, so its length is fuel enough. -/
def parsePending (now : OsalTickCount) : LonUsbLinkState :=
  if s.lonUsbUplinkRingBuffer ≠ [] ∧ s.getUplinkBufferCount < MAX_LON_UPLINK_BUFFERS then
    parseRing now s.lonUsbUplinkRingBuffer.length 0 s
  else s

def deliver : LonUsbLinkState × LonStatusCode × Option LonDataFrame :=
  match s.readUplinkBuffer with
  | (s, none) => (s, .noBufferAvailable, none)
  | (s, some buffer) => (s, .noError, some buffer.usbNiDataFrame.toDataFrame)

def readLonUsbMsg (now : OsalTickCount) : LonUsbLinkState × LonStatusCode × Option LonDataFrame :=
  if s.shutdown then (s, .invalidInterfaceId, none) else (s.parsePending now).deliver

end LonUsbLinkState

end LonStack.LonUsb
