import LonStack.LonUsb.Uplink

namespace LonStack.LonUsb

open Lib

abbrev NI_RESET_WAIT_TIME : UInt32 := 800
abbrev NI_NULL_WAIT_TIME : UInt32 := 700
abbrev NI_UID_WAIT_TIME : UInt32 := 350
abbrev NI_STATUS_WAIT_TIME : UInt32 := 350
abbrev STARTUP_DELAY : UInt32 := 60000
abbrev MAX_UID_RETRIES : Nat := 4
abbrev MAX_STATUS_RETRIES : Nat := 4
abbrev UNICAST_MSG_CODE_OFFSET : UInt8 := 14

abbrev LonNiLocalNetMgmtCmd : UInt8 := 0x22
abbrev LonNiInitiateCmd : UInt8 := 0x51
abbrev LonNiChallengeResponse : UInt8 := 0x52
abbrev IzotNdQueryStatus : UInt8 := 0x51

def initializer (bytes : List UInt8) : Image := Image.write (fun _ => 0) 0 bytes

/-- The bytes of a `LonDataFrame`: the command stands before the length. -/
def MsgReportStatus : Image :=
  initializer
    ([LonNiLocalNetMgmtCmd, UNICAST_MSG_CODE_OFFSET + 1, 0x6F, 0x08, 1] ++ List.replicate 11 0 ++
      [IzotNdQueryStatus])

def MsgModeL2 : LonDataFrame := ⟨LonNiLayerModeCmd, 1, initializer [1]⟩

def MsgModeL5 : LonDataFrame := ⟨LonNiLayerModeCmd, 1, initializer [0]⟩

def MsgStatus : LonDataFrame := ⟨LonNiStatusCmd, 0, initializer []⟩

def MsgUniqueId : LonDataFrame :=
  ⟨LonNiLocalNetMgmtCmd, UNICAST_MSG_CODE_OFFSET + 5,
    initializer ([0x70, 0x00, 5] ++ List.replicate 11 0 ++ [0x6D, 0x01, 0x00, 0x00, 0x06])⟩

def getExpectedResponse (cmd : UInt8) : UInt8 :=
  if cmd = LonNiStatusCmd ∨ cmd = LonNiSetL5ModeCmd ∨ cmd = LonNiSetL2ModeCmd then cmd
  else if cmd = LonNiInitiateCmd then LonNiChallengeResponse
  else LonNiClearCmd

namespace LonUsbLinkState

variable (s : LonUsbLinkState)

def setDownlinkState (state : DownlinkState) : LonUsbLinkState := { s with downlinkState := state }

/-- Only the queue without priority is ever flushed. -/
def flushDownlinkQueue : LonUsbLinkState :=
  { s with lonUsbDownlinkNormalQueue := s.lonUsbDownlinkNormalQueue.flush }

def startLonUsbLink (now : OsalTickCount) (mode : Int) : LonUsbLinkState :=
  { s.flushDownlinkQueue.resetDownlinkState.resetUplinkState with
    configuredIfaceMode := mode
    shutdown := false
    lastTimeout := now
    downlinkState := .start }

def openLonUsbLink (now : OsalTickCount) (lonUsbIfaceType : LonUsbIfaceType) : LonUsbLinkState :=
  startLonUsbLink
    { s with
      ready := false
      lonUsbIfaceType := lonUsbIfaceType
      shutdown := false }
    now LON_IFACE_MODE_LAYER2

def lonUsbLinkReady : Bool := s.ready

def awaitNull (now : OsalTickCount) (nextState : DownlinkState) : LonUsbLinkState :=
  { s with
    waitForNull := true
    nullWaitTimer := now
    downlinkState := nextState }

def sendResync (now : OsalTickCount) : LonUsbLinkState :=
  if s.lonUsbIfaceType = .u50 then
    { s.writeDownlinkCodePacket NI_RESYNC_FRAME_CMD 0 with
      nullWaitTimer := now
      downlinkState := .waitStartupResyncAck }
  else s

def requestUsbNiUid (now : OsalTickCount) : LonUsbLinkState × LonStatusCode :=
  if s.haveUid then (s, .noError)
  else if s.uidRetries = 0 then ({ s with waitForUid := false }, .noError)
  else
    onSuccess (s.writeLonUsbMsg MsgUniqueId) fun s =>
      ({ s with
          uidRetries := s.uidRetries - 1
          waitForUid := true
          uidWaitTimer := now
          downlinkState := .waitNiUniqueId },
        .noError)

def requestUsbNiStatus (now : OsalTickCount) : LonUsbLinkState × LonStatusCode :=
  if s.haveStatus then (s, .noError)
  else if s.statusRetries = 0 then ({ s with waitForStatus := false }, .noError)
  else
    onSuccess (s.writeLonUsbMsg MsgStatus) fun s =>
      ({ s with
          statusRetries := s.statusRetries - 1
          waitForStatus := true
          statusWaitTimer := now
          downlinkState := .waitMipStatus },
        .noError)

def setNiLayerMode (mode : Int) : LonUsbLinkState × LonStatusCode :=
  writeLonUsbMsg
    { s with
      currentIfaceMode := mode
      l2L5Mode := LON_IFACE_MODE_UNKNOWN }
    (if mode = LON_IFACE_MODE_LAYER5 then MsgModeL5 else MsgModeL2)

/-- Takes the command from the buffer that was staged last. -/
def writeDownlinkLocalNiCmd (now : OsalTickCount) : LonUsbLinkState :=
  let cmd := s.downlinkBufferStaging.usbNiDataFrame.niCommand
  let nextDownlinkState :=
    if s.downlinkState = .waitStartupReset then .waitStartupReset
    else if getExpectedResponse cmd ≠ LonNiClearCmd then .waitCpResponse
    else .waitCpAck
  let s := { s with uplinkExpectedRsp := getExpectedResponse cmd }
  let s := s.writeDownlinkCodePacket SHORT_NI_CMD_FRAME_CMD cmd
  if DownlinkState.idleStart.ctorIdx ≤ s.downlinkState.ctorIdx then
    s.startAckTimer now nextDownlinkState
  else s

def sendAck : LonUsbLinkState :=
  if 0 ≤ s.downlinkAckSeqNumber then
    (s.writeDownlinkCodePacket NULL_FRAME_CMD 0).incrementDownlinkSequence
  else s

def LocalNiCmd : Prop :=
  s.lonUsbIfaceType = .u50 ∧ s.downlinkBuffer.usbNiDataFrame.shortPduLength = 1 ∧
    s.downlinkBuffer.usbNiDataFrame.niCommand ≠ LonNiSetL5ModeCmd ∧
    s.downlinkBuffer.usbNiDataFrame.niCommand ≠ LonNiSetL2ModeCmd

instance : Decidable s.LocalNiCmd := inferInstanceAs (Decidable (_ ∧ _ ∧ _ ∧ _))

def writeDownlinkBuffer (now : OsalTickCount) : LonUsbLinkState × LonStatusCode :=
  if s.LocalNiCmd then (s.resetDownlinkState.writeDownlinkLocalNiCmd now, .noError)
  else s.writeDownlinkMessage now

def processNextDownlinkMessage (now : OsalTickCount) : LonUsbLinkState × LonStatusCode :=
  let r := s.sendAck.readDownlinkBuffer
  if r.2 = .noBufferAvailable then (r.1, .noError)
  else onSuccess r fun s => s.writeDownlinkBuffer now

def downlinkStart (now : OsalTickCount) : LonUsbLinkState :=
  { s.startLonUsbLink now s.configuredIfaceMode with
    waitForReset := true
    resetWaitTimer := now
    downlinkState := .waitStartupReset }

def waitStartupReset (now : OsalTickCount) : LonUsbLinkState :=
  if s.haveReset ∨ NI_RESET_WAIT_TIME < now - s.resetWaitTimer then
    (sendResync { s with haveReset := false } now).awaitNull now .waitStartupResyncAck
  else s

def waitStartupResyncAck (now : OsalTickCount) : LonUsbLinkState :=
  if s.haveNull then
    { s with
      haveNull := false
      waitForReset := true
      resetWaitTimer := now
      downlinkState := .waitResyncReset }
  else if NI_NULL_WAIT_TIME < now - s.nullWaitTimer then
    { s.sendResync now with
      waitForNull := true
      nullWaitTimer := now }
  else s

def waitResyncReset (now : OsalTickCount) : LonUsbLinkState :=
  if s.haveReset ∨ NI_RESET_WAIT_TIME < now - s.resetWaitTimer then
    let s := { s with haveReset := false }
    if s.haveUid = false then
      { s with
        uidRetries := MAX_UID_RETRIES
        downlinkState := .niUniqueIdRequest }
    else if s.haveStatus = false then s.setDownlinkState .mipStatusRequest
    else if s.l2L5Mode ≠ LON_IFACE_MODE_LAYER2 then s.setDownlinkState .layer2Request
    else s.setDownlinkState .idleStart
  else s

def layerRequest (now : OsalTickCount) (mode : Int) (nextState : DownlinkState) :
    LonUsbLinkState × LonStatusCode :=
  onSuccess (s.setNiLayerMode mode) fun s => (s.awaitNull now nextState, .noError)

def waitLayer5Ack (now : OsalTickCount) : LonUsbLinkState :=
  if s.haveNull then
    { s with
      haveNull := false
      downlinkState := .niUniqueIdRequest }
  else if NI_NULL_WAIT_TIME < now - s.nullWaitTimer then s.setDownlinkState .waitStartupResyncAck
  else s

def niUniqueIdRequest (now : OsalTickCount) : LonUsbLinkState × LonStatusCode :=
  if s.currentIfaceMode ≠ LON_IFACE_MODE_LAYER5 then (s.setDownlinkState .layer5Request, .noError)
  else
    onSuccess (s.requestUsbNiUid now) fun s =>
      ({ s with
          uidWaitTimer := now
          downlinkState := .waitNiUniqueId },
        .noError)

def waitNiUniqueId (now : OsalTickCount) : LonUsbLinkState :=
  if s.haveUid then s.setDownlinkState .layer2Request
  else if NI_UID_WAIT_TIME < now - s.uidWaitTimer then
    if s.waitForUid then s.setDownlinkState .niUniqueIdRequest
    else s.setDownlinkState .mipStatusRequest
  else s

def waitLayer2Ack (now : OsalTickCount) : LonUsbLinkState :=
  if s.haveNull then
    { s with
      haveNull := false
      statusRetries := MAX_STATUS_RETRIES
      downlinkState := .mipStatusRequest }
  else if NI_NULL_WAIT_TIME < now - s.nullWaitTimer then s.setDownlinkState .waitStartupResyncAck
  else s

def mipStatusRequest (now : OsalTickCount) : LonUsbLinkState × LonStatusCode :=
  if s.currentIfaceMode ≠ LON_IFACE_MODE_LAYER2 then (s.setDownlinkState .layer2Request, .noError)
  else
    onSuccess (s.requestUsbNiStatus now) fun s =>
      ({ s with
          statusWaitTimer := now
          downlinkState := .waitMipStatus },
        .noError)

def waitMipStatus (now : OsalTickCount) : LonUsbLinkState :=
  if s.haveStatus then s.setDownlinkState .idleStart
  else if NI_STATUS_WAIT_TIME < now - s.statusWaitTimer then
    if s.waitForStatus then s.setDownlinkState .mipStatusRequest
    else s.setDownlinkState .idleStart
  else s

def idleStart : LonUsbLinkState :=
  if s.currentIfaceMode ≠ LON_IFACE_MODE_LAYER2 then s.setDownlinkState .layer2Request
  else
    { s.writeDownlinkCodePacket NULL_FRAME_CMD 0 with
      ready := true
      downlinkState := .idle }

/-- `MsgReportStatus` is copied over the frame of the last message and written. -/
def reportStatus (now : OsalTickCount) : LonUsbLinkState :=
  let s := s.incrementDownlinkSequence
  let frame := s.downlinkBuffer.usbNiDataFrame.image.copy 0 MsgReportStatus 0
    LonUsbQueueBuffer.sizeofLonNiFrame
  let s := { s with downlinkBuffer := { s.downlinkBuffer with usbNiDataFrame := ⟨frame⟩ } }
  let s := (s.writeDownlinkMessage now).1
  { s with uplinkAckTimeoutPhase := s.uplinkAckTimeoutPhase + 1 }

def resyncAckTimeout (now : OsalTickCount) : LonUsbLinkState :=
  if s.uplinkAckTimeoutPhase < 5 then s.reportStatus now
  else if s.waitForUid = false ∧ STARTUP_DELAY < now - s.lastTimeout then
    { s with lastTimeout := now }
  else { s with uplinkAckTimeoutPhase := 0 }

def ackTimeout (now : OsalTickCount) : LonUsbLinkState :=
  let s := s.setDownlinkState .idle
  let s := if s.uplinkState = .idle ∧ s.uplinkMsgIndex ≠ 0 then s.resetUplinkState else s
  let s := { s with uplinkAckTimeouts := s.uplinkAckTimeouts + 1 }
  if 2 ≤ s.uplinkAckTimeouts then { s.resyncAckTimeout now with uplinkAckTimeouts := 0 } else s

def waitAck (now : OsalTickCount) : LonUsbLinkState × LonStatusCode :=
  if now - s.uplinkAckTimer < s.uplinkAckTimeout then (s, .noError)
  else (s.ackTimeout now).processNextDownlinkMessage now

def processDownlinkRequests (now : OsalTickCount) : LonUsbLinkState × LonStatusCode :=
  if s.shutdown then (s, .invalidInterfaceId)
  else
    match s.downlinkState with
    | .start => (s.downlinkStart now, .noError)
    | .waitStartupReset => (s.waitStartupReset now).processNextDownlinkMessage now
    | .waitStartupResyncAck => (s.waitStartupResyncAck now).processNextDownlinkMessage now
    | .waitResyncReset => (s.waitResyncReset now).processNextDownlinkMessage now
    | .layer5Request =>
      onSuccess (s.layerRequest now LON_IFACE_MODE_LAYER5 .waitLayer5Ack) fun s =>
        s.processNextDownlinkMessage now
    | .waitLayer5Ack => (s.waitLayer5Ack now).processNextDownlinkMessage now
    | .niUniqueIdRequest =>
      onSuccess (s.niUniqueIdRequest now) fun s => s.processNextDownlinkMessage now
    | .waitNiUniqueId => (s.waitNiUniqueId now).processNextDownlinkMessage now
    | .layer2Request =>
      onSuccess (s.layerRequest now LON_IFACE_MODE_LAYER2 .waitLayer2Ack) fun s =>
        s.processNextDownlinkMessage now
    | .waitLayer2Ack => (s.waitLayer2Ack now).processNextDownlinkMessage now
    | .mipStatusRequest =>
      onSuccess (s.mipStatusRequest now) fun s => s.processNextDownlinkMessage now
    | .waitMipStatus => (s.waitMipStatus now).processNextDownlinkMessage now
    | .idleStart => s.idleStart.processNextDownlinkMessage now
    | .idle => s.processNextDownlinkMessage now
    | .waitCpAck | .waitMsgAck | .waitCpResponse => s.waitAck now
    | .waitL5ResyncAck | .waitL5Reset | .waitL2ResyncAck | .waitL2Reset | .waitCpMsgReqAck
    | .invalid => (s.setDownlinkState .start, .noError)

end LonUsbLinkState

end LonStack.LonUsb
