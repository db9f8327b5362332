import LonStack.LonUsb.Uplink
import LonStack.QueueLaws

namespace LonStack.LonUsb

open Lib

def LonUsbLinkState.uplinkQueue (s : LonUsbLinkState) : Queue LonUsbQueueBuffer :=
  if s.uplinkBuffer.priority = .highPriority then s.lonUsbUplinkPriorityQueue
  else s.lonUsbUplinkNormalQueue

/-- What the uplink functions may do to a link: entries are only ever appended to its uplink queue,
and never into the last slot. -/
structure Uplinks (s t : LonUsbLinkState) : Prop where
  shutdown : t.shutdown = s.shutdown
  llpTimeout : t.llpTimeout = s.llpTimeout
  ifaceType : t.lonUsbIfaceType = s.lonUsbIfaceType
  priority : t.uplinkBuffer.priority = s.uplinkBuffer.priority
  priorityQueue : s.uplinkBuffer.priority = .normalPriority →
    t.lonUsbUplinkPriorityQueue = s.lonUsbUplinkPriorityQueue
  capacity : t.lonUsbUplinkNormalQueue.queueCapacity = s.lonUsbUplinkNormalQueue.queueCapacity
  entries : s.lonUsbUplinkNormalQueue.toList <+: t.lonUsbUplinkNormalQueue.toList
  bounded : t.lonUsbUplinkNormalQueue.queueEntries ≤
    max s.lonUsbUplinkNormalQueue.queueEntries (s.lonUsbUplinkNormalQueue.queueCapacity - 1)
  room : s.uplinkQueue.full = false → t.uplinkQueue.full = false

namespace Uplinks

variable {s t u : LonUsbLinkState}

theorem refl (s : LonUsbLinkState) : Uplinks s s where
  shutdown := rfl
  llpTimeout := rfl
  ifaceType := rfl
  priority := rfl
  priorityQueue _ := rfl
  capacity := rfl
  entries := List.prefix_rfl
  bounded := Nat.le_max_left _ _
  room := id

theorem trans (hst : Uplinks s t) (htu : Uplinks t u) : Uplinks s u where
  shutdown := htu.shutdown.trans hst.shutdown
  llpTimeout := htu.llpTimeout.trans hst.llpTimeout
  ifaceType := htu.ifaceType.trans hst.ifaceType
  priority := htu.priority.trans hst.priority
  priorityQueue h := (htu.priorityQueue (hst.priority.trans h)).trans (hst.priorityQueue h)
  capacity := htu.capacity.trans hst.capacity
  entries := hst.entries.trans htu.entries
  bounded := by
    have h₁ := hst.bounded
    have h₂ := htu.bounded
    rw [hst.capacity] at h₂
    omega
  room := htu.room ∘ hst.room

theorem of_eq (shutdown : t.shutdown = s.shutdown) (llpTimeout : t.llpTimeout = s.llpTimeout)
    (ifaceType : t.lonUsbIfaceType = s.lonUsbIfaceType)
    (priority : t.uplinkBuffer.priority = s.uplinkBuffer.priority)
    (priorityQueue : t.lonUsbUplinkPriorityQueue = s.lonUsbUplinkPriorityQueue)
    (normalQueue : t.lonUsbUplinkNormalQueue = s.lonUsbUplinkNormalQueue) : Uplinks s t where
  shutdown := shutdown
  llpTimeout := llpTimeout
  ifaceType := ifaceType
  priority := priority
  priorityQueue _ := priorityQueue
  capacity := by rw [normalQueue]
  entries := ⟨[], by rw [List.append_nil, normalQueue]⟩
  bounded := by
    rw [normalQueue]
    exact Nat.le_max_left _ _
  room h := by
    unfold LonUsbLinkState.uplinkQueue at h ⊢
    rw [priority, priorityQueue, normalQueue]
    exact h

theorem ite {c : Prop} [Decidable c] (ht : c → Uplinks s t) (hu : ¬c → Uplinks s u) :
    Uplinks s (if c then t else u) := by
  split
  case isTrue h => exact ht h
  case isFalse h => exact hu h

theorem ite_fst {γ : Type} {c : Prop} [Decidable c] {p q : LonUsbLinkState × γ}
    (hp : c → Uplinks s p.1) (hq : ¬c → Uplinks s q.1) : Uplinks s (if c then p else q).1 := by
  split
  case isTrue h => exact hp h
  case isFalse h => exact hq h

theorem onSuccess {r : LonUsbLinkState × LonStatusCode}
    {next : LonUsbLinkState → LonUsbLinkState × LonStatusCode} (hr : Uplinks s r.1)
    (hnext : ∀ t, Uplinks t (next t).1) : Uplinks s (onSuccess r next).1 :=
  hr.trans (.ite_fst (fun _ => hnext _) fun _ => .refl _)

end Uplinks

namespace LonUsbLinkState

variable (s : LonUsbLinkState)

theorem uplinks_queueUplinkBuffer : Uplinks s s.queueUplinkBuffer.1 := by
  unfold queueUplinkBuffer
  split
  case isTrue hp =>
    split
    · exact .refl s
    · exact
        { Uplinks.refl s with
          priorityQueue := fun h => absurd (hp.symm.trans h) (by decide)
          room := fun h => by
            rw [uplinkQueue, if_pos hp] at h ⊢
            exact Queue.full_push _ _ h }
  case isFalse hp =>
    split
    · exact .refl s
    · exact
        { Uplinks.refl s with
          capacity := Queue.queueCapacity_push _ _
          entries := by
            rw [Queue.toList_push]
            split
            · exact List.prefix_append _ _
            · exact List.prefix_rfl
          bounded := by
            rw [Queue.queueEntries_push]
            split <;> omega
          room := fun h => by
            rw [uplinkQueue, if_neg hp] at h ⊢
            exact Queue.full_push _ _ h }

theorem uplinks_processUplinkMessage : Uplinks s s.processUplinkMessage.1 :=
  .ite_fst
    (fun _ => .ite_fst (fun _ => .of_eq rfl rfl rfl rfl rfl rfl) fun _ => .refl s)
    fun _ => .ite_fst
      (fun _ => .ite_fst (fun _ => .of_eq rfl rfl rfl rfl rfl rfl) fun _ => .refl s)
      fun _ => s.uplinks_queueUplinkBuffer

theorem uplinks_resetUplinkState : Uplinks s s.resetUplinkState := .of_eq rfl rfl rfl rfl rfl rfl

theorem uplinks_handleNiCommand (niCmd : UInt8) : Uplinks s (s.handleNiCommand niCmd) :=
  .ite (fun _ => .of_eq rfl rfl rfl rfl rfl rfl) fun _ => .refl s

theorem uplinks_acceptMessage : Uplinks s s.acceptMessage.1 :=
  (s.uplinks_handleNiCommand _).trans
    (.ite_fst (fun _ => .refl _) fun _ => uplinks_processUplinkMessage _)

theorem uplinks_checkUplinkCompleted : Uplinks s s.checkUplinkCompleted.1 := by
  have hmessage : Uplinks s (if FilteredUplink s.uplinkBuffer.usbNiDataFrame.niCommand then
      (s, .noError) else s.acceptMessage).1 :=
    .ite_fst (fun _ => .refl s) fun _ => s.uplinks_acceptMessage
  exact .ite_fst (fun _ => .of_eq rfl rfl rfl rfl rfl rfl) fun _ => .ite_fst
    (fun _ => .of_eq rfl rfl rfl rfl rfl rfl) fun _ => .ite_fst
    (fun _ => hmessage.trans (uplinks_resetUplinkState _)) fun _ => .refl s

theorem uplinks_resetDownlinkState : Uplinks s s.resetDownlinkState :=
  .of_eq rfl rfl rfl rfl rfl rfl

theorem uplinks_clearUplinkTransaction : Uplinks s s.clearUplinkTransaction := by
  have hnext (t : LonUsbLinkState) : Uplinks t
      { t.incrementDownlinkSequence with
        uplinkExpectedRsp := LonNiClearCmd
        uplinkAckTimeoutPhase := 0 } := by
    unfold incrementDownlinkSequence
    exact .of_eq rfl rfl rfl rfl rfl rfl
  refine .trans (.ite (fun _ => ?_) fun _ => .ite (fun _ => ?_) fun _ => .refl s) (hnext _)
  · unfold stopAckTimer
    exact .of_eq rfl rfl rfl rfl rfl rfl
  · exact s.uplinks_resetDownlinkState

theorem uplinks_writeDownlinkCodePacket (frameCmd parameter : UInt8) :
    Uplinks s (s.writeDownlinkCodePacket frameCmd parameter) := by
  have hack : Uplinks s (if NO_ACK_REQUIRED < s.downlinkAckSeqNumber then
      { s with downlinkAckSeqNumber := NO_ACK_REQUIRED } else s) :=
    .ite (fun _ => .of_eq rfl rfl rfl rfl rfl rfl) fun _ => .refl s
  refine hack.trans (.ite (fun _ => ?_) fun _ => ?_)
  · exact .of_eq rfl rfl rfl rfl rfl rfl
  · exact .of_eq rfl rfl rfl rfl rfl rfl

theorem uplinks_setRejectTimer (timer : OsalTickCount) : Uplinks s (s.setRejectTimer timer) :=
  .of_eq rfl rfl rfl rfl rfl rfl

theorem uplinks_rejectCodePacket (now : OsalTickCount) : Uplinks s (s.rejectCodePacket now).1 := by
  have hstop : Uplinks s s.stopAckTimer := .of_eq rfl rfl rfl rfl rfl rfl
  have htimer (timer : OsalTickCount) := hstop.trans (uplinks_setRejectTimer _ timer)
  have hreset := (htimer 0).trans
    (uplinks_writeDownlinkCodePacket _ SHORT_NI_CMD_FRAME_CMD LonNiResetDeviceCmd)
  unfold rejectCodePacket
  split
  case isTrue =>
    dsimp only
    split
    case isTrue => exact htimer now
    case isFalse =>
      split
      case isTrue => exact hreset
      case isFalse => exact hstop
  case isFalse => exact .refl s

theorem uplinks_storeShortNiCmd (parameter : UInt8) : Uplinks s (s.storeShortNiCmd parameter) :=
  .of_eq rfl rfl rfl rfl rfl rfl

theorem uplinks_restartOnReset (parameter : UInt8) : Uplinks s (s.restartOnReset parameter) :=
  .ite (fun _ => .of_eq rfl rfl rfl rfl rfl rfl) fun _ => .refl s

theorem uplinks_setDownlinkAckSeqNumber (n : Int) : Uplinks s (s.setDownlinkAckSeqNumber n) :=
  .of_eq rfl rfl rfl rfl rfl rfl

theorem uplinks_shortNiCmdCodePacket (parameter sequenceNumber : UInt8) :
    Uplinks s (s.shortNiCmdCodePacket parameter sequenceNumber).1 := by
  have hack := s.uplinks_setDownlinkAckSeqNumber sequenceNumber.toNat
  have hrestart := hack.trans (uplinks_restartOnReset _ parameter)
  have hstore := hrestart.trans (uplinks_storeShortNiCmd _ parameter)
  have hprocess := hstore.trans (uplinks_processUplinkMessage _)
  exact .ite_fst (fun _ => hack.trans (uplinks_resetUplinkState _)) fun _ => .ite_fst
    (fun _ => hack) fun _ => .onSuccess hprocess fun t => t.uplinks_resetUplinkState

theorem uplinks_checkSequence (header : LonFrameHeader) : Uplinks s (s.checkSequence header) :=
  .ite (fun _ => .of_eq rfl rfl rfl rfl rfl rfl) fun _ => .refl s

theorem uplinks_processAck (header : LonFrameHeader) : Uplinks s (s.processAck header) :=
  .ite (fun _ => s.uplinks_clearUplinkTransaction) fun _ => .refl s

theorem uplinks_processUplinkCodePacket (now : OsalTickCount) :
    Uplinks s (s.processUplinkCodePacket now).1 := by
  have hack := (s.uplinks_checkSequence s.uplinkBuffer.frameHeader).trans
    (uplinks_processAck _ s.uplinkBuffer.frameHeader)
  refine hack.trans ?_
  refine .ite_fst (fun _ => ?_) fun _ => .ite_fst (fun _ => ?_) fun _ => .ite_fst (fun _ => ?_)
    fun _ => .ite_fst (fun _ => ?_) fun _ => .ite_fst (fun _ => ?_) fun _ => .refl _
  · exact .of_eq rfl rfl rfl rfl rfl rfl
  · exact uplinks_shortNiCmdCodePacket _ _ _
  · exact uplinks_rejectCodePacket _ _
  · have hstop (t : LonUsbLinkState) : Uplinks t t.stopAckTimer := .of_eq rfl rfl rfl rfl rfl rfl
    exact (uplinks_clearUplinkTransaction _).trans (hstop _)
  · exact .of_eq rfl rfl rfl rfl rfl rfl

theorem uplinks_setFrameHeader (header : LonFrameHeader) : Uplinks s (s.setFrameHeader header) :=
  .of_eq rfl rfl rfl rfl rfl rfl

theorem uplinks_setUplinkState (state : UplinkState) : Uplinks s (s.setUplinkState state) :=
  .of_eq rfl rfl rfl rfl rfl rfl

theorem uplinks_storeByte (b : UInt8) : Uplinks s (s.storeByte b) :=
  .of_eq rfl rfl rfl rfl rfl rfl

theorem uplinks_idleByte (b : UInt8) : Uplinks s (s.idleByte b) :=
  .ite (fun _ => .of_eq rfl rfl rfl rfl rfl rfl) fun _ => .of_eq rfl rfl rfl rfl rfl rfl

theorem uplinks_frameCodeByte (now : OsalTickCount) (b : UInt8) :
    Uplinks s (s.frameCodeByte now b) := by
  have hidle : Uplinks s ((s.setUplinkState .idle).setUplinkFrameError true) :=
    .of_eq rfl rfl rfl rfl rfl rfl
  exact .ite (fun _ => .of_eq rfl rfl rfl rfl rfl rfl) fun _ => .ite
    (fun _ => .of_eq rfl rfl rfl rfl rfl rfl) fun _ => hidle.trans (uplinks_idleByte _ b)

theorem uplinks_codePacketChecksumByte (now : OsalTickCount) (b : UInt8) :
    Uplinks s (s.codePacketChecksumByte now b).1 := by
  refine (s.uplinks_setFrameHeader { s.uplinkBuffer.frameHeader with checksum := b }).trans
    (.ite_fst (fun _ => .onSuccess (uplinks_processUplinkCodePacket _ now) fun t => ?_) fun _ => ?_)
  · exact .ite_fst (fun _ => .of_eq rfl rfl rfl rfl rfl rfl) fun _ => .of_eq rfl rfl rfl rfl rfl rfl
  · unfold setUplinkState setDownlinkAckSeqNumber setUplinkFrameError
    exact .of_eq rfl rfl rfl rfl rfl rfl

theorem uplinks_checkMsgTimer (now : OsalTickCount) : Uplinks s (s.checkMsgTimer now) :=
  .ite (fun _ => s.uplinks_resetUplinkState) fun _ => .refl s

theorem uplinks_messageByte (now : OsalTickCount) (last : Bool) (b : UInt8) :
    Uplinks s (s.messageByte now last b).1 := by
  have hstore := s.uplinks_storeByte b
  have hescape := (hstore.trans (uplinks_setUplinkState _ .escapedData)).trans
    (uplinks_checkMsgTimer _ now)
  have hcheck := hstore.trans (uplinks_checkUplinkCompleted _)
  exact .ite_fst (fun _ => hescape) fun _ => .ite_fst (fun _ => hcheck) fun _ => .ite_fst
    (fun _ => hcheck.trans (uplinks_checkMsgTimer _ now)) fun _ => hcheck

theorem uplinks_unescape (b : UInt8) : Uplinks s (s.unescape b) :=
  .ite (fun _ => .of_eq rfl rfl rfl rfl rfl rfl) fun _ => .ite
    (fun _ => .of_eq rfl rfl rfl rfl rfl rfl) fun _ => .of_eq rfl rfl rfl rfl rfl rfl

theorem uplinks_escapedDataByte (b : UInt8) : Uplinks s (s.escapedDataByte b).1 :=
  (s.uplinks_unescape b).trans (uplinks_checkUplinkCompleted _)

theorem uplinks_processUplinkByte (now : OsalTickCount) (last : Bool) (b : UInt8) :
    Uplinks s (s.processUplinkByte now last b).1 := by
  unfold processUplinkByte
  cases s.uplinkState with
  | idle => exact s.uplinks_idleByte b
  | frameCode => exact s.uplinks_frameCodeByte now b
  | frameParameter => exact .of_eq rfl rfl rfl rfl rfl rfl
  | codePacketChecksum => exact s.uplinks_codePacketChecksumByte now b
  | message => exact s.uplinks_messageByte now last b
  | escapedData => exact s.uplinks_escapedDataByte b

end LonUsbLinkState

theorem uplinks_processChunk (now : OsalTickCount) (s : LonUsbLinkState) (chunk : List UInt8) :
    Uplinks s (processChunk now s chunk).1 := by
  induction chunk generalizing s with
  | nil => exact .refl s
  | cons b chunk ih =>
    exact .onSuccess (s.uplinks_processUplinkByte now chunk.isEmpty b) ih

theorem LonUsbLinkState.uplinks_processUplinkBytes (s : LonUsbLinkState) (now : OsalTickCount)
    (chunk : List UInt8) : Uplinks s (s.processUplinkBytes now chunk).1 :=
  .ite_fst (fun _ => .refl s) fun _ => uplinks_processChunk now s chunk

theorem uplinks_parseRing (now : OsalTickCount) (fuel processed : Nat) (s : LonUsbLinkState) :
    Uplinks s (parseRing now fuel processed s) := by
  induction fuel generalizing processed s with
  | zero => exact .refl s
  | succ fuel ih =>
    let rest := s.lonUsbUplinkRingBuffer.drop MAX_BYTES_PER_USB_PARSE_CHUNK
    have hdrop : Uplinks s { s with lonUsbUplinkRingBuffer := rest } := .of_eq rfl rfl rfl rfl rfl rfl
    have hparse := hdrop.trans (LonUsbLinkState.uplinks_processUplinkBytes _ now
      (s.lonUsbUplinkRingBuffer.take MAX_BYTES_PER_USB_PARSE_CHUNK))
    exact .ite (fun _ => .refl s) fun _ => .ite (fun _ => hparse) fun _ => .ite (fun _ => hparse)
      fun _ => hparse.trans (ih _ _)

end LonStack.LonUsb
