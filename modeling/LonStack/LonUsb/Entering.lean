import LonStack.LonUsb.Untimed
import LonStack.LonUsb.DownlinkLaws

namespace LonStack.LonUsb

open Lib

namespace LonUsbLinkState

variable (s : LonUsbLinkState)

def messageEntries : List LonUsbQueueBuffer := s.uplinkQueue.toList

def Room : Prop := s.uplinkQueue.queueEntries + 1 < s.uplinkQueue.queueCapacity

instance : Decidable s.Room := inferInstanceAs (Decidable (_ < _))

def Listening : Prop := s.waitForUid = false ∧ s.waitForStatus = false

instance : Decidable s.Listening := inferInstanceAs (Decidable (_ ∧ _))

def queueing : Option LonUsbQueueBuffer :=
  if s.Listening ∧ s.Room then some s.uplinkBuffer else none

def Completed : Prop :=
  1 < s.uplinkMsgIndex ∧ ¬(s.uplinkMsgLength = EXT_LENGTH.toNat ∧ s.uplinkMsgIndex = 3) ∧
    s.uplinkMsgLength + 1 < s.uplinkMsgIndex

instance : Decidable s.Completed := inferInstanceAs (Decidable (_ ∧ ¬_ ∧ _))

def Acceptable : Prop :=
  ¬FilteredUplink s.uplinkBuffer.usbNiDataFrame.niCommand ∧
    (s.handleNiCommand s.uplinkBuffer.usbNiDataFrame.niCommand).uplinkMsgLength ≤
      LonUsbQueueBuffer.sizeofLonNiFrame

instance : Decidable s.Acceptable := inferInstanceAs (Decidable (_ ∧ _))

def accepting : Option LonUsbQueueBuffer :=
  if s.Completed ∧ s.Acceptable then
    (s.handleNiCommand s.uplinkBuffer.usbNiDataFrame.niCommand).queueing
  else none

def packetReceived (b : UInt8) : LonUsbLinkState :=
  ((s.setFrameHeader (s.completedHeader b)).checkSequence (s.completedHeader b)).processAck
    (s.completedHeader b)

def AckOrNack (parameter : UInt8) : Prop := parameter = LonNiAckCmd ∨ parameter = LonNiNackCmd

instance (parameter : UInt8) : Decidable (AckOrNack parameter) :=
  inferInstanceAs (Decidable (_ ∨ _))

def shortEntering (b : UInt8) : Option LonUsbQueueBuffer :=
  let parameter := s.uplinkBuffer.frameHeader.parameter
  if validateChecksum (s.completedHeader b).toList ∧
      (s.completedHeader b).cmd = SHORT_NI_CMD_FRAME_CMD ∧
        (s.packetReceived b).uplinkDuplicate = false ∧ ¬AckOrNack parameter then
    ((s.packetReceived b).storeShortNiCmd parameter).queueing
  else none

def checked (b : UInt8) : Option LonUsbLinkState :=
  match s.uplinkState with
  | .message => if b = FRAME_SYNC then none else some (s.storeByte b)
  | .escapedData => if b = FRAME_SYNC then some s else none
  | _ => none

def entering (b : UInt8) : Option LonUsbQueueBuffer :=
  match s.uplinkState with
  | .codePacketChecksum => s.shortEntering b
  | .message => if b = FRAME_SYNC then none else (s.storeByte b).accepting
  | .escapedData => if b = FRAME_SYNC then s.accepting else none
  | _ => none

structure KeepsQueue (t : LonUsbLinkState) : Prop where
  normal : t.lonUsbUplinkNormalQueue = s.lonUsbUplinkNormalQueue
  priority : t.lonUsbUplinkPriorityQueue = s.lonUsbUplinkPriorityQueue
  buffer : t.uplinkBuffer.priority = s.uplinkBuffer.priority

variable {s} {t u : LonUsbLinkState}

namespace KeepsQueue

theorem refl (s : LonUsbLinkState) : s.KeepsQueue s := ⟨rfl, rfl, rfl⟩

theorem trans (hst : s.KeepsQueue t) (htu : t.KeepsQueue u) : s.KeepsQueue u where
  normal := htu.normal.trans hst.normal
  priority := htu.priority.trans hst.priority
  buffer := htu.buffer.trans hst.buffer

theorem uplinkQueue (h : s.KeepsQueue t) : t.uplinkQueue = s.uplinkQueue := by
  unfold LonUsbLinkState.uplinkQueue
  rw [h.buffer, h.priority, h.normal]

theorem messageEntries (h : s.KeepsQueue t) : t.messageEntries = s.messageEntries :=
  congrArg Queue.toList h.uplinkQueue

theorem ite {c : Prop} [Decidable c] (ht : c → s.KeepsQueue t) (hu : ¬c → s.KeepsQueue u) :
    s.KeepsQueue (if c then t else u) := by
  split
  case isTrue h => exact ht h
  case isFalse h => exact hu h

end KeepsQueue

theorem uplinkQueue_queueUplinkBuffer :
    s.queueUplinkBuffer.1.uplinkQueue = s.uplinkQueue.push fun _ => s.uplinkBuffer := by
  have hpush (q : Queue LonUsbQueueBuffer) (h : q.tail = none) :
      q.push (fun _ => s.uplinkBuffer) = q := by
    rw [Queue.push, h]
  unfold queueUplinkBuffer
  split
  case isTrue hp =>
    split
    case h_1 htail => rw [uplinkQueue, if_pos hp, hpush _ htail]
    case h_2 =>
      have hqueue : s.uplinkQueue = s.lonUsbUplinkPriorityQueue := if_pos hp
      rw [hqueue]
      exact if_pos hp
  case isFalse hp =>
    split
    case h_1 htail => rw [uplinkQueue, if_neg hp, hpush _ htail]
    case h_2 =>
      have hqueue : s.uplinkQueue = s.lonUsbUplinkNormalQueue := if_neg hp
      rw [hqueue]
      exact if_neg hp

theorem messageEntries_queueUplinkBuffer :
    s.queueUplinkBuffer.1.messageEntries =
      s.messageEntries ++ (if s.Room then some s.uplinkBuffer else none).toList := by
  unfold messageEntries
  rw [uplinkQueue_queueUplinkBuffer, Queue.toList_push]
  by_cases hroom : s.Room
  case pos =>
    rw [if_pos hroom, Option.toList_some]
    exact if_pos hroom
  case neg =>
    rw [if_neg hroom, Option.toList_none, List.append_nil]
    exact if_neg hroom

theorem messageEntries_processUplinkMessage :
    s.processUplinkMessage.1.messageEntries = s.messageEntries ++ s.queueing.toList := by
  have hnot (h : ¬s.Listening) : s.messageEntries ++ s.queueing.toList = s.messageEntries := by
    rw [queueing, if_neg fun hq => h hq.1, Option.toList_none, List.append_nil]
  unfold processUplinkMessage
  dsimp only
  split
  case isTrue huid =>
    rw [hnot fun h => absurd (huid.symm.trans h.1) (by decide)]
    split <;> rfl
  case isFalse huid =>
    split
    case isTrue hstatus =>
      rw [hnot fun h => absurd (hstatus.symm.trans h.2) (by decide)]
      split <;> rfl
    case isFalse hstatus =>
      have hlistening : s.Listening := ⟨Bool.eq_false_iff.mpr huid, Bool.eq_false_iff.mpr hstatus⟩
      rw [messageEntries_queueUplinkBuffer, queueing]
      by_cases hroom : s.Room
      case pos => rw [if_pos hroom, if_pos ⟨hlistening, hroom⟩]
      case neg => rw [if_neg hroom, if_neg fun hq => hroom hq.2]

theorem keepsQueue_handleNiCommand (niCmd : UInt8) : s.KeepsQueue (s.handleNiCommand niCmd) :=
  .ite (fun _ => ⟨rfl, rfl, rfl⟩) fun _ => .refl s

theorem keepsQueue_resetUplinkState : s.KeepsQueue s.resetUplinkState := ⟨rfl, rfl, rfl⟩

theorem keepsQueue_storeByte (b : UInt8) : s.KeepsQueue (s.storeByte b) := ⟨rfl, rfl, rfl⟩

theorem messageEntries_acceptMessage
    (hfiltered : ¬FilteredUplink s.uplinkBuffer.usbNiDataFrame.niCommand) :
    s.acceptMessage.1.messageEntries =
      s.messageEntries ++ (if s.Acceptable then
        (s.handleNiCommand s.uplinkBuffer.usbNiDataFrame.niCommand).queueing else none).toList := by
  have hhandle := s.keepsQueue_handleNiCommand s.uplinkBuffer.usbNiDataFrame.niCommand
  unfold acceptMessage
  dsimp only
  split
  case isTrue hlong =>
    rw [if_neg (fun h => by have := h.2; omega), Option.toList_none, List.append_nil]
    exact hhandle.messageEntries
  case isFalse hshort =>
    rw [if_pos ⟨hfiltered, by omega⟩, messageEntries_processUplinkMessage, hhandle.messageEntries]

theorem messageEntries_checkUplinkCompleted :
    s.checkUplinkCompleted.1.messageEntries = s.messageEntries ++ s.accepting.toList := by
  have hnot (h : ¬(s.Completed ∧ s.Acceptable)) :
      s.messageEntries ++ s.accepting.toList = s.messageEntries := by
    rw [accepting, if_neg h, Option.toList_none, List.append_nil]
  unfold checkUplinkCompleted
  dsimp only
  split
  case isTrue h =>
    rw [hnot fun hc => absurd hc.1.1 (by omega)]
    rfl
  case isFalse hfirst =>
    split
    case isTrue h =>
      rw [hnot fun hc => hc.1.2.1 h]
      rfl
    case isFalse hext =>
      split
      case isFalse h => rw [hnot fun hc => h ⟨by have := hc.1.1; omega, hc.1.2.2⟩]
      case isTrue h =>
        have hcompleted : s.Completed := ⟨by omega, hext, h.2⟩
        refine (keepsQueue_resetUplinkState (s := Prod.fst _)).messageEntries.trans ?_
        split
        case isTrue hfiltered => rw [hnot fun hc => hc.2.1 hfiltered]
        case isFalse hfiltered =>
          rw [messageEntries_acceptMessage hfiltered, accepting]
          by_cases ha : s.Acceptable
          case pos => rw [if_pos ha, if_pos ⟨hcompleted, ha⟩]
          case neg => rw [if_neg ha, if_neg fun hc => ha hc.2]

theorem uplinkView_clearUplinkTransaction (s : LonUsbLinkState) :
    s.clearUplinkTransaction.uplinkView = s.uplinkView := by
  rw [clearUplinkTransaction_eq]
  have hrelease : s.releaseDownlink.uplinkView = s.uplinkView :=
    uplinkView_ite (fun _ => rfl) fun _ => uplinkView_ite (fun _ => rfl) fun _ => rfl
  exact hrelease

theorem uplinkView_processAck (s : LonUsbLinkState) (header : LonFrameHeader) :
    (s.processAck header).uplinkView = s.uplinkView :=
  uplinkView_ite (fun _ => s.uplinkView_clearUplinkTransaction) fun _ => rfl

theorem uplinkView_rejectCodePacket (s : LonUsbLinkState) (now : OsalTickCount) :
    (s.rejectCodePacket now).1.uplinkView = s.uplinkView := by
  unfold rejectCodePacket
  refine uplinkView_ite_fst (fun _ => uplinkView_ite_fst (fun _ => rfl) fun _ =>
    uplinkView_ite_fst (fun _ => ?_) fun _ => rfl) fun _ => rfl
  exact uplinkView_writeDownlinkCodePacket (s.stopAckTimer.setRejectTimer 0) (by decide) _

theorem KeepsQueue.of_view (h : t.uplinkView = s.uplinkView) : s.KeepsQueue t where
  normal := congrArg UplinkView.lonUsbUplinkNormalQueue h
  priority := congrArg UplinkView.lonUsbUplinkPriorityQueue h
  buffer := congrArg (fun v : UplinkView => v.uplinkBuffer.priority) h

theorem keepsQueue_processAck (header : LonFrameHeader) : s.KeepsQueue (s.processAck header) :=
  .of_view (s.uplinkView_processAck header)

theorem keepsQueue_checkSequence (header : LonFrameHeader) :
    s.KeepsQueue (s.checkSequence header) :=
  .ite (fun _ => ⟨rfl, rfl, rfl⟩) fun _ => .refl s

theorem keepsQueue_packetReceived (b : UInt8) : s.KeepsQueue (s.packetReceived b) := by
  have hset : s.KeepsQueue (s.setFrameHeader (s.completedHeader b)) := ⟨rfl, rfl, rfl⟩
  exact (hset.trans (keepsQueue_checkSequence _)).trans (keepsQueue_processAck _)

theorem queueing_restartOnReset (parameter : UInt8) (n : Int) :
    (((s.setDownlinkAckSeqNumber n).restartOnReset parameter).storeShortNiCmd parameter).queueing =
      (s.storeShortNiCmd parameter).queueing := by
  unfold restartOnReset
  split <;> rfl

theorem messageEntries_shortNiCmdCodePacket (parameter sequenceNumber : UInt8) :
    (s.shortNiCmdCodePacket parameter sequenceNumber).1.messageEntries =
      s.messageEntries ++ (if s.uplinkDuplicate = false ∧ ¬AckOrNack parameter then
        (s.storeShortNiCmd parameter).queueing else none).toList := by
  have hstore : s.KeepsQueue (((s.setDownlinkAckSeqNumber sequenceNumber.toNat).restartOnReset
      parameter).storeShortNiCmd parameter) := by
    unfold restartOnReset
    split <;> exact ⟨rfl, rfl, rfl⟩
  unfold shortNiCmdCodePacket
  dsimp only
  split
  case isTrue hdup =>
    rw [if_neg (fun h => absurd (hdup.symm.trans h.1) (by decide)), Option.toList_none,
      List.append_nil]
    rfl
  case isFalse hdup =>
    split
    case isTrue hack =>
      rw [if_neg (fun h => h.2 hack), Option.toList_none, List.append_nil]
      rfl
    case isFalse hack =>
      rw [if_pos ⟨Bool.eq_false_iff.mpr hdup, hack⟩, ← queueing_restartOnReset,
        ← hstore.messageEntries, ← messageEntries_processUplinkMessage]
      unfold onSuccess
      split
      case isTrue => exact keepsQueue_resetUplinkState.messageEntries
      case isFalse => rfl

theorem messageEntries_processUplinkCodePacket (now : OsalTickCount) (header : LonFrameHeader)
    (hheader : s.uplinkBuffer.frameHeader = header) :
    (s.processUplinkCodePacket now).1.messageEntries =
      s.messageEntries ++ (if header.cmd = SHORT_NI_CMD_FRAME_CMD ∧
        ((s.checkSequence header).processAck header).uplinkDuplicate = false ∧
          ¬AckOrNack header.parameter then
        (((s.checkSequence header).processAck header).storeShortNiCmd header.parameter).queueing
          else none).toList := by
  have hack := (s.keepsQueue_checkSequence header).trans (keepsQueue_processAck header)
  have hnot (t : LonUsbLinkState) (h : header.cmd ≠ SHORT_NI_CMD_FRAME_CMD)
      (ht : s.KeepsQueue t) : t.messageEntries =
      s.messageEntries ++ (if header.cmd = SHORT_NI_CMD_FRAME_CMD ∧
        ((s.checkSequence header).processAck header).uplinkDuplicate = false ∧
          ¬AckOrNack header.parameter then
        (((s.checkSequence header).processAck header).storeShortNiCmd header.parameter).queueing
          else none).toList := by
    rw [if_neg (fun hc => h hc.1), Option.toList_none, List.append_nil]
    exact ht.messageEntries
  unfold processUplinkCodePacket
  dsimp only
  rw [hheader]
  generalize (s.checkSequence header).processAck header = t at hack hnot ⊢
  split
  case isTrue hmsg => exact hnot _ (by rw [hmsg]; decide) (hack.trans ⟨rfl, rfl, rfl⟩)
  case isFalse =>
    split
    case isTrue hshort =>
      rw [messageEntries_shortNiCmdCodePacket, hack.messageEntries]
      by_cases hd : t.uplinkDuplicate = false ∧ ¬AckOrNack header.parameter
      case pos => rw [if_pos hd, if_pos ⟨hshort, hd⟩]
      case neg => rw [if_neg hd, if_neg fun hc => hd hc.2]
    case isFalse hshort =>
      refine hnot _ hshort ?_
      split
      case isTrue => exact hack.trans (.of_view (t.uplinkView_rejectCodePacket now))
      case isFalse =>
        split
        case isTrue =>
          have hclear := KeepsQueue.of_view t.uplinkView_clearUplinkTransaction
          generalize t.clearUplinkTransaction = u at hclear ⊢
          exact (hack.trans hclear).trans ⟨rfl, rfl, rfl⟩
        case isFalse =>
          split
          case isTrue => exact hack.trans ⟨rfl, rfl, rfl⟩
          case isFalse => exact hack

theorem messageEntries_codePacketChecksumByte (now : OsalTickCount) (b : UInt8) :
    (s.codePacketChecksumByte now b).1.messageEntries =
      s.messageEntries ++ (s.shortEntering b).toList := by
  have hset : s.KeepsQueue (s.setFrameHeader (s.completedHeader b)) := ⟨rfl, rfl, rfl⟩
  have hprocess := messageEntries_processUplinkCodePacket
    (s := s.setFrameHeader (s.completedHeader b)) now (s.completedHeader b) rfl
  rw [hset.messageEntries] at hprocess
  by_cases hvalid : validateChecksum (s.completedHeader b).toList = true
  case pos =>
    have hshort : s.shortEntering b = if (s.completedHeader b).cmd = SHORT_NI_CMD_FRAME_CMD ∧
        (s.packetReceived b).uplinkDuplicate = false ∧
          ¬AckOrNack s.uplinkBuffer.frameHeader.parameter then
        ((s.packetReceived b).storeShortNiCmd s.uplinkBuffer.frameHeader.parameter).queueing
          else none := by
      rw [shortEntering]
      by_cases h : (s.completedHeader b).cmd = SHORT_NI_CMD_FRAME_CMD ∧
        (s.packetReceived b).uplinkDuplicate = false ∧
          ¬AckOrNack s.uplinkBuffer.frameHeader.parameter
      case pos => rw [if_pos h, if_pos ⟨hvalid, h⟩]
      case neg => rw [if_neg h, if_neg fun hc => h hc.2]
    rw [s.codePacketChecksumByte_of_valid hvalid, hshort]
    refine Eq.trans ?_ hprocess
    change _ = (s.packetHandled now b).1.messageEntries
    generalize s.packetHandled now b = r
    unfold onSuccess
    split
    case isTrue =>
      dsimp only
      split <;> rfl
    case isFalse => rfl
  case neg =>
    have hshort : s.shortEntering b = none := if_neg fun hc => hvalid hc.1
    have hdropped : s.KeepsQueue (s.packetDropped b) := by
      unfold packetDropped
      generalize s.setFrameHeader (s.completedHeader b) = t at hset ⊢
      exact hset.trans ⟨rfl, rfl, rfl⟩
    rw [s.codePacketChecksumByte_of_not hvalid, hshort, Option.toList_none, List.append_nil]
    exact hdropped.messageEntries

theorem keepsQueue_checkMsgTimer (now : OsalTickCount) : s.KeepsQueue (s.checkMsgTimer now) :=
  .ite (fun _ => keepsQueue_resetUplinkState) fun _ => .refl s

theorem messageEntries_messageByte (now : OsalTickCount) (last : Bool) (b : UInt8) :
    (s.messageByte now last b).1.messageEntries =
      s.messageEntries ++ (if b = FRAME_SYNC then none else (s.storeByte b).accepting).toList := by
  have hcheck := messageEntries_checkUplinkCompleted (s := s.storeByte b)
  rw [(s.keepsQueue_storeByte b).messageEntries] at hcheck
  unfold messageByte
  dsimp only
  split
  case isTrue hb =>
    rw [Option.toList_none, List.append_nil]
    exact (keepsQueue_checkMsgTimer now).messageEntries
  case isFalse hb =>
    rw [← hcheck]
    generalize (s.storeByte b).checkUplinkCompleted = c
    obtain ⟨t, status, completed⟩ := c
    dsimp only
    split
    case isTrue => rfl
    case isFalse =>
      split
      case isTrue => exact (keepsQueue_checkMsgTimer now).messageEntries
      case isFalse => rfl

theorem handleNiCommand_setUplinkState (state : UplinkState) (niCmd : UInt8) :
    (s.setUplinkState state).handleNiCommand niCmd =
      (s.handleNiCommand niCmd).setUplinkState state := by
  unfold handleNiCommand
  split <;> rfl

theorem accepting_setUplinkState (state : UplinkState) :
    (s.setUplinkState state).accepting = s.accepting := by
  have hhandle := s.handleNiCommand_setUplinkState state s.uplinkBuffer.usbNiDataFrame.niCommand
  have hacceptable : (s.setUplinkState state).Acceptable ↔ s.Acceptable :=
    and_congr_right fun _ => by
      change ((s.setUplinkState state).handleNiCommand
        s.uplinkBuffer.usbNiDataFrame.niCommand).uplinkMsgLength ≤ _ ↔ _
      rw [hhandle]
      rfl
  have hqueueing : ((s.setUplinkState state).handleNiCommand
      s.uplinkBuffer.usbNiDataFrame.niCommand).queueing =
        (s.handleNiCommand s.uplinkBuffer.usbNiDataFrame.niCommand).queueing := by
    rw [hhandle]
    rfl
  exact ite_congr (propext (and_congr_right fun _ => hacceptable)) (fun _ => hqueueing) fun _ => rfl

theorem messageEntries_escapedDataByte (b : UInt8) :
    (s.escapedDataByte b).1.messageEntries =
      s.messageEntries ++ (if b = FRAME_SYNC then s.accepting else none).toList := by
  have hcheck := messageEntries_checkUplinkCompleted (s := s.unescape b)
  have hunescape : s.KeepsQueue (s.unescape b) :=
    .ite (fun _ => ⟨rfl, rfl, rfl⟩) fun _ => .ite (fun _ => ⟨rfl, rfl, rfl⟩) fun _ => ⟨rfl, rfl, rfl⟩
  have haccepting : (s.unescape b).accepting = if b = FRAME_SYNC then s.accepting else none := by
    unfold unescape
    dsimp only
    split
    case isTrue => exact accepting_setUplinkState .message
    case isFalse =>
      split
      case isTrue => exact if_neg fun h => absurd h.1.1 (Nat.not_lt_zero 1)
      case isFalse => exact if_neg fun h => absurd h.1.1 (Nat.not_lt_zero 1)
  rw [← haccepting, ← hunescape.messageEntries]
  exact hcheck

theorem messageEntries_processUplinkByte (now : OsalTickCount) (last : Bool) (b : UInt8) :
    (s.processUplinkByte now last b).1.messageEntries = s.messageEntries ++ (s.entering b).toList := by
  have hkeeps {t : LonUsbLinkState} (ht : s.KeepsQueue t) :
      t.messageEntries = s.messageEntries ++ [] := by
    rw [List.append_nil]
    exact ht.messageEntries
  have hidle (t : LonUsbLinkState) : t.KeepsQueue (t.idleByte b) :=
    .ite (fun _ => ⟨rfl, rfl, rfl⟩) fun _ => ⟨rfl, rfl, rfl⟩
  unfold processUplinkByte entering
  cases hstate : s.uplinkState with
  | idle => exact hkeeps (hidle s)
  | frameCode =>
    have hback : s.KeepsQueue ((s.setUplinkState .idle).setUplinkFrameError true) := ⟨rfl, rfl, rfl⟩
    refine hkeeps (.ite (fun _ => ⟨rfl, rfl, rfl⟩) fun _ => .ite (fun _ => ⟨rfl, rfl, rfl⟩) fun _ => ?_)
    exact hback.trans (hidle _)
  | frameParameter => exact hkeeps ⟨rfl, rfl, rfl⟩
  | codePacketChecksum => exact messageEntries_codePacketChecksumByte now b
  | message => exact messageEntries_messageByte now last b
  | escapedData => exact messageEntries_escapedDataByte b

end LonUsbLinkState

end LonStack.LonUsb
