import LonStack.LonUsb.Untimed

namespace LonStack.LonUsb

open Lib

namespace LonUsbLinkState

variable {s : LonUsbLinkState}

theorem status_queueUplinkBuffer (h : s.uplinkQueue.full = false) :
    s.queueUplinkBuffer.2 = .noError := by
  unfold uplinkQueue at h
  unfold queueUplinkBuffer
  split
  case isTrue hp =>
    rw [if_pos hp] at h
    rw [Queue.tail_eq_some _ h]
  case isFalse hp =>
    rw [if_neg hp] at h
    rw [Queue.tail_eq_some _ h]

theorem status_processUplinkMessage (h : s.uplinkQueue.full = false) :
    s.processUplinkMessage.2 = .noError := by
  unfold processUplinkMessage
  dsimp only
  split
  case isTrue => split <;> rfl
  case isFalse =>
    split
    case isTrue => split <;> rfl
    case isFalse => exact status_queueUplinkBuffer h

theorem status_acceptMessage (h : s.uplinkQueue.full = false) : s.acceptMessage.2 = .noError := by
  unfold acceptMessage
  dsimp only
  split
  case isTrue => rfl
  case isFalse => exact status_processUplinkMessage ((s.uplinks_handleNiCommand _).room h)

theorem status_checkUplinkCompleted (h : s.uplinkQueue.full = false) :
    s.checkUplinkCompleted.2.1 = .noError := by
  unfold checkUplinkCompleted
  dsimp only
  split
  case isTrue => rfl
  case isFalse =>
    split
    case isTrue => rfl
    case isFalse =>
      split
      case isTrue =>
        split
        case isTrue => rfl
        case isFalse => exact status_acceptMessage h
      case isFalse => rfl

theorem status_messageByte (h : s.uplinkQueue.full = false) (now : OsalTickCount) (last : Bool)
    (b : UInt8) : (s.messageByte now last b).2 = .noError := by
  have hcheck := status_checkUplinkCompleted ((s.uplinks_storeByte b).room h)
  unfold messageByte
  dsimp only
  split
  case isTrue => rfl
  case isFalse =>
    generalize (s.storeByte b).checkUplinkCompleted = c at hcheck
    obtain ⟨t, status, completed⟩ := c
    obtain rfl : status = .noError := hcheck
    dsimp only
    rw [if_neg (fun hne => hne rfl)]
    split <;> rfl

theorem status_shortNiCmdCodePacket (h : s.uplinkQueue.full = false)
    (parameter sequenceNumber : UInt8) :
    (s.shortNiCmdCodePacket parameter sequenceNumber).2 = .noError := by
  have hprocess := status_processUplinkMessage
    (((s.uplinks_setDownlinkAckSeqNumber sequenceNumber.toNat).trans
      ((uplinks_restartOnReset _ parameter).trans (uplinks_storeShortNiCmd _ parameter))).room h)
  unfold shortNiCmdCodePacket
  dsimp only
  split
  case isTrue => rfl
  case isFalse =>
    split
    case isTrue => rfl
    case isFalse => exact congrArg Prod.snd (if_pos hprocess)

def CpKnown (frameCmd : UInt8) : Prop :=
  frameCmd = MSG_FRAME_CMD ∨ frameCmd = SHORT_NI_CMD_FRAME_CMD ∨
    frameCmd = MSG_REJECT_FRAME_CMD ∨ frameCmd = FAIL_FRAME_CMD ∨ frameCmd = NULL_FRAME_CMD

instance (frameCmd : UInt8) : Decidable (CpKnown frameCmd) :=
  inferInstanceAs (Decidable (_ ∨ _ ∨ _ ∨ _ ∨ _))

theorem status_rejectCodePacket {now : OsalTickCount} (h : ¬s.RejectExpired now) :
    (s.rejectCodePacket now).2 = .noError := by
  unfold rejectCodePacket
  split
  case isTrue hstate =>
    dsimp only
    split
    case isTrue => rfl
    case isFalse hzero =>
      exact congrArg Prod.snd (if_neg fun hexpired => h ⟨hstate, hzero, hexpired⟩)
  case isFalse => rfl

theorem status_processUplinkCodePacket {now : OsalTickCount} (h : s.uplinkQueue.full = false)
    (hknown : CpKnown s.uplinkBuffer.frameHeader.cmd)
    (hfail : s.uplinkBuffer.frameHeader.cmd ≠ FAIL_FRAME_CMD)
    (hreject : s.uplinkBuffer.frameHeader.cmd = MSG_REJECT_FRAME_CMD → ¬s.RejectExpired now) :
    (s.processUplinkCodePacket now).2 = .noError := by
  have hroom := ((s.uplinks_checkSequence s.uplinkBuffer.frameHeader).trans
    (uplinks_processAck _ s.uplinkBuffer.frameHeader)).room h
  have hexpired := not_rejectExpired_processAck hreject
  unfold processUplinkCodePacket
  dsimp only
  generalize (s.checkSequence s.uplinkBuffer.frameHeader).processAck s.uplinkBuffer.frameHeader = t at *
  split
  case isTrue => rfl
  case isFalse hmsg =>
    split
    case isTrue => exact status_shortNiCmdCodePacket hroom _ _
    case isFalse hshort =>
      split
      case isTrue hcmd => exact status_rejectCodePacket (hexpired hcmd)
      case isFalse hrej =>
        rw [if_pos ((((hknown.resolve_left hmsg).resolve_left hshort).resolve_left
          hrej).resolve_left hfail)]

/-- The byte is the checksum of a valid code packet that reports a failure, or whose command is
unknown. -/
def BreaksOff (s : LonUsbLinkState) (b : UInt8) : Prop :=
  s.uplinkState = .codePacketChecksum ∧ validateChecksum (s.completedHeader b).toList ∧
    ((s.completedHeader b).cmd = FAIL_FRAME_CMD ∨ ¬CpKnown (s.completedHeader b).cmd)

instance (s : LonUsbLinkState) (b : UInt8) : Decidable (s.BreaksOff b) :=
  inferInstanceAs (Decidable (_ ∧ _ ∧ (_ ∨ ¬_)))

theorem status_processUplinkByte {now : OsalTickCount} {b : UInt8}
    (h : s.uplinkQueue.full = false) (hbreaks : ¬s.BreaksOff b) (hreject : ¬s.LateReject now b)
    (last : Bool) : (s.processUplinkByte now last b).2 = .noError := by
  unfold processUplinkByte
  cases hstate : s.uplinkState with
  | idle | frameCode | frameParameter => rfl
  | codePacketChecksum =>
    dsimp only
    unfold codePacketChecksumByte
    dsimp only
    split
    case isTrue hvalid =>
      have hprocess : ((s.setFrameHeader (s.completedHeader b)).processUplinkCodePacket now).2 =
          .noError := by
        refine status_processUplinkCodePacket ((s.uplinks_setFrameHeader _).room h) ?_ ?_ ?_
        · exact Decidable.not_not.mp fun hunknown => hbreaks ⟨hstate, hvalid, .inr hunknown⟩
        · exact fun hfail => hbreaks ⟨hstate, hvalid, .inl hfail⟩
        · exact fun hcmd hexpired => hreject ⟨⟨hstate, hcmd, hexpired⟩, hvalid⟩
      refine (congrArg Prod.snd (if_pos hprocess)).trans ?_
      dsimp only
      split <;> rfl
    case isFalse => rfl
  | message => exact status_messageByte h now last b
  | escapedData => exact status_checkUplinkCompleted ((s.uplinks_unescape b).room h)

theorem uplinkState_processUplinkMessage :
    s.processUplinkMessage.1.uplinkState = s.uplinkState := by
  unfold processUplinkMessage queueUplinkBuffer
  dsimp only
  split
  case isTrue => split <;> rfl
  case isFalse =>
    split
    case isTrue => split <;> rfl
    case isFalse => split <;> split <;> rfl

theorem uplinkState_checkSequence (header : LonFrameHeader) :
    (s.checkSequence header).uplinkState = s.uplinkState := by
  unfold checkSequence
  split <;> rfl

theorem uplinkState_releaseDownlink : s.releaseDownlink.uplinkState = s.uplinkState := by
  unfold releaseDownlink
  split
  case isTrue => rfl
  case isFalse => split <;> rfl

theorem uplinkState_clearUplinkTransaction (s : LonUsbLinkState) :
    s.clearUplinkTransaction.uplinkState = s.uplinkState := by
  rw [clearUplinkTransaction_eq]
  exact uplinkState_releaseDownlink

theorem uplinkState_processAck (header : LonFrameHeader) :
    (s.processAck header).uplinkState = s.uplinkState := by
  unfold processAck
  split
  case isTrue => exact s.uplinkState_clearUplinkTransaction
  case isFalse => rfl

theorem uplinkState_restartOnReset (parameter : UInt8) :
    (s.restartOnReset parameter).uplinkState = s.uplinkState := by
  unfold restartOnReset
  split <;> rfl

theorem uplinkState_writeDownlinkCodePacket (frameCmd parameter : UInt8) :
    (s.writeDownlinkCodePacket frameCmd parameter).uplinkState = s.uplinkState := by
  unfold writeDownlinkCodePacket
  dsimp only
  split
  case isTrue => split <;> rfl
  case isFalse => split <;> rfl

theorem uplinkState_rejectCodePacket (now : OsalTickCount) :
    (s.rejectCodePacket now).1.uplinkState = s.uplinkState := by
  unfold rejectCodePacket
  dsimp only
  split
  case isTrue =>
    split
    case isTrue => rfl
    case isFalse =>
      split
      case isTrue => exact uplinkState_writeDownlinkCodePacket _ _
      case isFalse => rfl
  case isFalse => rfl

theorem uplinkState_processUplinkCodePacket {now : OsalTickCount}
    (h : (s.processUplinkCodePacket now).2 ≠ .noError) :
    (s.processUplinkCodePacket now).1.uplinkState = s.uplinkState := by
  have hack : ((s.checkSequence s.uplinkBuffer.frameHeader).processAck
      s.uplinkBuffer.frameHeader).uplinkState = s.uplinkState :=
    (uplinkState_processAck _).trans (uplinkState_checkSequence _)
  unfold processUplinkCodePacket at h ⊢
  dsimp only at h ⊢
  rw [← hack]
  generalize (s.checkSequence s.uplinkBuffer.frameHeader).processAck s.uplinkBuffer.frameHeader = t
    at h ⊢
  split
  case isTrue hmsg =>
    rw [if_pos hmsg] at h
    exact absurd rfl h
  case isFalse hmsg =>
    rw [if_neg hmsg] at h
    split
    case isTrue hshort =>
      rw [if_pos hshort] at h
      unfold shortNiCmdCodePacket at h ⊢
      dsimp only at h ⊢
      split
      case isTrue hdup =>
        rw [if_pos hdup] at h
        exact absurd rfl h
      case isFalse hdup =>
        rw [if_neg hdup] at h
        split
        case isTrue => rfl
        case isFalse hack =>
          rw [if_neg hack] at h
          unfold onSuccess at h ⊢
          split
          case isTrue hstatus =>
            rw [if_pos hstatus] at h
            exact absurd rfl h
          case isFalse =>
            exact uplinkState_processUplinkMessage.trans (uplinkState_restartOnReset _)
    case isFalse hshort =>
      rw [if_neg hshort] at h
      split
      case isTrue => exact uplinkState_rejectCodePacket now
      case isFalse =>
        split
        case isTrue =>
          have hclear := t.uplinkState_clearUplinkTransaction
          generalize t.clearUplinkTransaction = u at hclear ⊢
          exact hclear
        case isFalse => split <;> rfl

theorem not_inMessage (state : UplinkState) (h : s.uplinkState = state)
    (hstate : ¬(state = .message ∨ state = .escapedData)) : ¬s.InMessage := by
  rw [InMessage, h]
  exact hstate

def TimedBy (s : LonUsbLinkState) (now : OsalTickCount) (t : LonUsbLinkState) : Prop :=
  t.InMessage → (s.InMessage ∧ t.uplinkMsgTimer = s.uplinkMsgTimer) ∨ t.uplinkMsgTimer = now

theorem TimedBy.of_state {now : OsalTickCount} {t : LonUsbLinkState} (state : UplinkState)
    (h : t.uplinkState = state) (hstate : ¬(state = .message ∨ state = .escapedData)) :
    TimedBy s now t :=
  fun ht => absurd ht (not_inMessage state h hstate)

theorem timedBy_idleByte (h : s.uplinkState = .idle) (now : OsalTickCount) (b : UInt8)
    (r : LonUsbLinkState) : TimedBy r now (s.idleByte b) := by
  unfold idleByte
  split
  case isTrue => exact .of_state .frameCode rfl (by decide)
  case isFalse => exact .of_state _ h (by decide)

theorem timedBy_frameCodeByte (now : OsalTickCount) (b : UInt8) :
    TimedBy s now (s.frameCodeByte now b) := by
  unfold frameCodeByte
  split
  case isTrue => exact .of_state .frameParameter rfl (by decide)
  case isFalse =>
    split
    case isTrue => exact fun _ => .inr rfl
    case isFalse => exact timedBy_idleByte rfl now b s

theorem timedBy_codePacketChecksumByte (h : s.uplinkState = .codePacketChecksum)
    (now : OsalTickCount) (b : UInt8) : TimedBy s now (s.codePacketChecksumByte now b).1 := by
  unfold codePacketChecksumByte
  dsimp only
  split
  case isTrue =>
    unfold onSuccess
    split
    case isTrue =>
      dsimp only
      split
      case isTrue => exact fun _ => .inr rfl
      case isFalse => exact .of_state .idle rfl (by decide)
    case isFalse hstatus =>
      exact .of_state _ ((uplinkState_processUplinkCodePacket hstatus).trans h) (by decide)
  case isFalse => exact .of_state .idle rfl (by decide)

theorem timedBy_checkMsgTimer {now : OsalTickCount} {t : LonUsbLinkState} (h : TimedBy s now t) :
    TimedBy s now (t.checkMsgTimer now) := by
  unfold checkMsgTimer
  split
  case isTrue => exact .of_state .idle rfl (by decide)
  case isFalse => exact h

theorem timedBy_checkUplinkCompleted {now : OsalTickCount} {t : LonUsbLinkState}
    (h : TimedBy s now t) : TimedBy s now t.checkUplinkCompleted.1 := by
  cases t.uplinkState_checkUplinkCompleted with
  | inl hidle => exact .of_state _ hidle (by decide)
  | inr hsame =>
    intro ht
    rw [InMessage, hsame.2] at ht
    rw [hsame.1]
    exact h ht

theorem timedBy_messageByte (h : s.uplinkState = .message) (now : OsalTickCount) (last : Bool)
    (b : UInt8) : TimedBy s now (s.messageByte now last b).1 := by
  have hstore : TimedBy s now (s.storeByte b) := fun _ => .inl ⟨.inl h, rfl⟩
  have hescaped : TimedBy s now ((s.storeByte b).setUplinkState .escapedData) :=
    fun _ => .inl ⟨.inl h, rfl⟩
  have hcheck := timedBy_checkUplinkCompleted hstore
  unfold messageByte
  dsimp only
  split
  case isTrue => exact timedBy_checkMsgTimer hescaped
  case isFalse =>
    generalize (s.storeByte b).checkUplinkCompleted = c at hcheck
    obtain ⟨t, status, completed⟩ := c
    dsimp only at hcheck ⊢
    split
    case isTrue => exact hcheck
    case isFalse =>
      split
      case isTrue => exact timedBy_checkMsgTimer hcheck
      case isFalse => exact hcheck

theorem timedBy_escapedDataByte (h : s.uplinkState = .escapedData) (now : OsalTickCount)
    (b : UInt8) : TimedBy s now (s.escapedDataByte b).1 := by
  refine timedBy_checkUplinkCompleted ?_
  unfold unescape
  dsimp only
  split
  case isTrue => exact fun _ => .inl ⟨.inr h, rfl⟩
  case isFalse =>
    split
    case isTrue => exact fun _ => .inl ⟨.inr h, rfl⟩
    case isFalse => exact .of_state .idle rfl (by decide)

theorem timedBy_processUplinkByte (now : OsalTickCount) (last : Bool) (b : UInt8) :
    TimedBy s now (s.processUplinkByte now last b).1 := by
  unfold processUplinkByte
  cases hstate : s.uplinkState with
  | idle => exact timedBy_idleByte hstate now b s
  | frameCode => exact timedBy_frameCodeByte now b
  | frameParameter => exact .of_state .codePacketChecksum rfl (by decide)
  | codePacketChecksum => exact timedBy_codePacketChecksumByte hstate now b
  | message => exact timedBy_messageByte hstate now last b
  | escapedData => exact timedBy_escapedDataByte hstate now b

theorem unexpired_processUplinkByte {now : OsalTickCount} (h : s.Unexpired now) (last : Bool)
    (b : UInt8) : (s.processUplinkByte now last b).1.Unexpired now := by
  intro ht
  rw [(s.uplinks_processUplinkByte now last b).llpTimeout]
  cases timedBy_processUplinkByte now last b ht with
  | inl hsame =>
    rw [hsame.2]
    exact h hsame.1
  | inr hnow =>
    rw [hnow, UInt32.sub_self]
    exact UInt32.not_lt_zero

theorem uplinkState_codePacketChecksumByte {now : OsalTickCount} {b : UInt8}
    (h : (s.codePacketChecksumByte now b).2 = .noError) :
    (s.codePacketChecksumByte now b).1.uplinkState ≠ .codePacketChecksum := by
  by_cases hvalid : validateChecksum (s.completedHeader b).toList = true
  case neg =>
    rw [s.codePacketChecksumByte_of_not hvalid]
    exact show UplinkState.idle ≠ .codePacketChecksum by decide
  case pos =>
    rw [s.codePacketChecksumByte_of_valid hvalid] at h ⊢
    unfold onSuccess at h ⊢
    split at h
    case isFalse hne => exact absurd h hne
    case isTrue hstatus =>
      rw [if_pos hstatus]
      dsimp only
      split
      case isTrue => exact show UplinkState.message ≠ .codePacketChecksum by decide
      case isFalse => exact show UplinkState.idle ≠ .codePacketChecksum by decide

end LonUsbLinkState

/-- One byte of a stream that is read byte by byte, at an untimed link: whatever the checksum byte of a
code packet leads to, that packet is over. -/
def readOnce (t : LonUsbLinkState) (b : UInt8) : LonUsbLinkState :=
  if t.shutdown then t
  else
    let u := (t.processUplinkByte 0 false b).1
    if t.uplinkState = .codePacketChecksum ∧ u.uplinkState = .codePacketChecksum then
      u.setUplinkState .idle
    else u

/-- No code packet makes `processUplinkBytes` give up the rest of the chunk and leave the parser in the
middle of the packet. -/
def ChunkUnbroken (now : OsalTickCount) : LonUsbLinkState → List UInt8 → Prop
  | _, [] => True
  | s, b :: chunk =>
    ¬s.BreaksOff b ∧ ¬s.LateReject now b ∧
      ChunkUnbroken now (s.processUplinkByte now chunk.isEmpty b).1 chunk

instance instDecidableChunkUnbroken (now : OsalTickCount) (s : LonUsbLinkState) (chunk : List UInt8) :
    Decidable (ChunkUnbroken now s chunk) :=
  match chunk with
  | [] => .isTrue trivial
  | b :: chunk =>
    have := instDecidableChunkUnbroken now (s.processUplinkByte now chunk.isEmpty b).1 chunk
    inferInstanceAs (Decidable (¬_ ∧ ¬_ ∧ _))

theorem untimed_processUplinkByte {now : OsalTickCount} {s : LonUsbLinkState} {b : UInt8} {last : Bool}
    (hs : s.shutdown = false) (htime : s.Unexpired now) (hreject : ¬s.LateReject now b)
    (hstatus : (s.processUplinkByte now last b).2 = .noError) :
    (s.processUplinkByte now last b).1.untimed = readOnce s.untimed b := by
  have hbyte := s.untime_processUplinkByte htime hreject last
  have hstatus' : (s.untimed.processUplinkByte 0 false b).2 = .noError :=
    (congrArg Prod.snd hbyte).symm.trans hstatus
  have hover : ¬(s.untimed.uplinkState = .codePacketChecksum ∧
      (s.untimed.processUplinkByte 0 false b).1.uplinkState = .codePacketChecksum) := by
    rintro ⟨hstate, hagain⟩
    unfold LonUsbLinkState.processUplinkByte at hstatus' hagain
    rw [hstate] at hstatus' hagain
    exact LonUsbLinkState.uplinkState_codePacketChecksumByte hstatus' hagain
  have hopen : ¬s.untimed.shutdown = true := by
    change ¬s.shutdown = true
    rw [hs]
    decide
  rw [readOnce, if_neg hopen]
  exact (congrArg Prod.fst hbyte).trans (if_neg hover).symm

theorem untimed_processChunk {now : OsalTickCount} {s : LonUsbLinkState} {chunk : List UInt8}
    (hs : s.shutdown = false) (hroom : s.uplinkQueue.full = false) (htime : s.Unexpired now)
    (hunbroken : ChunkUnbroken now s chunk) :
    (processChunk now s chunk).1.untimed = chunk.foldl readOnce s.untimed := by
  induction chunk generalizing s with
  | nil => rfl
  | cons b chunk ih =>
    obtain ⟨hbreaks, hreject, hrest⟩ := hunbroken
    have hup := s.uplinks_processUplinkByte now chunk.isEmpty b
    have hstatus := LonUsbLinkState.status_processUplinkByte hroom hbreaks hreject chunk.isEmpty
    rw [processChunk, List.foldl_cons, onSuccess, if_pos hstatus,
      ← untimed_processUplinkByte hs htime hreject hstatus]
    exact ih (hup.shutdown.trans hs) (hup.room hroom)
      (LonUsbLinkState.unexpired_processUplinkByte htime _ b) hrest

def InTime : LonUsbLinkState → List (OsalTickCount × List UInt8) → Prop
  | _, [] => True
  | s, c :: chunks => s.Unexpired c.1 ∧ InTime (s.processUplinkBytes c.1 c.2).1 chunks

def Unbroken : LonUsbLinkState → List (OsalTickCount × List UInt8) → Prop
  | _, [] => True
  | s, c :: chunks =>
    ChunkUnbroken c.1 s c.2 ∧ Unbroken (s.processUplinkBytes c.1 c.2).1 chunks

instance instDecidableInTime (s : LonUsbLinkState) (chunks : List (OsalTickCount × List UInt8)) :
    Decidable (InTime s chunks) :=
  match chunks with
  | [] => .isTrue trivial
  | c :: chunks =>
    have := instDecidableInTime (s.processUplinkBytes c.1 c.2).1 chunks
    inferInstanceAs (Decidable (_ ∧ _))

instance instDecidableUnbroken (s : LonUsbLinkState) (chunks : List (OsalTickCount × List UInt8)) :
    Decidable (Unbroken s chunks) :=
  match chunks with
  | [] => .isTrue trivial
  | c :: chunks =>
    have := instDecidableUnbroken (s.processUplinkBytes c.1 c.2).1 chunks
    inferInstanceAs (Decidable (_ ∧ _))

theorem feedUplink_of_shutdown {s : LonUsbLinkState} (hs : s.shutdown = true)
    (chunks : List (OsalTickCount × List UInt8)) : feedUplink s chunks = s := by
  induction chunks with
  | nil => rfl
  | cons c chunks ih =>
    rw [feedUplink, List.foldl_cons, LonUsbLinkState.processUplinkBytes, if_pos hs]
    exact ih

theorem foldl_readOnce_of_shutdown {t : LonUsbLinkState} (ht : t.shutdown = true) (bs : List UInt8) :
    bs.foldl readOnce t = t := by
  induction bs with
  | nil => rfl
  | cons b bs ih =>
    rw [List.foldl_cons, readOnce, if_pos ht]
    exact ih

theorem untimed_feedUplink {s : LonUsbLinkState} {chunks : List (OsalTickCount × List UInt8)}
    (hroom : s.uplinkQueue.full = false) (htime : InTime s chunks) (hunbroken : Unbroken s chunks) :
    (feedUplink s chunks).untimed = (chunks.flatMap Prod.snd).foldl readOnce s.untimed := by
  cases hs : s.shutdown with
  | true => rw [feedUplink_of_shutdown hs, foldl_readOnce_of_shutdown (t := s.untimed) hs]
  | false =>
    induction chunks generalizing s with
    | nil => rfl
    | cons c chunks ih =>
      have hup := s.uplinks_processUplinkBytes c.1 c.2
      have hchunk : (s.processUplinkBytes c.1 c.2).1.untimed = c.2.foldl readOnce s.untimed := by
        unfold LonUsbLinkState.processUplinkBytes
        rw [if_neg (by rw [hs]; decide)]
        exact untimed_processChunk hs hroom htime.1 hunbroken.1
      rw [List.flatMap_cons, List.foldl_append, ← hchunk]
      exact ih (hup.room hroom) htime.2 hunbroken.2 (hup.shutdown.trans hs)

structure SameParse (s t : LonUsbLinkState) : Prop where
  normalEntries : s.lonUsbUplinkNormalQueue.toList = t.lonUsbUplinkNormalQueue.toList
  priorityEntries : s.lonUsbUplinkPriorityQueue.toList = t.lonUsbUplinkPriorityQueue.toList
  state : s.uplinkState = t.uplinkState
  buffer : s.uplinkBuffer = t.uplinkBuffer
  index : s.uplinkMsgIndex = t.uplinkMsgIndex
  length : s.uplinkMsgLength = t.uplinkMsgLength
  seqNumber : s.uplinkSeqNumber = t.uplinkSeqNumber
  duplicate : s.uplinkDuplicate = t.uplinkDuplicate
  frameError : s.uplinkFrameError = t.uplinkFrameError

theorem SameParse.of_untimed {s t : LonUsbLinkState} (h : s.untimed = t.untimed) : SameParse s t where
  normalEntries := (congrArg (fun s : LonUsbLinkState => s.lonUsbUplinkNormalQueue.toList) h :)
  priorityEntries := (congrArg (fun s : LonUsbLinkState => s.lonUsbUplinkPriorityQueue.toList) h :)
  state := (congrArg (fun s : LonUsbLinkState => s.uplinkState) h :)
  buffer := (congrArg (fun s : LonUsbLinkState => s.uplinkBuffer) h :)
  index := (congrArg (fun s : LonUsbLinkState => s.uplinkMsgIndex) h :)
  length := (congrArg (fun s : LonUsbLinkState => s.uplinkMsgLength) h :)
  seqNumber := (congrArg (fun s : LonUsbLinkState => s.uplinkSeqNumber) h :)
  duplicate := (congrArg (fun s : LonUsbLinkState => s.uplinkDuplicate) h :)
  frameError := (congrArg (fun s : LonUsbLinkState => s.uplinkFrameError) h :)

theorem SameParse.untimed (s : LonUsbLinkState) : SameParse s s.untimed where
  normalEntries := rfl
  priorityEntries := rfl
  state := rfl
  buffer := rfl
  index := rfl
  length := rfl
  seqNumber := rfl
  duplicate := rfl
  frameError := rfl

/-- Two ways to cut a stream are parsed in the same way, and in both of them no byte is skipped or
interpreted twice. -/
structure ParsedAlike (s : LonUsbLinkState) (chunks chunks' : List (OsalTickCount × List UInt8)) :
    Prop where
  same : SameParse (feedUplink s chunks) (feedUplink s chunks')
  once : SameParse (feedUplink s chunks) ((chunks.flatMap Prod.snd).foldl readOnce s.untimed)
  once' : SameParse (feedUplink s chunks') ((chunks'.flatMap Prod.snd).foldl readOnce s.untimed)

/-- Two ways to cut a stream are parsed in the same way, as long as in neither of them a code packet
makes `processUplinkBytes` return. -/
theorem sameParse_of_unbroken {s : LonUsbLinkState}
    {chunks chunks' : List (OsalTickCount × List UInt8)}
    (hbytes : chunks.flatMap Prod.snd = chunks'.flatMap Prod.snd)
    (hroom : s.uplinkQueue.full = false) (htime : InTime s chunks) (htime' : InTime s chunks')
    (hunbroken : Unbroken s chunks) (hunbroken' : Unbroken s chunks') :
    ParsedAlike s chunks chunks' := by
  have honce := untimed_feedUplink hroom htime hunbroken
  have honce' := untimed_feedUplink hroom htime' hunbroken'
  refine ⟨.of_untimed ?_, ?_, ?_⟩
  · rw [honce, honce', hbytes]
  · rw [← honce]
    exact .untimed _
  · rw [← honce']
    exact .untimed _

def openLink : LonUsbLinkState := { initIfaceStates fun _ => .zero with shutdown := false }

theorem sameParse_null :
    ParsedAlike openLink [(0, [FRAME_SYNC, 0x00, 0x00, 0x82])]
      [(0, [FRAME_SYNC]), (1, [0x00]), (2, [0x00]), (3, [0x82])] :=
  sameParse_of_unbroken rfl (by decide) (by decide) (by decide) (by decide) (by decide)

theorem not_sameParse_fail :
    ¬∀ (s : LonUsbLinkState) (chunks chunks' : List (OsalTickCount × List UInt8)),
      s.lonUsbIfaceType = .u50 → chunks.flatMap Prod.snd = chunks'.flatMap Prod.snd →
        s.uplinkQueue.full = false → InTime s chunks → InTime s chunks' →
          ParsedAlike s chunks chunks' := by
  intro h
  have hparse := (h openLink
    [(0, [FRAME_SYNC, 0x01, 0x00, 0x81, 0x00, FRAME_SYNC, 0x26, LonNiResetDeviceCmd, 0x0C])]
    [(0, [FRAME_SYNC, 0x01, 0x00, 0x81]), (0, [0x00, FRAME_SYNC, 0x26, LonNiResetDeviceCmd, 0x0C])]
    rfl rfl (by decide) (by decide) (by decide)).same
  exact absurd (congrArg List.length hparse.normalEntries) (by decide)

end LonStack.LonUsb
