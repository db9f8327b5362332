import LonStack.LonUsb.Numbering

namespace LonStack.LonUsb

open Lib

theorem Numbers.ack_acked_neg (v : Numbers) : v.acked.ack < 0 := by
  change (if -2 < v.ack then -2 else v.ack) < 0
  split <;> omega

namespace LonUsbLinkState

variable (s : LonUsbLinkState)

def FrameStarts (b : UInt8) : Prop :=
  s.uplinkState = .codePacketChecksum ∧ validateChecksum (s.completedHeader b).toList = true ∧
    ((s.completedHeader b).cmd = MSG_FRAME_CMD ∨ (s.completedHeader b).cmd = SHORT_NI_CMD_FRAME_CMD)

instance (b : UInt8) : Decidable (s.FrameStarts b) := inferInstanceAs (Decidable (_ ∧ _ ∧ (_ ∨ _)))

def ShortPacket (b : UInt8) : Prop :=
  s.uplinkState = .codePacketChecksum ∧ validateChecksum (s.completedHeader b).toList = true ∧
    (s.completedHeader b).cmd = SHORT_NI_CMD_FRAME_CMD

instance (b : UInt8) : Decidable (s.ShortPacket b) := inferInstanceAs (Decidable (_ ∧ _ ∧ _))

def Consumed : Prop :=
  let frame := s.uplinkBuffer.usbNiDataFrame
  s.uplinkMsgLength ≤ LonUsbQueueBuffer.sizeofLonNiFrame ∧
    ((s.waitForUid = true ∧ 23 ≤ totalMessageLength frame + 1 ∧
        frame.niCommand = LonNiResponseCmd ∧ frame.pdu 14 = readMemorySuccess) ∨
      (s.waitForUid = false ∧ s.waitForStatus = true ∧ 6 ≤ totalMessageLength frame + 1 ∧
        frame.niCommand = LonNiStatusCmd ∧ frame.shortPduLength = 5))

instance : Decidable s.Consumed := inferInstanceAs (Decidable (_ ∧ (_ ∨ _)))

def ExemptShort (b : UInt8) : Prop :=
  (s.packetReceived b).uplinkDuplicate = true ∨ AckOrNack (s.completedHeader b).parameter

instance (b : UInt8) : Decidable (s.ExemptShort b) := inferInstanceAs (Decidable (_ ∨ _))

def ExemptMessage : Prop :=
  s.uplinkDuplicate = true ∨ FilteredUplink s.uplinkBuffer.usbNiDataFrame.niCommand ∨ s.Consumed

instance : Decidable s.ExemptMessage := inferInstanceAs (Decidable (_ ∨ _ ∨ _))

def Exempt (b : UInt8) : Prop :=
  (s.ShortPacket b ∧ s.ExemptShort b) ∨ ∃ t ∈ s.checked b, t.Completed ∧ t.ExemptMessage

def Keeps (b : UInt8) : Prop := s.Exempt b ∨ (s.entering b).isSome

instance (b : UInt8) : Decidable (s.Exempt b) :=
  inferInstanceAs (Decidable ((_ ∧ _) ∨ ∃ t ∈ s.checked b, t.Completed ∧ t.ExemptMessage))

instance (b : UInt8) : Decidable (s.Keeps b) :=
  inferInstanceAs (Decidable (s.Exempt b ∨ (s.entering b).isSome))

/-- The message in the buffer finds no room in its queue, is longer than a frame can be, or comes while
another one is awaited. -/
def TurnedAway : Prop :=
  ¬s.Room ∨ ¬s.Listening ∨ LonUsbQueueBuffer.sizeofLonNiFrame <
    (s.handleNiCommand s.uplinkBuffer.usbNiDataFrame.niCommand).uplinkMsgLength

instance : Decidable s.TurnedAway := inferInstanceAs (Decidable (¬_ ∨ ¬_ ∨ _))

def TurnsAway (b : UInt8) : Prop :=
  (s.ShortPacket b ∧ ¬s.ExemptShort b ∧ ¬(s.Room ∧ s.Listening)) ∨
    (0 ≤ s.downlinkAckSeqNumber ∧
      ∃ t ∈ s.checked b, t.Completed ∧ ¬t.ExemptMessage ∧ t.TurnedAway)

instance (b : UInt8) : Decidable (s.TurnsAway b) :=
  inferInstanceAs (Decidable ((_ ∧ ¬_ ∧ ¬(_ ∧ _)) ∨
    (_ ∧ ∃ t ∈ s.checked b, t.Completed ∧ ¬t.ExemptMessage ∧ t.TurnedAway)))

def TimesOut (x : Arrival) : Prop :=
  s.uplinkState = .message ∧ 0 ≤ s.downlinkAckSeqNumber ∧
    s.llpTimeout < x.now - s.uplinkMsgTimer ∧
      (x.byte = FRAME_SYNC ∨ (x.last = true ∧ ¬(s.storeByte x.byte).Completed))

instance (x : Arrival) : Decidable (s.TimesOut x) := inferInstanceAs (Decidable (_ ∧ _ ∧ _ ∧ (_ ∨ _)))

variable {s} {b : UInt8}

theorem queueing_isSome (h : s.Listening) (hroom : s.Room) : s.queueing.isSome := by
  rw [queueing, if_pos ⟨h, hroom⟩]
  rfl

theorem accepting_isSome (hc : s.Completed) (hexempt : ¬s.ExemptMessage) (h : ¬s.TurnedAway) :
    s.accepting.isSome := by
  obtain ⟨-, hfiltered, -⟩ := not_or.mp hexempt |>.imp id not_or.mp
  obtain ⟨hroom, hlistening, hlength⟩ := not_or.mp h |>.imp id not_or.mp
  rw [accepting, if_pos ⟨hc, hfiltered, Nat.le_of_not_lt hlength⟩]
  have hkeeps := s.keepsQueue_handleNiCommand s.uplinkBuffer.usbNiDataFrame.niCommand
  refine queueing_isSome ?_ ?_
  · have hview : (s.handleNiCommand s.uplinkBuffer.usbNiDataFrame.niCommand).Listening ↔ s.Listening := by
      unfold handleNiCommand
      split <;> exact Iff.rfl
    exact hview.mpr (not_not.mp hlistening)
  · unfold Room
    rw [hkeeps.uplinkQueue]
    exact not_not.mp hroom

theorem listening_packetReceived (b : UInt8) : (s.packetReceived b).Listening ↔ s.Listening := by
  unfold packetReceived
  have hset : (s.setFrameHeader (s.completedHeader b)).Listening ↔ s.Listening := Iff.rfl
  refine Iff.trans ?_ hset
  generalize s.setFrameHeader (s.completedHeader b) = t
  have hcheck : (t.checkSequence (s.completedHeader b)).Listening ↔ t.Listening := by
    unfold checkSequence
    split <;> exact Iff.rfl
  refine Iff.trans ?_ hcheck
  generalize t.checkSequence (s.completedHeader b) = u
  unfold processAck
  split
  case isTrue =>
    rw [clearUplinkTransaction_eq]
    have hrelease : u.releaseDownlink.Listening ↔ u.Listening := by
      unfold releaseDownlink
      split
      case isTrue => exact Iff.rfl
      case isFalse => split <;> exact Iff.rfl
    exact hrelease
  case isFalse => exact Iff.rfl

theorem keeps_of_shortPacket (hshort : s.ShortPacket b) (h : ¬s.TurnsAway b) : s.Keeps b := by
  by_cases hexempt : s.ExemptShort b
  case pos => exact .inl (.inl ⟨hshort, hexempt⟩)
  case neg =>
    obtain ⟨hroom, hlistening⟩ : s.Room ∧ s.Listening :=
      not_not.mp fun haway => h (.inl ⟨hshort, hexempt, haway⟩)
    obtain ⟨hdup, hack⟩ := not_or.mp hexempt
    have hkeeps := s.keepsQueue_packetReceived b
    refine .inr ?_
    unfold entering
    rw [hshort.1]
    change (s.shortEntering b).isSome
    unfold shortEntering
    dsimp only
    rw [if_pos ⟨hshort.2.1, hshort.2.2, (Bool.not_eq_true _).mp hdup, hack⟩]
    refine queueing_isSome ((listening_packetReceived b).mpr hlistening) ?_
    change (s.packetReceived b).Room
    unfold Room
    rw [hkeeps.uplinkQueue]
    exact hroom

theorem keeps_of_completed {t : LonUsbLinkState} (ht : s.checked b = some t) (hc : t.Completed)
    (hack : 0 ≤ s.downlinkAckSeqNumber) (h : ¬s.TurnsAway b) : s.Keeps b := by
  by_cases hexempt : t.ExemptMessage
  case pos => exact .inl (.inr ⟨t, ht, hc, hexempt⟩)
  case neg =>
    have haway : ¬t.TurnedAway := fun haway => h (.inr ⟨hack, t, ht, hc, hexempt, haway⟩)
    have haccepting := accepting_isSome hc hexempt haway
    refine .inr ?_
    unfold checked at ht
    unfold entering
    cases hstate : s.uplinkState with
    | message =>
      rw [hstate] at ht
      dsimp only at ht ⊢
      split at ht
      case isTrue => cases ht
      case isFalse hb =>
        cases ht
        rw [if_neg hb]
        exact haccepting
    | escapedData =>
      rw [hstate] at ht
      dsimp only at ht ⊢
      split at ht
      case isTrue hb =>
        cases ht
        rw [if_pos hb]
        exact haccepting
      case isFalse => cases ht
    | idle | frameCode | frameParameter | codePacketChecksum =>
      rw [hstate] at ht
      cases ht

theorem ack_packetReceived (b : UInt8) :
    (s.packetReceived b).downlinkAckSeqNumber = s.downlinkAckSeqNumber := by
  refine (congrArg Numbers.ack (numbers_packetReceived (s := s) b)).trans ?_
  split <;> rfl

theorem ack_packetHandled (hmsg : (s.completedHeader b).cmd ≠ MSG_FRAME_CMD)
    (hshort : (s.completedHeader b).cmd ≠ SHORT_NI_CMD_FRAME_CMD) (now : OsalTickCount) :
    (s.packetHandled now b).1.downlinkAckSeqNumber = s.downlinkAckSeqNumber ∨
      (s.packetHandled now b).1.downlinkAckSeqNumber < 0 := by
  have hreceived := ack_packetReceived (s := s) b
  rw [packetHandled_eq, if_neg hmsg, if_neg hshort]
  split
  case isTrue =>
    cases numbers_rejectCodePacket (s := s.packetReceived b) now with
    | inl hsame => exact .inl ((congrArg Numbers.ack hsame).trans hreceived)
    | inr hacked =>
      exact .inr (Int.lt_of_le_of_lt (Int.le_of_eq (congrArg Numbers.ack hacked))
        (Numbers.ack_acked_neg _))
  case isFalse =>
    split
    case isTrue =>
      exact .inl ((congrArg Numbers.ack (numbers_clearUplinkTransaction (s.packetReceived b))).trans
        hreceived)
    case isFalse => split <;> exact .inl hreceived

theorem ack_onSuccess {r : Outcome} (now : OsalTickCount) :
    (onSuccess r fun s =>
      if s.uplinkBuffer.frameHeader.cmd = MSG_FRAME_CMD then (s.startMessage now, .noError)
      else (s.setUplinkState .idle, .noError)).1.downlinkAckSeqNumber = r.1.downlinkAckSeqNumber := by
  unfold onSuccess
  split
  case isTrue =>
    dsimp only
    split <;> rfl
  case isFalse => rfl

theorem inMessage_codePacketChecksumByte
    (hvalid : validateChecksum (s.completedHeader b).toList = true)
    (hcmd : (s.completedHeader b).cmd = MSG_FRAME_CMD) (now : OsalTickCount) :
    (s.codePacketChecksumByte now b).1.InMessage := by
  have hkeeps := keepsPacket_processUplinkCodePacket (s := s.setFrameHeader (s.completedHeader b)) now
  have hheader : (s.packetHandled now b).1.uplinkBuffer.frameHeader.cmd = MSG_FRAME_CMD :=
    (congrArg LonFrameHeader.cmd hkeeps.header).trans hcmd
  have hstatus : (s.packetHandled now b).2 = .noError := by
    rw [packetHandled_eq, if_pos hcmd]
  rw [s.codePacketChecksumByte_of_valid hvalid, onSuccess, if_pos hstatus, if_pos hheader]
  exact .inl rfl

inductive Scheduled (s : LonUsbLinkState) (x : Arrival) (t : LonUsbLinkState) : Prop
  | none (h : t.downlinkAckSeqNumber < 0)
  | message (hstart : s.FrameStarts x.byte) (hmsg : t.InMessage)
  | short (hshort : s.ShortPacket x.byte)
  | same (hother : ¬s.FrameStarts x.byte) (hack : t.downlinkAckSeqNumber = s.downlinkAckSeqNumber)
      (hmsg : s.InMessage → t.InMessage ∨ (∃ u, s.checked x.byte = some u ∧ u.Completed) ∨
        (0 ≤ s.downlinkAckSeqNumber → s.TimesOut x))

theorem scheduled_codePacketChecksumByte (hstate : s.uplinkState = .codePacketChecksum)
    (x : Arrival) : s.Scheduled x (s.codePacketChecksumByte x.now x.byte).1 := by
  by_cases hvalid : validateChecksum (s.completedHeader x.byte).toList = true
  case neg =>
    rw [s.codePacketChecksumByte_of_not hvalid]
    exact .none (show (-2 : Int) < 0 by decide)
  case pos =>
    by_cases hmsg : (s.completedHeader x.byte).cmd = MSG_FRAME_CMD
    case pos =>
      exact .message ⟨hstate, hvalid, .inl hmsg⟩ (inMessage_codePacketChecksumByte hvalid hmsg x.now)
    case neg =>
      by_cases hshort : (s.completedHeader x.byte).cmd = SHORT_NI_CMD_FRAME_CMD
      case pos => exact .short ⟨hstate, hvalid, hshort⟩
      case neg =>
        have hack := ack_packetHandled hmsg hshort x.now
        have hout : ¬s.InMessage := not_inMessage _ hstate (by decide)
        rw [← ack_onSuccess x.now, ← s.codePacketChecksumByte_of_valid hvalid] at hack
        exact hack.elim (fun hack => .same (fun h => h.2.2.elim hmsg hshort) hack
          fun hm => absurd hm hout) .none

theorem scheduled_messageByte (hstate : s.uplinkState = .message) (x : Arrival) :
    s.Scheduled x (s.messageByte x.now x.last x.byte).1 := by
  have hother : ¬s.FrameStarts x.byte := fun h => absurd (hstate.symm.trans h.1) (by decide)
  refine .same hother (congrArg Numbers.ack (numbers_messageByte x.now x.last x.byte)) fun _ => ?_
  have htimer (t : LonUsbLinkState) (ht : t.InMessage) (hparams : t.llpTimeout = s.llpTimeout)
      (hsince : t.uplinkMsgTimer = s.uplinkMsgTimer) :
      (t.checkMsgTimer x.now).InMessage ∨ s.llpTimeout < x.now - s.uplinkMsgTimer := by
    unfold checkMsgTimer
    split
    case isTrue h =>
      rw [hparams, hsince] at h
      exact .inr h.2
    case isFalse => exact .inl ht
  unfold messageByte
  dsimp only
  split
  case isTrue hb =>
    refine (htimer ((s.storeByte x.byte).setUplinkState .escapedData) (.inr rfl) rfl rfl).imp id
      fun hlate => .inr fun hack => ?_
    exact ⟨hstate, hack, hlate, .inl hb⟩
  case isFalse hb =>
    by_cases hc : (s.storeByte x.byte).Completed
    case pos =>
      refine .inr (.inl ⟨s.storeByte x.byte, ?_, hc⟩)
      unfold checked
      simp only [hstate]
      exact if_neg hb
    case neg =>
      rw [checkUplinkCompleted_of_not hc]
      dsimp only
      rw [if_neg (by decide)]
      split
      case isTrue hlast =>
        let next := (s.storeByte x.byte).setMsgLength (s.storeByte x.byte).nextMsgLength
        refine (htimer next (.inl hstate) rfl rfl).imp id fun hlate => .inr fun hack => ?_
        exact ⟨hstate, hack, hlate, .inr ⟨by simpa using hlast, hc⟩⟩
      case isFalse => exact .inl (.inl hstate)

theorem scheduled_escapedDataByte (hstate : s.uplinkState = .escapedData) (x : Arrival) :
    s.Scheduled x (s.escapedDataByte x.byte).1 := by
  have hother : ¬s.FrameStarts x.byte := fun h => absurd (hstate.symm.trans h.1) (by decide)
  have hnumbers := numbers_escapedDataByte (s := s) x.byte
  by_cases hb : x.byte = FRAME_SYNC
  case neg =>
    rw [if_neg hb] at hnumbers
    refine .none (Int.lt_of_le_of_lt (Int.le_of_eq (congrArg Numbers.ack hnumbers)) ?_)
    exact show (-2 : Int) < 0 by decide
  case pos =>
    rw [if_pos hb] at hnumbers
    refine .same hother (congrArg Numbers.ack hnumbers) fun _ => ?_
    change (s.unescape x.byte).checkUplinkCompleted.1.InMessage ∨ _
    rw [unescape, if_pos hb]
    by_cases hc : s.Completed
    case pos =>
      refine .inr (.inl ⟨s, ?_, hc⟩)
      unfold checked
      simp only [hstate]
      exact if_pos hb
    case neg =>
      have hc' : ¬(s.setUplinkState .message).Completed := hc
      rw [checkUplinkCompleted_of_not hc']
      exact .inl (.inl rfl)

theorem scheduled_processUplinkByte (s : LonUsbLinkState) (x : Arrival) :
    s.Scheduled x (s.processUplinkByte x.now x.last x.byte).1 := by
  have hsame {t : LonUsbLinkState} (hstate : s.uplinkState ≠ .codePacketChecksum)
      (hout : ¬s.InMessage) (ht : t.numbers = s.numbers) : s.Scheduled x t :=
    .same (fun h => hstate h.1) (congrArg Numbers.ack ht) fun hm => absurd hm hout
  unfold processUplinkByte
  cases hstate : s.uplinkState with
  | idle =>
    exact hsame (by rw [hstate]; decide) (not_inMessage _ hstate (by decide)) (numbers_idleByte x.byte)
  | frameCode =>
    exact hsame (by rw [hstate]; decide) (not_inMessage _ hstate (by decide))
      (numbers_frameCodeByte x.now x.byte)
  | frameParameter =>
    exact hsame (by rw [hstate]; decide) (not_inMessage _ hstate (by decide)) rfl
  | codePacketChecksum => exact scheduled_codePacketChecksumByte hstate x
  | message => exact scheduled_messageByte hstate x
  | escapedData => exact scheduled_escapedDataByte hstate x

theorem uplinkView_of_beforeNext_none {now : OsalTickCount} (h : s.beforeNext now = none)
    (hstart : s.downlinkState ≠ .start) :
    (s.processDownlinkRequests now).1.uplinkView = s.uplinkView := by
  unfold beforeNext at h
  unfold processDownlinkRequests
  split
  case isTrue => rfl
  case isFalse hs =>
    rw [if_neg hs] at h
    cases hstate : s.downlinkState with
    | start => exact absurd hstate hstart
    | waitL5ResyncAck | waitL5Reset | waitL2ResyncAck | waitL2Reset | waitCpMsgReqAck
    | invalid => rfl
    | layer5Request | layer2Request =>
      rw [hstate] at h
      exact (congrArg (fun r : Outcome => r.1.uplinkView) (onSuccess_of_none h _)).trans
        (s.uplinkView_layerRequest now _ _)
    | niUniqueIdRequest =>
      rw [hstate] at h
      exact (congrArg (fun r : Outcome => r.1.uplinkView) (onSuccess_of_none h _)).trans
        (s.uplinkView_niUniqueIdRequest now)
    | mipStatusRequest =>
      rw [hstate] at h
      exact (congrArg (fun r : Outcome => r.1.uplinkView) (onSuccess_of_none h _)).trans
        (s.uplinkView_mipStatusRequest now)
    | waitCpAck | waitMsgAck | waitCpResponse =>
      rw [hstate] at h
      dsimp only at h ⊢
      split at h
      case isTrue => cases h
      case isFalse htimeout =>
        have hearly : now - s.uplinkAckTimer < s.uplinkAckTimeout := by
          by_contra hlate
          exact htimeout ⟨by rw [hstate]; decide, hlate⟩
        unfold waitAck
        rw [if_pos hearly]
    | _ =>
      rw [hstate] at h
      cases h

theorem ack_poll_of_some {now : OsalTickCount} {u : LonUsbLinkState}
    (hu : s.beforeNext now = some u) : (s.processDownlinkRequests now).1.downlinkAckSeqNumber < 0 := by
  rw [processDownlinkRequests_of_some hu]
  exact u.ack_processNextDownlinkMessage now

theorem ack_nonneg_of_numbersBefore (now : OsalTickCount) (h : 0 ≤ (s.numbersBefore now).ack) :
    0 ≤ s.downlinkAckSeqNumber := by
  unfold numbersBefore at h
  split at h
  case isTrue => exact absurd h (Int.not_le.mpr s.numbers.ack_acked_neg)
  case isFalse =>
    split at h
    case isTrue => exact absurd h (Int.not_le.mpr s.numbers.ack_acked_neg)
    case isFalse =>
      split at h
      case isTrue => exact absurd h (show ¬(0 : Int) ≤ -2 by decide)
      case isFalse => exact h

end LonUsbLinkState

def Acknowledges (x : LonUsbLinkState × LinkEvent) : Prop :=
  match x.2 with
  | .processDownlinkRequests now =>
    (0 ≤ x.1.downlinkAckSeqNumber ∧ (x.1.Resyncs now ∨ x.1.StartsIdle)) ∨ x.1.SendsNull now
  | .processUplinkByte a =>
    0 ≤ x.1.downlinkAckSeqNumber ∧ x.1.ExpiresReject a.now a.byte ∧
      validateChecksum (x.1.completedHeader a.byte).toList = true
  | _ => False

instance : DecidablePred Acknowledges
  | (s, .processUplinkByte a) => inferInstanceAs (Decidable (_ ∧ s.ExpiresReject a.now a.byte ∧ _))
  | (s, .processDownlinkRequests now) =>
    inferInstanceAs (Decidable ((_ ∧ (s.Resyncs now ∨ s.StartsIdle)) ∨ s.SendsNull now))
  | (_, .writeLonUsbMsg _) | (_, .readUplinkBuffer) | (_, .setRing _) => .isFalse id

def BeginsFrame (x : LonUsbLinkState × LinkEvent) : Prop :=
  match x.2 with
  | .processUplinkByte a => x.1.FrameStarts a.byte
  | _ => False

def KeepsFrame (x : LonUsbLinkState × LinkEvent) : Prop :=
  match x.2 with
  | .processUplinkByte a => x.1.Keeps a.byte
  | _ => False

instance : DecidablePred BeginsFrame
  | (s, .processUplinkByte a) => inferInstanceAs (Decidable (s.FrameStarts a.byte))
  | (_, .writeLonUsbMsg _) | (_, .processDownlinkRequests _) | (_, .readUplinkBuffer)
  | (_, .setRing _) => .isFalse id

instance : DecidablePred KeepsFrame
  | (s, .processUplinkByte a) => inferInstanceAs (Decidable (s.Keeps a.byte))
  | (_, .writeLonUsbMsg _) | (_, .processDownlinkRequests _) | (_, .readUplinkBuffer)
  | (_, .setRing _) => .isFalse id

/-- A step that acknowledges a message before it is complete, or loses a frame that is to be
acknowledged. -/
def LosesFrame (x : LonUsbLinkState × LinkEvent) : Prop :=
  match x.2 with
  | .processUplinkByte a => x.1.TurnsAway a.byte ∨ x.1.TimesOut a
  | .processDownlinkRequests _ =>
    x.1.InMessage ∧ (Acknowledges x ∨ (0 ≤ x.1.downlinkAckSeqNumber ∧ x.1.downlinkState = .start))
  | _ => False

instance : DecidablePred LosesFrame
  | (s, .processUplinkByte a) => inferInstanceAs (Decidable (s.TurnsAway a.byte ∨ s.TimesOut a))
  | (s, .processDownlinkRequests now) =>
    inferInstanceAs (Decidable (_ ∧ (Acknowledges (s, .processDownlinkRequests now) ∨ _)))
  | (_, .writeLonUsbMsg _) | (_, .readUplinkBuffer) | (_, .setRing _) => .isFalse id

/-- What is acknowledged was entered, unless it need not be. -/
def KeepsAcknowledged (h : LinkHistory) : Prop :=
  ∀ x h₁, x :: h₁ <:+ h → Acknowledges x → Since KeepsFrame BeginsFrame h₁

structure NothingDue (s : LonUsbLinkState) : Prop where
  shutdown : s.shutdown = false
  ack : s.downlinkAckSeqNumber < 0

/-- A number that is to be acknowledged belongs to a frame that was kept or is arriving. -/
structure Due (h : LinkHistory) (t : LonUsbLinkState) : Prop where
  shutdown : t.shutdown = false
  kept : 0 ≤ t.downlinkAckSeqNumber → Since KeepsFrame BeginsFrame h ∨ t.InMessage

section Run

variable {s t : LonUsbLinkState} {h : LinkHistory} {e : LinkEvent}

theorem Due.of_same (hdue : Due h t) {u : LonUsbLinkState} (he : e.byte? = none)
    (hs : u.shutdown = false) (hack : u.downlinkAckSeqNumber = t.downlinkAckSeqNumber)
    (hstate : u.uplinkState = t.uplinkState) : Due ((t, e) :: h) u where
  shutdown := hs
  kept hnonneg := by
    rw [hack] at hnonneg
    refine (hdue.kept hnonneg).imp (fun hsince => .inr ⟨?_, hsince⟩) fun hmsg => ?_
    · cases e with
      | processUplinkByte => cases he
      | writeLonUsbMsg | processDownlinkRequests | readUplinkBuffer | setRing => exact id
    · unfold LonUsbLinkState.InMessage
      rw [hstate]
      exact hmsg

theorem Due.poll (hdue : Due h t) {now : OsalTickCount}
    (hloses : ¬LosesFrame (t, .processDownlinkRequests now)) :
    Due ((t, .processDownlinkRequests now) :: h) (linkStep (.processDownlinkRequests now) t) := by
  have hs := shutdown_linkStep (e := .processDownlinkRequests now) hdue.shutdown
  cases hu : t.beforeNext now with
  | some u =>
    refine ⟨hs, fun hnonneg => ?_⟩
    exact absurd hnonneg (Int.not_le.mpr (LonUsbLinkState.ack_poll_of_some hu))
  | none =>
    have hack := congrArg Numbers.ack (LonUsbLinkState.numbers_of_beforeNext_none hu)
    by_cases hstart : t.downlinkState = .start
    case neg =>
      have hview := LonUsbLinkState.uplinkView_of_beforeNext_none hu hstart
      exact hdue.of_same rfl hs hack (congrArg UplinkView.uplinkState hview)
    case pos =>
      refine ⟨hs, fun hnonneg => ?_⟩
      have hnonneg : 0 ≤ t.downlinkAckSeqNumber := Int.le_trans hnonneg (Int.le_of_eq hack)
      have hout : ¬t.InMessage := fun hmsg => hloses ⟨hmsg, .inr ⟨hnonneg, hstart⟩⟩
      exact (hdue.kept hnonneg).imp (fun hsince => .inr ⟨id, hsince⟩) fun hmsg => absurd hmsg hout

theorem Due.byte (hdue : Due h t) {x : Arrival} (hloses : ¬LosesFrame (t, .processUplinkByte x)) :
    Due ((t, .processUplinkByte x) :: h) (linkStep (.processUplinkByte x) t) := by
  have hs := shutdown_linkStep (e := .processUplinkByte x) hdue.shutdown
  have hstep : linkStep (.processUplinkByte x) t =
      (t.processUplinkByte x.now x.last x.byte).1 := if_neg (by rw [hdue.shutdown]; decide)
  obtain ⟨haway, hlate⟩ := not_or.mp hloses
  refine ⟨hs, fun hnonneg => ?_⟩
  rw [hstep] at hnonneg ⊢
  cases t.scheduled_processUplinkByte x with
  | none hneg => exact absurd hnonneg (Int.not_le.mpr hneg)
  | message _ hmsg => exact .inr hmsg
  | short hshort => exact .inl (.inl (LonUsbLinkState.keeps_of_shortPacket hshort haway))
  | same hother hack hmsg =>
    rw [hack] at hnonneg
    cases hdue.kept hnonneg with
    | inl hsince => exact .inl (.inr ⟨hother, hsince⟩)
    | inr hin =>
      obtain hgoes | ⟨u, hu, hcompleted⟩ | htimes := hmsg hin
      · exact .inr hgoes
      · exact .inl (.inl (LonUsbLinkState.keeps_of_completed hu hcompleted hnonneg haway))
      · exact absurd (htimes hnonneg) hlate

theorem Due.linkStep (hdue : Due h t) (e : LinkEvent) (hloses : ¬LosesFrame (t, e)) :
    Due ((t, e) :: h) (linkStep e t) := by
  have hs := shutdown_linkStep (e := e) hdue.shutdown
  cases e with
  | writeLonUsbMsg f =>
    exact hdue.of_same rfl hs (congrArg Numbers.ack (t.numbers_writeLonUsbMsg f))
      (congrArg UplinkView.uplinkState (t.uplinkView_writeLonUsbMsg f))
  | readUplinkBuffer =>
    have hread : t.readUplinkBuffer.1.downlinkAckSeqNumber = t.downlinkAckSeqNumber ∧
        t.readUplinkBuffer.1.uplinkState = t.uplinkState := by
      unfold LonUsbLinkState.readUplinkBuffer
      split <;> split <;> exact ⟨rfl, rfl⟩
    exact hdue.of_same rfl hs hread.1 hread.2
  | setRing bytes => exact hdue.of_same rfl hs rfl rfl
  | processUplinkByte x => exact hdue.byte hloses
  | processDownlinkRequests now => exact hdue.poll hloses

theorem due_of_run (hs : NothingDue s) (hrun : LinkRun s h t) (hloses : ∀ x ∈ h, ¬LosesFrame x) :
    Due h t := by
  induction hrun with
  | refl => exact ⟨hs.shutdown, fun hnonneg => absurd hnonneg (Int.not_le.mpr hs.ack)⟩
  | next e _ ih =>
    rw [List.forall_mem_cons] at hloses
    exact (ih hloses.2).linkStep e hloses.1

theorem Acknowledges.due (hack : Acknowledges (t, e)) :
    0 ≤ t.downlinkAckSeqNumber ∧ (e.byte? ≠ none → ¬t.InMessage) := by
  cases e with
  | writeLonUsbMsg | readUplinkBuffer | setRing => exact hack.elim
  | processUplinkByte x =>
    exact ⟨hack.1, fun _ => LonUsbLinkState.not_inMessage _ hack.2.1.1 (by decide)⟩
  | processDownlinkRequests now =>
    refine ⟨?_, fun hbyte => absurd rfl hbyte⟩
    cases hack with
    | inl hdue => exact hdue.1
    | inr hnull =>
      obtain ⟨u, hu, hnonneg⟩ := hnull
      refine LonUsbLinkState.ack_nonneg_of_numbersBefore now ?_
      rw [← LonUsbLinkState.numbers_beforeNext hu]
      exact hnonneg

end Run

def keptEvents : List LinkEvent :=
  readyEvents ++ uplinkEvents [FRAME_SYNC, 0x22, 0x00, 0x60, 0x01, 0x30, 0xCF] ++
    [.processDownlinkRequests 3000]

def earlyEvents : List LinkEvent :=
  readyEvents ++ uplinkEvents [FRAME_SYNC, 0x22, 0x00, 0x60] ++ [.processDownlinkRequests 3000]

end LonStack.LonUsb
