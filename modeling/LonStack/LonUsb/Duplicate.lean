import LonStack.LonUsb.Intact

namespace LonStack.LonUsb

open Lib

namespace LonUsbLinkState

variable {s : LonUsbLinkState}

def packet? (s : LonUsbLinkState) (b : UInt8) : Option LonFrameHeader :=
  if s.uplinkState = .codePacketChecksum ∧ validateChecksum (s.completedHeader b).toList = true ∧
      (s.completedHeader b).cmd ≠ NULL_FRAME_CMD then
    some (s.completedHeader b)
  else none

theorem packet?_eq_some {b : UInt8} {header : LonFrameHeader} (h : s.packet? b = some header) :
    s.uplinkState = .codePacketChecksum ∧ validateChecksum header.toList = true ∧
      header.cmd ≠ NULL_FRAME_CMD ∧ header = s.completedHeader b := by
  unfold packet? at h
  split at h
  case isTrue hc =>
    cases h
    exact ⟨hc.1, hc.2.1, hc.2.2, rfl⟩
  case isFalse => cases h

theorem view_packetReceived (b : UInt8) :
    (s.packetReceived b).uplinkView =
      ((s.setFrameHeader (s.completedHeader b)).checkSequence (s.completedHeader b)).uplinkView :=
  uplinkView_processAck _ _

theorem duplicate_packetReceived {b : UInt8} (h : (s.completedHeader b).cmd ≠ NULL_FRAME_CMD) :
    (s.packetReceived b).uplinkDuplicate =
      (s.uplinkDuplicate || decide (s.uplinkSeqNumber = (s.completedHeader b).seq.toNat ∧
        ¬CpFailOrReject (s.completedHeader b).cmd)) := by
  refine (congrArg UplinkView.uplinkDuplicate (view_packetReceived b)).trans ?_
  unfold checkSequence
  rw [if_pos h]
  rfl

theorem seqNumber_packetReceived {b : UInt8} (h : (s.completedHeader b).cmd ≠ NULL_FRAME_CMD) :
    (s.packetReceived b).uplinkSeqNumber = (s.completedHeader b).seq.toNat := by
  refine (congrArg UplinkView.uplinkSeqNumber (view_packetReceived b)).trans ?_
  unfold checkSequence
  rw [if_pos h]
  rfl

theorem seqNumber_processUplinkMessage :
    s.processUplinkMessage.1.uplinkSeqNumber = s.uplinkSeqNumber ∧
      s.processUplinkMessage.1.uplinkDuplicate = s.uplinkDuplicate := by
  unfold processUplinkMessage queueUplinkBuffer
  dsimp only
  split
  case isTrue => split <;> exact ⟨rfl, rfl⟩
  case isFalse =>
    split
    case isTrue => split <;> exact ⟨rfl, rfl⟩
    case isFalse => split <;> split <;> exact ⟨rfl, rfl⟩

theorem seqNumber_finish : s.finish.1.uplinkSeqNumber = s.uplinkSeqNumber := by
  have haccept : s.acceptMessage.1.uplinkSeqNumber = s.uplinkSeqNumber := by
    have hhandle : (s.handleNiCommand s.uplinkBuffer.usbNiDataFrame.niCommand).uplinkSeqNumber =
        s.uplinkSeqNumber := by
      unfold handleNiCommand
      split <;> rfl
    unfold acceptMessage
    dsimp only
    split
    case isTrue => exact hhandle
    case isFalse => exact seqNumber_processUplinkMessage.1.trans hhandle
  change (if FilteredUplink s.uplinkBuffer.usbNiDataFrame.niCommand then (s, .noError)
    else s.acceptMessage).1.uplinkSeqNumber = _
  split
  case isTrue => rfl
  case isFalse => exact haccept

structure KeepsNumber (s t : LonUsbLinkState) : Prop where
  number : t.uplinkSeqNumber = s.uplinkSeqNumber
  after : s.InMessage → ¬t.InMessage → t.uplinkDuplicate = false

theorem keepsNumber_checkMsgTimer {t : LonUsbLinkState} (h : s.KeepsNumber t) (now : OsalTickCount) :
    s.KeepsNumber (t.checkMsgTimer now) := by
  unfold checkMsgTimer
  split
  case isTrue =>
    exact ⟨h.number, fun _ _ => rfl⟩
  case isFalse => exact h

theorem keepsNumber_checkUplinkCompleted {t : LonUsbLinkState} (h : s.KeepsNumber t)
    (hmsg : t.InMessage) : s.KeepsNumber t.checkUplinkCompleted.1 := by
  by_cases hc : t.Completed
  case pos =>
    rw [checkUplinkCompleted_of_completed hc]
    exact ⟨seqNumber_finish.trans h.number, fun _ _ => rfl⟩
  case neg =>
    rw [checkUplinkCompleted_of_not hc]
    exact ⟨h.number, fun _ hout => absurd hmsg hout⟩

theorem keepsNumber_messageByte (hstate : s.uplinkState = .message) (now : OsalTickCount)
    (last : Bool) (b : UInt8) : s.KeepsNumber (s.messageByte now last b).1 := by
  have hstore : s.KeepsNumber (s.storeByte b) :=
    ⟨rfl, fun _ hout => absurd (.inl hstate) hout⟩
  have hescape : s.KeepsNumber ((s.storeByte b).setUplinkState .escapedData) :=
    ⟨rfl, fun _ hout => absurd (.inr rfl) hout⟩
  have hcheck := keepsNumber_checkUplinkCompleted hstore (.inl hstate)
  unfold messageByte
  dsimp only
  split
  case isTrue => exact keepsNumber_checkMsgTimer hescape now
  case isFalse =>
    generalize (s.storeByte b).checkUplinkCompleted = c at hcheck ⊢
    obtain ⟨t, status, completed⟩ := c
    dsimp only
    split
    case isTrue => exact hcheck
    case isFalse =>
      split
      case isTrue => exact keepsNumber_checkMsgTimer hcheck now
      case isFalse => exact hcheck

theorem keepsNumber_escapedDataByte (b : UInt8) : s.KeepsNumber (s.escapedDataByte b).1 := by
  change s.KeepsNumber (s.unescape b).checkUplinkCompleted.1
  unfold unescape
  dsimp only
  split
  case isTrue =>
    exact keepsNumber_checkUplinkCompleted
      ⟨rfl, fun _ hout => absurd (.inl rfl) hout⟩ (.inl rfl)
  case isFalse =>
    split
    case isTrue =>
      exact keepsNumber_checkUplinkCompleted
        ⟨rfl, fun _ hout => absurd (.inl rfl) hout⟩ (.inl rfl)
    case isFalse =>
      rw [checkUplinkCompleted_of_not fun hc => absurd hc.1 (Nat.not_lt_zero 1)]
      exact ⟨rfl, fun _ _ => rfl⟩

theorem number_codePacketChecksumByte {b : UInt8}
    (hvalid : validateChecksum (s.completedHeader b).toList = true) (now : OsalTickCount) :
    (s.codePacketChecksumByte now b).1.uplinkSeqNumber = (s.packetHandled now b).1.uplinkSeqNumber ∧
      (s.codePacketChecksumByte now b).1.uplinkDuplicate =
        (s.packetHandled now b).1.uplinkDuplicate := by
  rw [s.codePacketChecksumByte_of_valid hvalid]
  unfold onSuccess
  split
  case isTrue =>
    dsimp only
    split <;> exact ⟨rfl, rfl⟩
  case isFalse => exact ⟨rfl, rfl⟩

theorem number_invalid {b : UInt8}
    (hvalid : ¬validateChecksum (s.completedHeader b).toList = true) (now : OsalTickCount) :
    (s.codePacketChecksumByte now b).1.uplinkSeqNumber = s.uplinkSeqNumber ∧
      (s.codePacketChecksumByte now b).1.uplinkDuplicate = s.uplinkDuplicate := by
  have hset : (s.setFrameHeader (s.completedHeader b)).uplinkSeqNumber = s.uplinkSeqNumber ∧
      (s.setFrameHeader (s.completedHeader b)).uplinkDuplicate = s.uplinkDuplicate := ⟨rfl, rfl⟩
  rw [s.codePacketChecksumByte_of_not hvalid, packetDropped]
  generalize s.setFrameHeader (s.completedHeader b) = t at hset ⊢
  exact hset

theorem packetHandled_message {b : UInt8} (hcmd : (s.completedHeader b).cmd = MSG_FRAME_CMD)
    (now : OsalTickCount) : s.packetHandled now b =
      ({ s.packetReceived b with
          downlinkAckSeqNumber := (s.completedHeader b).seq.toNat
          uplinkState := .message }, .noError) :=
  if_pos hcmd

theorem packetHandled_short {b : UInt8} (hcmd : (s.completedHeader b).cmd = SHORT_NI_CMD_FRAME_CMD)
    (now : OsalTickCount) : s.packetHandled now b =
      (s.packetReceived b).shortNiCmdCodePacket (s.completedHeader b).parameter
        (s.completedHeader b).seq :=
  (if_neg (show (s.completedHeader b).cmd ≠ MSG_FRAME_CMD by rw [hcmd]; decide)).trans (if_pos hcmd)

theorem packetHandled_null {b : UInt8} (hcmd : (s.completedHeader b).cmd = NULL_FRAME_CMD)
    (now : OsalTickCount) : s.packetHandled now b =
      ({ s.packetReceived b with
          waitForNull := false
          haveNull := (s.packetReceived b).haveNull || (s.packetReceived b).waitForNull },
        .noError) := by
  have hne (c : UInt8) (hc : c ≠ NULL_FRAME_CMD) : (s.completedHeader b).cmd ≠ c := by
    rw [hcmd]
    exact hc.symm
  unfold packetHandled processUplinkCodePacket
  dsimp only
  split
  case isTrue h => exact absurd h (hne MSG_FRAME_CMD (by decide))
  case isFalse =>
    split
    case isTrue h => exact absurd h (hne SHORT_NI_CMD_FRAME_CMD (by decide))
    case isFalse =>
      split
      case isTrue h => exact absurd h (hne MSG_REJECT_FRAME_CMD (by decide))
      case isFalse =>
        split
        case isTrue h => exact absurd h (hne FAIL_FRAME_CMD (by decide))
        case isFalse => exact if_pos hcmd

theorem number_shortNiCmdCodePacket (parameter sequenceNumber : UInt8) :
    (s.shortNiCmdCodePacket parameter sequenceNumber).1.uplinkSeqNumber = s.uplinkSeqNumber ∧
      (s.shortNiCmdCodePacket parameter sequenceNumber).1.uplinkDuplicate = false := by
  have hstore : (((s.setDownlinkAckSeqNumber sequenceNumber.toNat).restartOnReset
      parameter).storeShortNiCmd parameter).uplinkSeqNumber = s.uplinkSeqNumber ∧
        (((s.setDownlinkAckSeqNumber sequenceNumber.toNat).restartOnReset
          parameter).storeShortNiCmd parameter).uplinkDuplicate = s.uplinkDuplicate := by
    unfold restartOnReset
    split <;> exact ⟨rfl, rfl⟩
  unfold shortNiCmdCodePacket
  dsimp only
  split
  case isTrue => exact ⟨rfl, rfl⟩
  case isFalse hdup =>
    have hfalse : s.uplinkDuplicate = false := Bool.eq_false_iff.mpr hdup
    split
    case isTrue => exact ⟨rfl, hfalse⟩
    case isFalse =>
      have hprocess := seqNumber_processUplinkMessage (s := ((s.setDownlinkAckSeqNumber
        sequenceNumber.toNat).restartOnReset parameter).storeShortNiCmd parameter)
      unfold onSuccess
      split
      case isTrue => exact ⟨hprocess.1.trans hstore.1, rfl⟩
      case isFalse =>
        exact ⟨hprocess.1.trans hstore.1, (hprocess.2.trans hstore.2).trans hfalse⟩

theorem keepsNumber_of_packet_none {b : UInt8} (h : s.packet? b = none) (now : OsalTickCount)
    (last : Bool) : s.KeepsNumber (s.processUplinkByte now last b).1 ∧
      (¬s.InMessage → (s.processUplinkByte now last b).1.uplinkDuplicate = s.uplinkDuplicate) := by
  have hout {state : UplinkState} {t : LonUsbLinkState} (hstate : s.uplinkState = state)
      (hs : ¬(state = .message ∨ state = .escapedData)) (hn : t.uplinkSeqNumber = s.uplinkSeqNumber)
      (hd : t.uplinkDuplicate = s.uplinkDuplicate) :
      s.KeepsNumber t ∧ (¬s.InMessage → t.uplinkDuplicate = s.uplinkDuplicate) :=
    ⟨⟨hn, fun hm => absurd hm (not_inMessage state hstate hs)⟩, fun _ => hd⟩
  have hidle (t : LonUsbLinkState) : (t.idleByte b).uplinkSeqNumber = t.uplinkSeqNumber ∧
      (t.idleByte b).uplinkDuplicate = t.uplinkDuplicate := by
    unfold idleByte
    split <;> exact ⟨rfl, rfl⟩
  unfold processUplinkByte
  cases hstate : s.uplinkState with
  | idle => exact hout hstate (by decide) (hidle s).1 (hidle s).2
  | frameCode =>
    have hback := hidle ((s.setUplinkState .idle).setUplinkFrameError true)
    refine hout (t := s.frameCodeByte now b) hstate (by decide) ?_ ?_
    · unfold frameCodeByte
      split
      case isTrue => rfl
      case isFalse =>
        split
        case isTrue => rfl
        case isFalse => exact hback.1
    · unfold frameCodeByte
      split
      case isTrue => rfl
      case isFalse =>
        split
        case isTrue => rfl
        case isFalse => exact hback.2
  | frameParameter => exact hout hstate (by decide) rfl rfl
  | codePacketChecksum =>
    by_cases hvalid : validateChecksum (s.completedHeader b).toList = true
    case neg =>
      have hnumber := number_invalid hvalid now
      exact hout hstate (by decide) hnumber.1 hnumber.2
    case pos =>
      have hcmd : (s.completedHeader b).cmd = NULL_FRAME_CMD := by
        by_contra hne
        rw [packet?, if_pos ⟨hstate, hvalid, hne⟩] at h
        cases h
      have hnumber := number_codePacketChecksumByte hvalid now
      have hcheck : (s.packetReceived b).uplinkView =
          (s.setFrameHeader (s.completedHeader b)).uplinkView := by
        refine (view_packetReceived b).trans (congrArg uplinkView ?_)
        exact if_neg (not_not_intro hcmd)
      rw [packetHandled_null hcmd] at hnumber
      exact hout hstate (by decide)
        (hnumber.1.trans (congrArg UplinkView.uplinkSeqNumber hcheck))
        (hnumber.2.trans (congrArg UplinkView.uplinkDuplicate hcheck))
  | message =>
    exact ⟨keepsNumber_messageByte hstate now last b, fun hout => absurd (.inl hstate) hout⟩
  | escapedData =>
    exact ⟨keepsNumber_escapedDataByte b, fun hout => absurd (.inr hstate) hout⟩

theorem not_inMessage_shortNiCmd {b : UInt8} (hstate : s.uplinkState = .codePacketChecksum)
    (hcmd : (s.completedHeader b).cmd ≠ MSG_FRAME_CMD) (now : OsalTickCount) :
    ¬(s.codePacketChecksumByte now b).1.InMessage := by
  cases packetEnd_codePacketChecksumByte hstate now b with
  | message _ hmsg => exact absurd hmsg hcmd
  | idle hstate' => exact not_inMessage _ hstate' (by decide)
  | broken hstate' => exact not_inMessage _ hstate' (by decide)

theorem not_inMessage_of_packet_none {b : UInt8} (hu50 : s.lonUsbIfaceType = .u50)
    (h : s.packet? b = none) (hout : ¬s.InMessage) (now : OsalTickCount) (last : Bool) :
    ¬(s.processUplinkByte now last b).1.InMessage := by
  unfold processUplinkByte
  cases hstate : s.uplinkState with
  | idle =>
    dsimp only
    unfold idleByte
    split
    case isTrue => exact not_inMessage .frameCode rfl (by decide)
    case isFalse => exact not_inMessage .idle hstate (by decide)
  | frameCode =>
    dsimp only
    rw [frameCodeByte_u50 hu50]
    exact not_inMessage .frameParameter rfl (by decide)
  | frameParameter => exact not_inMessage .codePacketChecksum rfl (by decide)
  | codePacketChecksum =>
    by_cases hvalid : validateChecksum (s.completedHeader b).toList = true
    case pos =>
      refine not_inMessage_shortNiCmd hstate (fun hcmd => ?_) now
      rw [packet?, if_pos ⟨hstate, hvalid, by rw [hcmd]; decide⟩] at h
      cases h
    case neg =>
      refine not_inMessage .idle ?_ (by decide)
      exact congrArg (fun r : Outcome => r.1.uplinkState) (if_neg hvalid)
  | message => exact absurd (.inl hstate) hout
  | escapedData => exact absurd (.inr hstate) hout

theorem entering_of_not_inMessage {b : UInt8} (h : s.packet? b = none) (hout : ¬s.InMessage) :
    s.entering b = none := by
  unfold entering
  cases hstate : s.uplinkState with
  | idle | frameCode | frameParameter => rfl
  | codePacketChecksum =>
    refine if_neg fun hc => ?_
    rw [packet?, if_pos ⟨hstate, hc.1, by rw [hc.2.1]; decide⟩] at h
    cases h
  | message => exact absurd (.inl hstate) hout
  | escapedData => exact absurd (.inr hstate) hout

theorem checked_of_entering {b : UInt8} {e : LonUsbQueueBuffer} (h : s.entering b = some e)
    (hmsg : s.InMessage) : ∃ t, s.checked b = some t ∧ t.accepting = some e := by
  unfold entering at h
  unfold checked
  cases hmsg with
  | inl hstate =>
    simp only [hstate] at h ⊢
    split at h
    case isTrue => cases h
    case isFalse hb => exact ⟨_, if_neg hb, h⟩
  | inr hstate =>
    simp only [hstate] at h ⊢
    split at h
    case isFalse => cases h
    case isTrue hb => exact ⟨_, if_pos hb, h⟩

theorem not_inMessage_of_entering {b : UInt8} {e : LonUsbQueueBuffer} (h : s.entering b = some e)
    (hmsg : s.InMessage) (now : OsalTickCount) (last : Bool) :
    ¬(s.processUplinkByte now last b).1.InMessage := by
  have hend {t : LonUsbLinkState} (ha : t.accepting = some e) :
      t.checkUplinkCompleted = (t.finish.1, t.finish.2, true) :=
    checkUplinkCompleted_of_completed (accepting_eq_some ha).1
  unfold processUplinkByte
  unfold entering at h
  cases hmsg with
  | inl hstate =>
    simp only [hstate] at h ⊢
    split at h
    case isTrue => cases h
    case isFalse hb =>
      unfold messageByte
      dsimp only
      rw [if_neg hb, hend h]
      dsimp only
      split
      case isTrue => exact not_inMessage .idle rfl (by decide)
      case isFalse =>
        rw [Bool.true_or, if_pos rfl]
        exact not_inMessage .idle (congrArg uplinkState (if_neg fun hc => hc.1 rfl)) (by decide)
  | inr hstate =>
    simp only [hstate] at h ⊢
    split at h
    case isFalse => cases h
    case isTrue hb =>
      change ¬(s.unescape b).checkUplinkCompleted.1.InMessage
      have hunescape : s.unescape b = s.setUplinkState .message := if_pos hb
      rw [hunescape, hend ((accepting_setUplinkState .message).trans h)]
      exact not_inMessage .idle rfl (by decide)

end LonUsbLinkState

def packets (h : LinkHistory) : List LonFrameHeader :=
  h.filterMap fun x => x.2.byte?.bind x.1.packet?

def entered (h : LinkHistory) : List LonUsbQueueBuffer :=
  h.filterMap fun x => x.2.byte?.bind x.1.entering

def Repeats (n : UInt8) (h : LinkHistory) : Prop :=
  ∀ p ∈ packets h, (p.cmd = MSG_FRAME_CMD ∨ p.cmd = SHORT_NI_CMD_FRAME_CMD) ∧ p.seq = n

/-- A message that is neither filtered nor too long comes whole, after two code packets at least. -/
def RepeatsMessage (h : LinkHistory) (s : LonUsbLinkState) (b : UInt8) : Prop :=
  2 ≤ (packets h).length ∧ ∃ t ∈ s.checked b, t.Completed ∧ t.Acceptable

instance (h : LinkHistory) (s : LonUsbLinkState) (b : UInt8) : Decidable (RepeatsMessage h s b) :=
  inferInstanceAs (Decidable (_ ∧ ∃ t ∈ s.checked b, t.Completed ∧ t.Acceptable))

/-- A step at which a repeated message comes, or that starts the numbers anew. -/
def Forgets (h : LinkHistory) (x : LonUsbLinkState × LinkEvent) : Prop :=
  match x.2 with
  | .processUplinkByte a => RepeatsMessage h x.1 a.byte
  | .processDownlinkRequests now => x.1.SendsResync now
  | _ => False

instance (h : LinkHistory) : DecidablePred (Forgets h)
  | (s, .processUplinkByte a) => inferInstanceAs (Decidable (RepeatsMessage h s a.byte))
  | (s, .processDownlinkRequests now) => inferInstanceAs (Decidable (s.SendsResync now))
  | (_, .writeLonUsbMsg _) | (_, .readUplinkBuffer) | (_, .setRing _) => .isFalse id

def Remembers : LinkHistory → Prop
  | [] => True
  | x :: h => ¬Forgets h x ∧ Remembers h

instance instDecidableRemembers (h : LinkHistory) : Decidable (Remembers h) :=
  match h with
  | [] => .isTrue trivial
  | x :: h =>
    have := instDecidableRemembers h
    inferInstanceAs (Decidable (¬Forgets h x ∧ Remembers h))

theorem seqNumber_linkStep {h : LinkHistory} {s : LonUsbLinkState} {e : LinkEvent}
    (he : e.byte? = none) (hforgets : ¬Forgets h (s, e)) : (linkStep e s).uplinkSeqNumber = s.uplinkSeqNumber := by
  cases e with
  | writeLonUsbMsg f => exact congrArg UplinkView.uplinkSeqNumber (s.uplinkView_writeLonUsbMsg f)
  | processDownlinkRequests now =>
    cases s.uplinkView_processDownlinkRequests now with
    | inl hkeeps =>
      exact hkeeps.elim (congrArg UplinkView.uplinkSeqNumber ·)
        (congrArg UplinkView.uplinkSeqNumber ·)
    | inr hresync => exact absurd hresync.1 hforgets
  | processUplinkByte x => exact absurd he (Option.some_ne_none _)
  | readUplinkBuffer =>
    change s.readUplinkBuffer.1.uplinkSeqNumber = _
    unfold LonUsbLinkState.readUplinkBuffer
    split <;> split <;> rfl
  | setRing bytes => rfl

structure Once (n : UInt8) (h : LinkHistory) (t : LonUsbLinkState) : Prop where
  shutdown : t.shutdown = false
  u50 : t.lonUsbIfaceType = .u50
  fresh : packets h = [] → entered h = [] ∧ ¬t.InMessage
  number : packets h ≠ [] → t.uplinkSeqNumber = n.toNat
  flag : packets h ≠ [] → ¬t.InMessage → t.uplinkDuplicate = false
  once : (entered h).length ≤ 1
  again : t.InMessage → entered h = [] ∨ 2 ≤ (packets h).length

section Once

variable {n : UInt8} {h : LinkHistory} {t : LonUsbLinkState}

theorem packets_cons (t : LonUsbLinkState) (x : Arrival) (h : LinkHistory) :
    packets ((t, .processUplinkByte x) :: h) = (t.packet? x.byte).toList ++ packets h := by
  cases hp : t.packet? x.byte with
  | none => exact List.filterMap_cons_none hp
  | some p => exact List.filterMap_cons_some hp

theorem entered_cons (t : LonUsbLinkState) (x : Arrival) (h : LinkHistory) :
    entered ((t, .processUplinkByte x) :: h) = (t.entering x.byte).toList ++ entered h := by
  cases he : t.entering x.byte with
  | none => exact List.filterMap_cons_none he
  | some e => exact List.filterMap_cons_some he

theorem packets_of_not_byte {e : LinkEvent} (he : e.byte? = none) :
    packets ((t, e) :: h) = packets h :=
  List.filterMap_cons_none (congrArg (Option.bind · t.packet?) he)

theorem entered_of_not_byte {e : LinkEvent} (he : e.byte? = none) :
    entered ((t, e) :: h) = entered h :=
  List.filterMap_cons_none (congrArg (Option.bind · t.entering) he)

theorem Once.of_not_byte (ho : Once n h t) {e : LinkEvent} (he : e.byte? = none)
    (hforgets : ¬Forgets h (t, e)) : Once n ((t, e) :: h) (linkStep e t) := by
  have hkeeps := t.keepsParser_linkStep he
  have hmessage (hm : (linkStep e t).InMessage) : t.InMessage := by
    cases hkeeps.parser with
    | inl hsame =>
      rw [LonUsbLinkState.InMessage, hsame.1] at hm
      exact hm
    | inr hreset => exact absurd hm (LonUsbLinkState.not_inMessage .idle hreset.1 (by decide))
  have hflag (hm : ¬(linkStep e t).InMessage) (hd : ¬t.InMessage → t.uplinkDuplicate = false) :
      (linkStep e t).uplinkDuplicate = false := by
    cases hkeeps.parser with
    | inl hsame =>
      rw [LonUsbLinkState.InMessage, hsame.1] at hm
      rw [hsame.2.2.2]
      exact hd hm
    | inr hreset => exact hreset.2.2
  exact
    { shutdown := hkeeps.shutdown.trans ho.shutdown
      u50 := hkeeps.ifaceType.trans ho.u50
      fresh := fun hp => by
        rw [packets_of_not_byte he] at hp
        rw [entered_of_not_byte he]
        exact ⟨(ho.fresh hp).1, fun hm => (ho.fresh hp).2 (hmessage hm)⟩
      number := fun hp => by
        rw [packets_of_not_byte he] at hp
        rw [seqNumber_linkStep he hforgets]
        exact ho.number hp
      flag := fun hp hm => by
        rw [packets_of_not_byte he] at hp
        exact hflag hm (ho.flag hp)
      once := by
        rw [entered_of_not_byte he]
        exact ho.once
      again := fun hm => by
        rw [entered_of_not_byte he, packets_of_not_byte he]
        exact ho.again (hmessage hm) }

theorem Once.of_packet_none (ho : Once n h t) (x : Arrival) (hp : t.packet? x.byte = none)
    (hforgets : ¬Forgets h (t, .processUplinkByte x)) :
    Once n ((t, .processUplinkByte x) :: h) (t.processUplinkByte x.now x.last x.byte).1 := by
  obtain ⟨hkeeps, hout⟩ := t.keepsNumber_of_packet_none hp x.now x.last
  have hup := t.uplinks_processUplinkByte x.now x.last x.byte
  have hpackets : packets ((t, .processUplinkByte x) :: h) = packets h := by
    rw [packets_cons, hp]
    rfl
  by_cases hm : t.InMessage
  case neg =>
    have hentered : entered ((t, .processUplinkByte x) :: h) = entered h := by
      rw [entered_cons, LonUsbLinkState.entering_of_not_inMessage hp hm]
      rfl
    have hm' := LonUsbLinkState.not_inMessage_of_packet_none ho.u50 hp hm x.now x.last
    exact
      { shutdown := hup.shutdown.trans ho.shutdown
        u50 := hup.ifaceType.trans ho.u50
        fresh := by
          rw [hpackets, hentered]
          exact fun hp' => ⟨(ho.fresh hp').1, hm'⟩
        number := by
          rw [hpackets, hkeeps.number]
          exact ho.number
        flag := by
          rw [hpackets, hout hm]
          exact fun hp' _ => ho.flag hp' hm
        once := by
          rw [hentered]
          exact ho.once
        again := fun h => absurd h hm' }
  case pos =>
    have hne : packets h ≠ [] := fun hp' => (ho.fresh hp').2 hm
    refine
      { shutdown := hup.shutdown.trans ho.shutdown
        u50 := hup.ifaceType.trans ho.u50
        fresh := by
          rw [hpackets]
          exact fun hp' => absurd hp' hne
        number := by
          rw [hpackets, hkeeps.number]
          exact ho.number
        flag := fun _ hm' => hkeeps.after hm hm'
        once := ?_
        again := ?_ }
    · rw [entered_cons]
      cases he : t.entering x.byte with
      | none => exact ho.once
      | some e =>
        obtain ⟨u, hchecked, hu⟩ := LonUsbLinkState.checked_of_entering he hm
        have hempty := (ho.again hm).resolve_right fun htwo =>
          hforgets ⟨htwo, u, hchecked, (LonUsbLinkState.accepting_eq_some hu).1,
            LonUsbLinkState.acceptable_of_accepting hu⟩
        rw [hempty]
        exact Nat.le_refl 1
    · intro hm'
      rw [hpackets, entered_cons]
      cases he : t.entering x.byte with
      | none => exact ho.again hm
      | some e =>
        exact absurd hm' (LonUsbLinkState.not_inMessage_of_entering he hm x.now x.last)

theorem Once.of_message (ho : Once n h t) (x : Arrival)
    (hp : t.packet? x.byte = some (t.completedHeader x.byte))
    (hcmd : (t.completedHeader x.byte).cmd = MSG_FRAME_CMD)
    (hseq : (t.completedHeader x.byte).seq = n) :
    Once n ((t, .processUplinkByte x) :: h) (t.processUplinkByte x.now x.last x.byte).1 := by
  obtain ⟨hstate, hvalid, hnull, -⟩ := LonUsbLinkState.packet?_eq_some hp
  have hup := t.uplinks_processUplinkByte x.now x.last x.byte
  have hbyte : t.processUplinkByte x.now x.last x.byte = t.codePacketChecksumByte x.now x.byte := by
    unfold LonUsbLinkState.processUplinkByte
    simp only [hstate]
  have hnumber := LonUsbLinkState.number_codePacketChecksumByte hvalid x.now
  rw [LonUsbLinkState.packetHandled_message hcmd] at hnumber
  have hentered : entered ((t, .processUplinkByte x) :: h) = entered h := by
    have hentering : t.entering x.byte = none := by
      unfold LonUsbLinkState.entering
      simp only [hstate]
      exact if_neg fun hc => absurd (hcmd.symm.trans hc.2.1) (by decide)
    rw [entered_cons, hentering]
    rfl
  have hmessage : (t.processUplinkByte x.now x.last x.byte).1.InMessage := by
    obtain ⟨hstatus, hbuffer, -⟩ := LonUsbLinkState.processUplinkCodePacket_message
      (s := t.setFrameHeader (t.completedHeader x.byte)) hcmd x.now
    have hheader : ((t.setFrameHeader (t.completedHeader x.byte)).processUplinkCodePacket
        x.now).1.uplinkBuffer.frameHeader.cmd = MSG_FRAME_CMD := by
      rw [hbuffer]
      exact hcmd
    rw [hbyte]
    exact .inl (congrArg (fun r : Outcome => r.1.uplinkState)
      ((if_pos hvalid).trans ((if_pos hstatus).trans (if_pos hheader))))
  rw [hbyte] at hup hmessage ⊢
  exact
    { shutdown := hup.shutdown.trans ho.shutdown
      u50 := hup.ifaceType.trans ho.u50
      fresh := fun hempty => by
        rw [packets_cons, hp] at hempty
        exact absurd hempty (List.cons_ne_nil _ _)
      number := fun _ => by
        rw [← hseq]
        exact hnumber.1.trans (LonUsbLinkState.seqNumber_packetReceived hnull)
      flag := fun _ hm => absurd hmessage hm
      once := by
        rw [hentered]
        exact ho.once
      again := fun _ => by
        rw [hentered, packets_cons, hp]
        by_cases hempty : packets h = []
        case pos => exact .inl (ho.fresh hempty).1
        case neg => exact .inr (Nat.succ_le_succ (List.length_pos_of_ne_nil hempty)) }

theorem Once.of_short (ho : Once n h t) (x : Arrival)
    (hp : t.packet? x.byte = some (t.completedHeader x.byte))
    (hcmd : (t.completedHeader x.byte).cmd = SHORT_NI_CMD_FRAME_CMD)
    (hseq : (t.completedHeader x.byte).seq = n) :
    Once n ((t, .processUplinkByte x) :: h) (t.processUplinkByte x.now x.last x.byte).1 := by
  obtain ⟨hstate, hvalid, hnull, -⟩ := LonUsbLinkState.packet?_eq_some hp
  have hup := t.uplinks_processUplinkByte x.now x.last x.byte
  have hbyte : t.processUplinkByte x.now x.last x.byte = t.codePacketChecksumByte x.now x.byte := by
    unfold LonUsbLinkState.processUplinkByte
    simp only [hstate]
  have hnumber := LonUsbLinkState.number_codePacketChecksumByte hvalid x.now
  have hshort := LonUsbLinkState.number_shortNiCmdCodePacket (s := t.packetReceived x.byte)
    (t.completedHeader x.byte).parameter (t.completedHeader x.byte).seq
  rw [LonUsbLinkState.packetHandled_short hcmd] at hnumber
  have hout : ¬(t.codePacketChecksumByte x.now x.byte).1.InMessage :=
    LonUsbLinkState.not_inMessage_shortNiCmd hstate (by rw [hcmd]; decide) x.now
  rw [hbyte] at hup ⊢
  exact
    { shutdown := hup.shutdown.trans ho.shutdown
      u50 := hup.ifaceType.trans ho.u50
      fresh := fun hempty => by
        rw [packets_cons, hp] at hempty
        exact absurd hempty (List.cons_ne_nil _ _)
      number := fun _ => by
        rw [← hseq]
        exact hnumber.1.trans (hshort.1.trans (LonUsbLinkState.seqNumber_packetReceived hnull))
      flag := fun _ _ => hnumber.2.trans hshort.2
      once := by
        rw [entered_cons]
        by_cases hempty : packets h = []
        case pos =>
          rw [(ho.fresh hempty).1, List.append_nil]
          exact Option.length_toList_le
        case neg =>
          have hduplicate : (t.packetReceived x.byte).uplinkDuplicate = true := by
            rw [LonUsbLinkState.duplicate_packetReceived hnull, decide_eq_true
              ⟨(ho.number hempty).trans (by rw [hseq]), by rw [hcmd]; decide⟩, Bool.or_true]
          have hentering : t.entering x.byte = none := by
            unfold LonUsbLinkState.entering
            simp only [hstate]
            exact if_neg fun hc => absurd (hduplicate.symm.trans hc.2.2.1) (by decide)
          rw [hentering]
          exact ho.once
      again := fun hm => absurd hm hout }

theorem once_linkStep {e : LinkEvent} (ho : Once n h t) (hrepeats : Repeats n ((t, e) :: h))
    (hforgets : ¬Forgets h (t, e)) : Once n ((t, e) :: h) (linkStep e t) := by
  cases he : e.byte? with
  | none => exact ho.of_not_byte he hforgets
  | some b =>
    cases e with
    | writeLonUsbMsg | processDownlinkRequests | readUplinkBuffer | setRing => cases he
    | processUplinkByte x =>
      have hstep : linkStep (.processUplinkByte x) t =
          (t.processUplinkByte x.now x.last x.byte).1 := if_neg (by rw [ho.shutdown]; decide)
      rw [hstep]
      cases hp : t.packet? x.byte with
      | none => exact ho.of_packet_none x hp hforgets
      | some header =>
        obtain ⟨-, -, -, rfl⟩ := LonUsbLinkState.packet?_eq_some hp
        have hheader := hrepeats (t.completedHeader x.byte) (by
          rw [packets_cons, hp]
          exact List.mem_cons_self)
        cases hheader.1 with
        | inl hmsg => exact ho.of_message x hp hmsg hheader.2
        | inr hshort => exact ho.of_short x hp hshort hheader.2

theorem once_run {s : LonUsbLinkState} (hs : s.ParserIdle) (hrun : LinkRun s h t)
    (hrepeats : Repeats n h) (hremembers : Remembers h) : Once n h t := by
  induction hrun with
  | refl =>
    have hout := LonUsbLinkState.not_inMessage .idle hs.idle (by decide)
    exact ⟨hs.shutdown, hs.u50, fun _ => ⟨rfl, hout⟩, fun h => absurd rfl h, fun h => absurd rfl h,
      Nat.zero_le 1, fun h => absurd h hout⟩
  | @next h t e _ ih =>
    have hrepeats' : Repeats n h := fun p hp => hrepeats p (by
      obtain ⟨x, hx, heq⟩ := List.mem_filterMap.mp hp
      exact List.mem_filterMap.mpr ⟨x, List.mem_cons_of_mem _ hx, heq⟩)
    exact once_linkStep (ih hrepeats' hremembers.2) hrepeats hremembers.1

end Once

/-- A frame that is sent again and again under one number is queued at most once, and the next
frame with another number is not taken for a duplicate. -/
structure DeliveredOnce (n : UInt8) (h : LinkHistory) (t : LonUsbLinkState) : Prop where
  once : (entered h).length ≤ 1
  next : packets h ≠ [] → ∀ b header, t.packet? b = some header → header.seq ≠ n →
    (t.packetReceived b).uplinkDuplicate = false

def repeatedCommand : List UInt8 :=
  [FRAME_SYNC, 0x26, 0x53, 0x09, FRAME_SYNC, 0x00, 0x00, 0x82, FRAME_SYNC, 0x26, 0x53, 0x09]

def repeatedMessage : List UInt8 :=
  [FRAME_SYNC, 0x22, 0x00, 0x60, 0x01, 0x22, 0xDD, FRAME_SYNC, 0x22, 0x00, 0x60, 0x01, 0x22, 0xDD]

end LonStack.LonUsb
