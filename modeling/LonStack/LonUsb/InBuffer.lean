import LonStack.LonUsb.Intact

namespace LonStack.LonUsb

open Lib

namespace LonUsbLinkState

def Oversized (t : LonUsbLinkState) : Prop :=
  t.uplinkMsgIndex = 3 ∧ t.uplinkMsgLength = EXT_LENGTH.toNat ∧
    MAX_LON_MSG_EX_LEN < t.uplinkBuffer.usbNiDataFrame.extLength

instance (t : LonUsbLinkState) : Decidable t.Oversized := inferInstanceAs (Decidable (_ ∧ _ ∧ _))

/-- The length byte of a frame that is entered does not give its length: it is 0 or becomes 0, or
it is the mark of an extended frame that is shorter than the mark. -/
def Mislabelled (t : LonUsbLinkState) : Prop :=
  t.accepting.isSome ∧
    (t.uplinkBuffer.usbNiDataFrame.shortPduLength = 0 ∨
      t.uplinkBuffer.usbNiDataFrame.niCommand = LonNiResetDeviceCmd ∨
      t.uplinkBuffer.usbNiDataFrame.shortPduLength = EXT_LENGTH ∧
        t.uplinkMsgLength < EXT_LENGTH.toNat)

instance (t : LonUsbLinkState) : Decidable t.Mislabelled := inferInstanceAs (Decidable (_ ∧ _))

def Misfits (s : LonUsbLinkState) (b : UInt8) : Prop :=
  ∃ t ∈ s.checked b, t.Oversized ∨ t.Mislabelled

/-- The bytes of PDU in the message that `b` completes, without its length, command and checksum.
A short command stands for a message without PDU, and a short error for one with four zeros. -/
def pduReceived (s : LonUsbLinkState) (b : UInt8) : Nat :=
  if s.InMessage then (s.completedMessage b).length - 3
  else if s.uplinkBuffer.frameHeader.parameter &&& 0xF0 = LonNiError then 4
  else 0

structure Bounded (s : LonUsbLinkState) (n : Nat) : Prop where
  length : 0 < n → s.uplinkMsgLength ≤ MAX_LON_MSG_EX_LEN
  index : n ≤ max 3 (s.uplinkMsgLength + 1)
  measured : 0 < n → s.uplinkBuffer.usbNiDataFrame.shortPduLength ≠ EXT_LENGTH →
    s.uplinkMsgLength = s.uplinkBuffer.usbNiDataFrame.shortPduLength.toNat

inductive InBuffer (s : LonUsbLinkState) : Prop
  | outside (hout : ¬s.InMessage) (hindex : s.uplinkMsgIndex = 0)
  | message (hstate : s.uplinkState = .message) (hbounded : s.Bounded s.uplinkMsgIndex)
  | escapedData (hstate : s.uplinkState = .escapedData) (n : Nat) (hindex : s.uplinkMsgIndex = n + 1)
      (hbounded : s.Bounded n)

variable {s t : LonUsbLinkState} {b : UInt8} {n : Nat}

theorem bounded_zero : s.Bounded 0 where
  length h := absurd h (Nat.lt_irrefl 0)
  index := Nat.zero_le _
  measured h := absurd h (Nat.lt_irrefl 0)

theorem Bounded.index_lt (h : s.Bounded n) : n < LonUsbQueueBuffer.sizeofLonNiFrame := by
  have hindex := h.index
  change n < 1282
  cases Nat.eq_zero_or_pos n with
  | inl hzero => omega
  | inr hpos =>
    have hlength := h.length hpos
    change _ ≤ 1280 at hlength
    omega

theorem Bounded.storeByte (h : s.Bounded s.uplinkMsgIndex) (b : UInt8) :
    (s.storeByte b).Bounded s.uplinkMsgIndex where
  length := h.length
  index := h.index
  measured hpos := by
    have hfirst : (s.storeByte b).uplinkBuffer.usbNiDataFrame.shortPduLength =
        s.uplinkBuffer.usbNiDataFrame.shortPduLength := Function.update_of_ne (by omega) ..
    rw [hfirst]
    exact h.measured hpos

theorem Bounded.next (h : t.Bounded n) (hindex : t.uplinkMsgIndex = n + 1) (hc : ¬t.Completed)
    (hsize : ¬t.Oversized) : (t.setMsgLength t.nextMsgLength).Bounded (n + 1) := by
  have hbyte := t.uplinkBuffer.usbNiDataFrame.shortPduLength.toNat_lt
  by_cases hfirst : t.uplinkMsgIndex = 1
  case pos =>
    have hnext : t.nextMsgLength = t.uplinkBuffer.usbNiDataFrame.shortPduLength.toNat := if_pos hfirst
    rw [hnext]
    exact
      { length := fun _ => show t.uplinkBuffer.usbNiDataFrame.shortPduLength.toNat ≤ 1280 by omega
        index := by omega
        measured := fun _ _ => rfl }
  case neg =>
    by_cases hext : t.uplinkMsgLength = EXT_LENGTH.toNat ∧ t.uplinkMsgIndex = 3
    case pos =>
      have hnext : t.nextMsgLength = t.uplinkBuffer.usbNiDataFrame.extLength := by
        rw [nextMsgLength, if_neg hfirst, if_pos hext]
      rw [hnext]
      exact
        { length := fun _ => Nat.le_of_not_lt fun hlong => hsize ⟨hext.2, hext.1, hlong⟩
          index := by omega
          measured := fun _ hshort => by
            have hlength := h.measured (by omega) hshort
            exact absurd (UInt8.toNat_inj.mp (hlength.symm.trans hext.1)) hshort }
    case neg =>
      have hnext : t.nextMsgLength = t.uplinkMsgLength := by
        rw [nextMsgLength, if_neg hfirst, if_neg hext]
      have hlength : t.uplinkMsgIndex ≤ t.uplinkMsgLength + 1 :=
        Nat.le_of_not_lt fun hlong => hc ⟨by omega, hext, hlong⟩
      rw [hnext]
      exact
        { length := fun _ => h.length (by omega)
          index := show _ ≤ max 3 (t.uplinkMsgLength + 1) by omega
          measured := fun _ => h.measured (by omega) }

theorem inBuffer_idle (hstate : s.uplinkState = .idle) (hindex : s.uplinkMsgIndex = 0) :
    s.InBuffer :=
  .outside (not_inMessage .idle hstate (by decide)) hindex

theorem inBuffer_checkUplinkCompleted (hstate : t.uplinkState = .message)
    (hindex : t.uplinkMsgIndex = n + 1) (h : t.Bounded n) (hsize : ¬t.Oversized) :
    t.checkUplinkCompleted.1.InBuffer := by
  by_cases hc : t.Completed
  case pos =>
    rw [checkUplinkCompleted_of_completed hc]
    exact inBuffer_idle rfl rfl
  case neg =>
    have hnext := h.next hindex hc hsize
    rw [checkUplinkCompleted_of_not hc]
    rw [← hindex] at hnext
    exact .message hstate hnext

theorem InBuffer.checkMsgTimer (h : s.InBuffer) (now : OsalTickCount) :
    (s.checkMsgTimer now).InBuffer := by
  unfold LonUsbLinkState.checkMsgTimer
  split
  case isTrue => exact inBuffer_idle rfl rfl
  case isFalse => exact h

theorem inBuffer_messageByte (hstate : s.uplinkState = .message)
    (h : s.Bounded s.uplinkMsgIndex) (hfits : ¬s.Misfits b) (now : OsalTickCount) (last : Bool) :
    (s.messageByte now last b).1.InBuffer := by
  unfold messageByte
  dsimp only
  split
  case isTrue =>
    obtain ⟨hlength, hindex, hmeasured⟩ := h.storeByte b
    have hescaped : ((s.storeByte b).setUplinkState .escapedData).InBuffer :=
      .escapedData rfl s.uplinkMsgIndex rfl ⟨hlength, hindex, hmeasured⟩
    exact hescaped.checkMsgTimer now
  case isFalse hb =>
    have hchecked : s.checked b = some (s.storeByte b) := by
      unfold checked
      simp only [hstate]
      exact if_neg hb
    have hcheck : (s.storeByte b).checkUplinkCompleted.1.InBuffer :=
      inBuffer_checkUplinkCompleted hstate rfl (h.storeByte b) fun hsize =>
        hfits ⟨_, hchecked, .inl hsize⟩
    generalize (s.storeByte b).checkUplinkCompleted = c at hcheck ⊢
    obtain ⟨t, status, completed⟩ := c
    dsimp only
    split
    case isTrue => exact hcheck
    case isFalse =>
      split
      case isTrue => exact hcheck.checkMsgTimer now
      case isFalse => exact hcheck

theorem inBuffer_escapedDataByte (hstate : s.uplinkState = .escapedData)
    (hindex : s.uplinkMsgIndex = n + 1) (h : s.Bounded n) (hfits : ¬s.Misfits b) :
    (s.escapedDataByte b).1.InBuffer := by
  change (s.unescape b).checkUplinkCompleted.1.InBuffer
  unfold unescape
  dsimp only
  split
  case isTrue hb =>
    have hchecked : s.checked b = some s := by
      unfold checked
      simp only [hstate]
      exact if_pos hb
    have hbounded : (s.setUplinkState .message).Bounded n := ⟨h.length, h.index, h.measured⟩
    exact inBuffer_checkUplinkCompleted rfl hindex hbounded fun hsize =>
      hfits ⟨s, hchecked, .inl hsize⟩
  case isFalse =>
    split
    case isTrue =>
      rw [checkUplinkCompleted_of_not fun hc => absurd hc.1 (Nat.not_lt_zero 1)]
      exact .message rfl bounded_zero
    case isFalse =>
      rw [checkUplinkCompleted_of_not fun hc => absurd hc.1 (Nat.not_lt_zero 1)]
      exact inBuffer_idle rfl rfl

theorem inBuffer_idleByte (h : ¬s.InMessage) (hindex : s.uplinkMsgIndex = 0) (b : UInt8) :
    (s.idleByte b).InBuffer := by
  unfold idleByte
  split
  case isTrue => exact .outside (not_inMessage .frameCode rfl (by decide)) hindex
  case isFalse => exact .outside h hindex

theorem inBuffer_frameCodeByte (hindex : s.uplinkMsgIndex = 0) (now : OsalTickCount) (b : UInt8) :
    (s.frameCodeByte now b).InBuffer := by
  unfold frameCodeByte
  dsimp only
  split
  case isTrue => exact .outside (not_inMessage .frameParameter rfl (by decide)) hindex
  case isFalse =>
    split
    case isTrue =>
      have hbounded : (s.startMessage now).Bounded (s.startMessage now).uplinkMsgIndex := by
        change Bounded _ s.uplinkMsgIndex
        rw [hindex]
        exact bounded_zero
      exact .message rfl hbounded
    case isFalse =>
      have hidle : ¬((s.setUplinkState .idle).setUplinkFrameError true).InMessage :=
        not_inMessage .idle rfl (by decide)
      exact inBuffer_idleByte hidle hindex b

theorem inBuffer_codePacketChecksumByte (hstate : s.uplinkState = .codePacketChecksum)
    (hindex : s.uplinkMsgIndex = 0) (now : OsalTickCount) (b : UInt8) :
    (s.codePacketChecksumByte now b).1.InBuffer := by
  have hindex' := keepsIndex_codePacketChecksumByte now b hindex
  cases packetEnd_codePacketChecksumByte hstate now b with
  | message hstate' =>
    refine .message hstate' ?_
    rw [hindex']
    exact bounded_zero
  | idle hstate' => exact inBuffer_idle hstate' hindex'
  | broken hstate' =>
    exact .outside (not_inMessage .codePacketChecksum hstate' (by decide)) hindex'

theorem InBuffer.processUplinkByte (h : s.InBuffer) (hfits : ¬s.Misfits b) (now : OsalTickCount)
    (last : Bool) : (s.processUplinkByte now last b).1.InBuffer := by
  unfold LonUsbLinkState.processUplinkByte
  cases h with
  | message hstate hbounded =>
    simp only [hstate]
    exact inBuffer_messageByte hstate hbounded hfits now last
  | escapedData hstate n hindex hbounded =>
    simp only [hstate]
    exact inBuffer_escapedDataByte hstate hindex hbounded hfits
  | outside hout hindex =>
    cases hstate : s.uplinkState with
    | idle => exact inBuffer_idleByte hout hindex b
    | frameCode => exact inBuffer_frameCodeByte hindex now b
    | frameParameter => exact .outside (not_inMessage .codePacketChecksum rfl (by decide)) hindex
    | codePacketChecksum => exact inBuffer_codePacketChecksumByte hstate hindex now b
    | message => exact absurd (.inl hstate) hout
    | escapedData => exact absurd (.inr hstate) hout

theorem InBuffer.keepsParser (h : s.InBuffer) (hkeeps : s.KeepsParser t) : t.InBuffer := by
  cases hkeeps.parser with
  | inr hreset => exact inBuffer_idle hreset.1 hreset.2.1
  | inl hsame =>
    obtain ⟨hstate, hindex, hlength, -⟩ := hsame
    have hbounded {n : Nat} (h : s.Bounded n) : t.Bounded n := by
      obtain ⟨hl, hi, hm⟩ := h
      rw [← hlength] at hl hi hm
      rw [← hkeeps.buffer] at hm
      exact ⟨hl, hi, hm⟩
    cases h with
    | outside hout hi =>
      refine .outside (fun hm => hout ?_) (hindex.trans hi)
      rw [InMessage, hstate] at hm
      exact hm
    | message h hb =>
      rw [← hindex] at hb
      exact .message (hstate.trans h) (hbounded hb)
    | escapedData h n hi hb => exact .escapedData (hstate.trans h) n (hindex.trans hi) (hbounded hb)

def Fits (s : LonUsbLinkState) (b : UInt8) (e : LonUsbQueueBuffer) : Prop :=
  e.usbNiDataFrame.shortPduLength ≠ 0 ∧
    e.usbNiDataFrame.shortPduLength.toNat ≤ s.pduReceived b + 1

theorem length_of_accepting {e : LonUsbQueueBuffer} (h : t.accepting = some e)
    (hlabel : ¬t.Mislabelled) (hbounded : t.Bounded n) (hindex : t.uplinkMsgIndex = n + 1) :
    e.usbNiDataFrame.shortPduLength ≠ 0 ∧
      e.usbNiDataFrame.shortPduLength.toNat + 2 ≤ t.uplinkMsgIndex := by
  obtain ⟨hcompleted, hentry⟩ := accepting_eq_some h
  have hsome := Option.isSome_of_eq_some h
  have hreset : t.uplinkBuffer.usbNiDataFrame.niCommand ≠ LonNiResetDeviceCmd := fun hreset =>
    hlabel ⟨hsome, .inr (.inl hreset)⟩
  rw [handleNiCommand, if_neg hreset] at hentry
  subst hentry
  refine ⟨fun hzero => hlabel ⟨hsome, .inl hzero⟩, ?_⟩
  have hlast := hcompleted.2.2
  by_cases hext : t.uplinkBuffer.usbNiDataFrame.shortPduLength = EXT_LENGTH
  case pos =>
    have hlong : EXT_LENGTH.toNat ≤ t.uplinkMsgLength :=
      Nat.le_of_not_lt fun hshort => hlabel ⟨hsome, .inr (.inr ⟨hext, hshort⟩)⟩
    rw [hext]
    omega
  case neg =>
    have hpos := hcompleted.1
    rw [hbounded.measured (by omega) hext] at hlast
    omega

theorem fits_shortEntering {e : LonUsbQueueBuffer} (hout : ¬s.InMessage)
    (h : s.shortEntering b = some e) : s.Fits b e := by
  have hpdu : s.pduReceived b =
      if s.uplinkBuffer.frameHeader.parameter &&& 0xF0 = LonNiError then 4 else 0 := if_neg hout
  unfold shortEntering at h
  dsimp only at h
  split at h
  case isFalse => cases h
  case isTrue =>
    rw [Fits, hpdu, queueing_eq_some h]
    unfold storeShortNiCmd
    dsimp only
    split
    case isTrue => exact ⟨show (5 : UInt8) ≠ 0 by decide, Nat.le_refl 5⟩
    case isFalse => exact ⟨show (1 : UInt8) ≠ 0 by decide, Nat.le_refl 1⟩

theorem fits_entering {e : LonUsbQueueBuffer} (h : s.InBuffer) (hfits : ¬s.Misfits b)
    (he : s.entering b = some e) : s.Fits b e := by
  cases h with
  | message hstate hbounded =>
    have hpdu : s.pduReceived b = s.uplinkMsgIndex + 1 - 3 := by
      rw [pduReceived, if_pos (.inl hstate), completedMessage, if_neg (by rw [hstate]; decide),
        List.length_append, received, Image.length_bytes]
      rfl
    unfold entering at he
    simp only [hstate] at he
    split at he
    case isTrue => cases he
    case isFalse hb =>
      have hchecked : s.checked b = some (s.storeByte b) := by
        unfold checked
        simp only [hstate]
        exact if_neg hb
      obtain ⟨hne, hlength⟩ := length_of_accepting he (fun hl => hfits ⟨_, hchecked, .inr hl⟩)
        (hbounded.storeByte b) rfl
      change _ ≤ s.uplinkMsgIndex + 1 at hlength
      exact ⟨hne, by omega⟩
  | escapedData hstate n hindex hbounded =>
    have hpdu : s.pduReceived b = s.uplinkMsgIndex - 3 := by
      rw [pduReceived, if_pos (.inr hstate), completedMessage, if_pos hstate, received,
        Image.length_bytes]
    unfold entering at he
    simp only [hstate] at he
    split at he
    case isFalse => cases he
    case isTrue hb =>
      have hchecked : s.checked b = some s := by
        unfold checked
        simp only [hstate]
        exact if_pos hb
      obtain ⟨hne, hlength⟩ := length_of_accepting he (fun hl => hfits ⟨_, hchecked, .inr hl⟩)
        hbounded hindex
      exact ⟨hne, by omega⟩
  | outside hout hindex =>
    unfold entering at he
    cases hstate : s.uplinkState with
    | idle | frameCode | frameParameter =>
      rw [hstate] at he
      cases he
    | codePacketChecksum =>
      rw [hstate] at he
      exact fits_shortEntering hout he
    | message => exact absurd (.inl hstate) hout
    | escapedData => exact absurd (.inr hstate) hout

def queued (s : LonUsbLinkState) : List LonUsbQueueBuffer :=
  s.lonUsbUplinkNormalQueue.toList ++ s.lonUsbUplinkPriorityQueue.toList

theorem queued_of_view (h : t.uplinkView = s.uplinkView ∨ t.uplinkView = s.uplinkView.reset ∨
    t.uplinkView = s.uplinkView.resync) : t.queued = s.queued := by
  obtain h | h | h := h <;>
    exact congrArg (fun v : UplinkView =>
      v.lonUsbUplinkNormalQueue.toList ++ v.lonUsbUplinkPriorityQueue.toList) h

theorem queued_readUplinkBuffer {e : LonUsbQueueBuffer} (he : e ∈ s.readUplinkBuffer.1.queued) :
    e ∈ s.queued := by
  unfold readUplinkBuffer at he
  split at he
  case isTrue =>
    split at he
    case h_1 => exact he
    case h_2 =>
      refine (List.mem_append.mp he).elim (fun h => ?_) (List.mem_append_right _)
      exact List.mem_append_left _ (Queue.mem_of_mem_dropHead h)
  case isFalse =>
    split at he
    case h_1 => exact he
    case h_2 =>
      refine (List.mem_append.mp he).elim (List.mem_append_left _) fun h => ?_
      exact List.mem_append_right _ (Queue.mem_of_mem_dropHead h)

theorem mem_queued_of_read {e : LonUsbQueueBuffer} (h : s.readUplinkBuffer.2 = some e) :
    e ∈ s.queued := by
  have hpeek (q : Queue LonUsbQueueBuffer) {e : LonUsbQueueBuffer} (hq : q.peek = some e) :
      e ∈ q.toList := by
    rw [Queue.peek_eq_head?] at hq
    exact List.mem_of_head? hq
  unfold readUplinkBuffer at h
  split at h
  case isTrue =>
    split at h
    case h_1 => cases h
    case h_2 hq =>
      cases h
      exact List.mem_append_left _ (hpeek _ hq)
  case isFalse =>
    split at h
    case h_1 => cases h
    case h_2 hq =>
      cases h
      exact List.mem_append_right _ (hpeek _ hq)

theorem queued_linkStep {e : LinkEvent} (he : e.byte? = none) {e' : LonUsbQueueBuffer}
    (he' : e' ∈ (linkStep e s).queued) : e' ∈ s.queued := by
  cases e with
  | writeLonUsbMsg f =>
    rw [← queued_of_view (.inl (s.uplinkView_writeLonUsbMsg f))]
    exact he'
  | processDownlinkRequests now =>
    have hview : (s.processDownlinkRequests now).1.queued = s.queued := by
      cases s.uplinkView_processDownlinkRequests now with
      | inl hkeeps => exact queued_of_view (hkeeps.imp id .inl)
      | inr hresync => exact queued_of_view (.inr (.inr hresync.2))
    rw [← hview]
    exact he'
  | processUplinkByte x => exact absurd he (Option.some_ne_none _)
  | readUplinkBuffer => exact queued_readUplinkBuffer he'
  | setRing bytes => exact he'

theorem queued_processUplinkByte (hpriority : s.uplinkBuffer.priority = .normalPriority)
    (now : OsalTickCount) (last : Bool) {e : LonUsbQueueBuffer}
    (he : e ∈ (s.processUplinkByte now last b).1.queued) :
    e ∈ s.queued ∨ s.entering b = some e := by
  have hup := s.uplinks_processUplinkByte now last b
  have hnormal {u : LonUsbLinkState} (hu : u.uplinkBuffer.priority = .normalPriority) :
      u.messageEntries = u.lonUsbUplinkNormalQueue.toList := by
    rw [messageEntries, uplinkQueue, if_neg (by rw [hu]; decide)]
  have hentries := s.messageEntries_processUplinkByte now last b
  rw [hnormal hpriority, hnormal (hup.priority.trans hpriority)] at hentries
  rw [queued, hentries, hup.priorityQueue hpriority, List.mem_append, List.mem_append,
    Option.mem_toList] at he
  exact he.elim (fun h => h.imp (List.mem_append_left _) id)
    fun h => .inl (List.mem_append_right _ h)

structure NothingReceived (s : LonUsbLinkState) : Prop where
  shutdown : s.shutdown = false
  priority : s.uplinkBuffer.priority = .normalPriority
  idle : s.uplinkState = .idle
  index : s.uplinkMsgIndex = 0
  queued : s.queued = []

end LonUsbLinkState

def Entered (h : LinkHistory) (e : LonUsbQueueBuffer) : Prop :=
  ∃ u x h₁, (u, .processUplinkByte x) :: h₁ <:+ h ∧
    (u.uplinkByte x).messageEntries = u.messageEntries ++ [e] ∧ u.Fits x.byte e

theorem Entered.cons {h : LinkHistory} {e : LonUsbQueueBuffer} (he : Entered h e)
    (x : LonUsbLinkState × LinkEvent) : Entered (x :: h) e := by
  obtain ⟨u, a, h₁, hsuffix, hrest⟩ := he
  exact ⟨u, a, h₁, hsuffix.trans (List.suffix_cons x h), hrest⟩

def Missized (x : LonUsbLinkState × LinkEvent) : Prop := ∃ b ∈ x.2.byte?, x.1.Misfits b

instance (s : LonUsbLinkState) : DecidablePred s.Misfits := fun b =>
  inferInstanceAs (Decidable (∃ t ∈ s.checked b, t.Oversized ∨ t.Mislabelled))

instance : DecidablePred Missized := fun x =>
  inferInstanceAs (Decidable (∃ b ∈ x.2.byte?, x.1.Misfits b))

section Run

variable {s t : LonUsbLinkState} {h : LinkHistory}

theorem inBuffer_run (hs : s.NothingReceived) (hrun : LinkRun s h t) (hfits : ∀ x ∈ h, ¬Missized x) :
    t.shutdown = false ∧ t.uplinkBuffer.priority = .normalPriority ∧ t.InBuffer ∧
      ∀ e ∈ t.queued, Entered h e := by
  induction hrun with
  | refl =>
    refine ⟨hs.shutdown, hs.priority, .outside ?_ hs.index, fun e he => ?_⟩
    · exact LonUsbLinkState.not_inMessage _ hs.idle (by decide)
    · rw [hs.queued] at he
      cases he
  | @next h t e _ ih =>
    obtain ⟨hfit, hfits⟩ := List.forall_mem_cons.mp hfits
    obtain ⟨hshutdown, hpriority, hin, hentered⟩ := ih hfits
    cases he : e.byte? with
    | none =>
      have hkeeps := t.keepsParser_linkStep he
      refine ⟨hkeeps.shutdown.trans hshutdown, ?_, hin.keepsParser hkeeps, fun e' he' => ?_⟩
      · rw [hkeeps.buffer]
        exact hpriority
      · exact (hentered e' (LonUsbLinkState.queued_linkStep he he')).cons _
    | some b =>
      cases e with
      | writeLonUsbMsg | processDownlinkRequests | readUplinkBuffer | setRing => cases he
      | processUplinkByte x =>
        have hmisfit : ¬t.Misfits x.byte := fun hm => hfit ⟨x.byte, rfl, hm⟩
        have hstep : linkStep (.processUplinkByte x) t =
            (t.processUplinkByte x.now x.last x.byte).1 := if_neg (by rw [hshutdown]; decide)
        have hup := t.uplinks_processUplinkByte x.now x.last x.byte
        rw [hstep]
        refine ⟨hup.shutdown.trans hshutdown, hup.priority.trans hpriority,
          hin.processUplinkByte hmisfit x.now x.last, fun e' he' => ?_⟩
        cases LonUsbLinkState.queued_processUplinkByte hpriority x.now x.last he' with
        | inl hold => exact (hentered e' hold).cons _
        | inr hnew =>
          exact ⟨t, x, h, List.suffix_refl _,
            (LonUsbLinkState.entering_eq_some_iff hshutdown x).mpr hnew,
            LonUsbLinkState.fits_entering hin hmisfit hnew⟩

end Run

/-- The frame `f` comes from an entry of the run, its length is the length of the entry without
the command, and it has no more PDU than was received. -/
def Received (h : LinkHistory) (f : LonDataFrame) : Prop :=
  ∃ u x h₁ e, (u, .processUplinkByte x) :: h₁ <:+ h ∧
    (u.uplinkByte x).messageEntries = u.messageEntries ++ [e] ∧
      f = e.usbNiDataFrame.toDataFrame ∧
        f.shortPduLength.toNat + 1 = e.usbNiDataFrame.shortPduLength.toNat ∧
          f.shortPduLength.toNat ≤ u.pduReceived x.byte

structure StaysInBuffer (h : LinkHistory) : Prop where
  index : ∀ u x h₁, (u, .processUplinkByte x) :: h₁ <:+ h → u.uplinkState = .message →
    u.uplinkMsgIndex < LonUsbQueueBuffer.sizeofLonNiFrame
  frame : ∀ u h₁ f, (u, .readUplinkBuffer) :: h₁ <:+ h → u.deliver.2.2 = some f → Received h₁ f

theorem Entered.received {h : LinkHistory} {e : LonUsbQueueBuffer} (he : Entered h e) :
    Received h e.usbNiDataFrame.toDataFrame := by
  obtain ⟨u, x, h₁, hsuffix, hentries, hne, hlength⟩ := he
  have hwrap : (e.usbNiDataFrame.shortPduLength - 1).toNat + 1 =
      e.usbNiDataFrame.shortPduLength.toNat := by
    have hpos : 1 ≤ e.usbNiDataFrame.shortPduLength.toNat :=
      Nat.one_le_iff_ne_zero.mpr fun h => hne (UInt8.toNat_inj.mp h)
    have hle : (1 : UInt8) ≤ e.usbNiDataFrame.shortPduLength := UInt8.le_iff_toNat_le.mpr hpos
    rw [UInt8.toNat_sub_of_le _ _ hle]
    exact Nat.sub_add_cancel hpos
  refine ⟨u, x, h₁, e, hsuffix, hentries, rfl, hwrap, ?_⟩
  change (e.usbNiDataFrame.shortPduLength - 1).toNat ≤ _
  omega

/-- While no frame announces more than a frame has room for and the length byte of every frame
that is entered is its length, the parser stays in its buffer. -/
theorem staysInBuffer_of_not_missized {s t : LonUsbLinkState} {h : LinkHistory}
    (hs : s.NothingReceived) (hrun : LinkRun s h t) (hfits : ∀ x ∈ h, ¬Missized x) :
    StaysInBuffer h := by
  have hinv {u : LonUsbLinkState} {e : LinkEvent} {h₁ : LinkHistory} (hsuffix : (u, e) :: h₁ <:+ h) :=
    inBuffer_run hs (hrun.of_suffix hsuffix) fun x hx =>
      hfits x (hsuffix.subset (List.mem_cons_of_mem _ hx))
  constructor
  · intro u x h₁ hsuffix hstate
    obtain ⟨-, -, hin, -⟩ := hinv hsuffix
    cases hin with
    | message _ hbounded => exact hbounded.index_lt
    | outside hout => exact absurd (.inl hstate) hout
    | escapedData hescaped => exact absurd (hstate.symm.trans hescaped) (by decide)
  · intro u h₁ f hsuffix hf
    obtain ⟨-, -, -, hentered⟩ := hinv hsuffix
    have hread : ∃ e, u.readUplinkBuffer.2 = some e ∧ f = e.usbNiDataFrame.toDataFrame := by
      unfold LonUsbLinkState.deliver at hf
      generalize u.readUplinkBuffer = r at hf ⊢
      obtain ⟨v, buffer⟩ := r
      cases buffer with
      | none => cases hf
      | some e => exact ⟨e, rfl, (Option.some.inj hf).symm⟩
    obtain ⟨e, he, rfl⟩ := hread
    exact (hentered e (LonUsbLinkState.mem_queued_of_read he)).received

theorem staysInBuffer_command :
    StaysInBuffer (history linkStep openLink
      (uplinkEvents [FRAME_SYNC, 0x02, 0x00, 0x80, 0x01, 0x22, 0xDD] ++ [.readUplinkBuffer])) :=
  staysInBuffer_of_not_missized ⟨rfl, rfl, rfl, rfl, rfl⟩ (Run.history linkStep openLink _)
    (by decide)

theorem not_staysInBuffer :
    ¬∀ (s t : LonUsbLinkState) (h : LinkHistory), s.NothingReceived → LinkRun s h t →
      StaysInBuffer h := by
  intro hall
  have hstays := hall openLink _ _ ⟨rfl, rfl, rfl, rfl, rfl⟩ (Run.history linkStep openLink
    (uplinkEvents [FRAME_SYNC, 0x02, 0x00, 0x80, 0x00, 0x00] ++ [.readUplinkBuffer]))
  obtain ⟨u, x, h₁, e, -, -, -, hlength, -⟩ := hstays.frame _ _ _ (List.suffix_refl _) rfl
  have hbyte := e.usbNiDataFrame.shortPduLength.toNat_lt
  rw [← hlength] at hbyte
  exact absurd hbyte (by decide)

end LonStack.LonUsb
