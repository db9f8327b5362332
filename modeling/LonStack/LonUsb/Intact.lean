import LonStack.LonUsb.Parser

namespace LonStack.LonUsb

open Lib

def Started (bytes message : List UInt8) : Prop :=
  ∃ (earlier : List UInt8) (header : LonFrameHeader), header.frameSync = FRAME_SYNC ∧
    header.cmd = MSG_FRAME_CMD ∧ validateChecksum header.toList = true ∧
      bytes = earlier ++ header.toList ++ stuff FRAME_SYNC message

/-- A message that begins with these bytes can have `n` bytes, its length, command and checksum
among them. An extended length is read when only its high byte is there. -/
def Extent : List UInt8 → Nat → Prop
  | [], n => 2 ≤ n
  | length :: rest, n =>
    if length = EXT_LENGTH then
      4 ≤ n ∧ ∀ hi ∈ rest[1]?, ntoh16 hi 0 + 2 ≤ n ∧ n ≤ ntoh16 hi 255 + 2
    else n = length.toNat + 2

theorem extent_short {length : UInt8} {rest : List UInt8} {n : Nat} (h : length ≠ EXT_LENGTH) :
    Extent (length :: rest) n ↔ n = length.toNat + 2 := by
  rw [Extent, if_neg h]

theorem extent_extended {rest : List UInt8} {n : Nat} :
    Extent (EXT_LENGTH :: rest) n ↔
      4 ≤ n ∧ ∀ hi ∈ rest[1]?, ntoh16 hi 0 + 2 ≤ n ∧ n ≤ ntoh16 hi 255 + 2 := by
  rw [Extent, if_pos rfl]

/-- Every message among the bytes that is whole ends with the byte that its sender computed, and
none is broken off by a `FRAME_SYNC` and a 0. -/
structure Undamaged (bytes : List UInt8) : Prop where
  checksum : ∀ before message, before <+: bytes → Started before message →
    Extent message message.length → ∃ m, message = m ++ [-computeChecksum m]
  unbroken : ∀ before message n, before ++ [FRAME_SYNC, 0] <+: bytes → Started before message →
    Extent message n → n ≤ message.length

theorem Undamaged.part {bytes bytes' : List UInt8} (h : Undamaged bytes)
    (hpart : bytes' <+: bytes) : Undamaged bytes' where
  checksum before message hbefore := h.checksum before message (hbefore.trans hpart)
  unbroken before message n hbefore := h.unbroken before message n (hbefore.trans hpart)

theorem Started.append {bytes message : List UInt8} (h : Started bytes message) (m : List UInt8) :
    Started (bytes ++ stuff FRAME_SYNC m) (message ++ m) := by
  obtain ⟨earlier, header, hsync, hcmd, hvalid, rfl⟩ := h
  exact ⟨earlier, header, hsync, hcmd, hvalid, by rw [stuff_append, List.append_assoc]⟩

inductive Measured : List UInt8 → Nat → Prop
  | none (n : Nat) : Measured [] n
  | short (length : UInt8) (rest : List UInt8) (hne : length ≠ EXT_LENGTH)
      (hle : rest.length ≤ length.toNat) : Measured (length :: rest) length.toNat
  | early (rest : List UInt8) (hlt : rest.length < 2) :
      Measured (EXT_LENGTH :: rest) EXT_LENGTH.toNat
  | extended (cmd hi lo : UInt8) (rest : List UInt8)
      (hle : rest = [] ∨ rest.length + 2 ≤ ntoh16 hi lo) :
      Measured (EXT_LENGTH :: cmd :: hi :: rest) (ntoh16 hi lo)

theorem ntoh16_bounds (hi lo : UInt8) : ntoh16 hi 0 ≤ ntoh16 hi lo ∧ ntoh16 hi lo ≤ ntoh16 hi 255 := by
  have hlo := lo.toNat_lt
  unfold ntoh16
  exact ⟨Nat.add_le_add_left (Nat.zero_le _) _, Nat.add_le_add_left (Nat.le_of_lt_succ hlo) _⟩

theorem Measured.unfinished {message : List UInt8} {n : Nat} (h : Measured message n) :
    ∃ k, Extent message k ∧ message.length < k := by
  cases h with
  | none => exact ⟨2, Nat.le_refl 2, Nat.zero_lt_two⟩
  | short length rest hne hle =>
    refine ⟨length.toNat + 2, (extent_short hne).mpr rfl, ?_⟩
    rw [List.length_cons]
    omega
  | early rest hlt =>
    refine ⟨4, extent_extended.mpr ⟨Nat.le_refl 4, fun hi hhi => ?_⟩, ?_⟩
    · rw [List.getElem?_eq_none (by omega)] at hhi
      cases hhi
    · rw [List.length_cons]
      omega
  | extended cmd hi lo rest hle =>
    have hbounds := ntoh16_bounds hi lo
    have hpos : 2 ≤ ntoh16 hi 255 := by
      unfold ntoh16
      exact Nat.le_add_left_of_le (by decide)
    refine ⟨max 4 (ntoh16 hi lo + 2), extent_extended.mpr ⟨le_max_left .., fun hi' hhi => ?_⟩, ?_⟩
    · obtain rfl : hi = hi' := Option.some.inj hhi
      omega
    · rw [List.length_cons, List.length_cons, List.length_cons]
      cases hle with
      | inl hnil =>
        rw [hnil, List.length_nil]
        omega
      | inr hle => omega

namespace LonUsbLinkState

def received (s : LonUsbLinkState) : List UInt8 :=
  s.uplinkBuffer.usbNiDataFrame.image.bytes s.uplinkMsgIndex

def completedMessage (s : LonUsbLinkState) (b : UInt8) : List UInt8 :=
  if s.uplinkState = .escapedData then s.received else s.received ++ [b]

variable {s : LonUsbLinkState}

theorem received_storeByte (b : UInt8) : (s.storeByte b).received = s.received ++ [b] := by
  unfold received storeByte
  dsimp only
  rw [Image.bytes_succ, Function.update_self]
  congr 1
  exact Image.bytes_congr fun k hk => Function.update_of_ne (by omega) ..

theorem received_of_index (h : s.uplinkMsgIndex = 0) : s.received = [] := by
  rw [received, h]
  rfl

theorem index_of_received {message : List UInt8} {b : UInt8} (h : s.received = message ++ [b]) :
    s.uplinkMsgIndex = message.length + 1 := by
  rw [← Image.length_bytes s.uplinkBuffer.usbNiDataFrame.image s.uplinkMsgIndex]
  exact (congrArg List.length h).trans List.length_append

theorem whole_of_completed {message : List UInt8} {b : UInt8}
    (h : Measured message s.uplinkMsgLength) (hreceived : s.received = message ++ [b])
    (hc : s.Completed) : Extent s.received s.received.length := by
  have hindex := index_of_received hreceived
  obtain ⟨hpos, -, hlt⟩ := hc
  rw [hindex] at hpos hlt
  rw [hreceived]
  generalize s.uplinkMsgLength = n at h hlt
  cases h with
  | none => exact absurd hpos (Nat.lt_irrefl 1)
  | short length rest hne hle =>
    refine (extent_short hne).mpr ?_
    rw [List.length_cons] at hlt
    rw [List.length_append, List.length_cons, List.length_singleton]
    omega
  | early rest hearly =>
    rw [List.length_cons] at hlt
    exact absurd hlt (by change ¬255 + 1 < _; omega)
  | extended cmd hi lo rest hle =>
    have hbounds := ntoh16_bounds hi lo
    rw [List.length_cons, List.length_cons, List.length_cons] at hlt
    refine extent_extended.mpr ?_
    simp only [List.length_append, List.length_cons, List.length_nil, Nat.zero_add]
    refine ⟨by omega, fun hi' hhi => ?_⟩
    obtain rfl : hi = hi' := Option.some.inj hhi
    refine ⟨by omega, ?_⟩
    cases hle with
    | inl hnil =>
      have : 2 ≤ ntoh16 hi 255 := Nat.le_add_left_of_le (by decide)
      rw [hnil, List.length_nil]
      omega
    | inr hle => omega

theorem measured_next {message : List UInt8} {b : UInt8} (h : Measured message s.uplinkMsgLength)
    (hreceived : s.received = message ++ [b]) (hc : ¬s.Completed) :
    Measured s.received s.nextMsgLength := by
  have hindex := index_of_received hreceived
  have hbyte (k : Nat) (hk : k < s.received.length) :
      s.uplinkBuffer.usbNiDataFrame.image k = s.received[k] := (Image.getElem_bytes hk).symm
  unfold Completed at hc
  unfold nextMsgLength LonNiFrame.shortPduLength LonNiFrame.extLength
  rw [hindex] at hc ⊢
  simp only [hreceived] at hbyte ⊢
  generalize s.uplinkMsgLength = n at h hc
  cases h with
  | none =>
    rw [List.length_nil, if_pos rfl, hbyte 0 Nat.zero_lt_one]
    by_cases hb : b = EXT_LENGTH
    case pos =>
      subst hb
      exact .early [] Nat.zero_lt_two
    case neg => exact .short b [] hb (Nat.zero_le _)
  | short length rest hne hle =>
    have hext : ¬(length.toNat = EXT_LENGTH.toNat ∧ rest.length + 1 + 1 = 3) :=
      fun h => hne (UInt8.toNat_inj.mp h.1)
    rw [List.length_cons] at hc ⊢
    rw [if_neg (by omega), if_neg hext]
    refine .short length (rest ++ [b]) hne ?_
    rw [List.length_append, List.length_singleton]
    by_contra hlong
    exact hc ⟨by omega, hext, by omega⟩
  | early rest hearly =>
    cases rest with
    | nil => exact .early [b] (Nat.lt_succ_self 1)
    | cons cmd rest =>
      obtain rfl : rest = [] := List.eq_nil_of_length_eq_zero (by
        rw [List.length_cons] at hearly
        omega)
      rw [hbyte 2 (Nat.lt_succ_self 2)]
      exact .extended cmd b _ [] (.inl rfl)
  | extended cmd hi lo rest hle =>
    have hext : ¬(ntoh16 hi lo = EXT_LENGTH.toNat ∧ rest.length + 1 + 1 + 1 + 1 = 3) := by omega
    rw [List.length_cons, List.length_cons, List.length_cons] at hc ⊢
    rw [if_neg (by omega), if_neg hext]
    refine .extended cmd hi lo (rest ++ [b]) (.inr ?_)
    rw [List.length_append, List.length_singleton]
    by_contra hlong
    exact hc ⟨by omega, hext, by omega⟩

inductive Traced (bytes : List UInt8) (s : LonUsbLinkState) : Prop
  | idle (hstate : s.uplinkState = .idle) (hindex : s.uplinkMsgIndex = 0)
  | frameCode (hstate : s.uplinkState = .frameCode) (hindex : s.uplinkMsgIndex = 0)
      (hsync : s.uplinkBuffer.frameHeader.frameSync = FRAME_SYNC)
      (hbytes : ∃ earlier, bytes = earlier ++ [FRAME_SYNC])
  | frameParameter (hstate : s.uplinkState = .frameParameter) (hindex : s.uplinkMsgIndex = 0)
      (hsync : s.uplinkBuffer.frameHeader.frameSync = FRAME_SYNC)
      (hbytes : ∃ earlier, bytes = earlier ++ [FRAME_SYNC, s.uplinkBuffer.frameHeader.frameCode])
  | codePacketChecksum (hstate : s.uplinkState = .codePacketChecksum) (hindex : s.uplinkMsgIndex = 0)
      (hbytes : s.uplinkBuffer.frameHeader.cmd = MSG_FRAME_CMD →
        s.uplinkBuffer.frameHeader.frameSync = FRAME_SYNC ∧
          ∃ earlier, bytes = earlier ++ [FRAME_SYNC, s.uplinkBuffer.frameHeader.frameCode,
            s.uplinkBuffer.frameHeader.parameter])
  | message (hstate : s.uplinkState = .message) (hstarted : Started bytes s.received)
      (hmeasured : Measured s.received s.uplinkMsgLength)
  | escapedData (hstate : s.uplinkState = .escapedData) (bytes' message : List UInt8)
      (hbytes : bytes = bytes' ++ [FRAME_SYNC]) (hmessage : s.received = message ++ [FRAME_SYNC])
      (hstarted : Started bytes' message) (hmeasured : Measured message s.uplinkMsgLength)

theorem Traced.keepsParser {bytes : List UInt8} {t : LonUsbLinkState} (h : s.Traced bytes)
    (hkeeps : s.KeepsParser t) : t.Traced bytes := by
  have hbuffer := hkeeps.buffer
  cases hkeeps.parser with
  | inr hreset => exact .idle hreset.1 hreset.2.1
  | inl hsame =>
    obtain ⟨hstate, hindex, hlength, -⟩ := hsame
    have hreceived : t.received = s.received := by rw [received, received, hbuffer, hindex]
    cases h with
    | idle h hi => exact .idle (hstate.trans h) (hindex.trans hi)
    | frameCode h hi hsync hbytes =>
      rw [← hbuffer] at hsync
      exact .frameCode (hstate.trans h) (hindex.trans hi) hsync hbytes
    | frameParameter h hi hsync hbytes =>
      rw [← hbuffer] at hsync hbytes
      exact .frameParameter (hstate.trans h) (hindex.trans hi) hsync hbytes
    | codePacketChecksum h hi hbytes =>
      rw [← hbuffer] at hbytes
      exact .codePacketChecksum (hstate.trans h) (hindex.trans hi) hbytes
    | message h hstarted hmeasured =>
      rw [← hreceived] at hstarted hmeasured
      rw [← hlength] at hmeasured
      exact .message (hstate.trans h) hstarted hmeasured
    | escapedData h bytes' message hbytes hmessage hstarted hmeasured =>
      rw [← hreceived] at hmessage
      rw [← hlength] at hmeasured
      exact .escapedData (hstate.trans h) bytes' message hbytes hmessage hstarted hmeasured

theorem Traced.checkMsgTimer {bytes : List UInt8} (h : s.Traced bytes) (now : OsalTickCount) :
    (s.checkMsgTimer now).Traced bytes := by
  unfold LonUsbLinkState.checkMsgTimer
  split
  case isTrue => exact .idle rfl rfl
  case isFalse => exact h

theorem Traced.checkUplinkCompleted {bytes message : List UInt8} {b : UInt8}
    (hstate : s.uplinkState = .message) (hstarted : Started bytes s.received)
    (hmeasured : Measured message s.uplinkMsgLength) (hreceived : s.received = message ++ [b]) :
    s.checkUplinkCompleted.1.Traced bytes := by
  by_cases hc : s.Completed
  case pos =>
    rw [checkUplinkCompleted_of_completed hc]
    exact .idle rfl rfl
  case neg =>
    rw [checkUplinkCompleted_of_not hc]
    exact .message hstate hstarted (measured_next hmeasured hreceived hc)

theorem traced_idleByte {bytes : List UInt8} (hstate : s.uplinkState = .idle)
    (hindex : s.uplinkMsgIndex = 0) (b : UInt8) : (s.idleByte b).Traced (bytes ++ [b]) := by
  unfold idleByte
  split
  case isTrue hb => exact .frameCode rfl hindex hb ⟨bytes, by rw [hb]⟩
  case isFalse => exact .idle hstate hindex

theorem traced_messageByte {bytes : List UInt8} (hstate : s.uplinkState = .message)
    (h : Started bytes s.received) (hmeasured : Measured s.received s.uplinkMsgLength) (now : OsalTickCount) (last : Bool) (b : UInt8) :
    (s.messageByte now last b).1.Traced (bytes ++ [b]) := by
  unfold messageByte
  dsimp only
  split
  case isTrue hb =>
    refine Traced.checkMsgTimer ?_ now
    exact .escapedData rfl bytes s.received (by rw [hb]) (by
      rw [← hb]
      exact received_storeByte b) h hmeasured
  case isFalse hb =>
    have hstarted : Started (bytes ++ [b]) (s.storeByte b).received := by
      rw [received_storeByte]
      have happend := h.append [b]
      rw [stuff_cons_of_ne hb, stuff_nil] at happend
      exact happend
    have hcheck := Traced.checkUplinkCompleted (s := s.storeByte b) hstate hstarted hmeasured
      (received_storeByte b)
    generalize (s.storeByte b).checkUplinkCompleted = c at hcheck ⊢
    obtain ⟨t, status, completed⟩ := c
    dsimp only
    split
    case isTrue => exact hcheck
    case isFalse =>
      split
      case isTrue => exact hcheck.checkMsgTimer now
      case isFalse => exact hcheck

theorem traced_escapedDataByte {bytes' message : List UInt8} {b : UInt8}
    (hmessage : s.received = message ++ [FRAME_SYNC]) (hstarted : Started bytes' message)
    (hmeasured : Measured message s.uplinkMsgLength)
    (hundamaged : Undamaged (bytes' ++ [FRAME_SYNC] ++ [b])) :
    (s.escapedDataByte b).1.Traced (bytes' ++ [FRAME_SYNC] ++ [b]) := by
  change (s.unescape b).checkUplinkCompleted.1.Traced _
  unfold unescape
  dsimp only
  split
  case isTrue hb =>
    refine Traced.checkUplinkCompleted rfl ?_ hmeasured hmessage
    have happend := hstarted.append [FRAME_SYNC]
    rw [stuff_cons_sync, stuff_nil, ← hmessage] at happend
    rw [hb, List.append_assoc]
    exact happend
  case isFalse =>
    split
    case isTrue hb =>
      -- the message would begin anew here
      obtain ⟨n, hextent, hlt⟩ := hmeasured.unfinished
      have hle := hundamaged.unbroken bytes' message n (by
        rw [hb, List.append_assoc]
        exact List.prefix_rfl)
        hstarted hextent
      omega
    case isFalse =>
      rw [checkUplinkCompleted_of_not fun hc => absurd hc.1 (Nat.not_lt_zero 1)]
      exact .idle rfl rfl

theorem traced_codePacketChecksumByte {bytes : List UInt8}
    (hstate : s.uplinkState = .codePacketChecksum) (hindex : s.uplinkMsgIndex = 0)
    (hbytes : s.uplinkBuffer.frameHeader.cmd = MSG_FRAME_CMD →
      s.uplinkBuffer.frameHeader.frameSync = FRAME_SYNC ∧
        ∃ earlier, bytes = earlier ++ [FRAME_SYNC, s.uplinkBuffer.frameHeader.frameCode,
          s.uplinkBuffer.frameHeader.parameter]) (now : OsalTickCount) (b : UInt8) :
    (s.codePacketChecksumByte now b).1.Traced (bytes ++ [b]) := by
  have hindex' := keepsIndex_codePacketChecksumByte now b hindex
  cases packetEnd_codePacketChecksumByte hstate now b with
  | message hstate' hcmd hvalid =>
    obtain ⟨hsync, earlier, rfl⟩ := hbytes hcmd
    have hreceived := received_of_index hindex'
    refine .message hstate' ⟨earlier, s.completedHeader b, hsync, hcmd, hvalid, ?_⟩ ?_
    · rw [hreceived, stuff_nil, List.append_nil, List.append_assoc, ← hsync]
      rfl
    · rw [hreceived]
      exact .none _
  | idle hstate' => exact .idle hstate' hindex'
  | broken hstate' hheader hcmd =>
    refine .codePacketChecksum hstate' hindex' fun hcmd' => absurd ?_ hcmd
    rw [← hheader]
    exact hcmd'

theorem Traced.processUplinkByte {bytes : List UInt8} {b : UInt8} (h : s.Traced bytes)
    (hu50 : s.lonUsbIfaceType = .u50) (hundamaged : Undamaged (bytes ++ [b])) (now : OsalTickCount)
    (last : Bool) :
    (s.processUplinkByte now last b).1.Traced (bytes ++ [b]) := by
  unfold LonUsbLinkState.processUplinkByte
  cases h with
  | idle hstate hindex =>
    simp only [hstate]
    exact traced_idleByte hstate hindex b
  | frameCode hstate hindex hsync hbytes =>
    obtain ⟨earlier, rfl⟩ := hbytes
    simp only [hstate]
    rw [frameCodeByte_u50 hu50]
    exact .frameParameter rfl hindex hsync ⟨earlier, List.append_assoc ..⟩
  | frameParameter hstate hindex hsync hbytes =>
    obtain ⟨earlier, rfl⟩ := hbytes
    simp only [hstate]
    exact .codePacketChecksum rfl hindex fun _ => ⟨hsync, earlier, List.append_assoc ..⟩
  | codePacketChecksum hstate hindex hbytes =>
    simp only [hstate]
    exact traced_codePacketChecksumByte hstate hindex hbytes now b
  | message hstate hstarted hmeasured =>
    simp only [hstate]
    exact traced_messageByte hstate hstarted hmeasured now last b
  | escapedData hstate bytes' message hbytes hmessage hstarted hmeasured =>
    subst hbytes
    simp only [hstate]
    exact traced_escapedDataByte hmessage hstarted hmeasured hundamaged

structure ParserIdle (s : LonUsbLinkState) : Prop where
  shutdown : s.shutdown = false
  u50 : s.lonUsbIfaceType = .u50
  idle : s.uplinkState = .idle
  index : s.uplinkMsgIndex = 0

end LonUsbLinkState

section Run

variable {s t : LonUsbLinkState} {h : LinkHistory}

theorem parsedBytes_of_not_byte {e : LinkEvent} (he : e.byte? = none) :
    parsedBytes ((s, e) :: h) = parsedBytes h :=
  congrArg List.reverse (List.filterMap_cons_none he)

theorem traced_run (hs : s.ParserIdle) (hrun : LinkRun s h t) (hundamaged : Undamaged (parsedBytes h)) :
    t.shutdown = false ∧ t.lonUsbIfaceType = .u50 ∧ t.Traced (parsedBytes h) := by
  induction hrun with
  | refl => exact ⟨hs.shutdown, hs.u50, .idle hs.idle hs.index⟩
  | @next h t e _ ih =>
    cases he : e.byte? with
    | none =>
      rw [parsedBytes_of_not_byte he] at hundamaged ⊢
      obtain ⟨hshutdown, hu50, htraced⟩ := ih hundamaged
      have hkeeps := t.keepsParser_linkStep he
      exact ⟨hkeeps.shutdown.trans hshutdown, hkeeps.ifaceType.trans hu50, htraced.keepsParser hkeeps⟩
    | some b =>
      cases e with
      | writeLonUsbMsg | processDownlinkRequests | readUplinkBuffer | setRing => cases he
      | processUplinkByte x =>
        rw [parsedBytes_cons] at hundamaged ⊢
        obtain ⟨hshutdown, hu50, htraced⟩ := ih (hundamaged.part (List.prefix_append _ _))
        have hstep : linkStep (.processUplinkByte x) t =
            (t.processUplinkByte x.now x.last x.byte).1 := if_neg (by rw [hshutdown]; decide)
        have hup := t.uplinks_processUplinkByte x.now x.last x.byte
        rw [hstep]
        exact ⟨hup.shutdown.trans hshutdown, hup.ifaceType.trans hu50,
          htraced.processUplinkByte hu50 hundamaged x.now x.last⟩

end Run

structure IntactEntry (bytes message : List UInt8) (e : LonUsbQueueBuffer) : Prop where
  started : Started bytes message
  checksum : validateChecksum message = true
  contents : ∀ k (hk : k < message.length), 0 < k → e.usbNiDataFrame.image k = message[k]

/-- Every entry that a byte of a message puts into an uplink queue holds an intact message. -/
def OnlyIntact (h : LinkHistory) : Prop :=
  ∀ u x h₁ e, (u, .processUplinkByte x) :: h₁ <:+ h → u.InMessage →
    (u.uplinkByte x).messageEntries = u.messageEntries ++ [e] →
      IntactEntry (parsedBytes h₁ ++ [x.byte]) (u.completedMessage x.byte) e

namespace LonUsbLinkState

variable {s : LonUsbLinkState} {e : LonUsbQueueBuffer} {b : UInt8}

theorem queueing_eq_some (h : s.queueing = some e) : e = s.uplinkBuffer := by
  unfold queueing at h
  split at h
  case isTrue => exact (Option.some.inj h).symm
  case isFalse => cases h

theorem accepting_eq_some (h : s.accepting = some e) :
    s.Completed ∧ e = (s.handleNiCommand s.uplinkBuffer.usbNiDataFrame.niCommand).uplinkBuffer := by
  unfold accepting at h
  split at h
  case isTrue hc => exact ⟨hc.1, queueing_eq_some h⟩
  case isFalse => cases h

theorem image_handleNiCommand (niCmd : UInt8) {k : Nat} (hk : 0 < k) :
    (s.handleNiCommand niCmd).uplinkBuffer.usbNiDataFrame.image k =
      s.uplinkBuffer.usbNiDataFrame.image k := by
  unfold handleNiCommand
  split
  case isTrue => exact Function.update_of_ne (by omega) ..
  case isFalse => rfl

theorem acceptable_of_accepting (h : s.accepting = some e) : s.Acceptable := by
  unfold accepting at h
  split at h
  case isTrue hc => exact hc.2
  case isFalse => cases h

theorem contents_of_accepting (h : s.accepting = some e) (k : Nat) (hk : k < s.received.length)
    (hpos : 0 < k) : e.usbNiDataFrame.image k = s.received[k] := by
  rw [(accepting_eq_some h).2, image_handleNiCommand _ hpos]
  exact (Image.getElem_bytes hk).symm

theorem entering_message {bytes : List UInt8} (htraced : s.Traced bytes) (hmsg : s.InMessage)
    (h : s.entering b = some e) :
    Started (bytes ++ [b]) (s.completedMessage b) ∧
      Extent (s.completedMessage b) (s.completedMessage b).length ∧
        ∀ k (hk : k < (s.completedMessage b).length), 0 < k →
          e.usbNiDataFrame.image k = (s.completedMessage b)[k] := by
  cases htraced with
  | idle hstate | frameCode hstate | frameParameter hstate | codePacketChecksum hstate =>
    exact absurd hmsg (not_inMessage _ hstate (by decide))
  | message hstate hstarted hmeasured =>
    have hcompleted : s.completedMessage b = (s.storeByte b).received := by
      rw [received_storeByte, completedMessage, if_neg (by rw [hstate]; decide)]
    unfold entering at h
    simp only [hstate] at h
    split at h
    case isTrue => cases h
    case isFalse hb =>
      rw [hcompleted]
      refine ⟨?_, ?_, contents_of_accepting h⟩
      · have happend := hstarted.append [b]
        rw [stuff_cons_of_ne hb, stuff_nil] at happend
        rw [received_storeByte]
        exact happend
      · exact whole_of_completed (s := s.storeByte b) hmeasured (received_storeByte b)
          (accepting_eq_some h).1
  | escapedData hstate bytes' message hbytes hmessage hstarted hmeasured =>
    have hcompleted : s.completedMessage b = s.received := if_pos hstate
    unfold entering at h
    simp only [hstate] at h
    split at h
    case isFalse => cases h
    case isTrue hb =>
      rw [hcompleted]
      refine ⟨?_, whole_of_completed hmeasured hmessage (accepting_eq_some h).1,
        contents_of_accepting h⟩
      have happend := hstarted.append [FRAME_SYNC]
      rw [stuff_cons_sync, stuff_nil, ← hmessage] at happend
      rw [hbytes, hb, List.append_assoc]
      exact happend

theorem entering_eq_some_iff (hs : s.shutdown = false) (x : Arrival) :
    (s.uplinkByte x).messageEntries = s.messageEntries ++ [e] ↔ s.entering x.byte = some e := by
  rw [uplinkByte, if_neg (by rw [hs]; decide), messageEntries_processUplinkByte,
    List.append_cancel_left_eq]
  cases s.entering x.byte with
  | none => exact ⟨fun h => absurd h.symm (List.cons_ne_nil _ _), fun h => by cases h⟩
  | some e' => exact ⟨fun h => congrArg some (List.singleton_inj.mp h), fun h => by cases h; rfl⟩

end LonUsbLinkState

def uplinkEvents (bytes : List UInt8) : List LinkEvent :=
  (arrivals 0 bytes).map .processUplinkByte

theorem started_alone (header : LonFrameHeader) {frame before message : List UInt8}
    (hsync : FRAME_SYNC ∉ header.toList.tail ++ frame) (hbefore : before <+: header.toList ++ frame)
    (h : Started before message) : message <+: frame := by
  obtain ⟨earlier, header', hsync', -, -, rfl⟩ := h
  obtain ⟨rest, hrest⟩ := hbefore
  have hmem : FRAME_SYNC ∈ header'.toList := by
    rw [← hsync']
    exact List.mem_cons_self
  cases earlier with
  | cons b earlier =>
    have htail := (List.cons_eq_cons.mp hrest).2
    refine absurd ?_ hsync
    rw [← show earlier ++ header'.toList ++ stuff FRAME_SYNC message ++ rest =
      header.toList.tail ++ frame from htail]
    exact List.mem_append_left _ (List.mem_append_left _ (List.mem_append_right _ hmem))
  | nil =>
    rw [List.nil_append, List.append_assoc] at hrest
    have hframe := (List.append_inj hrest rfl).2
    have hplain : FRAME_SYNC ∉ stuff FRAME_SYNC message := fun hin =>
      hsync (List.mem_append_right _ (hframe ▸ List.mem_append_left _ hin))
    rw [stuff_of_not_mem hplain] at hframe
    exact ⟨rest, hframe⟩

theorem undamaged_command : Undamaged [FRAME_SYNC, 0x02, 0x00, 0x80, 0x01, 0x22, 0xDD] := by
  constructor
  · intro before message hbefore hstarted hextent
    have hpart : message <+: [0x01, 0x22, 0xDD] :=
      started_alone ⟨FRAME_SYNC, 0x02, 0x00, 0x80⟩ (by decide) hbefore hstarted
    simp only [List.prefix_cons_iff, List.prefix_nil] at hpart
    obtain rfl | ⟨-, rfl, rfl | ⟨-, rfl, rfl | ⟨-, rfl, rfl⟩⟩⟩ := hpart
    · exact absurd (show 2 ≤ 0 from hextent) (by decide)
    · exact absurd ((extent_short (by decide)).mp hextent) (by decide)
    · exact absurd ((extent_short (by decide)).mp hextent) (by decide)
    · exact ⟨[0x01, 0x22], by decide⟩
  · intro before message n hbefore hstarted
    obtain ⟨earlier, header, hsync, -, -, rfl⟩ := hstarted
    have hmem : FRAME_SYNC ∈ header.toList := by
      rw [← hsync]
      exact List.mem_cons_self
    have hheader := List.count_pos_iff.mpr hmem
    have hcount := hbefore.sublist.count_le FRAME_SYNC
    rw [List.count_append, List.count_append, List.count_append] at hcount
    rw [show [FRAME_SYNC, 0x02, 0x00, 0x80, 0x01, 0x22, 0xDD].count FRAME_SYNC = 1 by decide,
      show [FRAME_SYNC, 0].count FRAME_SYNC = 1 by decide] at hcount
    omega

end LonStack.LonUsb
