import LonStack.LonUsb.Downlink
import LonStack.LonUsb.Delivery

namespace LonStack.LonUsb

open Lib LonUsbLinkState

def LonUsbLinkState.carry (s : LonUsbLinkState) (f : LonDataFrame) (now : OsalTickCount) :
    Option (List UInt8) :=
  let written := s.writeLonUsbMsg f
  let read := (readsDownlink (s.aheadOf f).length written.1).readDownlinkBuffer
  let sent := read.1.writeDownlinkMessage now
  if written.2 = .noError ∧ read.2 = .noError ∧ sent.2 = .noError then
    some (sent.1.usbOut.drop read.1.usbOut.length)
  else none

structure Sender (f : LonDataFrame) (k : Nat) (s : LonUsbLinkState) : Prop where
  shutdown : s.shutdown = false
  u50 : s.lonUsbIfaceType = .u50
  queues : DownlinkQueues s
  entries : (s.downlinkQueue f).queueEntries = k
  accepted : (s.writeLonUsbMsg f).2 = .noError

structure Receiver (k : Nat) (r : LonUsbLinkState) : Prop where
  queues : UplinkQueues r
  u50 : r.lonUsbIfaceType = .u50
  idle : r.uplinkState = .idle
  index : r.uplinkMsgIndex = 0
  waitForUid : r.waitForUid = false
  waitForStatus : r.waitForStatus = false
  entries : r.lonUsbUplinkNormalQueue.queueEntries = k

/-- The same command, length and bytes. Of an extended PDU the writer copies all but three bytes. -/
structure SameFrame (f g : LonDataFrame) : Prop where
  niCommand : f.niCommand = g.niCommand
  shortPduLength : f.shortPduLength = g.shortPduLength
  pdu : g.shortPduLength ≠ EXT_LENGTH → ∀ k < g.shortPduLength.toNat, f.pdu k = g.pdu k
  extLength : g.shortPduLength = EXT_LENGTH → f.extLength = g.extLength
  extPdu : g.shortPduLength = EXT_LENGTH → ∀ k < g.extLength - 3, f.extPdu k = g.extPdu k

structure Receives (f : LonDataFrame) (k : Nat) (r t : LonUsbLinkState) : Prop where
  idle : t.uplinkState = .idle
  queued : ∃ e, t.uplinkEntries = r.uplinkEntries ++ [e]
  read : ∀ now, ∃ out, ((readsUplink now k t).readLonUsbMsg now).2 = (.noError, some out) ∧
    SameFrame out f

/-- The frame survives the way from any link whose queue holds `k` entries to any link whose queue
holds `m`, in any chunks. The sequence number is one the receiver did not see last. -/
def RoundTrips (f : LonDataFrame) (k m : Nat) : Prop :=
  ∀ s, Sender f k s → ∀ now, ∃ bytes, s.carry f now = some bytes ∧
    ∀ r chunks, Receiver m r → r.uplinkSeqNumber ≠ s.downlinkSeqNumber % 8 →
      chunks.flatMap Prod.snd = bytes → Timely r.llpTimeout chunks →
      Receives f m r (feedUplink r chunks)

section Sending

variable {f : LonDataFrame} {k : Nat} {s : LonUsbLinkState}

theorem Sender.count (h : Sender f k s) : s.getDownlinkBufferCount < MAX_LON_DOWNLINK_BUFFERS := by
  by_contra hcount
  have haccepted := h.accepted
  unfold writeLonUsbMsg at haccepted
  rw [if_neg (by rw [h.shutdown]; decide), if_neg hcount] at haccepted
  cases haccepted

theorem Sender.accepts (h : Sender f k s) : f.Accepted := by
  intro hext
  by_contra hlength
  have haccepted := h.accepted
  unfold writeLonUsbMsg stage at haccepted
  rw [if_neg (by rw [h.shutdown]; decide), if_pos h.count] at haccepted
  simp only [if_pos hext, if_neg hlength] at haccepted
  cases haccepted

def LonUsbLinkState.reached (s : LonUsbLinkState) (f : LonDataFrame) : LonUsbLinkState :=
  (readsDownlink (s.aheadOf f).length (s.writeLonUsbMsg f).1).readDownlinkBuffer.1

theorem Sender.reached_spec (h : Sender f k s) (hmode : f.niCommand ≠ LonNiLayerModeCmd)
    (hroom : k + 1 < MAX_LON_DOWNLINK_BUFFERS) :
    (readsDownlink (s.aheadOf f).length (s.writeLonUsbMsg f).1).readDownlinkBuffer.2 = .noError ∧
      (s.reached f).shutdown = false ∧
      (s.reached f).downlinkSeqNumber = s.downlinkSeqNumber ∧
      (s.reached f).downlinkBuffer =
        (f.stagedIn s.downlinkBufferStaging).carried (s.downlinkQueue f).tailSlot
          (readsDownlink (s.aheadOf f).length (s.writeLonUsbMsg f).1).downlinkBuffer := by
  obtain ⟨-, hqueues, hshutdown, hseq, behind, -, hentries⟩ :=
    writeLonUsbMsg_spec h.shutdown h.queues h.count h.accepts hmode
  rw [if_pos (by rw [h.entries]; exact hroom)] at hentries
  obtain ⟨hqueues', hentries', hshutdown', hseq'⟩ := readsDownlink_append hqueues hentries
  obtain ⟨hstatus, hread⟩ := readDownlinkBuffer_cons hqueues' hentries'
  exact ⟨hstatus, hread.shutdown.trans (hshutdown'.trans (hshutdown.trans h.shutdown)),
    hread.seqNumber.trans (hseq'.trans hseq), hread.buffer⟩

theorem Sender.carry_of_frame (h : Sender f k s) (hmode : f.niCommand ≠ LonNiLayerModeCmd)
    (hroom : k + 1 < MAX_LON_DOWNLINK_BUFFERS) (now : OsalTickCount) {frame : List UInt8}
    (hframe : (s.reached f).downlinkBuffer.usbNiDataFrame.image.bytes
      (s.reached f).downlinkBuffer.dataFrameSize = frame)
    (hle : frame.length + frame.count FRAME_SYNC < MAX_EXP_LON_MSG_EX_LEN - 2) :
    s.carry f now = some (messageBytes (sequenceByte s.downlinkSeqNumber) frame) := by
  obtain ⟨hread, hshutdown, hseq, -⟩ := h.reached_spec hmode hroom
  obtain ⟨hsent, hout⟩ := writeDownlinkMessage_eq hshutdown now hframe hle
  rw [carry, if_pos ⟨h.accepted, hread, hsent⟩]
  change some (((s.reached f).writeDownlinkMessage now).1.usbOut.drop _) = _
  rw [hout, hseq]
  exact congrArg some List.drop_left

theorem Sender.carry_short (h : Sender f k s) (hmode : f.niCommand ≠ LonNiLayerModeCmd)
    (hf : f.shortPduLength ≠ EXT_LENGTH) (hroom : k + 1 < MAX_LON_DOWNLINK_BUFFERS)
    (now : OsalTickCount) :
    s.carry f now = some (messageBytes (sequenceByte s.downlinkSeqNumber) f.shortBytes) := by
  obtain ⟨-, -, -, hbuffer⟩ := h.reached_spec hmode hroom
  refine h.carry_of_frame hmode hroom now ?_ ?_
  · rw [hbuffer]
    exact bytes_carried_short hf _ _ _
  · have hcount := List.count_le_length (a := FRAME_SYNC) (l := f.shortBytes)
    have hlength : f.shortBytes.length = 2 + f.shortPduLength.toNat := by
      simp only [LonDataFrame.shortBytes, List.length_cons, Image.length_bytes]
      omega
    have := f.shortPduLength.toNat_lt
    change _ < 2562
    omega

end Sending

section Receiving

variable {k : Nat} {r t : LonUsbLinkState}

def LonUsbLinkState.completed (t : LonUsbLinkState) (p : List UInt8) (m : Nat) : Outcome :=
  ((t.held p m).acceptMessage.1.resetUplinkState, (t.held p m).acceptMessage.2)

def LonUsbLinkState.queuedFrame (t : LonUsbLinkState) (p : List UInt8) : LonNiFrame :=
  let frame : LonNiFrame := ⟨t.uplinkBuffer.usbNiDataFrame.image.write 0 p⟩
  if frame.niCommand = LonNiResetDeviceCmd then frame.setShortPduLength 0 else frame

theorem KeepsMessage.receiver (h : KeepsMessage r t) (hr : Receiver k r) :
    UplinkQueues t ∧ t.uplinkMsgIndex = 0 ∧ t.waitForUid = false ∧ t.waitForStatus = false ∧
      t.lonUsbUplinkNormalQueue.queueEntries = k :=
  ⟨hr.queues.of_uplinks h.uplinks, h.index.trans hr.index, h.waitForUid.trans hr.waitForUid,
    h.waitForStatus.trans hr.waitForStatus, by rw [h.queue, hr.entries]⟩

theorem completed_spec (h : KeepsMessage r t) (hr : Receiver k r)
    (hroom : k < MAX_LON_UPLINK_BUFFERS) (p : List UInt8) {m : Nat}
    (hm : m ≤ LonUsbQueueBuffer.sizeofLonNiFrame) :
    (t.completed p m).2 = .noError ∧ (t.completed p m).1.uplinkState = .idle ∧
      UplinkQueues (t.completed p m).1 ∧
      ∃ e, (t.completed p m).1.uplinkEntries =
          (if k + 1 < MAX_LON_UPLINK_BUFFERS then r.uplinkEntries ++ [e] else r.uplinkEntries) ∧
        e.usbNiDataFrame = t.queuedFrame p := by
  obtain ⟨hqueues, -, huid, hstatus, hentries⟩ := h.receiver hr
  have hheld : Uplinks t (t.held p m) := .of_eq rfl rfl rfl rfl rfl rfl
  have haccept := (t.held p m).acceptMessage_eq hm huid hstatus
  generalize hcmd : (t.held p m).uplinkBuffer.usbNiDataFrame.niCommand = cmd at haccept
  have hhandle := hheld.trans (uplinks_handleNiCommand _ cmd)
  have hnormal : ((t.held p m).handleNiCommand cmd).lonUsbUplinkNormalQueue =
      r.lonUsbUplinkNormalQueue := by
    rw [← h.queue]
    unfold handleNiCommand
    split <;> rfl
  obtain ⟨hqueued, happended⟩ := queueUplinkBuffer_spec (hqueues.of_uplinks hhandle)
    (by rw [hnormal, hr.entries]; exact hroom)
  have hcompleted : t.completed p m =
      (((t.held p m).handleNiCommand cmd).queueUplinkBuffer.1.resetUplinkState,
        ((t.held p m).handleNiCommand cmd).queueUplinkBuffer.2) := by
    rw [completed, haccept]
  rw [hcompleted]
  refine ⟨hqueued, rfl, (hqueues.of_uplinks hhandle).of_uplinks
    ((uplinks_queueUplinkBuffer _).trans (uplinks_resetUplinkState _)),
    ((t.held p m).handleNiCommand cmd).uplinkBuffer, ?_, ?_⟩
  · change ((t.held p m).handleNiCommand cmd).queueUplinkBuffer.1.uplinkEntries = _
    rw [happended, uplinkEntries, hnormal, hr.entries]
  · rw [queuedFrame, handleNiCommand, ← hcmd]
    by_cases hreset : (t.held p m).uplinkBuffer.usbNiDataFrame.niCommand = LonNiResetDeviceCmd
    case pos => rw [if_pos hreset]; exact (if_pos hreset).symm
    case neg => rw [if_neg hreset]; exact (if_neg hreset).symm

theorem Receiver.feed_short (hr : Receiver k r) (hroom : k < MAX_LON_UPLINK_BUFFERS)
    {f : LonDataFrame} (hlength : f.shortPduLength < 254) (hfilter : ¬FilteredUplink f.niCommand)
    (seq : UInt8) {chunks : List (OsalTickCount × List UInt8)}
    (hchunks : chunks.flatMap Prod.snd = messageBytes seq f.shortBytes)
    (htimely : Timely r.llpTimeout chunks) :
    (feedUplink r chunks).uplinkState = .idle ∧ UplinkQueues (feedUplink r chunks) ∧
      ∃ e t, KeepsMessage r t ∧ (feedUplink r chunks).uplinkEntries =
          (if k + 1 < MAX_LON_UPLINK_BUFFERS then r.uplinkEntries ++ [e] else r.uplinkEntries) ∧
        e.usbNiDataFrame = t.queuedFrame (f.shortBytes ++ [-computeChecksum f.shortBytes]) := by
  obtain ⟨t, hkeeps, hstate, hfold⟩ := foldl_arrive_messageBytes hr.idle hr.u50
    (messageFrameCode_cmd seq) _ ((map_byte_allArrivals chunks).trans hchunks)
    (pairwise_allArrivals htimely)
  obtain ⟨-, hindex, -⟩ := hkeeps.receiver hr
  have hnat : f.shortPduLength.toNat < 254 := UInt8.lt_iff_toNat_lt.mp hlength
  have hone : (f.shortPduLength + 1).toNat = f.shortPduLength.toNat + 1 := by
    rw [UInt8.toNat_add, UInt8.toNat_one]
    omega
  have hne : f.shortPduLength + 1 ≠ EXT_LENGTH := by
    intro heq
    have := congrArg UInt8.toNat heq
    rw [hone] at this
    exact absurd this (by simp [EXT_LENGTH]; omega)
  -- every byte but the checksum is only stored
  have hread (bs : List UInt8) (hle : bs.length ≤ f.shortPduLength.toNat + 1) :=
    readBytes_short hindex hne bs (by rw [hone]; exact hle)
  let rest := f.niCommand :: f.pdu.bytes f.shortPduLength.toNat
  have hrest : rest.length = f.shortPduLength.toNat + 1 := by
    rw [List.length_cons, Image.length_bytes]
  have hshort : f.shortBytes.length = f.shortPduLength.toNat + 2 := by
    rw [← Nat.add_assoc _ 1 1, ← hrest]
    rfl
  have hopen (p : List UInt8) (b : UInt8) (q : List UInt8)
      (hp : f.shortBytes ++ [-computeChecksum f.shortBytes] = p ++ b :: q) :
      Open t.uplinkMsgTimer t.llpTimeout (readBytes (t, .noError) p) := by
    cases p with
    | nil => exact ⟨rfl, hstate, rfl, rfl⟩
    | cons x p =>
      have hsum : f.shortBytes.length + (0 + 1) = p.length + 1 + (q.length + 1) := by
        simpa only [List.length_append, List.length_cons, List.length_nil]
          using congrArg List.length hp
      obtain ⟨rfl, -⟩ := List.cons.inj hp
      rw [hread p (by omega)]
      exact ⟨rfl, hstate, rfl, rfl⟩
  have hcmd (checksum : UInt8) (m : Nat) :
      (t.held (f.shortBytes ++ [checksum]) m).uplinkBuffer.usbNiDataFrame.niCommand =
        f.niCommand := by
    change t.uplinkBuffer.usbNiDataFrame.image.write 0 _ (0 + 1) = _
    rw [Image.write_of_mem _ _ (by simp [LonDataFrame.shortBytes])]
    rfl
  have hcompleted : readBytes (t, .noError) (f.shortBytes ++ [-computeChecksum f.shortBytes]) =
      t.completed (f.shortBytes ++ [-computeChecksum f.shortBytes])
        (f.shortPduLength + 1).toNat := by
    rw [readBytes_append, LonDataFrame.shortBytes, hread rest (by rw [hrest]), readBytes_cons,
      readByte_last t (List.cons_ne_nil _ _) (fun h => hne (UInt8.toNat_inj.mp h.1))
        (by rw [List.length_cons, hrest, hone]; omega) _
        (by rw [show ((f.shortPduLength + 1) :: rest) = f.shortBytes from rfl, hcmd]; exact hfilter)]
    rfl
  obtain ⟨hstatus, hidle, hqueues, e, hentries, he⟩ := completed_spec hkeeps hr hroom
    (f.shortBytes ++ [-computeChecksum f.shortBytes]) (m := (f.shortPduLength + 1).toNat)
    (by rw [hone]; change _ ≤ 1282; omega)
  have hfeed : feedUplink r chunks = (t.completed
      (f.shortBytes ++ [-computeChecksum f.shortBytes]) (f.shortPduLength + 1).toNat).1 :=
    feedUplink_eq chunks hr.queues.shutdown
      ((hfold hopen).trans (hcompleted.trans (Prod.ext rfl hstatus)))
  rw [hfeed]
  exact ⟨hidle, hqueues, e, t, hkeeps, hentries, he⟩

theorem uplinks_feedUplink (r : LonUsbLinkState) (chunks : List (OsalTickCount × List UInt8)) :
    Uplinks r (feedUplink r chunks) := by
  induction chunks generalizing r with
  | nil => exact .refl r
  | cons c chunks ih => exact (r.uplinks_processUplinkBytes c.1 c.2).trans (ih _)

theorem Receiver.length (hr : Receiver k r) : r.uplinkEntries.length = k := by
  rw [Queue.length_toList, hr.entries]

theorem Receives.same {f : LonDataFrame} (h : Receives f k r t) (hr : Receiver k r)
    (hqueues : UplinkQueues t) {e : LonUsbQueueBuffer} {more : List LonUsbQueueBuffer}
    (he : t.uplinkEntries = r.uplinkEntries ++ e :: more) :
    SameFrame e.usbNiDataFrame.toDataFrame f := by
  obtain ⟨out, hout, hsame⟩ := h.read 0
  have hread := readLonUsbMsg_readsUplink hqueues 0 he
  rw [hr.length, hout] at hread
  have heq : out = e.usbNiDataFrame.toDataFrame := Option.some.inj (congrArg Prod.snd hread)
  rw [← heq]
  exact hsame

theorem Receives.of_entry {f : LonDataFrame} (hr : Receiver k r) (hidle : t.uplinkState = .idle)
    (hqueues : UplinkQueues t) {e : LonUsbQueueBuffer}
    (he : t.uplinkEntries = r.uplinkEntries ++ [e])
    (hsame : SameFrame e.usbNiDataFrame.toDataFrame f) : Receives f k r t where
  idle := hidle
  queued := ⟨e, he⟩
  read now := by
    have hread := readLonUsbMsg_readsUplink hqueues now he
    rw [hr.length] at hread
    exact ⟨_, hread, hsame⟩

theorem sameFrame_queuedFrame {f : LonDataFrame} (t : LonUsbLinkState)
    (hf : f.shortPduLength ≠ EXT_LENGTH) (hreset : f.niCommand ≠ LonNiResetDeviceCmd)
    (rest : List UInt8) : SameFrame (t.queuedFrame (f.shortBytes ++ rest)).toDataFrame f := by
  have himage (j : Nat) (hj : j < f.shortBytes.length) :
      t.uplinkBuffer.usbNiDataFrame.image.write 0 (f.shortBytes ++ rest) j = f.shortBytes[j] := by
    have hwrite := t.uplinkBuffer.usbNiDataFrame.image.write_of_mem (i := 0) (k := j)
      (f.shortBytes ++ rest) (by rw [List.length_append]; omega)
    rw [Nat.zero_add] at hwrite
    rw [hwrite, List.getElem_append_left hj]
  have hlength : f.shortBytes.length = f.shortPduLength.toNat + 2 := by
    simp only [LonDataFrame.shortBytes, List.length_cons, Image.length_bytes]
  have hcmd : t.uplinkBuffer.usbNiDataFrame.image.write 0 (f.shortBytes ++ rest) 1 = f.niCommand :=
    himage 1 (by omega)
  have hqueued : t.queuedFrame (f.shortBytes ++ rest) =
      ⟨t.uplinkBuffer.usbNiDataFrame.image.write 0 (f.shortBytes ++ rest)⟩ :=
    if_neg fun h => hreset (hcmd.symm.trans h)
  have hshort : t.uplinkBuffer.usbNiDataFrame.image.write 0 (f.shortBytes ++ rest) 0 - 1 =
      f.shortPduLength := by
    rw [himage 0 (by omega)]
    exact UInt8.add_sub_cancel _ _
  rw [hqueued]
  generalize t.uplinkBuffer.usbNiDataFrame.image.write 0 (f.shortBytes ++ rest) = image at *
  refine ⟨hcmd, hshort, fun _ j hj => ?_, fun h => absurd h hf, fun h => absurd h hf⟩
  rw [LonNiFrame.pdu_toDataFrame ⟨image⟩ (by rw [← hshort] at hj; exact hj)]
  refine (himage (j + 2) (by omega)).trans ?_
  simp only [LonDataFrame.shortBytes, List.getElem_cons_succ, Image.getElem_bytes]

end Receiving

theorem roundTrips_of_short {f : LonDataFrame} {k m : Nat} (hlength : f.shortPduLength < 254)
    (hfilter : ¬FilteredUplink f.niCommand) (hreset : f.niCommand ≠ LonNiResetDeviceCmd)
    (hk : k + 1 < MAX_LON_DOWNLINK_BUFFERS) (hm : m + 1 < MAX_LON_UPLINK_BUFFERS) :
    RoundTrips f k m := by
  intro s hs now
  have hne : f.shortPduLength ≠ EXT_LENGTH := fun h => by
    rw [h] at hlength
    exact absurd hlength (by decide)
  refine ⟨_, hs.carry_short (fun h => hfilter (.inr h)) hne hk now, ?_⟩
  intro r chunks hr _ hchunks htimely
  obtain ⟨hidle, hqueues, e, t, -, hentries, he⟩ :=
    hr.feed_short (Nat.lt_of_succ_lt hm) hlength hfilter _ hchunks htimely
  rw [if_pos hm] at hentries
  refine .of_entry hr hidle hqueues hentries ?_
  rw [he]
  exact sameFrame_queuedFrame t hne hreset _

end LonStack.LonUsb
