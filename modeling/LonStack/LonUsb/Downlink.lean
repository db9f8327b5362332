import LonStack.LonUsb.CodePacket

namespace LonStack.LonUsb

open Lib

namespace LonUsbQueueBuffer

variable (dst src : LonUsbQueueBuffer) {k n : Nat}

theorem bufSize_memcpy (h : 8 ≤ n) : (dst.memcpy src n).bufSize = src.bufSize :=
  if_pos h

theorem dataFrameSize_memcpy (h : 16 ≤ n) : (dst.memcpy src n).dataFrameSize = src.dataFrameSize :=
  if_pos (show 8 ≤ n - 8 by omega)

theorem image_memcpy_of_lt (h : 24 + k < n) :
    (dst.memcpy src n).usbNiDataFrame.image k = src.usbNiDataFrame.image k :=
  Image.copy_of_lt (show k < n - 24 by omega)

theorem image_memcpy_of_le (h : n ≤ 24 + k) :
    (dst.memcpy src n).usbNiDataFrame.image k = dst.usbNiDataFrame.image k :=
  Image.copy_of_not_mem (show k < 0 ∨ 0 + (n - 24) ≤ k by omega)

end LonUsbQueueBuffer

namespace LonUsbLinkState

variable {s t : LonUsbLinkState}

theorem downlinkBuffer_queueDownlinkBuffer (s : LonUsbLinkState) (src : LonUsbQueueBuffer) :
    (s.queueDownlinkBuffer src).1.downlinkBuffer = s.downlinkBuffer := by
  unfold queueDownlinkBuffer
  split
  case isTrue => split <;> rfl
  case isFalse => split <;> rfl

def downlinkEntries (s : LonUsbLinkState) : List LonUsbQueueBuffer :=
  s.lonUsbDownlinkPriorityQueue.toList ++ s.lonUsbDownlinkNormalQueue.toList

def aheadOf (s : LonUsbLinkState) (f : LonDataFrame) : List LonUsbQueueBuffer :=
  if f.priority = .highPriority then s.lonUsbDownlinkPriorityQueue.toList else s.downlinkEntries

def downlinkQueue (s : LonUsbLinkState) (f : LonDataFrame) : Queue LonUsbQueueBuffer :=
  if f.priority = .highPriority then s.lonUsbDownlinkPriorityQueue else s.lonUsbDownlinkNormalQueue

structure DownlinkQueues (s : LonUsbLinkState) : Prop where
  priority : s.lonUsbDownlinkPriorityQueue.queueCapacity = MAX_LON_DOWNLINK_BUFFERS
  normal : s.lonUsbDownlinkNormalQueue.queueCapacity = MAX_LON_DOWNLINK_BUFFERS

structure ReadsDownlink (s : LonUsbLinkState) (b : LonUsbQueueBuffer) (t : LonUsbLinkState) :
    Prop where
  queues : DownlinkQueues s → DownlinkQueues t
  entries : s.downlinkEntries = b :: t.downlinkEntries
  buffer : t.downlinkBuffer = s.downlinkBuffer.memcpy b b.bufSize
  shutdown : t.shutdown = s.shutdown
  seqNumber : t.downlinkSeqNumber = s.downlinkSeqNumber

theorem readDownlinkBuffer_cons (hq : DownlinkQueues s) {b : LonUsbQueueBuffer}
    {rest : List LonUsbQueueBuffer} (h : s.downlinkEntries = b :: rest) :
    s.readDownlinkBuffer.2 = .noError ∧ ReadsDownlink s b s.readDownlinkBuffer.1 := by
  have hpos : 0 < s.lonUsbDownlinkPriorityQueue.queueCapacity := by rw [hq.priority]; decide
  unfold readDownlinkBuffer
  split
  case isTrue he =>
    rw [Queue.empty_iff _ hpos] at he
    have hnormal : s.lonUsbDownlinkNormalQueue.toList = b :: rest := by
      rw [← h, downlinkEntries, he, List.nil_append]
    rw [Queue.peek_eq_head?, hnormal, List.head?_cons]
    refine ⟨rfl, fun _ => ⟨hq.priority, (Queue.queueCapacity_dropHead _).trans hq.normal⟩, ?_, rfl,
      rfl, rfl⟩
    dsimp only [downlinkEntries]
    rw [Queue.toList_dropHead, he, hnormal, List.nil_append, List.nil_append, List.tail_cons]
  case isFalse he =>
    rw [Queue.empty_iff _ hpos] at he
    obtain ⟨c, l, hl⟩ := List.exists_cons_of_ne_nil he
    have hcb : c = b := by
      rw [downlinkEntries, hl, List.cons_append] at h
      exact (List.cons.inj h).1
    subst hcb
    rw [Queue.peek_eq_head?, hl, List.head?_cons]
    refine ⟨rfl, fun _ => ⟨(Queue.queueCapacity_dropHead _).trans hq.priority, hq.normal⟩, ?_, rfl,
      rfl, rfl⟩
    dsimp only [downlinkEntries]
    rw [Queue.toList_dropHead, hl, List.tail_cons, List.cons_append]

theorem readDownlinkBuffer_nil (h : s.downlinkEntries = []) :
    s.readDownlinkBuffer = (s, .noBufferAvailable) := by
  obtain ⟨hpriority, hnormal⟩ := List.append_eq_nil_iff.mp h
  unfold readDownlinkBuffer
  simp only [Queue.peek_eq_head?, hpriority, hnormal, List.head?_nil, ite_self]

def readsDownlink (k : Nat) (s : LonUsbLinkState) : LonUsbLinkState :=
  (fun s => s.readDownlinkBuffer.1)^[k] s

theorem readsDownlink_append {l rest : List LonUsbQueueBuffer} (hq : DownlinkQueues s)
    (h : s.downlinkEntries = l ++ rest) :
    DownlinkQueues (readsDownlink l.length s) ∧
      (readsDownlink l.length s).downlinkEntries = rest ∧
      (readsDownlink l.length s).shutdown = s.shutdown ∧
      (readsDownlink l.length s).downlinkSeqNumber = s.downlinkSeqNumber := by
  induction l generalizing s with
  | nil => exact ⟨hq, h, rfl, rfl⟩
  | cons b l ih =>
    obtain ⟨-, hread⟩ := readDownlinkBuffer_cons hq h
    have hrest : s.readDownlinkBuffer.1.downlinkEntries = l ++ rest :=
      (List.cons.inj (hread.entries.symm.trans h)).2
    obtain ⟨hq', hentries, hshutdown, hseq⟩ := ih (hread.queues hq) hrest
    exact ⟨hq', hentries, hshutdown.trans hread.shutdown, hseq.trans hread.seqNumber⟩

end LonUsbLinkState

def LonDataFrame.stagedIn (f : LonDataFrame) (buf : LonUsbQueueBuffer) : LonUsbQueueBuffer :=
  let buf := { buf with frameHeader := createFrameHeader buf.frameHeader MSG_FRAME_CMD 0 0 true }
  let buf :=
    if f.shortPduLength = EXT_LENGTH then f.stageExtended buf
    else f.stageShort f.niCommand f.shortPduLength.toNat buf
  { buf with priority := f.priority }

def LonDataFrame.Accepted (f : LonDataFrame) : Prop :=
  f.shortPduLength = EXT_LENGTH → f.extLength ≤ MAX_LON_MSG_EX_LEN

namespace LonUsbLinkState

variable {s t : LonUsbLinkState} {f : LonDataFrame}

def entryOf (s : LonUsbLinkState) (f : LonDataFrame) : LonUsbQueueBuffer :=
  let x := f.stagedIn s.downlinkBufferStaging
  (s.downlinkQueue f).tailSlot.memcpy x x.bufSize

theorem writeLonUsbMsg_eq (hs : s.shutdown = false)
    (hcount : s.getDownlinkBufferCount < MAX_LON_DOWNLINK_BUFFERS) (hf : f.Accepted)
    (hmode : f.niCommand ≠ LonNiLayerModeCmd) :
    s.writeLonUsbMsg f =
      ({ s with downlinkBufferStaging := f.stagedIn s.downlinkBufferStaging }).queueDownlinkBuffer
        (f.stagedIn s.downlinkBufferStaging) := by
  unfold writeLonUsbMsg
  rw [if_neg (by rw [hs]; decide), if_pos hcount, stage]
  unfold LonDataFrame.stagedIn
  dsimp only
  by_cases hext : f.shortPduLength = EXT_LENGTH
  case pos => simp only [if_pos hext, if_pos (hf hext), if_true]
  case neg =>
    have hmode' : ¬(s.lonUsbIfaceType = .u50 ∧ f.niCommand = LonNiLayerModeCmd ∧
      f.shortPduLength ≠ 0) := fun h => hmode h.2.1
    simp only [if_neg hext, if_neg hmode', if_true]

theorem writeLonUsbMsg_spec (hs : s.shutdown = false) (hq : DownlinkQueues s)
    (hcount : s.getDownlinkBufferCount < MAX_LON_DOWNLINK_BUFFERS) (hf : f.Accepted)
    (hmode : f.niCommand ≠ LonNiLayerModeCmd) :
    (s.writeLonUsbMsg f).2 = .noError ∧ DownlinkQueues (s.writeLonUsbMsg f).1 ∧
      (s.writeLonUsbMsg f).1.shutdown = s.shutdown ∧
      (s.writeLonUsbMsg f).1.downlinkSeqNumber = s.downlinkSeqNumber ∧
      ∃ behind, s.downlinkEntries = s.aheadOf f ++ behind ∧
        (s.writeLonUsbMsg f).1.downlinkEntries = s.aheadOf f ++
          ((if (s.downlinkQueue f).queueEntries + 1 < MAX_LON_DOWNLINK_BUFFERS then [s.entryOf f]
            else []) ++ behind) := by
  rw [writeLonUsbMsg_eq hs hcount hf hmode]
  have hpriority : (f.stagedIn s.downlinkBufferStaging).priority = f.priority := rfl
  have htail (q : Queue LonUsbQueueBuffer) (hc : q.queueCapacity = MAX_LON_DOWNLINK_BUFFERS)
      (hlt : q.entries < MAX_LON_DOWNLINK_BUFFERS) : ∃ slot, q.tail = some slot := by
    have hinvalid : ¬q.invalid = true := by
      rw [Queue.invalid_iff, hc]
      decide
    rw [Queue.entries, if_neg hinvalid] at hlt
    exact ⟨_, q.tail_eq_some (by rw [Queue.full_eq_false_iff, hc]; exact hlt)⟩
  unfold queueDownlinkBuffer aheadOf downlinkQueue
  rw [hpriority]
  by_cases hp : f.priority = .highPriority
  case pos =>
    rw [if_pos hp, if_pos hp, if_pos hp]
    obtain ⟨slot, hslot⟩ := htail s.lonUsbDownlinkPriorityQueue hq.priority
      (Nat.lt_of_le_of_lt (Nat.le_add_right _ _) hcount)
    dsimp only
    rw [hslot]
    refine ⟨rfl, ⟨(Queue.queueCapacity_push _ _).trans hq.priority, hq.normal⟩, rfl, rfl,
      s.lonUsbDownlinkNormalQueue.toList, rfl, ?_⟩
    dsimp only [downlinkEntries]
    rw [Queue.toList_push, hq.priority]
    split <;> simp [entryOf, downlinkQueue, hp]
  case neg =>
    rw [if_neg hp, if_neg hp, if_neg hp]
    obtain ⟨slot, hslot⟩ := htail s.lonUsbDownlinkNormalQueue hq.normal
      (Nat.lt_of_le_of_lt (Nat.le_add_left _ _) hcount)
    dsimp only
    rw [hslot]
    refine ⟨rfl, ⟨hq.priority, (Queue.queueCapacity_push _ _).trans hq.normal⟩, rfl, rfl, [],
      (List.append_nil _).symm, ?_⟩
    dsimp only [downlinkEntries]
    rw [Queue.toList_push, hq.normal]
    split <;> simp [entryOf, downlinkQueue, hp]

end LonUsbLinkState

def LonDataFrame.shortBytes (f : LonDataFrame) : List UInt8 :=
  (f.shortPduLength + 1) :: f.niCommand :: f.pdu.bytes f.shortPduLength.toNat

def LonUsbQueueBuffer.carried (x slot old : LonUsbQueueBuffer) : LonUsbQueueBuffer :=
  old.memcpy (slot.memcpy x x.bufSize) (slot.memcpy x x.bufSize).bufSize

section Short

variable {f : LonDataFrame} (hf : f.shortPduLength ≠ EXT_LENGTH) (buf : LonUsbQueueBuffer)

include hf

theorem stagedIn_short :
    f.stagedIn buf =
      { f.stageShort f.niCommand f.shortPduLength.toNat
          { buf with
            frameHeader := createFrameHeader buf.frameHeader MSG_FRAME_CMD 0 0 true } with
        priority := f.priority } := by
  unfold LonDataFrame.stagedIn
  simp only [if_neg hf]

theorem bufSize_stagedIn_short : (f.stagedIn buf).bufSize = 32 + f.shortPduLength.toNat := by
  have := f.shortPduLength.toNat_lt
  rw [stagedIn_short hf]
  change 1312 - (1280 - f.shortPduLength.toNat) = _
  omega

theorem dataFrameSize_stagedIn_short :
    (f.stagedIn buf).dataFrameSize = 2 + f.shortPduLength.toNat := by
  have := f.shortPduLength.toNat_lt
  rw [stagedIn_short hf]
  change 2 + 1280 - (1280 - f.shortPduLength.toNat) = _
  omega

theorem bytes_stagedIn_short :
    (f.stagedIn buf).usbNiDataFrame.image.bytes (2 + f.shortPduLength.toNat) = f.shortBytes := by
  rw [stagedIn_short hf]
  dsimp only [LonDataFrame.stageShort, LonNiFrame.copyPdu, LonNiFrame.setNiCommand,
    LonNiFrame.setShortPduLength]
  apply List.ext_getElem
  · simp only [Image.length_bytes, LonDataFrame.shortBytes, List.length_cons]
    omega
  · intro k hk hk'
    rw [Image.length_bytes] at hk
    rw [Image.getElem_bytes]
    match k with
    | 0 =>
      rw [Image.copy_of_not_mem (by omega), Function.update_of_ne (by decide),
        Function.update_self]
      simp [LonDataFrame.shortBytes]
    | 1 =>
      rw [Image.copy_of_not_mem (by omega), Function.update_self]
      rfl
    | k + 2 =>
      rw [Image.copy_of_mem (by omega) (by omega)]
      simp only [LonDataFrame.shortBytes, List.getElem_cons_succ, Image.getElem_bytes]
      rfl

theorem bytes_carried_short (slot old : LonUsbQueueBuffer) :
    ((f.stagedIn buf).carried slot old).usbNiDataFrame.image.bytes
      ((f.stagedIn buf).carried slot old).dataFrameSize = f.shortBytes := by
  have hsize := bufSize_stagedIn_short hf buf
  unfold LonUsbQueueBuffer.carried
  generalize hx : f.stagedIn buf = x at *
  have hslot : (slot.memcpy x x.bufSize).bufSize = x.bufSize :=
    LonUsbQueueBuffer.bufSize_memcpy _ _ (by omega)
  rw [hslot, LonUsbQueueBuffer.dataFrameSize_memcpy _ _ (by omega),
    LonUsbQueueBuffer.dataFrameSize_memcpy _ _ (by omega), ← hx, dataFrameSize_stagedIn_short hf,
    ← bytes_stagedIn_short hf buf, hx]
  refine Image.bytes_congr fun k hk => ?_
  rw [LonUsbQueueBuffer.image_memcpy_of_lt _ _ (by omega),
    LonUsbQueueBuffer.image_memcpy_of_lt _ _ (by omega)]

end Short

theorem expandFrame_eq {n : Nat} (bs : List UInt8)
    (h : n + bs.count FRAME_SYNC < MAX_EXP_LON_MSG_EX_LEN - 2) :
    expandFrame n bs = some (stuff FRAME_SYNC bs) := by
  induction bs generalizing n with
  | nil => rfl
  | cons b bs ih =>
    rw [expandFrame]
    by_cases hb : b = FRAME_SYNC
    case pos =>
      subst hb
      rw [List.count_cons_self] at h
      simp only [if_true]
      rw [if_neg (by omega), ih (by omega), stuff_cons_sync]
      rfl
    case neg =>
      rw [List.count_cons_of_ne hb] at h
      simp only [if_neg hb]
      rw [if_neg (by omega), ih h, stuff_cons_of_ne hb]
      rfl

theorem expandFrame_eq_some {n : Nat} {bs out : List UInt8} (h : expandFrame n bs = some out) :
    out = stuff FRAME_SYNC bs := by
  induction bs generalizing n out with
  | nil => exact (Option.some.inj h).symm
  | cons b bs ih =>
    rw [expandFrame] at h
    dsimp only at h
    generalize (if b = FRAME_SYNC then n + 1 else n) = n' at h
    split at h
    case isTrue => cases h
    case isFalse =>
      obtain ⟨rest, hrest, rfl⟩ := Option.map_eq_some_iff.mp h
      rw [ih hrest]
      by_cases hb : b = FRAME_SYNC
      case pos => rw [if_pos hb, hb, stuff_cons_sync]; rfl
      case neg => rw [if_neg hb, stuff_cons_of_ne hb]; rfl

def messageFrameCode (seq : UInt8) : UInt8 :=
  (((((⟨FRAME_SYNC, 0, 0, 0⟩ : LonFrameHeader).setCmd MSG_FRAME_CMD).setSeq seq).setAck 1)).frameCode

theorem messageFrameCode_cmd (seq : UInt8) : messageFrameCode seq &&& 0x0F = MSG_FRAME_CMD :=
  forall_byte (P := fun seq => messageFrameCode seq &&& 0x0F = MSG_FRAME_CMD) (by decide +kernel) seq

def messageBytes (seq : UInt8) (frame : List UInt8) : List UInt8 :=
  codePacketBytes (messageFrameCode seq) 1 ++
    stuff FRAME_SYNC (frame ++ [-computeChecksum frame])

namespace LonUsbLinkState

variable {s : LonUsbLinkState}

theorem writeDownlinkMessage_of_expanded (hs : s.shutdown = false) (now : OsalTickCount)
    {frame : List UInt8}
    (hframe : s.downlinkBuffer.usbNiDataFrame.image.bytes s.downlinkBuffer.dataFrameSize = frame)
    (hexpanded : expandFrame frame.length frame = some (stuff FRAME_SYNC frame)) :
    (s.writeDownlinkMessage now).2 = .noError ∧
      (s.writeDownlinkMessage now).1.usbOut =
        s.usbOut ++ messageBytes (sequenceByte s.downlinkSeqNumber) frame := by
  have htrailer (checksum : UInt8) : (if checksum = FRAME_SYNC then [checksum, FRAME_SYNC]
      else [checksum]) = stuff FRAME_SYNC [checksum] := by
    by_cases h : checksum = FRAME_SYNC
    case pos => rw [if_pos h, h]; rfl
    case neg => rw [if_neg h, stuff_cons_of_ne h]; rfl
  have hbuffer : s.announceMessage.downlinkBuffer = s.downlinkBuffer := rfl
  have hout : s.announceMessage.usbOut = s.usbOut ++
      codePacketBytes (messageFrameCode (sequenceByte s.downlinkSeqNumber)) 1 := rfl
  unfold writeDownlinkMessage
  rw [if_neg (by rw [hs]; decide)]
  generalize s.announceMessage = t at *
  dsimp only
  rw [hbuffer, hframe, hexpanded, htrailer]
  refine ⟨rfl, ?_⟩
  dsimp only [halWriteUsb]
  rw [messageBytes, stuff_append, ← List.append_assoc s.usbOut, ← hout]
  split <;> rfl

theorem writeDownlinkMessage_eq (hs : s.shutdown = false) (now : OsalTickCount)
    {frame : List UInt8}
    (hframe : s.downlinkBuffer.usbNiDataFrame.image.bytes s.downlinkBuffer.dataFrameSize = frame)
    (hle : frame.length + frame.count FRAME_SYNC < MAX_EXP_LON_MSG_EX_LEN - 2) :
    (s.writeDownlinkMessage now).2 = .noError ∧
      (s.writeDownlinkMessage now).1.usbOut =
        s.usbOut ++ messageBytes (sequenceByte s.downlinkSeqNumber) frame :=
  writeDownlinkMessage_of_expanded hs now hframe (expandFrame_eq frame hle)

theorem usbOut_writeDownlinkMessage (hs : s.shutdown = false) {now : OsalTickCount}
    {frame : List UInt8}
    (hframe : s.downlinkBuffer.usbNiDataFrame.image.bytes s.downlinkBuffer.dataFrameSize = frame)
    (hok : (s.writeDownlinkMessage now).2 = .noError) :
    (s.writeDownlinkMessage now).1.usbOut =
      s.usbOut ++ messageBytes (sequenceByte s.downlinkSeqNumber) frame := by
  cases hexpanded : expandFrame frame.length frame with
  | some out =>
    have hout := expandFrame_eq_some hexpanded
    rw [hout] at hexpanded
    exact (writeDownlinkMessage_of_expanded hs now hframe hexpanded).2
  | none =>
    have hbuffer : s.announceMessage.downlinkBuffer = s.downlinkBuffer := rfl
    unfold writeDownlinkMessage at hok
    rw [if_neg (by rw [hs]; decide)] at hok
    generalize s.announceMessage = t at *
    dsimp only at hok
    rw [hbuffer, hframe, hexpanded] at hok
    cases hok

end LonUsbLinkState

end LonStack.LonUsb
