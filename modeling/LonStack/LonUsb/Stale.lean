import LonStack.LonUsb.RoundTrip

namespace LonStack.LonUsb

open Lib LonUsbLinkState

variable {f : LonDataFrame} {k m : Nat} {s : LonUsbLinkState}

def LonUsbQueueBuffer.stale (frame : Image) : LonUsbQueueBuffer := { zero with usbNiDataFrame := ⟨frame⟩ }

abbrev extBytes : Image := fun _ => EXT_LENGTH

theorem memcpy_stale (frame : Image) :
    (LonUsbQueueBuffer.stale frame).memcpy (.stale frame) 0 = .stale frame := by
  have hcopy : Image.copy frame 0 frame 0 0 = frame :=
    funext fun _ => Image.copy_of_not_mem (.inr (Nat.zero_le _))
  have hsize : LonUsbQueueBuffer.copySize 0 0 0 = 0 := rfl
  unfold LonUsbQueueBuffer.memcpy LonUsbQueueBuffer.stale
  simp only [LonUsbQueueBuffer.zero, Nat.zero_sub, hcopy, hsize, Nat.not_lt_zero, if_false]

def staleSender (f : LonDataFrame) (k : Nat) (hk : k ≤ MAX_LON_DOWNLINK_BUFFERS) : LonUsbLinkState :=
  { initIfaceStates fun _ => .stale extBytes with
    shutdown := false
    downlinkBuffer := .stale extBytes
    lonUsbDownlinkPriorityQueue :=
      if f.priority = .highPriority then .filled (.stale extBytes) _ k hk
      else .filled (.stale extBytes) _ 0 (Nat.zero_le MAX_LON_DOWNLINK_BUFFERS)
    lonUsbDownlinkNormalQueue :=
      if f.priority = .highPriority then
        .filled (.stale extBytes) _ 0 (Nat.zero_le MAX_LON_DOWNLINK_BUFFERS)
      else .filled (.stale extBytes) _ k hk }

def staleReceiver (frame : Image) (m : Nat) (hm : m ≤ MAX_LON_UPLINK_BUFFERS) : LonUsbLinkState :=
  { initIfaceStates fun _ => .zero with
    shutdown := false
    uplinkBuffer := .stale frame
    uplinkSeqNumber := 1
    lonUsbUplinkNormalQueue := .filled .zero _ m hm }

theorem receiver_staleReceiver (frame : Image) (hm : m ≤ MAX_LON_UPLINK_BUFFERS) :
    Receiver m (staleReceiver frame m hm) where
  queues := ⟨rfl, rfl, rfl, Queue.toList_init _ _, rfl⟩
  u50 := rfl
  idle := rfl
  index := rfl
  waitForUid := rfl
  waitForStatus := rfl
  entries := rfl

section Sending

variable (f) (hk : k < MAX_LON_DOWNLINK_BUFFERS)

theorem downlinkQueue_staleSender :
    (staleSender f k hk.le).downlinkQueue f = .filled (.stale extBytes) _ k hk.le := by
  unfold downlinkQueue staleSender
  by_cases hp : f.priority = .highPriority
  case pos => simp only [if_pos hp]
  case neg => simp only [if_neg hp]

theorem downlinkEntries_staleSender :
    (staleSender f k hk.le).downlinkEntries = List.replicate k (.stale extBytes) := by
  unfold downlinkEntries staleSender
  by_cases hp : f.priority = .highPriority
  case pos => simp only [if_pos hp, Queue.toList_filled, List.replicate_zero, List.append_nil]
  case neg => simp only [if_neg hp, Queue.toList_filled, List.replicate_zero, List.nil_append]

theorem aheadOf_staleSender :
    (staleSender f k hk.le).aheadOf f = List.replicate k (.stale extBytes) := by
  unfold aheadOf
  split
  case isTrue hp =>
    unfold staleSender
    simp only [if_pos hp, Queue.toList_filled]
  case isFalse => exact downlinkEntries_staleSender f hk

theorem downlinkQueues_staleSender : DownlinkQueues (staleSender f k hk.le) := by
  unfold staleSender
  constructor <;> dsimp only <;> split <;> rfl

theorem count_staleSender :
    (staleSender f k hk.le).getDownlinkBufferCount < MAX_LON_DOWNLINK_BUFFERS := by
  have hentries (j : Nat) (hj : j ≤ 16) :
      (Queue.filled (LonUsbQueueBuffer.stale extBytes) 16 j hj).entries = j :=
    if_neg (by rw [Queue.invalid_iff]; exact (by decide : (16 : Nat) ≠ 0))
  unfold getDownlinkBufferCount staleSender
  by_cases hp : f.priority = .highPriority
  case pos =>
    simp only [if_pos hp]
    rw [hentries, hentries]
    exact hk
  case neg =>
    simp only [if_neg hp]
    rw [hentries, hentries, Nat.zero_add]
    exact hk

theorem sender_staleSender (hacc : f.Accepted) (hmode : f.niCommand ≠ LonNiLayerModeCmd) :
    Sender f k (staleSender f k hk.le) where
  shutdown := rfl
  u50 := rfl
  queues := downlinkQueues_staleSender f hk
  entries := by
    rw [downlinkQueue_staleSender f hk]
    rfl
  accepted := (writeLonUsbMsg_spec rfl (downlinkQueues_staleSender f hk) (count_staleSender f hk)
    hacc hmode).1

end Sending

theorem downlinkBuffer_readsDownlink (hq : DownlinkQueues s) {rest : List LonUsbQueueBuffer}
    (h : s.downlinkEntries = List.replicate k (.stale extBytes) ++ rest)
    (hbuffer : s.downlinkBuffer = .stale extBytes) :
    (readsDownlink k s).downlinkBuffer = .stale extBytes := by
  induction k generalizing s with
  | zero => exact hbuffer
  | succ k ih =>
    rw [List.replicate_succ, List.cons_append] at h
    obtain ⟨-, hread⟩ := readDownlinkBuffer_cons hq h
    refine ih (hread.queues hq) (List.cons.inj (hread.entries.symm.trans h)).2 ?_
    rw [hread.buffer, hbuffer]
    exact memcpy_stale extBytes

theorem carry_lastSlot (hacc : f.Accepted) (hmode : f.niCommand ≠ LonNiLayerModeCmd)
    (hk : k < MAX_LON_DOWNLINK_BUFFERS) (hfull : MAX_LON_DOWNLINK_BUFFERS ≤ k + 1)
    (now : OsalTickCount) : (staleSender f k hk.le).carry f now = none := by
  have hs := sender_staleSender f hk hacc hmode
  obtain ⟨-, hqueues, -, -, behind, hbehind, hentries⟩ :=
    writeLonUsbMsg_spec hs.shutdown hs.queues hs.count hacc hmode
  rw [if_neg (by rw [hs.entries]; omega), List.nil_append] at hentries
  rw [downlinkEntries_staleSender f hk, aheadOf_staleSender f hk, List.self_eq_append_right]
    at hbehind
  rw [hbehind] at hentries
  obtain ⟨-, hnil, -, -⟩ := readsDownlink_append hqueues hentries
  rw [carry, readDownlinkBuffer_nil hnil]
  exact if_neg fun h => by cases h.2.1

theorem copySize_dataFrameSize (n : Nat) :
    LonUsbQueueBuffer.copySize 0 (4 + n) n = if n = 0 then 0 else 4 + n := by
  unfold LonUsbQueueBuffer.copySize
  split
  case isTrue h => rw [if_neg (by omega)]
  case isFalse h =>
    have hn : n < 8 := Nat.lt_of_not_le h
    interval_cases n <;> rfl

def extSize (ext : Nat) : Nat := if ext = 0 then 0 else 4 + ext

def sentExtended (f : LonDataFrame) : Image :=
  fun j => if j + 16 < f.extLength then (f.stagedIn .zero).usbNiDataFrame.image j else EXT_LENGTH

theorem stagedIn_extended (hext : f.shortPduLength = EXT_LENGTH) (buf : LonUsbQueueBuffer) :
    f.stagedIn buf =
      { f.stageExtended
          { buf with
            frameHeader := createFrameHeader buf.frameHeader MSG_FRAME_CMD 0 0 true } with
        priority := f.priority } := by
  unfold LonDataFrame.stagedIn
  simp only [if_pos hext]

theorem carried_extended (hext : f.shortPduLength = EXT_LENGTH) :
    ((f.stagedIn .zero).carried (.stale extBytes) (.stale extBytes)).dataFrameSize =
        extSize f.extLength ∧
      ((f.stagedIn .zero).carried (.stale extBytes) (.stale extBytes)).usbNiDataFrame.image =
        sentExtended f := by
  have hsize : (f.stagedIn .zero).bufSize = 8 + f.extLength := by rw [stagedIn_extended hext]; rfl
  have hdata : (f.stagedIn .zero).dataFrameSize = 4 + f.extLength := by
    rw [stagedIn_extended hext]
    change 4 + 4 + f.extLength - 4 = _
    omega
  unfold sentExtended LonUsbQueueBuffer.carried
  generalize f.stagedIn .zero = x at *
  have hslot : ((LonUsbQueueBuffer.stale extBytes).memcpy x x.bufSize).bufSize = x.bufSize :=
    LonUsbQueueBuffer.bufSize_memcpy _ _ (by omega)
  rw [hslot, hsize]
  constructor
  · change LonUsbQueueBuffer.copySize 0 (LonUsbQueueBuffer.copySize 0 x.dataFrameSize _) _ = _
    rw [hdata, show 8 + f.extLength - LonUsbQueueBuffer.dataFrameSizeOffset = f.extLength from
      Nat.add_sub_cancel_left 8 _, copySize_dataFrameSize, extSize]
    split
    case isTrue h => rw [h]; rfl
    case isFalse h => rw [copySize_dataFrameSize, if_neg h]
  · funext j
    by_cases hj : j + 16 < f.extLength
    case pos =>
      rw [LonUsbQueueBuffer.image_memcpy_of_lt _ _ (by omega),
        LonUsbQueueBuffer.image_memcpy_of_lt _ _ (by omega), if_pos hj]
    case neg =>
      rw [LonUsbQueueBuffer.image_memcpy_of_le _ _ (by omega), if_neg hj]
      rfl

theorem image_stagedIn_extended (hext : f.shortPduLength = EXT_LENGTH) (buf : LonUsbQueueBuffer)
    {j : Nat} (hj : j < 4) :
    (f.stagedIn buf).usbNiDataFrame.image j =
      Function.update
        (Image.write (Function.update buf.usbNiDataFrame.image 0 EXT_LENGTH) 2
          [UInt8.ofNat ((f.extLength + 1) / 256), UInt8.ofNat (f.extLength + 1)]) 1 f.niCommand j := by
  rw [stagedIn_extended hext]
  exact Image.copy_of_not_mem (.inl hj)

theorem sentExtended_zero (hext : f.shortPduLength = EXT_LENGTH) : sentExtended f 0 = EXT_LENGTH := by
  unfold sentExtended
  split
  case isTrue => exact image_stagedIn_extended hext _ (by decide)
  case isFalse => rfl

theorem sentExtended_one (hext : f.shortPduLength = EXT_LENGTH) (h : 17 < f.extLength) :
    sentExtended f 1 = f.niCommand :=
  (if_pos h).trans (image_stagedIn_extended hext _ (by decide))

theorem sentExtended_two (hext : f.shortPduLength = EXT_LENGTH) (h : 18 < f.extLength) :
    sentExtended f 2 = UInt8.ofNat ((f.extLength + 1) / 256) :=
  (if_pos h).trans (image_stagedIn_extended hext _ (by decide))

theorem sentExtended_three (hext : f.shortPduLength = EXT_LENGTH) (h : 19 < f.extLength) :
    sentExtended f 3 = UInt8.ofNat (f.extLength + 1) :=
  (if_pos h).trans (image_stagedIn_extended hext _ (by decide))

theorem sentExtended_of_le {j : Nat} (h : f.extLength ≤ j + 16) : sentExtended f j = EXT_LENGTH :=
  if_neg (Nat.not_lt_of_le h)

theorem carry_extended (hext : f.shortPduLength = EXT_LENGTH) (hacc : f.Accepted)
    (hmode : f.niCommand ≠ LonNiLayerModeCmd) (hk : k < MAX_LON_DOWNLINK_BUFFERS)
    (hroom : k + 1 < MAX_LON_DOWNLINK_BUFFERS) (now : OsalTickCount) {bytes : List UInt8}
    (h : (staleSender f k hk.le).carry f now = some bytes) :
    bytes = messageBytes (sequenceByte 0) ((sentExtended f).bytes (extSize f.extLength)) := by
  have hs := sender_staleSender f hk hacc hmode
  obtain ⟨-, hshutdown, hseq, hbuffer⟩ := hs.reached_spec hmode hroom
  obtain ⟨-, hqueues, -, -, behind, -, hentries⟩ :=
    writeLonUsbMsg_spec hs.shutdown hs.queues hs.count hacc hmode
  have hold : ((staleSender f k hk.le).writeLonUsbMsg f).1.downlinkBuffer = .stale extBytes := by
    rw [writeLonUsbMsg_eq hs.shutdown hs.count hacc hmode]
    exact downlinkBuffer_queueDownlinkBuffer _ _
  rw [aheadOf_staleSender f hk] at hentries hbuffer
  rw [List.length_replicate, downlinkBuffer_readsDownlink hqueues hentries hold,
    downlinkQueue_staleSender f hk] at hbuffer
  obtain ⟨hsize, himage⟩ := carried_extended hext
  have hframe : ((staleSender f k hk.le).reached f).downlinkBuffer.usbNiDataFrame.image.bytes
      ((staleSender f k hk.le).reached f).downlinkBuffer.dataFrameSize =
        (sentExtended f).bytes (extSize f.extLength) := by
    rw [hbuffer, ← hsize, ← himage]
    rfl
  rw [carry] at h
  split at h
  case isFalse => cases h
  case isTrue hok =>
    obtain rfl := Option.some.inj h
    have hout := usbOut_writeDownlinkMessage hshutdown hframe hok.2.2
    change (((staleSender f k hk.le).reached f).writeDownlinkMessage now).1.usbOut.drop _ = _
    rw [hout, hseq]
    exact List.drop_left

end LonStack.LonUsb
