import LonStack.Iup.Record

namespace LonStack

open Lib

namespace Iup

variable (host : IupPlatform) (s : Iup)

def newCalls (s' : Iup) : List IupCall := s'.calls.drop s.calls.length

theorem newCalls_call (c : IupCall) : s.newCalls (s.call c) = [c] := by
  rw [newCalls, call, List.drop_left]

theorem newCalls_self {s' : Iup} (h : s'.calls = s.calls) : s.newCalls s' = [] := by
  rw [newCalls, h, List.drop_length]

def Stores (drv : FlashDriver) (p : APPReceiveParam) (apdu : Apdu) : Prop :=
  8 < p.pduSize ∧ apdu.iupSession = s.initData.iupSessionNumber ∧
    s.iupPersistData.iupConfirmResultSucceed ≠ iupTrue ∧
      s.isPacketMissed host (apdu.swappedShort 5) = true ∧ drv.writes = true

instance (drv : FlashDriver) (p : APPReceiveParam) (apdu : Apdu) : Decidable (s.Stores host drv p apdu) :=
  inferInstanceAs (Decidable (_ ∧ _))

def packetData (apdu : Apdu) : List UInt8 :=
  apdu.slice (Apdu.dataOffset + 7) s.initData.iupPacketLen.toNat

def store (apdu : Apdu) : Iup :=
  { s with
    iupRcvdPckCount := s.iupRcvdPckCount + 1
    flash := (s.flash.write (host.packetAt s.initData.iupPacketLen (apdu.swappedShort 5))
      (s.packetData apdu)).write (host.markerAt (apdu.swappedShort 5)) [EEPROM_WRITTEN] }

def confirmed : Iup :=
  { s with
    iupPersistData := { s.iupPersistData with iupConfirmResultSucceed := iupTrue }
    flash := s.flash.write (host.iupFlashOffset + 23) [iupTrue] }

end Iup

namespace Iup

variable {host : IupPlatform} {now : UInt32} {drv : FlashDriver} {p : APPReceiveParam} {apdu : Apdu}
  {s : Iup}

theorem handleNmeIupTransfer_of_stores (h : s.Stores host drv p apdu) :
    s.handleNmeIupTransfer host p apdu drv = s.store host apdu := by
  obtain ⟨hsize, hsession, hconfirm, hmissed, hdrv⟩ := h
  rw [handleNmeIupTransfer, if_neg (Nat.not_le.mpr hsize), if_neg (not_not_intro hsession),
    if_neg hconfirm]
  dsimp only
  rw [hmissed, hdrv]
  rfl

theorem handleNmeIupTransfer_of_not_stores (h : ¬s.Stores host drv p apdu) :
    s.handleNmeIupTransfer host p apdu drv = s := by
  unfold handleNmeIupTransfer
  split
  · rfl
  rename_i hsize
  split
  · rfl
  rename_i hsession
  split
  · rfl
  rename_i hconfirm
  dsimp only
  split
  · rfl
  rename_i hmissed
  split
  · rfl
  rename_i hdrv
  refine absurd ⟨Nat.not_le.mp hsize, not_not.mp hsession, hconfirm, ?_, ?_⟩ h
  · simpa using hmissed
  · simpa using hdrv

inductive Confirms (host : IupPlatform) (s : Iup) (p : APPReceiveParam) (apdu : Apdu) : Iup → Prop
  | ignored : apdu.iupSession ≠ s.initData.iupSessionNumber → Confirms host s p apdu s
  | rejected : Confirms host s p apdu (s.call (.nmndRespond p.reqId .invalidParameter))
  | notViable : Confirms host s p apdu
      (s.call (.sendResponse p.reqId (.confirm (apdu.data 0) IUP_CONFIRM_RESULT_IMAGE_NOT_VIABLE [])))
  | counted : apdu.iupSession = s.initData.iupSessionNumber →
      s.initData.iupPacketCount = s.iupRcvdPckCount →
      Confirms host s p apdu ((s.confirmed host).call
        (.sendResponse p.reqId (.confirm (apdu.data 0) IUP_CONFIRM_RESULT_SUCESS [])))
  | complete : apdu.iupSession = s.initData.iupSessionNumber → s.missedPackets host = [] →
      Confirms host s p apdu
        (s.call (.sendResponse p.reqId (.confirm (apdu.data 0) IUP_CONFIRM_RESULT_SUCESS [])))
  | missed : Confirms host s p apdu
      (s.call (.sendResponse p.reqId
        (.confirm (apdu.data 0) IUP_CONFIRM_RESULT_PACKET_MISSED (s.missedPackets host))))

theorem confirms (host : IupPlatform) (p : APPReceiveParam) (apdu : Apdu) (s : Iup) :
    Confirms host s p apdu (s.handleNmeIupConfirm host p apdu) := by
  unfold handleNmeIupConfirm
  split
  case isTrue => exact .rejected
  case isFalse =>
    split
    case isTrue h => exact .ignored h
    case isFalse hsession =>
      have hsession := not_not.mp hsession
      dsimp only
      split
      case isTrue => exact .notViable
      case isFalse =>
        split
        case isTrue h => exact .counted hsession h
        case isFalse =>
          split
          case isTrue h => exact .complete hsession h
          case isFalse => exact .missed

theorem handleNmeIupInit_eq (host : IupPlatform) (now : UInt32) (p : APPReceiveParam) (apdu : Apdu)
    (s : Iup) :
    ∃ d timer c, s.handleNmeIupInit host now p apdu =
      ({ s.setInitData d with iupInitFirmwareTimer := timer } : Iup).call c ∧
        ∀ reqId subCode code nums, c ≠ .sendResponse reqId (.confirm subCode code nums) := by
  unfold handleNmeIupInit
  split
  · exact ⟨s.initData, s.iupInitFirmwareTimer, _, rfl, fun _ _ _ _ h => by cases h⟩
  dsimp only
  split
  · exact ⟨s.initData, s.iupInitFirmwareTimer, _, rfl, fun _ _ _ _ h => by cases h⟩
  split
  · exact ⟨s.initData, s.iupInitFirmwareTimer, _, rfl, fun _ _ _ _ h => by cases h⟩
  split
  · exact ⟨s.initData, s.iupInitFirmwareTimer, _, rfl, fun _ _ _ _ h => by cases h⟩
  split
  · exact ⟨requestedInitData apdu, s.iupInitFirmwareTimer, _, rfl, fun _ _ _ _ h => by cases h⟩
  · exact ⟨requestedInitData apdu, _, _, rfl, fun _ _ _ _ h => by cases h⟩

theorem calls_initUpdateProcess (host : IupPlatform) (s : Iup) (drv : FlashDriver) :
    (s.initUpdateProcess host drv).calls = s.calls := by
  unfold initUpdateProcess
  dsimp only
  split
  · rfl
  split
  · rfl
  · rfl

end Iup

theorem Lib.countP_range_add {f g : Nat → Bool} {k n : Nat} (hk : k < n) (hf : f k = false)
    (hg : g k = true) (hother : ∀ i < n, i ≠ k → g i = f i) :
    (List.range n).countP g = (List.range n).countP f + 1 := by
  induction n with
  | zero => exact absurd hk (Nat.not_lt_zero k)
  | succ n ih =>
    rw [List.range_succ, List.countP_append, List.countP_append, List.countP_singleton,
      List.countP_singleton]
    rcases Nat.lt_succ_iff_lt_or_eq.mp hk with hlt | rfl
    · rw [ih hlt fun i hi => hother i (Nat.lt_succ_of_lt hi),
        hother n (Nat.lt_succ_self n) (by omega), Nat.add_right_comm]
    · have hsame : (List.range k).countP g = (List.range k).countP f :=
        List.countP_congr fun i hi => by
          have hlt := List.mem_range.mp hi
          rw [hother i (Nat.lt_succ_of_lt hlt) (Nat.ne_of_lt hlt)]
      rw [hsame, hf, hg]
      rfl

namespace Iup

section

variable (host : IupPlatform) (s : Iup)

def received (k : Nat) : Bool :=
  s.flash (host.iupFlashOffset + iupPersistDataLen + k) != EEPROM_NOT_WRITTEN

def receivedCount (count : Nat) : Nat := (List.range count).countP (s.received host)

def recordedData : IupInitData := .ofImage s.flash (host.iupFlashOffset + 1)

def HasRecord : Prop := s.flash host.iupFlashOffset = IUP_PERSIST_DATA_VALID

instance : Decidable (s.HasRecord host) := inferInstanceAs (Decidable (_ = _))

structure Recorded : Prop where
  valid : s.HasRecord host
  initData : s.recordedData host = s.initData

instance : Decidable (s.Recorded host) :=
  decidable_of_iff (_ ∧ _) ⟨fun h => ⟨h.1, h.2⟩, fun h => ⟨h.valid, h.initData⟩⟩

def placed (d : IupInitData) (n : Nat) : List UInt8 :=
  s.flash.slice (host.partStart + (n - 1) * d.iupPacketLen.toNat) d.iupPacketLen.toNat

structure InPlace (n : Nat) : Prop where
  pos : 0 < n
  le : n ≤ s.initData.iupPacketCount.toNat
  clear : host.Clear s.initData.iupPacketLen.toNat n

instance (n : Nat) : Decidable (s.InPlace host n) :=
  decidable_of_iff (_ ∧ _ ∧ _) ⟨fun h => ⟨h.1, h.2.1, h.2.2⟩, fun h => ⟨h.pos, h.le, h.clear⟩⟩

structure Consistent : Prop where
  valid : s.HasRecord host
  room : (s.recordedData host).iupPacketCount.toNat ≤ IupPlatform.markerRoom
  counted : s.iupRcvdPckCount.toNat = s.receivedCount host (s.recordedData host).iupPacketCount.toNat
  clear : ∀ k < (s.recordedData host).iupPacketCount.toNat, s.received host k = true →
    host.Clear (s.recordedData host).iupPacketLen.toNat (k + 1)

end

variable {host : IupPlatform} {s s' : Iup}

def KeepsRecord (host : IupPlatform) (s s' : Iup) : Prop :=
  ∀ k < 23, s'.flash (host.iupFlashOffset + k) = s.flash (host.iupFlashOffset + k)

theorem KeepsRecord.recordedData (h : KeepsRecord host s s') :
    s'.recordedData host = s.recordedData host :=
  IupInitData.ofImage_congr fun k hk => by
    have hk : k < 22 := hk
    rw [Nat.add_assoc]
    exact h (1 + k) (by omega)

theorem KeepsRecord.hasRecord (h : KeepsRecord host s s') :
    s'.HasRecord host ↔ s.HasRecord host := by
  rw [HasRecord, HasRecord, show s'.flash host.iupFlashOffset = s.flash host.iupFlashOffset from
    h 0 (by decide)]

def KeepsMarkers (host : IupPlatform) (s s' : Iup) : Prop :=
  ∀ k < IupPlatform.markerRoom, s'.received host k = s.received host k

theorem KeepsMarkers.receivedCount (h : KeepsMarkers host s s') {count : Nat}
    (hcount : count ≤ IupPlatform.markerRoom) :
    s'.receivedCount host count = s.receivedCount host count :=
  List.countP_congr fun k hk => by
    rw [h k (Nat.lt_of_lt_of_le (List.mem_range.mp hk) hcount)]

theorem Consistent.keep (h : s.Consistent host) (hrecord : KeepsRecord host s s')
    (hmarkers : KeepsMarkers host s s') (hcount : s'.iupRcvdPckCount = s.iupRcvdPckCount) :
    s'.Consistent host where
  valid := hrecord.hasRecord.mpr h.valid
  room := by
    rw [hrecord.recordedData]
    exact h.room
  counted := by
    rw [hrecord.recordedData, hcount, hmarkers.receivedCount h.room]
    exact h.counted
  clear k hk hreceived := by
    rw [hrecord.recordedData] at hk ⊢
    rw [hmarkers k (Nat.lt_of_lt_of_le hk h.room)] at hreceived
    exact h.clear k hk hreceived

section

variable {apdu : Apdu} {n : UInt16}

theorem length_packetData (s : Iup) (apdu : Apdu) :
    (s.packetData apdu).length = s.initData.iupPacketLen.toNat := Image.length_slice _ _ _

theorem store_flash (hhost : host.Sound) (hroom : s.initData.iupPacketCount.toNat ≤ IupPlatform.markerRoom)
    (hn : s.InPlace host (apdu.swappedShort 5).toNat) :
    (s.store host apdu).flash =
      (s.flash.write (host.partStart +
          ((apdu.swappedShort 5).toNat - 1) * s.initData.iupPacketLen.toNat)
        (s.packetData apdu)).write
          (host.iupFlashOffset + iupPersistDataLen + ((apdu.swappedShort 5).toNat - 1))
            [EEPROM_WRITTEN] := by
  rw [store, IupPlatform.markerAt_eq hhost hn.pos (Nat.le_trans hn.le hroom),
    IupPlatform.packetAt_eq hn.pos hn.clear]

theorem store_block (hhost : host.Sound)
    (hroom : s.initData.iupPacketCount.toNat ≤ IupPlatform.markerRoom)
    (hn : s.InPlace host (apdu.swappedShort 5).toNat) {k : Nat} (hk : k < EEPROM_BLOCK_SIZE)
    (hne : k ≠ iupPersistDataLen + ((apdu.swappedShort 5).toNat - 1)) :
    (s.store host apdu).flash (host.iupFlashOffset + k) = s.flash (host.iupFlashOffset + k) := by
  have hclear := hn.clear
  have hpos := hn.pos
  have hlength := length_packetData s apdu
  rw [store_flash hhost hroom hn]
  have hmarker : ∀ m : Image, m.write
      (host.iupFlashOffset + iupPersistDataLen + ((apdu.swappedShort 5).toNat - 1)) [EEPROM_WRITTEN]
        (host.iupFlashOffset + k) = m (host.iupFlashOffset + k) := by
    intro m
    rcases Nat.lt_or_gt_of_ne hne with hlt | hgt
    · exact m.write_of_lt _ (by omega)
    · exact m.write_of_le _ (by simp only [List.length_singleton]; omega)
  rw [hmarker]
  rcases hclear.apart with hle | hle
  · apply Image.write_of_le
    obtain ⟨j, hj⟩ : ∃ j, (apdu.swappedShort 5).toNat = j + 1 :=
      ⟨(apdu.swappedShort 5).toNat - 1, by omega⟩
    rw [hj, Nat.succ_mul] at hle
    rw [hlength, hj, Nat.add_sub_cancel]
    omega
  · apply Image.write_of_lt
    omega

theorem store_marker (hhost : host.Sound)
    (hroom : s.initData.iupPacketCount.toNat ≤ IupPlatform.markerRoom)
    (hn : s.InPlace host (apdu.swappedShort 5).toNat) :
    (s.store host apdu).received host ((apdu.swappedShort 5).toNat - 1) = true := by
  rw [received, store_flash hhost hroom hn]
  have hwrite := Image.write_of_mem
    (s.flash.write (host.partStart +
      ((apdu.swappedShort 5).toNat - 1) * s.initData.iupPacketLen.toNat) (s.packetData apdu))
    [EEPROM_WRITTEN] (i := host.iupFlashOffset + iupPersistDataLen +
      ((apdu.swappedShort 5).toNat - 1)) (k := 0) (by decide)
  rw [Nat.add_zero] at hwrite
  rw [hwrite]
  decide

theorem write_placed {m : Image} {d : IupInitData} {k n : Nat} {bytes : List UInt8}
    (hlength : bytes.length = d.iupPacketLen.toNat) (hk : 0 < k) (hn : 0 < n) (hne : k ≠ n) :
    (m.write (host.partStart + (n - 1) * d.iupPacketLen.toNat) bytes).slice
        (host.partStart + (k - 1) * d.iupPacketLen.toNat) d.iupPacketLen.toNat =
      m.slice (host.partStart + (k - 1) * d.iupPacketLen.toNat) d.iupPacketLen.toNat := by
  apply (Image.OnlyIn.write m _ bytes).slice_eq
  rw [hlength]
  rcases Nat.lt_or_gt_of_ne hne with hlt | hgt
  · left
    have hmul := Nat.mul_le_mul_right d.iupPacketLen.toNat (show k - 1 + 1 ≤ n - 1 by omega)
    rw [Nat.succ_mul] at hmul
    omega
  · right
    have hmul := Nat.mul_le_mul_right d.iupPacketLen.toNat (show n - 1 + 1 ≤ k - 1 by omega)
    rw [Nat.succ_mul] at hmul
    omega

theorem block_placed {m : Image} {d : IupInitData} {k a : Nat} {bytes : List UInt8}
    (hclear : host.Clear d.iupPacketLen.toNat k) (hk : 0 < k)
    (ha : a + bytes.length ≤ EEPROM_BLOCK_SIZE) :
    (m.write (host.iupFlashOffset + a) bytes).slice
        (host.partStart + (k - 1) * d.iupPacketLen.toNat) d.iupPacketLen.toNat =
      m.slice (host.partStart + (k - 1) * d.iupPacketLen.toNat) d.iupPacketLen.toNat := by
  apply (Image.OnlyIn.write m _ bytes).slice_eq
  rcases hclear.apart with hle | hle
  · left
    obtain ⟨i, rfl⟩ : ∃ i, k = i + 1 := ⟨k - 1, by omega⟩
    rw [Nat.succ_mul] at hle
    rw [Nat.add_sub_cancel]
    omega
  · right
    omega

theorem store_placed (hhost : host.Sound)
    (hroom : s.initData.iupPacketCount.toNat ≤ IupPlatform.markerRoom)
    (hn : s.InPlace host (apdu.swappedShort 5).toNat) {k : Nat} (hk : 0 < k)
    (hclear : host.Clear s.initData.iupPacketLen.toNat k) :
    (s.store host apdu).placed host s.initData k =
      if k = (apdu.swappedShort 5).toNat then s.packetData apdu else s.placed host s.initData k := by
  have hpos := hn.pos
  have hle := hn.le
  rw [placed, store_flash hhost hroom hn, Nat.add_assoc host.iupFlashOffset]
  rw [block_placed hclear hk (by
    have hroom : s.initData.iupPacketCount.toNat ≤ 4070 := hroom
    simp only [iupPersistDataLen, EEPROM_BLOCK_SIZE, List.length_singleton]
    omega)]
  by_cases hkn : k = (apdu.swappedShort 5).toNat
  case pos =>
    have hwrite := Image.slice_write s.flash (host.partStart +
      ((apdu.swappedShort 5).toNat - 1) * s.initData.iupPacketLen.toNat) (s.packetData apdu)
    rw [length_packetData] at hwrite
    rw [if_pos hkn, hkn, hwrite]
  case neg => rw [if_neg hkn, write_placed (length_packetData s apdu) hk hpos hkn, placed]

theorem keepsRecord_store (hhost : host.Sound)
    (hroom : s.initData.iupPacketCount.toNat ≤ IupPlatform.markerRoom)
    (hn : s.InPlace host (apdu.swappedShort 5).toNat) : KeepsRecord host s (s.store host apdu) :=
  fun k hk => store_block hhost hroom hn (show k < 4096 by omega)
    (show k ≠ 26 + ((apdu.swappedShort 5).toNat - 1) by omega)

theorem received_store (hhost : host.Sound)
    (hroom : s.initData.iupPacketCount.toNat ≤ IupPlatform.markerRoom)
    (hn : s.InPlace host (apdu.swappedShort 5).toNat) {k : Nat} (hk : k < IupPlatform.markerRoom)
    (hne : k ≠ (apdu.swappedShort 5).toNat - 1) :
    (s.store host apdu).received host k = s.received host k := by
  have hk : k < 4070 := hk
  rw [received, received, Nat.add_assoc, store_block hhost hroom hn
    (show 26 + k < 4096 by omega) (show 26 + k ≠ 26 + ((apdu.swappedShort 5).toNat - 1) by omega)]

theorem Stores.missed {drv : FlashDriver} {p : APPReceiveParam} (h : s.Stores host drv p apdu)
    (hhost : host.Sound) (hpos : 0 < (apdu.swappedShort 5).toNat)
    (hroom : (apdu.swappedShort 5).toNat ≤ IupPlatform.markerRoom) :
    s.received host ((apdu.swappedShort 5).toNat - 1) = false := by
  have hmissed := h.2.2.2.1
  rw [isPacketMissed, IupPlatform.markerAt_eq hhost hpos hroom, decide_eq_true_iff] at hmissed
  rw [received, hmissed]
  exact bne_self_eq_false _

theorem Consistent.store {drv : FlashDriver} {p : APPReceiveParam} (h : s.Consistent host)
    (hhost : host.Sound) (hrecorded : s.Recorded host) (hstores : s.Stores host drv p apdu)
    (hn : s.InPlace host (apdu.swappedShort 5).toNat) : (s.store host apdu).Consistent host := by
  have hdata := hrecorded.initData
  have hroom : s.initData.iupPacketCount.toNat ≤ IupPlatform.markerRoom := hdata ▸ h.room
  have hpos := hn.pos
  have hle := hn.le
  have hrecord := keepsRecord_store hhost hroom hn
  have hcount : (s.store host apdu).receivedCount host s.initData.iupPacketCount.toNat =
      s.receivedCount host s.initData.iupPacketCount.toNat + 1 :=
    countP_range_add (k := (apdu.swappedShort 5).toNat - 1) (by omega)
      (hstores.missed hhost hpos (Nat.le_trans hle hroom)) (store_marker hhost hroom hn)
      fun k hk hne => received_store hhost hroom hn (Nat.lt_of_lt_of_le hk hroom) hne
  have hcounted := h.counted
  rw [hdata] at hcounted
  constructor
  · exact hrecord.hasRecord.mpr h.valid
  · rw [hrecord.recordedData]
    exact h.room
  · have hbound : s.receivedCount host s.initData.iupPacketCount.toNat ≤ 4070 :=
      Nat.le_trans (by
        have := List.countP_le_length (p := s.received host)
          (l := List.range s.initData.iupPacketCount.toNat)
        rwa [List.length_range] at this) hroom
    rw [hrecord.recordedData, hdata, hcount, ← hcounted, Iup.store]
    rw [← hcounted] at hbound
    rw [UInt16.toNat_add]
    change (s.iupRcvdPckCount.toNat + 1) % 65536 = s.iupRcvdPckCount.toNat + 1
    omega
  · intro k hk hreceived
    rw [hrecord.recordedData] at hk ⊢
    by_cases hnew : k = (apdu.swappedShort 5).toNat - 1
    case pos =>
      rw [hdata, hnew, Nat.sub_add_cancel hpos]
      exact hn.clear
    case neg =>
      rw [received_store hhost hroom hn (Nat.lt_of_lt_of_le hk h.room) hnew] at hreceived
      exact h.clear k hk hreceived

end

theorem keeps_flag {a : Nat} (ha : 23 ≤ a) (ha' : a < iupPersistDataLen) {x : UInt8}
    (hflash : s'.flash = s.flash.write (host.iupFlashOffset + a) [x]) :
    KeepsRecord host s s' ∧ KeepsMarkers host s s' := by
  have ha' : a < 26 := ha'
  constructor
  · intro k hk
    rw [hflash]
    exact Image.write_of_lt _ _ (by omega)
  · intro k hk
    rw [received, received, hflash, Image.write_of_le _ _ (by
      simp only [List.length_singleton, iupPersistDataLen]
      omega)]

theorem Consistent.confirmed (h : s.Consistent host) : (s.confirmed host).Consistent host :=
  have hkeeps : KeepsRecord host s (s.confirmed host) ∧ KeepsMarkers host s (s.confirmed host) :=
    keeps_flag (a := 23) (by decide) (by decide) rfl
  h.keep hkeeps.1 hkeeps.2 rfl

theorem initUpdateProcess_flash (host : IupPlatform) (s : Iup) (drv : FlashDriver)
    (hopens : drv.opens = true) (herases : drv.erases = true) :
    (s.initUpdateProcess host drv).flash =
      ((s.flash.fill host.iupFlashOffset EEPROM_BLOCK_SIZE 0xFF).fill host.partStart host.partSize
        0xFF).write host.iupFlashOffset (1 :: s.initData.bytes) := by
  unfold initUpdateProcess
  simp only [hopens, herases, Bool.not_true, Bool.false_eq_true, if_false]
  rfl

theorem received_initUpdateProcess (host : IupPlatform) (s : Iup) (drv : FlashDriver)
    (hopens : drv.opens = true) (herases : drv.erases = true) {k : Nat}
    (hk : k < IupPlatform.markerRoom) : (s.initUpdateProcess host drv).received host k = false := by
  have hk : k < 4070 := hk
  rw [received, initUpdateProcess_flash host s drv hopens herases, Image.write_of_le]
  · by_cases hpart : host.partStart ≤ host.iupFlashOffset + iupPersistDataLen + k ∧
        host.iupFlashOffset + iupPersistDataLen + k < host.partStart + host.partSize
    case pos =>
      rw [Image.fill_of_mem hpart.1 hpart.2]
      decide
    case neg =>
      rw [Image.fill_of_not_mem (by omega), Image.fill_of_mem (by omega) (by
        simp only [iupPersistDataLen, EEPROM_BLOCK_SIZE]
        omega)]
      decide
  · rw [List.length_cons, length_bytes_initData]
    simp only [iupPersistDataLen, sizeofInitData]
    omega

theorem consistent_initUpdateProcess (host : IupPlatform) (s : Iup) (drv : FlashDriver)
    (hopens : drv.opens = true) (herases : drv.erases = true)
    (hroom : s.initData.iupPacketCount.toNat ≤ IupPlatform.markerRoom) :
    (s.initUpdateProcess host drv).Consistent host ∧
      (s.initUpdateProcess host drv).Recorded host := by
  have hflash := initUpdateProcess_flash host s drv hopens herases
  have hdata : (s.initUpdateProcess host drv).initData = s.initData := by
    unfold initUpdateProcess
    simp only [hopens, herases, Bool.not_true, Bool.false_eq_true, if_false]
    rfl
  have hrcvd : (s.initUpdateProcess host drv).iupRcvdPckCount = 0 := by
    unfold initUpdateProcess
    simp only [hopens, herases, Bool.not_true, Bool.false_eq_true, if_false]
    rfl
  have hvalid : (s.initUpdateProcess host drv).HasRecord host := by
    rw [HasRecord, hflash]
    exact Image.write_of_mem _ (1 :: s.initData.bytes) (k := 0) (by
      rw [List.length_cons]
      exact Nat.succ_pos _)
  have hrecorded : (s.initUpdateProcess host drv).recordedData host = s.initData := by
    apply IupInitData.ofImage_of_slice
    rw [hflash]
    have hslice := Image.slice_write
      (Function.update ((s.flash.fill host.iupFlashOffset EEPROM_BLOCK_SIZE 0xFF).fill host.partStart
        host.partSize 0xFF) host.iupFlashOffset 1) (host.iupFlashOffset + 1) s.initData.bytes
    rw [length_bytes_initData] at hslice
    exact hslice
  refine ⟨⟨hvalid, ?_, ?_, ?_⟩, hvalid, hrecorded.trans hdata.symm⟩
  · rw [hrecorded]
    exact hroom
  · rw [hrcvd, hrecorded, receivedCount, eq_comm]
    refine List.countP_eq_zero.mpr fun k hk => ?_
    rw [received_initUpdateProcess host s drv hopens herases
      (Nat.lt_of_lt_of_le (List.mem_range.mp hk) hroom)]
    exact Bool.false_ne_true
  · intro k hk hreceived
    rw [hrecorded] at hk
    rw [received_initUpdateProcess host s drv hopens herases (Nat.lt_of_lt_of_le hk hroom)] at hreceived
    exact absurd hreceived Bool.false_ne_true

end Iup

end LonStack
