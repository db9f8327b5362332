import LonStack.Iup.Refused

namespace LonStack

structure TransferAccess where
  source : Nat
  length : Nat
  image : Nat
  marker : Nat
  deriving DecidableEq, Repr

structure IupPlatform.FitsFlash (host : IupPlatform) : Prop where
  partition : host.partStart + host.partSize ≤ 2 ^ 32
  block : host.Sound

namespace TransferAccess

structure InBounds (host : IupPlatform) (d : IupInitData) (p : APPReceiveParam) (a : TransferAccess) :
    Prop where
  source : ∀ k < a.length, a.source + k < p.pduSize
  image : ∀ k < a.length,
    host.partStart ≤ a.image + k ∧ a.image + k < host.partStart + host.partSize
  marker : host.iupFlashOffset + iupPersistDataLen ≤ a.marker ∧
    a.marker < host.iupFlashOffset + iupPersistDataLen + d.iupPacketCount.toNat

end TransferAccess

namespace Iup

section

variable (host : IupPlatform) (drv : FlashDriver) (p : APPReceiveParam) (apdu : Apdu) (s : Iup)

def transferAccess : Option TransferAccess :=
  if s.Stores host drv p apdu then
    some
      { source := Apdu.dataOffset + 7
        length := s.initData.iupPacketLen.toNat
        image := host.packetAt s.initData.iupPacketLen (apdu.swappedShort 5)
        marker := host.markerAt (apdu.swappedShort 5) }
  else none

def transferError : LonStatusCode :=
  if p.pduSize ≤ 2 then .invalidParameter
  else if 8 < p.pduSize ∧ apdu.iupSession ≠ s.initData.iupSessionNumber then .iupInvalidParameter
  else .noError

def access (a : TransferAccess) : Iup :=
  { s with
    iupRcvdPckCount := s.iupRcvdPckCount + 1
    flash := (s.flash.write a.image (apdu.slice a.source a.length)).write a.marker [EEPROM_WRITTEN] }

def Accepted : Prop :=
  ∃ request : Apdu, ¬host.RefusesImage request ∧ ¬PacketCountTooHigh request ∧
    s.initData = requestedInitData request

structure PacketFits : Prop where
  pos : 0 < (apdu.swappedShort 5).toNat
  le : (apdu.swappedShort 5).toNat ≤ s.initData.iupPacketCount.toNat
  pduSize : Apdu.dataOffset + 7 + s.initData.iupPacketLen.toNat ≤ p.pduSize
  partSize : (apdu.swappedShort 5).toNat * s.initData.iupPacketLen.toNat ≤ host.partSize

structure KeepsInBounds : Prop where
  inBounds : ∀ a, s.transferAccess host drv p apdu = some a → a.InBounds host s.initData p
  dropped : s.transferAccess host drv p apdu = none → s.handleNmeIupTransfer host p apdu drv = s

end

variable {host : IupPlatform} {drv : FlashDriver} {p : APPReceiveParam} {apdu : Apdu} {s : Iup}

theorem handleNmeIupTransfer_eq :
    s.handleNmeIupTransfer host p apdu drv =
      ((s.transferAccess host drv p apdu).map (s.access apdu)).getD s := by
  unfold transferAccess
  split
  case isTrue h => exact handleNmeIupTransfer_of_stores h
  case isFalse h => exact handleNmeIupTransfer_of_not_stores h

theorem handleNmeIupTransfer_of_none (h : s.transferAccess host drv p apdu = none) :
    s.handleNmeIupTransfer host p apdu drv = s := by
  rw [handleNmeIupTransfer_eq, h]
  rfl

theorem transferError_of_stores (h : s.Stores host drv p apdu) :
    s.transferError p apdu = .noError := by
  obtain ⟨hsize, hsession, -⟩ := h
  rw [transferError, if_neg (by omega), if_neg fun hother => hother.2 hsession]

theorem transfer_logged (nodeState : UInt8) (now : UInt32) (l : EventLog) :
    l.osalPrintLog nodeState now (s.transferError p apdu) = l ∨
      s.handleNmeIupTransfer host p apdu drv = s ∧
        (l.osalPrintLog nodeState now (s.transferError p apdu)).nodeState = nodeState ∧
          (l.osalPrintLog nodeState now (s.transferError p apdu)).persistenceList .networkImage =
            true := by
  by_cases hstores : s.Stores host drv p apdu
  case pos =>
    rw [transferError_of_stores hstores]
    exact .inl EventLog.osalPrintLog_noError
  case neg =>
    refine (l.osalPrintLog_cases nodeState now _).imp_right fun h => ⟨?_, h.2.1, h.2.2.1⟩
    exact handleNmeIupTransfer_of_not_stores hstores

theorem Accepted.room (h : s.Accepted host) :
    s.initData.iupPacketCount.toNat ≤ IupPlatform.markerRoom := by
  obtain ⟨request, -, hcount, hdata⟩ := h
  rw [hdata]
  exact Nat.le_of_not_lt hcount

end Iup

namespace IupPlatform

variable {host : IupPlatform} {len n : UInt16}

theorem FitsFlash.marker_inBounds_iff (h : host.FitsFlash) {count : Nat} (hcount : count ≤ markerRoom) :
    host.iupFlashOffset + iupPersistDataLen ≤ host.markerAt n ∧
        host.markerAt n < host.iupFlashOffset + iupPersistDataLen + count ↔
      0 < n.toNat ∧ n.toNat ≤ count := by
  have hblock := h.block
  have hn := n.toNat_lt
  simp only [Sound, EEPROM_BLOCK_SIZE] at hblock
  simp only [markerRoom, EEPROM_BLOCK_SIZE, iupPersistDataLen] at hcount
  simp only [markerAt, iupPersistDataLen]
  omega

theorem packets_lt (len n : UInt16) : (n.toNat - 1) * len.toNat < 2 ^ 32 := by
  have hn := n.toNat_lt
  have hlen := len.toNat_lt
  calc (n.toNat - 1) * len.toNat ≤ 65535 * 65535 := Nat.mul_le_mul (by omega) (by omega)
    _ < 2 ^ 32 := by decide

theorem FitsFlash.image_inBounds_iff (h : host.FitsFlash) (hn : 0 < n.toNat) :
    (∀ k < len.toNat, host.partStart ≤ host.packetAt len n + k ∧
        host.packetAt len n + k < host.partStart + host.partSize) ↔
      n.toNat * len.toNat ≤ host.partSize ∨ len.toNat = 0 := by
  have hpart := h.partition
  have hlt := packets_lt len n
  have hmul : n.toNat * len.toNat = (n.toNat - 1) * len.toNat + len.toNat := by
    obtain ⟨k, hk⟩ : ∃ k, n.toNat = k + 1 := ⟨n.toNat - 1, by omega⟩
    rw [hk, Nat.succ_mul, Nat.add_sub_cancel]
  rw [packetAt, hmul]
  generalize (n.toNat - 1) * len.toNat = before at hlt ⊢
  constructor
  · intro hinside
    by_cases hlen : len.toNat = 0
    · exact .inr hlen
    · have hfirst := hinside 0 (by omega)
      have hlast := hinside (len.toNat - 1) (by omega)
      exact .inl (by omega)
  · intro hfits k hk
    omega

end IupPlatform

namespace Iup

variable {host : IupPlatform} {drv : FlashDriver} {p : APPReceiveParam} {apdu : Apdu} {s : Iup}

theorem transferAccess_of_stores (h : s.Stores host drv p apdu) :
    s.transferAccess host drv p apdu =
      some ⟨Apdu.dataOffset + 7, s.initData.iupPacketLen.toNat,
        host.packetAt s.initData.iupPacketLen (apdu.swappedShort 5),
        host.markerAt (apdu.swappedShort 5)⟩ :=
  if_pos h

/-- A transfer keeps to the message, to the partition and to the markers if and only if it is dropped
or its packet fits. -/
theorem keepsInBounds_iff (hhost : host.FitsFlash) (haccepted : s.Accepted host) :
    s.KeepsInBounds host drv p apdu ↔
      (s.Stores host drv p apdu → s.PacketFits host p apdu) := by
  constructor
  · intro hkeeps hstores
    have hbounds := hkeeps.inBounds _ (transferAccess_of_stores hstores)
    obtain ⟨hpos, hle⟩ := (hhost.marker_inBounds_iff haccepted.room).mp hbounds.marker
    have himage := (hhost.image_inBounds_iff hpos).mp hbounds.image
    have hsize : 8 < p.pduSize := hstores.1
    refine ⟨hpos, hle, ?_, himage.elim id fun hlen => by rw [hlen, Nat.mul_zero]; exact Nat.zero_le _⟩
    by_cases hlen : s.initData.iupPacketLen.toNat = 0
    · rw [hlen]
      exact Nat.le_of_lt hsize
    · have hlast := hbounds.source (s.initData.iupPacketLen.toNat - 1)
        (Nat.sub_lt (Nat.pos_of_ne_zero hlen) Nat.one_pos)
      dsimp only at hlast
      omega
  · intro hfits
    refine ⟨fun a ha => ?_, handleNmeIupTransfer_of_none⟩
    by_cases hstores : s.Stores host drv p apdu
    · obtain ⟨hpos, hle, hsize, hpart⟩ := hfits hstores
      rw [transferAccess_of_stores hstores, Option.some.injEq] at ha
      subst ha
      refine ⟨fun k hk => ?_, (hhost.image_inBounds_iff hpos).mpr (.inl hpart),
        (hhost.marker_inBounds_iff haccepted.room).mpr ⟨hpos, hle⟩⟩
      dsimp only at hk ⊢
      omega
    · rw [transferAccess, if_neg hstores] at ha
      cases ha

end Iup

theorem fitsFlash_updatePlatform : updatePlatform.FitsFlash := ⟨by decide, by decide⟩

def acceptedUpdate : Iup := waitingUpdate.setInitData (Iup.requestedInitData (initRequest 0x84 1))

theorem accepted_acceptedUpdate : acceptedUpdate.Accepted updatePlatform :=
  ⟨initRequest 0x84 1, by unfold IupPlatform.RefusesImage; decide +kernel,
    by unfold Iup.PacketCountTooHigh; decide +kernel, rfl⟩

def oneByteTransfer (packetNumber : UInt8) : Apdu := fun k =>
  [0x73, NME_IUP_TRANSFER, 0, 0, 0, 8, 0, packetNumber, 0xAB].getD k 0

theorem keepsInBounds_iff_firstPacket :
    (updatePlatform.FitsFlash ∧ acceptedUpdate.Accepted updatePlatform) ∧
      (acceptedUpdate.KeepsInBounds updatePlatform ⟨true, true, true⟩
          { (default : APPReceiveParam) with pduSize := 9 } (oneByteTransfer 1) ↔
        (acceptedUpdate.Stores updatePlatform ⟨true, true, true⟩
            { (default : APPReceiveParam) with pduSize := 9 } (oneByteTransfer 1) →
          acceptedUpdate.PacketFits updatePlatform
            { (default : APPReceiveParam) with pduSize := 9 } (oneByteTransfer 1))) :=
  ⟨⟨fitsFlash_updatePlatform, accepted_acceptedUpdate⟩,
    Iup.keepsInBounds_iff fitsFlash_updatePlatform accepted_acceptedUpdate⟩

theorem not_keepsInBounds :
    ¬∀ (host : IupPlatform) (drv : FlashDriver) (p : APPReceiveParam) (apdu : Apdu) (s : Iup),
        host.FitsFlash → s.Accepted host → s.KeepsInBounds host drv p apdu := by
  intro hall
  have hkeeps := hall updatePlatform ⟨true, true, true⟩
    { (default : APPReceiveParam) with pduSize := 9 } (oneByteTransfer 0) acceptedUpdate
    fitsFlash_updatePlatform accepted_acceptedUpdate
  have hstores : acceptedUpdate.Stores updatePlatform ⟨true, true, true⟩
      { (default : APPReceiveParam) with pduSize := 9 } (oneByteTransfer 0) := by
    decide +kernel
  have hbounds := hkeeps.inBounds _ (Iup.transferAccess_of_stores hstores)
  exact absurd hbounds.marker (by decide +kernel)

end LonStack
