import LonStack.Iup.Update
import LonStack.Lib.Run

namespace LonStack

open Lib

theorem length_bytes_initData (d : IupInitData) : d.bytes.length = sizeofInitData := by
  simp [IupInitData.bytes, wordBytes, shortBytes, ImageIdentifier.bytes]

namespace IupInitData

variable {m m' : Image} {a : Nat} {d : IupInitData}

theorem ofImage_of_slice (h : m.slice a sizeofInitData = d.bytes) : ofImage m a = d := by
  have hbyte : ∀ k (hk : k < d.bytes.length), m (a + k) = d.bytes[k] := by
    intro k hk
    simp only [← h, Image.slice, List.getElem_map, List.getElem_range]
  have hlen : d.bytes.length = 22 := length_bytes_initData d
  have hident : ImageIdentifier.ofImage m (a + 12) = d.iupImageIdentifier := by
    have htype : m (a + 12) = d.iupImageIdentifier.imgType := hbyte 12 (by omega)
    have hsub : m (a + 12 + 1) = d.iupImageIdentifier.imgSubType := hbyte 13 (by omega)
    have hinstance : (Vector.ofFn fun k : Fin 8 => m (a + 12 + 2 + k)) =
        d.iupImageIdentifier.imgInstance := by
      apply Vector.ext
      intro k hk
      rw [Vector.getElem_ofFn, Nat.add_assoc, Nat.add_assoc,
        show a + (12 + (2 + k)) = a + (k + 14) by omega, hbyte (k + 14) (by omega)]
      exact Vector.getElem_toList (by simpa using hk)
    rw [ImageIdentifier.ofImage, htype, hsub, hinstance]
  have hsession : m.long a = d.iupSessionNumber :=
    Image.long_eq (hbyte 0 (by omega)) (hbyte 1 (by omega)) (hbyte 2 (by omega)) (hbyte 3 (by omega))
  have himage : m.long (a + 4) = d.iupImageLen :=
    Image.long_eq (hbyte 4 (by omega)) (hbyte 5 (by omega)) (hbyte 6 (by omega)) (hbyte 7 (by omega))
  have hpacket : m.short (a + 8) = d.iupPacketLen :=
    Image.short_eq (hbyte 8 (by omega)) (hbyte 9 (by omega))
  have hcount : m.short (a + 10) = d.iupPacketCount :=
    Image.short_eq (hbyte 10 (by omega)) (hbyte 11 (by omega))
  rw [ofImage, hsession, himage, hpacket, hcount, hident]

theorem ofImage_congr (h : ∀ k < sizeofInitData, m (a + k) = m' (a + k)) :
    ofImage m a = ofImage m' a := by
  have h0 : m a = m' a := h 0 (by decide)
  simp only [ofImage, Image.long, Image.short, ImageIdentifier.ofImage, Nat.add_assoc,
    Nat.reduceAdd]
  simp only [h0, h 1 (by decide), h 2 (by decide), h 3 (by decide), h 4 (by decide), h 5 (by decide),
    h 6 (by decide), h 7 (by decide), h 8 (by decide), h 9 (by decide), h 10 (by decide),
    h 11 (by decide), h 12 (by decide), h 13 (by decide)]
  have hinstance : ∀ k : Fin 8, m (a + (14 + k)) = m' (a + (14 + k)) := fun k =>
    h _ (show 14 + k.val < 22 by omega)
  simp only [hinstance]

end IupInitData

namespace IupPlatform

variable {host : IupPlatform}

def Sound (host : IupPlatform) : Prop := host.iupFlashOffset + EEPROM_BLOCK_SIZE ≤ 2 ^ 32

instance : Decidable host.Sound := inferInstanceAs (Decidable (_ ≤ _))

abbrev markerRoom : Nat := EEPROM_BLOCK_SIZE - iupPersistDataLen

theorem markerAt_eq (hhost : host.Sound) {n : UInt16} (hpos : 0 < n.toNat)
    (hn : n.toNat ≤ markerRoom) :
    host.markerAt n = host.iupFlashOffset + iupPersistDataLen + (n.toNat - 1) := by
  simp only [Sound, EEPROM_BLOCK_SIZE] at hhost
  simp only [markerRoom, EEPROM_BLOCK_SIZE, iupPersistDataLen] at hn
  simp only [markerAt, iupPersistDataLen]
  omega

structure Clear (host : IupPlatform) (packetLen n : Nat) : Prop where
  inside : host.partStart + n * packetLen < 2 ^ 32
  apart : host.partStart + n * packetLen ≤ host.iupFlashOffset ∨
    host.iupFlashOffset + EEPROM_BLOCK_SIZE ≤ host.partStart + (n - 1) * packetLen

instance {packetLen n : Nat} : Decidable (host.Clear packetLen n) :=
  decidable_of_iff (_ ∧ _) ⟨fun h => ⟨h.1, h.2⟩, fun h => ⟨h.inside, h.apart⟩⟩

theorem packetAt_eq {len n : UInt16} (hpos : 0 < n.toNat)
    (hclear : host.Clear len.toNat n.toNat) :
    host.packetAt len n = host.partStart + (n.toNat - 1) * len.toNat := by
  have hinside := hclear.inside
  obtain ⟨k, hk⟩ : ∃ k, n.toNat = k + 1 := ⟨n.toNat - 1, by omega⟩
  rw [packetAt, hk, Nat.succ_mul, Nat.add_sub_cancel]
  rw [hk, Nat.succ_mul] at hinside
  omega

end IupPlatform

end LonStack
