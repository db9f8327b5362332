import LonStack.App.Interchange
import LonStack.Lib.Transfer

namespace LonStack

open Lib

-- The data on the network and the data of the host are separate buffers; `hdo` and `ndo` are 16-bit
-- offsets into them. A loop returns what is left of the sequence where it stops, and nothing when
-- the sequence ends before that.

/-- `while (elements--)`, with the offsets behind the last element. -/
def swapLoop (src : Image) (size : Nat) : Nat → Image → Nat → Nat → Image × Nat × Nat
  | 0, dst, i, j => (dst, i, j)
  | elements + 1, dst, i, j =>
    swapLoop src size elements (dst.swapByte i src j size) ((i + size) % 65536)
      ((j + size) % 65536)

def moveSegment (dst : Image) (i : Nat) (src : Image) (j size elements : Nat) :
    Image × Nat × Nat :=
  if size = 1 then
    (dst.copy i src j (size * elements), (i + size * elements) % 65536,
      (j + size * elements) % 65536)
  else swapLoop src size elements dst i j

def izotNdiToHdi (ndi : Image) : List UInt8 → Image → Nat → Option (Image × List UInt8)
  | [], _, _ => none
  | b :: rest, hdi, hdo =>
    if b = IBOL_FINISH then some (hdi, b :: rest)
    else if b &&& 0x80 ≠ 0 then
      match rest with
      | low :: size :: elements :: rest =>
        let ndo := (b &&& 0x7F).toNat * 256 + low.toNat
        let moved := moveSegment hdi hdo ndi ndo size.toNat elements.toNat
        izotNdiToHdi ndi rest moved.1 moved.2.1
      | _ => none
    else
      match rest with
      | size :: elements :: rest =>
        let moved := moveSegment hdi hdo ndi b.toNat size.toNat elements.toNat
        izotNdiToHdi ndi rest moved.1 moved.2.1
      | _ => none

def izotHdiToNdi (hdi : Image) (stop : Nat) :
    List UInt8 → Image → Nat → Option (Image × List UInt8)
  | [], _, _ => none
  | b :: rest, ndi, hdo =>
    if b = IBOL_FINISH then some (ndi, b :: rest)
    else if b &&& 0x80 ≠ 0 then
      match rest with
      | low :: size :: elements :: rest =>
        let ndo := (b &&& 0x7F).toNat * 256 + low.toNat
        let moved := moveSegment ndi ndo hdi hdo size.toNat elements.toNat
        if stop ≤ moved.2.2 then some (moved.1, rest)
        else izotHdiToNdi hdi stop rest moved.1 moved.2.2
      | _ => none
    else
      match rest with
      | size :: elements :: rest =>
        let moved := moveSegment ndi b.toNat hdi hdo size.toNat elements.toNat
        if stop ≤ moved.2.2 then some (moved.1, rest)
        else izotHdiToNdi hdi stop rest moved.1 moved.2.2
      | _ => none

/-- A sequence of whole segments with the byte that ends it: what its steps are and what is left of
it from that byte on. -/
inductive IbolSequence : List UInt8 → List IbolStep → List UInt8 → Prop
  | finish (tail : List UInt8) : IbolSequence (IBOL_FINISH :: tail) [] (IBOL_FINISH :: tail)
  | long {b low size elements : UInt8} {tail rest : List UInt8} {steps : List IbolStep}
      (hb : b ≠ IBOL_FINISH) (hlong : b &&& 0x80 ≠ 0) (h : IbolSequence tail steps rest) :
      IbolSequence (b :: low :: size :: elements :: tail)
        (⟨(b &&& 0x7F).toNat * 256 + low.toNat, size.toNat, elements.toNat⟩ :: steps) rest
  | short {b size elements : UInt8} {tail rest : List UInt8} {steps : List IbolStep}
      (hb : b ≠ IBOL_FINISH) (hshort : ¬ b &&& 0x80 ≠ 0) (h : IbolSequence tail steps rest) :
      IbolSequence (b :: size :: elements :: tail)
        (⟨b.toNat, size.toNat, elements.toNat⟩ :: steps) rest

section Segment

variable {dst src : Image} {i j size elements d k : Nat}

theorem swapByte_add (hd : d < size) :
    dst.swapByte i src j size (i + d) = src (j + (size - 1 - d)) := by
  rw [Image.swapByte, if_pos ⟨Nat.le_add_right _ _, by omega⟩]
  congr 1
  omega

theorem swapByte_of_not_mem (h : k < i ∨ i + size ≤ k) : dst.swapByte i src j size k = dst k :=
  if_neg (by omega)

theorem swapElements_of_not_mem (h : k < i ∨ i + size * elements ≤ k) :
    dst.swapElements i src j size elements k = dst k := by
  induction elements generalizing dst i j with
  | zero => rfl
  | succ elements ih =>
    rw [Nat.mul_succ] at h
    rw [Image.swapElements, ih (by omega), swapByte_of_not_mem (by omega)]

theorem swapElements_add (hd : d < size * elements) :
    dst.swapElements i src j size elements (i + d) = src (j + Transfer.reversed size d) := by
  induction elements generalizing dst i j d with
  | zero => exact absurd hd (Nat.not_lt_zero d)
  | succ elements ih =>
    have hsize : 0 < size := Transfer.size_pos_of_lt_mul hd
    rw [Nat.mul_succ] at hd
    rw [Image.swapElements]
    cases Nat.lt_or_ge d size with
    | inl hlt =>
      rw [swapElements_of_not_mem (by omega), swapByte_add hlt, Transfer.reversed_of_lt hlt]
    | inr hge =>
      obtain ⟨e, rfl⟩ := Nat.exists_eq_add_of_le hge
      rw [← Nat.add_assoc i size e, ih (by omega), Transfer.reversed_add hsize, Nat.add_assoc j]

theorem IbolStep.move_eq_run (s : IbolStep) (dst : Image) (i : Nat) (src : Image) (j : Nat) :
    s.move dst i src j = Transfer.run src dst (Transfer.swap i j s.size s.elements) := by
  funext k
  by_cases hk : i ≤ k ∧ k < i + s.size * s.elements
  case pos =>
    obtain ⟨d, rfl⟩ := Nat.exists_eq_add_of_le hk.1
    have hd : d < s.size * s.elements := by omega
    have hrun : Transfer.run src dst (Transfer.swap i j s.size s.elements) (i + d) =
        src (j + Transfer.reversed s.size d) := Transfer.run_add hd
    rw [hrun, IbolStep.move]
    split
    next hone =>
      rw [Image.copy_add (n := s.length) hd, hone, Transfer.reversed, Nat.mod_one, Nat.div_one,
        Nat.mul_one]
      rfl
    next => exact swapElements_add hd
  case neg =>
    have hrun : Transfer.run src dst (Transfer.swap i j s.size s.elements) k = dst k :=
      Transfer.run_of_not_writes hk
    rw [hrun, IbolStep.move]
    split
    next => exact Image.copy_of_not_mem (n := s.length) (by rw [IbolStep.length]; omega)
    next => exact swapElements_of_not_mem (by omega)

theorem swapLoop_eq (hi : i + size * elements < 65536) (hj : j + size * elements < 65536) :
    swapLoop src size elements dst i j =
      (dst.swapElements i src j size elements, i + size * elements, j + size * elements) := by
  induction elements generalizing dst i j with
  | zero => rfl
  | succ elements ih =>
    rw [Nat.mul_succ] at hi hj
    rw [swapLoop, Nat.mod_eq_of_lt (by omega), Nat.mod_eq_of_lt (by omega),
      ih (by omega) (by omega), Image.swapElements, Nat.mul_succ]
    have hi' : i + size + size * elements = i + (size * elements + size) := by omega
    have hj' : j + size + size * elements = j + (size * elements + size) := by omega
    rw [hi', hj']

theorem moveSegment_eq (ndo : Nat) (hi : i + size * elements < 65536)
    (hj : j + size * elements < 65536) :
    moveSegment dst i src j size elements =
      (IbolStep.move ⟨ndo, size, elements⟩ dst i src j, i + size * elements,
        j + size * elements) := by
  unfold moveSegment IbolStep.move
  dsimp only
  split
  next => rw [Nat.mod_eq_of_lt hi, Nat.mod_eq_of_lt hj]; rfl
  next => exact swapLoop_eq hi hj

end Segment

namespace IbolStep

def Covers (s : IbolStep) (k : Nat) : Prop := s.ndo ≤ k ∧ k < s.ndo + s.length

def Apart (s s' : IbolStep) : Prop := ∀ k, s.Covers k → ¬ s'.Covers k

end IbolStep

def coveredLength : List IbolStep → Nat
  | [] => 0
  | s :: rest => s.length + coveredLength rest

def transfers : List IbolStep → Nat → List Transfer
  | [], _ => []
  | s :: rest, hdo =>
    Transfer.swap s.ndo hdo s.size s.elements :: transfers rest (hdo + s.length)

section Sequence

variable {seq rest : List UInt8} {steps : List IbolStep} {hdo k stop : Nat} {hdi ndi : Image}

@[simp] theorem coveredLength_cons (s : IbolStep) (steps : List IbolStep) :
    coveredLength (s :: steps) = s.length + coveredLength steps := rfl

theorem IbolSequence.ndo_lt (h : IbolSequence seq steps rest) : ∀ s ∈ steps, s.ndo < 0x8000 := by
  induction h with
  | finish tail =>
    intro s hs
    cases hs
  | @long b low size elements tail rest steps hb hlong h ih =>
    have hhigh : (b &&& 0x7F).toNat ≤ 0x7F := by
      rw [UInt8.toNat_and]
      exact Nat.and_le_right
    have hlow : low.toNat < 256 := low.toNat_lt
    refine List.forall_mem_cons.mpr ⟨?_, ih⟩
    change (b &&& 0x7F).toNat * 256 + low.toNat < 0x8000
    omega
  | @short b size elements tail rest steps hb hshort h ih =>
    exact List.forall_mem_cons.mpr ⟨Nat.lt_trans b.toNat_lt (by decide), ih⟩

theorem IbolSequence.head?_rest (h : IbolSequence seq steps rest) :
    rest.head? = some IBOL_FINISH := by
  induction h with
  | finish tail => rfl
  | long hb hlong h ih => exact ih
  | short hb hshort h ih => exact ih

theorem ndiToHdi_cons {s : IbolStep} (h : hdo + s.length < 65536) :
    ndiToHdi ndi 0 (s :: steps) hdi hdo =
      ndiToHdi ndi 0 steps (s.move hdi hdo ndi s.ndo) (hdo + s.length) := by
  rw [ndiToHdi, Nat.mod_eq_of_lt h, Nat.zero_add]

theorem hdiToNdi_cons {s : IbolStep} (h : hdo + s.length < 65536) (hstop : hdo + s.length < stop) :
    hdiToNdi hdi 0 stop (s :: steps) ndi hdo =
      hdiToNdi hdi 0 stop steps (s.move ndi s.ndo hdi hdo) (hdo + s.length) := by
  rw [hdiToNdi]
  simp only [Nat.mod_eq_of_lt h, Nat.zero_add]
  exact if_neg (Nat.not_le_of_lt hstop)

theorem toHost_step (s : IbolStep) (hdi ndi : Image) (hndo : s.ndo < 0x8000) (hlen : hdo + s.length ≤ 0x8000) :
    moveSegment hdi hdo ndi s.ndo s.size s.elements =
      (s.move hdi hdo ndi s.ndo, hdo + s.length, s.ndo + s.length) := by
  unfold IbolStep.length at *
  exact moveSegment_eq s.ndo (by omega) (by omega)

theorem toNetwork_step (s : IbolStep) (hdi ndi : Image) (hndo : s.ndo < 0x8000) (hlen : hdo + s.length ≤ 0x8000) :
    moveSegment ndi s.ndo hdi hdo s.size s.elements =
      (s.move ndi s.ndo hdi hdo, s.ndo + s.length, hdo + s.length) := by
  unfold IbolStep.length at *
  exact moveSegment_eq s.ndo (by omega) (by omega)

theorem izotNdiToHdi_eq (h : IbolSequence seq steps rest)
    (hlen : hdo + coveredLength steps ≤ 0x8000) :
    izotNdiToHdi ndi seq hdi hdo = some (ndiToHdi ndi 0 steps hdi hdo, rest) := by
  have hndo := h.ndo_lt
  induction h generalizing hdi hdo with
  | finish tail =>
    unfold izotNdiToHdi
    exact if_pos rfl
  | @long b low size elements tail rest steps hb hlong h ih =>
    obtain ⟨hhead, htail⟩ := List.forall_mem_cons.mp hndo
    rw [coveredLength_cons, ← Nat.add_assoc] at hlen
    have hstep := toHost_step _ hdi ndi hhead
      (Nat.le_trans (Nat.le_add_right _ _) hlen)
    unfold izotNdiToHdi
    dsimp only at hstep
    simp only [if_neg hb, if_pos hlong, hstep]
    rw [ih hlen htail, ndiToHdi_cons (by omega)]
  | @short b size elements tail rest steps hb hshort h ih =>
    obtain ⟨hhead, htail⟩ := List.forall_mem_cons.mp hndo
    rw [coveredLength_cons, ← Nat.add_assoc] at hlen
    have hstep := toHost_step _ hdi ndi hhead
      (Nat.le_trans (Nat.le_add_right _ _) hlen)
    unfold izotNdiToHdi
    dsimp only at hstep
    simp only [if_neg hb, if_neg hshort, hstep]
    rw [ih hlen htail, ndiToHdi_cons (by omega)]

theorem izotHdiToNdi_eq (h : IbolSequence seq steps rest)
    (hlen : hdo + coveredLength steps ≤ 0x8000) (hstop : 0x8000 < stop) :
    izotHdiToNdi hdi stop seq ndi hdo = some (hdiToNdi hdi 0 stop steps ndi hdo, rest) := by
  have hndo := h.ndo_lt
  induction h generalizing ndi hdo with
  | finish tail =>
    unfold izotHdiToNdi
    exact if_pos rfl
  | @long b low size elements tail rest steps hb hlong h ih =>
    obtain ⟨hhead, htail⟩ := List.forall_mem_cons.mp hndo
    rw [coveredLength_cons, ← Nat.add_assoc] at hlen
    have hstep := toNetwork_step _ hdi ndi hhead
      (Nat.le_trans (Nat.le_add_right _ _) hlen)
    unfold izotHdiToNdi
    dsimp only at hstep
    simp only [if_neg hb, if_pos hlong, hstep]
    rw [if_neg (by omega), ih hlen htail, hdiToNdi_cons (by omega) (by omega)]
  | @short b size elements tail rest steps hb hshort h ih =>
    obtain ⟨hhead, htail⟩ := List.forall_mem_cons.mp hndo
    rw [coveredLength_cons, ← Nat.add_assoc] at hlen
    have hstep := toNetwork_step _ hdi ndi hhead
      (Nat.le_trans (Nat.le_add_right _ _) hlen)
    unfold izotHdiToNdi
    dsimp only at hstep
    simp only [if_neg hb, if_neg hshort, hstep]
    rw [if_neg (by omega), ih hlen htail, hdiToNdi_cons (by omega) (by omega)]

theorem hdiToNdi_eq_runAll (hlen : hdo + coveredLength steps ≤ 0x8000) (hstop : 0x8000 < stop) :
    hdiToNdi hdi 0 stop steps ndi hdo = Transfer.runAll hdi ndi (transfers steps hdo) := by
  induction steps generalizing ndi hdo with
  | nil => rfl
  | cons s steps ih =>
    rw [coveredLength_cons, ← Nat.add_assoc] at hlen
    rw [hdiToNdi_cons (by omega) (by omega), ih hlen, s.move_eq_run]
    rfl

theorem ndiToHdi_eq_runAll (hlen : hdo + coveredLength steps ≤ 0x8000) :
    ndiToHdi ndi 0 steps hdi hdo =
      Transfer.runAll ndi hdi ((transfers steps hdo).map Transfer.flip) := by
  induction steps generalizing hdi hdo with
  | nil => rfl
  | cons s steps ih =>
    rw [coveredLength_cons, ← Nat.add_assoc] at hlen
    rw [ndiToHdi_cons (by omega), ih hlen, s.move_eq_run]
    rfl

theorem mem_transfers {s : IbolStep} (hs : s ∈ steps) (hdo : Nat) :
    ∃ src, Transfer.swap s.ndo src s.size s.elements ∈ transfers steps hdo := by
  induction steps generalizing hdo with
  | nil => cases hs
  | cons s' steps ih =>
    cases List.mem_cons.mp hs with
    | inl heq =>
      subst heq
      exact ⟨hdo, List.mem_cons_self⟩
    | inr hmem =>
      obtain ⟨src, hsrc⟩ := ih hmem (hdo + s'.length)
      exact ⟨src, List.mem_cons_of_mem _ hsrc⟩

theorem of_mem_transfers {t : Transfer} (ht : t ∈ transfers steps hdo) :
    hdo ≤ t.src ∧ ∃ s ∈ steps, t = Transfer.swap s.ndo t.src s.size s.elements := by
  induction steps generalizing hdo with
  | nil => cases ht
  | cons s steps ih =>
    cases List.mem_cons.mp ht with
    | inl heq =>
      subst heq
      exact ⟨Nat.le_refl hdo, s, List.mem_cons_self, rfl⟩
    | inr hmem =>
      obtain ⟨hle, s', hs', heq⟩ := ih hmem
      exact ⟨by omega, s', List.mem_cons_of_mem _ hs', heq⟩

theorem exists_transfer (hlo : hdo ≤ k) (hhi : k < hdo + coveredLength steps) :
    ∃ t ∈ transfers steps hdo, ∃ d < t.len, k = t.src + d := by
  induction steps generalizing hdo with
  | nil => exact absurd hlo (Nat.not_le_of_lt hhi)
  | cons s steps ih =>
    rw [coveredLength_cons] at hhi
    cases Nat.lt_or_ge k (hdo + s.length) with
    | inl hlt =>
      obtain ⟨d, rfl⟩ := Nat.exists_eq_add_of_le hlo
      exact ⟨_, List.mem_cons_self, d, Nat.lt_of_add_lt_add_left hlt, rfl⟩
    | inr hge =>
      obtain ⟨t, ht, hd⟩ := ih hge (by omega)
      exact ⟨t, List.mem_cons_of_mem _ ht, hd⟩

theorem pairwise_transfers (h : steps.Pairwise IbolStep.Apart) :
    (transfers steps hdo).Pairwise Transfer.Apart := by
  induction steps generalizing hdo with
  | nil => exact List.Pairwise.nil
  | cons s steps ih =>
    obtain ⟨hhead, htail⟩ := List.pairwise_cons.mp h
    refine List.pairwise_cons.mpr ⟨fun t ht => ?_, ih htail⟩
    obtain ⟨-, s', hs', heq⟩ := of_mem_transfers ht
    rw [heq]
    exact hhead s' hs'

theorem pairwise_flip_transfers (steps : List IbolStep) (hdo : Nat) :
    ((transfers steps hdo).map Transfer.flip).Pairwise Transfer.Apart := by
  induction steps generalizing hdo with
  | nil => exact List.Pairwise.nil
  | cons s steps ih =>
    refine List.pairwise_cons.mpr ⟨fun t ht => ?_, ih _⟩
    obtain ⟨t, ht', rfl⟩ := List.mem_map.mp ht
    obtain ⟨hle, -⟩ := of_mem_transfers ht'
    -- what comes later lies behind the first segment
    intro k hk hk'
    have hlt : k < hdo + s.length := hk.2
    have hge : t.src ≤ k := hk'.1
    omega

end Sequence

section RoundTrip

variable {seq rest : List UInt8} {steps : List IbolStep} {n : Nat}

theorem hostRoundTrip (happart : steps.Pairwise IbolStep.Apart)
    (hlen : coveredLength steps ≤ 0x8000) (value ndi hdi : Image) {k : Nat}
    (hk : k < coveredLength steps) :
    ndiToHdi (hdiToNdi value 0 MAX_STOP_OFFSET steps ndi 0) 0 steps hdi 0 k = value k := by
  have hlen' : 0 + coveredLength steps ≤ 0x8000 := by rwa [Nat.zero_add]
  have hk' : k < 0 + coveredLength steps := by rwa [Nat.zero_add]
  obtain ⟨t, ht, d, hd, rfl⟩ := exists_transfer (Nat.zero_le k) hk'
  rw [ndiToHdi_eq_runAll hlen', hdiToNdi_eq_runAll hlen' (by decide)]
  exact Transfer.runAll_flip (pairwise_transfers happart) (pairwise_flip_transfers steps 0) ht hd

theorem networkRoundTrip (happart : steps.Pairwise IbolStep.Apart)
    (hlen : coveredLength steps ≤ 0x8000) (network ndi hdi : Image) {s : IbolStep}
    (hs : s ∈ steps) {k : Nat} (hk : s.Covers k) :
    hdiToNdi (ndiToHdi network 0 steps hdi 0) 0 MAX_STOP_OFFSET steps ndi 0 k = network k := by
  have hlen' : 0 + coveredLength steps ≤ 0x8000 := by rwa [Nat.zero_add]
  obtain ⟨src, hmem⟩ := mem_transfers hs 0
  obtain ⟨d, rfl⟩ := Nat.exists_eq_add_of_le hk.1
  have hd : d < s.length := Nat.lt_of_add_lt_add_left hk.2
  rw [hdiToNdi_eq_runAll hlen' (by decide), ndiToHdi_eq_runAll hlen']
  exact Transfer.runAll_of_flip (pairwise_transfers happart) (pairwise_flip_transfers steps 0) hmem hd

/-- A value has at most `MAX_NV_LENGTH` bytes, far below the bound that keeps every offset within
16 bits. -/
theorem byteOrder_roundTrip (h : IbolSequence seq steps rest)
    (happart : steps.Pairwise IbolStep.Apart) (hn : coveredLength steps = n) (hlen : n ≤ 0x8000)
    (value network ndi hdi : Image) :
    (∃ ndi' hdi', izotHdiToNdi value MAX_STOP_OFFSET seq ndi 0 = some (ndi', rest) ∧
      izotNdiToHdi ndi' seq hdi 0 = some (hdi', rest) ∧ ∀ k < n, hdi' k = value k) ∧
    (∃ hdi' ndi', izotNdiToHdi network seq hdi 0 = some (hdi', rest) ∧
      izotHdiToNdi hdi' MAX_STOP_OFFSET seq ndi 0 = some (ndi', rest) ∧
      ∀ s ∈ steps, ∀ k, s.Covers k → ndi' k = network k) ∧
    rest.head? = some IBOL_FINISH := by
  subst hn
  have hlen' : 0 + coveredLength steps ≤ 0x8000 := by rwa [Nat.zero_add]
  have hstop : 0x8000 < MAX_STOP_OFFSET := by decide
  refine ⟨⟨_, _, izotHdiToNdi_eq h hlen' hstop, izotNdiToHdi_eq h hlen', ?_⟩,
    ⟨_, _, izotNdiToHdi_eq h hlen', izotHdiToNdi_eq h hlen' hstop, ?_⟩, h.head?_rest⟩
  · intro k hk
    exact hostRoundTrip happart hlen value ndi hdi hk
  · intro s hs k hk
    exact networkRoundTrip happart hlen network ndi hdi hs hk

theorem byteOrder_roundTrip_mixed :
    (∃ ndi' hdi', izotHdiToNdi UInt8.ofNat MAX_STOP_OFFSET [1, 2, 2, 0x80, 0, 1, 1, 0xFF, 7]
        (fun _ => 0) 0 = some (ndi', [0xFF, 7]) ∧
      izotNdiToHdi ndi' [1, 2, 2, 0x80, 0, 1, 1, 0xFF, 7] (fun _ => 0) 0 =
        some (hdi', [0xFF, 7]) ∧ ∀ k < 5, hdi' k = UInt8.ofNat k) ∧
    (∃ hdi' ndi', izotNdiToHdi UInt8.ofNat [1, 2, 2, 0x80, 0, 1, 1, 0xFF, 7] (fun _ => 0) 0 =
        some (hdi', [0xFF, 7]) ∧
      izotHdiToNdi hdi' MAX_STOP_OFFSET [1, 2, 2, 0x80, 0, 1, 1, 0xFF, 7] (fun _ => 0) 0 =
        some (ndi', [0xFF, 7]) ∧
      ∀ s ∈ [IbolStep.mk 1 2 2, ⟨0, 1, 1⟩], ∀ k, s.Covers k → ndi' k = UInt8.ofNat k) ∧
    [(0xFF : UInt8), 7].head? = some IBOL_FINISH := by
  have hseq : IbolSequence [1, 2, 2, 0x80, 0, 1, 1, 0xFF, 7] [⟨1, 2, 2⟩, ⟨0, 1, 1⟩] [0xFF, 7] :=
    .short (by decide) (by decide) (.long (by decide) (by decide) (.finish [7]))
  refine byteOrder_roundTrip hseq ?_ rfl (by decide) UInt8.ofNat UInt8.ofNat _ _
  refine List.pairwise_pair.mpr fun k hk hk' => ?_
  have hlo : 1 ≤ k := hk.1
  have hhi : k < 1 := hk'.2
  omega

end RoundTrip

end LonStack
