import LonStack.Lib.Region

namespace LonStack

open Lib

-- A value in the memory of the host and on the network: a list of steps says which elements of
-- which size have their bytes the other way round.

abbrev IBOL_FINISH : UInt8 := 0xFF
abbrev MAX_STOP_OFFSET : Nat := 0xFFFF

structure IbolStep where
  ndo : Nat
  size : Nat
  elements : Nat
  deriving DecidableEq, Repr

/-- The steps of a sequence: an offset of one or two bytes, the size and the number of elements. -/
def ibolSteps : List UInt8 → List IbolStep
  | [] => []
  | b :: rest =>
    if b = IBOL_FINISH then []
    else if b &&& 0x80 ≠ 0 then
      match rest with
      | low :: size :: elements :: rest =>
        ⟨(b &&& 0x7F).toNat * 256 + low.toNat, size.toNat, elements.toNat⟩ :: ibolSteps rest
      | _ => []
    else
      match rest with
      | size :: elements :: rest => ⟨b.toNat, size.toNat, elements.toNat⟩ :: ibolSteps rest
      | _ => []

namespace Lib.Image

def swapByte (dst : Image) (i : Nat) (src : Image) (j srcSize : Nat) : Image :=
  fun k => if i ≤ k ∧ k < i + srcSize then src (j + srcSize - 1 - (k - i)) else dst k

def swapElements (dst : Image) (i : Nat) (src : Image) (j size : Nat) : Nat → Image
  | 0 => dst
  | elements + 1 =>
    swapElements (dst.swapByte i src j size) (i + size) src (j + size) size elements

end Lib.Image

namespace IbolStep

variable (s : IbolStep)

def length : Nat := s.size * s.elements

def move (dst : Image) (i : Nat) (src : Image) (j : Nat) : Image :=
  if s.size = 1 then dst.copy i src j s.length
  else dst.swapElements i src j s.size s.elements

end IbolStep

/-- `hdo` and `stop` are offsets in the data of the host, which begins at `src`. -/
def hdiToNdi (mem : Image) (src stop : Nat) : List IbolStep → Image → Nat → Image
  | [], dst, _ => dst
  | s :: rest, dst, hdo =>
    let hdo' := (hdo + s.length) % 65536
    let dst' := s.move dst s.ndo mem (src + hdo)
    if stop ≤ hdo' then dst' else hdiToNdi mem src stop rest dst' hdo'

def ndiToHdi (data : Image) (ndi : Nat) : List IbolStep → Image → Nat → Image
  | [], dst, _ => dst
  | s :: rest, dst, hdo =>
    ndiToHdi data ndi rest (s.move dst hdo data (ndi + s.ndo)) ((hdo + s.length) % 65536)

def hostLength (steps : List IbolStep) : Nat :=
  steps.foldl (fun n s => (n + s.length) % 65536) 0

def networkData (mem : Image) (addr n : Nat) (ibolSeq : Option (List UInt8)) : List UInt8 :=
  let ndi := Image.copy (fun _ => 0) 0 mem addr n
  match ibolSeq with
  | none => ndi.bytes n
  | some seq => (hdiToNdi mem addr MAX_STOP_OFFSET (ibolSteps seq) ndi 0).bytes n

def storeNetworkData (mem : Image) (addr : Nat) (data : Image) (src n : Nat)
    (ibolSeq : Option (List UInt8)) : Image :=
  match ibolSeq with
  | none => mem.copy addr data src n
  | some seq =>
    mem.copy addr (ndiToHdi data src (ibolSteps seq) (fun _ => 0) 0) 0 (hostLength (ibolSteps seq))

end LonStack
