import LonStack.Lib.Run
import LonStack.LonUsb.Reception
import LonStack.LonUsb.Requests

namespace LonStack.LonUsb

open Lib

/-- One step of a link that is used by its application, the service loop and the interface. -/
inductive LinkEvent
  | writeLonUsbMsg (inputFrame : LonDataFrame)
  | processDownlinkRequests (now : OsalTickCount)
  | processUplinkByte (x : Arrival)
  | readUplinkBuffer
  | setRing (bytes : List UInt8)

namespace LonUsbLinkState

variable (s : LonUsbLinkState)

def setRing (bytes : List UInt8) : LonUsbLinkState := { s with lonUsbUplinkRingBuffer := bytes }

def uplinkByte (x : Arrival) : LonUsbLinkState :=
  if s.shutdown then s else (s.processUplinkByte x.now x.last x.byte).1

end LonUsbLinkState

def linkStep : LinkEvent → LonUsbLinkState → LonUsbLinkState
  | .writeLonUsbMsg inputFrame, s => (s.writeLonUsbMsg inputFrame).1
  | .processDownlinkRequests now, s => (s.processDownlinkRequests now).1
  | .processUplinkByte x, s => s.uplinkByte x
  | .readUplinkBuffer, s => s.readUplinkBuffer.1
  | .setRing bytes, s => s.setRing bytes

abbrev LinkHistory := List (LonUsbLinkState × LinkEvent)

abbrev LinkRun := Run linkStep

def LinkEvent.byte? : LinkEvent → Option UInt8
  | .processUplinkByte x => some x.byte
  | _ => none

def parsedBytes (h : LinkHistory) : List UInt8 := (h.filterMap fun x => x.2.byte?).reverse

theorem parsedBytes_append (h h' : LinkHistory) :
    parsedBytes (h ++ h') = parsedBytes h' ++ parsedBytes h := by
  rw [parsedBytes, List.filterMap_append, List.reverse_append]
  rfl

theorem parsedBytes_cons (s : LonUsbLinkState) (x : Arrival) (h : LinkHistory) :
    parsedBytes ((s, .processUplinkByte x) :: h) = parsedBytes h ++ [x.byte] :=
  parsedBytes_append [(s, .processUplinkByte x)] h

theorem run_processChunk {s : LonUsbLinkState} (hs : s.shutdown = false) (now : OsalTickCount)
    (chunk : List UInt8) :
    ∃ h, LinkRun s h (processChunk now s chunk).1 ∧ parsedBytes h <+: chunk := by
  induction chunk generalizing s with
  | nil => exact ⟨[], .refl, List.nil_prefix⟩
  | cons b chunk ih =>
    let x : Arrival := ⟨now, chunk.isEmpty, b⟩
    have hstep : linkStep (.processUplinkByte x) s =
        (s.processUplinkByte now chunk.isEmpty b).1 := if_neg (by rw [hs]; decide)
    have hbyte : LinkRun s _ _ := .single (LinkEvent.processUplinkByte x) s
    rw [hstep] at hbyte
    rw [processChunk]
    unfold onSuccess
    split
    case isTrue =>
      have hup := s.uplinks_processUplinkByte now chunk.isEmpty b
      obtain ⟨h, hrun, hbytes⟩ := ih (hup.shutdown.trans hs)
      refine ⟨h ++ [(s, .processUplinkByte x)], hbyte.trans hrun, ?_⟩
      rw [parsedBytes_append]
      exact List.cons_prefix_cons.mpr ⟨rfl, hbytes⟩
    case isFalse => exact ⟨_, hbyte, List.prefix_append [b] chunk⟩

theorem run_processUplinkBytes (s : LonUsbLinkState) (now : OsalTickCount) (chunk : List UInt8) :
    ∃ h, LinkRun s h (s.processUplinkBytes now chunk).1 ∧ parsedBytes h <+: chunk := by
  unfold LonUsbLinkState.processUplinkBytes
  cases hs : s.shutdown with
  | true => exact ⟨[], .refl, List.nil_prefix⟩
  | false => exact run_processChunk hs now chunk

theorem run_parseRing (now : OsalTickCount) (fuel processed : Nat) (s : LonUsbLinkState) :
    ∃ h, LinkRun s h (parseRing now fuel processed s) := by
  induction fuel generalizing processed s with
  | zero => exact ⟨[], .refl⟩
  | succ fuel ih =>
    unfold parseRing
    split
    case isTrue => exact ⟨[], .refl⟩
    case isFalse =>
      let rest := s.lonUsbUplinkRingBuffer.drop MAX_BYTES_PER_USB_PARSE_CHUNK
      have htake : LinkRun s _ _ := .single (LinkEvent.setRing rest) s
      obtain ⟨h, hparse, -⟩ := run_processUplinkBytes (s.setRing rest) now
        (s.lonUsbUplinkRingBuffer.take MAX_BYTES_PER_USB_PARSE_CHUNK)
      have hchunk := htake.trans hparse
      dsimp only
      split
      case isTrue => exact ⟨_, hchunk⟩
      case isFalse =>
        split
        case isTrue => exact ⟨_, hchunk⟩
        case isFalse =>
          obtain ⟨h', hrest⟩ := ih _ _
          exact ⟨_, hchunk.trans hrest⟩

theorem run_readLonUsbMsg (s : LonUsbLinkState) (now : OsalTickCount) :
    ∃ h, LinkRun s h (s.readLonUsbMsg now).1 := by
  unfold LonUsbLinkState.readLonUsbMsg
  split
  case isTrue => exact ⟨[], .refl⟩
  case isFalse =>
    have hpending : ∃ h, LinkRun s h (s.parsePending now) := by
      unfold LonUsbLinkState.parsePending
      split
      case isTrue => exact run_parseRing now _ _ s
      case isFalse => exact ⟨[], .refl⟩
    obtain ⟨h, hrun⟩ := hpending
    have hlast : LinkRun (s.parsePending now) _ _ := .single LinkEvent.readUplinkBuffer _
    have hread := hrun.trans hlast
    have hdeliver : (s.parsePending now).deliver.1 = (s.parsePending now).readUplinkBuffer.1 := by
      unfold LonUsbLinkState.deliver
      generalize (s.parsePending now).readUplinkBuffer = r
      obtain ⟨t, buffer⟩ := r
      cases buffer <;> rfl
    rw [hdeliver]
    exact ⟨_, hread⟩

end LonStack.LonUsb
