import Mathlib.Algebra.Group.Nat.Defs
import LonStack.Lib.Image
import LonStack.Types

namespace LonStack.LonUsb

open Lib

abbrev FRAME_SYNC : UInt8 := 0x7E
abbrev EXT_LENGTH : UInt8 := 0xFF
abbrev NI_CMD_MASK : UInt8 := 0xF0
abbrev MAX_LON_MSG_EX_LEN : Nat := 1280
abbrev MAX_EXP_LON_MSG_EX_LEN : Nat := 2 * MAX_LON_MSG_EX_LEN + 4
abbrev MAX_LON_DOWNLINK_BUFFERS : Nat := 16
abbrev MAX_LON_UPLINK_BUFFERS : Nat := 16
abbrev MAX_BYTES_PER_USB_PARSE_CHUNK : Nat := 128
abbrev MAX_BYTES_PER_USB_PARSE_WINDOW : Nat := 512

abbrev LonNiClearCmd : UInt8 := 0x00
abbrev LonNiPriorityTxnQueue : UInt8 := 0x03
abbrev LonNiCommandMask : UInt8 := 0x10
abbrev LonNiApplicationData : UInt8 := 0x10
abbrev LonNiResponseCmd : UInt8 := 0x16
abbrev LonNiError : UInt8 := 0x30
abbrev LonNiResetDeviceCmd : UInt8 := 0x50
abbrev LonNiAckCmd : UInt8 := 0xC0
abbrev LonNiNackCmd : UInt8 := 0xC1
abbrev LonNiDriverCmdMask : UInt8 := 0xD0
abbrev LonNiSetL5ModeCmd : UInt8 := 0xD0
abbrev LonNiSetL2ModeCmd : UInt8 := 0xD1
abbrev LonNiStatusCmd : UInt8 := 0xE0
abbrev LonNiLayerModeCmd : UInt8 := 0xE5

abbrev NULL_FRAME_CMD : UInt8 := 0
abbrev FAIL_FRAME_CMD : UInt8 := 1
abbrev MSG_FRAME_CMD : UInt8 := 2
abbrev MSG_REJECT_FRAME_CMD : UInt8 := 5
abbrev SHORT_NI_CMD_FRAME_CMD : UInt8 := 6
abbrev NI_RESYNC_FRAME_CMD : UInt8 := 7

inductive MessagePriorityLevel
  | normalPriority
  | highPriority
  deriving DecidableEq, Repr, Inhabited

def ntoh16 (hi lo : UInt8) : Nat := 256 * hi.toNat + lo.toNat

/-- A frame as the stack hands it over. `pdu` starts at offset 2 of the struct. -/
structure LonDataFrame where
  niCommand : UInt8
  shortPduLength : UInt8
  pdu : Image

/-- The fields of `LonExtDataFrame`, the other view of the same bytes. -/
def LonDataFrame.extLength (f : LonDataFrame) : Nat := ntoh16 (f.pdu 0) (f.pdu 1)

def LonDataFrame.extPdu (f : LonDataFrame) : Image := fun k => f.pdu (k + 2)

/-- A frame as it stands on the wire, with its length before its command. -/
structure LonNiFrame where
  image : Image

namespace LonNiFrame

def shortPduLength (f : LonNiFrame) : UInt8 := f.image 0

def niCommand (f : LonNiFrame) : UInt8 := f.image 1

def pdu (f : LonNiFrame) : Image := fun k => f.image (k + 2)

def extLength (f : LonNiFrame) : Nat := ntoh16 (f.image 2) (f.image 3)

def setShortPduLength (f : LonNiFrame) (length : UInt8) : LonNiFrame :=
  ⟨Function.update f.image 0 length⟩

def setNiCommand (f : LonNiFrame) (cmd : UInt8) : LonNiFrame := ⟨Function.update f.image 1 cmd⟩

def setExtLength (f : LonNiFrame) (length : Nat) : LonNiFrame :=
  ⟨f.image.write 2 [UInt8.ofNat (length / 256), UInt8.ofNat length]⟩

def copyPdu (f : LonNiFrame) (offset : Nat) (src : Image) (n : Nat) : LonNiFrame :=
  ⟨f.image.copy (2 + offset) src 0 n⟩

end LonNiFrame

structure LonFrameHeader where
  frameSync : UInt8
  frameCode : UInt8
  parameter : UInt8
  checksum : UInt8
  deriving DecidableEq, Repr, Inhabited

namespace LonFrameHeader

def toList (h : LonFrameHeader) : List UInt8 := [h.frameSync, h.frameCode, h.parameter, h.checksum]

def seq (h : LonFrameHeader) : UInt8 := (h.frameCode &&& 0xE0) >>> 5

def ack (h : LonFrameHeader) : UInt8 := (h.frameCode &&& 0x10) >>> 4

def cmd (h : LonFrameHeader) : UInt8 := h.frameCode &&& 0x0F

def setSeq (h : LonFrameHeader) (value : UInt8) : LonFrameHeader :=
  { h with frameCode := (h.frameCode &&& (0x1F : UInt8)) ||| ((value <<< 5) &&& (0xE0 : UInt8)) }

def setAck (h : LonFrameHeader) (value : UInt8) : LonFrameHeader :=
  { h with frameCode := (h.frameCode &&& (0xEF : UInt8)) ||| ((value <<< 4) &&& (0x10 : UInt8)) }

def setCmd (h : LonFrameHeader) (value : UInt8) : LonFrameHeader :=
  { h with frameCode := (h.frameCode &&& 0xF0) ||| (value &&& 0x0F) }

end LonFrameHeader

def computeChecksum (pkt : List UInt8) : UInt8 := pkt.foldl (· + ·) 0

def validateChecksum (pkt : List UInt8) : Bool := computeChecksum pkt == 0

structure LonUsbQueueBuffer where
  bufSize : Nat
  dataFrameSize : Nat
  priority : MessagePriorityLevel
  frameHeader : LonFrameHeader
  usbNiDataFrame : LonNiFrame

namespace LonUsbQueueBuffer

/-- Where the fields stand when `size_t` has 8 bytes. -/
abbrev dataFrameSizeOffset : Nat := 8
abbrev priorityOffset : Nat := 16
abbrev frameHeaderOffset : Nat := 20
abbrev usbNiDataFrameOffset : Nat := 24
abbrev sizeofLonFrameHeader : Nat := 4
abbrev sizeofLonNiFrame : Nat := 2 + MAX_LON_MSG_EX_LEN
abbrev sizeofLonUsbQueueBuffer : Nat := 1312

/-- A `size_t` of which the first `n` bytes were overwritten, the lowest first. -/
def copySize (dst src n : Nat) : Nat :=
  if 8 ≤ n then src else dst / 256 ^ n * 256 ^ n + src % 256 ^ n

def memcpy (dst src : LonUsbQueueBuffer) (n : Nat) : LonUsbQueueBuffer where
  bufSize := copySize dst.bufSize src.bufSize n
  dataFrameSize := copySize dst.dataFrameSize src.dataFrameSize (n - dataFrameSizeOffset)
  priority := if priorityOffset < n then src.priority else dst.priority
  frameHeader :=
    let byte (k : Nat) (field : LonFrameHeader → UInt8) :=
      field (if frameHeaderOffset + k < n then src else dst).frameHeader
    { frameSync := byte 0 (·.frameSync)
      frameCode := byte 1 (·.frameCode)
      parameter := byte 2 (·.parameter)
      checksum := byte 3 (·.checksum) }
  usbNiDataFrame :=
    ⟨dst.usbNiDataFrame.image.copy 0 src.usbNiDataFrame.image 0 (n - usbNiDataFrameOffset)⟩

end LonUsbQueueBuffer

end LonStack.LonUsb
