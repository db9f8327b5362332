import LonStack.App.Interchange
import LonStack.App.Send
import LonStack.App.Tables
import LonStack.Tsa.Send

namespace LonStack

open Lib

abbrev IzotDatapointDirectionIsInput : UInt8 := 0
abbrev IzotDatapointDirectionIsOutput : UInt8 := 1
abbrev MAX_NV_OUT : Nat := 5
abbrev MAX_NV_IN : Nat := 50
abbrev MAX_NV_LENGTH : Nat := 228
abbrev NV_UPDATE_LAST_TAG_VALUE : MsgTag := 0xE000
abbrev NV_POLL_LAST_TAG_VALUE : MsgTag := 0xA000
abbrev IZOT_LS_MODE : Attribute := ⟨8, 0x40, 6⟩

abbrev NO_ADDRESS : Nat := 0xFF

def ServiceType.ofAttribute (service : UInt8) : ServiceType :=
  if service = 0 then .acknowledged
  else if service = 1 then .repeated
  else if service = 2 then .unacknowledged
  else .request

namespace IzotDatapointConfig

variable (c : IzotDatapointConfig)

def priority : Bool := IZOT_DATAPOINT_PRIORITY.get c.selhiDirPrio ≠ 0

def direction : UInt8 := IZOT_DATAPOINT_DIRECTION.get c.selhiDirPrio

def selHigh : UInt8 := IZOT_DATAPOINT_SELHIGH.get c.selhiDirPrio

def selector : Nat := c.selHigh.toNat * 256 + c.selectorLow.toNat

def turnaround : Bool := IZOT_DATAPOINT_TURNAROUND.get c.attribute1 ≠ 0

def service : ServiceType := .ofAttribute (IZOT_DATAPOINT_SERVICE.get c.attribute1)

def authentication : Bool := IZOT_DATAPOINT_AUTHENTICATION.get c.attribute1 ≠ 0

def addrIndex : Nat :=
  (IZOT_DATAPOINT_ADDRESS_HIGH.get c.attribute2).toNat * 16 +
    (IZOT_DATAPOINT_ADDRESS_LOW.get c.attribute1).toNat

end IzotDatapointConfig

structure NVArrayTbl where
  nvIndex : Nat
  dim : Nat
  deriving DecidableEq, Repr, Inhabited

/-- An entry of the queue of outputs to be sent: an index, or -1 at the end of a series, and behind
it room for a value. -/
structure NvOutEntry where
  index : Int
  value : Image

inductive DatapointEvent
  | updateCompleted (index : Int) (arrayIndex : Int) (success : Bool)
  | updateOccurred (index : Int) (arrayIndex : Int)
  deriving DecidableEq, Repr

structure AppStackData extends AppSender where
  /-- What the index -1 of `nvFixedTable` reads. -/
  nvFixedBefore : NVFixedStruct
  nvArrayTbl : List NVArrayTbl
  /-- The byte order of a variable in `izot_dp_prop`, if it has one. -/
  ibolSeq : Int → Option (List UInt8)
  tsaOutQ : Bool → Queue TSASendParam
  nwOutQ : Bool → Queue NWSendParam
  tsaOutBufSize : Bool → Nat
  nwOutBufSize : Bool → Nat
  appInQ : Queue APPReceiveParam
  appCeRspInQ : Queue APPReceiveParam
  nvOutIndexQ : Queue NvOutEntry
  nvOutIndexBufSize : Nat
  nvOutCanSchedule : Bool
  nvOutIndex : Int
  nvOutStatus : LonStatusCode
  nvInIndexQ : Queue Int
  nvInCanSchedule : Bool
  nvInIndex : Int
  nvInDataStatus : LonStatusCode
  nvInTranStatus : LonStatusCode
  nvArrayIndex : Int
  events : List DatapointEvent

def nvCode (direction selHigh : UInt8) : UInt8 := (0x80 : UInt8) ||| (direction <<< 6) ||| selHigh

namespace AppStackData

variable (gp : AppStackData)

def crash : AppStackData := { gp with crashed := true }

def withMem (mem : Image) : AppStackData := { gp with toAppData := gp.toAppData.setMem mem }

def NV_SYNC (_primaryIndex : Int) : Bool := false

def indices : Nat := gp.nvTableSize + NV_ALIAS_TABLE_SIZE

def entryOf (i : Nat) : IzotDatapointConfig :=
  if i < gp.nvTableSize then .ofImage gp.mem (gp.nvConfigTable i)
  else .ofImage gp.mem (gp.nvAliasTable (i - gp.nvTableSize))

/-- `none` stands for a null pointer. -/
def getNVStructPtr (nvIndexIn : Int) : Option IzotDatapointConfig :=
  if nvIndexIn < 0 ∨ gp.indices ≤ nvIndexIn then none else some (gp.entryOf nvIndexIn.toNat)

/-- -1 stands for no variable. -/
def getPrimaryIndex (nvIndex : Int) : Int :=
  if nvIndex < 0 ∨ gp.indices ≤ nvIndex then -1
  else if nvIndex < gp.nvTableSize then nvIndex
  else
    let primaryIndex := (gp.mem (gp.nvAliasTable (nvIndex.toNat - gp.nvTableSize) + 4)).toNat
    if gp.nvTableSize ≤ primaryIndex then -1 else primaryIndex

/-- `nvFixedTable[i]`, for an index that a lookup may have left at -1. -/
def nvFixed (i : Int) : NVFixedStruct :=
  if i < 0 then gp.nvFixedBefore else gp.nvFixedTable i.toNat

def nvValue (i : Int) : List UInt8 :=
  gp.mem.slice (gp.nvFixed i).nvAddress (gp.nvFixed i).nvLength.toNat

def networkValue (primaryIndex : Int) : List UInt8 :=
  networkData gp.mem (gp.nvFixed primaryIndex).nvAddress (gp.nvFixed primaryIndex).nvLength.toNat
    (gp.ibolSeq primaryIndex)

def hasSelector (selector : Nat) (direction : UInt8) (i : Nat) : Bool :=
  (gp.entryOf i).direction == direction && (gp.entryOf i).selector == selector

def firstMatch (selector : Nat) (direction : UInt8) : Option Nat :=
  (List.range gp.indices).find? (gp.hasSelector selector direction)

def isArrayNV (nvIndexIn : Int) : Bool × Nat × Int :=
  if nvIndexIn < 0 ∨ gp.nvTableSize ≤ nvIndexIn then (false, 1, nvIndexIn)
  else
    match gp.nvArrayTbl.find? fun a => a.nvIndex ≤ nvIndexIn && nvIndexIn < a.nvIndex + a.dim with
    | none => (false, 1, nvIndexIn)
    | some a => (true, a.dim, a.nvIndex)

def assigned (c : IzotDatapointConfig) : Bool :=
  c.addrIndex != NO_ADDRESS && gp.mem (gp.addrTable c.addrIndex) != IzotAddressUnassigned

/-- A turnaround entry of the address table binds a variable too. -/
def bound (c : IzotDatapointConfig) : Bool :=
  c.addrIndex != NO_ADDRESS &&
    (gp.mem (gp.addrTable c.addrIndex) != IzotAddressUnassigned ||
      gp.mem (gp.addrTable c.addrIndex + 1) == 1)

def aliasIndices : List Nat := List.range' gp.nvTableSize NV_ALIAS_TABLE_SIZE

def isNVBound (nvIndexIn : Int) : Bool :=
  if nvIndexIn < 0 ∨ gp.nvTableSize ≤ nvIndexIn then false
  else
    gp.bound (gp.entryOf nvIndexIn.toNat) ||
      gp.aliasIndices.any fun j => gp.getPrimaryIndex j == nvIndexIn && gp.bound (gp.entryOf j)

def updateCompleted (primaryIndex : Int) (status : LonStatusCode) : AppStackData :=
  let baseIndex := (gp.isArrayNV primaryIndex).2.2
  let nvArrayIndex := primaryIndex - baseIndex
  { gp with
    nvArrayIndex := nvArrayIndex
    events := gp.events ++ [.updateCompleted baseIndex nvArrayIndex (status ≠ .noError)] }

def updateOccurred (primaryIndex : Int) : AppStackData :=
  let baseIndex := (gp.isArrayNV primaryIndex).2.2
  let nvArrayIndex := primaryIndex - baseIndex
  { gp with
    nvArrayIndex := nvArrayIndex
    events := gp.events ++ [.updateOccurred baseIndex nvArrayIndex] }

def pushTsaOut (priority : Bool) (fill : TSASendParam → TSASendParam) : AppStackData :=
  { gp with
    tsaOutQ := Function.update gp.tsaOutQ priority ((gp.tsaOutQ priority).push fill) }

def setNwOut (priority : Bool) (q : Queue NWSendParam) : AppStackData :=
  { gp with nwOutQ := Function.update gp.nwOutQ priority q }

/-- `data` holds at least `len` bytes. -/
def allocSendUnackd (priority altPath proxy : Bool) (tag : MsgTag) (pSrc : SendAddress)
    (code : UInt8) (len : Nat) (data : List UInt8) : LonStatusCode × AppStackData :=
  let q := gp.nwOutQ priority
  if q.full then (.noBufferAvailable, gp)
  else if gp.nwOutBufSize false < len + 1 then (.invalidBufferLength, gp)
  else
    match pSrc.tsaAddressConversion q.tailSlot.destAddr.dmn with
    | .error sts =>
      (sts, gp.setNwOut priority
        (q.fillTail
          { q.tailSlot with
            dropIfUnconfigured := true
            tag := tag
            destAddr := pSrc.unconverted q.tailSlot.destAddr.dmn }))
    | .ok destAddr =>
      (.noError, gp.setNwOut priority
        (q.push fun slot =>
          { slot with
            dropIfUnconfigured := true
            tag := tag
            destAddr := destAddr
            pduType := .apdu
            deltaBL := 0
            altPath := if altPath then 1 else 0
            pduSize := len + 1
            proxy := proxy
            version := if gp.mem.getAttribute (gp.domainTable 0) IZOT_LS_MODE = 0 then 0 else 2
            pdu := slot.pdu.store code (data.take len) }))

end AppStackData

end LonStack
