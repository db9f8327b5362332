import LonStack.Lib.Image
import LonStack.Node

namespace LonStack

open Lib

abbrev MAX_DOMAINS : Nat := 2
abbrev NV_TABLE_SIZE : Nat := 254
abbrev NV_ALIAS_TABLE_SIZE : Nat := 254
abbrev IZOT_UNIQUE_ID_LENGTH : Nat := 6
abbrev IZOT_PROGRAM_ID_LENGTH : Nat := 8
abbrev sizeofIzotReadOnlyData : Nat := 47
abbrev sizeofIzotConfigData : Nat := 25
abbrev sizeofIzotDomain : Nat := 15
abbrev sizeofIzotAddress : Nat := 5
abbrev sizeofIzotDatapointConfig : Nat := 4
abbrev sizeofIzotAliasConfig : Nat := 5
abbrev sizeofNVStruct : Nat := 3
abbrev sizeofAliasStruct : Nat := 6
abbrev sizeofLonStatusCode : Nat := 4
abbrev sizeofDimensions : Nat := 4

namespace IzotReadOnlyData

abbrev uniqueNodeId : Nat := 0
abbrev readOnly_1 : Nat := 10
abbrev programId : Nat := 13
abbrev readOnly_2 : Nat := 21
abbrev extended : Nat := 46

end IzotReadOnlyData

namespace IzotConfigData

abbrev clock : Nat := 8
end IzotConfigData

namespace EEPROM

def readOnlyData : Nat := 0

def configData : Nat := readOnlyData + sizeofIzotReadOnlyData

def domainTable : Nat := configData + sizeofIzotConfigData

def addrTable : Nat := domainTable + sizeofIzotDomain * MAX_DOMAINS

def nvConfigTable : Nat := addrTable + sizeofIzotAddress * NUM_ADDR_TBL_ENTRIES

def nvAliasTable : Nat := nvConfigTable + sizeofIzotDatapointConfig * NV_TABLE_SIZE

def configCheckSum : Nat := nvAliasTable + sizeofIzotAliasConfig * NV_ALIAS_TABLE_SIZE

def errorLog : Nat := configCheckSum + 1

def nodeState : Nat := errorLog + sizeofLonStatusCode + sizeofDimensions + 1

end EEPROM

structure Attribute where
  field : Nat
  mask : UInt8
  shift : UInt8
  deriving DecidableEq, Repr

abbrev IZOT_READONLY_RW_PROTECT : Attribute := ⟨IzotReadOnlyData.readOnly_1, 0x80, 7⟩
abbrev IZOT_READONLY_RUN_UNCONFIG : Attribute := ⟨IzotReadOnlyData.readOnly_1, 0x40, 6⟩
abbrev IZOT_READONLY_TWO_DOMAINS : Attribute := ⟨IzotReadOnlyData.readOnly_2, 0x40, 6⟩
abbrev IZOT_READONLY_NODE_STATE : Attribute := ⟨IzotReadOnlyData.readOnly_2, 0x07, 0⟩
abbrev IZOT_CONFIG_INPUT_CLOCK : Attribute := ⟨IzotConfigData.clock, 0x07, 0⟩
abbrev IZOT_DOMAIN_NONCLONE : Attribute := ⟨7, 0x80, 7⟩
abbrev IZOT_DOMAIN_NODE : Attribute := ⟨7, 0x7F, 0⟩
abbrev IZOT_DOMAIN_INVALID : Attribute := ⟨8, 0x80, 7⟩
abbrev IZOT_ADDRESS_GROUP_TYPE : Attribute := ⟨0, 0x80, 7⟩
abbrev IZOT_ADDRESS_GROUP_SIZE : Attribute := ⟨0, 0x7F, 0⟩
abbrev IZOT_ADDRESS_GROUP_DOMAIN : Attribute := ⟨1, 0x80, 7⟩
abbrev IZOT_ADDRESS_GROUP_REPEAT_TIMER : Attribute := ⟨2, 0xF0, 4⟩
abbrev IZOT_ADDRESS_GROUP_RETRY : Attribute := ⟨2, 0x0F, 0⟩
abbrev IZOT_ADDRESS_GROUP_RECEIVE_TIMER : Attribute := ⟨3, 0xF0, 4⟩
abbrev IZOT_ADDRESS_GROUP_TRANSMIT_TIMER : Attribute := ⟨3, 0x0F, 0⟩
abbrev IZOT_DATAPOINT_PRIORITY : Attribute := ⟨0, 0x80, 7⟩
abbrev IZOT_DATAPOINT_DIRECTION : Attribute := ⟨0, 0x40, 6⟩
abbrev IZOT_DATAPOINT_SELHIGH : Attribute := ⟨0, 0x3F, 0⟩
abbrev IZOT_DATAPOINT_TURNAROUND : Attribute := ⟨2, 0x80, 7⟩
abbrev IZOT_DATAPOINT_SERVICE : Attribute := ⟨2, 0x60, 5⟩
abbrev IZOT_DATAPOINT_AUTHENTICATION : Attribute := ⟨2, 0x10, 4⟩
abbrev IZOT_DATAPOINT_ADDRESS_LOW : Attribute := ⟨2, 0x0F, 0⟩
abbrev IZOT_DATAPOINT_ADDRESS_HIGH : Attribute := ⟨3, 0xF0, 4⟩
abbrev IZOT_DATAPOINT_AES : Attribute := ⟨3, 0x08, 3⟩

namespace Attribute

def get (a : Attribute) (b : UInt8) : UInt8 := (b &&& a.mask) >>> a.shift

def put (a : Attribute) (b value : UInt8) : UInt8 :=
  (b &&& ~~~a.mask) ||| ((value <<< a.shift) &&& a.mask)

variable (a : Attribute) (b value : UInt8)

theorem get_put : a.get (a.put b value) = ((value <<< a.shift) &&& a.mask) >>> a.shift := by
  have hand : (b &&& ~~~a.mask ||| value <<< a.shift &&& a.mask) &&& a.mask =
      value <<< a.shift &&& a.mask := by
    rw [← UInt8.toBitVec_inj]
    ext i hi
    simp only [UInt8.toBitVec_and, UInt8.toBitVec_or, UInt8.toBitVec_not, BitVec.getElem_and,
      BitVec.getElem_or, BitVec.getElem_not]
    cases a.mask.toBitVec[i] <;> simp
  rw [get, put, hand]

end Attribute

namespace Lib.Image

def getAttribute (m : Image) (addr : Nat) (a : Attribute) : UInt8 := a.get (m (addr + a.field))

def setAttribute (m : Image) (addr : Nat) (a : Attribute) (value : UInt8) : Image :=
  m.set (addr + a.field) (a.put (m (addr + a.field)) value)

end Lib.Image

end LonStack
