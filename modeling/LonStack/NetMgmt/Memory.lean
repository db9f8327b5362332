import LonStack.NetMgmt.Query

namespace LonStack

open Lib

abbrev NM_QUERY_ID : UInt8 := 0x01
abbrev NM_READ_MEMORY : UInt8 := 0x0D
abbrev NM_WRITE_MEMORY : UInt8 := 0x0E

abbrev ABSOLUTE_MEM_ADDR : UInt8 := 0
abbrev READ_ONLY_RELATIVE : UInt8 := 1
abbrev CONFIG_RELATIVE : UInt8 := 2
abbrev STAT_RELATIVE : UInt8 := 3
abbrev MFG_RELATIVE : UInt8 := 255

abbrev UNCONFIGURED : UInt8 := 0
abbrev SELECTED : UInt8 := 1
abbrev SELECTED_UNCFG : UInt8 := 2

abbrev CNFG_CS_RECALC : UInt8 := 4
abbrev ACTION_RESET : UInt8 := 8

abbrev BASE_FIRMWARE_VERSION : UInt8 := 4

/-- Where the variables of the stack lie in the memory of the process, and the direct memory files
of the application. -/
structure MemoryHost where
  /-- The address of the pointer to the memory map. -/
  nmpVar : Nat
  sizeofEEPROM : Nat
  sizeofNmMap : Nat
  /-- The offset of the reset cause in the memory map. -/
  resetCause : Nat
  /-- Address and size of the window, if the stack is built with direct memory files. -/
  dmfWindow : Option (Nat × Nat)
  /-- `IzotTranslateWindowArea`: whether to write, the address in the window and the size. -/
  translate : Bool → Nat → Nat → Option Nat

namespace MemoryHost

variable (host : MemoryHost)

def inDmfWindow (addr size : Nat) : Bool :=
  match host.dmfWindow with
  | none => false
  | some (windowAddress, windowSize) =>
    windowAddress ≤ addr && addr + size ≤ (windowAddress + windowSize) % 2 ^ 32

def izotMemoryRead (mem : Image) (address size : Nat) : Option (List UInt8) :=
  (host.translate false address size).map fun pHostAddress => mem.slice pHostAddress size

/-- `pData` is the offset of the data in an image. -/
def izotMemoryWrite (mem : Image) (address size : Nat) (data : Image) (pData : Nat) :
    Option Image :=
  (host.translate true address size).map fun pHostAddress =>
    mem.copy pHostAddress data pData size

end MemoryHost

namespace AppData

variable (gp : AppData) (host : MemoryHost) (p : APPReceiveParam) (apdu : Apdu)

/-- What is to be committed is not part of `AppData`. -/
def osalPrintLog (status : LonStatusCode) : AppData :=
  gp.setEventLog ((gp.eventLog default).osalPrintLog gp.nodeState 0 status)

def readWriteProtect : Bool :=
  gp.mem.getAttribute gp.readOnlyData IZOT_READONLY_RW_PROTECT = 1

def absolute (offset : Nat) : Nat :=
  if 0xF000 ≤ offset then gp.eep + (offset - 0xF000) else gp.nmp + offset

/-- An unknown mode is taken for the read-only data. -/
def readMemp (mode : UInt8) (offset : Nat) : Nat :=
  if mode = ABSOLUTE_MEM_ADDR then gp.absolute offset
  else if mode = CONFIG_RELATIVE then gp.configData + offset
  else if mode = STAT_RELATIVE then gp.nmp + offset
  else if mode = MFG_RELATIVE then offset
  else gp.readOnlyData + offset

def readAllowed (memp count : Nat) : Bool :=
  (gp.readOnlyData ≤ memp && memp + count < gp.domainTable 0) ||
    (memp = host.nmpVar && count = 1)

def readMode : UInt8 := apdu.data 0
def readOffset : Nat := apdu.word 1
def readCount : Nat := (apdu.data 3).toNat

def slowClock : AppData :=
  gp.setMem (gp.mem.setAttribute gp.configData IZOT_CONFIG_INPUT_CLOCK 0)

def restoreClock (clockSave : UInt8) : AppData :=
  gp.setMem (gp.mem.setAttribute gp.configData IZOT_CONFIG_INPUT_CLOCK clockSave)

/-- A read of location 0 shows the version of the firmware. -/
def readBytes (memp count : Nat) : List UInt8 :=
  if memp = gp.nmp ∧ count = 1 then [BASE_FIRMWARE_VERSION] else gp.mem.slice memp count

def readMemory (mode : UInt8) (memp count : Nat) : AppData :=
  let clockSave := gp.mem.getAttribute gp.configData IZOT_CONFIG_INPUT_CLOCK
  let code := if mode = MFG_RELATIVE then NM_resp_failure else NM_resp_success
  (gp.slowClock.restoreClock clockSave).writeResponse p.reqId false false
    ((code ||| NM_READ_MEMORY) :: gp.slowClock.readBytes memp count)

def handleNMReadMemory : AppData :=
  if p.pduSize < 5 ∨ gp.tsaRespBufSize < readCount apdu then
    gp.nmndRespond .nm .invalidMessageLength p apdu
  else if readMode apdu = ABSOLUTE_MEM_ADDR ∧ host.inDmfWindow (readOffset apdu) (readCount apdu) then
    gp.writeResponse p.reqId false false
      (match host.izotMemoryRead gp.mem (readOffset apdu) (readCount apdu) with
      | some data => (NM_resp_success ||| NM_READ_MEMORY) :: data
      | none => [NM_resp_failure ||| NM_READ_MEMORY])
  else
    let memp := gp.readMemp (readMode apdu) (readOffset apdu)
    if gp.readWriteProtect ∧ ¬gp.readAllowed host memp (readCount apdu) then
      gp.writeResponse p.reqId false false [NM_resp_failure ||| NM_READ_MEMORY]
    else gp.readMemory p (readMode apdu) memp (readCount apdu)

-- The form is an enumeration of four bytes, of which the first one is tested. The data is copied
-- from behind that byte.

def afterWrite (form : UInt8) : AppData :=
  let recalced := if form &&& CNFG_CS_RECALC ≠ 0 then gp.recomputeChecksum else gp
  if form &&& ACTION_RESET ≠ 0 then
    { recalced with
      mem := recalced.mem.set (gp.nmp + host.resetCause) IzotSoftwareReset
      resetNode := true
      resetCause := IzotSoftwareReset }
  else recalced

def writeForm : UInt8 := apdu.data 4

def writeMemp (mode : UInt8) (offset : Nat) : Option Nat :=
  if mode = ABSOLUTE_MEM_ADDR then some (gp.absolute offset)
  else if mode = CONFIG_RELATIVE then some (gp.configData + offset)
  else if mode = STAT_RELATIVE then some (gp.nmp + offset)
  else if mode = READ_ONLY_RELATIVE then some (gp.readOnlyData + offset)
  else none

def writeInRange (memp count : Nat) : Bool :=
  (gp.nmp ≤ memp && memp + count ≤ gp.nmp + host.sizeofNmMap) ||
    (gp.eep ≤ memp && memp + count ≤ gp.eep + host.sizeofEEPROM)

def writeAllowed (memp count : Nat) : Bool :=
  gp.configData ≤ memp && memp + count < gp.domainTable 0

def writeMemory : LonStatusCode × AppData :=
  if p.pduSize < 6 then (.invalidMessageLength, gp)
  else if p.pduSize ≠ 6 + readCount apdu ∧ p.pduSize ≠ 17 then (.invalidMessageLength, gp)
  else if readMode apdu = ABSOLUTE_MEM_ADDR ∧ host.inDmfWindow (readOffset apdu) (readCount apdu) then
    -- The data of the struct begins behind all four bytes of the form.
    match host.izotMemoryWrite gp.mem (readOffset apdu) (readCount apdu) apdu 9 with
    | some mem => (.noError, (gp.setMem mem).afterWrite host (writeForm apdu))
    | none => (.writeFailed, gp)
  else
    match gp.writeMemp (readMode apdu) (readOffset apdu) with
    | none => (.invalidMessageMode, gp)
    | some memp =>
      if ¬gp.writeInRange host memp (readCount apdu) then (.invalidMessageCommand, gp)
      else if gp.readWriteProtect ∧ ¬gp.writeAllowed memp (readCount apdu) then
        (.invalidMessageCommand, gp)
      else
        (.noError, (gp.setMem (gp.mem.copy memp apdu (Apdu.dataOffset + 5)
          (readCount apdu))).afterWrite host (writeForm apdu))

def handleNMWriteMemory : AppData :=
  (gp.writeMemory host p apdu).2.nmndRespond .nm (gp.writeMemory host p apdu).1 p apdu

def queryIdMode : UInt8 := apdu.data 1
def queryIdOffset : Nat := apdu.word 2
def queryIdCount : Nat := (apdu.data 4).toNat

def queryIdSelected (selector : UInt8) : Option Bool :=
  if selector = UNCONFIGURED then some gp.nodeUnConfigured
  else if selector = SELECTED then some gp.selectQueryFlag
  else if selector = SELECTED_UNCFG then some (gp.selectQueryFlag && gp.nodeUnConfigured)
  else none

def queryIdMemp (mode : UInt8) (offset : Nat) : Option Nat :=
  if mode = ABSOLUTE_MEM_ADDR then some (gp.absolute offset)
  else if mode = CONFIG_RELATIVE then some (gp.configData + offset)
  else if mode = READ_ONLY_RELATIVE then some (gp.readOnlyData + offset)
  else none

/-- The test takes the fourth byte of data for the size of the range, which is the low byte of the
offset. -/
def queryIdAllowed (memp : Nat) : Bool :=
  gp.readOnlyData ≤ memp && memp + (apdu.data 3).toNat < gp.domainTable 0

def queryIdMatch (memp count : Nat) : Bool :=
  Image.slice apdu (Apdu.dataOffset + 5) count = gp.mem.slice memp count

inductive IdAnswer
  | failed
  | null
  | id
  deriving DecidableEq, Repr

def queryIdMemory : IdAnswer :=
  match gp.queryIdMemp (queryIdMode apdu) (queryIdOffset apdu) with
  | none => .failed
  | some memp =>
    if ¬gp.queryIdAllowed apdu memp then .failed
    else if ¬gp.queryIdMatch apdu memp (queryIdCount apdu) then .null
    else .id

def queryIdAnswer : IdAnswer :=
  match gp.queryIdSelected (apdu.data 0) with
  | none => .failed
  | some false => .null
  | some true => if 2 < p.pduSize then gp.queryIdMemory apdu else .id

def idBytes : List UInt8 :=
  gp.mem.slice (gp.readOnlyData + IzotReadOnlyData.uniqueNodeId) IZOT_UNIQUE_ID_LENGTH ++
    gp.mem.slice (gp.readOnlyData + IzotReadOnlyData.programId) IZOT_PROGRAM_ID_LENGTH

def queryIdResponse (answer : IdAnswer) : List UInt8 :=
  if answer = .id ∧ 1 + IZOT_UNIQUE_ID_LENGTH + IZOT_PROGRAM_ID_LENGTH ≤ gp.tsaRespBufSize then
    (NM_resp_success ||| NM_QUERY_ID) :: gp.idBytes
  else [NM_resp_failure ||| NM_QUERY_ID]

/-- The response is begun in the slot at the tail of the queue before the size is checked again. -/
def beginResponse : AppData := { gp with crashed := gp.crashed || gp.tsaRespQ.full }

def handleNMQueryId : AppData :=
  if p.pduSize ≠ 2 ∧ p.pduSize < 6 then gp.nmndRespond .nm .invalidMessageLength p apdu
  else if 2 < p.pduSize ∧ p.pduSize ≠ 6 + queryIdCount apdu then
    gp.beginResponse.nmndRespond .nm .invalidMessageLength p apdu
  else
    gp.writeResponse p.reqId (gp.queryIdAnswer p apdu = .null) false
      (gp.queryIdResponse (gp.queryIdAnswer p apdu))

end AppData

end LonStack
