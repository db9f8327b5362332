import LonStack.App.Memory
import LonStack.OsalLog

namespace LonStack

open Lib

inductive AppPgmMode
  | offLine
  | onLine
  | notRunning
  deriving DecidableEq, Repr, Inhabited

structure NVFixedStruct where
  nvLength : UInt8
  nvAddress : Nat
  deriving DecidableEq, Repr, Inhabited

abbrev IzotApplicationUnconfig : UInt8 := 2
abbrev IzotConfigOnLine : UInt8 := 4
abbrev IzotSoftwareReset : UInt8 := 0x14
abbrev IS_CONFIGURED : UInt8 := 4

/-- The data memory of the node with what the application layer keeps outside of it. `eep` and
`nmp` are the addresses of the EEPROM and of the memory map. -/
structure AppData where
  mem : Image
  eep : Nat
  nmp : Nat
  nvTableSize : Nat
  nvTableSize_le : nvTableSize ≤ NV_TABLE_SIZE
  nvFixedTable : Nat → NVFixedStruct
  resetCause : UInt8
  appPgmMode : AppPgmMode
  selectQueryFlag : Bool
  resetNode : Bool
  switchoverFailure : Bool
  tsaRespBufSize : Nat
  tsaRespQ : Queue TSASendParam
  /-- Something was written through a null pointer. -/
  crashed : Bool

namespace AppData

variable (gp : AppData)

def setMem (mem : Image) : AppData := { gp with mem := mem }

@[simp] theorem mem_setMem (m : Image) : (gp.setMem m).mem = m := rfl

@[simp] theorem eep_setMem (m : Image) : (gp.setMem m).eep = gp.eep := rfl

@[simp] theorem nvTableSize_setMem (m : Image) : (gp.setMem m).nvTableSize = gp.nvTableSize := rfl

@[simp] theorem tsaRespQ_setMem (m : Image) : (gp.setMem m).tsaRespQ = gp.tsaRespQ := rfl

@[simp] theorem tsaRespBufSize_setMem (m : Image) :
    (gp.setMem m).tsaRespBufSize = gp.tsaRespBufSize := rfl

def readOnlyData : Nat := gp.eep + EEPROM.readOnlyData

def configData : Nat := gp.eep + EEPROM.configData

def domainTable (i : Nat) : Nat := gp.eep + EEPROM.domainTable + sizeofIzotDomain * i

def addrTable (i : Nat) : Nat := gp.eep + EEPROM.addrTable + sizeofIzotAddress * i

def nvConfigTable (i : Nat) : Nat :=
  gp.eep + EEPROM.nvConfigTable + sizeofIzotDatapointConfig * i

def nvAliasTable (i : Nat) : Nat := gp.eep + EEPROM.nvAliasTable + sizeofIzotAliasConfig * i

def configCheckSum : Nat := gp.eep + EEPROM.configCheckSum

def nodeState : UInt8 := gp.mem.getAttribute gp.readOnlyData IZOT_READONLY_NODE_STATE

def setNodeState (state : UInt8) : AppData :=
  gp.setMem (gp.mem.setAttribute gp.readOnlyData IZOT_READONLY_NODE_STATE state)

def nodeConfigured : Bool := gp.nodeState &&& IS_CONFIGURED ≠ 0

/-- Not the negation of `nodeConfigured`. -/
def nodeUnConfigured : Bool := gp.nodeState ≠ IzotConfigOnLine

def appPgmRuns : Bool :=
  (gp.nodeState = IzotConfigOnLine ∧ gp.appPgmMode = .onLine) ∨
    (gp.nodeState = IzotApplicationUnconfig ∧
      gp.mem.getAttribute gp.readOnlyData IZOT_READONLY_RUN_UNCONFIG ≠ 0 ∧
        gp.appPgmMode = .onLine)

def twoDomains : Bool :=
  gp.mem.getAttribute gp.readOnlyData IZOT_READONLY_TWO_DOMAINS ≠ 0

def accessDomain (indexIn : UInt8) : Option Nat :=
  if indexIn ≤ gp.mem.getAttribute gp.readOnlyData IZOT_READONLY_TWO_DOMAINS then
    some (gp.domainTable indexIn.toNat)
  else none

def updateDomain (domainInp : Image) (src : Nat) (indexIn : UInt8) (includeKey : Bool) :
    LonStatusCode × AppData :=
  let nDomains := if gp.twoDomains then MAX_DOMAINS else 1
  if indexIn.toNat < nDomains then
    (.noError,
      gp.setMem (gp.mem.copy (gp.domainTable indexIn.toNat) domainInp src
          (if includeKey then sizeofIzotDomain
            else sizeofIzotDomain - IZOT_AUTHENTICATION_KEY_LENGTH)))
  else (.invalidDomain, gp)

def extended : Nat := (gp.mem (gp.readOnlyData + IzotReadOnlyData.extended)).toNat

def accessAddress (indexIn : Nat) : Option Nat :=
  if indexIn < gp.extended then some (gp.addrTable indexIn) else none

def updateAddress (addrEntryInp : Image) (src indexIn : Nat) : LonStatusCode × AppData :=
  if indexIn < gp.extended then
    (.noError,
      gp.setMem (gp.mem.copy (gp.addrTable indexIn) addrEntryInp src sizeofIzotAddress))
  else (.invalidAddrTableIndex, gp)

def addrTableIndex (domainIndexIn : Nat) (groupIn : UInt8) : Nat :=
  ((List.range NUM_ADDR_TBL_ENTRIES).find? fun i =>
    gp.mem.getAttribute (gp.addrTable i) IZOT_ADDRESS_GROUP_TYPE == 1 &&
      gp.mem (gp.addrTable i + 4) == groupIn &&
      (gp.mem.getAttribute (gp.addrTable i) IZOT_ADDRESS_GROUP_DOMAIN).toNat ==
        domainIndexIn).getD 0xFF

def checkSum8 (dataIn lengthIn : Nat) : UInt8 := gp.mem.xorBytes dataIn lengthIn

def computeConfigCheckSum : UInt8 :=
  gp.checkSum8 gp.configData (gp.configCheckSum - gp.configData)

def recomputeChecksum : AppData :=
  gp.setMem (gp.mem.set gp.configCheckSum gp.computeConfigCheckSum)

def errorLog : UInt32 := gp.mem.long (gp.eep + EEPROM.errorLog)

def eventLog (commits : CommitTimer) : EventLog where
  toCommitTimer := commits
  errorLog := gp.errorLog
  nodeState := gp.mem (gp.eep + EEPROM.nodeState)

def setEventLog (l : EventLog) : AppData :=
  gp.setMem ((gp.mem.write (gp.eep + EEPROM.errorLog) (wordBytes l.errorLog)).set
    (gp.eep + EEPROM.nodeState) l.nodeState)

def lcsInitAddress : AppData :=
  gp.setMem ((List.range NUM_ADDR_TBL_ENTRIES).foldl (fun m i => m.fill (gp.addrTable i) 5 0) gp.mem)

/-- The bytes of an unused entry of the alias table. The last one lies behind the entry. -/
def unusedAlias : List UInt8 := [0x7F, 0xFF, 0x0F, 0xFF, 0xFF, 0xFF]

def lcsInitAlias : AppData :=
  let mem := (List.range NV_ALIAS_TABLE_SIZE).foldl
    (fun m i => m.fill (gp.nvAliasTable i) 6 0) gp.mem
  gp.setMem ((List.range NV_ALIAS_TABLE_SIZE).foldl
      (fun m i => m.write (gp.nvAliasTable i) unusedAlias) mem)

variable {gp : AppData}

theorem errorLog_congr {gp' : AppData} (heep : gp'.eep = gp.eep)
    (h : ∀ k < 4, gp'.mem (gp.eep + EEPROM.errorLog + k) = gp.mem (gp.eep + EEPROM.errorLog + k)) :
    gp'.errorLog = gp.errorLog := by
  rw [errorLog, heep]
  exact Image.long_congr h

theorem mem_setEventLog (l : EventLog) {a : Nat}
    (h : a < gp.eep + EEPROM.errorLog ∨ gp.eep + EEPROM.nodeState < a) :
    (gp.setEventLog l).mem a = gp.mem a := by
  have hstate : EEPROM.nodeState = EEPROM.errorLog + 9 := rfl
  have hword : (wordBytes l.errorLog).length = 4 := rfl
  refine (Image.set_of_ne (by omega)).trans ?_
  rcases h with h | h
  · exact Image.write_of_lt _ _ h
  · exact Image.write_of_le _ _ (by omega)

theorem errorLog_setEventLog (l : EventLog) : (gp.setEventLog l).errorLog = l.errorLog := by
  have hstate : EEPROM.nodeState = EEPROM.errorLog + 9 := rfl
  have hbyte (k : Nat) (hk : k < 4) :
      (gp.setEventLog l).mem (gp.eep + EEPROM.errorLog + k) = (wordBytes l.errorLog)[k] :=
    (Image.set_of_ne (by omega)).trans (Image.write_of_mem _ _ hk)
  exact Image.long_eq (hbyte 0 (by decide)) (hbyte 1 (by decide)) (hbyte 2 (by decide))
    (hbyte 3 (by decide))

theorem setEventLog_eventLog (commits : CommitTimer) :
    gp.setEventLog (gp.eventLog commits) = gp := by
  have hword : gp.mem.write (gp.eep + EEPROM.errorLog) (wordBytes gp.errorLog) = gp.mem := by
    refine Image.write_same fun k hk => ?_
    rw [errorLog, wordBytes_long] at hk
    simp only [errorLog, wordBytes_long]
    match k, hk with
    | 0, _ => rfl
    | 1, _ => rfl
    | 2, _ => rfl
    | 3, _ => rfl
  rw [setEventLog, eventLog, hword, Image.set_same]
  rfl

end AppData

end LonStack
