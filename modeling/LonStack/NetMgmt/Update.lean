import LonStack.NetMgmt.Respond

namespace LonStack

open Lib

def gmrdwf : List UInt8 := [0x67, 0x6D, 0x72, 0x64, 0x77, 0x66]

namespace IzotDomain

abbrev subnetOffset : Nat := 6
abbrev keyOffset : Nat := 9

end IzotDomain

namespace AppData

variable (gp : AppData) (p : APPReceiveParam) (apdu : Apdu)

def handleNMUpdateDomain : AppData :=
  if 2 + sizeofIzotDomain ≤ p.pduSize then
    let r := gp.updateDomain apdu (Apdu.dataOffset + 1) (apdu.data 0) true
    r.2.recomputeChecksum.nmndRespond .nm r.1 p apdu
  else gp.nmndRespond .nm .invalidOperation p apdu

def leaveDomain (i : Nat) : AppData :=
  gp.setMem ((((gp.mem.fill (gp.domainTable i) sizeofIzotDomain 0xFF).write (gp.domainTable i)
        gmrdwf).set (gp.domainTable i + IzotDomain.subnetOffset) 0).setAttribute
          (gp.domainTable i) IZOT_DOMAIN_NODE 0)

def domainInvalid (i : Nat) : Bool :=
  gp.mem.getAttribute (gp.domainTable i) IZOT_DOMAIN_INVALID ≠ 0

def leaveNetwork : AppData :=
  if (!gp.twoDomains && gp.domainInvalid 0) ||
      (gp.twoDomains && gp.domainInvalid 0 && gp.domainInvalid 1) then
    { gp.setNodeState IzotApplicationUnconfig with
      resetCause := IzotSoftwareReset
      resetNode := true }
  else gp

def handleNMLeaveDomain : AppData :=
  if p.pduSize ≠ 2 then gp.nmndRespond .nm .invalidMessageLength p apdu
  else if apdu.data 0 ≠ 0 ∧ apdu.data 0 ≠ 1 then gp.nmndRespond .nm .invalidDomain p apdu
  else
    let left := (gp.leaveDomain (apdu.data 0).toNat).recomputeChecksum
    -- A message that was received on the domain just left is not answered.
    let answered :=
      if (apdu.data 0).toNat ≠ p.srcAddr.dmn.domainIndex then left.nmndRespond .nm .noError p apdu
      else left
    answered.leaveNetwork

def addKey (p : Nat) (src : Nat) : AppData :=
  gp.setMem ((List.range IZOT_AUTHENTICATION_KEY_LENGTH).foldl
      (fun m i => m.set (p + IzotDomain.keyOffset + i)
        (m (p + IzotDomain.keyOffset + i) + apdu (src + i))) gp.mem)

def handleNMUpdateKey : AppData :=
  if p.pduSize ≠ 2 + IZOT_AUTHENTICATION_KEY_LENGTH then
    gp.nmndRespond .nm .invalidMessageLength p apdu
  else if apdu.data 0 ≠ 0 ∧ apdu.data 0 ≠ 1 then gp.nmndRespond .nm .invalidDomain p apdu
  else
    (gp.addKey apdu (gp.domainTable (apdu.data 0).toNat)
      (Apdu.dataOffset + 1)).recomputeChecksum.nmndRespond .nm .noError p apdu

def handleNmeUpdateDomain : AppData :=
  if 3 + sizeofIzotDomain - IZOT_AUTHENTICATION_KEY_LENGTH ≤ p.pduSize then
    let r := gp.updateDomain apdu (Apdu.dataOffset + 2) (apdu.data 1) false
    r.2.recomputeChecksum.nmndRespond .nm r.1 p apdu
  else gp.nmndRespond .nm .invalidOperation p apdu

def clearKey (increment : Bool) (p : Nat) : AppData :=
  if increment then gp
  else gp.setMem (gp.mem.fill (p + IzotDomain.keyOffset) IZOT_AUTHENTICATION_KEY_LENGTH 0)

def setKey (increment : Bool) (p src : Nat) : AppData :=
  (gp.clearKey increment p).addKey apdu p src

def updateKeyOf (increment : Bool) (i : UInt8) (src : Nat) : LonStatusCode × AppData :=
  match gp.accessDomain i with
  | none => (.invalidOperation, { gp with crashed := true })
  | some p =>
    let added := gp.setKey apdu increment p src
    added.updateDomain added.mem p i true

def handleNmeUpdateKey : AppData :=
  if 3 + IZOT_OMA_AUTHENTICATION_KEY_LENGTH ≤ p.pduSize ∧ (gp.accessDomain 1).isSome then
    let increment : Bool := apdu.data 1 = 1
    let r₀ := gp.updateKeyOf apdu increment 0 (Apdu.dataOffset + 2)
    let r₁ :=
      if r₀.1 ≠ .noError then r₀
      else
        r₀.2.updateKeyOf apdu increment 1 (Apdu.dataOffset + 2 + IZOT_AUTHENTICATION_KEY_LENGTH)
    r₁.2.recomputeChecksum.nmndRespond .nm r₁.1 p apdu
  else gp.nmndRespond .nm .invalidOperation p apdu

/-- For the format of an unused entry the last byte may be missing. -/
def handleNMUpdateAddr : AppData :=
  if (if apdu.data 1 = 0 then 6 else 7) ≤ p.pduSize then
    let r := gp.updateAddress apdu (Apdu.dataOffset + 1) (apdu.data 0).toNat
    r.2.recomputeChecksum.nmndRespond .nm r.1 p apdu
  else gp.nmndRespond .nm .invalidOperation p apdu

def copyAttribute (addr : Nat) (src : Nat) (a : Attribute) : AppData :=
  gp.setMem (gp.mem.setAttribute addr a (Image.getAttribute apdu src a))

def updateGroup (ap : Nat) (src : Nat) : AppData :=
  [IZOT_ADDRESS_GROUP_SIZE, IZOT_ADDRESS_GROUP_REPEAT_TIMER, IZOT_ADDRESS_GROUP_RETRY,
    IZOT_ADDRESS_GROUP_RECEIVE_TIMER, IZOT_ADDRESS_GROUP_TRANSMIT_TIMER].foldl
      (fun gp a => gp.copyAttribute apdu ap src a) gp

def handleNMUpdateGroupAddr : AppData :=
  if p.srcAddr.addressMode ≠ .multicast ∨ p.srcAddr.dmn.domainIndex = FLEX_DOMAIN then
    gp.nmndRespond .nm .invalidMessageService p apdu
  else if p.pduSize ≠ 1 + sizeofIzotAddress then
    gp.nmndRespond .nm .invalidMessageLength p apdu
  else
    let group := Image.getAttribute apdu Apdu.dataOffset IZOT_ADDRESS_GROUP_TYPE
    let addrIndex :=
      if group = 1 then gp.addrTableIndex p.srcAddr.dmn.domainIndex p.srcAddr.group else 0
    if group ≠ 1 ∨ addrIndex = 0xFF then gp.nmndRespond .nm .invalidMessageAddress p apdu
    else
      match gp.accessAddress addrIndex with
      | none => { gp with crashed := true }
      | some ap =>
        (gp.updateGroup apdu ap Apdu.dataOffset).recomputeChecksum.nmndRespond .nm .noError p apdu

/-- An entry in the legacy form, which has neither the upper half of the address index nor the AES
bit. -/
def updateLegacy (addr : Nat) (np : Nat) : AppData :=
  gp.setMem (((gp.mem.copy addr apdu np sizeofNVStruct).setAttribute addr
        IZOT_DATAPOINT_ADDRESS_HIGH 0).setAttribute addr IZOT_DATAPOINT_AES 0)

abbrev AliasStruct.primary : Nat := 3

def updateAliasLegacy (addr : Nat) (np : Nat) : AppData :=
  (gp.updateLegacy apdu addr np).setMem ((gp.updateLegacy apdu addr np).mem.set
    (addr + sizeofIzotDatapointConfig) (apdu (np + AliasStruct.primary)))

def legacyIndex : Nat := if apdu.data 0 = 255 then apdu.word 1 else (apdu.data 0).toNat

def legacyEscape : Nat := if apdu.data 0 = 255 then 2 else 0

def handleNMUpdateNvConfig : AppData :=
  if p.pduSize < 5 then gp.nmndRespond .nm .invalidMessageLength p apdu
  else
    let n := legacyIndex apdu
    let np := Apdu.dataOffset + 1 + legacyEscape apdu
    if n < gp.nvTableSize then
      if sizeofNVStruct + 2 + legacyEscape apdu ≤ p.pduSize then
        (gp.updateLegacy apdu (gp.nvConfigTable n) np).recomputeChecksum.nmndRespond .nm .noError
          p apdu
      else gp.nmndRespond .nm .invalidMessageLength p apdu
    else if n < gp.nvTableSize + NV_ALIAS_TABLE_SIZE then
      let pduSize := sizeofAliasStruct - 2 + 2 + legacyEscape apdu
      -- With primary 0xFF the host primary follows, unless the message ends before it. It is not
      -- stored.
      let pduSize :=
        if apdu (np + AliasStruct.primary) = 0xFF ∧ p.pduSize ≠ pduSize then pduSize + 2
        else pduSize
      if pduSize ≤ p.pduSize then
        (gp.updateAliasLegacy apdu (gp.nvAliasTable (n - gp.nvTableSize))
          np).recomputeChecksum.nmndRespond .nm .noError p apdu
      else gp.nmndRespond .nm .invalidMessageLength p apdu
    else gp.nmndRespond .nm .invalidMessageAddress p apdu

def expandedIndex : Nat := apdu.word 1

def handleNmeUpdateNvCnfg : AppData :=
  if p.pduSize < 6 then gp.nmndRespond .nm .invalidMessageLength p apdu
  else if expandedIndex apdu < gp.nvTableSize then
    if sizeofIzotDatapointConfig + 2 ≤ p.pduSize then
      (gp.setMem (gp.mem.copy (gp.nvConfigTable (expandedIndex apdu)) apdu (Apdu.dataOffset + 3)
        sizeofIzotDatapointConfig)).recomputeChecksum.nmndRespond .nm .noError p apdu
    else gp.nmndRespond .nm .invalidMessageLength p apdu
  else gp.nmndRespond .nm .invalidDatapointIndex p apdu

/-- The index is that of the alias table, but it is compared with the size of both tables. -/
def handleNmeUpdateNvAliasCnfg : AppData :=
  if p.pduSize < 10 then gp.nmndRespond .nm .invalidMessageLength p apdu
  else if expandedIndex apdu < gp.nvTableSize + NV_ALIAS_TABLE_SIZE then
    if sizeofIzotAliasConfig + 4 ≤ p.pduSize then
      (gp.setMem (gp.mem.copy (gp.nvAliasTable (expandedIndex apdu)) apdu (Apdu.dataOffset + 3)
        sizeofIzotAliasConfig)).recomputeChecksum.nmndRespond .nm .noError p apdu
    else gp.nmndRespond .nm .invalidMessageLength p apdu
  else gp.nmndRespond .nm .invalidDatapointIndex p apdu

/-- The unbound selector of variable `i`, and its authentication bit from the bits of the message.
Past the last bit, the last one counts. -/
def initNv (r : Image × Bool) (i : Nat) : Image × Bool :=
  let selectorVal := 0x3FFF - i
  let addr := gp.nvConfigTable i
  let m := (r.1.setAttribute addr IZOT_DATAPOINT_SELHIGH (UInt8.ofNat (selectorVal / 256))).set
    (addr + 1) (UInt8.ofNat selectorVal)
  let nvAuth : Bool :=
    if i / 8 < (apdu.data 1).toNat then apdu.data (2 + i / 8) &&& UInt8.ofNat (2 ^ (i % 8)) ≠ 0
    else r.2
  (m.setAttribute addr IZOT_DATAPOINT_AUTHENTICATION (if nvAuth then 1 else 0), nvAuth)

def initNvs : AppData :=
  gp.setMem (((List.range gp.nvTableSize).foldl (gp.initNv apdu) (gp.mem, false)).1)

def handleNmeInitConfig : AppData :=
  if p.pduSize ≤ 2 then gp.nmndRespond .nm .invalidBufferLength p apdu
  else
    (gp.lcsInitAddress.lcsInitAlias.initNvs apdu).recomputeChecksum.nmndRespond .nm .noError p apdu

end AppData

end LonStack
