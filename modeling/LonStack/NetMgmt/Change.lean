import LonStack.App.Tables
import LonStack.NetMgmt.Update

namespace LonStack

open Lib

inductive ConfigChange
  | setDomain (i : Fin MAX_DOMAINS) (d : IzotDomain)
  | setDomainNoKey (i : Fin MAX_DOMAINS) (d : IzotDomain)
  | leaveDomain (i : Fin MAX_DOMAINS)
  | addKey (i : Fin MAX_DOMAINS) (key : AuthKey)
  | setKeys (increment : Bool) (key : Fin MAX_DOMAINS → AuthKey)
  | setAddress (i : Fin NUM_ADDR_TBL_ENTRIES) (a : IzotAddress)
  | setGroup (i : Fin NUM_ADDR_TBL_ENTRIES) (a : IzotAddress)
  | setNvLegacy (i : Fin NV_TABLE_SIZE) (c : IzotDatapointConfig)
  | setNv (i : Fin NV_TABLE_SIZE) (c : IzotDatapointConfig)
  | setAliasLegacy (i : Fin NV_ALIAS_TABLE_SIZE) (a : IzotAliasConfig)
  | setAlias (i : Fin NV_ALIAS_TABLE_SIZE) (a : IzotAliasConfig)
  | initConfig (auth : Nat → Bool)

namespace IzotDomain

def left : IzotDomain where
  id := ⟨gmrdwf.toArray, rfl⟩
  subnet := 0
  nodeClone := 0x80
  invalidIdLength := 0xFF
  key := .replicate _ 0xFF

def addKey (d : IzotDomain) (key : AuthKey) : IzotDomain :=
  { d with key := .ofFn fun i => d.key.get i + key.get i }

def setKey (d : IzotDomain) (increment : Bool) (key : AuthKey) : IzotDomain :=
  if increment then d.addKey key else { d with key := key }

end IzotDomain

def IzotAddress.setGroup (old a : IzotAddress) : IzotAddress where
  typeSize :=
    IZOT_ADDRESS_GROUP_SIZE.put old.typeSize (IZOT_ADDRESS_GROUP_SIZE.get a.typeSize)
  domainMember := old.domainMember
  repeatRetry :=
    IZOT_ADDRESS_GROUP_RETRY.put
      (IZOT_ADDRESS_GROUP_REPEAT_TIMER.put old.repeatRetry
        (IZOT_ADDRESS_GROUP_REPEAT_TIMER.get a.repeatRetry))
      (IZOT_ADDRESS_GROUP_RETRY.get a.repeatRetry)
  receiveTransmit :=
    IZOT_ADDRESS_GROUP_TRANSMIT_TIMER.put
      (IZOT_ADDRESS_GROUP_RECEIVE_TIMER.put old.receiveTransmit
        (IZOT_ADDRESS_GROUP_RECEIVE_TIMER.get a.receiveTransmit))
      (IZOT_ADDRESS_GROUP_TRANSMIT_TIMER.get a.receiveTransmit)
  group := old.group

namespace IzotDatapointConfig

/-- The legacy form has neither the upper half of the address index nor the AES bit. -/
def setLegacy (old c : IzotDatapointConfig) : IzotDatapointConfig :=
  { c with
    attribute2 :=
      IZOT_DATAPOINT_AES.put (IZOT_DATAPOINT_ADDRESS_HIGH.put old.attribute2 0) 0 }

def unbind (c : IzotDatapointConfig) (i : Nat) (auth : Bool) : IzotDatapointConfig where
  selhiDirPrio := IZOT_DATAPOINT_SELHIGH.put c.selhiDirPrio (UInt8.ofNat ((0x3FFF - i) / 256))
  selectorLow := UInt8.ofNat (0x3FFF - i)
  attribute1 := IZOT_DATAPOINT_AUTHENTICATION.put c.attribute1 (if auth then 1 else 0)
  attribute2 := c.attribute2

end IzotDatapointConfig

def IzotAliasConfig.unused : IzotAliasConfig := ⟨⟨0x7F, 0xFF, 0x0F, 0xFF⟩, 0xFF⟩

namespace ConfigTables

def noDomain (t : ConfigTables) (twoDomains : Bool) : Bool :=
  (!twoDomains && IZOT_DOMAIN_INVALID.get (t.domainTable 0).invalidIdLength ≠ 0) ||
    (twoDomains && IZOT_DOMAIN_INVALID.get (t.domainTable 0).invalidIdLength ≠ 0 &&
      IZOT_DOMAIN_INVALID.get (t.domainTable 1).invalidIdLength ≠ 0)

def leave (t : ConfigTables) (twoDomains : Bool) : ConfigTables :=
  if t.noDomain twoDomains then { t with nodeState := IzotApplicationUnconfig } else t

end ConfigTables

def ConfigChange.apply (twoDomains : Bool) (nvTableSize : Nat) (t : ConfigTables) :
    ConfigChange → ConfigTables
  | .setDomain i d => t.modifyDomain i fun _ => d
  | .setDomainNoKey i d => t.modifyDomain i fun old => { d with key := old.key }
  | .leaveDomain i => (t.modifyDomain i fun _ => .left).leave twoDomains
  | .addKey i key => t.modifyDomain i fun old => old.addKey key
  | .setKeys increment key =>
    { t with domainTable := fun i => (t.domainTable i).setKey increment (key i) }
  | .setAddress i a => t.modifyAddress i fun _ => a
  | .setGroup i a => t.modifyAddress i fun old => old.setGroup a
  | .setNvLegacy i c => t.modifyNv i fun old => old.setLegacy c
  | .setNv i c => t.modifyNv i fun _ => c
  | .setAliasLegacy i a =>
    t.modifyAlias i fun old => ⟨old.aliasConfig.setLegacy a.aliasConfig, a.primary⟩
  | .setAlias i a => t.modifyAlias i fun _ => a
  | .initConfig auth =>
    { t with
      addrTable := fun _ => default
      nvConfigTable := fun i =>
        if (i : Nat) < nvTableSize then (t.nvConfigTable i).unbind i (auth i)
        else t.nvConfigTable i
      nvAliasTable := fun _ => .unused }

inductive ConfigCommand
  | updateDomain
  | leaveDomain
  | updateKey
  | updateAddr
  | updateGroupAddr
  | updateNvConfig
  | nmeUpdateDomain
  | nmeUpdateKey
  | nmeInitConfig
  | nmeUpdateNvCnfg
  | nmeUpdateNvAliasCnfg
  deriving DecidableEq, Repr

namespace ConfigCommand

def handle (c : ConfigCommand) (gp : AppData) (p : APPReceiveParam) (apdu : Apdu) : AppData :=
  match c with
  | .updateDomain => gp.handleNMUpdateDomain p apdu
  | .leaveDomain => gp.handleNMLeaveDomain p apdu
  | .updateKey => gp.handleNMUpdateKey p apdu
  | .updateAddr => gp.handleNMUpdateAddr p apdu
  | .updateGroupAddr => gp.handleNMUpdateGroupAddr p apdu
  | .updateNvConfig => gp.handleNMUpdateNvConfig p apdu
  | .nmeUpdateDomain => gp.handleNmeUpdateDomain p apdu
  | .nmeUpdateKey => gp.handleNmeUpdateKey p apdu
  | .nmeInitConfig => gp.handleNmeInitConfig p apdu
  | .nmeUpdateNvCnfg => gp.handleNmeUpdateNvCnfg p apdu
  | .nmeUpdateNvAliasCnfg => gp.handleNmeUpdateNvAliasCnfg p apdu

end ConfigCommand

def AuthKey.ofImage (m : Image) (a : Nat) : AuthKey := .ofFn fun i => m (a + i)

namespace AppData

variable (gp : AppData) (p : APPReceiveParam) (apdu : Apdu)

def numDomains : Nat := if gp.twoDomains then MAX_DOMAINS else 1

theorem numDomains_le : gp.numDomains ≤ MAX_DOMAINS := by
  unfold numDomains
  split
  case isTrue => exact Nat.le_refl _
  case isFalse => exact Nat.le_succ 1

/-- The authentication bit after the first `n` variables. Past the last bit of the message, the
last one counts. -/
def initAuth (apdu : Apdu) : Nat → Bool
  | 0 => false
  | n + 1 =>
    if n / 8 < (apdu.data 1).toNat then
      apdu.data (2 + n / 8) &&& UInt8.ofNat (2 ^ (n % 8)) ≠ 0
    else initAuth apdu n

-- A message that is too short, or that names no entry of the table, asks for nothing.

def updateDomainRequest : Option ConfigChange :=
  if h : 17 ≤ p.pduSize ∧ (apdu.data 0).toNat < gp.numDomains then
    some (.setDomain ⟨(apdu.data 0).toNat, Nat.lt_of_lt_of_le h.2 gp.numDomains_le⟩
      (.ofImage apdu 2))
  else none

def leaveDomainRequest : Option ConfigChange :=
  if h : p.pduSize = 2 ∧ (apdu.data 0).toNat < MAX_DOMAINS then
    some (.leaveDomain ⟨(apdu.data 0).toNat, h.2⟩)
  else none

def LeaveDomainSilent : Prop :=
  p.pduSize = 2 ∧ (apdu.data 0).toNat < MAX_DOMAINS ∧
    (apdu.data 0).toNat = p.srcAddr.dmn.domainIndex

def updateKeyRequest : Option ConfigChange :=
  if h : p.pduSize = 8 ∧ (apdu.data 0).toNat < MAX_DOMAINS then
    some (.addKey ⟨(apdu.data 0).toNat, h.2⟩ (.ofImage apdu 2))
  else none

def updateAddrRequest : Option ConfigChange :=
  if h : (if apdu.data 1 = 0 then 6 else 7) ≤ p.pduSize ∧
      (apdu.data 0).toNat < gp.extended ∧ (apdu.data 0).toNat < NUM_ADDR_TBL_ENTRIES then
    some (.setAddress ⟨(apdu.data 0).toNat, h.2.2⟩ (.ofImage apdu 2))
  else none

/-- The address table is said to have more entries than it has, and the index is one of those. -/
def UpdateAddrMissed : Prop :=
  (if apdu.data 1 = 0 then 6 else 7) ≤ p.pduSize ∧ (apdu.data 0).toNat < gp.extended ∧
    NUM_ADDR_TBL_ENTRIES ≤ (apdu.data 0).toNat

def updateGroupAddrRequest : Option ConfigChange :=
  let i := gp.addrTableIndex p.srcAddr.dmn.domainIndex p.srcAddr.group
  if h : (p.srcAddr.addressMode = .multicast ∧ p.srcAddr.dmn.domainIndex ≠ FLEX_DOMAIN) ∧
      (p.pduSize = 6 ∧ IZOT_ADDRESS_GROUP_TYPE.get (apdu.data 0) = 1) ∧
        i < gp.extended ∧ i < NUM_ADDR_TBL_ENTRIES then
    some (.setGroup ⟨i, h.2.2.2⟩ (.ofImage apdu 1))
  else none

def UpdateGroupAddrLost : Prop :=
  (p.srcAddr.addressMode = .multicast ∧ p.srcAddr.dmn.domainIndex ≠ FLEX_DOMAIN) ∧
    (p.pduSize = 6 ∧ IZOT_ADDRESS_GROUP_TYPE.get (apdu.data 0) = 1) ∧
      gp.extended ≤ gp.addrTableIndex p.srcAddr.dmn.domainIndex p.srcAddr.group ∧
        gp.addrTableIndex p.srcAddr.dmn.domainIndex p.srcAddr.group < NUM_ADDR_TBL_ENTRIES

def legacyEntry : Nat := 2 + legacyEscape apdu

/-- An alias takes one byte more than a variable, and the host primary two more. -/
def legacyAliasSize : Nat :=
  if apdu (legacyEntry apdu + 3) = 0xFF ∧ p.pduSize ≠ legacyEntry apdu + 4 then
    legacyEntry apdu + 6
  else legacyEntry apdu + 4

def updateNvConfigRequest : Option ConfigChange :=
  if hn : legacyIndex apdu < gp.nvTableSize then
    if legacyEntry apdu + 3 ≤ p.pduSize then
      some (.setNvLegacy ⟨legacyIndex apdu, Nat.lt_of_lt_of_le hn gp.nvTableSize_le⟩
        (.ofImage apdu (legacyEntry apdu)))
    else none
  else if ha : legacyIndex apdu - gp.nvTableSize < NV_ALIAS_TABLE_SIZE then
    if legacyAliasSize p apdu ≤ p.pduSize then
      some (.setAliasLegacy ⟨legacyIndex apdu - gp.nvTableSize, ha⟩
        ⟨.ofImage apdu (legacyEntry apdu), apdu (legacyEntry apdu + 3)⟩)
    else none
  else none

def nmeUpdateDomainRequest : Option ConfigChange :=
  if h : 12 ≤ p.pduSize ∧ (apdu.data 1).toNat < gp.numDomains then
    some (.setDomainNoKey ⟨(apdu.data 1).toNat, Nat.lt_of_lt_of_le h.2 gp.numDomains_le⟩
      (.ofImage apdu 3))
  else none

def nmeUpdateKeyRequest : Option ConfigChange :=
  if 15 ≤ p.pduSize ∧ gp.twoDomains then
    some (.setKeys (apdu.data 1 = 1) fun i => .ofImage apdu (3 + 6 * i))
  else none

def nmeInitConfigRequest : Option ConfigChange :=
  if 2 < p.pduSize then some (.initConfig fun i => initAuth apdu (i + 1)) else none

def nmeUpdateNvCnfgRequest : Option ConfigChange :=
  if h : 6 ≤ p.pduSize ∧ expandedIndex apdu < gp.nvTableSize then
    some (.setNv ⟨expandedIndex apdu, Nat.lt_of_lt_of_le h.2 gp.nvTableSize_le⟩
      (.ofImage apdu 4))
  else none

def nmeUpdateNvAliasCnfgRequest : Option ConfigChange :=
  if h : 10 ≤ p.pduSize ∧ expandedIndex apdu < NV_ALIAS_TABLE_SIZE then
    some (.setAlias ⟨expandedIndex apdu, h.2⟩ (.ofImage apdu 4))
  else none

def AliasMissed : Prop :=
  10 ≤ p.pduSize ∧ NV_ALIAS_TABLE_SIZE ≤ expandedIndex apdu ∧
    expandedIndex apdu < gp.nvTableSize + NV_ALIAS_TABLE_SIZE

end AppData

def ConfigCommand.request (c : ConfigCommand) (gp : AppData) (p : APPReceiveParam) (apdu : Apdu) :
    Option ConfigChange :=
  match c with
  | .updateDomain => gp.updateDomainRequest p apdu
  | .leaveDomain => AppData.leaveDomainRequest p apdu
  | .updateKey => AppData.updateKeyRequest p apdu
  | .updateAddr => gp.updateAddrRequest p apdu
  | .updateGroupAddr => gp.updateGroupAddrRequest p apdu
  | .updateNvConfig => gp.updateNvConfigRequest p apdu
  | .nmeUpdateDomain => gp.nmeUpdateDomainRequest p apdu
  | .nmeUpdateKey => gp.nmeUpdateKeyRequest p apdu
  | .nmeInitConfig => AppData.nmeInitConfigRequest p apdu
  | .nmeUpdateNvCnfg => gp.nmeUpdateNvCnfgRequest p apdu
  | .nmeUpdateNvAliasCnfg => AppData.nmeUpdateNvAliasCnfgRequest p apdu

namespace ConfigCommand

def Silent (c : ConfigCommand) (gp : AppData) (p : APPReceiveParam) (apdu : Apdu) : Prop :=
  match c with
  | .leaveDomain => AppData.LeaveDomainSilent p apdu
  | .updateGroupAddr => gp.UpdateGroupAddrLost p apdu
  | _ => False

def Missed (c : ConfigCommand) (gp : AppData) (p : APPReceiveParam) (apdu : Apdu) : Prop :=
  match c with
  | .updateAddr => gp.UpdateAddrMissed p apdu
  | .nmeUpdateNvAliasCnfg => gp.AliasMissed p apdu
  | _ => False

end ConfigCommand

end LonStack
