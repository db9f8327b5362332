import LonStack.Lib.Accumulate
import LonStack.Lib.Mirror
import LonStack.Lib.Run
import LonStack.NetMgmt.EntryLaws

namespace LonStack

open Lib

abbrev BROADCAST_PREFIX : UInt32 := 0xEFC00000

def subnetAddr (subnet : UInt8) : UInt32 := BROADCAST_PREFIX ||| subnet.toUInt32

def groupAddr (group : UInt8) : UInt32 := BROADCAST_PREFIX ||| 0x100 ||| group.toUInt32

def IzotAddress.groupId (a : IzotAddress) : Option UInt8 :=
  if IZOT_ADDRESS_GROUP_TYPE.get a.typeSize = 1 then some a.group else none

namespace AppData

variable (gp : AppData)

def isGroup (i : Nat) : Bool :=
  gp.mem.getAttribute (gp.addrTable i) IZOT_ADDRESS_GROUP_TYPE == 1

def groupByte (i : Nat) : UInt8 := gp.mem (gp.addrTable i + 4)

def groupId (i : Nat) : Option UInt8 := if gp.isGroup i then some (gp.groupByte i) else none

def groups : List UInt8 := (List.range gp.extended).filterMap gp.groupId

def subnet (i : Nat) : UInt8 := gp.mem (gp.domainTable i + IzotDomain.subnetOffset)

section

variable {gp} {gp' : AppData} {p : APPReceiveParam} {apdu : Apdu} {sts : LonStatusCode}
  {msgType : NtwkMgmtMsgType}

theorem Differs.extended_eq {a n : Nat} (h : Differs gp gp' a n) (ha : gp.eep + 47 ≤ a) :
    gp'.extended = gp.extended := by
  rw [extended, extended, readOnlyData_eq, readOnlyData_eq, h.eep,
    h.mem _ (.inl (by change gp.eep + 46 < a; omega))]

@[simp] theorem extended_recomputeChecksum : gp.recomputeChecksum.extended = gp.extended :=
  gp.differs_recomputeChecksum.extended_eq (by rw [configCheckSum_eq]; omega)

@[simp] theorem extended_nmndRespond :
    (gp.nmndRespond msgType sts p apdu).extended = gp.extended := by
  rw [nmndRespond_eq]
  rfl

@[simp] theorem extended_updateDomain {d : Image} {src : Nat} {i : UInt8} {includeKey : Bool} :
    (gp.updateDomain d src i includeKey).2.extended = gp.extended := by
  by_cases hi : i.toNat < gp.numDomains
  case pos =>
    rw [updateDomain_of_lt hi]
    exact (gp.differs_mem (.copy _ _ _ _ _)).extended_eq (by rw [domainTable_eq]; omega)
  case neg => rw [updateDomain_of_not_lt hi]

@[simp] theorem extended_updateAddress {a : Image} {src i : Nat} :
    (gp.updateAddress a src i).2.extended = gp.extended := by
  by_cases hi : i < gp.extended
  case pos =>
    rw [updateAddress_of_lt hi]
    exact (gp.differs_mem (.copy _ _ _ _ _)).extended_eq (by rw [addrTable_eq]; omega)
  case neg => rw [updateAddress_of_not_lt hi]

theorem extended_setNodeState (state : UInt8) : (gp.setNodeState state).extended = gp.extended := by
  have h : Differs gp (gp.setNodeState state) (gp.eep + 21) 1 := gp.differs_mem (.set _ _ _)
  rw [extended, extended, readOnlyData_eq, readOnlyData_eq, h.eep,
    h.mem _ (.inr (by change gp.eep + 21 + 1 ≤ gp.eep + 46; omega))]

@[simp] theorem extended_leaveNetwork : gp.leaveNetwork.extended = gp.extended := by
  unfold leaveNetwork
  split
  case isTrue => exact extended_setNodeState _
  case isFalse => rfl

@[simp] theorem extended_leaveDomain (i : Nat) : (gp.leaveDomain i).extended = gp.extended :=
  (gp.differs_mem (onlyIn_leaveDomain i)).extended_eq (by rw [domainTable_eq]; omega)

theorem extended_handleNMUpdateDomain :
    (gp.handleNMUpdateDomain p apdu).extended = gp.extended := by
  unfold handleNMUpdateDomain
  split
  case isTrue => simp
  case isFalse => simp

theorem extended_handleNmeUpdateDomain :
    (gp.handleNmeUpdateDomain p apdu).extended = gp.extended := by
  unfold handleNmeUpdateDomain
  split
  case isTrue => simp
  case isFalse => simp

theorem extended_handleNMUpdateAddr :
    (gp.handleNMUpdateAddr p apdu).extended = gp.extended := by
  unfold handleNMUpdateAddr
  by_cases hsize : (if apdu.data 1 = 0 then 6 else 7) ≤ p.pduSize
  case pos =>
    rw [if_pos hsize]
    simp
  case neg =>
    rw [if_neg hsize]
    simp

theorem extended_handleNMLeaveDomain :
    (gp.handleNMLeaveDomain p apdu).extended = gp.extended := by
  have hleft : ((gp.leaveDomain (apdu.data 0).toNat).recomputeChecksum).extended = gp.extended := by
    simp
  unfold handleNMLeaveDomain
  split
  case isTrue => simp
  case isFalse =>
    split
    case isTrue => simp
    case isFalse =>
      rw [extended_leaveNetwork]
      split
      case isTrue => rw [extended_nmndRespond, hleft]
      case isFalse => exact hleft

theorem extended_initNvs : (gp.initNvs apdu).extended = gp.extended :=
  (Differs.extended_eq ⟨rfl, (gp.nvsDone apdu gp.nvTableSize).differs⟩
    (by rw [nvConfigTable_eq]; omega))

theorem extended_handleNmeInitConfig :
    (gp.handleNmeInitConfig p apdu).extended = gp.extended := by
  unfold handleNmeInitConfig
  split
  case isTrue => simp
  case isFalse =>
    rw [extended_nmndRespond, extended_recomputeChecksum, extended_initNvs,
      gp.lcsInitAddress.differs_lcsInitAlias.extended_eq (by rw [nvAliasTable_eq]; omega),
      gp.differs_lcsInitAddress.extended_eq (by rw [addrTable_eq]; omega)]

end

end AppData

/-- The node with the IP addresses whose packets its UDP link takes. The address table is not said
to have more entries than it has. -/
structure IpNode where
  gp : AppData
  members : Finset UInt32
  extended_le : gp.extended ≤ NUM_ADDR_TBL_ENTRIES

namespace IpNode

variable (n : IpNode) (p : APPReceiveParam) (apdu : Apdu)

def addIpMembership (addr : UInt32) : IpNode := { n with members := insert addr n.members }

def removeIPMembership (addr : UInt32) : IpNode := { n with members := n.members.erase addr }

@[simp] theorem members_addIpMembership (addr : UInt32) :
    (n.addIpMembership addr).members = insert addr n.members := rfl

@[simp] theorem members_removeIPMembership (addr : UInt32) :
    (n.removeIPMembership addr).members = n.members.erase addr := rfl

/-- The addresses of the groups are collected in one variable, which is never cleared. -/
def restoreGroup (r : UInt32 × IpNode) (i : Nat) : UInt32 × IpNode :=
  if r.2.gp.isGroup i then
    let mcAddr := r.1 ||| (r.2.gp.groupByte i).toUInt32
    (mcAddr, r.2.addIpMembership mcAddr)
  else r

def restoreGroups : IpNode :=
  ((List.range n.gp.extended).foldl restoreGroup (BROADCAST_PREFIX ||| 0x100, n)).2

def restoreIpMembership : IpNode :=
  let broadcast := n.restoreGroups.addIpMembership BROADCAST_PREFIX
  if n.gp.subnet 0 ≠ 0 then broadcast.addIpMembership (BROADCAST_PREFIX ||| (n.gp.subnet 0).toUInt32)
  else broadcast

def setTables (gp : AppData) (h : gp.extended = n.gp.extended) : IpNode where
  gp := gp
  members := n.members
  extended_le := h ▸ n.extended_le

def changeSubnet (oldSubnet newSubnet : UInt8) : IpNode :=
  if newSubnet ≠ 0 ∧ oldSubnet ≠ newSubnet then
    (n.removeIPMembership (subnetAddr oldSubnet)).addIpMembership (subnetAddr newSubnet)
  else n

def oldSubnet (i : UInt8) : UInt8 :=
  match n.gp.accessDomain i with
  | some p => n.gp.mem (p + IzotDomain.subnetOffset)
  | none => 0

def handleNMUpdateDomain : IpNode :=
  let handled := n.setTables (n.gp.handleNMUpdateDomain p apdu) AppData.extended_handleNMUpdateDomain
  if 2 + sizeofIzotDomain ≤ p.pduSize ∧
      (n.gp.updateDomain apdu (Apdu.dataOffset + 1) (apdu.data 0) true).1 = .noError ∧
        apdu.data 0 = 0 then
    handled.changeSubnet (n.oldSubnet (apdu.data 0))
      (apdu (Apdu.dataOffset + 1 + IzotDomain.subnetOffset))
  else handled

def handleNmeUpdateDomain : IpNode :=
  let handled :=
    n.setTables (n.gp.handleNmeUpdateDomain p apdu) AppData.extended_handleNmeUpdateDomain
  if 3 + sizeofIzotDomain - IZOT_AUTHENTICATION_KEY_LENGTH ≤ p.pduSize ∧
      (n.gp.updateDomain apdu (Apdu.dataOffset + 2) (apdu.data 1) false).1 = .noError ∧
        apdu.data 1 = 0 then
    handled.changeSubnet (n.oldSubnet (apdu.data 1))
      (apdu (Apdu.dataOffset + 2 + IzotDomain.subnetOffset))
  else handled

def handleNMLeaveDomain : IpNode :=
  n.setTables (n.gp.handleNMLeaveDomain p apdu) AppData.extended_handleNMLeaveDomain

def handleNmeInitConfig : IpNode :=
  n.setTables (n.gp.handleNmeInitConfig p apdu) AppData.extended_handleNmeInitConfig

def changeGroup (gp gp' : AppData) (indexIn : Nat) : IpNode :=
  let removeFlag := gp.isGroup indexIn
  let oldaddr := if removeFlag then groupAddr (gp.groupByte indexIn) else 0
  let newaddr := groupAddr (gp'.groupByte indexIn)
  if gp'.isGroup indexIn ∧ oldaddr ≠ newaddr then
    (if removeFlag then n.removeIPMembership oldaddr else n).addIpMembership newaddr
  else n

def handleNMUpdateAddr : IpNode :=
  let handled := n.setTables (n.gp.handleNMUpdateAddr p apdu) AppData.extended_handleNMUpdateAddr
  if (if apdu.data 1 = 0 then 6 else 7) ≤ p.pduSize then
    handled.changeGroup n.gp
      (n.gp.updateAddress apdu (Apdu.dataOffset + 1) (apdu.data 0).toNat).2 (apdu.data 0).toNat
  else handled

/-- The subnet is read from the table when the table has already been written. -/
def izotUpdateDomainConfig (index : UInt32) (domain : Image) : IpNode :=
  let r := n.gp.updateDomain domain 0 index.toUInt8 true
  if r.1 ≠ .noError then n
  else
    let updated := n.setTables r.2.recomputeChecksum (by simp [r])
    if index = 0 then
      updated.changeSubnet (r.2.subnet 0) (domain IzotDomain.subnetOffset)
    else updated

/-- The old address is taken from the last byte of the entry, whatever the entry is for. -/
def changeGroupConfig (gp gp' : AppData) (index : Nat) : IpNode :=
  let oldaddr := groupAddr (gp.groupByte index)
  let newaddr := groupAddr (gp'.groupByte index)
  if gp'.isGroup index ∧ oldaddr ≠ newaddr then
    (n.removeIPMembership oldaddr).addIpMembership newaddr
  else n

def izotUpdateAddressConfig (index : UInt32) (address : Image) : IpNode :=
  let gp' := (n.gp.updateAddress address 0 index.toUInt16.toNat).2
  (n.setTables gp'.recomputeChecksum (by simp [gp'])).changeGroupConfig n.gp gp' index.toNat

end IpNode

inductive IpOp
  | updateDomain (p : APPReceiveParam) (apdu : Apdu)
  | nmeUpdateDomain (p : APPReceiveParam) (apdu : Apdu)
  | leaveDomain (p : APPReceiveParam) (apdu : Apdu)
  | updateAddr (p : APPReceiveParam) (apdu : Apdu)
  | nmeInitConfig (p : APPReceiveParam) (apdu : Apdu)
  | updateDomainConfig (index : UInt32) (domain : Image)
  | updateAddressConfig (index : UInt32) (address : Image)

def IpNode.step : IpOp → IpNode → IpNode
  | .updateDomain p apdu, n => n.handleNMUpdateDomain p apdu
  | .nmeUpdateDomain p apdu, n => n.handleNmeUpdateDomain p apdu
  | .leaveDomain p apdu, n => n.handleNMLeaveDomain p apdu
  | .updateAddr p apdu, n => n.handleNMUpdateAddr p apdu
  | .nmeInitConfig p apdu, n => n.handleNmeInitConfig p apdu
  | .updateDomainConfig index domain, n => n.izotUpdateDomainConfig index domain
  | .updateAddressConfig index address, n => n.izotUpdateAddressConfig index address

end LonStack
