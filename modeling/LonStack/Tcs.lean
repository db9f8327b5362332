import Mathlib.Logic.Function.Basic
import LonStack.Node

namespace LonStack

def DomainId.copy (dst src : DomainId) (len : Nat) : DomainId :=
  Vector.ofFn fun i => if i < len then src[i] else dst[i]

def DomainId.cmp (a b : DomainId) (len : Nat) : Bool :=
  a.toList.take len == b.toList.take len

def TidAddr.ofNetAddr : NetAddr → TidAddr
  | .subnetNode a => .subnetNode a
  | .uniqueNodeId _ id => .uniqueNodeId id
  | .broadcast subnet => .broadcast subnet
  | .multicast group => .multicast group
  | .unbound => .other
  | .multicastAck _ => .other

namespace TIDTableEntry

def matchesDomain (eep : Eeprom) (dmn : Domain) (e : TIDTableEntry) : Bool :=
  if dmn.domainIndex = FLEX_DOMAIN then
    e.len == dmn.domainLen && DomainId.cmp dmn.domainId e.domainId dmn.domainLen
  else
    let d := eep.domainTable dmn.domainIndex
    !d.invalid && e.len == d.idLength && DomainId.cmp d.id e.domainId d.idLength

def matchesAddr (addr : NetAddr) (e : TIDTableEntry) : Bool :=
  match addr with
  | .subnetNode a => e.addr == .subnetNode a
  | .uniqueNodeId _ id => e.addr == .uniqueNodeId id
  | .multicast group => e.addr == .multicast group
  | .broadcast subnet => e.addr == .broadcast subnet
  | .unbound => false
  | .multicastAck _ => false

end TIDTableEntry

def DestinationAddress.domainIdLen (eep : Eeprom) (a : DestinationAddress) : DomainId × Nat :=
  if a.dmn.domainIndex = FLEX_DOMAIN then (a.dmn.domainId, a.dmn.domainLen)
  else ((eep.domainTable a.dmn.domainIndex).id, (eep.domainTable a.dmn.domainIndex).idLength)

/-- The number after `n` in the single space of transaction numbers; 0 is used after a reset
only. -/
def nextTransID (n : Nat) : Nat :=
  if (n + 1) % 65536 = 16 then 1 else (n + 1) % 65536

namespace TransCtrl

def powerUp : TransCtrl where
  inProgress := false
  transNum := 0
  transID := 0
  tbl := fun _ => default
  tblSize := 0
  tblSize_le := Nat.zero_le _

def reset (c : TransCtrl) (keepTable : Bool) : TransCtrl :=
  { c with
    transID := 0
    inProgress := false
    tblSize := if keepTable then c.tblSize else 0
    tblSize_le := by
      have := c.tblSize_le
      split <;> omega }

def lookup (c : TransCtrl) (eep : Eeprom) (a : DestinationAddress) : Option Nat :=
  (List.range c.tblSize).find? fun i =>
    (c.tbl i).matchesDomain eep a.dmn && (c.tbl i).matchesAddr a.addr

def findExpired (c : TransCtrl) (tickCount : UInt32) : Option Nat :=
  (List.range c.tblSize).find? fun i => (c.tbl i).timer.isExpired tickCount

def bump (c : TransCtrl) (i : Nat) : TransCtrl :=
  if (c.tbl i).tid = c.transID then
    { c with transID := nextTransID c.transID, transNum := nextTransID c.transID }
  else c

def reuse (c : TransCtrl) (tickCount : UInt32) (i : Nat) : TransCtrl :=
  let c := c.bump i
  { c with
    tbl := Function.update c.tbl i
      { c.tbl i with
        tid := c.transID
        timer := (c.tbl i).timer.set tickCount (UInt32.ofNat (MIN_TABLE_TIME * 1000)) }
    inProgress := true }

def evict (c : TransCtrl) (i : Nat) : TransCtrl :=
  { c with
    tblSize := c.tblSize - 1
    tbl := Function.update c.tbl i (c.tbl (c.tblSize - 1))
    tblSize_le := by have := c.tblSize_le; omega }

/-- The entry is added behind the last one, but its length goes to entry `i`, where the search
stopped. -/
def addEntry (c : TransCtrl) (eep : Eeprom) (tickCount : UInt32) (a : DestinationAddress)
    (i : Nat) (h : c.tblSize < TID_TABLE_SIZE) : TransCtrl :=
  let slot := c.tbl c.tblSize
  let (domainId, len) := a.domainIdLen eep
  let tbl := Function.update c.tbl c.tblSize
    { slot with
      domainId := DomainId.copy slot.domainId domainId len
      addr := .ofNetAddr a.addr
      timer := slot.timer.set tickCount (UInt32.ofNat (MIN_TABLE_TIME * 1000))
      tid := c.transID }
  { c with
    tbl := Function.update tbl i { tbl i with len := len }
    tblSize := c.tblSize + 1
    tblSize_le := h
    inProgress := true }

def newTrans (eep : Eeprom) (tickCount : UInt32) (a : DestinationAddress) (c : TransCtrl) :
    LonStatusCode × TransCtrl :=
  if c.inProgress then (.transactionInProgress, c)
  else
    let c := { c with transNum := c.transID }
    match c.lookup eep a with
    | some i => (.noError, c.reuse tickCount i)
    | none =>
      if hfull : c.tblSize = TID_TABLE_SIZE then
        match c.findExpired tickCount with
        | some i => (.noError, (c.evict i).addEntry eep tickCount a i (by simp [evict, hfull]))
        | none => (.transactionNotAvailable, c)
      else
        (.noError,
          c.addEntry eep tickCount a c.tblSize (by have := c.tblSize_le; omega))

def overrideTrans (num : Nat) (c : TransCtrl) : TransCtrl :=
  { c with transID := num, transNum := num }

def transDone (c : TransCtrl) : TransCtrl :=
  { c with inProgress := false, transID := nextTransID c.transID }

def validateTrans (c : TransCtrl) (transNumIn : Nat) : Bool :=
  c.inProgress && c.transNum == transNumIn

end TransCtrl

end LonStack
