import Mathlib.Data.Fin.Tuple.Basic
import Mathlib.Order.Fin.Basic
import LonStack.Lib.Pool
import LonStack.Tsa.Record

namespace LonStack

open Lib

structure LookupKey where
  priority : Bool
  domainIndex : Nat
  addressMode : AddrMode
  subnetAddr : SubnetNode
  broadcastSubnet : Option UInt8
  group : Option UInt8
  deriving DecidableEq, Repr

def SourceAddress.lookupKey (src : SourceAddress) (priority : Bool) : LookupKey where
  priority := priority
  domainIndex := src.dmn.domainIndex
  addressMode := src.addressMode
  subnetAddr := src.subnetAddr
  broadcastSubnet := if src.addressMode = .broadcast then some src.broadcastSubnet else none
  group := if src.addressMode = .multicast then some src.group else none

namespace ReceiveRecord

def lookupKey (rr : ReceiveRecord) : LookupKey := rr.srcAddr.lookupKey rr.priority

def InUse (rr : ReceiveRecord) : Prop := rr.status ≠ .unused

instance (rr : ReceiveRecord) : Decidable rr.InUse := inferInstanceAs (Decidable (_ ≠ _))

theorem matchesSource_iff (rr : ReceiveRecord) (src : SourceAddress) (priority : Bool) :
    rr.matchesSource src priority = true ↔ rr.lookupKey = src.lookupKey priority := by
  simp only [matchesSource, lookupKey, SourceAddress.lookupKey, LookupKey.mk.injEq,
    Bool.and_eq_true, beq_iff_eq, Bool.or_eq_true, bne_iff_ne]
  constructor
  case mp =>
    rintro ⟨⟨⟨⟨⟨hp, hd⟩, hm⟩, hs⟩, hb⟩, hg⟩
    rw [hm] at hb hg
    refine ⟨hp.symm, hd.symm, hm.symm, hs.symm, ?_, ?_⟩
    · rw [hm]
      split
      case isTrue h => rw [hb.resolve_left fun hne => hne h]
      case isFalse => rfl
    · rw [hm]
      split
      case isTrue h => rw [hg.resolve_left fun hne => hne h]
      case isFalse => rfl
  case mpr =>
    rintro ⟨hp, hd, hm, hs, hb, hg⟩
    rw [hm] at hb hg
    refine ⟨⟨⟨⟨⟨hp.symm, hd.symm⟩, hm.symm⟩, hs.symm⟩, ?_⟩, ?_⟩
    · by_cases h : src.addressMode = .broadcast
      · rw [if_pos h, if_pos h] at hb
        exact .inr (Option.some.inj hb).symm
      · exact .inl h
    · by_cases h : src.addressMode = .multicast
      · rw [if_pos h, if_pos h] at hg
        exact .inr (Option.some.inj hg).symm
      · exact .inl h

end ReceiveRecord

abbrev RecordsSettled (k : LookupKey) (recvRec : Fin RECEIVE_TRANS_COUNT → ReceiveRecord) : Prop :=
  FirstUsed ReceiveRecord.lookupKey ReceiveRecord.InUse k recvRec

namespace ProtocolStackData

variable {gp : ProtocolStackData} {src : SourceAddress} {priority : Bool}
  {i : Fin RECEIVE_TRANS_COUNT}

theorem retrieveRR_eq_some :
    gp.retrieveRR src priority = some i ↔
      (gp.recvRec i).lookupKey = src.lookupKey priority ∧
        ∀ j, (gp.recvRec j).lookupKey = src.lookupKey priority → i ≤ j := by
  unfold retrieveRR
  rw [Fin.find?_eq_some_iff, ReceiveRecord.matchesSource_iff]
  refine and_congr_right fun _ => ⟨fun h j hj => ?_, fun h j hj => ?_⟩
  · rw [← ReceiveRecord.matchesSource_iff] at hj
    exact Fin.not_lt.mp fun hlt => by rw [h j hlt] at hj; exact absurd hj Bool.false_ne_true
  · rw [Bool.eq_false_iff, ne_eq, ReceiveRecord.matchesSource_iff]
    exact fun hkey => absurd hj (Fin.not_lt.mpr (h j hkey))

theorem retrieveRR_eq_none :
    gp.retrieveRR src priority = none ↔
      ∀ j, (gp.recvRec j).lookupKey ≠ src.lookupKey priority := by
  unfold retrieveRR
  rw [Fin.find?_eq_none_iff]
  refine forall_congr' fun j => ?_
  rw [Bool.eq_false_iff, ne_eq, ReceiveRecord.matchesSource_iff]

theorem allocateRR_eq_some :
    gp.allocateRR = some i ↔ ¬(gp.recvRec i).InUse ∧ ∀ j, ¬(gp.recvRec j).InUse → i ≤ j := by
  unfold allocateRR ReceiveRecord.InUse
  rw [Fin.find?_eq_some_iff]
  simp only [beq_iff_eq, ne_eq, Decidable.not_not, beq_eq_false_iff_ne]
  refine and_congr_right fun _ => ⟨fun h j hj => ?_, fun h j hj hu => ?_⟩
  · exact Fin.not_lt.mp fun hlt => h j hlt hj
  · exact absurd hj (Fin.not_lt.mpr (h j hu))

theorem findRR_eq_some {id : RequestId} (h : gp.findRR id = some i) :
    (gp.recvRec i).status = .session ∧ (gp.recvRec i).transState = .delivered := by
  simp only [findRR, Option.filter_eq_some_iff, Fin.find?_eq_some_iff, Bool.and_eq_true,
    beq_iff_eq] at h
  exact ⟨h.1.1.1, h.2.2⟩

end ProtocolStackData

end LonStack
