import LonStack.Proxy.Relay

namespace LonStack

open Lib

namespace AppStackData

def lastQueued (gp : AppStackData) (priority : Bool) (service : ServiceType) : Option (List UInt8) :=
  if service = .unacknowledged then (gp.nwOutQ false).toList.getLast?.map NWSendParam.bytes
  else (gp.tsaOutQ priority).toList.getLast?.map (·.apdu)

end AppStackData

structure LtepVisit where
  gp : ProxyStackData
  p : APPReceiveParam
  pData : Image
  tickCount : UInt32
  uninit : LtepUninit

namespace LtepVisit

variable (v w : LtepVisit)

def place : LtepPlace := v.gp.place v.p

def after : AppStackData := (v.gp.processLTEP v.p v.pData v.tickCount v.uninit).2.toAppStackData

def next (m : LtepMessage) : LtepForward := m.next v.p.service v.place

def taken (m : LtepMessage) : Nat :=
  v.gp.takes v.p.priority (v.gp.copyOf v.p v.pData m) (v.next m)

structure Ready (m : LtepMessage) : Prop where
  room : v.gp.HasSlotFor v.p.priority (v.taken m) (v.next m)
  subnet : m.usesOwnSubnet = true → v.gp.dstSubnet v.p = v.gp.domainSubnet (ProxyStackData.ltepDomain v.p)

def Sends (m : LtepMessage) : Prop :=
  v.gp.Queues v.after v.p.priority (v.taken m) (v.next m)

structure Passes : Prop where
  arrives : ∃ data, v.after.lastQueued v.p.priority v.p.service = some (LT_APDU_ENHANCED_PROXY :: data) ∧
    w.pData.Contains 0 data ∧ w.p.pduSize = data.length + 1
  domain : w.p.srcAddr.dmn.domainIndex ≤ FLEX_DOMAIN

end LtepVisit

namespace ProxyHeader

theorem uniform_withCount (ph : ProxyHeader) {n : Nat} (hn : n < 16) :
    (ph.withCount n).uniform = ph.uniform := by
  unfold uniform
  rw [(ph.withCount_flags hn).2.1, (ph.withCount_flags hn).2.2.2.2]

end ProxyHeader

namespace LtepMessage

variable (m : LtepMessage)

theorem length_repeaters_lt : m.repeaters.length < 16 := by
  rw [← m.count_eq]
  exact m.header.count_lt

theorem length_tail_lt : m.repeaters.tail.length < 16 := by
  rw [List.length_tail]
  exact Nat.lt_of_le_of_lt (Nat.sub_le ..) m.length_repeaters_lt

def tail : LtepMessage where
  header := m.header.withCount m.repeaters.tail.length
  repeaters := m.repeaters.tail
  txCtrl := m.txCtrl
  agent := m.agent
  count_eq := m.header.count_withCount m.length_tail_lt

@[simp] theorem repeaters_tail : m.tail.repeaters = m.repeaters.tail := rfl

@[simp] theorem agent_tail : m.tail.agent = m.agent := rfl

@[simp] theorem txCtrl_tail : m.tail.txCtrl = m.txCtrl := rfl

theorem bytes_tail {a : RepeaterAddress} {rest : List RepeaterAddress}
    (hm : m.repeaters = a :: rest) : m.tail.bytes = m.restBytes rest := by
  have hlt : rest.length < 16 := by simpa [hm] using m.length_tail_lt
  simp [bytes, restBytes, tail, hm, ProxyHeader.uniform_withCount _ hlt]

def behind : Nat → LtepMessage → LtepMessage
  | 0, m => m
  | k + 1, m => behind k m.tail

theorem agent_behind (k : Nat) : (m.behind k).agent = m.agent := by
  induction k generalizing m with
  | zero => rfl
  | succ k ih => exact ih m.tail

theorem repeaters_behind (k : Nat) : (m.behind k).repeaters = m.repeaters.drop k := by
  induction k generalizing m with
  | zero => rfl
  | succ k ih =>
    rw [behind, ih, repeaters_tail, List.drop_tail]

end LtepMessage

namespace LtepVisit

variable {v w : LtepVisit} {m : LtepMessage}

theorem sends_of_ready (h : v.p.HoldsLtep v.pData m) (hready : v.Ready m) : v.Sends m :=
  (ProxyStackData.relaysOneHop_iff v.gp h v.tickCount v.uninit).mpr ⟨hready.room, hready.subnet⟩

theorem lastQueued_of_queues {g g' : AppStackData} {priority : Bool} {n : Nat} {f : LtepForward}
    (h : g.Queues g' priority n f) : g'.lastQueued priority f.service = some (f.code :: f.data) := by
  unfold AppStackData.lastQueued
  by_cases hun : f.service = .unacknowledged
  case pos =>
    obtain ⟨xs, x, hxs, -, hx⟩ := h.1 hun
    have htake : (x.pdu.hdr :: x.pdu.data).take (f.data.length + 1) =
        (f.code :: f.data).take (f.data.length + 1) := by
      simp [hx.code, hx.data]
    have hbytes : x.bytes = f.code :: f.data := by
      rw [NWSendParam.bytes, hx.pduSize, bytesAt_of_take htake (by simp)]
      exact bytesAt_self (f.code :: f.data)
    simp [hun, hxs, hbytes]
  case neg =>
    obtain ⟨xs, x, hxs, -, hx⟩ := h.2 hun
    simp [hun, hxs, hx.apdu]

theorem Passes.holds (hpasses : v.Passes w) (hsends : v.Sends m) (hm : m.repeaters ≠ []) :
    w.p.HoldsLtep w.pData m.tail := by
  cases hrepeaters : m.repeaters with
  | nil => exact absurd hrepeaters hm
  | cons a rest =>
    have hnext : v.next m = m.hop v.p.service v.place a rest := by
      simp only [next, LtepMessage.next, hrepeaters]
    obtain ⟨data, hdata, hcontains, hsize⟩ := hpasses.arrives
    have hlast := lastQueued_of_queues hsends
    rw [hnext] at hlast
    change v.after.lastQueued v.p.priority v.p.service =
      some (LT_APDU_ENHANCED_PROXY :: m.restBytes rest) at hlast
    have heq : data = m.tail.bytes := by
      rw [m.bytes_tail hrepeaters]
      simpa using hdata.symm.trans hlast
    subst heq
    exact ⟨hcontains, hsize, hpasses.domain⟩

end LtepVisit

/-- A message goes along a chain of nodes, each of which receives what the one before it queued. The
nodes have room for it when it is their turn. -/
structure LtepRoute (m : LtepMessage) (visits : List LtepVisit) : Prop where
  length : visits.length = m.repeaters.length + 1
  received : ∀ v, visits.head? = some v → v.p.HoldsLtep v.pData m
  passes : visits.IsChain LtepVisit.Passes
  ready : ∀ (k : Nat) (v : LtepVisit), visits[k]? = some v → v.Ready (m.behind k)

namespace LtepRoute

variable {visits : List LtepVisit} {m : LtepMessage}

theorem tail {v w : LtepVisit} (h : LtepRoute m (v :: w :: visits)) :
    LtepRoute m.tail (w :: visits) := by
  have hchain := List.isChain_cons_cons.mp h.passes
  have hsends : v.Sends m := LtepVisit.sends_of_ready (h.received v rfl) (h.ready 0 v rfl)
  have hlen : visits.length + 1 = m.repeaters.length := by simpa using h.length
  have hm : m.repeaters ≠ [] := by
    rintro hm
    simp [hm] at hlen
  constructor
  · simp [← hlen]
  · simpa using hchain.1.holds hsends hm
  · exact hchain.2
  · exact fun k v hv => h.ready (k + 1) v hv

theorem sends (h : LtepRoute m visits) {k : Nat} {v : LtepVisit} (hv : visits[k]? = some v) :
    v.Sends (m.behind k) := by
  induction visits generalizing m k with
  | nil => simp at hv
  | cons u visits ih =>
    cases k with
    | zero =>
      obtain rfl : u = v := by simpa using hv
      exact LtepVisit.sends_of_ready (h.received u rfl) (h.ready 0 u rfl)
    | succ k =>
      cases visits with
      | nil => simp at hv
      | cons w visits => exact ih h.tail hv

/-- The message goes from repeater to repeater in the order in which it names them, and the node
behind the last of them sends the target the APDU for it, as the agent part tells. -/
theorem reaches_target (h : LtepRoute m visits) :
    (∀ (k : Nat) (v : LtepVisit) (a : RepeaterAddress),
      visits[k]? = some v → m.repeaters[k]? = some a →
      v.gp.Queues v.after v.p.priority (v.taken (m.behind k))
        ((m.behind k).hop v.p.service v.place a (m.repeaters.drop (k + 1)))) ∧
    ∃ v, visits.getLast? = some v ∧
      v.gp.Queues v.after v.p.priority (v.taken (m.behind m.repeaters.length))
        (m.agent.target v.place) := by
  constructor
  · intro k v a hv ha
    have hdrop : (m.behind k).repeaters = a :: m.repeaters.drop (k + 1) := by
      rw [m.repeaters_behind, List.drop_eq_getElem?_toList_append, ha]
      rfl
    have hnext : v.next (m.behind k) =
        (m.behind k).hop v.p.service v.place a (m.repeaters.drop (k + 1)) := by
      simp only [LtepVisit.next, LtepMessage.next, hdrop]
    rw [← hnext]
    exact h.sends hv
  · have hlast : visits[m.repeaters.length]? = visits.getLast? := by
      rw [List.getLast?_eq_getElem?, h.length, Nat.add_sub_cancel]
    have hlt : m.repeaters.length < visits.length := by simp [h.length]
    have hv : visits[m.repeaters.length]? = some visits[m.repeaters.length] :=
      List.getElem?_eq_getElem hlt
    have hdrop : (m.behind m.repeaters.length).repeaters = [] := by
      rw [m.repeaters_behind, List.drop_length]
    have hnext (v : LtepVisit) : v.next (m.behind m.repeaters.length) = m.agent.target v.place := by
      simp only [LtepVisit.next, LtepMessage.next, hdrop, m.agent_behind]
    refine ⟨_, hlast ▸ hv, ?_⟩
    rw [← hnext]
    exact h.sends hv

end LtepRoute

def LtepMessage.visit (m : LtepMessage) : LtepVisit :=
  ⟨ProxyStackData.inSubnetThree, m.received 0, m.image, 0, ProxyStackData.noUninit⟩

def LtepMessage.twoRepeatersVisits : List LtepVisit :=
  [twoRepeaters.visit, twoRepeaters.tail.visit, twoRepeaters.tail.tail.visit]

theorem LtepVisit.passes_visit {m : LtepMessage}
    (h : m.visit.after.lastQueued false .acknowledged = some (LT_APDU_ENHANCED_PROXY :: m.tail.bytes)) :
    m.visit.Passes m.tail.visit where
  arrives := ⟨m.tail.bytes, h, (m.tail.holds_image (Nat.zero_le _)).bytes, rfl⟩
  domain := Nat.zero_le _

theorem LtepMessage.route_twoRepeaters : LtepRoute twoRepeaters twoRepeatersVisits where
  length := rfl
  received v hv := by
    obtain rfl : twoRepeaters.visit = v := by simpa [twoRepeatersVisits] using hv
    exact twoRepeaters.holds_image (Nat.zero_le _)
  passes := by
    refine .cons_cons (LtepVisit.passes_visit ?_) (.cons_cons (LtepVisit.passes_visit ?_) (.singleton _))
    · decide +kernel
    · decide +kernel
  ready k v hv := by
    rcases k with _ | _ | _ | k
    · obtain rfl : twoRepeaters.visit = v := by simpa [twoRepeatersVisits] using hv
      exact ⟨by decide +kernel, by decide +kernel⟩
    · obtain rfl : twoRepeaters.tail.visit = v := by simpa [twoRepeatersVisits] using hv
      exact ⟨by decide +kernel, by decide +kernel⟩
    · obtain rfl : twoRepeaters.tail.tail.visit = v := by simpa [twoRepeatersVisits] using hv
      exact ⟨by decide +kernel, by decide +kernel⟩
    · simp [twoRepeatersVisits] at hv

theorem LtepMessage.reaches_target_twoRepeaters :
    ∃ v, twoRepeatersVisits.getLast? = some v ∧
      v.gp.Queues v.after v.p.priority (v.taken (twoRepeaters.behind 2))
        (twoRepeaters.agent.target v.place) :=
  (LtepRoute.reaches_target route_twoRepeaters).2

end LonStack
