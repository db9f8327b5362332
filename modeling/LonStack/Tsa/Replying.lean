import LonStack.Tsa.Agreement

namespace LonStack

namespace ProtocolStackData

section

variable (useOma : Bool) (p : TSAReceiveParam) (gp : ProtocolStackData)

def AnswersAside : Prop :=
  ∃ keys timer, (gp.sendReplyToChallenge useOma p).xmitRec p.priority =
    { gp.xmitRec p.priority with
      altKey := { (gp.xmitRec p.priority).altKey with altKeyValue := keys }
      xmitTimer := timer }

structure RepliesFromFirst : Prop where
  domain : p.srcAddr.dmn.domainIndex ≠ FLEX_DOMAIN
  current : challengeIsStale (gp.xmitRec p.priority) p = false
  room : (gp.nwOutQ p.priority).full = false
  altKey : (gp.xmitRec p.priority).altKey.altKey = false
  first : useOma = true ∨ p.srcAddr.dmn.domainIndex = 0

end

variable {useOma : Bool} {p : TSAReceiveParam} {gp : ProtocolStackData}

theorem replyingRec_aside
    (h : (gp.xmitRec p.priority).altKey.altKey = false →
      useOma = true ∨ p.srcAddr.dmn.domainIndex = 0 →
        ((gp.eep.addrTable 0).typeSize &&& 3).toNat = (gp.xmitRec p.priority).version) :
    ∃ keys, gp.replyingRec useOma p =
      { gp.xmitRec p.priority with
        altKey := { (gp.xmitRec p.priority).altKey with altKeyValue := keys } } := by
  rw [replyingRec]
  dsimp only
  generalize gp.xmitRec p.priority = x at h ⊢
  by_cases haltKey : x.altKey.altKey = true
  case pos =>
    rw [if_pos haltKey]
    exact ⟨_, rfl⟩
  case neg =>
    rw [if_neg haltKey, TransmitRecord.loadKeys]
    generalize hfirst : (if useOma = true then 0 else p.srcAddr.dmn.domainIndex) = domIdx
    by_cases hzero : domIdx = 0
    case pos =>
      have hversion := h (Bool.eq_false_iff.mpr haltKey) (by
        cases useOma with
        | true => exact .inl rfl
        | false => exact .inr (hfirst.trans hzero))
      rw [if_pos hzero, hversion]
      exact ⟨_, rfl⟩
    case neg =>
      rw [if_neg hzero]
      split
      · exact ⟨_, rfl⟩
      · exact ⟨_, rfl⟩

theorem ownRec_sendReplyToChallenge :
    (gp.sendReplyToChallenge useOma p).xmitRec p.priority =
      (gp.answerChallenge useOma p).xmitRec p.priority := by
  rw [sendReplyToChallenge]
  split
  case isFalse => rfl
  case isTrue =>
    rw [writeBehind]
    split
    case isTrue =>
      rw [moveRecvRec]
      split <;> rfl
    case isFalse hpriority => exact Function.update_of_ne hpriority ..

theorem ownRec_answerChallenge (hdomain : p.srcAddr.dmn.domainIndex ≠ FLEX_DOMAIN)
    (hcurrent : challengeIsStale (gp.xmitRec p.priority) p = false)
    (hroom : (gp.nwOutQ p.priority).full = false) :
    (gp.answerChallenge useOma p).xmitRec p.priority =
      { gp.replyingRec useOma p with
        xmitTimer := (gp.replyingRec useOma p).xmitTimer.set gp.tickCount
          (UInt32.ofNat (gp.replyingRec useOma p).xmitTimerValue) } := by
  rw [answerChallenge, if_neg hdomain, if_neg (Bool.eq_false_iff.mp hcurrent),
    if_neg (Bool.eq_false_iff.mp hroom)]
  exact Function.update_self ..

/-- Answering a challenge keeps the protocol version exactly if the keys do not come from domain 0, or
the byte that is copied over the version holds the same one. -/
theorem answersAside_iff :
    gp.AnswersAside useOma p ↔ (gp.RepliesFromFirst useOma p →
      ((gp.eep.addrTable 0).typeSize &&& 3).toNat = (gp.xmitRec p.priority).version) := by
  rw [AnswersAside, ownRec_sendReplyToChallenge]
  constructor
  · intro haside hreplies
    obtain ⟨keys, timer, heq⟩ := haside
    rw [ownRec_answerChallenge hreplies.domain hreplies.current hreplies.room] at heq
    have hversion := congrArg TransmitRecord.version heq
    have hzero : (if useOma = true then 0 else p.srcAddr.dmn.domainIndex) = 0 := by
      rcases hreplies.first with huse | hindex
      · exact if_pos huse
      · rw [hindex, ite_self]
    dsimp only at hversion
    rw [replyingRec, if_neg (Bool.eq_false_iff.mp hreplies.altKey), hzero, TransmitRecord.loadKeys,
      if_pos rfl] at hversion
    exact hversion
  · intro h
    by_cases hdomain : p.srcAddr.dmn.domainIndex = FLEX_DOMAIN
    case pos =>
      rw [answerChallenge, if_pos hdomain]
      exact ⟨_, _, rfl⟩
    by_cases hstale : challengeIsStale (gp.xmitRec p.priority) p = true
    case pos =>
      rw [answerChallenge, if_neg hdomain, if_pos hstale]
      exact ⟨_, _, rfl⟩
    by_cases hfull : (gp.nwOutQ p.priority).full = true
    case pos =>
      rw [answerChallenge, if_neg hdomain, if_neg hstale, if_pos hfull]
      exact ⟨_, _, rfl⟩
    case neg =>
      have hcurrent := Bool.eq_false_iff.mpr hstale
      have hroom := Bool.eq_false_iff.mpr hfull
      obtain ⟨keys, hkeys⟩ : ∃ keys, gp.replyingRec useOma p = _ := replyingRec_aside
        fun haltKey hfirst => h ⟨hdomain, hcurrent, hroom, haltKey, hfirst⟩
      rw [ownRec_answerChallenge hdomain hcurrent hroom, hkeys]
      exact ⟨_, _, rfl⟩

end ProtocolStackData

theorem not_answersAside_oma :
    ¬∀ (gp : ProtocolStackData) (useOma : Bool) (p : TSAReceiveParam), gp.AnswersAside useOma p := by
  intro hall
  obtain ⟨keys, timer, heq⟩ := hall replier true receivedChallenge
  have hversion := congrArg TransmitRecord.version heq
  dsimp only at hversion
  exact absurd hversion (by decide +kernel)

end LonStack
