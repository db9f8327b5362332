import LonStack.Proxy.Attempts

namespace LonStack

open Lib

theorem LtepSend.netAddr_isOk (s : LtepSend) (d : Nat) (htype : s.addressType = 1) :
    ∃ a, (s.addr d).netAddr = .ok a := by
  have htype' : (s.addr d).typeSize = 1 := htype
  rw [SendAddress.netAddr, SendAddress.groupType, htype']
  exact ⟨_, rfl⟩

theorem one_le_one : 1 ≤ 1 := Nat.le_refl 1

namespace ProxyStackData

def withQueues (nw : Queue NWSendParam) (tsa : Queue TSASendParam) (expiration : UInt32)
    (bufSize : Nat) : ProxyStackData where
  toAppStackData :=
    { AppStackData.oneOutput with
      nwOutQ := fun _ => nw
      tsaOutQ := fun _ => tsa
      nwOutBufSize := fun _ => bufSize
      tsaOutBufSize := fun _ => bufSize }
  proxyBufferWait := ⟨0, expiration⟩

def allFull (expiration : UInt32) : ProxyStackData :=
  withQueues (.filled default 1 1 one_le_one) (.filled default 1 1 one_le_one) expiration 0

def networkFull (expiration : UInt32) : ProxyStackData :=
  withQueues (.filled default 1 1 one_le_one) (.init (fun _ => default) 3) expiration 0

def roomy (bufSize : Nat) : ProxyStackData :=
  withQueues (.init (fun _ => default) 3) (.init (fun _ => default) 3) 0 bufSize

variable {gp : ProxyStackData} {p : APPReceiveParam} {pData buffer : Image}
  {tickCount : UInt32} {uninit : LtepUninit} {s : LtepSend} {proxyCount : UInt8}

theorem ltepFull_allFull (expiration : UInt32) (service : ServiceType) :
    (allFull expiration).ltepFull p service = true := by
  unfold ltepFull
  split <;> rfl

theorem ltepSend_waits (hfull : gp.ltepFull p s.service = true)
    (htimer : gp.proxyBufferWait.expiration = 0) :
    gp.ltepSend p tickCount s proxyCount buffer =
      (.noBufferAvailable,
        { gp with proxyBufferWait := gp.proxyBufferWait.set tickCount 1000 }) := by
  have hexpired : gp.proxyBufferWait.expired tickCount = (false, gp.proxyBufferWait) := by
    unfold LonTimer.expired LonTimer.isExpired
    rw [htimer]
    rfl
  have hrunning : gp.proxyBufferWait.running tickCount = false := by
    unfold LonTimer.running
    rw [htimer]
    rfl
  unfold ltepSend
  rw [if_pos hfull, hexpired]
  dsimp only
  rw [if_neg Bool.false_ne_true, hrunning, if_neg Bool.false_ne_true]

theorem ltepSend_fails (hfull : gp.ltepFull p s.service = true)
    (htimer : gp.proxyBufferWait = ⟨0, 1⟩) :
    gp.ltepSend p 1 s proxyCount buffer =
      (.noError,
        sendResponse { gp with proxyBufferWait := ⟨0, 0⟩ } p LT_ENHANCED_PROXY_FAILURE [proxyCount]) := by
  have hexpired : gp.proxyBufferWait.expired 1 = (true, ⟨0, 0⟩) := by
    rw [htimer]
    decide
  unfold ltepSend
  rw [if_pos hfull, hexpired]
  rfl

theorem forwarded_of_room (hfull : gp.ltepFull p s.service = false)
    (hlength : 4 ≤ p.pduSize - 1 ∧ s.offset ≤ p.pduSize - 1) :
    (gp.ltepSend p tickCount s proxyCount buffer).2.forwarded =
      (gp.withStack (gp.ltepForward p s proxyCount
        (buffer.slice s.offset (p.pduSize - 1 - s.offset))).2).forwarded := by
  unfold ltepSend
  rw [hfull, if_neg Bool.false_ne_true]
  dsimp only
  rw [if_pos hlength]
  dsimp only
  split <;> rfl

theorem responses_allFull (hcopied : ¬p.CopiedForAgents pData) (uninit : LtepUninit) :
    ((allFull 1).processLTEP p pData 1 uninit).2.tsaRespQ.toList.map TSASendParam.apdu =
      [[LT_ENHANCED_PROXY_FAILURE, .ofNat (ProxyHeader.mk (pData 0)).count]] := by
  by_cases hcount : (ProxyHeader.mk (pData 0)).count = 0
  case pos =>
    rw [processLTEP_agent hcount, ltepSend_fails (ltepFull_allFull 1 _) rfl, hcount]
    rfl
  case neg =>
    unfold processLTEP
    rw [proxyCopied_eq hcopied, processLTEPOnce_repeat hcount, ltepSend_fails (ltepFull_allFull 1 _) rfl]
    rfl

theorem responses_networkFull (hcount : (ProxyHeader.mk (pData 0)).count = 0)
    (hshort : p.pduSize - 1 < 4) (uninit : LtepUninit) :
    ((networkFull 1).processLTEP p pData 1 uninit).2.tsaRespQ.toList.length =
      if (ProxySicb.mk (pData 1)).service = .unacknowledged then 1 else 0 := by
  rw [processLTEP_agent hcount]
  have hservice : ((networkFull 1).ltepAgent p pData uninit).service = (ProxySicb.mk (pData 1)).service :=
    rfl
  by_cases hun : (ProxySicb.mk (pData 1)).service = .unacknowledged
  case pos =>
    have hfull : (networkFull 1).ltepFull p ((networkFull 1).ltepAgent p pData uninit).service = true := by
      rw [hservice, ltepFull, if_pos hun]
      rfl
    rw [ltepSend_fails hfull rfl, if_pos hun]
    rfl
  case neg =>
    have hfull : (networkFull 1).ltepFull p ((networkFull 1).ltepAgent p pData uninit).service = false := by
      rw [hservice, ltepFull, if_neg hun]
      rfl
    unfold ltepSend
    rw [hfull, if_neg Bool.false_ne_true]
    dsimp only
    rw [if_neg fun h => Nat.not_le_of_lt hshort h.1, if_neg hun]
    rfl

theorem ltepFull_roomy (bufSize : Nat) (service : ServiceType) :
    (roomy bufSize).ltepFull p service = false := by
  unfold ltepFull
  split <;> rfl

theorem altKeys_roomy (hcount : (ProxyHeader.mk (pData 0)).count = 0)
    (hservice : (ProxySicb.mk (pData 1)).service ≠ .unacknowledged) (hfour : 4 ≤ p.pduSize - 1)
    (hcalls : ltepCallsFor pData ≤ p.pduSize - 1) (uninit : LtepUninit) :
    ((((roomy p.pduSize).processLTEP p pData 0 uninit).2.forwarded.2 p.priority).map
        TSASendParam.altKey) =
      [((roomy p.pduSize).ltepAgent p pData uninit).altKey] := by
  have hservice' : ((roomy p.pduSize).ltepAgent p pData uninit).service ≠ .unacknowledged := hservice
  have hoffset : ((roomy p.pduSize).ltepAgent p pData uninit).offset ≤ p.pduSize - 1 := by
    rw [offset_ltepAgent hcount]
    exact hcalls
  rw [processLTEP_agent hcount, forwarded_of_room (ltepFull_roomy _ _) ⟨hfour, hoffset⟩]
  unfold ltepForward
  dsimp only
  have hfits : ¬(roomy p.pduSize).tsaOutBufSize false <
      (pData.slice ((roomy p.pduSize).ltepAgent p pData uninit).offset
        (p.pduSize - 1 - ((roomy p.pduSize).ltepAgent p pData uninit).offset)).length + 1 := by
    rw [Image.length_slice]
    change ¬p.pduSize < _
    omega
  rw [if_neg hservice', if_neg hfits]
  refine (congrArg (fun q => (Queue.toList q).map TSASendParam.altKey)
    (AppStackData.tsaOutQ_pushTsaOut _)).trans ?_
  rw [Queue.toList_push]
  rfl

theorem forwarded_roomy (bufSize : Nat) : (roomy bufSize).forwarded = (fun _ => [], fun _ => []) := rfl

theorem forwarded_repeat_roomy (hcount : (ProxyHeader.mk (pData 0)).count ≠ 0)
    (hcopied : ¬p.CopiedForAgents pData) (hfour : 4 ≤ p.pduSize - 1) (uninit : LtepUninit) :
    ((roomy p.pduSize).processLTEP p pData 0 uninit).2.forwarded ≠ (roomy p.pduSize).forwarded := by
  have hoffset : ((roomy p.pduSize).ltepRepeat p pData uninit).offset ≤ p.pduSize - 1 :=
    (newHeaderAt_le pData).trans (by omega)
  have hfits : ¬p.pduSize <
      (((roomy p.pduSize).ltepRewritten p pData uninit).slice
        ((roomy p.pduSize).ltepRepeat p pData uninit).offset
        (p.pduSize - 1 - ((roomy p.pduSize).ltepRepeat p pData uninit).offset)).length + 1 := by
    rw [Image.length_slice]
    omega
  unfold processLTEP
  rw [proxyCopied_eq hcopied, processLTEPOnce_repeat hcount,
    forwarded_of_room (ltepFull_roomy _ _) ⟨hfour, hoffset⟩, forwarded_roomy]
  generalize ((roomy p.pduSize).ltepRewritten p pData uninit).slice _ _ = data at *
  intro heq
  by_cases hun : p.service = .unacknowledged
  case pos =>
    obtain ⟨a, ha⟩ := ((roomy p.pduSize).ltepRepeat p pData uninit).netAddr_isOk (ltepDomain p) rfl
    have hconvert (dmn : Domain) :
        (((roomy p.pduSize).ltepRepeat p pData uninit).addr (ltepDomain p)).tsaAddressConversion dmn =
          .ok ⟨{ dmn with domainIndex :=
            (((roomy p.pduSize).ltepRepeat p pData uninit).addr (ltepDomain p)).domain }, a⟩ := by
      rw [SendAddress.tsaAddressConversion, ha]
      rfl
    have hnw := congrFun (congrArg Prod.fst heq) false
    have hun' : ((roomy p.pduSize).ltepRepeat p pData uninit).service = .unacknowledged := hun
    have hfull : ((roomy p.pduSize).nwOutQ false).full = false := rfl
    have hbuf : ¬(roomy p.pduSize).nwOutBufSize false < data.length + 1 := hfits
    unfold ltepForward AppStackData.allocSendUnackd at hnw
    dsimp only at hnw
    rw [if_pos hun', hfull, if_neg Bool.false_ne_true, if_neg hbuf, hconvert] at hnw
    have hlist := (congrArg Queue.toList (AppStackData.nwOutQ_setNwOut _)).symm.trans hnw
    rw [Queue.toList_push] at hlist
    exact List.cons_ne_nil _ _ hlist
  case neg =>
    have htsa := congrFun (congrArg Prod.snd heq) p.priority
    have hun' : ((roomy p.pduSize).ltepRepeat p pData uninit).service ≠ .unacknowledged := hun
    have hbuf : ¬(roomy p.pduSize).tsaOutBufSize false < data.length + 1 := hfits
    unfold ltepForward at htsa
    dsimp only at htsa
    rw [if_neg hun', if_neg hbuf] at htsa
    have hlist := (congrArg Queue.toList (AppStackData.tsaOutQ_pushTsaOut _)).symm.trans htsa
    rw [Queue.toList_push] at hlist
    exact List.cons_ne_nil _ _ hlist

end ProxyStackData

namespace APPReceiveParam.HandledAsArrived

variable {p : APPReceiveParam} {pData : Image}

open ProxyStackData

theorem one_le (h : p.HandledAsArrived pData) : 1 ≤ p.pduSize - 1 := by
  by_contra hlt
  have hnot (q : Image) : ¬p.CopiedForAgents q := by
    rintro ⟨-, hsize, -⟩
    unfold ProxyHeader.txcpos at hsize
    omega
  -- a header with another count
  have hother : ∃ b : UInt8, (ProxyHeader.mk b).count ≠ (ProxyHeader.mk (pData 0)).count := by
    by_cases hzero : (ProxyHeader.mk (pData 0)).count = 0
    case pos => exact ⟨1, by rw [hzero]; decide⟩
    case neg => exact ⟨0, Ne.symm hzero⟩
  obtain ⟨b, hb⟩ := hother
  have hqueued := h.inside (fun _ => b) (fun k hk => by omega) ⟨allFull 1, 1, noUninit⟩
  have hresponses := congrArg (fun q => q.2.map TSASendParam.apdu) hqueued
  have hcounts := (responses_allFull (hnot _) noUninit).symm.trans
    (hresponses.trans (responses_allFull (hnot pData) noUninit))
  have hbytes : UInt8.ofNat (ProxyHeader.mk b).count = .ofNat (ProxyHeader.mk (pData 0)).count := by
    injection hcounts with hcounts
    injection hcounts with _ hcounts
    injection hcounts
  have hnat := congrArg UInt8.toNat hbytes
  have hlt := (ProxyHeader.mk b).count_lt
  have hlt' := (ProxyHeader.mk (pData 0)).count_lt
  rw [UInt8.toNat_ofNat', UInt8.toNat_ofNat'] at hnat
  omega

theorem two_le (h : p.HandledAsArrived pData) (hcount : (ProxyHeader.mk (pData 0)).count = 0) :
    2 ≤ p.pduSize - 1 := by
  by_contra hlt
  have hone := h.one_le
  -- a service with acknowledgement in place of one without, or the other way round
  have hother : ∃ b : UInt8, ¬((ProxySicb.mk b).service = .unacknowledged ↔
      (ProxySicb.mk (pData 1)).service = .unacknowledged) := by
    by_cases hun : (ProxySicb.mk (pData 1)).service = .unacknowledged
    case pos => exact ⟨0, by simp only [hun, iff_true]; decide⟩
    case neg => exact ⟨8, by simp only [hun, iff_false]; decide⟩
  obtain ⟨b, hb⟩ := hother
  have hqueued := h.inside (pData.set 1 b) (fun k hk => Image.set_of_ne (by omega))
    ⟨networkFull 1, 1, noUninit⟩
  have hlength := congrArg (fun q => q.2.length) hqueued
  have hcount' : (ProxyHeader.mk (pData.set 1 b 0)).count = 0 := by
    rw [Image.set_of_ne Nat.zero_ne_one]
    exact hcount
  have hresponses := (responses_networkFull hcount' (by omega) noUninit).symm.trans
    (hlength.trans (responses_networkFull hcount (by omega) noUninit))
  rw [Image.set_self] at hresponses
  refine hb ?_
  split at hresponses <;> split at hresponses
  next hleft hright => exact iff_of_true hleft hright
  next => cases hresponses
  next => cases hresponses
  next hleft hright => exact iff_of_false hleft hright

theorem not_keyFromBehind (h : p.HandledAsArrived pData)
    (hcount : (ProxyHeader.mk (pData 0)).count = 0) : ¬p.KeyFromBehind pData := by
  rintro ⟨hmode, hsix, hdomain, hservice, hcalls, hlt⟩
  have hset {k : Nat} (hk : k ≠ 15) : pData.set 15 (pData 15 + 1) k = pData k := Image.set_of_ne hk
  have hqueued := h.inside (pData.set 15 (pData 15 + 1)) (fun k hk => hset (by omega))
    ⟨roomy p.pduSize, 0, noUninit⟩
  have hcount' : (ProxyHeader.mk (pData.set 15 (pData 15 + 1) 0)).count = 0 := by
    rw [hset (by decide)]
    exact hcount
  have hcallsFor : ltepCallsFor (pData.set 15 (pData 15 + 1)) = ltepCallsFor pData := by
    unfold ltepCallsFor ltepAgentAt
    dsimp only
    rw [if_pos hcount', if_pos hcount, hset (by decide), hset (by decide)]
  have heleven : 11 ≤ ltepCallsFor pData := by
    have hthree := three_le_addrSizeTable (ProxySicb.mk (pData 1)).type
    unfold ltepCallsFor ltepAgentAt
    dsimp only
    rw [if_pos hcount, if_pos hmode, hsix]
    omega
  have hservice' : (ProxySicb.mk (pData.set 15 (pData 15 + 1) 1)).service ≠ .unacknowledged := by
    rw [hset (by decide)]
    exact hservice
  have hkeys := (altKeys_roomy hcount' hservice' (by omega) (by omega) noUninit).symm.trans
    ((congrArg (fun q => (q.1.2 p.priority).map TSASendParam.altKey) hqueued).trans
      (altKeys_roomy hcount hservice (by omega) hcalls noUninit))
  have hkey := (List.cons.inj hkeys).1
  have hagent {q : Image} (hq : (ProxySicb.mk (q 1)).mode = PROXY_AGENT_MODE_ALTKEY) :
      ((roomy p.pduSize).ltepAgent p q noUninit).altKey = (roomy p.pduSize).ltepAltKey p q noUninit := by
    unfold ltepAgent
    dsimp only
    rw [if_pos (decide_eq_true hq)]
  rw [hagent (by rw [hset (by decide)]; exact hmode), hagent hmode] at hkey
  have hvalue := congrArg (fun key : AltKey => key.altKeyValue.2) hkey
  unfold ltepAltKey at hvalue
  dsimp only at hvalue
  rw [hdomain, if_pos (by decide), if_pos (by decide)] at hvalue
  have hbyte := congrArg (fun v : AuthKey => v[5]) hvalue
  simp only [Vector.getElem_ofFn, Nat.reduceAdd] at hbyte
  rw [Image.set_self, UInt8.add_right_inj, UInt8.add_eq_left] at hbyte
  cases hbyte

theorem not_copiedForAgents (h : p.HandledAsArrived pData)
    (hcount : (ProxyHeader.mk (pData 0)).count ≠ 0) : ¬p.CopiedForAgents pData := by
  rintro ⟨hall, hcopied⟩
  -- the copy takes the timeout, and its failure is told, before the message itself is deferred
  have hcopy : ∃ q, (allFull 1).proxyCopied p pData 1 noUninit =
      { allFull 0 with tsaRespQ := q } ∧ q.toList.length = 1 := by
    unfold proxyCopied processProxyRepeaterAsAgent
    dsimp only
    rw [if_pos ⟨hall, hcount⟩, if_pos hcopied]
    have hheader (bs : List UInt8) :
        (ProxyHeader.mk (((noUninit.apdu.set 0 0).write 1 bs) 0)).count = 0 := by
      rw [Image.write_of_lt _ _ Nat.zero_lt_one, Image.set_self]
      decide
    rw [processLTEPOnce_agent (hheader _), ltepSend_fails (ltepFull_allFull 1 _) rfl]
    exact ⟨_, rfl, rfl⟩
  obtain ⟨q, hq, hlength⟩ := hcopy
  have hfull : ltepFull { allFull 0 with tsaRespQ := q } p p.service = true :=
    ltepFull_allFull (p := p) 0 p.service
  have hrun : ((allFull 1).processLTEP p pData 1 noUninit).1.1 = .noBufferAvailable ∧
      ((allFull 1).processLTEP p pData 1 noUninit).2.tsaRespQ = q := by
    unfold processLTEP
    rw [hq, processLTEPOnce_repeat hcount, ltepSend_waits hfull rfl]
    exact ⟨rfl, rfl⟩
  have hqueued := congrArg (fun q => q.2.length) (h.nothing ⟨allFull 1, 1, noUninit⟩ hrun.1)
  have hlength' : ((allFull 1).processLTEP p pData 1 noUninit).2.tsaRespQ.toList.length = 0 := hqueued
  rw [hrun.2, hlength] at hlength'
  cases hlength'

theorem keepsHeader (h : p.HandledAsArrived pData)
    (hcount : (ProxyHeader.mk (pData 0)).count ≠ 0) : p.KeepsHeader pData := by
  intro hlt
  have hrun : (allFull 0).processLTEP p pData 0 noUninit = ((.noBufferAvailable,
      pData.set (newHeaderAt pData) (ProxyHeader.mk (pData 0)).decrement.byte),
        { allFull 0 with proxyBufferWait := (allFull 0).proxyBufferWait.set 0 1000 }) := by
    unfold processLTEP
    rw [proxyCopied_eq (h.not_copiedForAgents hcount), processLTEPOnce_repeat hcount,
      ltepSend_waits (ltepFull_allFull 0 _) rfl]
    rfl
  have hunchanged := h.unchanged ⟨allFull 0, 0, noUninit⟩
    (by unfold LtepAttempt.Defers LtepAttempt.run; rw [hrun]) _ hlt
  unfold LtepAttempt.buffer LtepAttempt.run at hunchanged
  rw [hrun] at hunchanged
  exact hunchanged.symm.trans (Image.set_self _)

theorem complete (h : p.HandledAsArrived pData)
    (hcount : (ProxyHeader.mk (pData 0)).count ≠ 0) :
    ltepCallsFor pData ≤ p.pduSize - 1 ∨ p.pduSize - 1 < 4 := by
  by_contra hnot
  exact forwarded_repeat_roomy hcount (h.not_copiedForAgents hcount) (by omega) noUninit
    (h.short (by omega) ⟨roomy p.pduSize, 0, noUninit⟩)

end APPReceiveParam.HandledAsArrived

namespace APPReceiveParam

variable {p : APPReceiveParam} {pData : Image}

/-- A message is handled later as if it had just arrived, and only its own bytes count, under exactly this
condition. -/
theorem handledAsArrived_iff (p : APPReceiveParam) (pData : Image) :
    p.HandledAsArrived pData ↔ p.Deferrable pData := by
  constructor
  · intro h
    refine ⟨h.one_le, ?_⟩
    split
    next hcount => exact ⟨h.two_le hcount, h.not_keyFromBehind hcount⟩
    next hcount => exact ⟨h.keepsHeader hcount, h.not_copiedForAgents hcount, h.complete hcount⟩
  · intro h
    exact h.handledAsArrived

theorem not_handledAsArrived :
    ¬APPReceiveParam.HandledAsArrived { (default : APPReceiveParam) with service := .acknowledged, pduSize := 8 }
      fun k => [0x02, 3, 4, 3, 0x85, 0x33, 0x20].getD k 0 := by
  intro h
  have hshort := h.short (by decide) ⟨ProxyStackData.roomy 255, 0, ProxyStackData.noUninit⟩
  have htsa := congrArg (fun q => (q.2 false).length) hshort
  revert htsa
  decide +kernel

end APPReceiveParam

end LonStack
