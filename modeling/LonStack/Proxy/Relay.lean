import LonStack.App.Outputs
import LonStack.Proxy.Prepare

namespace LonStack

open Lib

section

variable {gp : ProxyStackData} {p : APPReceiveParam} {pData buffer : Image} {m : LtepMessage}
  {uninit : LtepUninit} {place : LtepPlace} {service : ServiceType} {s : LtepSend}
  {f : LtepForward} {a : RepeaterAddress} {rest : List RepeaterAddress}

theorem AppData.allocSendResponse_eq (gp : AppData) (reqId : RequestId) (nullResponse : Bool)
    (code : UInt8) (data : List UInt8) :
    ∃ q, (gp.allocSendResponse reqId nullResponse code data).2 = { gp with tsaRespQ := q } := by
  unfold AppData.allocSendResponse
  split
  case isTrue => exact ⟨gp.tsaRespQ, rfl⟩
  case isFalse =>
    dsimp only
    split
    case isTrue => exact ⟨_, rfl⟩
    case isFalse => exact ⟨gp.tsaRespQ, rfl⟩

namespace AppStackData

variable {g g' : AppStackData} {priority : Bool}

theorem nwOutQ_setNwOut (q : Queue NWSendParam) : (g.setNwOut priority q).nwOutQ priority = q := by
  unfold setNwOut
  exact Function.update_self (β := fun _ => Queue NWSendParam) priority q g.nwOutQ

theorem tsaOutQ_pushTsaOut (fill : TSASendParam → TSASendParam) :
    (g.pushTsaOut priority fill).tsaOutQ priority = (g.tsaOutQ priority).push fill :=
  Function.update_self priority _ g.tsaOutQ

theorem tsaOutQ_pushTsaOut_of_ne {b : Bool} (fill : TSASendParam → TSASendParam) (h : b ≠ priority) :
    (g.pushTsaOut priority fill).tsaOutQ b = g.tsaOutQ b :=
  Function.update_of_ne h _ g.tsaOutQ

theorem LtepSent.of_queues (hmem : g'.mem = g.mem) (heep : g'.eep = g.eep)
    (hnw : g'.nwOutQ = g.nwOutQ) (htsa : g'.tsaOutQ = g.tsaOutQ)
    (hnwBuf : g'.nwOutBufSize = g.nwOutBufSize) (htsaBuf : g'.tsaOutBufSize = g.tsaOutBufSize)
    (hroom : ¬g.HasSlotFor priority 0 f) : LtepSent g g' priority f where
  mem := hmem
  eep := heep
  nwCapacity _ := by rw [hnw]
  tsaCapacity _ := by rw [htsa]
  nwBufSize := hnwBuf
  tsaBufSize := htsaBuf
  nw _ := ⟨[], by rw [hnw, List.append_nil], (if_neg fun h => hroom h.2).symm, List.forall_mem_nil _⟩
  tsa _ := ⟨[], by rw [htsa, List.append_nil], (if_neg fun h => hroom h.2).symm, List.forall_mem_nil _⟩

theorem LtepSent.of_push_nw {fill : NWSendParam → NWSendParam} (hservice : f.service = .unacknowledged)
    (hfull : (g.nwOutQ priority).full = false) (hbuf : f.data.length + 1 ≤ g.nwOutBufSize false)
    (hfill : ∀ slot, (fill slot).Carries f) :
    LtepSent g (g.setNwOut false ((g.nwOutQ false).push fill)) priority f where
  mem := rfl
  eep := rfl
  nwCapacity b := by
    cases b with
    | false => rw [nwOutQ_setNwOut, Queue.queueCapacity_push]
    | true => rfl
  tsaCapacity _ := rfl
  nwBufSize := rfl
  tsaBufSize := rfl
  nw b := by
    cases b with
    | true => exact ⟨[], (List.append_nil _).symm, (if_neg fun h => nomatch h.1.1).symm, List.forall_mem_nil _⟩
    | false =>
      rw [nwOutQ_setNwOut, Queue.toList_push]
      by_cases hroom : (g.nwOutQ false).queueEntries + 1 < (g.nwOutQ false).queueCapacity
      case pos =>
        have hall : g.HasSlotFor priority 0 f := ⟨fun _ => ⟨hfull, hroom, hbuf⟩, fun h => absurd hservice h⟩
        refine ⟨[fill (g.nwOutQ false).tailSlot], if_pos hroom, (if_pos ⟨⟨rfl, hservice⟩, hall⟩).symm, ?_⟩
        intro x hx
        rw [List.mem_singleton.mp hx]
        exact hfill _
      case neg =>
        refine ⟨[], (if_neg hroom).trans (List.append_nil _).symm, (if_neg ?_).symm, List.forall_mem_nil _⟩
        rintro ⟨-, hall⟩
        exact hroom (hall.1 hservice).2.1
  tsa b := ⟨[], (List.append_nil _).symm, (if_neg fun h => h.1.2 hservice).symm, List.forall_mem_nil _⟩

theorem LtepSent.of_push_tsa {fill : TSASendParam → TSASendParam}
    (hservice : f.service ≠ .unacknowledged) (hbuf : f.data.length + 1 ≤ g.tsaOutBufSize false)
    (hfill : ∀ slot, (fill slot).Carries f) : LtepSent g (g.pushTsaOut priority fill) priority f where
  mem := rfl
  eep := rfl
  nwCapacity _ := rfl
  tsaCapacity b := by
    rcases eq_or_ne b priority with rfl | hne
    · rw [tsaOutQ_pushTsaOut, Queue.queueCapacity_push]
    · rw [tsaOutQ_pushTsaOut_of_ne fill hne]
  nwBufSize := rfl
  tsaBufSize := rfl
  nw b := ⟨[], (List.append_nil _).symm, (if_neg fun h => hservice h.1.2).symm, List.forall_mem_nil _⟩
  tsa b := by
    rcases eq_or_ne b priority with rfl | hne
    · rw [tsaOutQ_pushTsaOut, Queue.toList_push]
      by_cases hroom : (g.tsaOutQ b).queueEntries + 1 < (g.tsaOutQ b).queueCapacity
      case pos =>
        have hall : g.HasSlotFor b 0 f := ⟨fun h => absurd h hservice, fun _ => ⟨hroom, hbuf⟩⟩
        refine ⟨[fill (g.tsaOutQ b).tailSlot], if_pos hroom, (if_pos ⟨⟨rfl, hservice⟩, hall⟩).symm, ?_⟩
        intro x hx
        rw [List.mem_singleton.mp hx]
        exact hfill _
      case neg =>
        refine ⟨[], (if_neg hroom).trans (List.append_nil _).symm, (if_neg ?_).symm, List.forall_mem_nil _⟩
        rintro ⟨-, hall⟩
        exact hroom (hall.2 hservice).1
    · rw [tsaOutQ_pushTsaOut_of_ne fill hne]
      exact ⟨[], (List.append_nil _).symm, (if_neg fun h => hne h.1.1).symm, List.forall_mem_nil _⟩

theorem LtepSent.response (h : LtepSent g g' priority f) (q : Queue TSASendParam) :
    LtepSent g { g' with tsaRespQ := q } priority f := by
  obtain ⟨hmem, heep, hnwCapacity, htsaCapacity, hnwBuf, htsaBuf, hnw, htsa⟩ := h
  exact ⟨hmem, heep, hnwCapacity, htsaCapacity, hnwBuf, htsaBuf, hnw, htsa⟩

end AppStackData

namespace ProxyStackData

open AppStackData

theorem sendResponse_eq (gp : ProxyStackData) (p : APPReceiveParam) (code : UInt8)
    (data : List UInt8) : ∃ q, gp.sendResponse p code data = { gp with tsaRespQ := q } := by
  obtain ⟨q, hq⟩ := gp.toAppData.allocSendResponse_eq p.reqId false code data
  refine ⟨q, ?_⟩
  unfold sendResponse AppData.sendResponse
  rw [hq]

theorem sent_ltepForward (gp : ProxyStackData) (h : s.Prepares p buffer f) (proxyCount : UInt8)
    (hfull : gp.ltepFull p s.service = false) :
    LtepSent gp.toAppStackData (gp.ltepForward p s proxyCount f.data).2 p.priority f := by
  obtain ⟨hservice, haddr, hdomain, halt, hcode, -, -, -⟩ := h
  unfold ltepFull at hfull
  unfold ltepForward
  dsimp only
  rw [hservice] at hfull ⊢
  rw [hdomain] at haddr
  by_cases hun : f.service = .unacknowledged
  case pos =>
    rw [if_pos hun] at hfull ⊢
    have hconvert (dmn : Domain) : (s.addr (ltepDomain p)).tsaAddressConversion dmn =
        .ok ⟨{ dmn with domainIndex := (s.addr (ltepDomain p)).domain }, f.dest⟩ := by
      rw [SendAddress.tsaAddressConversion, haddr.dest]
      rfl
    unfold allocSendUnackd
    dsimp only
    cases hq : (gp.nwOutQ false).full with
    | true =>
      rw [if_pos rfl]
      refine .of_queues rfl rfl rfl rfl rfl rfl fun hroom => ?_
      have hlt := (hroom.1 hun).2.1
      rw [Queue.full_iff] at hq
      omega
    | false =>
      rw [if_neg Bool.false_ne_true]
      by_cases hsize : gp.nwOutBufSize false < f.data.length + 1
      case pos =>
        rw [if_pos hsize]
        refine .of_queues rfl rfl rfl rfl rfl rfl fun hroom => ?_
        exact absurd (hroom.1 hun).2.2 (Nat.not_le_of_lt hsize)
      case neg =>
        rw [if_neg hsize, hconvert]
        refine .of_push_nw hun hfull (Nat.le_of_not_lt hsize) fun slot => ?_
        exact
          { dest := rfl
            domain := haddr.domain
            pduType := rfl
            alt := by rw [halt]
            pduSize := rfl
            code := hcode
            data := by
              rw [List.take_length]
              exact List.take_left }
  case neg =>
    rw [if_neg hun] at hfull ⊢
    by_cases hsize : gp.tsaOutBufSize false < f.data.length + 1
    case pos =>
      rw [if_pos hsize]
      refine .of_queues rfl rfl rfl rfl rfl rfl fun hroom => ?_
      exact absurd (hroom.2 hun).2 (Nat.not_le_of_lt hsize)
    case neg =>
      rw [if_neg hsize]
      refine .of_push_tsa hun (Nat.le_of_not_lt hsize) fun slot => ?_
      exact
        { dest := haddr
          service := rfl
          altPathOverride := rfl
          alt := by rw [halt]
          apdu := by rw [hcode] }

theorem sent_ltepSend (h : s.Prepares p buffer f) (tickCount : UInt32) (proxyCount : UInt8) :
    LtepSent gp.toAppStackData (gp.ltepSend p tickCount s proxyCount buffer).2.toAppStackData
      p.priority f := by
  have hlength : s.offset ≤ p.pduSize - 1 ∧ p.pduSize - 1 - s.offset = f.data.length := by
    have hoffset := h.offset
    omega
  have hdata : buffer.slice s.offset (p.pduSize - 1 - s.offset) = f.data := by
    rw [hlength.2]
    exact h.data
  unfold ltepSend
  cases hfull : gp.ltepFull p s.service with
  | true =>
    have hroom : ¬gp.HasSlotFor p.priority 0 f := by
      unfold ltepFull at hfull
      rw [h.service] at hfull
      intro hroom
      by_cases hun : f.service = .unacknowledged
      case pos =>
        rw [if_pos hun, (hroom.1 hun).1] at hfull
        cases hfull
      case neg =>
        rw [if_neg hun, Queue.full_iff] at hfull
        have hlt := (hroom.2 hun).1
        omega
    rw [if_pos rfl]
    dsimp only
    split
    case isTrue =>
      obtain ⟨q, hq⟩ := sendResponse_eq { gp with proxyBufferWait := (gp.proxyBufferWait.expired tickCount).2 } p
        LT_ENHANCED_PROXY_FAILURE [proxyCount]
      rw [hq]
      exact .of_queues rfl rfl rfl rfl rfl rfl hroom
    case isFalse => split <;> exact .of_queues rfl rfl rfl rfl rfl rfl hroom
  | false =>
    rw [if_neg Bool.false_ne_true]
    dsimp only
    rw [if_pos ⟨h.enough, hlength.1⟩, hdata]
    have hsent := sent_ltepForward
      { gp with proxyBufferWait := gp.proxyBufferWait.set tickCount 0 } h proxyCount hfull
    split
    case isTrue =>
      obtain ⟨q, hq⟩ := sendResponse_eq (withStack { gp with proxyBufferWait := gp.proxyBufferWait.set tickCount 0 }
        (ltepForward { gp with proxyBufferWait := gp.proxyBufferWait.set tickCount 0 } p s proxyCount f.data).2) p
        LT_ENHANCED_PROXY_FAILURE [proxyCount]
      rw [hq]
      exact hsent.response q
    case isFalse => exact hsent

theorem sent_processLTEPOnce (gp : ProxyStackData) (h : p.HoldsLtep pData m) (tickCount : UInt32)
    (uninit : LtepUninit) :
    LtepSent gp.toAppStackData (gp.processLTEPOnce p pData tickCount uninit).2.toAppStackData
      p.priority (m.next p.service (gp.readPlace p)) := by
  unfold processLTEPOnce LtepMessage.next
  dsimp only
  cases hm : m.repeaters with
  | nil =>
    have hcount : m.header.count = 0 := by rw [m.count_eq, hm, List.length_nil]
    rw [(holds_agent h hm).1, if_neg (not_not.mpr hcount)]
    exact sent_ltepSend (prepares_agent h hm) tickCount _
  | cons a rest =>
    have hcount := count_of_cons hm
    rw [(holds_repeater h hm).1, if_pos (by omega)]
    exact sent_ltepSend (prepares_repeat h hm) tickCount _

theorem length_txcpos (hm : m.repeaters ≠ []) :
    m.bytes.length = m.header.txcpos + 1 + m.agent.bytes.length := by
  have hlen := RepeaterAddress.length_flatMap_bytes m.header.uniform_cases m.repeaters
  rw [LtepMessage.bytes, if_neg hm, List.length_append, List.length_append, List.length_cons, hlen,
    ProxyHeader.txcpos, m.count_eq, List.length_singleton]
  omega

theorem sent_processProxyRepeaterAsAgent (gp : ProxyStackData) (h : p.HoldsLtep pData m) (hm : m.repeaters ≠ [])
    (hdomain : p.srcAddr.dmn.domainIndex ≠ FLEX_DOMAIN) (tickCount : UInt32)
    (uninit : LtepUninit) :
    LtepSent gp.toAppStackData
      (gp.processProxyRepeaterAsAgent p pData tickCount uninit).toAppStackData p.priority
      ((m.copied (pData (p.pduSize - 1))).next p.service (gp.readPlace p)) := by
  have hlength := length_txcpos hm
  have hsize := h.size
  have hfour := m.agent.four_le
  have hcopied := m.bytes_copied (pData (p.pduSize - 1))
  have hbytes := h.bytes
  -- what is copied is the agent part and one byte more
  have hagent : pData.slice (m.header.txcpos + 1) (m.agent.bytes.length + 1) =
      m.agent.bytes ++ [pData (p.pduSize - 1)] := by
    have hcontains := hbytes
    rw [LtepMessage.bytes, Image.contains_append] at hcontains
    have hfront : m.bytes.length - m.agent.bytes.length = m.header.txcpos + 1 := by omega
    rw [LtepMessage.bytes, List.length_append, Nat.add_sub_cancel] at hfront
    rw [hfront, Nat.zero_add] at hcontains
    rw [Image.slice_succ, hcontains.2]
    exact congrArg (m.agent.bytes ++ [pData ·]) (by omega)
  have hlen : p.pduSize - (m.header.txcpos + 1) = m.agent.bytes.length + 1 := by omega
  unfold processProxyRepeaterAsAgent
  rw [header_eq h]
  dsimp only
  rw [if_pos ⟨by omega, hdomain⟩, Nat.add_sub_cancel, hlen, hagent]
  have hholds : APPReceiveParam.HoldsLtep
      { p with
        service := .unacknowledged
        proxy := true
        pduSize := m.agent.bytes.length + 1 + 2 }
      ((uninit.apdu.set 0 0).write 1 (m.agent.bytes ++ [pData (p.pduSize - 1)]))
      (m.copied (pData (p.pduSize - 1))) := by
    refine ⟨?_, ?_, h.domain⟩
    · have hwrite := Image.slice_write (uninit.apdu.set 0 0) 1
        (m.agent.bytes ++ [pData (p.pduSize - 1)])
      rw [hcopied, Image.contains_cons]
      exact ⟨(Image.write_of_lt _ _ Nat.zero_lt_one).trans (Image.set_self _), hwrite⟩
    · rw [hcopied, List.length_cons, List.length_append, List.length_singleton]
  exact gp.sent_processLTEPOnce hholds tickCount uninit

end ProxyStackData

namespace AppStackData

variable {g g₁ g₂ : AppStackData} {priority : Bool} {c : LtepForward} {copy : Option LtepForward}

structure Copied (g g₁ : AppStackData) (priority : Bool) (copy : Option LtepForward)
    (f : LtepForward) : Prop where
  nw : f.service = .unacknowledged → ∃ xs, (g₁.nwOutQ false).toList = (g.nwOutQ false).toList ++ xs ∧
    xs.length = g.takes priority copy f
  tsa : f.service ≠ .unacknowledged → ∃ xs,
    (g₁.tsaOutQ priority).toList = (g.tsaOutQ priority).toList ++ xs ∧
      xs.length = g.takes priority copy f
  room : g₁.HasSlotFor priority 0 f ↔ g.HasSlotFor priority (g.takes priority copy f) f

theorem Copied.refl (g : AppStackData) (priority : Bool) (f : LtepForward) :
    Copied g g priority none f where
  nw _ := ⟨[], (List.append_nil _).symm, rfl⟩
  tsa _ := ⟨[], (List.append_nil _).symm, rfl⟩
  room := Iff.rfl

theorem LtepSent.copied (h : LtepSent g g₁ priority c) (f : LtepForward) :
    Copied g g₁ priority (some c) f := by
  have hnw (hun : f.service = .unacknowledged) : ∃ xs,
      (g₁.nwOutQ false).toList = (g.nwOutQ false).toList ++ xs ∧
        xs.length = g.takes priority (some c) f := by
    obtain ⟨xs, hxs, hlen, -⟩ := h.nw false
    refine ⟨xs, hxs, hlen.trans ?_⟩
    simp only [takes, hun, iff_true, true_and]
  have htsa (hun : f.service ≠ .unacknowledged) : ∃ xs,
      (g₁.tsaOutQ priority).toList = (g.tsaOutQ priority).toList ++ xs ∧
        xs.length = g.takes priority (some c) f := by
    obtain ⟨xs, hxs, hlen, -⟩ := h.tsa priority
    refine ⟨xs, hxs, hlen.trans ?_⟩
    simp only [takes, hun, iff_false, true_and, ne_eq]
  refine ⟨hnw, htsa, and_congr (imp_congr_right fun hun => ?_) (imp_congr_right fun hun => ?_)⟩
  · obtain ⟨xs, hxs, hlen⟩ := hnw hun
    have hentries := congrArg List.length hxs
    rw [List.length_append, Queue.length_toList, Queue.length_toList, hlen] at hentries
    have hfull : (g₁.nwOutQ true).full = (g.nwOutQ true).full := by
      obtain ⟨ys, hys, hzero, -⟩ := h.nw true
      have hsame := congrArg List.length hys
      rw [if_neg fun h => nomatch h.1.1] at hzero
      rw [List.length_append, Queue.length_toList, Queue.length_toList, hzero, Nat.add_zero] at hsame
      rw [Bool.eq_iff_iff, Queue.full_iff, Queue.full_iff, hsame, h.nwCapacity]
    rw [hentries, h.nwCapacity, h.nwBufSize]
    cases priority with
    | true => rw [hfull, Nat.add_zero]
    | false =>
      rw [Queue.full_eq_false_iff, Queue.full_eq_false_iff, hentries, h.nwCapacity]
      omega
  · obtain ⟨xs, hxs, hlen⟩ := htsa hun
    have hentries := congrArg List.length hxs
    rw [List.length_append, Queue.length_toList, Queue.length_toList, hlen] at hentries
    rw [hentries, h.tsaCapacity, h.tsaBufSize, Nat.add_zero]

theorem hasSlotFor_congr {f' : LtepForward} {n : Nat} (hservice : f.service = f'.service)
    (hdata : f.data = f'.data) : g.HasSlotFor priority n f ↔ g.HasSlotFor priority n f' := by
  unfold HasSlotFor
  rw [hservice, hdata]

theorem takes_congr {f' : LtepForward} (hservice : f.service = f'.service) :
    g.takes priority copy f = g.takes priority copy f' := by
  unfold takes
  rw [hservice]

theorem Queues.hasRoom {f' : LtepForward}
    (h : g.Queues g₂ priority (g.takes priority copy f) f') (hservice : f'.service = f.service)
    (hcopied : Copied g g₁ priority copy f) (hsent : LtepSent g₁ g₂ priority f) :
    g.HasSlotFor priority (g.takes priority copy f) f := by
  obtain ⟨hnw, htsa⟩ := h
  rw [hservice] at hnw htsa
  rw [← hcopied.room]
  by_contra hroom
  by_cases hun : f.service = .unacknowledged
  case pos =>
    obtain ⟨xs, hxs, hlen⟩ := hcopied.nw hun
    obtain ⟨ys, hys, hzero, -⟩ := hsent.nw false
    obtain ⟨zs, x, hzs, hlen', -⟩ := hnw hun
    rw [if_neg fun h => hroom h.2] at hzero
    have hlength := congrArg List.length (hys.symm.trans hzs)
    rw [hxs] at hlength
    simp only [List.length_append, List.length_singleton] at hlength
    omega
  case neg =>
    obtain ⟨xs, hxs, hlen⟩ := hcopied.tsa hun
    obtain ⟨ys, hys, hzero, -⟩ := hsent.tsa priority
    obtain ⟨zs, x, hzs, hlen', -⟩ := htsa hun
    rw [if_neg fun h => hroom h.2] at hzero
    have hlength := congrArg List.length (hys.symm.trans hzs)
    rw [hxs] at hlength
    simp only [List.length_append, List.length_singleton] at hlength
    omega

theorem queues_of_hasRoom (hroom : g.HasSlotFor priority (g.takes priority copy f) f)
    (hcopied : Copied g g₁ priority copy f) (hsent : LtepSent g₁ g₂ priority f) :
    g.Queues g₂ priority (g.takes priority copy f) f := by
  have hroom₁ := hcopied.room.mpr hroom
  constructor
  · intro hun
    obtain ⟨xs, hxs, hlen⟩ := hcopied.nw hun
    obtain ⟨ys, hys, hone, hcarries⟩ := hsent.nw false
    rw [if_pos ⟨⟨rfl, hun⟩, hroom₁⟩] at hone
    obtain ⟨x, rfl⟩ := List.length_eq_one_iff.mp hone
    exact ⟨xs, x, by rw [hys, hxs], hlen, hcarries x (List.mem_singleton_self x)⟩
  · intro hun
    obtain ⟨xs, hxs, hlen⟩ := hcopied.tsa hun
    obtain ⟨ys, hys, hone, hcarries⟩ := hsent.tsa priority
    rw [if_pos ⟨⟨rfl, hun⟩, hroom₁⟩] at hone
    obtain ⟨x, rfl⟩ := List.length_eq_one_iff.mp hone
    exact ⟨xs, x, by rw [hys, hxs], hlen, hcarries x (List.mem_singleton_self x)⟩

theorem Queues.dest_eq {f' : LtepForward} {n n' : Nat} (h : g.Queues g₂ priority n f)
    (h' : g.Queues g₂ priority n' f') (hservice : f'.service = f.service) : f'.dest = f.dest := by
  obtain ⟨hnw', htsa'⟩ := h'
  rw [hservice] at hnw' htsa'
  by_cases hun : f.service = .unacknowledged
  case pos =>
    obtain ⟨xs, x, hxs, -, hx⟩ := h.1 hun
    obtain ⟨ys, y, hys, -, hy⟩ := hnw' hun
    have hlast := congrArg List.getLast? (hxs.symm.trans hys)
    rw [List.getLast?_concat, List.getLast?_concat] at hlast
    rw [← hx.dest, ← hy.dest, Option.some.inj hlast]
  case neg =>
    obtain ⟨xs, x, hxs, -, hx⟩ := h.2 hun
    obtain ⟨ys, y, hys, -, hy⟩ := htsa' hun
    have hlast := congrArg List.getLast? (hxs.symm.trans hys)
    rw [List.getLast?_concat, List.getLast?_concat] at hlast
    have hdest := hx.dest.dest
    rw [Option.some.inj hlast, hy.dest.dest] at hdest
    exact Except.ok.inj hdest

end AppStackData

namespace LtepMessage

variable {place' : LtepPlace}

theorem service_next : (m.next service place).service = (m.next service place').service := by
  unfold next
  split <;> rfl

theorem data_next : (m.next service place).data = (m.next service place').data := by
  unfold next
  split <;> rfl

theorem subnetNode_inj {a b node : UInt8} :
    NetAddr.subnetNode ((SubnetNode.mk a node).setSelField true) =
      .subnetNode ((SubnetNode.mk b node).setSelField true) ↔ a = b := by
  constructor
  · intro h
    exact congrArg SubnetNode.subnet (NetAddr.subnetNode.inj h)
  · rintro rfl
    rfl

theorem dest_next_iff (hsrc : place.src = place'.src) :
    (m.next service place).dest = (m.next service place').dest ↔
      (m.usesOwnSubnet = true → place.own = place'.own) := by
  unfold next usesOwnSubnet
  cases hm : m.repeaters with
  | nil =>
    dsimp only [AgentPart.target]
    rw [hsrc]
    cases haddr : m.agent.address with
    | subnetNodeDest node =>
      exact ⟨fun h _ => subnetNode_inj.mp h, fun h => subnetNode_inj.mpr (h rfl)⟩
    | _ => exact iff_of_true rfl nofun
  | cons a rest =>
    dsimp only [hop]
    rw [subnetNode_inj]
    unfold subnetOf
    rw [hsrc]
    cases m.header.uniformBySrc with
    | true => exact iff_of_true rfl fun h => by rw [Bool.not_true, Bool.and_false] at h; cases h
    | false =>
      cases m.header.uniformByDest with
      | true => exact ⟨fun h _ => h, fun h => h rfl⟩
      | false => exact iff_of_true rfl nofun

theorem next_eq_of_dest (hdomain : place.domain = place'.domain)
    (h : (m.next service place).dest = (m.next service place').dest) :
    m.next service place = m.next service place' := by
  unfold next at h ⊢
  cases hm : m.repeaters with
  | nil =>
    rw [hm] at h
    dsimp only [AgentPart.target] at h ⊢
    rw [h, hdomain]
  | cons a rest =>
    rw [hm] at h
    dsimp only [hop] at h ⊢
    rw [h, hdomain]

end LtepMessage

namespace ProxyStackData

theorem copied_proxyCopied (gp : ProxyStackData) (h : p.HoldsLtep pData m) (tickCount : UInt32)
    (uninit : LtepUninit) (f : LtepForward) :
    AppStackData.Copied gp.toAppStackData
        (gp.proxyCopied p pData tickCount uninit).toAppStackData p.priority
        (gp.copyOf p pData m) f ∧
      (gp.proxyCopied p pData tickCount uninit).readPlace p = gp.readPlace p := by
  have hcount : m.header.count ≠ 0 ↔ m.repeaters ≠ [] := by
    rw [m.count_eq, ne_eq, List.length_eq_zero_iff]
  unfold proxyCopied copyOf
  dsimp only
  rw [header_eq h]
  by_cases hcopy : m.header.allAgents = true ∧ m.repeaters ≠ []
  case neg =>
    rw [if_neg fun h => hcopy ⟨h.1, hcount.mp h.2⟩, if_neg fun h => hcopy ⟨h.1, h.2.1⟩]
    exact ⟨.refl _ _ f, rfl⟩
  case pos =>
    rw [if_pos ⟨hcopy.1, hcount.mpr hcopy.2⟩]
    by_cases hdomain : p.srcAddr.dmn.domainIndex = FLEX_DOMAIN
    case pos =>
      rw [if_neg fun h => h.2.2 hdomain]
      unfold processProxyRepeaterAsAgent
      dsimp only
      rw [if_neg fun h => h.2 hdomain]
      exact ⟨.refl _ _ f, rfl⟩
    case neg =>
      rw [if_pos ⟨hcopy.1, hcopy.2, hdomain⟩]
      have hsent := gp.sent_processProxyRepeaterAsAgent h hcopy.2 hdomain tickCount uninit
      refine ⟨hsent.copied f, ?_⟩
      unfold readPlace dstSubnet domainSubnet AppData.domainTable
      rw [hsent.mem, hsent.eep]

/-- A repeater sends the message on to the next node, and an agent sends the target what is meant for
it, if there is room and the node reads its own subnet where it needs it. -/
theorem relaysOneHop_iff (gp : ProxyStackData) (h : p.HoldsLtep pData m) (tickCount : UInt32)
    (uninit : LtepUninit) :
    gp.Queues (gp.processLTEP p pData tickCount uninit).2.toAppStackData p.priority
        (gp.takes p.priority (gp.copyOf p pData m) (m.next p.service (gp.place p)))
        (m.next p.service (gp.place p)) ↔
      gp.HasSlotFor p.priority
          (gp.takes p.priority (gp.copyOf p pData m) (m.next p.service (gp.place p)))
          (m.next p.service (gp.place p)) ∧
        (m.usesOwnSubnet = true → gp.dstSubnet p = gp.domainSubnet (ltepDomain p)) := by
  have hservice : (m.next p.service (gp.place p)).service =
      (m.next p.service (gp.readPlace p)).service := m.service_next
  have hdata : (m.next p.service (gp.place p)).data = (m.next p.service (gp.readPlace p)).data :=
    m.data_next
  obtain ⟨hcopied, hplace⟩ := gp.copied_proxyCopied h tickCount uninit
    (m.next p.service (gp.readPlace p))
  have hsent := (gp.proxyCopied p pData tickCount uninit).sent_processLTEPOnce h tickCount uninit
  rw [hplace] at hsent
  have hown : (m.next p.service (gp.readPlace p)).dest = (m.next p.service (gp.place p)).dest ↔
      (m.usesOwnSubnet = true → gp.dstSubnet p = gp.domainSubnet (ltepDomain p)) :=
    m.dest_next_iff rfl
  rw [AppStackData.takes_congr hservice, AppStackData.hasSlotFor_congr hservice hdata, ← hown]
  unfold processLTEP
  constructor
  · intro hqueues
    have hroom := hqueues.hasRoom hservice hcopied hsent
    have hread := AppStackData.queues_of_hasRoom hroom hcopied hsent
    exact ⟨hroom, (hread.dest_eq hqueues hservice).symm⟩
  · rintro ⟨hroom, hdest⟩
    have heq : m.next p.service (gp.readPlace p) = m.next p.service (gp.place p) :=
      m.next_eq_of_dest rfl hdest
    rw [← heq]
    exact AppStackData.queues_of_hasRoom hroom hcopied hsent

end ProxyStackData

end

namespace LtepMessage

theorem type_subnetNode : (ProxySicb.mk 0x20).type = PX_SUBNET_NODE := by decide

theorem type_subnetNodeDest : (ProxySicb.mk 0xE0).type = PX_SUBNET_NODE_COMPACT_DEST := by decide

theorem mode_subnetNode :
    false = decide ((ProxySicb.mk 0x20).mode = PROXY_AGENT_MODE_ALTKEY) := by decide

theorem mode_subnetNodeDest :
    false = decide ((ProxySicb.mk 0xE0).mode = PROXY_AGENT_MODE_ALTKEY) := by decide

theorem count_two : (ProxyHeader.mk 0x02).count = 2 := by decide

def twoRepeaters : LtepMessage where
  header := ⟨0x02⟩
  repeaters := [⟨3, ⟨4⟩⟩, ⟨3, ⟨0x85⟩⟩]
  txCtrl := ⟨0x33⟩
  agent :=
    { sicb := ⟨0x20⟩
      txCtrl := ⟨0x24⟩
      key := none
      address := .subnetNode 9 ⟨8⟩
      code := 0x41
      data := [7]
      type_eq := type_subnetNode
      key_isSome := mode_subnetNode }
  count_eq := count_two

def toOwnSubnet : LtepMessage where
  header := ⟨0⟩
  repeaters := []
  txCtrl := ⟨0⟩
  agent :=
    { sicb := ⟨0xE0⟩
      txCtrl := ⟨0x24⟩
      key := none
      address := .subnetNodeDest ⟨5⟩
      code := 0x41
      data := [7]
      type_eq := type_subnetNodeDest
      key_isSome := mode_subnetNodeDest }
  count_eq := ProxyHeader.count_zero

def received (m : LtepMessage) (domainIndex : Nat) : APPReceiveParam :=
  let p : APPReceiveParam := default
  { p with
    srcAddr := { p.srcAddr with dmn := { p.srcAddr.dmn with domainIndex := domainIndex } }
    service := .acknowledged
    pduSize := m.bytes.length + 1 }

def image (m : LtepMessage) : Image := fun k => m.bytes.getD k 0

theorem holds_image (m : LtepMessage) {domainIndex : Nat} (h : domainIndex ≤ FLEX_DOMAIN) :
    (m.received domainIndex).HoldsLtep m.image m where
  bytes := by
    refine List.ext_getElem (Image.length_slice _ _ _) fun k hk hk' => ?_
    simp only [Image.slice, List.getElem_map, List.getElem_range, Nat.zero_add, image]
    rw [List.getD_eq_getElem?_getD, List.getElem?_eq_getElem hk', Option.getD_some]
  size := rfl
  domain := h

end LtepMessage

namespace ProxyStackData

def inSubnetThree : ProxyStackData where
  toAppStackData :=
    { AppStackData.oneOutput with
      mem := fun a => if a = EEPROM.domainTable + IzotDomain.subnetOffset then 3 else 0 }
  proxyBufferWait := default

def noUninit : LtepUninit := ⟨(.replicate 6 0, .replicate 6 0), fun _ => 0⟩

theorem relaysOneHop_iff_twoRepeaters :
    inSubnetThree.Queues
      (inSubnetThree.processLTEP (LtepMessage.twoRepeaters.received 0)
        LtepMessage.twoRepeaters.image 0 noUninit).2.toAppStackData false
      (inSubnetThree.takes false
        (inSubnetThree.copyOf (LtepMessage.twoRepeaters.received 0) LtepMessage.twoRepeaters.image
          LtepMessage.twoRepeaters)
        (LtepMessage.twoRepeaters.next .acknowledged
          (inSubnetThree.place (LtepMessage.twoRepeaters.received 0))))
      (LtepMessage.twoRepeaters.next .acknowledged
        (inSubnetThree.place (LtepMessage.twoRepeaters.received 0))) :=
  (relaysOneHop_iff inSubnetThree (LtepMessage.twoRepeaters.holds_image (by decide)) 0 noUninit).mpr
    ⟨by decide +kernel, nofun⟩

theorem not_relaysOneHop :
    ¬∀ (gp : ProxyStackData) (p : APPReceiveParam) (pData : Image) (m : LtepMessage)
      (tickCount : UInt32) (uninit : LtepUninit), p.HoldsLtep pData m →
      gp.HasSlotFor p.priority 0 (m.next p.service (gp.place p)) → m.header.allAgents = false →
      gp.Queues (gp.processLTEP p pData tickCount uninit).2.toAppStackData p.priority 0
        (m.next p.service (gp.place p)) := by
  intro hall
  have hqueues := hall inSubnetThree (LtepMessage.toOwnSubnet.received 2)
    LtepMessage.toOwnSubnet.image LtepMessage.toOwnSubnet 0 noUninit
    (LtepMessage.toOwnSubnet.holds_image (by decide)) (by decide +kernel) (by decide)
  obtain ⟨xs, x, hxs, hlen, hx⟩ := hqueues.2 (by decide)
  have hsent : ((inSubnetThree.processLTEP (LtepMessage.toOwnSubnet.received 2)
      LtepMessage.toOwnSubnet.image 0 noUninit).2.tsaOutQ false).toList.getLast?.map
        (fun x => x.destAddr.netAddr.toOption) ≠
      some (some (LtepMessage.toOwnSubnet.next .acknowledged
        (inSubnetThree.place (LtepMessage.toOwnSubnet.received 2))).dest) := by
    decide +kernel
  refine hsent ?_
  have hlast := congrArg List.getLast? hxs
  rw [List.getLast?_concat] at hlast
  refine (congrArg (Option.map fun x => x.destAddr.netAddr.toOption) hlast).trans ?_
  exact congrArg (some ·.toOption) hx.dest.dest

end ProxyStackData

end LonStack
