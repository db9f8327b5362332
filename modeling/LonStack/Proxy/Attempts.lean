import LonStack.Lib.Run
import LonStack.Proxy.Relay

namespace LonStack

open Lib

def ltepAgentAt (pData : Image) : Nat :=
  let ph : ProxyHeader := ⟨pData 0⟩
  if ph.count = 0 then 1 else ph.txcpos + 1

def ltepCallsFor (pData : Image) : Nat :=
  let agentAt := ltepAgentAt pData
  let sicb : ProxySicb := ⟨pData agentAt⟩
  let keySize :=
    if sicb.mode = PROXY_AGENT_MODE_ALTKEY then 1 + altKeyLength (pData (agentAt + 2)) else 0
  agentAt + (addrSizeTable sicb.type - 1) + keySize + 1

theorem ltepCallsFor_eq {p : APPReceiveParam} {pData : Image} {m : LtepMessage}
    (h : p.HoldsLtep pData m) : ltepCallsFor pData + m.agent.data.length = m.bytes.length := by
  have hagentAt : ltepAgentAt pData + m.agent.bytes.length = m.bytes.length := by
    unfold ltepAgentAt
    rw [header_eq h]
    by_cases hm : m.repeaters = []
    case pos =>
      have hcount : m.header.count = 0 := by rw [m.count_eq, hm, List.length_nil]
      rw [if_pos hcount, LtepMessage.bytes, hm, if_pos rfl, List.flatMap_nil, List.append_nil,
        List.length_append, List.length_singleton]
    case neg =>
      have hcount : m.header.count ≠ 0 := by rwa [m.count_eq, ne_eq, List.length_eq_zero_iff]
      rw [if_neg hcount, ProxyStackData.length_txcpos hm]
  have hcontains := h.bytes
  rw [LtepMessage.bytes, Image.contains_append, Nat.zero_add] at hcontains
  obtain ⟨-, hagent⟩ := hcontains
  have hfront := hagentAt
  rw [LtepMessage.bytes, List.length_append] at hfront
  rw [← Nat.add_right_cancel hfront, AgentPart.bytes, Image.contains_append,
    Image.contains_append, Image.contains_append, Image.contains_cons] at hagent
  obtain ⟨⟨⟨⟨hsicb, -⟩, hkey⟩, -⟩, -⟩ := hagent
  have hkeySize := keySize_eq m.agent hkey
  have hsicb' : ProxySicb.mk (pData (ltepAgentAt pData)) = m.agent.sicb := congrArg _ hsicb
  have haddress := m.agent.address.length_bytes
  have hlength := m.agent.length_bytes
  unfold ltepCallsFor
  dsimp only
  rw [hsicb', m.agent.type_eq]
  simp only [decide_eq_true_eq, List.length_cons, List.length_nil, Nat.zero_add, Nat.reduceAdd]
    at hkeySize
  omega

structure LtepAttempt where
  gp : ProxyStackData
  tickCount : UInt32
  uninit : LtepUninit

namespace LtepAttempt

variable (x : LtepAttempt) (p : APPReceiveParam) (pData : Image)

def run : (LonStatusCode × Image) × ProxyStackData :=
  x.gp.processLTEP p pData x.tickCount x.uninit

def Defers : Prop := (x.run p pData).1.1 = .noBufferAvailable

def buffer : Image := (x.run p pData).1.2

def effect : LonStatusCode × ProxyStackData := ((x.run p pData).1.1, (x.run p pData).2)

end LtepAttempt

namespace ProxyStackData

def forwarded (gp : ProxyStackData) : (Bool → List NWSendParam) × (Bool → List TSASendParam) :=
  (fun b => (gp.nwOutQ b).toList, fun b => (gp.tsaOutQ b).toList)

def queued (gp : ProxyStackData) :
    ((Bool → List NWSendParam) × (Bool → List TSASendParam)) × List TSASendParam :=
  (gp.forwarded, gp.tsaRespQ.toList)

end ProxyStackData

/-- A message that is deferred is handled later as if it had just arrived, and only the bytes that it
has count. -/
structure APPReceiveParam.HandledAsArrived (p : APPReceiveParam) (pData : Image) : Prop where
  unchanged : ∀ x : LtepAttempt, x.Defers p pData →
    ∀ k < p.pduSize - 1, x.buffer p pData k = pData k
  nothing : ∀ x : LtepAttempt, x.Defers p pData → (x.run p pData).2.queued = x.gp.queued
  later : ∀ (h : List (Image × LtepAttempt)) (pData' : Image),
    Run (fun x b => LtepAttempt.buffer x p b) pData h pData' → (∀ y ∈ h, y.2.Defers p y.1) →
    ∀ x : LtepAttempt, x.effect p pData' = x.effect p pData
  short : p.pduSize - 1 < ltepCallsFor pData →
    ∀ x : LtepAttempt, (x.run p pData).2.forwarded = x.gp.forwarded
  inside : ∀ pData' : Image, (∀ k < p.pduSize - 1, pData' k = pData k) →
    ∀ x : LtepAttempt, (x.run p pData').2.queued = (x.run p pData).2.queued

namespace APPReceiveParam

variable (p : APPReceiveParam) (pData : Image)

/-- A key of 6 bytes for the first of two domains, with less than 6 bytes behind it: the key for the second
domain comes from behind the message. -/
def KeyFromBehind : Prop :=
  let sicb : ProxySicb := ⟨pData 1⟩
  sicb.mode = PROXY_AGENT_MODE_ALTKEY ∧ altKeyLength (pData 3) = 6 ∧
    ProxyStackData.ltepDomain p = 0 ∧ sicb.service ≠ .unacknowledged ∧
    ltepCallsFor pData ≤ p.pduSize - 1 ∧ p.pduSize - 1 < 16

def CopiedForAgents : Prop :=
  let ph : ProxyHeader := ⟨pData 0⟩
  ph.allAgents = true ∧ ph.txcpos + 1 < p.pduSize ∧ p.srcAddr.dmn.domainIndex ≠ FLEX_DOMAIN

def newHeaderAt : Nat :=
  let ph : ProxyHeader := ⟨pData 0⟩
  2 - ph.uniform + if ph.count - 1 = 0 then 1 else 0

def KeepsHeader : Prop :=
  newHeaderAt pData < p.pduSize - 1 → pData (newHeaderAt pData) = (ProxyHeader.mk (pData 0)).decrement.byte

/-- An agent has the first two bytes and no key from behind the message. A repeater has all that the
message calls for, makes no copy and finds the new header in place. -/
def Deferrable : Prop :=
  1 ≤ p.pduSize - 1 ∧
    if (ProxyHeader.mk (pData 0)).count = 0 then 2 ≤ p.pduSize - 1 ∧ ¬p.KeyFromBehind pData
    else p.KeepsHeader pData ∧ ¬p.CopiedForAgents pData ∧
      (ltepCallsFor pData ≤ p.pduSize - 1 ∨ p.pduSize - 1 < 4)

end APPReceiveParam

namespace ProxyStackData

variable {gp : ProxyStackData} {p : APPReceiveParam} {pData pData' buffer buffer' : Image}
  {tickCount : UInt32} {uninit : LtepUninit} {s s' : LtepSend} {proxyCount : UInt8}

theorem queued_of_deferred
    (h : (gp.ltepSend p tickCount s proxyCount buffer).1 = .noBufferAvailable) :
    (gp.ltepSend p tickCount s proxyCount buffer).2.queued = gp.queued := by
  unfold ltepSend at h ⊢
  dsimp only at h ⊢
  split at h
  next hfull =>
    rw [if_pos hfull]
    split at h
    next => cases h
    next hexpired =>
      rw [if_neg hexpired]
      split
      next => rfl
      next => rfl
  next =>
    split at h <;> cases h

theorem ltepSend_congr (hservice : s.service = s'.service)
    (henough : 4 ≤ p.pduSize - 1 → (s.offset ≤ p.pduSize - 1 ↔ s'.offset ≤ p.pduSize - 1))
    (hforward : 4 ≤ p.pduSize - 1 → s.offset ≤ p.pduSize - 1 → ∀ gp : ProxyStackData,
      gp.ltepForward p s proxyCount (buffer.slice s.offset (p.pduSize - 1 - s.offset)) =
        gp.ltepForward p s' proxyCount (buffer'.slice s'.offset (p.pduSize - 1 - s'.offset))) :
    gp.ltepSend p tickCount s proxyCount buffer = gp.ltepSend p tickCount s' proxyCount buffer' := by
  unfold ltepSend
  rw [hservice]
  dsimp only
  split
  next => rfl
  next =>
    by_cases hfour : 4 ≤ p.pduSize - 1 ∧ s.offset ≤ p.pduSize - 1
    case pos =>
      have hfour' : 4 ≤ p.pduSize - 1 ∧ s'.offset ≤ p.pduSize - 1 :=
        ⟨hfour.1, (henough hfour.1).mp hfour.2⟩
      rw [if_pos hfour, if_pos hfour', hforward hfour.1 hfour.2]
    case neg =>
      rw [if_neg hfour, if_neg fun h => hfour ⟨h.1, (henough h.1).mpr h.2⟩]

theorem forwarded_of_short (h : ¬(4 ≤ p.pduSize - 1 ∧ s.offset ≤ p.pduSize - 1)) :
    (gp.ltepSend p tickCount s proxyCount buffer).2.forwarded = gp.forwarded := by
  unfold ltepSend
  dsimp only
  cases gp.ltepFull p s.service with
  | true =>
    rw [if_pos rfl]
    split
    next => rfl
    next => split <;> rfl
  | false =>
    rw [if_neg Bool.false_ne_true, if_neg h]
    rfl

theorem three_le_addrSizeTable (type : Nat) : 3 ≤ addrSizeTable type := Nat.le_add_right 3 _

theorem offset_ltepAgent (hcount : (ProxyHeader.mk (pData 0)).count = 0) :
    (gp.ltepAgent p pData uninit).offset = ltepCallsFor pData := by
  have hthree := three_le_addrSizeTable (ProxySicb.mk (pData 1)).type
  unfold ltepAgent ltepCallsFor ltepAgentAt
  dsimp only
  rw [if_pos hcount]
  simp only [decide_eq_true_eq, Nat.reduceAdd]
  omega

theorem ltepAgent_congr (h : ∀ k < p.pduSize - 1, pData' k = pData k)
    (hfour : 4 ≤ p.pduSize - 1)
    (hoffset : (gp.ltepAgent p pData uninit).offset ≤ p.pduSize - 1) :
    gp.ltepAgent p pData' uninit =
      { gp.ltepAgent p pData uninit with altKey := (gp.ltepAgent p pData' uninit).altKey } := by
  have hone := h 1 (by omega)
  have htwo := h 2 (by omega)
  have hthree := h 3 (by omega)
  unfold ltepAgent at hoffset ⊢
  dsimp only at hoffset ⊢
  rw [hone, htwo, hthree]
  generalize (if (decide ((ProxySicb.mk (pData 1)).mode = PROXY_AGENT_MODE_ALTKEY)) = true then
    1 + altKeyLength (pData 3) else 0) = keySize at *
  generalize (ProxySicb.mk (pData 1)).type = type at *
  -- the code stands behind the address, so the whole address is inside
  have hfirst := h (3 + keySize) (by have := three_le_addrSizeTable type; omega)
  have hcode := h (addrSizeTable type + keySize) (by omega)
  have hsecond (htwo : addrSizeTable type = 5) : pData' (3 + keySize + 1) = pData (3 + keySize + 1) :=
    h _ (by omega)
  have hgroup (htype : type = PX_GROUP) := hsecond (by rw [htype]; rfl)
  have hsubnetNode (htype : type = PX_SUBNET_NODE) := hsecond (by rw [htype]; rfl)
  have hbroadcast (htype : type = PX_BROADCAST) := hsecond (by rw [htype]; rfl)
  have hneuronId (htype : type = PX_NEURON_ID) (k : Fin 6) :
      pData' (3 + keySize + 1 + k) = pData (3 + keySize + 1 + k) := by
    have hsize : addrSizeTable type = 10 := by rw [htype]; rfl
    exact h _ (by omega)
  have hcompact (htype : type = PX_NEURON_ID_COMPACT) (k : Fin 6) :
      pData' (3 + keySize + k) = pData (3 + keySize + k) := by
    have hsize : addrSizeTable type = 9 := by rw [htype]; rfl
    exact h _ (by omega)
  rw [hfirst, hcode]
  congr 1
  · exact ite_congr rfl (fun htype => by rw [hgroup htype]) fun _ => rfl
  · refine ite_congr rfl (fun _ => rfl) fun _ => ite_congr rfl (fun htype => ?_) fun _ =>
      ite_congr rfl (fun htype => hbroadcast htype) fun _ => rfl
    rw [hsubnetNode htype]
  · refine ite_congr rfl (fun htype => congrArg Vector.ofFn (funext (hneuronId htype))) fun _ =>
      ite_congr rfl (fun htype => congrArg Vector.ofFn (funext (hcompact htype))) fun _ => rfl

theorem ltepAltKey_congr {n : Nat} (h : ∀ k < n, pData' k = pData k) (hfirst : 10 ≤ n)
    (hsecond : ltepDomain p = 0 → 16 ≤ n) :
    gp.ltepAltKey p pData' uninit = gp.ltepAltKey p pData uninit := by
  have hkey (hlt : ltepDomain p + 1 < 2) (j : Fin 6) : pData' (10 + j) = pData (10 + j) := by
    have hsixteen := hsecond (by omega)
    exact h _ (by omega)
  unfold ltepAltKey
  dsimp only
  congr 2
  · refine ite_congr rfl (fun _ => congrArg Vector.ofFn (funext fun j => ?_)) fun _ => rfl
    rw [h (4 + j) (by omega)]
  · refine ite_congr rfl (fun hlt => congrArg Vector.ofFn (funext fun j => ?_)) fun _ => rfl
    rw [hkey hlt j]

theorem ltepForward_altKey (hservice : s.service = .unacknowledged) (key : AltKey)
    (data : List UInt8) :
    gp.ltepForward p { s with altKey := key } proxyCount data = gp.ltepForward p s proxyCount data := by
  unfold ltepForward
  dsimp only
  rw [if_pos hservice, if_pos hservice]
  rfl

theorem altKeyLength_cases (pKey : UInt8) : altKeyLength pKey = 6 ∨ altKeyLength pKey = 12 := by
  unfold altKeyLength
  split
  next => exact .inr rfl
  next => exact .inl rfl

theorem ltepSend_agent_congr (hcount : (ProxyHeader.mk (pData 0)).count = 0)
    (htwo : 2 ≤ p.pduSize - 1) (hkey : ¬p.KeyFromBehind pData)
    (h : ∀ k < p.pduSize - 1, pData' k = pData k) :
    gp.ltepSend p tickCount (gp.ltepAgent p pData' uninit) proxyCount pData' =
      gp.ltepSend p tickCount (gp.ltepAgent p pData uninit) proxyCount pData := by
  have hone := h 1 (by omega)
  have hservice : (gp.ltepAgent p pData uninit).service = (gp.ltepAgent p pData' uninit).service := by
    unfold ltepAgent
    dsimp only
    rw [hone]
  have hoffset (hfour : 4 ≤ p.pduSize - 1) :
      (gp.ltepAgent p pData' uninit).offset = (gp.ltepAgent p pData uninit).offset := by
    unfold ltepAgent
    dsimp only
    rw [hone, h 3 (by omega)]
  refine (ltepSend_congr hservice (fun hfour => by rw [hoffset hfour]) fun hfour hle gp' => ?_).symm
  have hagent := ltepAgent_congr h hfour hle
  have hslice : pData'.slice (gp.ltepAgent p pData' uninit).offset
        (p.pduSize - 1 - (gp.ltepAgent p pData' uninit).offset) =
      pData.slice (gp.ltepAgent p pData uninit).offset
        (p.pduSize - 1 - (gp.ltepAgent p pData uninit).offset) := by
    rw [hoffset hfour]
    exact Image.slice_congr fun k hk => h _ (by omega)
  rw [hslice, hagent]
  by_cases hun : (gp.ltepAgent p pData uninit).service = .unacknowledged
  case pos => exact (ltepForward_altKey hun _ _).symm
  case neg =>
    have haltKey : (gp.ltepAgent p pData' uninit).altKey = (gp.ltepAgent p pData uninit).altKey := by
      unfold ltepAgent
      dsimp only
      rw [hone]
      refine ite_congr rfl (fun hmode => ?_) fun _ => rfl
      have hmode := of_decide_eq_true hmode
      rw [offset_ltepAgent hcount] at hle
      have hthree := three_le_addrSizeTable (ProxySicb.mk (pData 1)).type
      have hcallsFor : ltepCallsFor pData =
          1 + (addrSizeTable (ProxySicb.mk (pData 1)).type - 1) + (1 + altKeyLength (pData 3)) + 1 := by
        unfold ltepCallsFor ltepAgentAt
        dsimp only
        rw [if_pos hcount, if_pos hmode]
      have hlength := altKeyLength_cases (pData 3)
      refine ltepAltKey_congr h (by omega) fun hdomain => ?_
      by_contra hlt
      by_cases hsix : altKeyLength (pData 3) = 6
      case pos => exact hkey ⟨hmode, hsix, hdomain, hun, hle, by omega⟩
      case neg => omega
    rw [haltKey]

theorem txcpos_lt_callsFor (hcount : (ProxyHeader.mk (pData 0)).count ≠ 0) :
    (ProxyHeader.mk (pData 0)).txcpos + 1 < ltepCallsFor pData := by
  unfold ltepCallsFor ltepAgentAt
  dsimp only
  rw [if_neg hcount]
  omega

theorem newHeaderAt_le (pData : Image) : APPReceiveParam.newHeaderAt pData ≤ 3 := by
  unfold APPReceiveParam.newHeaderAt
  dsimp only
  split <;> omega

theorem ltepSend_repeat_congr (hone : 1 ≤ p.pduSize - 1)
    (hcount : (ProxyHeader.mk (pData 0)).count ≠ 0)
    (hcalls : ltepCallsFor pData ≤ p.pduSize - 1 ∨ p.pduSize - 1 < 4)
    (h : ∀ k < p.pduSize - 1, pData' k = pData k) :
    gp.ltepSend p tickCount (gp.ltepRepeat p pData' uninit) proxyCount
        (gp.ltepRewritten p pData' uninit) =
      gp.ltepSend p tickCount (gp.ltepRepeat p pData uninit) proxyCount
        (gp.ltepRewritten p pData uninit) := by
  have hheader := h 0 hone
  have hoffset : (gp.ltepRepeat p pData' uninit).offset = (gp.ltepRepeat p pData uninit).offset := by
    unfold ltepRepeat
    dsimp only
    rw [hheader]
  have hservice : (gp.ltepRepeat p pData uninit).service = (gp.ltepRepeat p pData' uninit).service :=
    rfl
  refine (ltepSend_congr hservice (fun _ => by rw [hoffset]) fun hfour hle gp' => ?_).symm
  have htxcpos := txcpos_lt_callsFor hcount
  have hrepeat : gp.ltepRepeat p pData' uninit = gp.ltepRepeat p pData uninit := by
    unfold ltepRepeat
    dsimp only
    rw [hheader, h 1 (by omega), h (2 - (ProxyHeader.mk (pData 0)).uniform) (by omega),
      h (ProxyHeader.mk (pData 0)).txcpos (by omega)]
  have hslice : (gp.ltepRewritten p pData' uninit).slice (gp.ltepRepeat p pData uninit).offset
        (p.pduSize - 1 - (gp.ltepRepeat p pData uninit).offset) =
      (gp.ltepRewritten p pData uninit).slice (gp.ltepRepeat p pData uninit).offset
        (p.pduSize - 1 - (gp.ltepRepeat p pData uninit).offset) := by
    refine Image.slice_congr fun k hk => ?_
    unfold ltepRewritten
    rw [hoffset, hheader]
    by_cases hk0 : k = 0
    case pos => rw [hk0, Nat.add_zero, Image.set_self, Image.set_self]
    case neg =>
      rw [Image.set_of_ne (by omega), Image.set_of_ne (by omega)]
      exact h _ (by omega)
  rw [hrepeat, hslice]

theorem processLTEPOnce_agent (hcount : (ProxyHeader.mk (pData 0)).count = 0) :
    gp.processLTEPOnce p pData tickCount uninit =
      (((gp.ltepSend p tickCount (gp.ltepAgent p pData uninit) 0 pData).1, pData),
        (gp.ltepSend p tickCount (gp.ltepAgent p pData uninit) 0 pData).2) := by
  unfold processLTEPOnce
  dsimp only
  rw [hcount, if_neg (not_not.mpr rfl)]
  rfl

theorem processLTEP_agent (hcount : (ProxyHeader.mk (pData 0)).count = 0) :
    gp.processLTEP p pData tickCount uninit =
      (((gp.ltepSend p tickCount (gp.ltepAgent p pData uninit) 0 pData).1, pData),
        (gp.ltepSend p tickCount (gp.ltepAgent p pData uninit) 0 pData).2) := by
  unfold processLTEP proxyCopied
  dsimp only
  rw [if_neg fun h => h.2 hcount]
  exact processLTEPOnce_agent hcount

theorem proxyCopied_eq (hcopied : ¬p.CopiedForAgents pData) :
    gp.proxyCopied p pData tickCount uninit = gp := by
  unfold proxyCopied processProxyRepeaterAsAgent
  dsimp only
  split
  next hall => exact if_neg fun h => hcopied ⟨hall.1, h⟩
  next => rfl

theorem processLTEPOnce_repeat (hcount : (ProxyHeader.mk (pData 0)).count ≠ 0) :
    gp.processLTEPOnce p pData tickCount uninit =
      (((gp.ltepSend p tickCount (gp.ltepRepeat p pData uninit)
            (.ofNat (ProxyHeader.mk (pData 0)).count) (gp.ltepRewritten p pData uninit)).1,
          gp.ltepRewritten p pData uninit),
        (gp.ltepSend p tickCount (gp.ltepRepeat p pData uninit)
          (.ofNat (ProxyHeader.mk (pData 0)).count) (gp.ltepRewritten p pData uninit)).2) := by
  unfold processLTEPOnce
  dsimp only
  rw [if_pos hcount]

end ProxyStackData

namespace APPReceiveParam

variable {p : APPReceiveParam} {pData pData' : Image}

open ProxyStackData

theorem Deferrable.effect_eq (hsafe : p.Deferrable pData)
    (h : ∀ k < p.pduSize - 1, pData' k = pData k) (x : LtepAttempt) :
    x.effect p pData' = x.effect p pData := by
  obtain ⟨hone, hsafe⟩ := hsafe
  have hheader := h 0 hone
  unfold LtepAttempt.effect LtepAttempt.run
  by_cases hcount : (ProxyHeader.mk (pData 0)).count = 0
  case pos =>
    rw [if_pos hcount] at hsafe
    rw [processLTEP_agent hcount, processLTEP_agent (by rw [hheader]; exact hcount),
      ltepSend_agent_congr hcount hsafe.1 hsafe.2 h]
  case neg =>
    rw [if_neg hcount] at hsafe
    obtain ⟨-, hcopied, hcalls⟩ := hsafe
    have hcopied' : ¬p.CopiedForAgents pData' := by
      unfold CopiedForAgents
      rw [hheader]
      exact hcopied
    unfold processLTEP
    rw [proxyCopied_eq hcopied, proxyCopied_eq hcopied', processLTEPOnce_repeat hcount,
      processLTEPOnce_repeat (by rw [hheader]; exact hcount), hheader,
      ltepSend_repeat_congr hone hcount hcalls h]

theorem Deferrable.buffer_eq (hsafe : p.Deferrable pData) (h : ∀ k < p.pduSize - 1, pData' k = pData k)
    (x : LtepAttempt) : ∀ k < p.pduSize - 1, x.buffer p pData' k = pData k := by
  obtain ⟨hone, hsafe⟩ := hsafe
  have hheader := h 0 hone
  intro k hk
  unfold LtepAttempt.buffer LtepAttempt.run
  by_cases hcount : (ProxyHeader.mk (pData 0)).count = 0
  case pos =>
    rw [processLTEP_agent (by rw [hheader]; exact hcount)]
    exact h k hk
  case neg =>
    rw [if_neg hcount] at hsafe
    obtain ⟨hkeeps, hcopied, -⟩ := hsafe
    have hcopied' : ¬p.CopiedForAgents pData' := by
      unfold CopiedForAgents
      rw [hheader]
      exact hcopied
    unfold processLTEP
    rw [proxyCopied_eq hcopied', processLTEPOnce_repeat (by rw [hheader]; exact hcount)]
    change (pData'.set (newHeaderAt pData') (ProxyHeader.mk (pData' 0)).decrement.byte) k = pData k
    have hat : newHeaderAt pData' = newHeaderAt pData := by
      unfold newHeaderAt
      rw [hheader]
    rw [hat, hheader]
    by_cases hk' : k = newHeaderAt pData
    case pos => rw [hk', Image.set_self, hkeeps (by omega)]
    case neg => exact (Image.set_of_ne hk').trans (h k hk)

theorem Deferrable.nothing (hsafe : p.Deferrable pData) (x : LtepAttempt)
    (hdefers : x.Defers p pData) : (x.run p pData).2.queued = x.gp.queued := by
  obtain ⟨-, hsafe⟩ := hsafe
  unfold LtepAttempt.Defers LtepAttempt.run at hdefers
  unfold LtepAttempt.run
  by_cases hcount : (ProxyHeader.mk (pData 0)).count = 0
  case pos =>
    rw [processLTEP_agent hcount] at hdefers ⊢
    exact queued_of_deferred hdefers
  case neg =>
    rw [if_neg hcount] at hsafe
    obtain ⟨-, hcopied, -⟩ := hsafe
    unfold processLTEP at hdefers ⊢
    rw [proxyCopied_eq hcopied, processLTEPOnce_repeat hcount] at hdefers ⊢
    exact queued_of_deferred hdefers

theorem Deferrable.short (hsafe : p.Deferrable pData) (hcalls : p.pduSize - 1 < ltepCallsFor pData)
    (x : LtepAttempt) : (x.run p pData).2.forwarded = x.gp.forwarded := by
  obtain ⟨-, hsafe⟩ := hsafe
  unfold LtepAttempt.run
  by_cases hcount : (ProxyHeader.mk (pData 0)).count = 0
  case pos =>
    rw [processLTEP_agent hcount]
    refine forwarded_of_short fun h => ?_
    rw [offset_ltepAgent hcount] at h
    omega
  case neg =>
    rw [if_neg hcount] at hsafe
    obtain ⟨-, hcopied, hor⟩ := hsafe
    unfold processLTEP
    rw [proxyCopied_eq hcopied, processLTEPOnce_repeat hcount]
    exact forwarded_of_short fun h => by omega

theorem Deferrable.handledAsArrived (hsafe : p.Deferrable pData) : p.HandledAsArrived pData where
  unchanged x _ := hsafe.buffer_eq (fun _ _ => rfl) x
  nothing := hsafe.nothing
  later h pData' hrun hdefers := hsafe.effect_eq
    (hrun.invariant (I := fun b => ∀ k < p.pduSize - 1, b k = pData k)
      (by intro x b _ hb; exact hsafe.buffer_eq hb x) hdefers fun _ _ => rfl)
  short := hsafe.short
  inside pData' h x := congrArg (fun y : LonStatusCode × ProxyStackData => y.2.queued)
    (hsafe.effect_eq h x)

end APPReceiveParam

end LonStack
