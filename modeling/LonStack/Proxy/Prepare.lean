import LonStack.Proxy.Message

namespace LonStack

open Lib

variable {gp : ProxyStackData} {p : APPReceiveParam} {pData buffer : Image} {m : LtepMessage}
  {uninit : LtepUninit} {place : LtepPlace} {service : ServiceType} {s : LtepSend}
  {f : LtepForward} {a : RepeaterAddress} {rest : List RepeaterAddress}

theorem RepeaterAddress.length_bytes {uniform : Nat} (h : uniform = 1 ∨ uniform = 0)
    (a : RepeaterAddress) : (a.bytes uniform).length = 2 - uniform := by
  rcases h with rfl | rfl <;> rfl

theorem RepeaterAddress.length_flatMap_bytes {uniform : Nat} (h : uniform = 1 ∨ uniform = 0)
    (as : List RepeaterAddress) :
    (as.flatMap (RepeaterAddress.bytes uniform)).length = (2 - uniform) * as.length := by
  induction as with
  | nil => rfl
  | cons a as ih =>
    rw [List.flatMap_cons, List.length_append, length_bytes h, ih, List.length_cons, Nat.mul_succ,
      Nat.add_comm]

theorem TargetAddress.length_bytes (t : TargetAddress) :
    3 + t.bytes.length = addrSizeTable t.type := by
  cases t with
  | neuronId => rw [bytes, List.length_cons, Vector.length_toList]; rfl
  | neuronIdCompact => rw [bytes, Vector.length_toList]; rfl
  | _ => rfl

theorem ltepDomain_lt (h : p.srcAddr.dmn.domainIndex ≤ FLEX_DOMAIN) :
    ProxyStackData.ltepDomain p < 2 := by
  unfold ProxyStackData.ltepDomain
  split
  next => decide
  next hne => exact Nat.lt_of_le_of_ne h hne

namespace LtepSend

variable {d : Nat} {txc : ProxyTxCtrl}

theorem domain_addr (hd : d < 2) : (s.addr d).domain = d := by
  have hall : ∀ d < 2, ∀ b < 256,
      (((UInt8.ofNat d <<< 7 ||| (UInt8.ofNat b &&& 0x7F)) &&& 0x80) >>> 7).toNat = d := by
    decide +kernel
  exact forall_byte (P := fun b => (((UInt8.ofNat d <<< 7 ||| (b &&& 0x7F)) &&& 0x80) >>> 7).toNat = d)
    (fun n => hall d hd n n.isLt) s.node

theorem node_addr (hd : d < 2) :
    (s.addr d).node = s.node &&& 0x7F ∧ (s.addr d).backlog = (s.node &&& 0x3F).toNat := by
  have hall : ∀ d < 2, ∀ b < 256,
      (UInt8.ofNat d <<< 7 ||| (UInt8.ofNat b &&& 0x7F)) &&& 0x7F = UInt8.ofNat b &&& 0x7F ∧
        ((UInt8.ofNat d <<< 7 ||| (UInt8.ofNat b &&& 0x7F)) &&& 0x3F).toNat =
          (UInt8.ofNat b &&& 0x3F).toNat := by
    decide +kernel
  exact forall_byte (P := fun b =>
    (UInt8.ofNat d <<< 7 ||| (b &&& 0x7F)) &&& 0x7F = b &&& 0x7F ∧
      ((UInt8.ofNat d <<< 7 ||| (b &&& 0x7F)) &&& 0x3F).toNat = (b &&& 0x3F).toNat)
    (fun n => hall d hd n n.isLt) s.node

theorem times_addr (htimer : s.txTimer = txc.timer) (hretry : s.retry = txc.retry) :
    (s.addr d).transmitTimer = txc.timer.toNat ∧ (s.addr d).repeatTimer = txc.timer.toNat ∧
      (s.addr d).retry = txc.retry.toNat := by
  have hall : ∀ b < 256, ∀ long : Bool,
      (((if long then 0x10 else 0) ||| (UInt8.ofNat b &&& 0x0F)) &&& 0x0F).toNat =
          (UInt8.ofNat b &&& 0x0F).toNat ∧
        ((((UInt8.ofNat b &&& 0x0F) <<< 4 ||| UInt8.ofNat b >>> 4) &&& 0xF0) >>> 4).toNat =
          (UInt8.ofNat b &&& 0x0F).toNat ∧
        (((UInt8.ofNat b &&& 0x0F) <<< 4 ||| UInt8.ofNat b >>> 4) &&& 0x0F).toNat =
          (UInt8.ofNat b >>> 4).toNat := by
    decide +kernel
  have htxc := forall_byte (P := fun b => ∀ long : Bool,
      (((if long then 0x10 else 0) ||| (b &&& 0x0F)) &&& 0x0F).toNat = (b &&& 0x0F).toNat ∧
        ((((b &&& 0x0F) <<< 4 ||| b >>> 4) &&& 0xF0) >>> 4).toNat = (b &&& 0x0F).toNat ∧
        (((b &&& 0x0F) <<< 4 ||| b >>> 4) &&& 0x0F).toNat = (b >>> 4).toNat) (fun n => hall n n.isLt)
    txc.byte s.longTimer
  unfold addr SendAddress.transmitTimer SendAddress.repeatTimer SendAddress.retry
  rw [htimer, hretry]
  exact htxc

theorem leads_of_netAddr (hd : f.domain < 2) (hdest : (s.addr f.domain).netAddr = .ok f.dest)
    (hgroup : ∀ groupId, f.dest = .multicast groupId → (s.addr f.domain).groupSize = f.groupSize)
    (hbroadcast : ∀ subnet, f.dest = .broadcast subnet → (s.addr f.domain).backlog = f.backlog)
    (htimer : s.txTimer = txc.timer) (hretry : s.retry = txc.retry)
    (hf : f.timer = txc.timer.toNat ∧ f.retry = txc.retry.toNat) : (s.addr f.domain).Leads f where
  dest := hdest
  domain := domain_addr hd
  groupSize := hgroup
  backlog := hbroadcast
  transmitTimer := (times_addr htimer hretry).1.trans hf.1.symm
  repeatTimer := (times_addr htimer hretry).2.1.trans hf.1.symm
  retry := (times_addr htimer hretry).2.2.trans hf.2.symm

theorem netAddr_subnetNode (hd : d < 2) (htype : s.addressType = AM_SUBNET_NODE) :
    (s.addr d).netAddr =
      .ok (.subnetNode ((SubnetNode.mk s.subnet (s.node &&& 0x7F)).setSelField true)) := by
  have htype' : (s.addr d).typeSize = 1 := htype
  have hgroup : (s.addr d).groupType = false := by
    rw [SendAddress.groupType, htype']
    rfl
  have hzero : ¬(s.addr d).typeSize = 0 := by
    rw [htype']
    decide
  rw [SendAddress.netAddr, hgroup, if_neg Bool.false_ne_true, if_neg hzero, if_pos htype',
    (node_addr hd).1]
  rfl

theorem netAddr_uniqueNodeId (htype : s.addressType = 2) :
    (s.addr d).netAddr = .ok (.uniqueNodeId s.subnet s.neuronId) := by
  have htype' : (s.addr d).typeSize = 2 := htype
  rw [SendAddress.netAddr, SendAddress.groupType, htype']
  rfl

theorem netAddr_broadcast (htype : s.addressType = 3) :
    (s.addr d).netAddr = .ok (.broadcast s.subnet) := by
  have htype' : (s.addr d).typeSize = 3 := htype
  rw [SendAddress.netAddr, SendAddress.groupType, htype']
  rfl

theorem netAddr_group {b : UInt8} (htype : s.addressType = 0x80 ||| b) :
    (s.addr d).netAddr = .ok (.multicast s.subnet) ∧
      (s.addr d).groupSize = (b &&& 0x7F).toNat := by
  have hall : ((0x80 : UInt8) ||| b) &&& 0x80 ≠ 0 ∧
      (((0x80 : UInt8) ||| b) &&& 0x7F).toNat = (b &&& 0x7F).toNat :=
    forall_byte (P := fun c => ((0x80 : UInt8) ||| c) &&& 0x80 ≠ 0 ∧
      (((0x80 : UInt8) ||| c) &&& 0x7F).toNat = (c &&& 0x7F).toNat) (by decide +kernel) b
  have htype' : (s.addr d).typeSize = 0x80 ||| b := htype
  have hgroup : (s.addr d).groupType = true := by
    rw [SendAddress.groupType, htype']
    exact decide_eq_true hall.1
  rw [SendAddress.netAddr, hgroup, SendAddress.groupSize, htype']
  exact ⟨rfl, hall.2⟩

end LtepSend

structure LtepSend.Prepares (s : LtepSend) (p : APPReceiveParam) (buffer : Image)
    (f : LtepForward) : Prop where
  service : s.service = f.service
  addr : (s.addr f.domain).Leads f
  domain : f.domain = ProxyStackData.ltepDomain p
  alt : s.alt = f.alt
  code : s.code = f.code
  enough : 4 ≤ p.pduSize - 1
  offset : s.offset + f.data.length = p.pduSize - 1
  data : buffer.Contains s.offset f.data

theorem AgentPart.length_bytes (agent : AgentPart) :
    agent.bytes.length =
      2 + agent.keyBytes.length + agent.address.bytes.length + (agent.data.length + 1) := by
  simp only [AgentPart.bytes, List.length_append, List.length_cons, List.length_nil]

theorem AgentPart.four_le (agent : AgentPart) : 4 ≤ agent.bytes.length := by
  have hlen := agent.length_bytes
  have hpos : 1 ≤ agent.address.bytes.length := by
    have hlength := agent.address.length_bytes
    cases haddr : agent.address with
    | neuronId => simp only [TargetAddress.bytes, List.length_cons]; omega
    | neuronIdCompact => simp only [TargetAddress.bytes, Vector.length_toList]; omega
    | _ => simp only [TargetAddress.bytes, List.length_cons]; omega
  omega

def LtepMessage.front (m : LtepMessage) (a : RepeaterAddress) (rest : List RepeaterAddress) :
    List UInt8 :=
  m.header.byte :: a.bytes m.header.uniform ++ if rest = [] then [m.txCtrl.byte] else []

theorem LtepMessage.bytes_eq (hm : m.repeaters = a :: rest) :
    m.bytes = m.front a rest ++ (m.restBytes rest).tail := by
  rw [LtepMessage.bytes, hm, LtepMessage.front, LtepMessage.restBytes, if_neg (List.cons_ne_nil a rest)]
  cases rest with
  | nil => simp only [List.flatMap_cons, List.flatMap_nil, List.append_nil, List.cons_append,
      List.tail_cons, if_true, List.nil_append, List.append_assoc]
  | cons => simp only [List.flatMap_cons, List.cons_append, List.tail_cons, List.append_nil, reduceCtorEq,
      if_false, List.append_assoc]

theorem count_of_cons (hm : m.repeaters = a :: rest) : m.header.count = rest.length + 1 := by
  rw [m.count_eq, hm, List.length_cons]

theorem length_front (hm : m.repeaters = a :: rest) :
    (m.front a rest).length =
      2 - m.header.uniform + (if m.header.count - 1 = 0 then 1 else 0) + 1 := by
  have hlen := a.length_bytes m.header.uniform_cases
  have hcount : m.header.count - 1 = 0 ↔ rest = [] := by
    rw [count_of_cons hm, Nat.add_sub_cancel, List.length_eq_zero_iff]
  rw [LtepMessage.front, List.length_append, List.length_cons, hlen]
  by_cases hrest : rest = []
  case pos => rw [if_pos hrest, if_pos (hcount.mpr hrest), List.length_singleton]
  case neg => rw [if_neg hrest, if_neg (hcount.not.mpr hrest), List.length_nil]

theorem header_eq (h : p.HoldsLtep pData m) : ProxyHeader.mk (pData 0) = m.header := by
  have hbytes := h.bytes
  rw [LtepMessage.bytes, List.append_assoc, List.cons_append, Image.contains_cons] at hbytes
  exact congrArg ProxyHeader.mk hbytes.1

theorem holds_repeater (h : p.HoldsLtep pData m) (hm : m.repeaters = a :: rest) :
    (ProxyHeader.mk (pData 0)) = m.header ∧ pData.Contains 1 (a.bytes m.header.uniform) ∧
      pData m.header.txcpos = m.txCtrl.byte := by
  have hbytes := h.bytes
  have hlen := RepeaterAddress.length_flatMap_bytes m.header.uniform_cases m.repeaters
  have hne : m.repeaters ≠ [] := by
    rw [hm]
    exact List.cons_ne_nil a rest
  rw [LtepMessage.bytes, if_neg hne, Image.contains_append, Image.contains_append,
    Image.contains_cons, Image.contains_cons, List.length_cons, hlen] at hbytes
  obtain ⟨⟨⟨hheader, haddresses⟩, htx, -⟩, -⟩ := hbytes
  rw [hm, List.flatMap_cons, Image.contains_append] at haddresses
  refine ⟨congrArg ProxyHeader.mk hheader, haddresses.1, ?_⟩
  rw [ProxyHeader.txcpos, m.count_eq]
  exact (congrArg pData (by omega)).trans htx

theorem ProxyNode.node_and (pa : ProxyNode) : pa.node &&& 0x7F = pa.node :=
  forall_byte (P := fun b => b &&& 0x7F &&& 0x7F = b &&& 0x7F) (by decide +kernel) pa.byte

theorem contains_repeater {uniform : Nat} (huniform : uniform = 1 ∨ uniform = 0)
    (h : pData.Contains 1 (a.bytes uniform)) :
    pData (2 - uniform) = a.node.byte ∧ (uniform = 0 → pData 1 = a.subnet) := by
  rcases huniform with rfl | rfl
  · exact ⟨(Image.contains_cons.mp h).1, nofun⟩
  · obtain ⟨hsubnet, hrest⟩ := Image.contains_cons.mp h
    exact ⟨(Image.contains_cons.mp hrest).1, fun _ => hsubnet⟩

theorem uniform_eq_one_iff (ph : ProxyHeader) :
    ph.uniform = 1 ↔ ph.uniformBySrc = true ∨ ph.uniformByDest = true := by
  rw [ProxyHeader.uniform, ← Bool.or_eq_true]
  split
  next htrue => exact iff_of_true rfl htrue
  next hfalse => exact iff_of_false Nat.zero_ne_one hfalse

theorem subnet_repeat (h : p.HoldsLtep pData m) (hm : m.repeaters = a :: rest) :
    (gp.ltepRepeat p pData uninit).subnet =
      m.subnetOf (gp.readPlace p) a := by
  obtain ⟨hheader, haddress, -⟩ := holds_repeater h hm
  obtain ⟨-, hsubnet⟩ := contains_repeater m.header.uniform_cases haddress
  have huniform := uniform_eq_one_iff m.header
  unfold ProxyStackData.ltepRepeat LtepMessage.subnetOf
  rw [hheader]
  dsimp only
  by_cases hsrc : m.header.uniformBySrc = true
  case pos => rw [if_pos (huniform.mpr (.inl hsrc)), if_pos hsrc, if_pos hsrc]; rfl
  case neg =>
    rw [if_neg hsrc, if_neg hsrc]
    by_cases hdest : m.header.uniformByDest = true
    case pos => rw [if_pos (huniform.mpr (.inr hdest)), if_pos hdest]; rfl
    case neg =>
      have hnot : ¬m.header.uniform = 1 := fun hone => (huniform.mp hone).elim hsrc hdest
      rw [if_neg hnot, if_neg hdest]
      exact hsubnet (m.header.uniform_cases.resolve_left hnot)

theorem prepares_repeat (h : p.HoldsLtep pData m) (hm : m.repeaters = a :: rest) :
    (gp.ltepRepeat p pData uninit).Prepares p (gp.ltepRewritten p pData uninit)
      (m.hop p.service (gp.readPlace p) a rest) := by
  obtain ⟨hheader, haddress, htx⟩ := holds_repeater h hm
  obtain ⟨hnode, -⟩ := contains_repeater m.header.uniform_cases haddress
  have hcount := count_of_cons hm
  have hbytes := m.bytes_eq hm
  have hdecrement := m.header.decrement_eq (by omega)
  rw [hcount, Nat.add_sub_cancel] at hdecrement
  have hsize := h.size
  have hd := ltepDomain_lt h.domain
  have hsubnet := @subnet_repeat gp p pData m uninit a rest h hm
  have hoffset : (gp.ltepRepeat p pData uninit).offset + 1 = (m.front a rest).length := by
    rw [length_front hm, ProxyStackData.ltepRepeat, hheader]
  have hnode' : (gp.ltepRepeat p pData uninit).node = a.node.node := by
    rw [ProxyStackData.ltepRepeat, hheader, hnode]
  have htimer : (gp.ltepRepeat p pData uninit).txTimer = m.txCtrl.timer := by
    rw [ProxyStackData.ltepRepeat, hheader, htx]
  have hretry : (gp.ltepRepeat p pData uninit).retry = m.txCtrl.retry := by
    rw [ProxyStackData.ltepRepeat, hheader, htx]
  have halt : (gp.ltepRepeat p pData uninit).alt = a.node.path := by
    rw [ProxyStackData.ltepRepeat, hheader, hnode]
  have hlength : m.bytes.length = (m.front a rest).length + (m.restBytes rest).tail.length := by
    rw [hbytes, List.length_append]
  have hrest : (m.restBytes rest).length = (m.restBytes rest).tail.length + 1 := rfl
  have hagent : m.agent.bytes.length ≤ (m.restBytes rest).tail.length := by
    unfold LtepMessage.restBytes
    rw [List.cons_append, List.cons_append, List.tail_cons, List.length_append]
    exact Nat.le_add_left _ _
  have hfour := m.agent.four_le
  have hcontains := h.bytes
  rw [hbytes, Image.contains_append, ← hoffset, Nat.zero_add] at hcontains
  refine
    { service := rfl
      addr := LtepSend.leads_of_netAddr hd ?_ nofun nofun htimer hretry ⟨rfl, rfl⟩
      domain := rfl
      alt := halt
      code := rfl
      enough := ?_
      offset := ?_
      data := ?_ }
  · exact (LtepSend.netAddr_subnetNode hd rfl).trans (by rw [hsubnet, hnode', ProxyNode.node_and]; rfl)
  · omega
  · change _ + (m.restBytes rest).length = _
    omega
  · refine Image.contains_cons.mpr ⟨?_, hcontains.2.congr fun k _ => Image.set_of_ne (by omega)⟩
    rw [ProxyStackData.ltepRewritten, hheader, hdecrement]
    exact Image.set_self _

theorem holds_agent (h : p.HoldsLtep pData m) (hm : m.repeaters = []) :
    (ProxyHeader.mk (pData 0)) = m.header ∧ (ProxySicb.mk (pData 1)) = m.agent.sicb ∧
      (ProxyTxCtrl.mk (pData 2)) = m.agent.txCtrl ∧ pData.Contains 3 m.agent.keyBytes ∧
      pData.Contains (3 + m.agent.keyBytes.length) m.agent.address.bytes ∧
      pData.Contains (3 + m.agent.keyBytes.length + m.agent.address.bytes.length)
        (m.agent.code :: m.agent.data) := by
  have hbytes := h.bytes
  rw [LtepMessage.bytes, hm, if_pos rfl, List.flatMap_nil, List.append_nil, Image.contains_append,
    AgentPart.bytes, Image.contains_append, Image.contains_append, Image.contains_append,
    Image.contains_cons, Image.contains_cons, Image.contains_cons] at hbytes
  obtain ⟨⟨hheader, -⟩, ⟨⟨⟨hsicb, htx, -⟩, hkey⟩, haddress⟩, hdata⟩ := hbytes
  rw [List.length_append, ← Nat.add_assoc] at haddress
  rw [List.length_append, List.length_append, ← Nat.add_assoc, ← Nat.add_assoc] at hdata
  exact ⟨congrArg _ hheader, congrArg _ hsicb, congrArg _ htx, hkey, haddress, hdata⟩

theorem keySize_eq (agent : AgentPart) {i : Nat} (hkey : pData.Contains i agent.keyBytes) :
    (if decide (agent.sicb.mode = PROXY_AGENT_MODE_ALTKEY) = true then 1 + altKeyLength (pData i)
      else 0) = agent.keyBytes.length := by
  have hisSome := agent.key_isSome
  rw [← hisSome]
  unfold AgentPart.keyBytes at hkey ⊢
  cases hk : agent.key with
  | none => rfl
  | some k =>
    rw [hk] at hkey
    have htype : pData i = k.type := (Image.contains_cons.mp hkey).1
    rw [Option.isSome_some, if_pos rfl, htype, ← k.length_eq, Option.elim_some, List.length_cons,
      Nat.add_comm]

theorem ofFn_eq_of_contains {i : Nat} {nid : UniqueId} (h : pData.Contains i nid.toList) :
    Vector.ofFn (fun k : Fin 6 => pData (i + k)) = nid := by
  refine Vector.ext fun k hk => ?_
  have hlength : k < nid.toList.length := by rwa [Vector.length_toList]
  rw [Vector.getElem_ofFn, h.getElem hlength, Vector.getElem_toList]

structure LtepSend.ReadsAddress (s : LtepSend) (type : Nat) (pData : Image) (pAddress : Nat)
    (src own : UInt8) : Prop where
  addressType : s.addressType =
    if type = PX_GROUP then (0x80 : UInt8) ||| pData (pAddress + 1)
    else if type = PX_GROUP_COMPACT then 0x80
    else if type = PX_SUBNET_NODE_COMPACT_DEST then AM_SUBNET_NODE
    else .ofNat (type % 4)
  subnet : s.subnet =
    if type = PX_NEURON_ID_COMPACT then 0
    else if type = PX_SUBNET_NODE_COMPACT_SRC then src
    else if type = PX_SUBNET_NODE_COMPACT_DEST then own
    else pData pAddress
  node : s.node =
    if type = PX_SUBNET_NODE_COMPACT_SRC ∨ type = PX_SUBNET_NODE_COMPACT_DEST then
      (ProxyNode.mk (pData pAddress)).node
    else if type = PX_SUBNET_NODE then (ProxyNode.mk (pData (pAddress + 1))).node
    else if type = PX_BROADCAST then pData (pAddress + 1)
    else 0
  neuronId : s.neuronId =
    if type = PX_NEURON_ID then .ofFn fun k => pData (pAddress + 1 + k)
    else if type = PX_NEURON_ID_COMPACT then .ofFn fun k => pData (pAddress + k)
    else .replicate 6 0

theorem reads_agent (h : p.HoldsLtep pData m) (hm : m.repeaters = []) :
    (gp.ltepAgent p pData uninit).ReadsAddress m.agent.address.type pData
      (3 + m.agent.keyBytes.length) p.srcAddr.subnetAddr.subnet (gp.dstSubnet p) := by
  obtain ⟨-, hsicb, -, hkey, -, -⟩ := holds_agent h hm
  have hsize := keySize_eq m.agent hkey
  have htype := m.agent.type_eq
  constructor <;>
    · unfold ProxyStackData.ltepAgent
      dsimp only
      rw [hsicb, hsize, htype]

theorem LtepSend.ReadsAddress.dest {t : TargetAddress} {d pAddress : Nat} {src own : UInt8}
    (h : s.ReadsAddress t.type pData pAddress src own) (hbytes : pData.Contains pAddress t.bytes)
    (hd : d < 2) :
    (s.addr d).netAddr = .ok (t.dest src own) ∧
      (∀ groupId, t.dest src own = .multicast groupId → (s.addr d).groupSize = t.groupSize) ∧
      ∀ subnet, t.dest src own = .broadcast subnet → (s.addr d).backlog = t.backlog := by
  obtain ⟨hmode, hsubnet, hnode, hneuronId⟩ := h
  cases t with
  | group groupId size =>
    obtain ⟨hgroup, hrest⟩ := Image.contains_cons.mp hbytes
    obtain ⟨hsize, -⟩ := Image.contains_cons.mp hrest
    obtain ⟨haddr, hgroupSize⟩ := LtepSend.netAddr_group (d := d) (hmode.trans (by rw [hsize]; rfl))
    refine ⟨haddr.trans ?_, fun _ _ => hgroupSize, nofun⟩
    rw [hsubnet]
    exact congrArg (fun b => Except.ok (NetAddr.multicast b)) hgroup
  | subnetNode subnet node =>
    obtain ⟨hsub, hrest⟩ := Image.contains_cons.mp hbytes
    obtain ⟨hpa, -⟩ := Image.contains_cons.mp hrest
    have hs : s.subnet = subnet := hsubnet.trans hsub
    have hn : s.node = node.node := hnode.trans (congrArg (fun b => (ProxyNode.mk b).node) hpa)
    refine ⟨(LtepSend.netAddr_subnetNode hd hmode).trans ?_, nofun, nofun⟩
    rw [hs, hn, ProxyNode.node_and]
    rfl
  | neuronId subnet nid =>
    obtain ⟨hsub, hnid⟩ := Image.contains_cons.mp hbytes
    have hs : s.subnet = subnet := hsubnet.trans hsub
    have hn : s.neuronId = nid := hneuronId.trans (ofFn_eq_of_contains hnid)
    refine ⟨(LtepSend.netAddr_uniqueNodeId hmode).trans ?_, nofun, nofun⟩
    rw [hs, hn]
    rfl
  | broadcast subnet backlog =>
    obtain ⟨hsub, hrest⟩ := Image.contains_cons.mp hbytes
    obtain ⟨hbacklog, -⟩ := Image.contains_cons.mp hrest
    have hs : s.subnet = subnet := hsubnet.trans hsub
    have hn : s.node = backlog := hnode.trans hbacklog
    refine ⟨(LtepSend.netAddr_broadcast hmode).trans ?_, nofun, fun _ _ => ?_⟩
    · rw [hs]
      rfl
    · rw [(LtepSend.node_addr hd).2, hn]
      rfl
  | groupCompact groupId =>
    obtain ⟨hgroup, -⟩ := Image.contains_cons.mp hbytes
    obtain ⟨haddr, hgroupSize⟩ := LtepSend.netAddr_group (d := d) (b := 0) hmode
    have hs : s.subnet = groupId := hsubnet.trans hgroup
    refine ⟨haddr.trans ?_, fun _ _ => hgroupSize, nofun⟩
    rw [hs]
    rfl
  | subnetNodeSrc node =>
    obtain ⟨hpa, -⟩ := Image.contains_cons.mp hbytes
    have hs : s.subnet = src := hsubnet
    have hn : s.node = node.node := hnode.trans (congrArg (fun b => (ProxyNode.mk b).node) hpa)
    refine ⟨(LtepSend.netAddr_subnetNode hd (hmode.trans (by simp [TargetAddress.type]; rfl))).trans ?_, nofun, nofun⟩
    rw [hs, hn, ProxyNode.node_and]
    rfl
  | neuronIdCompact nid =>
    have hs : s.subnet = 0 := hsubnet
    have hn : s.neuronId = nid := hneuronId.trans (ofFn_eq_of_contains hbytes)
    refine ⟨(LtepSend.netAddr_uniqueNodeId (hmode.trans (by simp [TargetAddress.type]; rfl))).trans ?_, nofun, nofun⟩
    rw [hs, hn]
    rfl
  | subnetNodeDest node =>
    obtain ⟨hpa, -⟩ := Image.contains_cons.mp hbytes
    have hs : s.subnet = own := hsubnet
    have hn : s.node = node.node := hnode.trans (congrArg (fun b => (ProxyNode.mk b).node) hpa)
    refine ⟨(LtepSend.netAddr_subnetNode hd hmode).trans ?_, nofun, nofun⟩
    rw [hs, hn, ProxyNode.node_and]
    rfl

theorem prepares_agent (h : p.HoldsLtep pData m) (hm : m.repeaters = []) :
    (gp.ltepAgent p pData uninit).Prepares p pData (m.agent.target (gp.readPlace p)) := by
  obtain ⟨-, hsicb, htx, hkey, haddress, hdata⟩ := holds_agent h hm
  obtain ⟨hcode, hdata⟩ := Image.contains_cons.mp hdata
  have hkeySize := keySize_eq m.agent hkey
  have htype := m.agent.type_eq
  have hlength := m.agent.address.length_bytes
  have hsize : p.pduSize = m.agent.bytes.length + 2 := by
    rw [h.size, LtepMessage.bytes, hm, if_pos rfl, List.flatMap_nil, List.append_nil,
      List.length_append, List.length_singleton]
    omega
  have hagent := m.agent.length_bytes
  have hfour := m.agent.four_le
  have hd := ltepDomain_lt h.domain
  have htimer : (gp.ltepAgent p pData uninit).txTimer = m.agent.txCtrl.timer :=
    congrArg ProxyTxCtrl.timer htx
  have hretry : (gp.ltepAgent p pData uninit).retry = m.agent.txCtrl.retry :=
    congrArg ProxyTxCtrl.retry htx
  have hoffset : (gp.ltepAgent p pData uninit).offset =
      3 + m.agent.keyBytes.length + m.agent.address.bytes.length + 1 := by
    unfold ProxyStackData.ltepAgent
    dsimp only
    rw [hsicb, hkeySize, htype, ← hlength]
    omega
  have hcode' : (gp.ltepAgent p pData uninit).code = m.agent.code := by
    unfold ProxyStackData.ltepAgent
    dsimp only
    rw [hsicb, hkeySize, htype, ← hlength, ← hcode]
    exact congrArg pData (by omega)
  obtain ⟨hnetAddr, hgroup, hbroadcast⟩ :=
    (@reads_agent gp p pData m uninit h hm).dest haddress hd
  exact
    { service := congrArg ProxySicb.service hsicb
      addr := LtepSend.leads_of_netAddr hd hnetAddr hgroup hbroadcast htimer hretry ⟨rfl, rfl⟩
      domain := rfl
      alt := congrArg ProxySicb.path hsicb
      code := hcode'
      enough := by omega
      offset := by
        change _ + m.agent.data.length = _
        omega
      data := by
        rw [hoffset]
        exact hdata }

end LonStack
