import LonStack.Lib.Contains
import LonStack.PduLaws
import LonStack.Proxy.Ltep

namespace LonStack

open Lib

/-- In a message that is uniform the subnet of a repeater is left out. -/
structure RepeaterAddress where
  subnet : UInt8
  node : ProxyNode
  deriving DecidableEq, Repr

def RepeaterAddress.bytes (uniform : Nat) (a : RepeaterAddress) : List UInt8 :=
  if uniform = 1 then [a.node.byte] else [a.subnet, a.node.byte]

inductive TargetAddress
  | group (groupId size : UInt8)
  | subnetNode (subnet : UInt8) (node : ProxyNode)
  | neuronId (subnet : UInt8) (nid : UniqueId)
  | broadcast (subnet backlog : UInt8)
  | groupCompact (groupId : UInt8)
  | subnetNodeSrc (node : ProxyNode)
  | neuronIdCompact (nid : UniqueId)
  | subnetNodeDest (node : ProxyNode)
  deriving DecidableEq, Repr

namespace TargetAddress

def type : TargetAddress → Nat
  | group .. => PX_GROUP
  | subnetNode .. => PX_SUBNET_NODE
  | neuronId .. => PX_NEURON_ID
  | broadcast .. => PX_BROADCAST
  | groupCompact _ => PX_GROUP_COMPACT
  | subnetNodeSrc _ => PX_SUBNET_NODE_COMPACT_SRC
  | neuronIdCompact _ => PX_NEURON_ID_COMPACT
  | subnetNodeDest _ => PX_SUBNET_NODE_COMPACT_DEST

def bytes : TargetAddress → List UInt8
  | group groupId size => [groupId, size]
  | subnetNode subnet node => [subnet, node.byte]
  | neuronId subnet nid => subnet :: nid.toList
  | broadcast subnet backlog => [subnet, backlog]
  | groupCompact groupId => [groupId]
  | subnetNodeSrc node => [node.byte]
  | neuronIdCompact nid => nid.toList
  | subnetNodeDest node => [node.byte]

def dest (src own : UInt8) : TargetAddress → NetAddr
  | group groupId _ => .multicast groupId
  | subnetNode subnet node => .subnetNode ((SubnetNode.mk subnet node.node).setSelField true)
  | neuronId subnet nid => .uniqueNodeId subnet nid
  | broadcast subnet _ => .broadcast subnet
  | groupCompact groupId => .multicast groupId
  | subnetNodeSrc node => .subnetNode ((SubnetNode.mk src node.node).setSelField true)
  | neuronIdCompact nid => .uniqueNodeId 0 nid
  | subnetNodeDest node => .subnetNode ((SubnetNode.mk own node.node).setSelField true)

end TargetAddress

structure ProxyAuthKey where
  type : UInt8
  key : List UInt8
  length_eq : key.length = altKeyLength type

structure AgentPart where
  sicb : ProxySicb
  txCtrl : ProxyTxCtrl
  key : Option ProxyAuthKey
  address : TargetAddress
  code : UInt8
  data : List UInt8
  type_eq : sicb.type = address.type
  key_isSome : key.isSome = decide (sicb.mode = PROXY_AGENT_MODE_ALTKEY)

namespace AgentPart

variable (a : AgentPart)

def keyBytes : List UInt8 := a.key.elim [] fun k => k.type :: k.key

def bytes : List UInt8 :=
  [a.sicb.byte, a.txCtrl.byte] ++ a.keyBytes ++ a.address.bytes ++ a.code :: a.data

end AgentPart

structure LtepMessage where
  header : ProxyHeader
  repeaters : List RepeaterAddress
  txCtrl : ProxyTxCtrl
  agent : AgentPart
  count_eq : header.count = repeaters.length

namespace LtepMessage

variable (m : LtepMessage)

def bytes : List UInt8 :=
  m.header.byte :: m.repeaters.flatMap (RepeaterAddress.bytes m.header.uniform) ++
    (if m.repeaters = [] then [] else [m.txCtrl.byte]) ++ m.agent.bytes

end LtepMessage

namespace ProxyHeader

def withCount (ph : ProxyHeader) (n : Nat) : ProxyHeader := ⟨(ph.byte &&& 0xF0) ||| UInt8.ofNat n⟩

theorem count_lt (ph : ProxyHeader) : ph.count < 16 :=
  forall_byte (P := fun b => (ProxyHeader.mk b).count < 16) (by decide +kernel) ph.byte

theorem decrement_eq (ph : ProxyHeader) (h : ph.count ≠ 0) :
    ph.decrement = ph.withCount (ph.count - 1) :=
  forall_byte (P := fun b => (ProxyHeader.mk b).count ≠ 0 →
    (ProxyHeader.mk b).decrement = (ProxyHeader.mk b).withCount ((ProxyHeader.mk b).count - 1))
    (by decide +kernel) ph.byte h

theorem or_and (b c mask : UInt8) : (b ||| c) &&& mask = b &&& mask ||| c &&& mask :=
  UInt8.toNat_inj.mp (by simp only [UInt8.toNat_and, UInt8.toNat_or, Nat.and_or_distrib_right])

theorem and_withCount (ph : ProxyHeader) {n : Nat} (hn : n < 16) {mask : UInt8}
    (hmask : 0xF0 &&& mask = mask) : (ph.withCount n).byte &&& mask = ph.byte &&& mask := by
  have hlow : ∀ n < 16, UInt8.ofNat n &&& 0xF0 = 0 := by decide
  have hzero : UInt8.ofNat n &&& mask = 0 := by
    rw [← hmask, ← UInt8.and_assoc, hlow n hn, UInt8.zero_and]
  unfold withCount
  rw [or_and, hzero, UInt8.or_zero, UInt8.and_assoc, hmask]

theorem count_withCount (ph : ProxyHeader) {n : Nat} (hn : n < 16) : (ph.withCount n).count = n := by
  have hlow : ∀ n < 16, (UInt8.ofNat n &&& 0x0F).toNat = n := by decide
  have hflags : (0xF0 : UInt8) &&& 0x0F = 0 := by decide
  unfold count withCount
  rw [or_and, UInt8.and_assoc, hflags, UInt8.and_zero, UInt8.zero_or]
  exact hlow n hn

theorem withCount_flags (ph : ProxyHeader) {n : Nat} (hn : n < 16) :
    (ph.withCount n).count = n ∧ (ph.withCount n).uniformByDest = ph.uniformByDest ∧
      (ph.withCount n).longTimer = ph.longTimer ∧ (ph.withCount n).allAgents = ph.allAgents ∧
      (ph.withCount n).uniformBySrc = ph.uniformBySrc := by
  unfold uniformByDest longTimer allAgents uniformBySrc
  rw [ph.and_withCount hn (by decide), ph.and_withCount hn (by decide),
    ph.and_withCount hn (by decide), ph.and_withCount hn (by decide)]
  exact ⟨ph.count_withCount hn, rfl, rfl, rfl, rfl⟩

theorem uniform_cases (ph : ProxyHeader) : ph.uniform = 1 ∨ ph.uniform = 0 := by
  unfold uniform
  split
  next => exact .inl rfl
  next => exact .inr rfl

end ProxyHeader

structure LtepForward where
  service : ServiceType
  code : UInt8
  data : List UInt8
  domain : Nat
  dest : NetAddr
  groupSize : Nat
  backlog : Nat
  alt : Bool
  timer : Nat
  retry : Nat

structure LtepPlace where
  domain : Nat
  src : UInt8
  own : UInt8

namespace TargetAddress

/-- The size of a group is not sent in the compact form. -/
def groupSize : TargetAddress → Nat
  | group _ size => (size &&& 0x7F).toNat
  | _ => 0

def backlog : TargetAddress → Nat
  | broadcast _ backlog => (backlog &&& 0x3F).toNat
  | _ => 0

end TargetAddress

def AgentPart.target (a : AgentPart) (place : LtepPlace) : LtepForward where
  service := a.sicb.service
  code := a.code
  data := a.data
  domain := place.domain
  dest := a.address.dest place.src place.own
  groupSize := a.address.groupSize
  backlog := a.address.backlog
  alt := a.sicb.path
  timer := a.txCtrl.timer.toNat
  retry := a.txCtrl.retry.toNat

namespace LtepMessage

variable (m : LtepMessage)

def subnetOf (place : LtepPlace) (a : RepeaterAddress) : UInt8 :=
  if m.header.uniformBySrc then place.src else if m.header.uniformByDest then place.own else a.subnet

def restBytes (rest : List RepeaterAddress) : List UInt8 :=
  (m.header.withCount rest.length).byte ::
    rest.flatMap (RepeaterAddress.bytes m.header.uniform) ++
      (if rest = [] then [] else [m.txCtrl.byte]) ++ m.agent.bytes

def hop (service : ServiceType) (place : LtepPlace) (a : RepeaterAddress)
    (rest : List RepeaterAddress) : LtepForward where
  service := service
  code := LT_APDU_ENHANCED_PROXY
  data := m.restBytes rest
  domain := place.domain
  dest := .subnetNode ((SubnetNode.mk (m.subnetOf place a) a.node.node).setSelField true)
  groupSize := 0
  backlog := 0
  alt := a.node.path
  timer := m.txCtrl.timer.toNat
  retry := m.txCtrl.retry.toNat

def next (service : ServiceType) (place : LtepPlace) : LtepForward :=
  match m.repeaters with
  | [] => m.agent.target place
  | a :: rest => m.hop service place a rest

end LtepMessage

structure SendAddress.Leads (a : SendAddress) (f : LtepForward) : Prop where
  dest : a.netAddr = .ok f.dest
  domain : a.domain = f.domain
  groupSize : ∀ groupId, f.dest = .multicast groupId → a.groupSize = f.groupSize
  backlog : ∀ subnet, f.dest = .broadcast subnet → a.backlog = f.backlog
  transmitTimer : a.transmitTimer = f.timer
  repeatTimer : a.repeatTimer = f.timer
  retry : a.retry = f.retry

structure NWSendParam.Carries (x : NWSendParam) (f : LtepForward) : Prop where
  dest : x.destAddr.addr = f.dest
  domain : x.destAddr.dmn.domainIndex = f.domain
  pduType : x.pduType = .apdu
  alt : x.altPath = if f.alt then 1 else 0
  pduSize : x.pduSize = f.data.length + 1
  code : x.pdu.hdr = f.code
  data : x.pdu.data.take f.data.length = f.data

structure TSASendParam.Carries (x : TSASendParam) (f : LtepForward) : Prop where
  dest : x.destAddr.Leads f
  service : x.service = f.service
  altPathOverride : x.altPathOverride = true
  alt : x.altPath = if f.alt then 1 else 0
  apdu : x.apdu = f.code :: f.data

namespace AppStackData

variable (gp gp' : AppStackData) (priority : Bool)

/-- Without acknowledgement a message goes to the queue without priority, whichever is asked for room.
`taken` entries are used before it is its turn, and the last slot of a queue is never used. -/
def HasSlotFor (taken : Nat) (f : LtepForward) : Prop :=
  (f.service = .unacknowledged →
    (gp.nwOutQ priority).full = false ∧
      (gp.nwOutQ false).queueEntries + taken + 1 < (gp.nwOutQ false).queueCapacity ∧
      f.data.length + 1 ≤ gp.nwOutBufSize false) ∧
  (f.service ≠ .unacknowledged →
    (gp.tsaOutQ priority).queueEntries + taken + 1 < (gp.tsaOutQ priority).queueCapacity ∧
      f.data.length + 1 ≤ gp.tsaOutBufSize false)

instance (taken : Nat) (f : LtepForward) : Decidable (gp.HasSlotFor priority taken f) :=
  inferInstanceAs (Decidable (_ ∧ _))

def Queues (taken : Nat) (f : LtepForward) : Prop :=
  (f.service = .unacknowledged →
    ∃ xs x, (gp'.nwOutQ false).toList = (gp.nwOutQ false).toList ++ xs ++ [x] ∧
      xs.length = taken ∧ x.Carries f) ∧
  (f.service ≠ .unacknowledged →
    ∃ xs x, (gp'.tsaOutQ priority).toList = (gp.tsaOutQ priority).toList ++ xs ++ [x] ∧
      xs.length = taken ∧ x.Carries f)

def takes (copy : Option LtepForward) (f : LtepForward) : Nat :=
  match copy with
  | none => 0
  | some c =>
    if (c.service = .unacknowledged ↔ f.service = .unacknowledged) ∧ gp.HasSlotFor priority 0 c then 1
    else 0

structure LtepSent (f : LtepForward) : Prop where
  mem : gp'.mem = gp.mem
  eep : gp'.eep = gp.eep
  nwCapacity : ∀ b, (gp'.nwOutQ b).queueCapacity = (gp.nwOutQ b).queueCapacity
  tsaCapacity : ∀ b, (gp'.tsaOutQ b).queueCapacity = (gp.tsaOutQ b).queueCapacity
  nwBufSize : gp'.nwOutBufSize = gp.nwOutBufSize
  tsaBufSize : gp'.tsaOutBufSize = gp.tsaOutBufSize
  nw : ∀ b, ∃ xs, (gp'.nwOutQ b).toList = (gp.nwOutQ b).toList ++ xs ∧
    xs.length = (if (b = false ∧ f.service = .unacknowledged) ∧ gp.HasSlotFor priority 0 f then 1 else 0) ∧
    ∀ x ∈ xs, x.Carries f
  tsa : ∀ b, ∃ xs, (gp'.tsaOutQ b).toList = (gp.tsaOutQ b).toList ++ xs ∧
    xs.length =
      (if (b = priority ∧ f.service ≠ .unacknowledged) ∧ gp.HasSlotFor priority 0 f then 1 else 0) ∧
    ∀ x ∈ xs, x.Carries f

end AppStackData

structure APPReceiveParam.HoldsLtep (p : APPReceiveParam) (pData : Image) (m : LtepMessage) : Prop where
  bytes : pData.Contains 0 m.bytes
  size : p.pduSize = m.bytes.length + 1
  domain : p.srcAddr.dmn.domainIndex ≤ FLEX_DOMAIN

namespace ProxyStackData

variable (gp : ProxyStackData) (p : APPReceiveParam)

def place : LtepPlace where
  domain := ltepDomain p
  src := p.srcAddr.subnetAddr.subnet
  own := gp.domainSubnet (ltepDomain p)

def readPlace : LtepPlace where
  domain := ltepDomain p
  src := p.srcAddr.subnetAddr.subnet
  own := gp.dstSubnet p

end ProxyStackData

theorem ProxyHeader.count_zero : (ProxyHeader.mk 0).count = 0 := by decide

def LtepMessage.copied (m : LtepMessage) (behind : UInt8) : LtepMessage where
  header := ⟨0⟩
  repeaters := []
  txCtrl := m.txCtrl
  agent := { m.agent with data := m.agent.data ++ [behind] }
  count_eq := ProxyHeader.count_zero

theorem LtepMessage.bytes_copied (m : LtepMessage) (behind : UInt8) :
    (m.copied behind).bytes = 0 :: (m.agent.bytes ++ [behind]) := by
  rw [LtepMessage.bytes]
  simp only [LtepMessage.copied, AgentPart.bytes, AgentPart.keyBytes, List.flatMap_nil, if_true,
    List.append_nil, List.cons_append, List.nil_append, List.append_assoc]

def ProxyStackData.copyOf (gp : ProxyStackData) (p : APPReceiveParam) (pData : Image)
    (m : LtepMessage) : Option LtepForward :=
  if m.header.allAgents = true ∧ m.repeaters ≠ [] ∧ p.srcAddr.dmn.domainIndex ≠ FLEX_DOMAIN then
    some ((m.copied (pData (p.pduSize - 1))).next p.service (gp.readPlace p))
  else none

def LtepMessage.usesOwnSubnet (m : LtepMessage) : Bool :=
  match m.repeaters with
  | [] => m.agent.address.type == PX_SUBNET_NODE_COMPACT_DEST
  | _ => m.header.uniformByDest && !m.header.uniformBySrc

end LonStack
