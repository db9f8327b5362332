import LonStack.Lib.Contains
import LonStack.LonUdp.Multicast
import LonStack.Network

namespace LonStack.LonUdp

open Lib

abbrev IPV4_LON_VX_NPDU_MASK_PRIORITY : UInt8 := 0x80
abbrev IPV4_LON_VX_NPDU_MASK_DELTA_BACKLOG : UInt8 := 0x3F
abbrev IPV4_LON_VX_NPDU_MASK_SERVICE_TYPE : UInt8 := 0x30
abbrev IPV4_LON_VX_NPDU_MASK_VER : UInt8 := 0xC0
abbrev IPV4_LON_VX_NPDU_DEST_NEURON_ID_LEN : Nat := 6
abbrev IPV4_LT_VER_LEGACY : UInt8 := 0
abbrev IPV4_LT_VER_ENHANCED : UInt8 := 2
abbrev IPV4_LSUDP_NPDU_MASK_ARB_SOURCE : UInt8 := 0x01
abbrev IPV4_LSUDP_NPDU_MASK_UDPVER : UInt8 := 0xF0
abbrev IPV4_LSUDP_UDP_VER_LS_LEGACY : UInt8 := 0
abbrev IPV4_LSUDP_UDP_VER_LS_ENHANCED : UInt8 := 1
abbrev IPV4_LSUDP_UDP_VER_CURRENT : UInt8 := IPV4_LSUDP_UDP_VER_LS_ENHANCED
abbrev IPV4_LSUDP_NPDU_MASK_PDUFMT : UInt8 := 0x03
abbrev IPV4_LSUDP_NPDU_MASK_PRIORITY : UInt8 := 0x04
abbrev IPV4_LSUDP_NPDU_MASK_MCR : UInt8 := 0x08
abbrev IPV4_LSUDP_NPDU_MASK_ADDRFMT : UInt8 := 0xF0
abbrev IPV4_LSUDP_NPDU_MASK_ARB_SOURCE_DMFLG : UInt8 := 0x80
abbrev IPV4_LSUDP_NPDU_MASK_ARB_SOURCE_DMLEN : UInt8 := 0x03
abbrev IPV4_LSUDP_NPDU_ADDR_FMT_SUBNET_NODE : UInt8 := 0x10
abbrev IPV4_LSUDP_NPDU_ADDR_FMT_DOMAIN_BROADCAST : UInt8 := 0x20
abbrev IPV4_LSUDP_NPDU_ADDR_FMT_SUBNET_BROADCAST : UInt8 := 0x30
abbrev IPV4_LSUDP_NPDU_ADDR_FMT_GROUP : UInt8 := 0x40
abbrev IPV4_LSUDP_NPDU_ADDR_FMT_GROUP_RESP : UInt8 := 0x50
abbrev IPV4_LSUDP_NPDU_ADDR_FMT_BROADCAST_NEURON_ID : UInt8 := 0x60
abbrev IPV4_LSUDP_NPDU_ADDR_FMT_EXP_SUBNET_NODE : UInt8 := 0x70
abbrev IPV4_LON_UDP_IPADDR_DOMAIN_LEN : Nat := 2
abbrev IPV4_EXP_MSG_CODE : UInt8 := 0x60
abbrev IPV4_EXP_DEVICE_LS_ADDR_MAPPING_ANNOUNCEMENT : UInt8 := 0x15
abbrev IPV4_EXP_SUBNETS_LS_ADDR_MAPPING_ANNOUNCEMENT : UInt8 := 0x16
abbrev IPV4_DOMAIN_LEN_0_PREFIX_0 : UInt8 := 192
abbrev IPV4_DOMAIN_LEN_0_PREFIX_1 : UInt8 := 168
abbrev IPV4_DOMAIN_LEN_1_PREFIX : UInt8 := 10
abbrev ENCLOSED_PDU_TYPE_TPDU : UInt8 := 0
abbrev ENCLOSED_PDU_TYPE_SPDU : UInt8 := 1
abbrev ENCLOSED_PDU_TYPE_APDU : UInt8 := 3
abbrev LT_AF_BROADCAST : UInt8 := 0
abbrev LT_AF_GROUP : UInt8 := 1
abbrev LT_AF_SUBNET_NODE : UInt8 := 2
abbrev LT_AF_UNIQUE_ID : UInt8 := 3

def ipv4_zero_len_domain_prefix : Vector UInt8 2 :=
  #v[IPV4_DOMAIN_LEN_0_PREFIX_0, IPV4_DOMAIN_LEN_0_PREFIX_1]

/-- The length of an invalid domain is taken as 0. -/
def generateLonUdpAddrPrefix (pDomainId : Image) (domainLen : Nat) (subnet : UInt8) : IpAddress :=
  if domainLen = 0 ∨ 6 < domainLen then ipv4_zero_len_domain_prefix ++ #v[subnet, 0]
  else if domainLen = 1 then #v[IPV4_DOMAIN_LEN_1_PREFIX, pDomainId 0, subnet, 0]
  else #v[pDomainId 0, pDomainId 1, subnet, 0]

theorem nodeAt_lt : 3 < 4 := by decide

def generateLonUdpAddress (pDomainId : Image) (domainLen : Nat) (subnetId nodeId : UInt8) :
    IpAddress :=
  let nodeId := if 6 < domainLen then 0 else nodeId &&& NODE_ID_MASK
  let domainLen := if 6 < domainLen ∨ subnetId = 0 ∨ nodeId = 0 then 0 else domainLen
  (generateLonUdpAddrPrefix pDomainId domainLen subnetId).set 3 nodeId nodeAt_lt

def getDomainLenEncoding (domainLen : Nat) : UInt8 := (encodeDomainLength domainLen).getD 0

structure UdpNode where
  map : AddressMap
  ownIpAddress : IpAddress
  isConnected : Bool
  domain : IzotDomain

/-- The bytes of an address as `pSourceAddr` points to them. -/
def IpAddress.image (addr : IpAddress) : Image := fun k => addr.toList.getD k 0

def lsAddress (pDomainId : Image) (domainLen : Nat) (subnetId nodeId : UInt8) : LsAddress where
  domainId := Vector.ofFn fun i => pDomainId i
  domainLen := domainLen
  subnetId := subnetId
  nodeId := nodeId

/-- A destination as it is read from a payload: its address format in the NPDU, its bytes there,
whether it is that of a group response, and where the payload goes on. -/
structure LsUdpDest where
  addrFmt : UInt8
  bytes : List UInt8
  isGroupResp : Bool
  next : Nat
  deriving DecidableEq, Repr

/-- The payload of a LON/UDP packet, with what stands behind it in memory. -/
structure LsUdpPayload where
  image : Image

namespace LsUdpPayload

variable (u : LsUdpPayload)

def hdr0 : UInt8 := u.image 0

def hdr1 : UInt8 := u.image 1

def unsupported : Bool :=
  IPV4_LSUDP_UDP_VER_CURRENT <<< 4 < u.hdr0 &&& IPV4_LSUDP_NPDU_MASK_UDPVER

def isEnhanced : Bool :=
  u.hdr0 &&& IPV4_LSUDP_NPDU_MASK_UDPVER = IPV4_LSUDP_UDP_VER_LS_ENHANCED <<< 4

def hasArbSource : Bool := u.hdr0 &&& IPV4_LSUDP_NPDU_MASK_ARB_SOURCE ≠ 0

def hasBacklog : Bool := u.hdr1 &&& IPV4_LSUDP_NPDU_MASK_MCR ≠ 0

def pduFmt : UInt8 := u.hdr1 &&& IPV4_LSUDP_NPDU_MASK_PDUFMT

def addrFmt : UInt8 := u.hdr1 &&& IPV4_LSUDP_NPDU_MASK_ADDRFMT

def priDelta : UInt8 :=
  (if u.hdr1 &&& IPV4_LSUDP_NPDU_MASK_PRIORITY ≠ 0 then IPV4_LON_VX_NPDU_MASK_PRIORITY else 0) |||
    if u.hasBacklog then u.image 2 &&& IPV4_LON_VX_NPDU_MASK_DELTA_BACKLOG else 0

def sourceAt : Nat := if u.hasBacklog then 3 else 2

def includesDomain : Bool :=
  u.hasArbSource ∧ u.image (u.sourceAt + 1) &&& IPV4_LSUDP_NPDU_MASK_ARB_SOURCE_DMFLG ≠ 0

def domain (pSourceAddr : IpAddress) : Nat × Image :=
  if u.includesDomain then
    (decodeDomainLength (u.image (u.sourceAt + 2) &&& IPV4_LSUDP_NPDU_MASK_ARB_SOURCE_DMLEN),
      fun k => u.image (u.sourceAt + 3 + k))
  else if pSourceAddr.image 0 = IPV4_DOMAIN_LEN_0_PREFIX_0 ∧
      pSourceAddr.image 1 = IPV4_DOMAIN_LEN_0_PREFIX_1 then (0, pSourceAddr.image)
  else if pSourceAddr.image 0 = IPV4_DOMAIN_LEN_1_PREFIX then (1, fun k => pSourceAddr.image (k + 1))
  else (3, pSourceAddr.image)

def source (pSourceAddr : IpAddress) : UInt8 × UInt8 :=
  if u.hasArbSource then (u.image u.sourceAt, u.image (u.sourceAt + 1))
  else (pSourceAddr.image 2, pSourceAddr.image 3)

def destAt (domainLen : Nat) : Nat :=
  if u.includesDomain then u.sourceAt + (domainLen + 3)
  else if u.hasArbSource then u.sourceAt + 2
  else u.sourceAt

def dest (domain : IzotDomain) (start : Nat) : Option LsUdpDest :=
  let own := [domain.subnet, 0x80 ||| domain.node]
  if u.addrFmt = IPV4_LSUDP_NPDU_ADDR_FMT_BROADCAST_NEURON_ID then
    some ⟨LT_AF_UNIQUE_ID,
      u.image start :: u.image.slice (start + 1) IPV4_LON_VX_NPDU_DEST_NEURON_ID_LEN,
      false, start + 1 + IPV4_LON_VX_NPDU_DEST_NEURON_ID_LEN⟩
  else if u.addrFmt = IPV4_LSUDP_NPDU_ADDR_FMT_SUBNET_NODE then
    some ⟨LT_AF_SUBNET_NODE, own, false, start⟩
  else if u.addrFmt = IPV4_LSUDP_NPDU_ADDR_FMT_GROUP_RESP then
    some ⟨LT_AF_SUBNET_NODE, own ++ [u.image start, u.image (start + 1)], true, start + 2⟩
  else if u.addrFmt = IPV4_LSUDP_NPDU_ADDR_FMT_DOMAIN_BROADCAST then
    some ⟨LT_AF_BROADCAST, [0], false, start⟩
  else if u.addrFmt = IPV4_LSUDP_NPDU_ADDR_FMT_SUBNET_BROADCAST then
    some ⟨LT_AF_BROADCAST, [u.image start], false, start + 1⟩
  else if u.addrFmt = IPV4_LSUDP_NPDU_ADDR_FMT_GROUP then
    some ⟨LT_AF_GROUP, [u.image start], false, start + 1⟩
  else if u.addrFmt = IPV4_LSUDP_NPDU_ADDR_FMT_EXP_SUBNET_NODE then
    if u.image (start + 1) &&& 0x80 ≠ 0 then
      some ⟨LT_AF_SUBNET_NODE,
        [u.image start, 0x80 ||| u.image (start + 1), u.image (start + 2), u.image (start + 3)], true, start + 4⟩
    else some ⟨LT_AF_SUBNET_NODE, [u.image start, 0x80 ||| u.image (start + 1)], false, start + 2⟩
  else none

def announces (next : Nat) (pduLen : UInt16) (code : UInt8) (least : UInt16) : Bool :=
  u.pduFmt = ENCLOSED_PDU_TYPE_APDU ∧ u.image next = IPV4_EXP_MSG_CODE ∧ least ≤ pduLen ∧
    u.image (next + 1) = code

/-- The bytes of the NPDU in front of the enclosed PDU. Only two bytes of a domain are taken from
it. -/
def header (domainLen : Nat) (pDomain : Image) (source : UInt8 × UInt8) (dest : LsUdpDest) :
    List UInt8 :=
  let sourceNode := 0x80 ||| source.2
  [u.priDelta,
    u.pduFmt <<< 4 ||| (if u.isEnhanced then IPV4_LT_VER_ENHANCED <<< 6 else 0) |||
      getDomainLenEncoding domainLen ||| dest.addrFmt <<< 2,
    source.1, if dest.isGroupResp then sourceNode &&& NODE_ID_MASK else sourceNode] ++
  dest.bytes ++
  Image.slice (fun k => if k < IPV4_LON_UDP_IPADDR_DOMAIN_LEN then pDomain k else 0) 0 domainLen

end LsUdpPayload

structure LonVx where
  npdu : List UInt8
  ltVxLen : UInt16
  deriving DecidableEq, Repr

namespace UdpNode

variable (n : UdpNode) (u : LsUdpPayload) (pSourceAddr : IpAddress)

def learnSource : UdpNode :=
  let domain := u.domain pSourceAddr
  let source := u.source pSourceAddr
  let a := lsAddress domain.2 domain.1 source.1 (source.2 &&& NODE_ID_MASK)
  { n with
    map :=
      if u.hasArbSource then n.map.setArbitraryAddressMapping pSourceAddr a
      else n.map.setDerivedAddressMapping a }

/-- The enclosed PDU is handled here when it is an announcement, and copied behind the header when
it is not. -/
def convertPdu (udpLen : UInt16) (dest : LsUdpDest) : UdpNode × LonVx :=
  let domain := u.domain pSourceAddr
  let source := u.source pSourceAddr
  let header := u.header domain.1 domain.2 source dest
  let pduLen := udpLen - .ofNat dest.next
  if u.announces dest.next pduLen IPV4_EXP_SUBNETS_LS_ADDR_MAPPING_ANNOUNCEMENT (3 + 32) then
    ({ n with
      map := n.map.setDerivedSubnetsMapping (u.image (dest.next + 2) ≠ 0)
        (Vector.ofFn fun i => u.image (dest.next + 3 + i)) },
      ⟨[], 0⟩)
  else if u.announces dest.next pduLen IPV4_EXP_DEVICE_LS_ADDR_MAPPING_ANNOUNCEMENT 2 then
    ({ n with
      map := n.map.updateMapping
        (lsAddress (fun k => header.getD (4 + dest.bytes.length + k) 0) domain.1 source.1
          (source.2 &&& NODE_ID_MASK))
        pSourceAddr },
      ⟨[], 0⟩)
  else
    (n, ⟨header ++ u.image.slice dest.next pduLen.toNat,
      pduLen + .ofNat header.length⟩)

def convertLonUdpToLonVx (udpLen : UInt16) : UdpNode × LonVx :=
  if u.unsupported then (n, ⟨[], 0⟩)
  else
    match u.dest n.domain (u.destAt (u.domain pSourceAddr).1) with
    | none => (n.learnSource u pSourceAddr, ⟨[], 0⟩)
    | some dest => (n.learnSource u pSourceAddr).convertPdu u pSourceAddr udpLen dest

end UdpNode

namespace UdpNode

variable (n : UdpNode)

def hasAddress (pDomainId : Image) (domainIdLen : Nat) : Bool :=
  domainIdLen ≤ 1 ∨ domainIdLen = 3 ∧ pDomainId 2 = 0

def ipv4IsUnicastAddressSupported (ipAddress : IpAddress) : Bool := n.ownIpAddress = ipAddress

def usesArbitrary (pSourceIpAddress : IpAddress) (pDomainId : Image) (domainIdLen : Nat) : Bool :=
  n.isConnected ∧ hasAddress pDomainId domainIdLen ∧
    ¬n.ipv4IsUnicastAddressSupported pSourceIpAddress

def matchesDomain (pDomainId : Image) (domainIdLen : Nat) : Bool :=
  n.ownIpAddress.toList.take IPV4_LON_UDP_IPADDR_DOMAIN_LEN =
    (generateLonUdpAddress pDomainId domainIdLen 1 1).toList.take IPV4_LON_UDP_IPADDR_DOMAIN_LEN

/-- The length of the enclosed source, the buffer that it is written to, and the source address. -/
def ipv4GetArbitrarySourceAddress (pSourceIpAddress : IpAddress) (pDomainId : Image)
    (domainIdLen : Nat) (pEnclosedSource : Image) : Nat × Image × IpAddress :=
  if n.usesArbitrary pSourceIpAddress pDomainId domainIdLen then
    let source := fun m : Image => (m.set 0 (pSourceIpAddress.image 2)).set 1
      (pSourceIpAddress.image 3 &&& NODE_ID_MASK)
    if n.matchesDomain pDomainId domainIdLen then (2, source pEnclosedSource, n.ownIpAddress)
    else
      let domain := (pEnclosedSource.set 2 (getDomainLenEncoding domainIdLen)).copy 3 pDomainId 0
        domainIdLen
      let flagged := source domain
      (3 + domainIdLen, flagged.set 1 (flagged 1 ||| IPV4_LSUDP_NPDU_MASK_ARB_SOURCE_DMFLG),
        n.ownIpAddress)
  else (0, pEnclosedSource, pSourceIpAddress)

/-- The length of the enclosed destination, the buffer that it is written to, and the destination
address. -/
def ipv4GetArbitraryDestAddress (pDomainId : Image) (domainLen : Nat) (subnetId nodeId : UInt8)
    (ipv1AddrFmt : UInt8) (pDestIpAddress : IpAddress) (pEnclosedDest : Image) :
    Nat × Image × IpAddress :=
  let enclosed := (pEnclosedDest.set 0 subnetId).set 1 (nodeId &&& NODE_ID_MASK)
  -- The flag of a group response is set in the byte behind the node.
  let enclosed :=
    if ipv1AddrFmt = IPV4_LSUDP_NPDU_ADDR_FMT_GROUP_RESP then enclosed.set 2 (enclosed 2 ||| 0x80)
    else enclosed
  match n.map.findMappingInfo (lsAddress pDomainId domainLen subnetId nodeId) with
  | none => (2, enclosed, generateLonMulticastAddr IPV4_LS_MC_ADDR_TYPE_BROADCAST subnetId)
  | some i =>
    if (n.map.lsMapInfo i).state = .arbitrary then
      (2, enclosed, (n.map.lsMapInfo i).arbitraryIdAddress)
    else (0, pEnclosedDest, pDestIpAddress)

end UdpNode

/-- What the sender finds out of the address format of an NPDU: where its domain is, the length and
the second byte of the header, the enclosed destination and its length, and the IP address. -/
structure LsUdpFormat where
  domainOffset : Nat
  lsUdpHdrLen : Nat
  lsUdpHdrByte1 : UInt8
  lsUdpEnclosedAddr : Image
  lsUdpEnclosedAddrLen : Nat
  destAddr : IpAddress

structure LonVxImage where
  image : Image

namespace LonVxImage

variable (m : LonVxImage)

def addrFmt : UInt8 := (m.image 1 &&& 0x0C) >>> 2

def pduFmt : UInt8 := (m.image 1 &&& 0x30) >>> 4

def version : UInt8 := (m.image 1 &&& IPV4_LON_VX_NPDU_MASK_VER) >>> 6

def domainLen : Nat := decodeDomainLength (m.image 1 &&& 0x03)

def includesBacklog : Bool :=
  (m.pduFmt = ENCLOSED_PDU_TYPE_TPDU ∨ m.pduFmt = ENCLOSED_PDU_TYPE_SPDU) ∧
    m.image (4 + m.domainLen) &&& IPV4_LON_VX_NPDU_MASK_SERVICE_TYPE = 0

def multicastFormat (uninit : Image) : LsUdpFormat :=
  let lsUdpHdrByte1 := m.pduFmt ||| if m.includesBacklog then IPV4_LSUDP_NPDU_MASK_MCR else 0
  let dest := m.image 4
  { domainOffset := 5
    lsUdpHdrLen := if m.includesBacklog then 3 else 2
    lsUdpHdrByte1 := lsUdpHdrByte1 |||
      if m.addrFmt = LT_AF_BROADCAST then
        if dest = 0 then IPV4_LSUDP_NPDU_ADDR_FMT_DOMAIN_BROADCAST
        else IPV4_LSUDP_NPDU_ADDR_FMT_SUBNET_BROADCAST
      else IPV4_LSUDP_NPDU_ADDR_FMT_GROUP
    lsUdpEnclosedAddr := uninit.set 0 dest
    lsUdpEnclosedAddrLen := if m.addrFmt = LT_AF_BROADCAST ∧ dest = 0 then 0 else 1
    destAddr := generateLonMulticastAddr
      (if m.addrFmt = LT_AF_BROADCAST then IPV4_LS_MC_ADDR_TYPE_BROADCAST
        else IPV4_LS_MC_ADDR_TYPE_GROUP)
      dest }

def isGroupResp : Bool := m.image 3 &&& 0x80 = 0

def subnetNodeFormat (n : UdpNode) (uninit : Image) : LsUdpFormat :=
  let lsUdpAddrFmt :=
    if m.isGroupResp then IPV4_LSUDP_NPDU_ADDR_FMT_GROUP_RESP
    else IPV4_LSUDP_NPDU_ADDR_FMT_SUBNET_NODE
  let domainOffset := if m.isGroupResp then 8 else 6
  let pDomainId : Image := fun k => m.image (domainOffset + k)
  let (len, enclosed, destAddr) :=
    n.ipv4GetArbitraryDestAddress pDomainId m.domainLen (m.image 4) (m.image 5) lsUdpAddrFmt
      (generateLonUdpAddress pDomainId m.domainLen (m.image 4) (m.image 5)) uninit
  { domainOffset := domainOffset
    lsUdpHdrLen := 2
    lsUdpHdrByte1 := m.pduFmt |||
      if len = 0 then lsUdpAddrFmt else IPV4_LSUDP_NPDU_ADDR_FMT_EXP_SUBNET_NODE
    lsUdpEnclosedAddr :=
      if m.isGroupResp then (enclosed.set len (m.image 6)).set (len + 1) (m.image 7) else enclosed
    lsUdpEnclosedAddrLen := if m.isGroupResp then len + 2 else len
    destAddr := destAddr }

def uniqueIdFormat (uninit : Image) : LsUdpFormat where
  domainOffset := 5 + IPV4_LON_VX_NPDU_DEST_NEURON_ID_LEN
  lsUdpHdrLen := 2
  lsUdpHdrByte1 := m.pduFmt ||| IPV4_LSUDP_NPDU_ADDR_FMT_BROADCAST_NEURON_ID
  lsUdpEnclosedAddr := (uninit.set 0 (m.image 4)).copy 1 m.image 5 IPV4_LON_VX_NPDU_DEST_NEURON_ID_LEN
  lsUdpEnclosedAddrLen := 1 + IPV4_LON_VX_NPDU_DEST_NEURON_ID_LEN
  destAddr := generateLonMulticastAddr IPV4_LS_MC_ADDR_TYPE_BROADCAST 0

def format (n : UdpNode) (uninit : Image) : LsUdpFormat :=
  if m.addrFmt = LT_AF_SUBNET_NODE then m.subnetNodeFormat n uninit
  else if m.addrFmt = LT_AF_UNIQUE_ID then m.uniqueIdFormat uninit
  else m.multicastFormat uninit

end LonVxImage

structure LsUdpPacket where
  payload : LsUdpPayload
  len : UInt16
  sourceAddr : IpAddress
  destAddr : IpAddress

namespace UdpNode

/-- The payload takes the place of the NPDU in the buffer. `uninit` is what the buffers on the stack
hold. -/
def convertLonVxToLonUdp (n : UdpNode) (uninit : Image) (m : LonVxImage) (pduLen : UInt16)
    (pSourceAddr pDestAddr : IpAddress) : LsUdpPacket :=
  if m.version ≠ IPV4_LT_VER_LEGACY ∧ m.version ≠ IPV4_LT_VER_ENHANCED then
    ⟨⟨m.image⟩, 0, pSourceAddr, pDestAddr⟩
  else
    let f := m.format n uninit
    let pDomainId : Image := fun k => m.image (f.domainOffset + k)
    let pduLen := pduLen - .ofNat (f.domainOffset + m.domainLen)
    let lsUdpHdrByte1 := f.lsUdpHdrByte1 |||
      if m.image 0 &&& IPV4_LON_VX_NPDU_MASK_PRIORITY ≠ 0 then IPV4_LSUDP_NPDU_MASK_PRIORITY else 0
    let (arbLen, arb, sourceAddr) :=
      n.ipv4GetArbitrarySourceAddress
        (generateLonUdpAddress pDomainId m.domainLen (m.image 2) (m.image 3)) pDomainId m.domainLen
        uninit
    let moved := m.image.copy (f.lsUdpHdrLen + f.lsUdpEnclosedAddrLen + arbLen) m.image
      (f.domainOffset + m.domainLen) pduLen.toNat
    let source := moved.copy f.lsUdpHdrLen arb 0 arbLen
    let backlog :=
      if lsUdpHdrByte1 &&& IPV4_LSUDP_NPDU_MASK_MCR ≠ 0 then
        source.set 2 (source 0 &&& IPV4_LON_VX_NPDU_MASK_DELTA_BACKLOG)
      else source
    let version :=
      if (backlog 1 &&& IPV4_LON_VX_NPDU_MASK_VER) >>> 6 = IPV4_LT_VER_LEGACY then
        IPV4_LSUDP_UDP_VER_LS_LEGACY
      else IPV4_LSUDP_UDP_VER_LS_ENHANCED
    let header := (backlog.set 0 (version <<< 4 |||
      if arbLen ≠ 0 then IPV4_LSUDP_NPDU_MASK_ARB_SOURCE else 0)).set 1 lsUdpHdrByte1
    ⟨⟨header.copy (f.lsUdpHdrLen + arbLen) f.lsUdpEnclosedAddr 0 f.lsUdpEnclosedAddrLen⟩,
      pduLen + .ofNat (f.lsUdpHdrLen + arbLen + f.lsUdpEnclosedAddrLen), sourceAddr, f.destAddr⟩

end UdpNode

end LonStack.LonUdp
