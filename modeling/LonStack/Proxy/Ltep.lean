import LonStack.App.Datapoint
import LonStack.NetMgmt.Update

namespace LonStack

open Lib

abbrev LT_APDU_ENHANCED_PROXY : UInt8 := 0x4D
abbrev LT_ENHANCED_PROXY_FAILURE : UInt8 := 0x4C
abbrev PROXY_AGENT_MODE_ALTKEY : UInt8 := 2
abbrev AM_SUBNET_NODE : UInt8 := 1

abbrev PX_GROUP : Nat := 0
abbrev PX_SUBNET_NODE : Nat := 1
abbrev PX_NEURON_ID : Nat := 2
abbrev PX_BROADCAST : Nat := 3
abbrev PX_GROUP_COMPACT : Nat := 4
abbrev PX_SUBNET_NODE_COMPACT_SRC : Nat := 5
abbrev PX_NEURON_ID_COMPACT : Nat := 6
abbrev PX_SUBNET_NODE_COMPACT_DEST : Nat := 7

structure ProxyHeader where
  byte : UInt8
  deriving DecidableEq, Repr

namespace ProxyHeader

variable (ph : ProxyHeader)

def uniformByDest : Bool := ph.byte &&& 0x80 ≠ 0

def longTimer : Bool := ph.byte &&& 0x40 ≠ 0

def allAgents : Bool := ph.byte &&& 0x20 ≠ 0

def uniformBySrc : Bool := ph.byte &&& 0x10 ≠ 0

def count : Nat := (ph.byte &&& 0x0F).toNat

def uniform : Nat := if ph.uniformBySrc || ph.uniformByDest then 1 else 0

def decrement : ProxyHeader := ⟨(ph.byte &&& 0xF0) ||| ((ph.byte &&& 0x0F) - 1 &&& 0x0F)⟩

def txcpos : Nat := 1 + (2 - ph.uniform) * ph.count

end ProxyHeader

structure ProxyNode where
  byte : UInt8
  deriving DecidableEq, Repr

def ProxyNode.path (pa : ProxyNode) : Bool := pa.byte &&& 0x80 ≠ 0

def ProxyNode.node (pa : ProxyNode) : UInt8 := pa.byte &&& 0x7F

structure ProxyTxCtrl where
  byte : UInt8
  deriving DecidableEq, Repr

def ProxyTxCtrl.retry (txc : ProxyTxCtrl) : UInt8 := txc.byte >>> 4

def ProxyTxCtrl.timer (txc : ProxyTxCtrl) : UInt8 := txc.byte &&& 0x0F

structure ProxySicb where
  byte : UInt8
  deriving DecidableEq, Repr

namespace ProxySicb

variable (sicb : ProxySicb)

def type : Nat := (sicb.byte >>> 5).toNat

def path : Bool := sicb.byte &&& 0x10 ≠ 0

def service : ServiceType := .ofAttribute (sicb.byte >>> 2 &&& 3)

def mode : UInt8 := sicb.byte &&& 3

end ProxySicb

def addrSizeTable (type : Nat) : Nat := 3 + [2, 2, 7, 2, 1, 1, 6, 1].getD type 0

def altKeyLength (pKey : UInt8) : Nat := if pKey &&& 3 = AUTH_OMA then 12 else 6

structure LtepSend where
  service : ServiceType
  addressType : UInt8
  subnet : UInt8
  node : UInt8
  neuronId : UniqueId
  alt : Bool
  longTimer : Bool
  txTimer : UInt8
  retry : UInt8
  code : UInt8
  offset : Nat
  adjust : Nat
  altKey : AltKey

/-- The fields of the address that the source sets. The bit for a long timer is next to the timer. -/
def LtepSend.addr (s : LtepSend) (domIdx : Nat) : SendAddress where
  typeSize := s.addressType
  domainNode := UInt8.ofNat domIdx <<< 7 ||| (s.node &&& 0x7F)
  repeatRetry := s.txTimer <<< 4 ||| s.retry
  rsvdTransmit := (if s.longTimer then 0x10 else 0) ||| s.txTimer
  subnet := s.subnet
  neuronId := s.neuronId

structure ProxyStackData extends AppStackData where
  proxyBufferWait : LonTimer

structure LtepUninit where
  altKeyValue : AuthKey × AuthKey
  apdu : Image

namespace ProxyStackData

variable (gp : ProxyStackData) (p : APPReceiveParam) (pData : Image) (tickCount : UInt32)
  (uninit : LtepUninit)

def withStack (app : AppStackData) : ProxyStackData := { gp with toAppStackData := app }

/-- `eep->domainTable[domIdx].Subnet`. There are two entries, and other bytes behind them. -/
def domainSubnet (domIdx : Nat) : UInt8 := gp.mem (gp.domainTable domIdx + IzotDomain.subnetOffset)

def sendResponse (code : UInt8) (data : List UInt8) : ProxyStackData :=
  { gp with toAppData := (gp.toAppData.sendResponse p.reqId code data).2 }

def ltepDomain : Nat :=
  if p.srcAddr.dmn.domainIndex = FLEX_DOMAIN then 0 else p.srcAddr.dmn.domainIndex

def dstSubnet : UInt8 := gp.domainSubnet p.srcAddr.dmn.domainIndex

def ltepRepeat : LtepSend :=
  let ph : ProxyHeader := ⟨pData 0⟩
  let txc : ProxyTxCtrl := ⟨pData ph.txcpos⟩
  let pa : ProxyNode := ⟨pData (2 - ph.uniform)⟩
  let count := ph.count - 1
  { service := p.service
    addressType := AM_SUBNET_NODE
    subnet :=
      if ph.uniform = 1 then
        if ph.uniformBySrc then p.srcAddr.subnetAddr.subnet else gp.dstSubnet p
      else pData 1
    node := pa.node
    neuronId := .replicate 6 0
    alt := pa.path
    longTimer := ph.longTimer
    txTimer := txc.timer
    retry := txc.retry
    code := LT_APDU_ENHANCED_PROXY
    -- the header takes the place of the last byte that is left out
    offset := 2 - ph.uniform + if count = 0 then 1 else 0
    adjust :=
      if ph.longTimer ∨ 10 ≤ txc.timer then 512 * count
      else if 8 ≤ txc.timer then 256 * count
      else 256
    altKey := ⟨false, uninit.altKeyValue⟩ }

def ltepRewritten : Image :=
  let ph : ProxyHeader := ⟨pData 0⟩
  pData.set (gp.ltepRepeat p pData uninit).offset ph.decrement.byte

def ltepAltKey : AltKey :=
  let domIdx := ltepDomain p
  let key (domainIndex pKeyDelta : Nat) : AuthKey :=
    .ofFn fun j => gp.mem (gp.domainTable domainIndex + IzotDomain.keyOffset + j) + pData (pKeyDelta + j)
  { altKey := true
    altKeyValue :=
      (if domIdx < 2 then key domIdx 4 else uninit.altKeyValue.1,
        if domIdx + 1 < 2 then key (domIdx + 1) 10 else uninit.altKeyValue.2) }

def ltepAgent : LtepSend :=
  let sicb : ProxySicb := ⟨pData 1⟩
  let txc : ProxyTxCtrl := ⟨pData 2⟩
  let altkey : Bool := sicb.mode = PROXY_AGENT_MODE_ALTKEY
  let keySize := if altkey then 1 + altKeyLength (pData 3) else 0
  let pAddress := 3 + keySize
  let offset := addrSizeTable sicb.type + keySize
  { service := sicb.service
    addressType :=
      if sicb.type = PX_GROUP then (0x80 : UInt8) ||| pData (pAddress + 1)
      else if sicb.type = PX_GROUP_COMPACT then 0x80
      else if sicb.type = PX_SUBNET_NODE_COMPACT_DEST then AM_SUBNET_NODE
      else .ofNat (sicb.type % 4)
    subnet :=
      if sicb.type = PX_NEURON_ID_COMPACT then 0
      else if sicb.type = PX_SUBNET_NODE_COMPACT_SRC then p.srcAddr.subnetAddr.subnet
      else if sicb.type = PX_SUBNET_NODE_COMPACT_DEST then gp.dstSubnet p
      else pData pAddress
    node :=
      if sicb.type = PX_SUBNET_NODE_COMPACT_SRC ∨ sicb.type = PX_SUBNET_NODE_COMPACT_DEST then
        (ProxyNode.mk (pData pAddress)).node
      else if sicb.type = PX_SUBNET_NODE then (ProxyNode.mk (pData (pAddress + 1))).node
      else if sicb.type = PX_BROADCAST then pData (pAddress + 1)
      else 0
    neuronId :=
      if sicb.type = PX_NEURON_ID then .ofFn fun k => pData (pAddress + 1 + k)
      else if sicb.type = PX_NEURON_ID_COMPACT then .ofFn fun k => pData (pAddress + k)
      else .replicate 6 0
    alt := sicb.path
    longTimer := false
    txTimer := txc.timer
    retry := txc.retry
    code := pData offset
    offset := offset + 1
    adjust := 0
    altKey := if altkey then gp.ltepAltKey p pData uninit else ⟨false, uninit.altKeyValue⟩ }

def ltepFull (service : ServiceType) : Bool :=
  if service = .unacknowledged then (gp.nwOutQ p.priority).full else (gp.tsaOutQ p.priority).full

/-- A message without acknowledgement goes to the queue without priority in any case. -/
def ltepForward (s : LtepSend) (proxyCount : UInt8) (data : List UInt8) :
    LonStatusCode × AppStackData :=
  let addr := s.addr (ltepDomain p)
  if s.service = .unacknowledged then
    gp.allocSendUnackd false s.alt true p.reqId addr s.code data.length data
  else if gp.tsaOutBufSize false < data.length + 1 then (.invalidBufferLength, gp.toAppStackData)
  else
    (.noError,
      gp.pushTsaOut p.priority fun slot =>
        { slot with
          destAddr := addr
          dmn := { slot.dmn with domainIndex := COMPUTE_DOMAIN_INDEX }
          service := s.service
          auth := p.auth
          tag := p.reqId
          altPathOverride := true
          altPath := if s.alt then 1 else 0
          priority := p.priority
          proxy := true
          proxyDone := false
          txInherit := true
          proxyCount := proxyCount
          txTimerDeltaLast := s.adjust
          altKey := s.altKey
          apdu := s.code :: data })

/-- Sends the message on if there is a buffer and it is long enough. After a second without a buffer the
sender is told. -/
def ltepSend (s : LtepSend) (proxyCount : UInt8) (buffer : Image) :
    LonStatusCode × ProxyStackData :=
  if gp.ltepFull p s.service then
    let expired := gp.proxyBufferWait.expired tickCount
    let gp := { gp with proxyBufferWait := expired.2 }
    if expired.1 then (.noError, gp.sendResponse p LT_ENHANCED_PROXY_FAILURE [proxyCount])
    else if gp.proxyBufferWait.running tickCount then (.noBufferAvailable, gp)
    else (.noBufferAvailable, { gp with proxyBufferWait := gp.proxyBufferWait.set tickCount 1000 })
  else
    let gp := { gp with proxyBufferWait := gp.proxyBufferWait.set tickCount 0 }
    let dataLen := p.pduSize - 1
    if 4 ≤ dataLen ∧ s.offset ≤ dataLen then
      let forwarded := gp.ltepForward p s proxyCount (buffer.slice s.offset (dataLen - s.offset))
      let gp := gp.withStack forwarded.2
      (.noError,
        if forwarded.1 ≠ .noError then gp.sendResponse p LT_ENHANCED_PROXY_FAILURE [proxyCount]
        else gp)
    else (.noError, gp)

/-- A message that is not for all agents. The second component is what its buffer holds afterwards. -/
def processLTEPOnce : (LonStatusCode × Image) × ProxyStackData :=
  let ph : ProxyHeader := ⟨pData 0⟩
  if ph.count ≠ 0 then
    let buffer := gp.ltepRewritten p pData uninit
    let sent := gp.ltepSend p tickCount (gp.ltepRepeat p pData uninit) (.ofNat ph.count) buffer
    ((sent.1, buffer), sent.2)
  else
    let sent := gp.ltepSend p tickCount (gp.ltepAgent p pData uninit) (.ofNat ph.count) pData
    ((sent.1, pData), sent.2)

def processProxyRepeaterAsAgent : ProxyStackData :=
  let len := (ProxyHeader.mk (pData 0)).txcpos + 1
  if len < p.pduSize ∧ p.srcAddr.dmn.domainIndex ≠ FLEX_DOMAIN then
    let arp := { p with
      service := .unacknowledged
      proxy := true
      pduSize := p.pduSize - len + 2 }
    let apdu := (uninit.apdu.set 0 0).write 1 (pData.slice len (arp.pduSize - 2))
    (gp.processLTEPOnce arp apdu tickCount uninit).2
  else gp

def proxyCopied : ProxyStackData :=
  let ph : ProxyHeader := ⟨pData 0⟩
  if ph.allAgents ∧ ph.count ≠ 0 then gp.processProxyRepeaterAsAgent p pData tickCount uninit else gp

def processLTEP : (LonStatusCode × Image) × ProxyStackData :=
  (gp.proxyCopied p pData tickCount uninit).processLTEPOnce p pData tickCount uninit

end ProxyStackData

end LonStack
