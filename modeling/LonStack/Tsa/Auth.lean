import LonStack.Tsa.Record

namespace LonStack

/-- One round of the cipher: byte `j` is replaced, depending on the key byte, the byte after it
and the next byte `m` of the message. -/
def encryptRound (keyByte : UInt8) (v : Challenge) (j : Fin 8) (m : UInt8) : Challenge :=
  let n := ~~~(v[j] + UInt8.ofNat j)
  let next := v[(j + 1 : Fin 8)]
  if keyByte &&& (1 <<< UInt8.ofNat (7 - j)) ≠ 0 then
    v.set j (next + m + ((n <<< 1) + (n >>> 7)))
  else v.set j (next + m - ((n >>> 1) + (n <<< 7)))

/-- The rounds for one byte of the key. The message is consumed from its end, so it is kept
reversed; when it is used up it is padded with 0. -/
def encryptKeyByte (keyByte : UInt8) (s : Challenge × List UInt8) : Challenge × List UInt8 :=
  [7, 6, 5, 4, 3, 2, 1, 0].foldl
    (fun s j => (encryptRound keyByte s.1 j (s.2.headD 0), s.2.tail)) s

def encryptPass (key : List UInt8) (s : Challenge × List UInt8) : Challenge × List UInt8 :=
  key.foldl (fun s keyByte => encryptKeyByte keyByte s) s

def encryptLoop (key : List UInt8) : Nat → Challenge × List UInt8 → Challenge × List UInt8
  | 0, s => s
  | fuel + 1, s => if s.2.isEmpty then s else encryptLoop key fuel (encryptPass key s)

/-- The key bytes in the order of the passes: open media authentication goes over the 12 bytes of
the key and once more over the first half of them. -/
def keyPasses (key : AuthKey × AuthKey) (isOma : Bool) : List UInt8 :=
  if isOma then key.1.toList ++ key.2.toList ++ key.1.toList else key.1.toList

def encrypt (rand : Challenge) (apdu : List UInt8) (key : AuthKey × AuthKey) (isOma : Bool)
    (omaDest : OmaAddress) : Challenge :=
  let message := if isOma then omaDest.toList ++ apdu else apdu
  (encryptLoop (keyPasses key isOma) message.length (rand, message.reverse)).1

def OmaAddress.physical (uniqueId : UniqueId) : OmaAddress :=
  ((uniqueId.push 0xFF).push 0xFF).push 0xFF

def OmaAddress.logical (dom : IzotDomain) (addr₀ addr₁ : UInt8) : OmaAddress :=
  ((dom.id.push (UInt8.ofNat dom.idLength)).push addr₀).push addr₁

def replyOmaDestAddr (eep : Eeprom) (src : SourceAddress) (fmt group : UInt8) : OmaAddress :=
  let dom := eep.domainTable src.dmn.domainIndex
  if fmt = 3 then .physical eep.uniqueNodeId
  else if fmt = 2 then .logical dom dom.subnet dom.node
  else if fmt = 1 then .logical dom group 0xFF
  else .logical dom 0xFF 0xFF

def challengeOmaDestAddr (eep : Eeprom) (dest : DestinationAddress) : OmaAddress :=
  let dom := eep.domainTable dest.dmn.domainIndex
  match dest.addr with
  | .uniqueNodeId _ id => .physical id
  | .subnetNode a => .logical dom a.subnet (a.setSelField false).node
  | .multicast group => .logical dom group 0xFF
  | _ => .logical dom 0xFF 0xFF

def Eeprom.behindDomainTable (eep : Eeprom) : AuthKey :=
  let a := eep.addrTable 0
  #v[a.typeSize, a.domainMember, a.repeatRetry, a.receiveTransmit, a.group,
    (eep.addrTable 1).typeSize]

/-- The keys are copied from domain `domIdx` on, 12 bytes at a time into rows of 6. So row 1 first
gets the bytes behind the key, and its own copy runs over into `version`, the padding and the byte
behind the record. -/
def TransmitRecord.loadKeys (eep : Eeprom) (domIdx : Nat) (x : TransmitRecord) : TransmitRecord :=
  if domIdx = 0 then
    { x with
      altKey :=
        { x.altKey with altKeyValue := ((eep.domainTable 0).key, (eep.domainTable 1).key) }
      version := ((eep.addrTable 0).typeSize &&& 3).toNat }
  else if domIdx = 1 then
    { x with
      altKey := { x.altKey with altKeyValue := ((eep.domainTable 1).key, eep.behindDomainTable) } }
  else x

def Eeprom.authKey (eep : Eeprom) (useOma : Bool) (domainIndex : Nat) : AuthKey × AuthKey :=
  if useOma then ((eep.domainTable 0).key, (eep.domainTable 1).key)
  else
    let domIdx :=
      if domainIndex = FLEX_DOMAIN then (if (eep.domainTable 0).invalid then 1 else 0)
      else domainIndex
    ((eep.domainTable domIdx).key, default)

namespace TSAReceiveParam

def authBytes (p : TSAReceiveParam) : List UInt8 := bytesAt p.pdu.data p.dataIndex 8

def authGroup (p : TSAReceiveParam) : UInt8 := p.pdu.byte (p.dataIndex + 8)

def replySource (p : TSAReceiveParam) : SourceAddress :=
  { p.srcAddr with group := p.authGroup, addressMode := addrFmtToMode p.pdu.fmt }

end TSAReceiveParam

def ReceiveRecord.challenge (rr : ReceiveRecord) (oma : Bool) (destAddr : DestinationAddress)
    (slot : NWSendParam) : NWSendParam :=
  let group := if rr.srcAddr.addressMode = .multicast then [rr.srcAddr.group] else []
  { slot with
    destAddr := destAddr
    pduType := .authpdu
    deltaBL := 0
    altPath := rr.altPath ||| ALT_CHANNEL_LOCK
    pduSize := 9 + group.length + dataIndex rr.version
    dropIfUnconfigured := false
    version := sentVersion rr.version
    pdu := slot.pdu.store
      (Pdu.authHdr (addrModeToFmt rr.srcAddr.addressMode)
        (if oma then Pdu.CHALLENGE_OMA_MSG else Pdu.CHALLENGE_MSG)
        (transNumHi rr.version rr.transNum))
      (transNumLo rr.version rr.transNum ++ rr.rand.toList ++ group) }

def TransmitRecord.reply (x : TransmitRecord) (p : TSAReceiveParam) (useOma : Bool)
    (encryptValue : Challenge) (slot : NWSendParam) : NWSendParam :=
  let group := if p.pdu.fmt = 1 then [p.authGroup] else []
  let destAddr :=
    if p.srcAddr.subnetAddr.nodeId = 0 ∧ p.pdu.fmt = 3 then x.nwDestAddr
    else { slot.destAddr with addr := .subnetNode p.srcAddr.subnetAddr }
  { slot with
    destAddr :=
      { destAddr with
        dmn := { destAddr.dmn with domainIndex := p.srcAddr.dmn.domainIndex } }
    pduType := .authpdu
    deltaBL := 0
    altPath := p.altPath ||| ALT_CHANNEL_LOCK
    pduSize := 9 + group.length + dataIndex p.version
    dropIfUnconfigured := false
    version := sentVersion p.version
    pdu := slot.pdu.store
      (Pdu.authHdr p.pdu.fmt (if useOma then Pdu.REPLY_OMA_MSG else Pdu.REPLY_MSG)
        (transNumHi p.version x.transNum))
      (transNumLo p.version x.transNum ++ encryptValue.toList ++ group) }

namespace ProtocolStackData

def randomValue (gp : ProtocolStackData) : Challenge :=
  Vector.ofFn fun i =>
    gp.prevChallenge[i] + UInt8.ofNat (gp.rand i % 256) + UInt8.ofNat (gp.tickCount.toNat % 256)

def drawChallenge (i : Fin RECEIVE_TRANS_COUNT) (gp : ProtocolStackData) : ProtocolStackData :=
  if (gp.recvRec i).transState = .authenticating then gp
  else
    { gp.modifyRR i fun rr => { rr with rand := gp.randomValue } with
      prevChallenge := gp.randomValue
      rand := fun k => gp.rand (k + 8) }

def initiateChallenge (i : Fin RECEIVE_TRANS_COUNT) (gp : ProtocolStackData) :
    ProtocolStackData :=
  if (gp.nwOutQ (gp.recvRec i).priority).full then gp
  else
    let gp := gp.drawChallenge i
    let rr := gp.recvRec i
    match rr.answerAddr gp.eep rr.srcAddr.dmn with
    | none => gp
    | some destAddr =>
      (gp.modifyRR i fun rr => { rr with transState := .authenticating }).pushNw rr.priority
        (rr.challenge gp.eep.authOma destAddr)

def xmitApdu (gp : ProtocolStackData) (priority : Bool) : List UInt8 :=
  bytesAt ((gp.tsaOutQ priority).data (gp.xmitRec priority).apdu).apdu 0
    (gp.xmitRec priority).apduSize

def challengeIsStale (x : TransmitRecord) (p : TSAReceiveParam) : Bool :=
  x.status == .unused || !x.auth || p.transNum != x.transNum ||
    addrFmtToMode p.pdu.fmt != x.nwDestAddr.addressMode ||
    (p.pdu.fmt == 1 && x.nwDestAddr.addr != .multicast p.authGroup)

def replyingRec (gp : ProtocolStackData) (useOma : Bool) (p : TSAReceiveParam) : TransmitRecord :=
  let x := gp.xmitRec p.priority
  if x.altKey.altKey then x
  else x.loadKeys gp.eep (if useOma then 0 else p.srcAddr.dmn.domainIndex)

def replyValue (gp : ProtocolStackData) (useOma : Bool) (p : TSAReceiveParam) : Challenge :=
  let x := gp.replyingRec useOma p
  encrypt (Vector.ofFn fun i => p.authBytes.getD i 0) (gp.xmitApdu p.priority)
    x.altKey.altKeyValue useOma (challengeOmaDestAddr gp.eep x.nwDestAddr)

def answerChallenge (useOma : Bool) (p : TSAReceiveParam) (gp : ProtocolStackData) :
    ProtocolStackData :=
  if p.srcAddr.dmn.domainIndex = FLEX_DOMAIN then gp.dropTsaIn
  else if challengeIsStale (gp.xmitRec p.priority) p then gp.dropTsaIn
  else if (gp.nwOutQ p.priority).full then gp
  else
    let x := gp.replyingRec useOma p
    let gp' := gp.pushNw p.priority (x.reply p useOma (gp.replyValue useOma p))
    { gp'.dropTsaIn with
      xmitRec := Function.update gp.xmitRec p.priority
        { x with
          xmitTimer := x.xmitTimer.set gp.tickCount (UInt32.ofNat x.xmitTimerValue) } }

def keysRunOver (useOma : Bool) (p : TSAReceiveParam) (gp : ProtocolStackData) : Bool :=
  p.srcAddr.dmn.domainIndex != FLEX_DOMAIN && !challengeIsStale (gp.xmitRec p.priority) p &&
    !(gp.nwOutQ p.priority).full && !(gp.xmitRec p.priority).altKey.altKey &&
    (useOma || p.srcAddr.dmn.domainIndex == 0)

/-- With 8-byte pointers the last of the 12 bytes is the one behind the record. -/
def byteBehind (gp : ProtocolStackData) : UInt8 := (gp.eep.addrTable 1).typeSize

def moveRecvRec (low : UInt8) (gp : ProtocolStackData) : ProtocolStackData :=
  if low = gp.recvRecLow then gp
  else { gp with recvRecLow := low, recvRec := gp.recvRecAt low gp.recvRec }

/-- Behind the transmit record of a priority: the record of the priority messages, which starts with
its status, follows the other one, and the pointer to the receive records follows both. -/
def writeBehind (priority : Bool) (byte : UInt8) (gp : ProtocolStackData) : ProtocolStackData :=
  if priority then gp.moveRecvRec byte
  else
    { gp with
      xmitRec := Function.update gp.xmitRec true { gp.xmitRec true with status := .ofByte byte } }

def sendReplyToChallenge (useOma : Bool) (p : TSAReceiveParam) (gp : ProtocolStackData) :
    ProtocolStackData :=
  if gp.keysRunOver useOma p then (gp.answerChallenge useOma p).writeBehind p.priority gp.byteBehind
  else gp.answerChallenge useOma p

def movesPool (useOma : Bool) (p : TSAReceiveParam) (gp : ProtocolStackData) : Bool :=
  p.priority && gp.keysRunOver useOma p && gp.byteBehind != gp.recvRecLow

def overwritesStatus (useOma : Bool) (p : TSAReceiveParam) (gp : ProtocolStackData) : Bool :=
  !p.priority && gp.keysRunOver useOma p && .ofByte gp.byteBehind != (gp.xmitRec true).status

def expectedReply (gp : ProtocolStackData) (useOma : Bool) (p : TSAReceiveParam)
    (i : Fin RECEIVE_TRANS_COUNT) : Challenge :=
  let rr := gp.recvRec i
  encrypt rr.rand rr.apdu (gp.eep.authKey useOma rr.srcAddr.dmn.domainIndex) useOma
    (replyOmaDestAddr gp.eep rr.srcAddr p.pdu.fmt p.authGroup)

def authenticate (useOma : Bool) (p : TSAReceiveParam) (i : Fin RECEIVE_TRANS_COUNT)
    (gp : ProtocolStackData) : ProtocolStackData :=
  gp.modifyRR i fun rr =>
    { rr with
      auth := (gp.expectedReply useOma p i).toList == p.authBytes
      transState := .authenticated }

end ProtocolStackData

end LonStack
