import LonStack.Lib.Prog
import LonStack.Tsa.Auth
import LonStack.Tsa.Send

namespace LonStack

open Lib

inductive EnvCall
  | networkReceive : TSAReceiveParam → EnvCall
  | networkSend : Bool → EnvCall
  | networkApdu : APPReceiveParam → EnvCall
  | networkCompletion : APPReceiveParam → EnvCall
  | appReceive
  | appCeRspReceive
  | appSend : Bool → TSASendParam → EnvCall
  | appSendApdu : Bool → NWSendParam → EnvCall
  | appRespond : TSASendParam → EnvCall
  | configure : Eeprom → EnvCall
  | tick : UInt32 → EnvCall

/-- A writer of an output queue marks the entry with the priority of the queue. -/
def EnvCall.apply : EnvCall → ProtocolStackData → ProtocolStackData
  | .networkReceive p, gp => { gp with tsaInQ := gp.tsaInQ.push fun _ => p }
  | .networkSend priority, gp =>
    { gp with nwOutQ := Function.update gp.nwOutQ priority (gp.nwOutQ priority).dropHead }
  | .networkApdu x, gp => { gp with appInQ := gp.appInQ.push fun _ => x }
  | .networkCompletion x, gp => { gp with appCeRspInQ := gp.appCeRspInQ.push fun _ => x }
  | .appReceive, gp => { gp with appInQ := gp.appInQ.dropHead }
  | .appCeRspReceive, gp => { gp with appCeRspInQ := gp.appCeRspInQ.dropHead }
  | .appSend priority p, gp =>
    gp.modifyTsaOut priority fun q => q.push fun _ => { p with priority := priority }
  | .appSendApdu priority x, gp => gp.pushNw priority fun _ => x
  | .appRespond p, gp => { gp with tsaRespQ := gp.tsaRespQ.push fun _ => p }
  | .configure eep, gp => { gp with eep := eep }
  | .tick t, gp => { gp with tickCount := t }

/-- The calls that the layers make. The first three stand for the entry of a function that handles
a received PDU; they change nothing themselves. -/
inductive Call
  | receiveNewMsg : Layer → TSAReceiveParam → Call
  | receiveRem : Layer → TSAReceiveParam → Call
  | processReply : Bool → TSAReceiveParam → Call
  | tpReceiveAck : TSAReceiveParam → Call
  | releaseExpired : Layer → Call
  | dropTsaIn
  | freeRR : Fin RECEIVE_TRANS_COUNT → Call
  | initRR : Layer → TSAReceiveParam → ServiceType → List UInt8 → Bool →
      Fin RECEIVE_TRANS_COUNT → Call
  | retryRR : UInt8 → Fin RECEIVE_TRANS_COUNT → Call
  | setNeedAuth : Bool → Fin RECEIVE_TRANS_COUNT → Call
  | noteAnswered : Fin RECEIVE_TRANS_COUNT → Call
  | initiateChallenge : Fin RECEIVE_TRANS_COUNT → Call
  | authenticate : Bool → TSAReceiveParam → Fin RECEIVE_TRANS_COUNT → Call
  | deliver : Fin RECEIVE_TRANS_COUNT → Call
  | tpSendAck : Fin RECEIVE_TRANS_COUNT → Call
  | storeResponse : List UInt8 → Fin RECEIVE_TRANS_COUNT → Call
  | snSendResponse : Bool → Bool → Fin RECEIVE_TRANS_COUNT → Call
  | dropTsaResp
  | sendReplyToChallenge : Bool → TSAReceiveParam → Call
  | sendCompletion : Bool → Bool → Call
  | terminate : Bool → Bool → Call
  | retransmit : Layer → Bool → Call
  | startTrans : Layer → Bool → TSASendParam → DestinationAddress → Nat → Call
  | countAck : Bool → Call
  | countMember : Bool → Nat → Call
  | takeResponse : TSAReceiveParam → TSASendParam → Call
  | restartTimer : Bool → Call
  | env : EnvCall → Call

def Call.apply : Call → ProtocolStackData → ProtocolStackData
  | .receiveNewMsg _ _, gp => gp
  | .receiveRem _ _, gp => gp
  | .processReply _ _, gp => gp
  | .tpReceiveAck _, gp => gp
  | .releaseExpired layer, gp => gp.releaseExpired layer
  | .dropTsaIn, gp => gp.dropTsaIn
  | .freeRR i, gp => gp.freeRR i
  | .initRR layer p serviceType apdu clearReqId i, gp =>
    gp.initRR layer p serviceType apdu clearReqId i
  | .retryRR altPath i, gp => gp.modifyRR i fun rr => { rr with altPath := rr.altPath ||| altPath }
  | .setNeedAuth needAuth i, gp => gp.modifyRR i fun rr => { rr with needAuth := needAuth }
  | .noteAnswered i, gp => gp.modifyRR i fun rr => { rr with transState := .done }
  | .initiateChallenge i, gp => gp.initiateChallenge i
  | .authenticate useOma p i, gp => gp.authenticate useOma p i
  | .deliver i, gp => gp.deliver i
  | .tpSendAck i, gp => gp.tpSendAck i
  | .storeResponse response i, gp =>
    gp.modifyRR i fun rr => { rr with response := response, transState := .responded }
  | .snSendResponse nullResponse flexResponse i, gp =>
    gp.snSendResponse i nullResponse flexResponse
  | .dropTsaResp, gp => { gp with tsaRespQ := gp.tsaRespQ.dropHead }
  | .sendReplyToChallenge useOma p, gp => gp.sendReplyToChallenge useOma p
  | .sendCompletion priority success, gp => gp.sendCompletion priority success
  | .terminate priority success, gp => gp.terminate priority success
  | .retransmit layer priority, gp => gp.retransmit layer priority
  | .startTrans layer priority p nwDestAddr rptTimer, gp =>
    gp.startTrans layer priority p nwDestAddr rptTimer
  | .countAck priority, gp => gp.countAck priority
  | .countMember priority member, gp => gp.countMember priority member
  | .takeResponse p sent, gp => gp.takeResponse p sent
  | .restartTimer priority, gp => gp.restartTimer priority
  | .env e, gp => e.apply gp

def Call.movesPool : Call → ProtocolStackData → Bool
  | .sendReplyToChallenge useOma p, gp => gp.movesPool useOma p
  | _, _ => false

def Call.overwritesStatus : Call → ProtocolStackData → Bool
  | .sendReplyToChallenge useOma p, gp => gp.overwritesStatus useOma p
  | _, _ => false

def Call.overruns (c : Call) (gp : ProtocolStackData) : Bool :=
  c.movesPool gp || c.overwritesStatus gp

theorem Call.not_overruns_iff {c : Call} {gp : ProtocolStackData} :
    c.overruns gp = false ↔ c.movesPool gp = false ∧ c.overwritesStatus gp = false :=
  Bool.or_eq_false_iff

abbrev Tsa (α : Type) := Prog ProtocolStackData Call α

namespace Tsa

def gp : Tsa ProtocolStackData := .read .pure

def call (c : Call) : Tsa Unit := .perform c

def terminateTrans (priority : Bool) : Tsa Unit := do
  let gp ← gp
  match (gp.tsaOutQ priority).peek with
  | none => pure ()
  | some p =>
    if gp.appCeRspInQ.full then pure ()
    else call (.terminate priority ((gp.xmitRec priority).succeeded p))

def xmitTimerExpiration (layer : Layer) (priority : Bool) : Tsa Unit := do
  let gp ← gp
  let x := gp.xmitRec priority
  if x.retriesLeft = 0 || x.answered then terminateTrans priority
  else call (.retransmit layer priority)

def sendNewMsg (layer : Layer) (priority : Bool) : Tsa Unit := do
  let gp ← gp
  match (gp.tsaOutQ priority).peek with
  | none => pure ()
  | some p =>
    if layer = .transport ∧ p.service ≠ .acknowledged ∧ p.service ≠ .repeated then pure ()
    else if layer = .transport ∧ p.proxy = false ∧ nvLastTag p.tag then
      call (.sendCompletion priority true)
    else if layer = .session ∧ p.service ≠ .request then pure ()
    else if p.rejected (gp.nwOutBufSize priority) then call (.sendCompletion priority false)
    else
      match decodeRptTimer p.destAddr.repeatTimer, p.destAddr.tsaAddressConversion p.dmn with
      | some rptTimer, .ok nwDestAddr =>
        call (.startTrans layer priority p nwDestAddr rptTimer)
      | _, _ => call (.sendCompletion priority false)

def layerSend (layer : Layer) : Tsa Unit := do
  let gp ← gp
  let timeout (priority : Bool) : Bool :=
    (gp.xmitRec priority).status == layer.txStatus &&
      !(gp.xmitRec priority).xmitTimer.running gp.tickCount
  let ready (priority : Bool) : Bool :=
    (gp.xmitRec priority).status == .unused && !(gp.tsaOutQ priority).empty &&
      !(gp.nwOutQ priority).full
  if timeout true then xmitTimerExpiration layer true
  else if ready true then sendNewMsg layer true
  else if timeout false then xmitTimerExpiration layer false
  else if ready false then sendNewMsg layer false
  else pure ()

def transportLayerSend : Tsa Unit := do
  let gp ← gp
  if gp.sendBlocked then pure () else layerSend .transport

def sendResponse (p : TSASendParam) : Tsa Unit := do
  let gp ← gp
  if p.service ≠ .response then call .dropTsaResp
  else
    match gp.findRR p.reqId with
    | none => call .dropTsaResp
    | some i =>
      call (.storeResponse p.apdu i)
      call (.snSendResponse p.nullResponse p.flexResponse i)
      call .dropTsaResp

def sessionLayerSend : Tsa Unit := do
  let gp ← gp
  if gp.sendBlocked then pure ()
  else if !gp.tsaRespQ.empty && !(gp.nwOutQ false).full then
    match gp.tsaRespQ.peek with
    | none => pure ()
    | some p => sendResponse p
  else layerSend .session

def tpReceiveAck (p : TSAReceiveParam) : Tsa Unit := do
  call (.tpReceiveAck p)
  let gp₀ ← gp
  if gp₀.answerIsStale .transport p || gp₀.ackOfOtherSubnet p then call .dropTsaIn
  else
    match (gp₀.xmitRec p.priority).nwDestAddr.addressMode with
    | .multicast =>
      if p.srcAddr.ackNode.member.toNat ≤ MAX_GROUP_NUMBER then
        call (.countMember p.priority p.srcAddr.ackNode.member.toNat)
        let gp₁ ← gp
        if (gp₁.xmitRec p.priority).destCount = (gp₁.xmitRec p.priority).ackCount then
          terminateTrans p.priority
    | .unbound => pure ()
    | .multicastAck => pure ()
    | _ =>
      call (.countAck p.priority)
      terminateTrans p.priority
    call .dropTsaIn
    call (.restartTimer p.priority)

def snReceiveResponse (p : TSAReceiveParam) : Tsa Unit := do
  let gp₀ ← gp
  if gp₀.answerIsStale .session p then call .dropTsaIn
  else if gp₀.appCeRspInQ.full then pure ()
  else
    match (gp₀.tsaOutQ p.priority).peek with
    | none => pure ()
    | some sent =>
      call (.takeResponse p sent)
      let gp₁ ← gp
      if ProtocolStackData.responseEnds p sent (gp₀.responseAccepted p sent)
          (gp₁.xmitRec p.priority) then
        terminateTrans p.priority
      call .dropTsaIn
      call (.restartTimer p.priority)

def handleNewMsg (layer : Layer) (i : Fin RECEIVE_TRANS_COUNT) : Tsa Unit := do
  let gp₀ ← gp
  if (gp₀.recvRec i).unchallenged then call (.initiateChallenge i)
  else
    if (gp₀.recvRec i).handled = false then call (.deliver i)
    let gp₁ ← gp
    let rr := gp₁.recvRec i
    match layer with
    | .transport =>
      if rr.transState = .delivered ∧ rr.serviceType = .acknowledged then call (.tpSendAck i)
    | .session => if rr.transState = .responded then call (.snSendResponse false false i)

def receiveNewMsg (layer : Layer) (p : TSAReceiveParam) : Tsa Unit := do
  call (.receiveNewMsg layer p)
  let gp ← gp
  let init := fun i => Call.initRR layer p (p.newMsgService layer) p.newMsgApdu true i
  let found :=
    match gp.retrieveRR p.srcAddr p.priority with
    | none => gp.allocateRR.map fun i => (i, init i)
    | some i =>
      some (i, if p.isRetryOf layer (gp.recvRec i) then .retryRR p.altPath i else init i)
  match found with
  | none => call .dropTsaIn
  | some (i, prepare) =>
    call prepare
    call .dropTsaIn
    call (.setNeedAuth (gp.eep.nodeConfigured && p.pdu.auth) i)
    handleNewMsg layer i

/-- A REM/MSG for which there is no record. If none can be allocated, the PDU stays at the head of
the input queue. -/
def receiveRemAsNew (layer : Layer) (p : TSAReceiveParam) : Tsa Unit := do
  let gp₀ ← gp
  match gp₀.allocateRR with
  | none => pure ()
  | some i =>
    call (.initRR layer p layer.remService p.remApdu false i)
    call .dropTsaIn
    call (.setNeedAuth p.pdu.auth i)
    if p.pdu.auth then call (.initiateChallenge i)
    else
      call (.deliver i)
      let gp₁ ← gp
      if layer = .transport ∧ (gp₁.recvRec i).transState = .delivered then call (.tpSendAck i)

def answerRem (layer : Layer) (i : Fin RECEIVE_TRANS_COUNT) : Tsa Unit := do
  let gp₀ ← gp
  if (gp₀.recvRec i).unchallenged then
    call (.initiateChallenge i)
    call .dropTsaIn
  else
    if (gp₀.recvRec i).handled = false then call (.deliver i)
    let gp₁ ← gp
    let rr := gp₁.recvRec i
    call .dropTsaIn
    match layer with
    | .transport =>
      if rr.transState = .delivered ∨ rr.transState = .responded then call (.tpSendAck i)
    | .session => if rr.transState = .responded then call (.snSendResponse false false i)

def receiveRemFor (layer : Layer) (p : TSAReceiveParam) (i : Fin RECEIVE_TRANS_COUNT) :
    Tsa Unit := do
  let gp ← gp
  let rr := gp.recvRec i
  match gp.eep.isGroupMember rr.srcAddr.dmn.domainIndex rr.srcAddr.group with
  | none => call .dropTsaIn
  | some member =>
    if p.asksMember member then
      if p.isReminder then call .dropTsaIn else answerRem layer i
    else
      if rr.transState = .delivered ∨ rr.transState = .responded then call (.noteAnswered i)
      call .dropTsaIn

def receiveRem (layer : Layer) (p : TSAReceiveParam) : Tsa Unit := do
  call (.receiveRem layer p)
  let gp ← gp
  match gp.retrieveRR p.srcAddr p.priority with
  | none => if p.isReminder then call .dropTsaIn else receiveRemAsNew layer p
  | some i =>
    let rr := gp.recvRec i
    if p.isRemOf layer rr = false then
      if p.isReminder then call .dropTsaIn
      else
        if rr.transState = .delivered ∨ rr.transState = .done then call (.freeRR i)
        receiveRemAsNew layer p
    else if rr.serviceType = .repeated then
      if p.isReminder then call .dropTsaIn else receiveRemAsNew layer p
    else receiveRemFor layer p i

def processReply (useOma : Bool) (p : TSAReceiveParam) : Tsa Unit := do
  call (.processReply useOma p)
  let gp₀ ← gp
  match gp₀.retrieveRR p.replySource p.priority with
  | none => call .dropTsaIn
  | some i =>
    let rr := gp₀.recvRec i
    if rr.transState ≠ .authenticating then call .dropTsaIn
    else if p.pdu.fmt = 1 ∧ p.authGroup ≠ rr.srcAddr.group then call .dropTsaIn
    else if p.transNum ≠ rr.transNum then call .dropTsaIn
    else
      call (.authenticate useOma p i)
      call (.deliver i)
      let gp₁ ← gp
      let rr := gp₁.recvRec i
      if rr.status = .transport ∧ rr.serviceType = .acknowledged ∧
          rr.transState = .delivered then
        call (.tpSendAck i)
      call .dropTsaIn

def transportLayerReceive : Tsa Unit := do
  call (.releaseExpired .transport)
  let gp ← gp
  match gp.tsaInQ.peek with
  | none => pure ()
  | some p =>
    if p.pduType ≠ .tpdu then pure ()
    else if p.pduSize < 1 then call .dropTsaIn
    else if p.pdu.pduMsgType = Pdu.ACK_MSG then tpReceiveAck p
    else if p.pdu.pduMsgType = Pdu.ACKD_MSG ∨ p.pdu.pduMsgType = Pdu.UNACK_RPT_MSG then
      receiveNewMsg .transport p
    else if p.pdu.pduMsgType = Pdu.REMINDER_MSG ∨ p.pdu.pduMsgType = Pdu.REM_MSG_MSG then
      receiveRem .transport p
    else call .dropTsaIn

def sessionLayerReceive : Tsa Unit := do
  call (.releaseExpired .session)
  let gp ← gp
  match gp.tsaInQ.peek with
  | none => pure ()
  | some p =>
    if p.pduType ≠ .spdu then pure ()
    else if p.pduSize < 1 then call .dropTsaIn
    else if p.pdu.pduMsgType = Pdu.RESPONSE_MSG then snReceiveResponse p
    else if p.pdu.pduMsgType = Pdu.REQUEST_MSG then receiveNewMsg .session p
    else if p.pdu.pduMsgType = Pdu.REMINDER_MSG ∨ p.pdu.pduMsgType = Pdu.REM_MSG_MSG then
      receiveRem .session p
    else call .dropTsaIn

def sendChallenges : List (Fin RECEIVE_TRANS_COUNT) → Tsa Unit
  | [] => pure ()
  | i :: is => do
    let gp ← gp
    let rr := gp.recvRec i
    if rr.status ≠ .unused ∧ rr.needAuth ∧ rr.transState = .justReceived then
      call (.initiateChallenge i)
    sendChallenges is

def authSend : Tsa Unit := sendChallenges (List.finRange RECEIVE_TRANS_COUNT)

def authReceive : Tsa Unit := do
  let gp ← gp
  match gp.tsaInQ.peek with
  | none => pure ()
  | some p =>
    if p.pduType ≠ .authpdu then pure ()
    else if p.pdu.authMsgType = Pdu.CHALLENGE_MSG ∨
        p.pdu.authMsgType = Pdu.CHALLENGE_OMA_MSG then
      call (.sendReplyToChallenge (p.pdu.authMsgType == Pdu.CHALLENGE_OMA_MSG) p)
    else processReply (p.pdu.authMsgType == Pdu.REPLY_OMA_MSG) p

end Tsa

inductive Event
  | transportLayerSend
  | sessionLayerSend
  | transportLayerReceive
  | sessionLayerReceive
  | authSend
  | authReceive
  | env : EnvCall → Event

def Event.prog : Event → Tsa Unit
  | .transportLayerSend => Tsa.transportLayerSend
  | .sessionLayerSend => Tsa.sessionLayerSend
  | .transportLayerReceive => Tsa.transportLayerReceive
  | .sessionLayerReceive => Tsa.sessionLayerReceive
  | .authSend => Tsa.authSend
  | .authReceive => Tsa.authReceive
  | .env e => Tsa.call (.env e)

end LonStack
