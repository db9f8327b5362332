import LonStack.App.Datapoint

namespace LonStack

open Lib

def GET_NV_UPDATE_TAG (index : Int) : MsgTag := 0xC000 ||| UInt16.ofInt index

def GET_NV_POLL_TAG (index : Int) : MsgTag := 0x8000 ||| UInt16.ofInt index

def SendAddress.copyEntry (a : SendAddress) (m : Image) (ap : Nat) : SendAddress :=
  { a with
    typeSize := m ap
    domainNode := m (ap + 1)
    repeatRetry := m (ap + 2)
    rsvdTransmit := m (ap + 3)
    subnet := m (ap + 4) }

/-- A call of the application to propagate or to poll: `Propagate`, `PropagateNV` and
`PropagateArrayNV`, or `Poll`, `PollNV` and `PollArrayNV`. -/
inductive NvCall
  | all
  | nv (nvIndexIn : Int)
  | arrayNv (arrayNVIndexIn indexIn : Int)
  deriving DecidableEq, Repr

namespace AppStackData

variable (gp : AppStackData)

/-- Schedules a list of indices one after the other, as long as there is room for one more and for
the end of the series. The numbers are the indices scheduled and the space that is left. -/
def scheduleEach (this : AppStackData → Int → LonStatusCode × AppStackData) :
    List Nat → Nat → Nat → AppStackData → Nat × AppStackData
  | [], count, _, gp => (count, gp)
  | j :: rest, count, queueSpace, gp =>
    if queueSpace ≤ 1 then (count, gp)
    else
      match this gp j with
      | (.noError, gp') => scheduleEach this rest (count + 1) (queueSpace - 1) gp'
      | (_, gp') => scheduleEach this rest count queueSpace gp'

def indicesOf (primaryIndex : Nat) : List Nat :=
  primaryIndex :: gp.aliasIndices.filter fun j => gp.getPrimaryIndex j == primaryIndex

def propagateThisIndex (primaryIndex : Int) (nvIndexIn : Int) : LonStatusCode × AppStackData :=
  match gp.getNVStructPtr nvIndexIn with
  | none => (.noError, gp.crash)
  | some nvStructPtr =>
    if nvStructPtr.direction ≠ IzotDatapointDirectionIsOutput then (.invalidParameter, gp)
    else if gp.nvOutIndexQ.full then (.noBufferAvailable, gp)
    else
      let nv := gp.nvFixed primaryIndex
      let fill := fun slot : NvOutEntry => { slot with index := nvIndexIn }
      if NV_SYNC primaryIndex then
        if nv.nvLength.toNat ≤ gp.nvOutIndexBufSize - 2 then
          (.noError,
            { gp with
              nvOutIndexQ := gp.nvOutIndexQ.push fun slot =>
                { fill slot with value := slot.value.copy 0 gp.mem nv.nvAddress nv.nvLength.toNat } })
        else
          (.invalidMessageLength,
            { gp with nvOutIndexQ := gp.nvOutIndexQ.fillTail (fill gp.nvOutIndexQ.tailSlot) })
      else (.noError, { gp with nvOutIndexQ := gp.nvOutIndexQ.push fill })

def endOutputs : AppStackData :=
  { gp with nvOutIndexQ := gp.nvOutIndexQ.push fun slot => { slot with index := -1 } }

def propagateThisPrimary (nvIndexIn : Nat) : AppStackData :=
  let queueSpace := gp.nvOutIndexQ.capacity - gp.nvOutIndexQ.entries
  if gp.isNVBound nvIndexIn then
    match scheduleEach (fun gp => gp.propagateThisIndex nvIndexIn) (gp.indicesOf nvIndexIn) 0
        queueSpace gp with
    | (0, gp') => gp'.updateCompleted nvIndexIn .outputDpPropagateFailure
    | (_ + 1, gp') => gp'.endOutputs
  else gp.updateCompleted nvIndexIn .noError

def pollThisIndex (nvIndexIn : Int) : LonStatusCode × AppStackData :=
  match gp.getNVStructPtr nvIndexIn with
  | none => (.noError, gp.crash)
  | some nvStructPtr =>
    if nvStructPtr.direction ≠ IzotDatapointDirectionIsInput then (.invalidParameter, gp)
    else if gp.nvInIndexQ.full then (.noBufferAvailable, gp)
    else (.noError, { gp with nvInIndexQ := gp.nvInIndexQ.push fun _ => nvIndexIn })

def endPolls : AppStackData := { gp with nvInIndexQ := gp.nvInIndexQ.push fun _ => -1 }

def pollThisPrimary (nvIndexIn : Nat) : AppStackData :=
  let queueSpace := gp.nvInIndexQ.capacity - gp.nvInIndexQ.entries
  if gp.isNVBound nvIndexIn then
    match scheduleEach pollThisIndex (gp.indicesOf nvIndexIn) 0 queueSpace gp with
    | (0, gp') => gp'.updateCompleted nvIndexIn .readFailed
    | (_ + 1, gp') => gp'.endPolls
  else gp.updateCompleted nvIndexIn .noError

def primaries : NvCall → List Nat
  | .all => List.range gp.nvTableSize
  | .nv nvIndexIn =>
    if nvIndexIn < 0 ∨ gp.nvTableSize ≤ nvIndexIn then []
    else
      let (_, dim, baseIndex) := gp.isArrayNV nvIndexIn
      List.range' nvIndexIn.toNat (if nvIndexIn ≠ baseIndex then 1 else dim)
  | .arrayNv arrayNVIndexIn indexIn =>
    if arrayNVIndexIn < 0 ∨ gp.nvTableSize ≤ arrayNVIndexIn then []
    else
      let (isArray, dim, baseIndex) := gp.isArrayNV arrayNVIndexIn
      let indexIn := if isArray ∧ baseIndex = arrayNVIndexIn then indexIn else 0
      if indexIn < 0 ∨ dim ≤ indexIn then [] else [(arrayNVIndexIn + indexIn).toNat]

def propagate (call : NvCall) : AppStackData :=
  (gp.primaries call).foldl propagateThisPrimary gp

def poll (call : NvCall) : AppStackData := (gp.primaries call).foldl pollThisPrimary gp

def connect (source target : Int) (reported : Int) : AppStackData :=
  let nvIn := gp.nvFixed target
  let nv := gp.nvFixed source
  if nv.nvLength ≠ nvIn.nvLength then gp
  else
    let gp' := gp.withMem (gp.mem.copy nvIn.nvAddress gp.mem nv.nvAddress nv.nvLength.toNat)
    if gp'.appPgmRuns then gp'.updateOccurred reported else gp'

def turnAround (nvStrPtr : IzotDatapointConfig) (primaryIndex : Int) : AppStackData :=
  if nvStrPtr.turnaround then
    match gp.firstMatch nvStrPtr.selector IzotDatapointDirectionIsInput with
    | none => gp
    | some i => gp.connect primaryIndex (gp.getPrimaryIndex i) (gp.getPrimaryIndex i)
  else gp

/-- The message with a special tag that the transport layer sends back at once. -/
def sendLast (tag : MsgTag) (fill : TSASendParam → TSASendParam) : AppStackData :=
  gp.pushTsaOut false fun slot =>
    { fill slot with altPathOverride := false, apdu := [], tag := tag, service := .acknowledged }

def outputQFull (nvStrPtr : IzotDatapointConfig) : Bool :=
  if nvStrPtr.service = .unacknowledged then (gp.nwOutQ nvStrPtr.priority).full
  else (gp.tsaOutQ nvStrPtr.priority).full

def outputBufSize (nvStrPtr : IzotDatapointConfig) : Nat :=
  if nvStrPtr.service = .unacknowledged then gp.nwOutBufSize nvStrPtr.priority
  else gp.tsaOutBufSize nvStrPtr.priority

def updateValue (e : NvOutEntry) (primaryIndex : Int) : List UInt8 :=
  let nv := gp.nvFixed primaryIndex
  if NV_SYNC primaryIndex then
    networkData e.value 0 nv.nvLength.toNat (gp.ibolSeq primaryIndex)
  else networkData gp.mem nv.nvAddress nv.nvLength.toNat (gp.ibolSeq primaryIndex)

def nvMessage (nvStrPtr : IzotDatapointConfig) (ap : Nat) (service : ServiceType) (tag : MsgTag)
    (apdu : List UInt8) (slot : TSASendParam) : TSASendParam :=
  { slot with
    altPathOverride := false
    dmn := { slot.dmn with domainIndex := COMPUTE_DOMAIN_INDEX }
    destAddr := slot.destAddr.copyEntry gp.mem ap
    service := service
    auth := nvStrPtr.authentication
    tag := tag
    priority := nvStrPtr.priority
    apdu := apdu }

def sendUpdate (e : NvOutEntry) (nvStrPtr : IzotDatapointConfig) (primaryIndex : Int) :
    AppStackData :=
  let nvLength := (gp.nvFixed primaryIndex).nvLength.toNat
  if gp.outputBufSize nvStrPtr < 2 + nvLength then gp
  else
    match gp.accessAddress nvStrPtr.addrIndex with
    | none => gp.crash
    | some ap =>
      let code := nvCode IzotDatapointDirectionIsInput nvStrPtr.selHigh
      let data := nvStrPtr.selectorLow :: gp.updateValue e primaryIndex
      if nvStrPtr.service = .unacknowledged then
        (gp.allocSendUnackd nvStrPtr.priority false false (GET_NV_UPDATE_TAG primaryIndex)
          (.ofImage gp.mem ap) code (nvLength + 1) data).2
      else
        gp.pushTsaOut nvStrPtr.priority
          (gp.nvMessage nvStrPtr ap nvStrPtr.service (GET_NV_UPDATE_TAG primaryIndex) (code :: data))

def sendVarOf (e : NvOutEntry) (nvStrPtr : IzotDatapointConfig) : AppStackData :=
  let primaryIndex := gp.getPrimaryIndex e.index
  let turnAroundOnly := !gp.assigned nvStrPtr
  if !turnAroundOnly && gp.outputQFull nvStrPtr then gp
  else
    let gp' := gp.turnAround nvStrPtr primaryIndex
    if turnAroundOnly then
      { gp' with
        nvOutIndex := gp'.getPrimaryIndex e.index
        nvOutIndexQ := gp'.nvOutIndexQ.dropHead }
    else
      sendUpdate
        { gp' with nvOutCanSchedule := false, nvOutIndexQ := gp'.nvOutIndexQ.dropHead } e nvStrPtr
        primaryIndex

def sendEntry (e : NvOutEntry) : AppStackData :=
  if gp.nodeState = IzotApplicationUnconfig then gp
  else if e.index = -1 then
    if (gp.tsaOutQ false).full then gp
    else
      { gp.sendLast NV_UPDATE_LAST_TAG_VALUE fun slot => { slot with priority := false } with
        nvOutCanSchedule := false
        nvOutIndexQ := gp.nvOutIndexQ.dropHead }
  else
    match gp.getNVStructPtr e.index with
    | none => gp.crash
    | some nvStrPtr => gp.sendVarOf e nvStrPtr

def sendVar : AppStackData :=
  if !gp.nvOutCanSchedule || gp.nvOutIndexQ.empty then gp
  else
    match gp.nvOutIndexQ.peek with
    | none => gp.crash
    | some e => gp.sendEntry e

def turnAroundPoll (nvStrPtr : IzotDatapointConfig) (primaryIndex : Int) : Option AppStackData :=
  if nvStrPtr.turnaround then
    (gp.firstMatch nvStrPtr.selector IzotDatapointDirectionIsOutput).map fun i =>
      gp.connect (gp.getPrimaryIndex i) primaryIndex primaryIndex
  else none

def sendPoll (nvStrPtr : IzotDatapointConfig) (primaryIndex : Int) : AppStackData :=
  match gp.accessAddress nvStrPtr.addrIndex with
  | none => gp.crash
  | some ap =>
    gp.pushTsaOut nvStrPtr.priority
      (gp.nvMessage nvStrPtr ap .request (GET_NV_POLL_TAG primaryIndex)
        [nvCode IzotDatapointDirectionIsOutput nvStrPtr.selHigh, nvStrPtr.selectorLow])

def pollVarOf (nvIndex : Int) (nvStrPtr : IzotDatapointConfig) : AppStackData :=
  let primaryIndex := gp.getPrimaryIndex nvIndex
  let turnAroundOnly := !gp.assigned nvStrPtr
  if !turnAroundOnly && (gp.tsaOutQ nvStrPtr.priority).full then gp
  else
    let turned := gp.turnAroundPoll nvStrPtr primaryIndex
    let gp' := turned.getD gp
    if turnAroundOnly then
      { gp' with
        nvInIndex := gp'.getPrimaryIndex nvIndex
        nvInDataStatus := if turned.isSome then .noError else gp'.nvInDataStatus
        nvInIndexQ := gp'.nvInIndexQ.dropHead }
    else
      sendPoll { gp' with nvInCanSchedule := false, nvInIndexQ := gp'.nvInIndexQ.dropHead } nvStrPtr
        primaryIndex

def pollVar : AppStackData :=
  if !gp.nvInCanSchedule || gp.nvInIndexQ.empty then gp
  else
    match gp.nvInIndexQ.peek with
    | none => gp.crash
    | some nvIndex =>
      if gp.nodeState = IzotApplicationUnconfig then gp
      else if nvIndex = -1 then
        if (gp.tsaOutQ false).full then gp
        else
          { gp.sendLast NV_POLL_LAST_TAG_VALUE id with
            nvInCanSchedule := false
            nvInIndexQ := gp.nvInIndexQ.dropHead }
      else
        match gp.getNVStructPtr nvIndex with
        | none => gp.crash
        | some nvStrPtr => gp.pollVarOf nvIndex nvStrPtr

end AppStackData

end LonStack
