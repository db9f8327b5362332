import LonStack.App.Datapoint

namespace LonStack

open Lib

namespace Apdu

variable (apdu : Apdu)

def nvDir : UInt8 := (apdu.code &&& 0x40) >>> 6

def nvCode : UInt8 := apdu.code &&& 0x3F

def nvSelector : Nat := apdu.nvCode.toNat * 256 + (apdu.data 0).toNat

end Apdu

/-- An index that is kept in an unsigned variable of 16 bits. -/
def ubits16 (i : Int) : Nat := (i % 65536).toNat

namespace AppStackData

variable (gp : AppStackData)

def dropAppIn : AppStackData := { gp with appInQ := gp.appInQ.dropHead }

def dropReceived (p : APPReceiveParam) : AppStackData :=
  if p.service = .response then { gp with appCeRspInQ := gp.appCeRspInQ.dropHead }
  else gp.dropAppIn

def nullResponse (reqId : RequestId) : AppStackData :=
  { gp with toAppData := (gp.sendNullResponse reqId).2 }

/-- The search for the variable of a poll. It keeps the first match, and `none` is the result when
a later match is taken for another variable with the same selector. -/
def pollScan (selector : Nat) (direction : UInt8) : List Nat → Option Nat → Option (Option Nat)
  | [], matching => some matching
  | i :: rest, matching =>
    if gp.hasSelector selector direction i then
      match matching with
      | none => pollScan selector direction rest (some i)
      | some first =>
        if gp.getPrimaryIndex first = gp.getPrimaryIndex i then none
        else pollScan selector direction rest (some first)
    else pollScan selector direction rest matching

/-- The value in the response to a poll, empty if there is no match, if the sender has not proved
who it is, and if the value does not fit. -/
def pollData (p : APPReceiveParam) : Option Nat → List UInt8
  | none => []
  | some i =>
    let primaryIndex := ubits16 (gp.getPrimaryIndex i)
    if !p.auth && (gp.entryOf i).authentication then []
    else if (gp.nvFixed primaryIndex).nvLength.toNat + 2 ≤ gp.tsaRespBufSize then
      gp.networkValue primaryIndex
    else []

def processNVPoll (p : APPReceiveParam) (apdu : Apdu) : AppStackData :=
  if p.pduSize ≠ 2 then gp.dropAppIn
  else if gp.tsaRespQ.full then gp
  else if gp.nodeUnConfigured then (gp.nullResponse p.reqId).dropAppIn
  else
    let scan :=
      if gp.appPgmRuns then
        gp.pollScan apdu.nvSelector apdu.nvDir (List.range gp.indices) none
      else some none
    match scan with
    | none => (gp.nullResponse p.reqId).dropAppIn
    | some matching =>
      dropAppIn { gp with
        toAppData := gp.writeResponse p.reqId false false
          (nvCode (1 - apdu.nvDir) apdu.nvCode :: apdu.data 0 :: gp.pollData p matching) }

def storeUpdate (p : APPReceiveParam) (apdu : Apdu) (dataLength : Nat) (primaryIndex : Int) :
    AppStackData :=
  let stored := gp.withMem
    (storeNetworkData gp.mem (gp.nvFixed (ubits16 primaryIndex)).nvAddress apdu 2 dataLength
      (gp.ibolSeq (ubits16 primaryIndex)))
  let gp' := { stored with
    nvInDataStatus :=
      if 0 < dataLength ∧ p.service = ServiceType.response then .noError
      else stored.nvInDataStatus }
  if gp'.appPgmRuns then gp'.updateOccurred primaryIndex else gp'

/-- The authentication that an update needs is that of the entry of the primary. -/
def updateAllowed (p : APPReceiveParam) (primaryIndex : Int) : Option Bool :=
  if p.auth then some true
  else (gp.getNVStructPtr primaryIndex).map fun c => !c.authentication

def processNVUpdate (p : APPReceiveParam) (apdu : Apdu) : AppStackData :=
  if p.pduSize ≤ 2 then gp.dropReceived p
  else if gp.nodeState = IzotApplicationUnconfig then gp.dropReceived p
  else if apdu.nvDir = IzotDatapointDirectionIsOutput then gp.dropReceived p
  else
    let dataLength := p.pduSize - 2
    match gp.firstMatch apdu.nvSelector IzotDatapointDirectionIsInput with
    | none => gp.dropReceived p
    | some i =>
      let primaryIndex := gp.getPrimaryIndex i
      if dataLength ≠ (gp.nvFixed (ubits16 primaryIndex)).nvLength.toNat then gp.dropReceived p
      else
        match gp.updateAllowed p primaryIndex with
        | none => gp.crash
        | some false => gp.dropReceived p
        | some true => (gp.storeUpdate p apdu dataLength primaryIndex).dropReceived p

end AppStackData

end LonStack
