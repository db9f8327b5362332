import LonStack.App.Node
import LonStack.QueueLaws

namespace LonStack

open Lib

inductive NtwkMgmtMsgType
  | nd
  | nm
  deriving DecidableEq, Repr, Inhabited

abbrev NM_opcode_mask : UInt8 := 0x1F
abbrev NM_resp_success : UInt8 := 0x20
abbrev NM_resp_failure : UInt8 := 0x00
abbrev ND_opcode_mask : UInt8 := 0x0F
abbrev ND_resp_success : UInt8 := 0x30
abbrev ND_resp_failure : UInt8 := 0x10

-- The buffer of a message holds the code, the data and, past `pduSize`, what an earlier message
-- left there.

abbrev Apdu := Image

namespace Apdu

variable (apdu : Apdu)

def code : UInt8 := apdu 0

def data (i : Nat) : UInt8 := apdu (1 + i)

def nmCode : UInt8 := apdu.code &&& NM_opcode_mask

def ndCode : UInt8 := apdu.code &&& ND_opcode_mask

def word (i : Nat) : Nat := (apdu.data i).toNat * 256 + (apdu.data (i + 1)).toNat

end Apdu

abbrev Apdu.dataOffset : Nat := 1

def TSASendParam.asResponse (slot : TSASendParam) (reqId : RequestId)
    (nullResponse flexResponse : Bool) (apdu : List UInt8) : TSASendParam :=
  { slot with
    altPathOverride := false
    service := .response
    reqId := reqId
    nullResponse := nullResponse
    flexResponse := flexResponse
    apdu := apdu }

namespace AppData

variable (gp : AppData)

def allocSendResponse (reqId : RequestId) (nullResponse : Bool) (code : UInt8)
    (pData : List UInt8) : LonStatusCode × AppData :=
  if gp.tsaRespQ.full then (.invalidOperation, gp)
  else
    (.noError,
      -- A response that does not fit is dropped.
      if pData.length + 1 ≤ gp.tsaRespBufSize then
        { gp with
          tsaRespQ := gp.tsaRespQ.push fun slot =>
            slot.asResponse reqId nullResponse false (code :: pData) }
      else gp)

def sendResponse (reqId : RequestId) (code : UInt8) (pData : List UInt8) :
    LonStatusCode × AppData :=
  gp.allocSendResponse reqId false code pData

def sendNullResponse (reqId : RequestId) : LonStatusCode × AppData :=
  gp.allocSendResponse reqId true 0 []

/-- Fills the slot at the tail of the queue without looking whether there is one. -/
def writeResponse (reqId : RequestId) (nullResponse flexResponse : Bool) (apdu : List UInt8) :
    AppData :=
  { gp with
    tsaRespQ := gp.tsaRespQ.push fun slot => slot.asResponse reqId nullResponse flexResponse apdu
    crashed := gp.crashed || gp.tsaRespQ.full }

def NtwkMgmtMsgType.subCode (msgType : NtwkMgmtMsgType) (apdu : Apdu) : UInt8 :=
  match msgType with
  | .nm => apdu.nmCode
  | .nd => apdu.ndCode

def nmndCode (msgType : NtwkMgmtMsgType) (success : LonStatusCode) : UInt8 :=
  match msgType with
  | .nm => if success ≠ .noError then NM_resp_success else NM_resp_failure
  | .nd => if success ≠ .noError then ND_resp_success else ND_resp_failure

def nmndData (msgType : NtwkMgmtMsgType) (apdu : Apdu) : List UInt8 :=
  if NtwkMgmtMsgType.subCode msgType apdu = 0 then [apdu.data 0] else []

def nmndRespond (msgType : NtwkMgmtMsgType) (success : LonStatusCode) (p : APPReceiveParam)
    (apdu : Apdu) : AppData :=
  if p.service ≠ .request then gp
  else
    (gp.sendResponse p.reqId (nmndCode msgType success ||| NtwkMgmtMsgType.subCode msgType apdu)
      (nmndData msgType apdu)).2

end AppData

end LonStack
