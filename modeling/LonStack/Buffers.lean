import LonStack.Network

namespace LonStack

abbrev LCS_BUF_SIZE : Nat := 12
abbrev RECV_REC_APDU_SIZE : Nat := LCS_BUF_SIZE
abbrev RECV_REC_RESP_SIZE : Nat := LCS_BUF_SIZE
abbrev NW_IN_BUF_SIZE : Nat := 0
abbrev NW_OUT_BUF_SIZE : Nat := 0
abbrev LK_OUT_BUF_SIZE : Nat := LCS_BUF_SIZE
abbrev TSA_IN_BUF_SIZE : Nat := 0
abbrev TSA_OUT_BUF_SIZE : Nat := 0

abbrev sizeofDomain : Nat := 1 + 1 + 6
abbrev sizeofDestinationAddress : Nat := sizeofDomain + 1 + 7
abbrev sizeofNWSendParam : Nat := sizeofDestinationAddress + 1 + 2 + 1 + 1 + 2 + 1 + 1 + 1
abbrev sizeofNWReceiveParam : Nat := 1 + 1 + 2
abbrev sizeofLKSendParam : Nat := 1 + 1 + 2 + 1 + 1

structure TsaBuffers where
  tsaInBufSize : Nat
  tsaOutBufSize : Nat
  tsaOutPriBufSize : Nat
  tsaRespBufSize : Nat
  recvRecResponse : Nat
  recvRecApdu : Nat
  deriving DecidableEq, Repr, Inhabited

def transactionServicesSublayerReset : Option TsaBuffers := do
  let tsaIn ← decodeBufferSize TSA_IN_BUF_SIZE
  let tsaOut ← decodeBufferSize TSA_OUT_BUF_SIZE
  let tsaResp ← decodeBufferSize TSA_RESP_BUF_SIZE
  let decodedResponseBufSize ← decodeBufferSize RECV_REC_RESP_SIZE
  let decodedReceiveBufSize ← decodeBufferSize RECV_REC_APDU_SIZE
  return {
    tsaInBufSize := max (tsaIn + 4) 10
    tsaOutBufSize := max (tsaOut + 4) 10
    tsaOutPriBufSize := max (tsaOut + 4) 10
    tsaRespBufSize := tsaResp
    recvRecResponse := decodedResponseBufSize
    recvRecApdu := decodedReceiveBufSize }

structure NetworkBuffers where
  nwInBufSize : Nat
  nwOutBufSize : Bool → Nat
  nwInQ : Nat
  nwOutQ : Bool → Nat

/-- `nwOutCode` is the size code in the read-only data. The output queue without priority is
initialised with the item size that was computed for the input queue. -/
def networkLayerReset (nwOutCode : Nat) : Option NetworkBuffers := do
  let nwIn ← decodeBufferSize NW_IN_BUF_SIZE
  let queueItemSize := nwIn + sizeofNWReceiveParam
  let nwOut ← decodeBufferSize nwOutCode
  let nwOutPri := nwOut
  return {
    nwInBufSize := nwIn
    nwOutBufSize := fun priority => if priority then nwOutPri else nwOut
    nwInQ := queueItemSize
    nwOutQ := fun priority => if priority then nwOutPri + sizeofNWSendParam else queueItemSize }

structure LinkBuffers where
  lkOutBufSize : Bool → Nat
  lkOutQ : Bool → Nat

def linkLayerReset : Option LinkBuffers := do
  let lkOut ← decodeBufferSize LK_OUT_BUF_SIZE
  return {
    lkOutBufSize := fun _ => lkOut
    lkOutQ := fun _ => lkOut + sizeofLKSendParam }

theorem transactionServicesSublayerReset_eq :
    transactionServicesSublayerReset = some ⟨259, 259, 259, 255, 82, 82⟩ := rfl

theorem networkLayerReset_eq :
    networkLayerReset NW_OUT_BUF_SIZE =
      some ⟨255, fun priority => if priority then 255 else 255, 259,
        fun priority => if priority then 281 else 259⟩ := rfl

theorem linkLayerReset_eq : linkLayerReset = some ⟨fun _ => 82, fun _ => 88⟩ := rfl

end LonStack
