import LonStack.Lib.Region
import LonStack.NetMgmt.Update

namespace LonStack

open Lib

abbrev NM_QUERY_ADDR : UInt8 := 0x07
abbrev NM_QUERY_NV_CNFG : UInt8 := 0x08
abbrev NM_EXPANDED : UInt8 := 0x00

namespace AppData

variable (gp : AppData) (p : APPReceiveParam) (apdu : Apdu)

def handleNMQueryAddr : AppData :=
  if p.pduSize < 2 then gp.nmndRespond .nm .invalidMessageLength p apdu
  else if gp.extended ≤ (apdu.data 0).toNat then
    gp.nmndRespond .nm .invalidAddrTableIndex p apdu
  else
    (gp.sendResponse p.reqId (NM_resp_success ||| NM_QUERY_ADDR)
      (gp.mem.slice (gp.addrTable (apdu.data 0).toNat) sizeofIzotAddress)).2

/-- An alias in the legacy form always has the host primary of an unused entry. -/
def nvCnfgResponse (n : Nat) : List UInt8 :=
  if n < gp.nvTableSize then
    (NM_resp_success ||| NM_QUERY_NV_CNFG) :: gp.mem.slice (gp.nvConfigTable n) sizeofNVStruct
  else if n < gp.nvTableSize + NV_ALIAS_TABLE_SIZE then
    let addr := gp.nvAliasTable (n - gp.nvTableSize)
    (NM_resp_success ||| NM_QUERY_NV_CNFG) ::
      (gp.mem.slice addr sizeofNVStruct ++ [gp.mem (addr + sizeofIzotDatapointConfig), 0xFF, 0xFF])
  else [NM_resp_failure ||| NM_QUERY_NV_CNFG]

def handleNMQueryNvCnfg : AppData :=
  if p.pduSize ≠ 2 ∧ p.pduSize ≠ 4 then gp.nmndRespond .nm .invalidMessageLength p apdu
  else if apdu.data 0 = 255 ∧ p.pduSize ≠ 4 then gp.nmndRespond .nm .invalidMessageLength p apdu
  else
    let n := legacyIndex apdu
    if (n < gp.nvTableSize ∧ gp.tsaRespBufSize < 1 + sizeofNVStruct) ∨
        (gp.nvTableSize ≤ n ∧ n < gp.nvTableSize + NV_ALIAS_TABLE_SIZE ∧
          gp.tsaRespBufSize < 1 + sizeofAliasStruct) then
      gp.nmndRespond .nm .bufferSizeTooSmall p apdu
    else gp.writeResponse p.reqId false false (gp.nvCnfgResponse n)

def handleNmeQueryNvCnfg : AppData :=
  if p.pduSize ≠ 4 then gp.nmndRespond .nm .invalidMessageLength p apdu
  else if expandedIndex apdu < gp.nvTableSize ∧
      gp.tsaRespBufSize < 1 + sizeofIzotDatapointConfig then
    gp.nmndRespond .nm .bufferSizeTooSmall p apdu
  else if expandedIndex apdu < gp.nvTableSize then
    (gp.sendResponse p.reqId (NM_resp_success ||| NM_EXPANDED)
      (apdu.data 0 ::
        gp.mem.slice (gp.nvConfigTable (expandedIndex apdu)) sizeofIzotDatapointConfig)).2
  else gp.nmndRespond .nm .invalidDatapointIndex p apdu

/-- As in the update, the index is that of the alias table and is compared with the size of both. -/
def handleNmeQueryNvAliasCnfg : AppData :=
  if p.pduSize ≠ 4 then gp.nmndRespond .nm .invalidMessageLength p apdu
  else if gp.nvTableSize ≤ expandedIndex apdu ∧
      expandedIndex apdu < gp.nvTableSize + NV_ALIAS_TABLE_SIZE ∧
        gp.tsaRespBufSize < 1 + sizeofIzotAliasConfig then
    gp.nmndRespond .nm .bufferSizeTooSmall p apdu
  else if expandedIndex apdu < gp.nvTableSize + NV_ALIAS_TABLE_SIZE then
    (gp.sendResponse p.reqId (NM_resp_success ||| NM_EXPANDED)
      (apdu.data 0 ::
        gp.mem.slice (gp.nvAliasTable (expandedIndex apdu)) sizeofIzotAliasConfig)).2
  else gp.nmndRespond .nm .invalidDatapointIndex p apdu

end AppData

end LonStack
