import LonStack.App.AddNv
import LonStack.Lib.Contains
import LonStack.NetMgmt.Memory
import LonStack.NetMgmt.Truthful

namespace LonStack

open Lib

abbrev NM_WINK : UInt8 := 0x10
abbrev NM_QUERY_SNVT : UInt8 := 0x12
abbrev OFFSET_OF_SI_DATA_BUFFER_IN_SNVT_STRUCT : Nat := 6
abbrev sizeofSIHeaderExt : Nat := 4
abbrev sizeofSNVTCapabilityInfo : Nat := 33

def SNVTstruct.header (snvt : SNVTstruct) : List UInt8 :=
  [(snvt.length >>> 8).toUInt8, snvt.length.toUInt8, snvt.numNetvars, snvt.version,
    snvt.msbNumNetvars, snvt.mtagCount]

structure SelfIdNode extends NvRegistry where
  siHeaderExt : Image
  snvtCapabilityInfo : Image
  /-- What the stack holds where `HandleNMWink` puts its data, and behind it. -/
  stack : Image

namespace SelfIdNode

variable (gp : SelfIdNode) (p : APPReceiveParam) (apdu : Apdu)

def siData (offset count : Nat) : List UInt8 :=
  if offset + count < OFFSET_OF_SI_DATA_BUFFER_IN_SNVT_STRUCT then
    (gp.snvt.header.drop offset).take count
  else if offset < OFFSET_OF_SI_DATA_BUFFER_IN_SNVT_STRUCT then
    gp.snvt.header.drop offset ++
      gp.snvt.sb.slice 0 (count - (OFFSET_OF_SI_DATA_BUFFER_IN_SNVT_STRUCT - offset))
  else gp.snvt.sb.slice (offset - OFFSET_OF_SI_DATA_BUFFER_IN_SNVT_STRUCT) count

def handleNMQuerySIData : AppData :=
  if p.pduSize ≠ 4 then gp.nmndRespond .nm .invalidMessageLength p apdu
  else
    let count := (apdu.data 2).toNat
    if gp.tsaRespBufSize < count + 1 then gp.nmndRespond .nm .bufferSizeTooSmall p apdu
    else
      gp.writeResponse p.reqId false false
        ((NM_resp_success ||| NM_QUERY_SNVT) :: gp.siData (apdu.word 0) count)

def extendedSelfId : List UInt8 :=
  gp.snvt.sb.slice gp.snvt.aliasPtr sizeofAliasField ++
    gp.siHeaderExt.slice 0 sizeofSIHeaderExt ++
      gp.snvtCapabilityInfo.slice 0 sizeofSNVTCapabilityInfo

def sendIdInfo (niIndex : UInt8) : List UInt8 :=
  if niIndex = 0 ∧ IZOT_UNIQUE_ID_LENGTH + IZOT_PROGRAM_ID_LENGTH + 2 ≤ gp.tsaRespBufSize then
    (NM_resp_success ||| NM_WINK) :: 0 :: gp.idBytes
  else [NM_resp_failure ||| NM_WINK]

/-- The first part tells whether the application winks. -/
def handleNMWink : Bool × AppData :=
  let subcmd := if 1 < p.pduSize then apdu.data 0 else 0
  let niIndex := if 2 < p.pduSize then apdu.data 1 else 0
  if 5 < p.pduSize then (false, gp.nmndRespond .nm .invalidMessageLength p apdu)
  else if p.pduSize ≤ 1 ∨ subcmd = 0 then
    if p.service ≠ .request then (true, gp.toAppData)
    else (false, gp.nmndRespond .nm .invalidMessageService p apdu)
  else if p.pduSize = 5 ∨ subcmd = 7 then
    if p.service ≠ .request then (false, gp.nmndRespond .nm .invalidMessageService p apdu)
    else
      let count := (apdu.data 3).toNat
      let response :=
        if count + 1 ≤ gp.tsaRespBufSize then
          (NM_resp_success ||| NM_WINK) ::
            (gp.stack.write 0 gp.extendedSelfId).slice (apdu.word 1) count
        else [NM_resp_failure ||| NM_WINK]
      (false, gp.writeResponse p.reqId false false response)
  else if p.service ≠ .request then (false, gp.toAppData)
  else (false, gp.writeResponse p.reqId false false (gp.sendIdInfo niIndex))

end SelfIdNode

inductive SelfIdRead
  | querySIData
  | wink
  deriving DecidableEq, Repr

namespace SelfIdRead

variable (c : SelfIdRead) (gp : SelfIdNode) (p : APPReceiveParam) (apdu : Apdu)

def handle : AppData :=
  match c with
  | querySIData => gp.handleNMQuerySIData p apdu
  | wink => (gp.handleNMWink p apdu).2

structure Asks : Prop where
  service : p.service = .request
  form : match c with
    | querySIData => apdu.nmCode = NM_QUERY_SNVT ∧ p.pduSize = 4
    | wink => apdu.nmCode = NM_WINK ∧ p.pduSize = 5 ∧ apdu.data 0 ≠ 0

def offset : Nat :=
  match c with
  | querySIData => apdu.word 0
  | wink => apdu.word 1

def count : Nat :=
  match c with
  | querySIData => (apdu.data 2).toNat
  | wink => (apdu.data 3).toNat

def image : List UInt8 :=
  match c with
  | querySIData => gp.snvt.header ++ gp.snvt.sb.slice 0 (gp.snvt.length.toNat - sizeofSNVTheader)
  | wink => gp.extendedSelfId

structure StaysInside : Prop where
  bytes : ∀ r, (c.handle gp p apdu).tsaRespQ.toList = gp.tsaRespQ.toList ++ [r] →
    respStatus r = NM_resp_success →
      r.apdu.tail = ((c.image gp).drop (c.offset apdu)).take (c.count apdu)
  refused : (c.image gp).length < c.offset apdu + c.count apdu →
    ∃ r, (c.handle gp p apdu).tsaRespQ.toList = gp.tsaRespQ.toList ++ [r] ∧
      respStatus r = NM_resp_failure

def HasRoom : Prop := gp.tsaRespQ.queueEntries + 1 < gp.tsaRespQ.queueCapacity

def Inside : Prop :=
  match c with
  | querySIData =>
    c.offset apdu + c.count apdu ≤ (c.image gp).length ∧
      (c.count apdu + 1 ≤ gp.tsaRespBufSize ∨ gp.tsaRespBufSize = 0 ∨ ¬HasRoom gp)
  | wink =>
    c.offset apdu + c.count apdu ≤ (c.image gp).length ∨
      (gp.tsaRespBufSize < c.count apdu + 1 ∧ HasRoom gp)

variable {c gp p apdu}

theorem failure_ne_success : NM_resp_failure ≠ NM_resp_success := by decide

theorem staysInside_of_silent
    (hq : (c.handle gp p apdu).tsaRespQ.toList = gp.tsaRespQ.toList) :
    c.StaysInside gp p apdu ↔ c.offset apdu + c.count apdu ≤ (c.image gp).length := by
  have hnone : ∀ r, (c.handle gp p apdu).tsaRespQ.toList ≠ gp.tsaRespQ.toList ++ [r] := by
    intro r hr
    rw [hq] at hr
    exact List.cons_ne_nil r [] (List.self_eq_append_right.mp hr)
  constructor
  · intro h
    by_contra hlt
    obtain ⟨r, hr, -⟩ := h.refused (not_le.mp hlt)
    exact hnone r hr
  · exact fun hle => ⟨fun r hr => absurd hr (hnone r), fun hlt => absurd hle (not_le.mpr hlt)⟩

theorem eq_of_toList {r r' : TSASendParam} {q : List TSASendParam}
    (hr : (c.handle gp p apdu).tsaRespQ.toList = q ++ [r])
    (hr' : (c.handle gp p apdu).tsaRespQ.toList = q ++ [r']) : r' = r :=
  (List.cons.inj (List.append_cancel_left (hr'.symm.trans hr))).1

theorem staysInside_of_failure {r : TSASendParam}
    (hr : (c.handle gp p apdu).tsaRespQ.toList = gp.tsaRespQ.toList ++ [r])
    (hfailure : respStatus r = NM_resp_failure) : c.StaysInside gp p apdu where
  bytes r' hr' hsuccess := by
    rw [eq_of_toList hr hr', hfailure] at hsuccess
    exact absurd hsuccess failure_ne_success
  refused _ := ⟨r, hr, hfailure⟩

theorem staysInside_of_success {r : TSASendParam}
    (hr : (c.handle gp p apdu).tsaRespQ.toList = gp.tsaRespQ.toList ++ [r])
    (hsuccess : respStatus r = NM_resp_success) :
    c.StaysInside gp p apdu ↔
      c.offset apdu + c.count apdu ≤ (c.image gp).length ∧
        r.apdu.tail = ((c.image gp).drop (c.offset apdu)).take (c.count apdu) := by
  constructor
  · intro h
    refine ⟨?_, h.bytes r hr hsuccess⟩
    by_contra hlt
    obtain ⟨r', hr', hfailure⟩ := h.refused (not_le.mp hlt)
    rw [eq_of_toList hr hr', hsuccess] at hfailure
    exact failure_ne_success hfailure.symm
  · rintro ⟨hle, hbytes⟩
    exact ⟨fun r' hr' _ => by rw [eq_of_toList hr hr']; exact hbytes,
      fun hlt => absurd hle (not_le.mpr hlt)⟩

theorem take_slice (m : Image) (a : Nat) {k n : Nat} (h : k ≤ n) :
    (m.slice a n).take k = m.slice a k := by
  obtain ⟨d, rfl⟩ := Nat.exists_eq_add_of_le h
  rw [Image.slice_add, List.take_left' (Image.length_slice m a k)]

theorem drop_slice (m : Image) (a : Nat) {k n : Nat} (h : k ≤ n) :
    (m.slice a n).drop k = m.slice (a + k) (n - k) := by
  obtain ⟨d, rfl⟩ := Nat.exists_eq_add_of_le h
  rw [Image.slice_add, List.drop_left' (Image.length_slice m a k), Nat.add_sub_cancel_left]

theorem siData_eq {offset count : Nat}
    (h : offset + count ≤ (querySIData.image gp).length) :
    gp.siData offset count = ((querySIData.image gp).drop offset).take count := by
  have hheader : gp.snvt.header.length = 6 := rfl
  have hseam : OFFSET_OF_SI_DATA_BUFFER_IN_SNVT_STRUCT = 6 := rfl
  unfold image at h ⊢
  dsimp only at h ⊢
  rw [List.length_append, Image.length_slice, hheader] at h
  unfold SelfIdNode.siData
  by_cases hhead : offset + count < OFFSET_OF_SI_DATA_BUFFER_IN_SNVT_STRUCT
  case pos =>
    rw [if_pos hhead, List.drop_append_of_le_length (by omega), List.take_append_of_le_length]
    rw [List.length_drop, hheader]
    omega
  case neg =>
    rw [if_neg hhead]
    by_cases hstart : offset < OFFSET_OF_SI_DATA_BUFFER_IN_SNVT_STRUCT
    case pos =>
      have hdrop : (gp.snvt.header.drop offset).length = 6 - offset := by
        rw [List.length_drop, hheader]
      rw [if_pos hstart, List.drop_append_of_le_length (by omega), List.take_append, hdrop,
        List.take_of_length_le (by omega), take_slice _ _ (by omega)]
    case neg =>
      rw [if_neg hstart, List.drop_append, hheader, List.drop_of_length_le (by omega),
        List.nil_append, drop_slice _ _ (by omega), take_slice _ _ (by omega), Nat.zero_add]

theorem slice_stack_eq {offset count : Nat} (h : offset + count ≤ (wink.image gp).length) :
    (gp.stack.write 0 gp.extendedSelfId).slice offset count =
      ((wink.image gp).drop offset).take count := by
  have hwritten : (gp.stack.write 0 gp.extendedSelfId).slice 0 (wink.image gp).length =
      wink.image gp := Image.slice_write _ _ _
  rw [← hwritten, drop_slice _ _ (by omega), take_slice _ _ (by omega), Nat.zero_add]

theorem toList_writeResponse (gp : SelfIdNode) (reqId : RequestId) (bytes : List UInt8) :
    (HasRoom gp → (gp.writeResponse reqId false false bytes).tsaRespQ.toList =
        gp.tsaRespQ.toList ++ [gp.tsaRespQ.tailSlot.asResponse reqId false false bytes]) ∧
      (¬HasRoom gp → (gp.writeResponse reqId false false bytes).tsaRespQ.toList =
        gp.tsaRespQ.toList) :=
  ⟨fun h => (Queue.toList_push _ _).trans (if_pos h),
    fun h => (Queue.toList_push _ _).trans (if_neg h)⟩

theorem respStatus_asResponse (slot : TSASendParam) (reqId : RequestId) (code : UInt8)
    (bytes : List UInt8) :
    respStatus (slot.asResponse reqId false false (code :: bytes)) = code &&& ~~~NM_opcode_mask :=
  rfl

theorem querySIData_iff_of_fits (hsize : p.pduSize = 4)
    (hfits : querySIData.count apdu + 1 ≤ gp.tsaRespBufSize) :
    querySIData.StaysInside gp p apdu ↔
      querySIData.offset apdu + querySIData.count apdu ≤ (querySIData.image gp).length := by
  obtain ⟨hroom, hfull⟩ := toList_writeResponse gp p.reqId
    ((NM_resp_success ||| NM_QUERY_SNVT) :: gp.siData (apdu.word 0) (apdu.data 2).toNat)
  have hhandle : querySIData.handle gp p apdu = gp.writeResponse p.reqId false false
      ((NM_resp_success ||| NM_QUERY_SNVT) :: gp.siData (apdu.word 0) (apdu.data 2).toNat) := by
    unfold handle SelfIdNode.handleNMQuerySIData
    exact (if_neg (not_not.mpr hsize)).trans (if_neg (not_lt.mpr hfits))
  rw [← hhandle] at hroom hfull
  by_cases h : HasRoom gp
  case pos =>
    rw [staysInside_of_success (hroom h) (respStatus_asResponse _ _ _ _)]
    exact and_iff_left_of_imp siData_eq
  case neg => exact staysInside_of_silent (hfull h)

/-- A request that is too large is answered with the code of success. -/
theorem querySIData_iff_of_not_fits (h : querySIData.Asks p apdu)
    (hfits : gp.tsaRespBufSize < querySIData.count apdu + 1) :
    querySIData.StaysInside gp p apdu ↔
      querySIData.offset apdu + querySIData.count apdu ≤ (querySIData.image gp).length ∧
        (gp.tsaRespBufSize = 0 ∨ ¬HasRoom gp) := by
  obtain ⟨hcode, hsize⟩ := h.form
  have hhandle : querySIData.handle gp p apdu =
      gp.nmndRespond .nm .bufferSizeTooSmall p apdu := by
    unfold handle SelfIdNode.handleNMQuerySIData
    exact (if_neg (not_not.mpr hsize)).trans (if_pos hfits)
  have hdata : AppData.nmndData .nm apdu = [] := by
    unfold AppData.nmndData AppData.NtwkMgmtMsgType.subCode
    dsimp only
    rw [hcode]
    rfl
  have hroom : gp.Room apdu ↔ gp.tsaRespBufSize ≠ 0 ∧ HasRoom gp := by
    unfold AppData.Room HasRoom
    rw [hdata, List.length_nil, Nat.zero_add, Nat.one_le_iff_ne_zero]
  by_cases h' : gp.Room apdu
  case pos =>
    obtain ⟨r, hr, hbytes⟩ := AppData.toList_nmndRespond_of_room .bufferSizeTooSmall h.service h'
    have hstatus := AppData.respStatus_nmndRespond hbytes
    rw [← hhandle] at hr
    rw [staysInside_of_success hr (hstatus.trans (if_neg (by decide))), hbytes, hdata,
      List.tail_cons]
    refine and_congr_right fun hle => iff_of_false (fun hnil => ?_) (fun hor => ?_)
    · have hlength := congrArg List.length hnil
      rw [List.length_nil, List.length_take, List.length_drop] at hlength
      have hpos := (hroom.mp h').1
      omega
    · obtain ⟨hbuf, hspace⟩ := hroom.mp h'
      exact hor.elim hbuf fun hfull => hfull hspace
  case neg =>
    have hq : (gp.nmndRespond .nm .bufferSizeTooSmall p apdu).tsaRespQ.toList =
        gp.tsaRespQ.toList := AppData.toList_nmndRespond_of_not_room h'
    rw [← hhandle] at hq
    rw [staysInside_of_silent hq, and_iff_left]
    by_contra hor
    rw [not_or, not_not] at hor
    exact h' (hroom.mpr hor)

theorem wink_iff (h : wink.Asks p apdu) : wink.StaysInside gp p apdu ↔ wink.Inside gp apdu := by
  obtain ⟨-, hsize, hsubcmd⟩ := h.form
  have hhandle : wink.handle gp p apdu = gp.writeResponse p.reqId false false
      (if wink.count apdu + 1 ≤ gp.tsaRespBufSize then
        (NM_resp_success ||| NM_WINK) ::
          (gp.stack.write 0 gp.extendedSelfId).slice (apdu.word 1) (apdu.data 3).toNat
      else [NM_resp_failure ||| NM_WINK]) := by
    have hsub : (if 1 < p.pduSize then apdu.data 0 else 0) = apdu.data 0 := if_pos (by omega)
    have hasks : ¬(p.pduSize ≤ 1 ∨ apdu.data 0 = 0) := fun hor =>
      hor.elim (by omega) hsubcmd
    have hextended : p.pduSize = 5 ∨ apdu.data 0 = 7 := .inl hsize
    unfold handle SelfIdNode.handleNMWink
    dsimp only
    rw [hsub, if_neg (show ¬5 < p.pduSize by omega), if_neg hasks, if_pos hextended,
      if_neg (not_not.mpr h.service)]
    rfl
  obtain ⟨hroom, hfull⟩ := toList_writeResponse gp p.reqId
    (if wink.count apdu + 1 ≤ gp.tsaRespBufSize then
      (NM_resp_success ||| NM_WINK) ::
        (gp.stack.write 0 gp.extendedSelfId).slice (apdu.word 1) (apdu.data 3).toNat
    else [NM_resp_failure ||| NM_WINK])
  rw [← hhandle] at hroom hfull
  unfold Inside
  dsimp only
  by_cases hspace : HasRoom gp
  case neg =>
    rw [staysInside_of_silent (hfull hspace), or_iff_left fun hor => hspace hor.2]
  case pos =>
    have hr := hroom hspace
    by_cases hfits : wink.count apdu + 1 ≤ gp.tsaRespBufSize
    case pos =>
      rw [if_pos hfits] at hr
      rw [staysInside_of_success hr (respStatus_asResponse _ _ _ _),
        or_iff_left fun hor => absurd hfits (not_le.mpr hor.1)]
      exact and_iff_left_of_imp slice_stack_eq
    case neg =>
      rw [if_neg hfits] at hr
      exact iff_of_true (staysInside_of_failure hr (respStatus_asResponse _ _ _ _))
        (.inr ⟨not_le.mp hfits, hspace⟩)

/-- A read of the self-identification stays inside the data if and only if the bytes are there and
the response is not refused for its size, which has the code of success; or, for the extended part,
if the bytes are not there and the response is refused for its size. -/
theorem staysInside_iff (h : c.Asks p apdu) : c.StaysInside gp p apdu ↔ c.Inside gp apdu := by
  cases c with
  | querySIData =>
    by_cases hfits : querySIData.count apdu + 1 ≤ gp.tsaRespBufSize
    case pos =>
      rw [querySIData_iff_of_fits h.form.2 hfits]
      exact (and_iff_left (.inl hfits)).symm
    case neg =>
      rw [querySIData_iff_of_not_fits h (not_le.mp hfits)]
      exact and_congr_right fun _ => (or_iff_right hfits).symm
  | wink => exact wink_iff h

def freshNode : SelfIdNode where
  toNvRegistry := NvRegistry.fresh
  siHeaderExt _ := 0
  snvtCapabilityInfo _ := 0
  stack _ := 0

def queryRequest : APPReceiveParam :=
  { (default : APPReceiveParam) with
    service := .request
    pduSize := 4 }

def siQuery (offset count : UInt8) : Apdu := fun k => [0x72, 0, offset, count].getD k 0

theorem staysInside_iff_freshNode :
    querySIData.Asks queryRequest (siQuery 0 10) ∧
      (querySIData.StaysInside freshNode queryRequest (siQuery 0 10) ↔
        querySIData.Inside freshNode (siQuery 0 10)) := by
  have h : querySIData.Asks queryRequest (siQuery 0 10) := ⟨rfl, by decide, rfl⟩
  exact ⟨h, staysInside_iff h⟩

theorem not_staysInside :
    ¬∀ (c : SelfIdRead) (gp : SelfIdNode) (p : APPReceiveParam) (apdu : Apdu),
        c.Asks p apdu → c.StaysInside gp p apdu := by
  intro hall
  have hinside := hall .querySIData freshNode queryRequest (siQuery 8 4) ⟨rfl, by decide, rfl⟩
  obtain ⟨r, hr, hfailure⟩ := hinside.refused (by decide +kernel)
  have hstatus : (querySIData.handle freshNode queryRequest (siQuery 8 4)).tsaRespQ.toList.map
      respStatus = [NM_resp_success] := by decide +kernel
  have hempty : freshNode.tsaRespQ.toList = [] := by decide +kernel
  rw [hr, hempty, List.nil_append, List.map_singleton, hfailure] at hstatus
  exact absurd hstatus (by decide)

end SelfIdRead

end LonStack
