import LonStack.NetMgmt.Respond

namespace LonStack

open Lib

abbrev MAX_DATA_SIZE : Nat := 255
abbrev IzotAddressUnassigned : UInt8 := 0

structure MsgOut where
  priorityOn : Bool
  tag : MsgTag
  len : UInt16
  code : UInt8
  data : Image
  authenticated : Bool
  service : ServiceType
  addr : SendAddress

def MsgOut.zero : MsgOut where
  priorityOn := false
  tag := 0
  len := 0
  code := 0
  data := fun _ => 0
  authenticated := false
  service := .acknowledged
  addr := ⟨0, 0, 0, 0, 0, Vector.replicate 6 0⟩

structure RespOut where
  reqId : RequestId
  nullResponse : Bool
  code : UInt8
  len : UInt16
  data : Image

def RespOut.zero : RespOut where
  reqId := 0
  nullResponse := false
  code := 0
  len := 0
  data := fun _ => 0

structure APPSendParam where
  tag : MsgTag
  len : UInt16
  authenticated : Bool
  service : ServiceType
  reqId : RequestId
  addr : SendAddress
  nullResponse : Bool
  code : UInt8
  data : Image

/-- The bytes that `memcpy` takes for an address. An entry of the address table is shorter. -/
def SendAddress.ofImage (m : Image) (i : Nat) : SendAddress where
  typeSize := m i
  domainNode := m (i + 1)
  repeatRetry := m (i + 2)
  rsvdTransmit := m (i + 3)
  subnet := m (i + 4)
  neuronId := Vector.ofFn fun k => m (i + 5 + k)

structure AppSender extends AppData where
  appOutQ : Queue APPSendParam
  appOutPriQ : Queue APPSendParam
  appOutBufSize : Nat
  msgOut : MsgOut
  respOut : RespOut
  msgInReqId : RequestId
  /-- The events that tell the application which of its messages succeeded. -/
  completed : List (MsgTag × Bool)

namespace AppSender

variable (gp : AppSender)

def outQ (priority : Bool) : Queue APPSendParam := if priority then gp.appOutPriQ else gp.appOutQ

def setOutQ (priority : Bool) (q : Queue APPSendParam) : AppSender :=
  if priority then { gp with appOutPriQ := q } else { gp with appOutQ := q }

def msgCompletes (success : Bool) (tag : MsgTag) : AppSender :=
  { gp with completed := gp.completed ++ [(tag, success)] }

def reinitMsgOut : AppSender := { gp with msgOut := .zero }

def reinitRespOut : AppSender := { gp with respOut := .zero }

def msgSlot (slot : APPSendParam) : APPSendParam :=
  { slot with
    tag := gp.msgOut.tag
    len := gp.msgOut.len
    authenticated := gp.msgOut.authenticated
    service := gp.msgOut.service
    addr := gp.msgOut.addr
    code := if gp.msgOut.code = 0x3D then gp.msgOut.code &&& 0x7F else gp.msgOut.code }

def dataSlot (slot : APPSendParam) : APPSendParam :=
  { gp.msgSlot slot with data := slot.data.copy 0 gp.msgOut.data 0 gp.msgOut.len.toNat }

def loseMsg (fill : APPSendParam → APPSendParam) : AppSender :=
  let q := gp.outQ gp.msgOut.priorityOn
  ((gp.setOutQ gp.msgOut.priorityOn (q.fillTail (fill q.tailSlot))).msgCompletes false
    gp.msgOut.tag).reinitMsgOut

def queueMsg (fill : APPSendParam → APPSendParam) : AppSender :=
  (gp.setOutQ gp.msgOut.priorityOn ((gp.outQ gp.msgOut.priorityOn).push fill)).reinitMsgOut

def UsesTable : Prop :=
  gp.msgOut.tag.toNat < NUM_ADDR_TBL_ENTRIES ∧ gp.msgOut.addr.typeSize = IzotAddressUnassigned

instance : Decidable gp.UsesTable := inferInstanceAs (Decidable (_ ∧ _))

def msgSend : AppSender :=
  if (gp.outQ gp.msgOut.priorityOn).full ∨ 0x8000 ≤ gp.msgOut.tag ∨ gp.msgOut.service = .response then
    (gp.msgCompletes false gp.msgOut.tag).reinitMsgOut
  else if gp.appOutBufSize < gp.msgOut.len.toNat + 1 then gp.loseMsg gp.msgSlot
  else if gp.UsesTable then
    match gp.accessAddress gp.msgOut.tag.toNat with
    | none => gp.loseMsg gp.dataSlot
    | some ap =>
      if gp.mem ap = IzotAddressUnassigned then gp.loseMsg gp.dataSlot
      else gp.queueMsg fun slot => { gp.dataSlot slot with addr := .ofImage gp.mem ap }
  else gp.queueMsg gp.dataSlot

def respSend : AppSender :=
  let reqId := if gp.respOut.reqId = 0 then gp.msgInReqId else gp.respOut.reqId
  let sent := gp.allocSendResponse reqId gp.respOut.nullResponse gp.respOut.code
    (gp.respOut.data.bytes gp.respOut.len.toNat)
  reinitRespOut { gp with toAppData := sent.2 }

/-- `none` where the source reads through a null pointer or writes behind a buffer. -/
def izotSendMsg (tag : UInt32) (priority : Bool) (serviceType : ServiceType) (authenticated : Bool)
    (pDestAddr : Option SendAddress) (code : UInt8) (pData : List UInt8) :
    Option (LonStatusCode × AppSender) :=
  let msgOut := { gp.msgOut with
    priorityOn := priority
    tag := tag.toUInt16
    len := .ofNat pData.length
    code := code }
  if 255 < pData.length then
    some (.invalidMessageLength, msgCompletes { gp with msgOut := msgOut } false msgOut.tag)
  else
    pDestAddr.map fun addr =>
      (.noError, msgSend { gp with
        msgOut := { msgOut with
          data := msgOut.data.write 0 pData
          authenticated := authenticated
          service := serviceType
          addr := addr } })

/-- `none` where the source writes behind a buffer. -/
def izotSendResponse (correlator : RequestId) (code : UInt8) (pData : List UInt8) :
    Option (LonStatusCode × AppSender) :=
  if MAX_DATA_SIZE < pData.length then none
  else
    some (.noError, respSend { gp with
      respOut :=
        { reqId := correlator
          nullResponse := pData.isEmpty
          code := code
          len := .ofNat pData.length
          data := gp.respOut.data.write 0 pData } })

end AppSender

inductive SendCall
  | msg (tag : UInt32) (priority : Bool) (serviceType : ServiceType) (authenticated : Bool)
      (pDestAddr : Option SendAddress) (code : UInt8) (pData : List UInt8)
  | response (correlator : RequestId) (code : UInt8) (pData : List UInt8)

namespace AppSender

variable (gp gp' : AppSender)

def call : SendCall → Option (LonStatusCode × AppSender)
  | .msg tag priority serviceType authenticated pDestAddr code pData =>
    gp.izotSendMsg tag priority serviceType authenticated pDestAddr code pData
  | .response correlator code pData => gp.izotSendResponse correlator code pData

def Implicit (tag : UInt32) (pDestAddr : Option SendAddress) : Prop :=
  tag.toNat < NUM_ADDR_TBL_ENTRIES ∧
    ∀ addr, pDestAddr = some addr → addr.typeSize = IzotAddressUnassigned

structure IsEntry (i : Nat) (addr : SendAddress) : Prop where
  inside : i < gp.extended
  assigned : gp.mem (gp.addrTable i) ≠ IzotAddressUnassigned
  typeSize : addr.typeSize = gp.mem (gp.addrTable i)
  domainNode : addr.domainNode = gp.mem (gp.addrTable i + 1)
  repeatRetry : addr.repeatRetry = gp.mem (gp.addrTable i + 2)
  rsvdTransmit : addr.rsvdTransmit = gp.mem (gp.addrTable i + 3)
  subnet : addr.subnet = gp.mem (gp.addrTable i + 4)

def Queues : SendCall → Prop
  | .msg tag priority serviceType authenticated pDestAddr code pData =>
    ∃ x : APPSendParam,
      (gp'.outQ priority).toList = (gp.outQ priority).toList ++ [x] ∧
        (gp'.outQ !priority).toList = (gp.outQ !priority).toList ∧
        gp'.tsaRespQ.toList = gp.tsaRespQ.toList ∧
        x.code = code ∧ x.len.toNat = pData.length ∧ x.data.bytes pData.length = pData ∧
        x.service = serviceType ∧ x.authenticated = authenticated ∧ x.tag.toNat = tag.toNat ∧
        (Implicit tag pDestAddr → gp.IsEntry tag.toNat x.addr) ∧
        (¬Implicit tag pDestAddr → pDestAddr = some x.addr)
  | .response correlator code pData =>
    ∃ x : TSASendParam,
      gp'.tsaRespQ.toList = gp.tsaRespQ.toList ++ [x] ∧
        (∀ priority, (gp'.outQ priority).toList = (gp.outQ priority).toList) ∧
        x.apdu = code :: pData ∧ x.service = .response ∧ x.reqId = correlator ∧
        x.nullResponse = false

def QueuesNothing : Prop :=
  (∀ priority, (gp'.outQ priority).toList = (gp.outQ priority).toList) ∧
    gp'.tsaRespQ.toList = gp.tsaRespQ.toList

/-- The call stays inside its buffers, reports success exactly if it queues what it was given, and
otherwise reports an error and queues nothing. -/
def SendsAsGiven (c : SendCall) : Prop :=
  ∃ status gp', gp.call c = some (status, gp') ∧ (status = .noError ↔ gp.Queues gp' c) ∧
    (status ≠ .noError → gp.QueuesNothing gp')

/-- What the source leaves to the application. -/
def Sendable : SendCall → Prop
  | .msg tag priority serviceType _ pDestAddr _ pData =>
    255 < pData.length ∨
      (∃ addr, pDestAddr = some addr ∧
        (Implicit tag (some addr) → tag.toNat < gp.extended ∧
          gp.mem (gp.addrTable tag.toNat) ≠ IzotAddressUnassigned)) ∧
        tag.toNat < 0x8000 ∧ serviceType ≠ .response ∧ pData.length + 1 ≤ gp.appOutBufSize ∧
        (gp.outQ priority).queueEntries + 1 < (gp.outQ priority).queueCapacity
  | .response correlator _ pData =>
    0 < pData.length ∧ pData.length ≤ MAX_DATA_SIZE ∧ pData.length + 1 ≤ gp.tsaRespBufSize ∧
      gp.tsaRespQ.queueEntries + 1 < gp.tsaRespQ.queueCapacity ∧
      (correlator ≠ 0 ∨ gp.msgInReqId = 0)

variable {gp gp' : AppSender}

@[simp] theorem outQ_reinitMsgOut (priority : Bool) :
    gp.reinitMsgOut.outQ priority = gp.outQ priority := rfl

@[simp] theorem outQ_msgCompletes (success : Bool) (tag : MsgTag) (priority : Bool) :
    (gp.msgCompletes success tag).outQ priority = gp.outQ priority := rfl

@[simp] theorem outQ_setOutQ (priority : Bool) (q : Queue APPSendParam) :
    (gp.setOutQ priority q).outQ priority = q := by
  cases priority <;> rfl

@[simp] theorem outQ_setOutQ_not (priority : Bool) (q : Queue APPSendParam) :
    (gp.setOutQ priority q).outQ (!priority) = gp.outQ !priority := by
  cases priority <;> rfl

@[simp] theorem tsaRespQ_setOutQ (priority : Bool) (q : Queue APPSendParam) :
    (gp.setOutQ priority q).tsaRespQ = gp.tsaRespQ := by
  cases priority <;> rfl

theorem queuesNothing_setOutQ {priority : Bool} {q : Queue APPSendParam}
    (h : q.toList = (gp.outQ priority).toList) : gp.QueuesNothing (gp.setOutQ priority q) := by
  refine ⟨fun b => ?_, by rw [tsaRespQ_setOutQ]⟩
  by_cases hb : b = priority
  · rw [hb, outQ_setOutQ, h]
  · rw [(Bool.eq_not.mpr hb : b = !priority), outQ_setOutQ_not]

theorem queuesNothing_loseMsg (fill : APPSendParam → APPSendParam) :
    gp.QueuesNothing (gp.loseMsg fill) := by
  have hfill := Queue.toList_fillTail (gp.outQ gp.msgOut.priorityOn)
    (fill (gp.outQ gp.msgOut.priorityOn).tailSlot)
  exact queuesNothing_setOutQ hfill

structure Takes (gp : AppSender) : Prop where
  tag : gp.msgOut.tag < 0x8000
  service : gp.msgOut.service ≠ .response
  len : gp.msgOut.len.toNat + 1 ≤ gp.appOutBufSize
  addr : gp.UsesTable → gp.msgOut.tag.toNat < gp.extended ∧
    gp.mem (gp.addrTable gp.msgOut.tag.toNat) ≠ IzotAddressUnassigned

def takenSlot (gp : AppSender) (slot : APPSendParam) : APPSendParam :=
  { gp.dataSlot slot with
    addr :=
      if gp.UsesTable then .ofImage gp.mem (gp.addrTable gp.msgOut.tag.toNat) else gp.msgOut.addr }

theorem msgSend_of_takes (h : gp.Takes) (hroom : (gp.outQ gp.msgOut.priorityOn).full = false) :
    gp.msgSend = gp.queueMsg gp.takenSlot := by
  have hrefused : ¬((gp.outQ gp.msgOut.priorityOn).full = true ∨ 0x8000 ≤ gp.msgOut.tag ∨
      gp.msgOut.service = .response) := by
    rw [hroom, not_or, not_or]
    exact ⟨Bool.false_ne_true, UInt16.not_le.mpr h.tag, h.service⟩
  rw [msgSend, if_neg hrefused, if_neg (Nat.not_lt.mpr h.len)]
  by_cases htable : gp.UsesTable
  case pos =>
    have hslot : gp.takenSlot = fun slot => { gp.dataSlot slot with
        addr := .ofImage gp.mem (gp.addrTable gp.msgOut.tag.toNat) } := by
      funext slot
      rw [takenSlot, if_pos htable]
    obtain ⟨hinside, hassigned⟩ := h.addr htable
    rw [if_pos htable, AppData.accessAddress, if_pos hinside]
    dsimp only
    rw [if_neg hassigned, hslot]
  case neg =>
    have hslot : gp.takenSlot = gp.dataSlot := by
      funext slot
      rw [takenSlot, if_neg htable]
      rfl
    rw [if_neg htable, hslot]

theorem queuesNothing_msgSend
    (h : gp.Takes → (gp.outQ gp.msgOut.priorityOn).queueCapacity ≤
      (gp.outQ gp.msgOut.priorityOn).queueEntries + 1) :
    gp.QueuesNothing gp.msgSend := by
  by_cases hrefused : (gp.outQ gp.msgOut.priorityOn).full = true ∨ 0x8000 ≤ gp.msgOut.tag ∨
      gp.msgOut.service = .response
  case pos =>
    rw [msgSend, if_pos hrefused]
    exact ⟨fun _ => rfl, rfl⟩
  obtain ⟨hfull, htag, hservice⟩ := not_or.mp hrefused |>.imp_right not_or.mp
  rw [Bool.not_eq_true] at hfull
  by_cases hlen : gp.appOutBufSize < gp.msgOut.len.toNat + 1
  case pos =>
    rw [msgSend, if_neg hrefused, if_pos hlen]
    exact queuesNothing_loseMsg _
  by_cases haddr : gp.UsesTable → gp.msgOut.tag.toNat < gp.extended ∧
      gp.mem (gp.addrTable gp.msgOut.tag.toNat) ≠ IzotAddressUnassigned
  case pos =>
    have htakes : gp.Takes := ⟨UInt16.not_le.mp htag, hservice, Nat.not_lt.mp hlen, haddr⟩
    rw [msgSend_of_takes htakes hfull]
    -- the queue refuses its last slot
    have hpush : ((gp.outQ gp.msgOut.priorityOn).push gp.takenSlot).toList =
        (gp.outQ gp.msgOut.priorityOn).toList := by
      rw [Queue.toList_push, if_neg (Nat.not_lt.mpr (h htakes))]
    exact queuesNothing_setOutQ hpush
  case neg =>
    rw [Classical.not_imp, not_and, not_not] at haddr
    rw [msgSend, if_neg hrefused, if_neg hlen, if_pos haddr.1, AppData.accessAddress]
    by_cases hinside : gp.msgOut.tag.toNat < gp.extended
    case pos =>
      rw [if_pos hinside]
      dsimp only
      rw [if_pos (haddr.2 hinside)]
      exact queuesNothing_loseMsg _
    case neg =>
      rw [if_neg hinside]
      exact queuesNothing_loseMsg _

def staged (gp : AppSender) (tag : UInt32) (priority : Bool) (serviceType : ServiceType)
    (authenticated : Bool) (addr : SendAddress) (code : UInt8) (pData : List UInt8) : AppSender :=
  { gp with
    msgOut :=
      { priorityOn := priority
        tag := tag.toUInt16
        len := .ofNat pData.length
        code := code
        data := gp.msgOut.data.write 0 pData
        authenticated := authenticated
        service := serviceType
        addr := addr } }

section

variable {tag : UInt32} {priority : Bool} {serviceType : ServiceType} {authenticated : Bool}
  {addr : SendAddress} {code : UInt8} {pData : List UInt8}

theorem izotSendMsg_staged (h : pData.length ≤ 255) :
    gp.izotSendMsg tag priority serviceType authenticated (some addr) code pData =
      some (.noError,
        (gp.staged tag priority serviceType authenticated addr code pData).msgSend) := by
  unfold izotSendMsg
  dsimp only
  rw [if_neg (Nat.not_lt.mpr h)]
  rfl

theorem toNat_len (h : pData.length ≤ 255) : (UInt16.ofNat pData.length).toNat = pData.length := by
  rw [UInt16.toNat_ofNat']
  omega

theorem bytes_takenSlot (h : pData.length ≤ 255) (slot : APPSendParam) :
    ((gp.staged tag priority serviceType authenticated addr code pData).takenSlot slot).data.bytes
      pData.length = pData := by
  apply List.ext_getElem
  · rw [Image.length_bytes]
  · intro i hi hi'
    rw [Image.getElem_bytes]
    have hcopy : i < (UInt16.ofNat pData.length).toNat := by rwa [toNat_len h]
    have hwrite := Image.write_of_mem (i := 0) gp.msgOut.data pData hi'
    rw [Nat.zero_add] at hwrite
    rw [← hwrite]
    exact Image.copy_of_lt hcopy

theorem code_takenSlot (slot : APPSendParam) :
    ((gp.staged tag priority serviceType authenticated addr code pData).takenSlot slot).code =
      code := by
  show (if code = 0x3D then code &&& 0x7F else code) = code
  split
  case isTrue heq => rw [heq]; rfl
  case isFalse => rfl

theorem toNat_tag (h : tag.toNat < 0x8000) : tag.toUInt16.toNat = tag.toNat := by
  rw [UInt32.toNat_toUInt16]
  omega

theorem not_queues_of_queuesNothing {c : SendCall} (h : gp.QueuesNothing gp') : ¬gp.Queues gp' c := by
  cases c with
  | msg tag priority serviceType authenticated pDestAddr code pData =>
    rintro ⟨x, hx, -⟩
    rw [h.1 priority] at hx
    simp at hx
  | response correlator code pData =>
    rintro ⟨x, hx, -⟩
    rw [h.2] at hx
    simp at hx

theorem toList_msgSend (h : gp.Takes)
    (hroom : (gp.outQ gp.msgOut.priorityOn).queueEntries + 1 <
      (gp.outQ gp.msgOut.priorityOn).queueCapacity) :
    (gp.msgSend.outQ gp.msgOut.priorityOn).toList = (gp.outQ gp.msgOut.priorityOn).toList ++
        [gp.takenSlot (gp.outQ gp.msgOut.priorityOn).tailSlot] ∧
      (gp.msgSend.outQ !gp.msgOut.priorityOn).toList = (gp.outQ !gp.msgOut.priorityOn).toList ∧
      gp.msgSend.tsaRespQ = gp.tsaRespQ := by
  have hfull : (gp.outQ gp.msgOut.priorityOn).full = false := by
    rw [Queue.full_eq_false_iff]
    omega
  rw [msgSend_of_takes h hfull]
  refine ⟨?_, ?_, tsaRespQ_setOutQ ..⟩
  · rw [queueMsg, outQ_reinitMsgOut, outQ_setOutQ, Queue.toList_push, if_pos hroom]
  · rw [queueMsg, outQ_reinitMsgOut, outQ_setOutQ_not]

theorem takes_staged_iff (hlen : pData.length ≤ 255) (htag : tag.toNat < 0x8000) :
    (gp.staged tag priority serviceType authenticated addr code pData).Takes ↔
      (Implicit tag (some addr) → tag.toNat < gp.extended ∧
          gp.mem (gp.addrTable tag.toNat) ≠ IzotAddressUnassigned) ∧
        serviceType ≠ .response ∧ pData.length + 1 ≤ gp.appOutBufSize := by
  have hfits := toNat_tag htag
  have hlow : tag.toUInt16 < 0x8000 := by
    rw [UInt16.lt_iff_toNat_lt, hfits]
    exact htag
  have himplicit : Implicit tag (some addr) ↔
      (gp.staged tag priority serviceType authenticated addr code pData).UsesTable := by
    rw [Implicit, UsesTable, ← hfits]
    exact and_congr_right fun _ => ⟨fun h => h addr rfl, fun h a ha => Option.some.inj ha ▸ h⟩
  rw [himplicit]
  constructor
  · intro h
    have haddr := h.addr
    have hsize := h.len
    rw [show (gp.staged tag priority serviceType authenticated addr code pData).msgOut.tag.toNat =
      tag.toNat from hfits] at haddr
    exact ⟨haddr, h.service, (toNat_len hlen) ▸ hsize⟩
  · rintro ⟨haddr, hservice, hsize⟩
    refine ⟨hlow, hservice, (toNat_len hlen).symm ▸ hsize, ?_⟩
    rw [show (gp.staged tag priority serviceType authenticated addr code pData).msgOut.tag.toNat =
      tag.toNat from hfits]
    exact haddr

theorem queues_staged (hlen : pData.length ≤ 255) (htag : tag.toNat < 0x8000)
    (htakes : (gp.staged tag priority serviceType authenticated addr code pData).Takes)
    (hroom : (gp.outQ priority).queueEntries + 1 < (gp.outQ priority).queueCapacity) :
    gp.Queues (gp.staged tag priority serviceType authenticated addr code pData).msgSend
      (.msg tag priority serviceType authenticated (some addr) code pData) := by
  have hfits := toNat_tag htag
  obtain ⟨hqueue, hother, hresp⟩ := toList_msgSend htakes hroom
  refine ⟨_, hqueue, hother, congrArg _ hresp, code_takenSlot _, toNat_len hlen,
    bytes_takenSlot hlen _,
    rfl, rfl, hfits, fun himplicit => ?_, fun hexplicit => ?_⟩
  · have htable : (gp.staged tag priority serviceType authenticated addr code pData).UsesTable :=
      ⟨hfits.symm ▸ himplicit.1, himplicit.2 addr rfl⟩
    obtain ⟨hinside, hassigned⟩ := ((takes_staged_iff hlen htag).mp htakes).1 himplicit
    rw [takenSlot, if_pos htable]
    dsimp only
    rw [show (gp.staged tag priority serviceType authenticated addr code pData).msgOut.tag.toNat =
      tag.toNat from hfits]
    exact ⟨hinside, hassigned, rfl, rfl, rfl, rfl, rfl⟩
  · have htable : ¬(gp.staged tag priority serviceType authenticated addr code pData).UsesTable :=
      fun h => hexplicit ⟨hfits ▸ h.1, fun a ha => Option.some.inj ha ▸ h.2⟩
    rw [takenSlot, if_neg htable]
    rfl

end

theorem sendsAsGiven_msg_iff (gp : AppSender) (tag : UInt32) (priority : Bool)
    (serviceType : ServiceType) (authenticated : Bool) (pDestAddr : Option SendAddress)
    (code : UInt8) (pData : List UInt8) :
    gp.SendsAsGiven (.msg tag priority serviceType authenticated pDestAddr code pData) ↔
      gp.Sendable (.msg tag priority serviceType authenticated pDestAddr code pData) := by
  by_cases hlong : 255 < pData.length
  case pos =>
    refine iff_of_true ?_ (.inl hlong)
    refine ⟨.invalidMessageLength, _, if_pos hlong, ?_, fun _ => ⟨fun _ => rfl, rfl⟩⟩
    exact iff_of_false (by decide) (not_queues_of_queuesNothing ⟨fun _ => rfl, rfl⟩)
  have hlen := Nat.not_lt.mp hlong
  cases pDestAddr with
  | none =>
    refine iff_of_false ?_ ?_
    · rintro ⟨status, gp', hcall, -⟩
      rw [call, izotSendMsg] at hcall
      dsimp only at hcall
      rw [if_neg hlong] at hcall
      cases hcall
    · rintro (h | ⟨⟨addr, haddr, -⟩, -⟩)
      · exact hlong h
      · cases haddr
  | some addr =>
    have hcall : gp.call (.msg tag priority serviceType authenticated (some addr) code pData) =
        some (.noError,
          (gp.staged tag priority serviceType authenticated addr code pData).msgSend) :=
      izotSendMsg_staged hlen
    constructor
    · rintro ⟨status, gp', hcall', hqueues, -⟩
      obtain ⟨rfl, rfl⟩ := Prod.mk.inj (Option.some.inj (hcall.symm.trans hcall'))
      replace hqueues := hqueues.mp rfl
      have htakes : (gp.staged tag priority serviceType authenticated addr code pData).Takes ∧
          (gp.outQ priority).queueEntries + 1 < (gp.outQ priority).queueCapacity := by
        by_contra hnot
        have hnothing : gp.QueuesNothing
            (gp.staged tag priority serviceType authenticated addr code pData).msgSend :=
          queuesNothing_msgSend fun h => Nat.not_lt.mp fun hroom => hnot ⟨h, hroom⟩
        exact not_queues_of_queuesNothing hnothing hqueues
      have htag : tag.toNat < 0x8000 := by
        obtain ⟨x, hx, -, -, -, -, -, -, -, htag, -⟩ := hqueues
        have hqueue := (toList_msgSend htakes.1 htakes.2).1
        obtain rfl := List.singleton_injective (List.append_cancel_left (hqueue.symm.trans hx))
        rw [← htag]
        exact UInt16.lt_iff_toNat_lt.mp htakes.1.tag
      obtain ⟨haddr, hservice, hsize⟩ := (takes_staged_iff hlen htag).mp htakes.1
      exact .inr ⟨⟨addr, rfl, haddr⟩, htag, hservice, hsize, htakes.2⟩
    · rintro (h | ⟨⟨addr', haddr', haddr⟩, htag, hservice, hsize, hroom⟩)
      · exact absurd h hlong
      · obtain rfl := Option.some.inj haddr'
        have htakes : (gp.staged tag priority serviceType authenticated addr code pData).Takes :=
          (takes_staged_iff hlen htag).mpr ⟨haddr, hservice, hsize⟩
        exact ⟨_, _, hcall, iff_of_true rfl (queues_staged hlen htag htakes hroom),
          fun h => absurd rfl h⟩

theorem izotSendResponse_eq (gp : AppSender) (correlator : RequestId) (code : UInt8)
    {pData : List UInt8} (h : pData.length ≤ MAX_DATA_SIZE) :
    ∃ gp', gp.izotSendResponse correlator code pData = some (.noError, gp') ∧
      (∀ priority, gp'.outQ priority = gp.outQ priority) ∧
      gp'.tsaRespQ = (gp.allocSendResponse (if correlator = 0 then gp.msgInReqId else correlator)
        pData.isEmpty code pData).2.tsaRespQ := by
  have hbytes : (gp.respOut.data.write 0 pData).bytes (UInt16.ofNat pData.length).toNat = pData := by
    rw [toNat_len h]
    apply List.ext_getElem
    · rw [Image.length_bytes]
    · intro i hi hi'
      have hwrite := Image.write_of_mem (i := 0) gp.respOut.data pData hi'
      rw [Nat.zero_add] at hwrite
      rw [Image.getElem_bytes, hwrite]
  refine ⟨_, if_neg (Nat.not_lt.mpr h), fun _ => rfl, ?_⟩
  rw [respSend]
  dsimp only
  rw [hbytes]
  rfl

theorem toList_allocSendResponse (gp : AppData) (reqId : RequestId) (nullResponse : Bool)
    (code : UInt8) (pData : List UInt8) :
    (gp.allocSendResponse reqId nullResponse code pData).2.tsaRespQ.toList =
      if pData.length + 1 ≤ gp.tsaRespBufSize ∧
          gp.tsaRespQ.queueEntries + 1 < gp.tsaRespQ.queueCapacity then
        gp.tsaRespQ.toList ++
          [gp.tsaRespQ.tailSlot.asResponse reqId nullResponse false (code :: pData)]
      else gp.tsaRespQ.toList := by
  rw [AppData.allocSendResponse]
  by_cases hfull : gp.tsaRespQ.full = true
  case pos =>
    have hnot : ¬gp.tsaRespQ.queueEntries + 1 < gp.tsaRespQ.queueCapacity := by
      rw [Queue.full_iff] at hfull
      omega
    rw [if_pos hfull, if_neg fun h => hnot h.2]
  case neg =>
    rw [if_neg hfull]
    by_cases hsize : pData.length + 1 ≤ gp.tsaRespBufSize
    case pos =>
      rw [if_pos hsize]
      dsimp only
      rw [Queue.toList_push]
      simp only [hsize, true_and]
    case neg =>
      rw [if_neg hsize, if_neg fun h => hsize h.1]

theorem sendsAsGiven_response_iff (gp : AppSender) (correlator : RequestId) (code : UInt8)
    (pData : List UInt8) :
    gp.SendsAsGiven (.response correlator code pData) ↔
      gp.Sendable (.response correlator code pData) := by
  by_cases hlong : MAX_DATA_SIZE < pData.length
  case pos =>
    refine iff_of_false ?_ fun h => Nat.not_lt.mpr h.2.1 hlong
    rintro ⟨status, gp', hcall, -⟩
    rw [call, izotSendResponse, if_pos hlong] at hcall
    cases hcall
  have hlen := Nat.not_lt.mp hlong
  obtain ⟨after, hcall, hout, hqueue⟩ := gp.izotSendResponse_eq correlator code hlen
  have hlist := (congrArg Queue.toList hqueue).trans (toList_allocSendResponse ..)
  constructor
  · rintro ⟨status, gp', hcall', hqueues, -⟩
    obtain ⟨rfl, rfl⟩ := Prod.mk.inj (Option.some.inj (hcall.symm.trans hcall'))
    obtain ⟨x, hx, -, -, -, hreqId, hnull⟩ := hqueues.mp rfl
    rw [hlist] at hx
    split at hx
    case isFalse => simp at hx
    case isTrue hroom =>
      obtain rfl := List.singleton_injective (List.append_cancel_left hx)
      have hreqId' : (if correlator = 0 then gp.msgInReqId else correlator) = correlator := hreqId
      have hnull' : pData.isEmpty = false := hnull
      refine ⟨List.length_pos_iff.mpr fun hnil => ?_, hlen, hroom.1, hroom.2, ?_⟩
      · rw [hnil] at hnull'
        exact Bool.false_ne_true hnull'.symm
      · by_cases hzero : correlator = 0
        case pos =>
          rw [if_pos hzero, hzero] at hreqId'
          exact .inr hreqId'
        case neg => exact .inl hzero
  · rintro ⟨hpos, -, hsize, hroom, hcorrelator⟩
    rw [if_pos ⟨hsize, hroom⟩] at hlist
    refine ⟨_, _, hcall, iff_of_true rfl ⟨_, hlist, fun b => by rw [hout b], rfl, rfl, ?_, ?_⟩,
      fun h => absurd rfl h⟩
    · show (if correlator = 0 then gp.msgInReqId else correlator) = correlator
      rcases hcorrelator with hne | hzero
      · exact if_neg hne
      · rw [hzero]
        split
        case isTrue h => exact h.symm
        case isFalse => rfl
    · exact List.isEmpty_eq_false_iff.mpr (List.length_pos_iff.mp hpos)

/-- A call sends what it was given, or refuses it with an error, exactly if the application keeps to
what the stack does not report. -/
theorem sendsAsGiven_iff (gp : AppSender) (c : SendCall) : gp.SendsAsGiven c ↔ gp.Sendable c := by
  cases c with
  | msg tag priority serviceType authenticated pDestAddr code pData =>
    exact sendsAsGiven_msg_iff ..
  | response correlator code pData => exact sendsAsGiven_response_iff ..

def idle : AppSender where
  mem := fun _ => 0
  eep := 0
  nmp := 0x2000
  nvTableSize := 0
  nvTableSize_le := Nat.zero_le _
  nvFixedTable := fun _ => default
  resetCause := 0
  appPgmMode := .onLine
  selectQueryFlag := false
  resetNode := false
  switchoverFailure := false
  tsaRespBufSize := 255
  tsaRespQ := Queue.init default 3
  crashed := false
  appOutQ := Queue.init (fun _ => ⟨0, 0, false, .acknowledged, 0, default, false, 0, fun _ => 0⟩) 3
  appOutPriQ := Queue.init (fun _ => ⟨0, 0, false, .acknowledged, 0, default, false, 0, fun _ => 0⟩) 3
  appOutBufSize := 51
  msgOut := .zero
  respOut := .zero
  msgInReqId := 0
  completed := []

theorem not_sendsAsGiven : ¬∀ (gp : AppSender) (c : SendCall), gp.SendsAsGiven c := by
  intro hall
  have hempty : ([] : List UInt8).length ≤ MAX_DATA_SIZE := by decide
  obtain ⟨status, gp', hcall, hqueues, -⟩ := hall idle (.response 7 0x22 [])
  obtain ⟨after, hcall', -, hqueue⟩ := idle.izotSendResponse_eq 7 0x22 hempty
  obtain ⟨rfl, rfl⟩ := Prod.mk.inj (Option.some.inj (hcall'.symm.trans hcall))
  obtain ⟨x, hx, -, -, -, -, hnull⟩ := hqueues.mp rfl
  rw [hqueue, toList_allocSendResponse, if_pos (by decide)] at hx
  obtain rfl := List.singleton_injective (List.append_cancel_left hx)
  exact absurd hnull (by decide)

end AppSender

end LonStack
