import LonStack.App.Variables
import LonStack.Lib.Fifo
import LonStack.Network
import LonStack.PduLaws

namespace LonStack

open Lib

/-- What happens to the outputs of a node. Between two polls the application writes to its memory
and propagates, and the lower layers take what was put out and report completions. -/
inductive OutputEvent
  | write (addr : Nat) (value : List UInt8)
  | propagate (call : NvCall)
  | sendVar
  | serve (tsaOutQ : Bool → Queue TSASendParam) (nwOutQ : Bool → Queue NWSendParam)
      (nvOutCanSchedule : Bool)

namespace AppStackData

variable (gp gp' : AppStackData)

def outputStep : OutputEvent → AppStackData → AppStackData
  | .write addr value, gp => gp.withMem (gp.mem.write addr value)
  | .propagate call, gp => gp.propagate call
  | .sendVar, gp => gp.sendVar
  | .serve tsaOutQ nwOutQ nvOutCanSchedule, gp =>
    { gp with tsaOutQ := tsaOutQ, nwOutQ := nwOutQ, nvOutCanSchedule := nvOutCanSchedule }

def scheduled : List NvOutEntry := gp.nvOutIndexQ.toList

def isOutput (j : Nat) : Bool := (gp.entryOf j).direction == IzotDatapointDirectionIsOutput

def outputsOf (primaryIndex : Nat) : List Nat := (gp.indicesOf primaryIndex).filter gp.isOutput

def seriesOf (primaryIndex : Nat) : List Int :=
  if gp.isNVBound primaryIndex && !(gp.outputsOf primaryIndex).isEmpty then
    (gp.outputsOf primaryIndex).map (fun j : Nat => (j : Int)) ++ [-1]
  else []

def seriesOfCall (call : NvCall) : List Int := (gp.primaries call).flatMap gp.seriesOf

def HasRoomFor (call : NvCall) : Prop :=
  gp.nvOutIndexQ.queueEntries + (gp.seriesOfCall call).length < gp.nvOutIndexQ.queueCapacity

def seriesOfEvent : OutputEvent → List Int
  | .propagate call => gp.seriesOfCall call
  | _ => []

def sent : List (List UInt8) :=
  [false, true].flatMap fun priority =>
    (appended (gp.tsaOutQ priority).toList (gp'.tsaOutQ priority).toList).map (·.apdu) ++
      (appended (gp.nwOutQ priority).toList (gp'.nwOutQ priority).toList).map NWSendParam.bytes

def connectedInput (nvStrPtr : IzotDatapointConfig) (primaryIndex : Int) : Option NVFixedStruct :=
  if nvStrPtr.turnaround then
    match gp.firstMatch nvStrPtr.selector IzotDatapointDirectionIsInput with
    | none => none
    | some i =>
      let nvIn := gp.nvFixed (gp.getPrimaryIndex i)
      if (gp.nvFixed primaryIndex).nvLength ≠ nvIn.nvLength then none else some nvIn
  else none

def turnedMem (nvStrPtr : IzotDatapointConfig) (primaryIndex : Int) (hdi : List UInt8) : Image :=
  match gp.connectedInput nvStrPtr primaryIndex with
  | none => gp.mem
  | some nvIn => gp.mem.write nvIn.nvAddress hdi

def HasRoomToSend (nvStrPtr : IzotDatapointConfig) : Prop :=
  if nvStrPtr.service = .unacknowledged then
    (gp.nwOutQ nvStrPtr.priority).queueEntries + 1 < (gp.nwOutQ nvStrPtr.priority).queueCapacity
  else
    (gp.tsaOutQ nvStrPtr.priority).queueEntries + 1 < (gp.tsaOutQ nvStrPtr.priority).queueCapacity

def CanSend (nvStrPtr : IzotDatapointConfig) (primaryIndex : Int) : Prop :=
  2 + (gp.nvFixed primaryIndex).nvLength.toNat ≤ gp.outputBufSize nvStrPtr ∧
    nvStrPtr.addrIndex < gp.extended ∧
    (nvStrPtr.service = .unacknowledged →
      2 + (gp.nvFixed primaryIndex).nvLength.toNat ≤ gp.nwOutBufSize false ∧
        (SendAddress.ofImage gp.mem (gp.addrTable nvStrPtr.addrIndex)).netAddr.isOk)

def Sends (nvStrPtr : IzotDatapointConfig) (primaryIndex : Int) : Prop :=
  gp.assigned nvStrPtr ∧ (gp.turnAround nvStrPtr primaryIndex).CanSend nvStrPtr primaryIndex ∧
    gp.HasRoomToSend nvStrPtr

/-- The poll for an entry puts the value `ndi` into its update, and copies the value `hdi` to the
input that the output is connected to. -/
structure Delivers (nvStrPtr : IzotDatapointConfig) (primaryIndex : Int) (hdi ndi : List UInt8) :
    Prop where
  sent : gp.Sends nvStrPtr primaryIndex → gp.sent gp.sendVar =
    [nvCode IzotDatapointDirectionIsInput nvStrPtr.selHigh :: nvStrPtr.selectorLow :: ndi]
  silent : ¬gp.Sends nvStrPtr primaryIndex → gp.sent gp.sendVar = []
  copied : gp.sendVar.mem = gp.turnedMem nvStrPtr primaryIndex hdi

section

variable {gp} {i j : Nat}

theorem getNVStructPtr_of_lt (h : j < gp.indices) :
    gp.getNVStructPtr j = some (gp.entryOf j) := by
  unfold getNVStructPtr
  rw [if_neg (by omega), Int.toNat_natCast]

theorem lt_of_mem_indicesOf (hi : i < gp.nvTableSize) (h : j ∈ gp.indicesOf i) :
    j < gp.indices := by
  unfold indicesOf aliasIndices at h
  unfold indices
  rw [List.mem_cons, List.mem_filter, List.mem_range'_1] at h
  omega

theorem lt_of_isNVBound (h : gp.isNVBound i = true) : i < gp.nvTableSize := by
  unfold isNVBound at h
  split at h
  case isTrue => cases h
  case isFalse hi => omega

theorem propagateThisIndex_eq (p : Int) (h : j < gp.indices) :
    gp.propagateThisIndex p j =
      if gp.isOutput j then
        if gp.nvOutIndexQ.full then (.noBufferAvailable, gp)
        else
          (.noError,
            { gp with nvOutIndexQ := gp.nvOutIndexQ.push fun slot => { slot with index := j } })
      else (.invalidParameter, gp) := by
  unfold propagateThisIndex isOutput
  rw [getNVStructPtr_of_lt h]
  dsimp only
  by_cases hd : (gp.entryOf j).direction = IzotDatapointDirectionIsOutput
  · rw [if_neg (not_not.mpr hd), if_pos (beq_iff_eq.mpr hd)]
    rfl
  · rw [if_pos hd, if_neg (fun hb => hd (beq_iff_eq.mp hb))]

theorem scheduleEach_propagateThisIndex (p : Int) {js : List Nat} (hjs : ∀ j ∈ js, j < gp.indices)
    (count : Nat) {queueSpace : Nat}
    (hspace : gp.nvOutIndexQ.queueEntries + queueSpace = gp.nvOutIndexQ.queueCapacity) :
    ∃ q l,
      scheduleEach (fun gp => gp.propagateThisIndex p) js count queueSpace gp =
          (count + l.length, { gp with nvOutIndexQ := q }) ∧
        q.queueCapacity = gp.nvOutIndexQ.queueCapacity ∧ q.toList = gp.scheduled ++ l ∧
        l.map (·.index) = ((js.filter gp.isOutput).take (queueSpace - 1)).map fun j : Nat => (j : Int) := by
  induction js generalizing gp count queueSpace with
  | nil => exact ⟨gp.nvOutIndexQ, [], rfl, rfl, (List.append_nil _).symm, by simp⟩
  | cons j js ih =>
    rw [List.forall_mem_cons] at hjs
    unfold scheduleEach
    by_cases hlast : queueSpace ≤ 1
    · rw [if_pos hlast, show queueSpace - 1 = 0 by omega, List.take_zero]
      exact ⟨gp.nvOutIndexQ, [], rfl, rfl, (List.append_nil _).symm, rfl⟩
    · rw [if_neg hlast, propagateThisIndex_eq p hjs.1, List.filter_cons]
      cases hout : gp.isOutput j with
      | false => exact ih hjs.2 count hspace
      | true =>
        have hroom : gp.nvOutIndexQ.queueEntries + 1 < gp.nvOutIndexQ.queueCapacity := by omega
        have hfull : gp.nvOutIndexQ.full = false := by
          rw [Queue.full_eq_false_iff]
          omega
        obtain ⟨q, l, heq, hcap, hlist, hindex⟩ :=
          @ih { gp with nvOutIndexQ := gp.nvOutIndexQ.push fun slot => { slot with index := j } }
            hjs.2 (count + 1) (queueSpace - 1) (by
              rw [Queue.queueEntries_push, Queue.queueCapacity_push, if_pos hroom]
              omega)
        rw [hfull]
        refine ⟨q, { gp.nvOutIndexQ.tailSlot with index := j } :: l, ?_, ?_, ?_, ?_⟩
        · rw [List.length_cons, Nat.add_comm l.length, ← Nat.add_assoc]
          exact heq
        · rw [hcap, Queue.queueCapacity_push]
        · rw [hlist]
          unfold scheduled
          rw [Queue.toList_push, if_pos hroom, List.append_assoc]
          rfl
        · rw [if_pos rfl, show queueSpace - 1 = queueSpace - 1 - 1 + 1 by omega,
            List.take_succ_cons, List.map_cons, List.map_cons, hindex]
          rfl

theorem space_add (q : Queue NvOutEntry) :
    q.queueEntries + (q.capacity - q.entries) = q.queueCapacity := by
  have hle := q.entries_le
  unfold Queue.capacity Queue.entries
  cases h : q.invalid with
  | true =>
    rw [Queue.invalid_iff] at h
    rw [if_pos rfl, if_pos rfl]
    omega
  | false =>
    rw [if_neg Bool.false_ne_true, if_neg Bool.false_ne_true]
    omega

theorem seriesOf_of_not_bound (h : gp.isNVBound i = false) : gp.seriesOf i = [] := by
  rw [seriesOf, h]
  rfl

theorem seriesOf_of_outputs (h : gp.isNVBound i = true) (ho : gp.outputsOf i ≠ []) :
    gp.seriesOf i = (gp.outputsOf i).map (fun j : Nat => (j : Int)) ++ [-1] := by
  have hne : (gp.outputsOf i).isEmpty = false := by
    rw [List.isEmpty_eq_false_iff]
    exact ho
  rw [seriesOf, h, hne]
  rfl

theorem seriesOf_of_no_outputs (ho : gp.outputsOf i = []) : gp.seriesOf i = [] := by
  rw [seriesOf, ho]
  simp

theorem propagateThisPrimary_eq (i : Nat) :
    ∃ q a ev l,
      gp.propagateThisPrimary i = { gp with nvOutIndexQ := q, nvArrayIndex := a, events := ev } ∧
        q.queueCapacity = gp.nvOutIndexQ.queueCapacity ∧ q.toList = gp.scheduled ++ l ∧
        (gp.nvOutIndexQ.queueEntries + (gp.seriesOf i).length < gp.nvOutIndexQ.queueCapacity →
          l.map (·.index) = gp.seriesOf i) := by
  unfold propagateThisPrimary
  dsimp only
  cases hb : gp.isNVBound i with
  | false =>
    rw [if_neg Bool.false_ne_true, seriesOf_of_not_bound hb]
    exact ⟨gp.nvOutIndexQ, _, _, [], rfl, rfl, (List.append_nil _).symm, fun _ => rfl⟩
  | true =>
    have hspace := space_add gp.nvOutIndexQ
    obtain ⟨q, l, heq, hcap, hlist, hindex⟩ := scheduleEach_propagateThisIndex i
      (fun j hj => lt_of_mem_indicesOf (lt_of_isNVBound hb) hj) 0 hspace
    rw [if_pos rfl, heq]
    cases l with
    | nil =>
      refine ⟨q, _, _, [], rfl, hcap, hlist, fun hroom => ?_⟩
      by_cases ho : gp.outputsOf i = []
      · rw [seriesOf_of_no_outputs ho]
        rfl
      · -- with room for the series an output would have been scheduled
        rw [seriesOf_of_outputs hb ho, List.length_append, List.length_map] at hroom
        have hlen := congrArg List.length hindex
        have hpos := List.length_pos_iff.mpr ho
        rw [List.length_map, List.length_map, List.length_take, List.length_nil] at hlen
        unfold outputsOf at hroom hpos
        simp only [List.length_singleton] at hroom
        omega
    | cons x l =>
      refine ⟨q.push fun slot => { slot with index := -1 }, gp.nvArrayIndex, gp.events, x :: l ++
        (if q.queueEntries + 1 < q.queueCapacity then [{ q.tailSlot with index := -1 }] else []),
        ?_, ?_, ?_, fun hroom => ?_⟩
      · rw [Nat.zero_add]
        rfl
      · rw [Queue.queueCapacity_push, hcap]
      · rw [Queue.toList_push, hlist]
        split
        case isTrue => rw [List.append_assoc]
        case isFalse => rw [List.append_nil]
      · have ho : gp.outputsOf i ≠ [] := by
          intro ho
          rw [show (gp.indicesOf i).filter gp.isOutput = [] from ho] at hindex
          simp at hindex
        rw [seriesOf_of_outputs hb ho] at hroom ⊢
        rw [List.length_append, List.length_map, List.length_singleton] at hroom
        have hall : ((gp.indicesOf i).filter gp.isOutput).take
            (gp.nvOutIndexQ.capacity - gp.nvOutIndexQ.entries - 1) = gp.outputsOf i :=
          List.take_of_length_le (by
            have : ((gp.indicesOf i).filter gp.isOutput).length = (gp.outputsOf i).length := rfl
            omega)
        rw [hall] at hindex
        have hlen := congrArg List.length hindex
        have hentries := congrArg List.length hlist
        rw [Queue.length_toList, List.length_append] at hentries
        unfold scheduled at hentries
        rw [Queue.length_toList] at hentries
        rw [List.length_map, List.length_map] at hlen
        rw [if_pos (by omega), List.map_append, hindex]
        rfl

theorem foldl_propagateThisPrimary (l : List Nat) :
    ∃ q a ev added,
      l.foldl propagateThisPrimary gp =
          { gp with nvOutIndexQ := q, nvArrayIndex := a, events := ev } ∧
        q.queueCapacity = gp.nvOutIndexQ.queueCapacity ∧ q.toList = gp.scheduled ++ added ∧
        (gp.nvOutIndexQ.queueEntries + (l.flatMap gp.seriesOf).length <
            gp.nvOutIndexQ.queueCapacity →
          added.map (·.index) = l.flatMap gp.seriesOf) := by
  induction l generalizing gp with
  | nil =>
    exact ⟨gp.nvOutIndexQ, gp.nvArrayIndex, gp.events, [], rfl, rfl, (List.append_nil _).symm,
      fun _ => rfl⟩
  | cons i l ih =>
    obtain ⟨q, a, ev, added, heq, hcap, hlist, hindex⟩ := @propagateThisPrimary_eq gp i
    obtain ⟨q', a', ev', added', heq', hcap', hlist', hindex'⟩ :=
      @ih { gp with nvOutIndexQ := q, nvArrayIndex := a, events := ev }
    rw [List.foldl_cons, heq, heq']
    refine ⟨q', a', ev', added ++ added', rfl, hcap'.trans hcap, ?_, fun hroom => ?_⟩
    · rw [hlist']
      exact (congrArg (· ++ added') hlist).trans (List.append_assoc ..)
    · rw [List.flatMap_cons, List.length_append] at hroom
      have hfirst := hindex (by omega)
      have hlen := congrArg List.length hfirst
      have hentries := congrArg List.length hlist
      rw [Queue.length_toList, List.length_append] at hentries
      unfold scheduled at hentries
      rw [Queue.length_toList] at hentries
      rw [List.length_map] at hlen
      rw [List.map_append, hfirst, List.flatMap_cons]
      refine congrArg (gp.seriesOf i ++ ·) (hindex' ?_)
      show q.queueEntries + (l.flatMap gp.seriesOf).length < q.queueCapacity
      omega

end

section

variable {gp} {nvStrPtr : IzotDatapointConfig} {primaryIndex : Int} {e : NvOutEntry}

theorem sent_of_queues (ht : gp'.tsaOutQ = gp.tsaOutQ) (hn : gp'.nwOutQ = gp.nwOutQ) :
    gp.sent gp' = [] := by
  simp only [sent, ht, hn, appended_self]
  rfl

theorem sent_pushTsaOut (priority : Bool) (fill : TSASendParam → TSASendParam) :
    gp.sent (gp.pushTsaOut priority fill) =
      if (gp.tsaOutQ priority).queueEntries + 1 < (gp.tsaOutQ priority).queueCapacity then
        [(fill (gp.tsaOutQ priority).tailSlot).apdu]
      else [] := by
  have hpush := (gp.tsaOutQ priority).toList_push fill
  cases priority <;> simp only [sent, pushTsaOut, List.flatMap_cons, List.flatMap_nil] <;>
    rw [Function.update_self, Function.update_of_ne (by decide), hpush] <;> split <;>
    simp [appended_append, appended_self]

theorem sent_setNwOut (priority : Bool) {q : Queue NWSendParam} {l : List NWSendParam}
    (h : q.toList = (gp.nwOutQ priority).toList ++ l) :
    gp.sent (gp.setNwOut priority q) = l.map NWSendParam.bytes := by
  cases priority <;> simp only [sent, setNwOut, List.flatMap_cons, List.flatMap_nil] <;>
    rw [Function.update_self, Function.update_of_ne (by decide), h] <;>
    simp [appended_append, appended_self]

theorem bytes_apdu (slot : NWSendParam) (code : UInt8) (data : List UInt8) (nw : NWSendParam)
    (hpdu : nw.pdu = slot.pdu.store code (data.take data.length))
    (hsize : nw.pduSize = data.length + 1) : nw.bytes = code :: data := by
  have h := bytesAt_append [] (code :: data) (slot.pdu.data.drop data.length)
  unfold NWSendParam.bytes
  rw [hpdu, hsize, List.take_length]
  exact h

theorem length_networkValue (p : Int) :
    (gp.networkValue p).length = (gp.nvFixed p).nvLength.toNat := by
  unfold networkValue networkData
  dsimp only
  split <;> exact Image.length_bytes _ _

theorem updateValue_eq (e : NvOutEntry) (p : Int) : gp.updateValue e p = gp.networkValue p := by
  unfold updateValue NV_SYNC
  exact if_neg Bool.false_ne_true

theorem sent_allocSendUnackd (priority altPath proxy : Bool) (tag : MsgTag) (pSrc : SendAddress)
    (code : UInt8) (data : List UInt8) :
    gp.sent (gp.allocSendUnackd priority altPath proxy tag pSrc code data.length data).2 =
      if (gp.nwOutQ priority).queueEntries + 1 < (gp.nwOutQ priority).queueCapacity ∧
          data.length + 1 ≤ gp.nwOutBufSize false ∧ pSrc.netAddr.isOk then [code :: data]
      else [] := by
  unfold allocSendUnackd
  dsimp only
  cases hfull : (gp.nwOutQ priority).full with
  | true =>
    rw [if_pos rfl, sent_of_queues gp rfl rfl]
    rw [Queue.full_iff] at hfull
    rw [if_neg (by omega)]
  | false =>
    rw [if_neg Bool.false_ne_true]
    by_cases hsize : gp.nwOutBufSize false < data.length + 1
    · rw [if_pos hsize, sent_of_queues gp rfl rfl, if_neg (by omega)]
    · rw [if_neg hsize]
      unfold SendAddress.tsaAddressConversion
      cases haddr : pSrc.netAddr with
      | error sts =>
        refine Eq.trans ?_ (if_neg ?_).symm
        · exact gp.sent_setNwOut priority
            ((Queue.toList_fillTail _ _).trans (List.append_nil _).symm)
        · rintro ⟨-, -, hok⟩
          cases hok
      | ok addr =>
        by_cases hroom : (gp.nwOutQ priority).queueEntries + 1 < (gp.nwOutQ priority).queueCapacity
        · refine Eq.trans ?_ (if_pos ⟨hroom, by omega, rfl⟩).symm
          refine (gp.sent_setNwOut priority ((Queue.toList_push _ _).trans (if_pos hroom))).trans ?_
          exact congrArg ([·]) (bytes_apdu _ code data _ rfl rfl)
        · refine Eq.trans ?_ (if_neg fun h => hroom h.1).symm
          exact gp.sent_setNwOut priority (((Queue.toList_push _ _).trans (if_neg hroom)).trans
            (List.append_nil _).symm)

theorem sent_sendUpdate :
    (gp.CanSend nvStrPtr primaryIndex ∧ gp.HasRoomToSend nvStrPtr →
      gp.sent (gp.sendUpdate e nvStrPtr primaryIndex) =
        [nvCode IzotDatapointDirectionIsInput nvStrPtr.selHigh :: nvStrPtr.selectorLow ::
          gp.networkValue primaryIndex]) ∧
    (¬(gp.CanSend nvStrPtr primaryIndex ∧ gp.HasRoomToSend nvStrPtr) →
      gp.sent (gp.sendUpdate e nvStrPtr primaryIndex) = []) := by
  unfold sendUpdate CanSend HasRoomToSend
  dsimp only
  rw [updateValue_eq]
  have hlen := gp.length_networkValue primaryIndex
  by_cases hbuf : gp.outputBufSize nvStrPtr < 2 + (gp.nvFixed primaryIndex).nvLength.toNat
  · rw [if_pos hbuf, sent_of_queues gp rfl rfl]
    exact ⟨fun h => absurd h.1.1 (by omega), fun _ => rfl⟩
  · rw [if_neg hbuf]
    unfold AppData.accessAddress
    by_cases hext : nvStrPtr.addrIndex < gp.extended
    · rw [if_pos hext]
      dsimp only
      by_cases hs : nvStrPtr.service = .unacknowledged
      · have hsent := gp.sent_allocSendUnackd nvStrPtr.priority false false
          (GET_NV_UPDATE_TAG primaryIndex)
          (.ofImage gp.mem (gp.addrTable nvStrPtr.addrIndex))
          (nvCode IzotDatapointDirectionIsInput nvStrPtr.selHigh)
          (nvStrPtr.selectorLow :: gp.networkValue primaryIndex)
        rw [List.length_cons, hlen] at hsent
        rw [if_pos hs, if_pos hs, hsent]
        constructor
        · rintro ⟨⟨-, -, hun⟩, hroom⟩
          obtain ⟨hnw, hok⟩ := hun hs
          exact if_pos ⟨hroom, by omega, hok⟩
        · intro h
          refine if_neg fun hcond => h ?_
          exact ⟨⟨by omega, hext, fun _ => ⟨by omega, hcond.2.2⟩⟩, hcond.1⟩
      · rw [if_neg hs, if_neg hs, sent_pushTsaOut]
        constructor
        · intro h
          exact if_pos h.2
        · intro h
          exact if_neg fun hroom => h ⟨⟨by omega, hext, fun h => absurd h hs⟩, hroom⟩
    · rw [if_neg hext]
      exact ⟨fun h => absurd h.1.2.1 hext, fun _ => sent_of_queues gp.crash rfl rfl⟩

theorem allocSendUnackd_eq (priority altPath proxy : Bool) (tag : MsgTag) (pSrc : SendAddress)
    (code : UInt8) (len : Nat) (data : List UInt8) :
    ∃ n, (gp.allocSendUnackd priority altPath proxy tag pSrc code len data).2 =
      { gp with nwOutQ := n } := by
  unfold allocSendUnackd
  dsimp only
  split
  case isTrue => exact ⟨gp.nwOutQ, rfl⟩
  case isFalse =>
    split
    case isTrue => exact ⟨gp.nwOutQ, rfl⟩
    case isFalse => split <;> exact ⟨_, rfl⟩

theorem sendUpdate_eq :
    ∃ t n b, gp.sendUpdate e nvStrPtr primaryIndex =
      { gp with tsaOutQ := t, nwOutQ := n, crashed := b } := by
  unfold sendUpdate
  dsimp only
  split
  case isTrue => exact ⟨gp.tsaOutQ, gp.nwOutQ, gp.crashed, rfl⟩
  case isFalse =>
    split
    case h_1 => exact ⟨gp.tsaOutQ, gp.nwOutQ, true, rfl⟩
    case h_2 ap _ =>
      split
      case isTrue =>
        obtain ⟨n, hn⟩ := gp.allocSendUnackd_eq nvStrPtr.priority false false
          (GET_NV_UPDATE_TAG primaryIndex) (.ofImage gp.mem ap)
          (nvCode IzotDatapointDirectionIsInput nvStrPtr.selHigh)
          ((gp.nvFixed primaryIndex).nvLength.toNat + 1)
          (nvStrPtr.selectorLow :: gp.updateValue e primaryIndex)
        exact ⟨gp.tsaOutQ, n, gp.crashed, hn⟩
      case isFalse => exact ⟨_, gp.nwOutQ, gp.crashed, rfl⟩

theorem copy_eq_write (m : Image) (a j n : Nat) : m.copy a m j n = m.write a (m.slice j n) := by
  funext k
  by_cases hlo : k < a
  · rw [Image.copy_of_not_mem (.inl hlo), Image.write_of_lt _ _ hlo]
  · by_cases hhi : a + n ≤ k
    · rw [Image.copy_of_not_mem (.inr hhi), Image.write_of_le]
      rwa [Image.length_slice]
    · obtain ⟨d, rfl⟩ := Nat.exists_eq_add_of_le (Nat.le_of_not_lt hlo)
      have hd : d < (m.slice j n).length := by
        rw [Image.length_slice]
        omega
      rw [Image.copy_add (by omega), Image.write_of_mem _ _ hd]
      simp [Image.slice]

theorem connect_eq (source target reported : Int) :
    ∃ a ev, gp.connect source target reported =
      { gp with
        mem :=
          if (gp.nvFixed source).nvLength ≠ (gp.nvFixed target).nvLength then gp.mem
          else gp.mem.write (gp.nvFixed target).nvAddress (gp.nvValue source)
        nvArrayIndex := a
        events := ev } := by
  unfold connect
  dsimp only
  rw [copy_eq_write]
  by_cases hlen : (gp.nvFixed source).nvLength ≠ (gp.nvFixed target).nvLength
  · simp only [if_pos hlen]
    exact ⟨gp.nvArrayIndex, gp.events, rfl⟩
  · simp only [if_neg hlen]
    split
    case isTrue => exact ⟨_, _, rfl⟩
    case isFalse => exact ⟨gp.nvArrayIndex, gp.events, rfl⟩

theorem turnAround_eq :
    ∃ a ev, gp.turnAround nvStrPtr primaryIndex =
      { gp with mem := gp.turnedMem nvStrPtr primaryIndex (gp.nvValue primaryIndex)
                nvArrayIndex := a
                events := ev } := by
  unfold turnAround turnedMem connectedInput
  cases nvStrPtr.turnaround with
  | false => exact ⟨gp.nvArrayIndex, gp.events, rfl⟩
  | true =>
    cases gp.firstMatch nvStrPtr.selector IzotDatapointDirectionIsInput with
    | none => exact ⟨gp.nvArrayIndex, gp.events, rfl⟩
    | some i =>
      obtain ⟨a, ev, heq⟩ := gp.connect_eq primaryIndex (gp.getPrimaryIndex i) (gp.getPrimaryIndex i)
      refine ⟨a, ev, heq.trans ?_⟩
      dsimp only
      rw [if_pos rfl]
      by_cases hlen : (gp.nvFixed primaryIndex).nvLength ≠
          (gp.nvFixed (gp.getPrimaryIndex i)).nvLength
      · rw [if_pos hlen, if_pos hlen]
      · rw [if_neg hlen, if_neg hlen]

theorem sent_congr {s : AppStackData} (ht : s.tsaOutQ = gp.tsaOutQ) (hn : s.nwOutQ = gp.nwOutQ) :
    s.sent gp' = gp.sent gp' := by
  unfold sent
  rw [ht, hn]

theorem sendVarOf_spec (hsend : gp.sendVar = gp.sendVarOf e nvStrPtr)
    (hready : gp.assigned nvStrPtr = true → gp.outputQFull nvStrPtr = false) :
    gp.sendVar.nvOutIndexQ = gp.nvOutIndexQ.dropHead ∧
      gp.Delivers nvStrPtr (gp.getPrimaryIndex e.index) (gp.nvValue (gp.getPrimaryIndex e.index))
        (gp.sendVar.networkValue (gp.getPrimaryIndex e.index)) := by
  obtain ⟨a, ev, hturn⟩ := @turnAround_eq gp nvStrPtr (gp.getPrimaryIndex e.index)
  unfold sendVarOf at hsend
  dsimp only at hsend
  cases hassigned : gp.assigned nvStrPtr with
  | false =>
    rw [hassigned, Bool.not_false, Bool.not_true, Bool.false_and, if_neg Bool.false_ne_true,
      if_pos rfl, hturn] at hsend
    have hsilent : gp.sent gp.sendVar = [] := by
      rw [hsend]
      exact sent_of_queues _ rfl rfl
    refine ⟨by rw [hsend], ⟨fun h => ?_, fun _ => hsilent, by rw [hsend]⟩⟩
    exact absurd (hassigned.symm.trans h.1) Bool.false_ne_true
  | true =>
    rw [hassigned, hready hassigned, Bool.and_false, if_neg Bool.false_ne_true, Bool.not_true,
      if_neg Bool.false_ne_true, hturn] at hsend
    generalize hs : ({ gp with
        mem := gp.turnedMem nvStrPtr (gp.getPrimaryIndex e.index)
          (gp.nvValue (gp.getPrimaryIndex e.index))
        nvArrayIndex := a
        events := ev
        nvOutCanSchedule := false
        nvOutIndexQ := gp.nvOutIndexQ.dropHead } : AppStackData) = s at hsend
    obtain ⟨t, n, b, hupdate⟩ := @sendUpdate_eq s nvStrPtr (gp.getPrimaryIndex e.index) e
    have hcan : s.CanSend nvStrPtr (gp.getPrimaryIndex e.index) ∧ s.HasRoomToSend nvStrPtr ↔
        gp.Sends nvStrPtr (gp.getPrimaryIndex e.index) := by
      unfold Sends
      rw [hassigned, hturn, ← hs]
      exact (and_iff_right rfl).symm
    have hsent : ∀ x, s.sent x = gp.sent x := fun x => by
      rw [← hs]
      exact sent_congr _ rfl rfl
    have hvalue : gp.sendVar.networkValue (gp.getPrimaryIndex e.index) =
        s.networkValue (gp.getPrimaryIndex e.index) := by
      rw [hsend, hupdate]
      rfl
    obtain ⟨hyes, hno⟩ := @sent_sendUpdate s nvStrPtr (gp.getPrimaryIndex e.index) e
    rw [← hsend, hsent, hcan] at hyes hno
    refine ⟨by rw [hsend, hupdate, ← hs], ⟨fun h => ?_, hno, by rw [hsend, hupdate, ← hs]⟩⟩
    rw [hvalue]
    exact hyes h

theorem sendVar_cases :
    gp.sendVar.nvOutIndexQ = gp.nvOutIndexQ ∨
      ∃ e rest, gp.scheduled = e :: rest ∧ gp.sendVar.scheduled = rest ∧
        (e.index ≠ -1 →
          ∃ nvStrPtr, gp.getNVStructPtr e.index = some nvStrPtr ∧
            gp.Delivers nvStrPtr (gp.getPrimaryIndex e.index)
              (gp.nvValue (gp.getPrimaryIndex e.index))
              (gp.sendVar.networkValue (gp.getPrimaryIndex e.index))) := by
  have hdrop : ∀ {e rest}, gp.scheduled = e :: rest →
      gp.sendVar.nvOutIndexQ = gp.nvOutIndexQ.dropHead → gp.sendVar.scheduled = rest := by
    intro e rest hlist hq
    unfold scheduled at hlist ⊢
    rw [hq, Queue.toList_dropHead, hlist, List.tail_cons]
  have hstays : ∀ {s : AppStackData}, gp.sendVar = s → s.nvOutIndexQ = gp.nvOutIndexQ →
      gp.sendVar.nvOutIndexQ = gp.nvOutIndexQ := fun heq hq => by rw [heq, hq]
  by_cases hidle : (!gp.nvOutCanSchedule || gp.nvOutIndexQ.empty) = true
  · exact .inl (hstays (if_pos hidle) rfl)
  cases hpeek : gp.nvOutIndexQ.peek with
  | none =>
    refine .inl (hstays (s := gp.crash) ?_ rfl)
    unfold sendVar
    rw [if_neg hidle, hpeek]
  | some e =>
    have hsend : gp.sendVar = gp.sendEntry e := by
      unfold sendVar
      rw [if_neg hidle, hpeek]
    unfold sendEntry at hsend
    rw [Queue.peek_eq_head?, List.head?_eq_some_iff] at hpeek
    obtain ⟨rest, hlist⟩ := hpeek
    by_cases hunconfig : gp.nodeState = IzotApplicationUnconfig
    · rw [if_pos hunconfig] at hsend
      exact .inl (hstays hsend rfl)
    rw [if_neg hunconfig] at hsend
    by_cases hlast : e.index = -1
    · rw [if_pos hlast] at hsend
      split at hsend
      case isTrue => exact .inl (hstays hsend rfl)
      case isFalse =>
        exact .inr ⟨e, rest, hlist, hdrop hlist (by rw [hsend]), fun h => absurd hlast h⟩
    · rw [if_neg hlast] at hsend
      cases hptr : gp.getNVStructPtr e.index with
      | none =>
        rw [hptr] at hsend
        exact .inl (hstays hsend rfl)
      | some nvStrPtr =>
        rw [hptr] at hsend
        by_cases hwait : gp.assigned nvStrPtr = true ∧ gp.outputQFull nvStrPtr = true
        · refine .inl (hstays (s := gp) (hsend.trans ?_) rfl)
          dsimp only
          unfold sendVarOf
          rw [hwait.1, hwait.2]
          rfl
        · obtain ⟨hq, hdelivers⟩ := sendVarOf_spec hsend fun h =>
            Bool.eq_false_of_not_eq_true fun hfull => hwait ⟨h, hfull⟩
          exact .inr ⟨e, rest, hlist, hdrop hlist hq, fun _ => ⟨nvStrPtr, hptr, hdelivers⟩⟩

end

section

variable {gp gp'} {h : List (AppStackData × OutputEvent)}

theorem scheduled_propagate (call : NvCall) :
    ∃ added, (gp.propagate call).scheduled = gp.scheduled ++ added ∧
      (gp.HasRoomFor call → added.map (·.index) = gp.seriesOfCall call) := by
  obtain ⟨q, a, ev, added, heq, -, hlist, hindex⟩ :=
    @foldl_propagateThisPrimary gp (gp.primaries call)
  refine ⟨added, ?_, hindex⟩
  unfold propagate scheduled
  rw [heq]
  exact hlist

theorem scheduled_outputStep (event : OutputEvent) (gp : AppStackData) :
    (outputStep event gp).scheduled <:+ gp.scheduled ∨
      gp.scheduled <+: (outputStep event gp).scheduled := by
  cases event with
  | write addr value => exact .inr (List.prefix_refl _)
  | serve tsaOutQ nwOutQ nvOutCanSchedule => exact .inr (List.prefix_refl _)
  | propagate call =>
    obtain ⟨added, hlist, -⟩ := @scheduled_propagate gp call
    exact .inr ⟨added, hlist.symm⟩
  | sendVar =>
    obtain hq | ⟨e, rest, hlist, hrest, -⟩ := @sendVar_cases gp
    · exact .inr ⟨[], by rw [List.append_nil]; exact (congrArg Queue.toList hq).symm⟩
    · exact .inl ⟨[e], by rw [hlist]; exact congrArg (e :: ·) hrest⟩

theorem index_appended (event : OutputEvent)
    (hroom : ∀ call, event = .propagate call → gp.HasRoomFor call) :
    (appended gp.scheduled (outputStep event gp).scheduled).map (·.index) =
      gp.seriesOfEvent event := by
  cases event with
  | write addr value => exact congrArg (List.map _) (appended_self gp.scheduled)
  | serve tsaOutQ nwOutQ nvOutCanSchedule => exact congrArg (List.map _) (appended_self gp.scheduled)
  | propagate call =>
    obtain ⟨added, hlist, hindex⟩ := @scheduled_propagate gp call
    rw [outputStep, hlist, appended_append]
    exact hindex (hroom call rfl)
  | sendVar =>
    have hsuffix : gp.sendVar.scheduled <:+ gp.scheduled := by
      obtain hq | ⟨e, rest, hlist, hrest, -⟩ := @sendVar_cases gp
      · exact ⟨[], congrArg Queue.toList hq⟩
      · exact ⟨[e], by rw [hlist]; exact congrArg (e :: ·) hrest⟩
    rw [outputStep, appended_eq_nil hsuffix]
    rfl

/-- Everything that is propagated is scheduled, and sent in this order. -/
structure InOrder (gp gp' : AppStackData) (h : List (AppStackData × OutputEvent)) : Prop where
  fifo : (outputs outputStep scheduled h).map (·.2) ++ gp'.scheduled =
    gp.scheduled ++ (inputs outputStep scheduled h).map (·.2)
  series : (inputs outputStep scheduled h).map (·.2.index) =
    h.reverse.flatMap fun x => x.1.seriesOfEvent x.2

theorem inOrder_of_run (hrun : Run outputStep gp h gp')
    (hroom : ∀ t call, (t, OutputEvent.propagate call) ∈ h → t.HasRoomFor call) :
    InOrder gp gp' h := by
  refine ⟨hrun.fifo scheduled_outputStep, ?_⟩
  induction hrun with
  | refl => rfl
  | @next h t event hrun ih =>
    have hlast : ∀ call, event = .propagate call → t.HasRoomFor call := by
      rintro call rfl
      exact hroom t call List.mem_cons_self
    rw [inputs_cons, List.map_append, ih fun r call hmem => hroom r call (List.mem_cons_of_mem _ hmem),
      List.map_map, List.reverse_cons, List.flatMap_append, List.flatMap_singleton]
    exact congrArg _ (index_appended event hlast)

theorem delivers_of_mem_outputs {x : AppStackData × NvOutEntry}
    (hx : x ∈ outputs outputStep scheduled h) (hindex : x.2.index ≠ -1) :
    ∃ nvStrPtr, x.1.getNVStructPtr x.2.index = some nvStrPtr ∧
      x.1.Delivers nvStrPtr (x.1.getPrimaryIndex x.2.index)
        (x.1.nvValue (x.1.getPrimaryIndex x.2.index))
        (x.1.sendVar.networkValue (x.1.getPrimaryIndex x.2.index)) := by
  obtain ⟨event, -, hmem⟩ := mem_outputs hx
  have hkeeps : ∀ {new : List NvOutEntry}, x.1.scheduled <+: new →
      x.2 ∈ removed x.1.scheduled new → False := fun hp hm => by
    rw [removed_eq_nil hp] at hm
    cases hm
  cases event with
  | write addr value => exact (hkeeps (List.prefix_refl _) hmem).elim
  | serve tsaOutQ nwOutQ nvOutCanSchedule => exact (hkeeps (List.prefix_refl _) hmem).elim
  | propagate call =>
    obtain ⟨added, hlist, -⟩ := @scheduled_propagate x.1 call
    exact (hkeeps ⟨added, hlist.symm⟩ hmem).elim
  | sendVar =>
    obtain hq | ⟨e, rest, hlist, hrest, hdelivers⟩ := @sendVar_cases x.1
    · exact (hkeeps ⟨[], by rw [List.append_nil]; exact (congrArg Queue.toList hq).symm⟩ hmem).elim
    · rw [hlist, outputStep, hrest, removed_cons, List.mem_singleton] at hmem
      rw [hmem] at hindex ⊢
      exact hdelivers hindex

/-- While the queue has room for what is propagated, it is sent in the order of the calls, and the
values that go into updates and to connected inputs are those at the time of sending. -/
theorem delivers_live (hrun : Run outputStep gp h gp')
    (hroom : ∀ t call, (t, OutputEvent.propagate call) ∈ h → t.HasRoomFor call) :
    InOrder gp gp' h ∧
      ∀ x ∈ outputs outputStep scheduled h, x.2.index ≠ -1 →
        ∃ nvStrPtr, x.1.getNVStructPtr x.2.index = some nvStrPtr ∧
          x.1.Delivers nvStrPtr (x.1.getPrimaryIndex x.2.index)
            (x.1.nvValue (x.1.getPrimaryIndex x.2.index))
            (x.1.sendVar.networkValue (x.1.getPrimaryIndex x.2.index)) :=
  ⟨inOrder_of_run hrun hroom, fun _ hx hindex => delivers_of_mem_outputs hx hindex⟩

theorem one_le_tableSize : 1 ≤ NV_TABLE_SIZE := by decide

def oneOutput : AppStackData where
  mem a :=
    if a = IzotReadOnlyData.readOnly_2 then 0x44
    else if a = IzotReadOnlyData.extended then 15
    else if a = EEPROM.addrTable then 1
    else if a = EEPROM.nvConfigTable then 0x40
    else if EEPROM.nvAliasTable ≤ a ∧ a < EEPROM.configCheckSum then 0xFF
    else 0
  eep := 0
  nmp := 4096
  nvTableSize := 1
  nvTableSize_le := one_le_tableSize
  nvFixedTable _ := ⟨1, 5000⟩
  resetCause := 0
  appPgmMode := .onLine
  selectQueryFlag := false
  resetNode := false
  switchoverFailure := false
  tsaRespBufSize := 255
  tsaRespQ := .init (fun _ => default) 3
  crashed := false
  appOutQ := .init (fun _ => ⟨0, 0, false, .acknowledged, 0, default, false, 0, fun _ => 0⟩) 3
  appOutPriQ := .init (fun _ => ⟨0, 0, false, .acknowledged, 0, default, false, 0, fun _ => 0⟩) 3
  appOutBufSize := 255
  msgOut := .zero
  respOut := .zero
  msgInReqId := 0
  completed := []
  nvFixedBefore := default
  nvArrayTbl := []
  ibolSeq _ := none
  tsaOutQ _ := .init (fun _ => default) 3
  nwOutQ _ := .init (fun _ => default) 3
  tsaOutBufSize _ := 255
  nwOutBufSize _ := 255
  appInQ := .init (fun _ => default) 3
  appCeRspInQ := .init (fun _ => default) 3
  nvOutIndexQ := .init (fun _ => ⟨0, fun _ => 0⟩) MAX_NV_OUT
  nvOutIndexBufSize := 2 + MAX_NV_LENGTH
  nvOutCanSchedule := true
  nvOutIndex := 0
  nvOutStatus := .noError
  nvInIndexQ := .init (fun _ => 0) MAX_NV_IN
  nvInCanSchedule := true
  nvInIndex := 0
  nvInDataStatus := .invalidOperation
  nvInTranStatus := .noError
  nvArrayIndex := 0
  events := []

def changedOutput : List OutputEvent := [.propagate (.nv 0), .write 5000 [1], .sendVar]

theorem hasRoom_changedOutput (t : AppStackData) (call : NvCall)
    (hmem : (t, OutputEvent.propagate call) ∈ history outputStep oneOutput changedOutput) :
    t.HasRoomFor call := by
  simp only [changedOutput, history, List.nil_append, List.mem_append,
    List.mem_singleton, Prod.mk.injEq, reduceCtorEq, and_false, false_or] at hmem
  obtain ⟨rfl, hcall⟩ := hmem
  cases hcall
  unfold HasRoomFor
  decide +kernel

theorem delivers_live_oneOutput :
    InOrder oneOutput (changedOutput.foldl (fun gp event => outputStep event gp) oneOutput)
        (history outputStep oneOutput changedOutput) ∧
      ∀ x ∈ outputs outputStep scheduled (history outputStep oneOutput changedOutput),
        x.2.index ≠ -1 →
          ∃ nvStrPtr, x.1.getNVStructPtr x.2.index = some nvStrPtr ∧
            x.1.Delivers nvStrPtr (x.1.getPrimaryIndex x.2.index)
              (x.1.nvValue (x.1.getPrimaryIndex x.2.index))
              (x.1.sendVar.networkValue (x.1.getPrimaryIndex x.2.index)) :=
  delivers_live (Run.history ..) hasRoom_changedOutput

/-- Each entry of a synchronous output delivers the value that the variable had when it was
propagated. `sync` says which variables are declared synchronous, which only their self-documentation
repeats. -/
def DeliversPropagated (sync : Int → Prop) (h : List (AppStackData × OutputEvent)) : Prop :=
  ∀ (k : Nat) (x y : AppStackData × NvOutEntry), (outputs outputStep scheduled h)[k]? = some x →
    (inputs outputStep scheduled h)[k]? = some y → x.2.index ≠ -1 →
      sync (x.1.getPrimaryIndex x.2.index) →
        ∀ nvStrPtr, x.1.getNVStructPtr x.2.index = some nvStrPtr →
          x.1.Delivers nvStrPtr (x.1.getPrimaryIndex x.2.index)
            (y.1.nvValue (x.1.getPrimaryIndex x.2.index))
            (y.1.networkValue (x.1.getPrimaryIndex x.2.index))

theorem not_deliversPropagated :
    ¬∀ (sync : Int → Prop) (gp gp' : AppStackData) (h : List (AppStackData × OutputEvent)),
      gp.scheduled = [] → Run outputStep gp h gp' →
        (∀ t call, (t, OutputEvent.propagate call) ∈ h → t.HasRoomFor call) →
          DeliversPropagated sync h := by
  intro hall
  have hdelivers := hall (fun _ => True) oneOutput _ _ rfl (Run.history outputStep oneOutput
    changedOutput) hasRoom_changedOutput
  have hout : ((outputs outputStep scheduled (history outputStep oneOutput changedOutput))[0]?).map
      (fun x => (x.2.index, x.1.getNVStructPtr x.2.index, x.1.getPrimaryIndex x.2.index,
        x.1.sent x.1.sendVar)) = some (0, some ⟨0x40, 0, 0, 0⟩, 0, [[0x80, 0, 1]]) := by
    decide +kernel
  have hin : ((inputs outputStep scheduled (history outputStep oneOutput changedOutput))[0]?).map
      (fun y => y.1.networkValue 0) = some [0] := by
    decide +kernel
  obtain ⟨x, hx, hvalues⟩ := Option.map_eq_some_iff.mp hout
  obtain ⟨y, hy, hold⟩ := Option.map_eq_some_iff.mp hin
  obtain ⟨hindex, hptr, hprimary, hsent⟩ : x.2.index = 0 ∧
      x.1.getNVStructPtr x.2.index = some ⟨0x40, 0, 0, 0⟩ ∧
      x.1.getPrimaryIndex x.2.index = 0 ∧ x.1.sent x.1.sendVar = [[0x80, 0, 1]] := by
    simpa only [Prod.mk.injEq] using hvalues
  have hd := hdelivers 0 x y hx hy (by rw [hindex]; decide) trivial _ hptr
  rw [hprimary, hold] at hd
  by_cases hs : x.1.Sends ⟨0x40, 0, 0, 0⟩ 0
  · exact absurd (hsent.symm.trans (hd.sent hs)) (by decide)
  · exact absurd (hsent.symm.trans (hd.silent hs)) (by decide)

end

end AppStackData

end LonStack
