import LonStack.Iup.Effect

namespace LonStack

open Lib

/-- The messages of a transfer and the look at the timer of the initialisation, with a flash driver
that does what it is told. -/
def IupEvent.OfTransfer : IupEvent → Prop
  | .message _ drv _ apdu =>
    drv = ⟨true, true, true⟩ ∧ (apdu.data 0 = NME_IUP_INIT ∨ apdu.data 0 = NME_IUP_TRANSFER ∨
      apdu.data 0 = NME_IUP_CONFIRM)
  | .poll _ drv t => drv = ⟨true, true, true⟩ ∧ t = .initFirmware

namespace Iup

variable (host : IupPlatform)

/-- Packets that are stored have one of the numbers of the session and their place outside the block
of the record, the initialisation of the session has been done when its packets are stored and
confirmed, and it is done for no more packets than there are markers. -/
def Orderly : Iup × IupEvent → Prop
  | (s, .message _ drv p apdu) =>
    (apdu.data 0 = NME_IUP_TRANSFER → s.Stores host drv p apdu →
      s.Recorded host ∧ s.InPlace host (apdu.swappedShort 5).toNat) ∧
    (apdu.data 0 = NME_IUP_CONFIRM → apdu.iupSession = s.initData.iupSessionNumber →
      s.Recorded host)
  | (s, .poll now _ t) =>
    t = .initFirmware → s.expires now t = true →
      s.initData.iupPacketCount.toNat ≤ IupPlatform.markerRoom

instance : DecidablePred (Orderly host)
  | (_, .message ..) => inferInstanceAs (Decidable (_ ∧ _))
  | (_, .poll ..) => inferInstanceAs (Decidable (_ → _))

def Writes (n : Nat) (bytes : List UInt8) : Iup × IupEvent → Prop
  | (s, .message _ drv p apdu) =>
    apdu.data 0 = NME_IUP_TRANSFER ∧ s.Stores host drv p apdu ∧
      (apdu.swappedShort 5).toNat = n ∧ s.packetData apdu = bytes
  | (_, .poll ..) => False

def Initialises : Iup × IupEvent → Prop
  | (s, .poll now _ t) => t = .initFirmware ∧ s.expires now t = true
  | (_, .message ..) => False

structure Counted (h : List (Iup × IupEvent)) (s : Iup) : Prop where
  counted : s.iupRcvdPckCount.toNat = s.receivedCount host s.initData.iupPacketCount.toNat
  written : ∀ n, 0 < n → n ≤ s.initData.iupPacketCount.toNat → s.received host (n - 1) = true →
    Since (Writes host n (s.placed host s.initData n)) Initialises h

structure ConfirmHonest (x : Iup × IupEvent) : Prop where
  success : ∀ reqId subCode nums,
    .sendResponse reqId (.confirm subCode IUP_CONFIRM_RESULT_SUCESS nums) ∈
      x.1.newCalls (x.1.step host x.2) →
    ∀ n, 0 < n → n ≤ x.1.initData.iupPacketCount.toNat → x.1.received host (n - 1) = true
  missed : ∀ reqId subCode nums,
    .sendResponse reqId (.confirm subCode IUP_CONFIRM_RESULT_PACKET_MISSED nums) ∈
      x.1.newCalls (x.1.step host x.2) →
    ∀ n ∈ nums, 0 < n.toNat ∧ n.toNat ≤ x.1.initData.iupPacketCount.toNat ∧
      x.1.received host (n.toNat - 1) = false

variable {host} {s s' : Iup} {e : IupEvent} {h : List (Iup × IupEvent)}

def MarkedWritten (host : IupPlatform) (h : List (Iup × IupEvent)) (s : Iup) : Prop :=
  ∀ k < (s.recordedData host).iupPacketCount.toNat, s.received host k = true →
    Since (Writes host (k + 1) (s.placed host (s.recordedData host) (k + 1))) Initialises h

theorem MarkedWritten.keep (hwritten : MarkedWritten host h s) (hconsistent : s.Consistent host)
    (hrecord : KeepsRecord host s s') (hmarkers : KeepsMarkers host s s')
    (hplaced : ∀ k, host.Clear (s.recordedData host).iupPacketLen.toNat (k + 1) →
      s'.placed host (s.recordedData host) (k + 1) = s.placed host (s.recordedData host) (k + 1))
    (hnot : ¬Initialises (s, e)) : MarkedWritten host ((s, e) :: h) s' := by
  intro k hk hreceived
  rw [hrecord.recordedData] at hk ⊢
  rw [hmarkers k (Nat.lt_of_lt_of_le hk hconsistent.room)] at hreceived
  rw [hplaced k (hconsistent.clear k hk hreceived)]
  exact .inr ⟨hnot, hwritten k hk hreceived⟩

structure Marked (host : IupPlatform) (h : List (Iup × IupEvent)) (s : Iup) : Prop where
  consistent : s.Consistent host
  written : MarkedWritten host h s

theorem Marked.keep (hmarked : Marked host h s) (hflash : s'.flash = s.flash)
    (hcount : s'.iupRcvdPckCount = s.iupRcvdPckCount) (hnot : ¬Initialises (s, e)) :
    Marked host ((s, e) :: h) s' := by
  have hrecord : KeepsRecord host s s' := fun k _ => by rw [hflash]
  have hmarkers : KeepsMarkers host s s' := fun k _ => by rw [received, hflash, received]
  refine ⟨hmarked.consistent.keep hrecord hmarkers hcount,
    hmarked.written.keep hmarked.consistent hrecord hmarkers (fun k _ => ?_) hnot⟩
  rw [placed, hflash, placed]

theorem Marked.flag (hmarked : s.HasRecord host → Marked host h s) {a : Nat} (ha : 23 ≤ a)
    (ha' : a < iupPersistDataLen)
    (hflash : s'.flash = s.flash.write (host.iupFlashOffset + a) [iupTrue])
    (hcount : s'.iupRcvdPckCount = s.iupRcvdPckCount) (hnot : ¬Initialises (s, e))
    (hvalid : s'.HasRecord host) : Marked host ((s, e) :: h) s' := by
  obtain ⟨hrecord, hmarkers⟩ : KeepsRecord host s s' ∧ KeepsMarkers host s s' :=
    keeps_flag ha ha' hflash
  have hmarked := hmarked (hrecord.hasRecord.mp hvalid)
  refine ⟨hmarked.consistent.keep hrecord hmarkers hcount,
    hmarked.written.keep hmarked.consistent hrecord hmarkers (fun k hclear => ?_) hnot⟩
  rw [placed, hflash]
  have ha' : a < 26 := ha'
  exact block_placed hclear (Nat.succ_pos k) (show a + 1 ≤ 4096 by omega)

theorem Marked.store {now : UInt32} {drv : FlashDriver} {p : APPReceiveParam} {apdu : Apdu}
    (hmarked : Marked host h s) (hhost : host.Sound) (hcode : apdu.data 0 = NME_IUP_TRANSFER)
    (hstores : s.Stores host drv p apdu) (hrecorded : s.Recorded host)
    (hplace : s.InPlace host (apdu.swappedShort 5).toNat) :
    Marked host ((s, .message now drv p apdu) :: h) (s.store host apdu) := by
  have hdata := hrecorded.initData
  have hroom : s.initData.iupPacketCount.toNat ≤ IupPlatform.markerRoom :=
    hdata ▸ hmarked.consistent.room
  have hrecord := keepsRecord_store hhost hroom hplace
  have hpos := hplace.pos
  refine ⟨hmarked.consistent.store hhost hrecorded hstores hplace, ?_⟩
  intro k hk hreceived
  rw [hrecord.recordedData, hdata] at hk ⊢
  by_cases hnew : k = (apdu.swappedShort 5).toNat - 1
  case pos =>
    have hnum : k + 1 = (apdu.swappedShort 5).toNat := by omega
    rw [store_placed hhost hroom hplace (Nat.succ_pos k) (hnum.symm ▸ hplace.clear :
      host.Clear s.initData.iupPacketLen.toNat (k + 1)), if_pos hnum]
    exact .inl ⟨hcode, hstores, hnum.symm, rfl⟩
  case neg =>
    rw [received_store hhost hroom hplace (Nat.lt_of_lt_of_le hk hroom) hnew] at hreceived
    have hclear := hmarked.consistent.clear k (by rwa [hdata]) hreceived
    rw [hdata] at hclear
    have hold := hmarked.written k (by rwa [hdata]) hreceived
    rw [hdata] at hold
    rw [store_placed hhost hroom hplace (Nat.succ_pos k) hclear, if_neg (by omega)]
    exact .inr ⟨id, hold⟩

theorem marked_initUpdateProcess (host : IupPlatform) (s : Iup) (drv : FlashDriver)
    (h : List (Iup × IupEvent)) (hroom : s.initData.iupPacketCount.toNat ≤ IupPlatform.markerRoom)
    (hrecord : (s.initUpdateProcess host drv).HasRecord host) :
    Marked host h (s.initUpdateProcess host drv) := by
  obtain ⟨hopens, herases⟩ := works_of_hasRecord hrecord
  obtain ⟨hconsistent, -⟩ := consistent_initUpdateProcess host s drv hopens herases hroom
  refine ⟨hconsistent, fun k hk hreceived => ?_⟩
  rw [received_initUpdateProcess host s drv hopens herases
    (Nat.lt_of_lt_of_le hk hconsistent.room)] at hreceived
  exact absurd hreceived Bool.false_ne_true

theorem marked_expired {now : UInt32} {drv : FlashDriver} {t : IupTimer}
    (hmarked : s.HasRecord host → Marked host h s) (hexpires : s.expires now t = true)
    (hok : Orderly host (s, .poll now drv t)) (timer : LonTimer)
    (hrecord : ((s.setTimer t timer).onExpired host now drv t).HasRecord host) :
    Marked host ((s, .poll now drv t) :: h) ((s.setTimer t timer).onExpired host now drv t) := by
  cases t with
  | initFirmware => exact marked_initUpdateProcess host _ drv _ (hok rfl hexpires) hrecord
  | validateFirmware =>
    have hsame := computeMD5Digest_same host now (s.setTimer .validateFirmware timer)
    exact (hmarked (hasRecord_of_flash hsame.1 hrecord)).keep hsame.1 hsame.2.1 nofun
  | md5Event =>
    have hsame := calculateMD5_same host now (s.setTimer .md5Event timer)
    exact (hmarked (hasRecord_of_flash hsame.1 hrecord)).keep hsame.1 hsame.2.1 nofun
  | switchOver =>
    have hsame := switchOver_same host now drv (s.setTimer .switchOver timer)
    exact (hmarked (hasRecord_of_flash hsame.1 hrecord)).keep hsame.1 hsame.2.1 nofun
  | commitFirmware =>
    have hcommit := commitImage_eq host (s.setTimer .commitFirmware timer)
    change Marked host _ ((s.setTimer .commitFirmware timer).commitImage host)
    change ((s.setTimer .commitFirmware timer).commitImage host).HasRecord host at hrecord
    generalize (s.setTimer .commitFirmware timer).commitImage host = s' at hcommit hrecord ⊢
    cases hcommit with
    | inl heq =>
      rw [heq.2] at hrecord ⊢
      exact (hmarked hrecord).keep rfl rfl nofun
    | inr heq =>
      rw [heq.2] at hrecord ⊢
      exact Marked.flag hmarked (a := 24) (by decide) (by decide) rfl rfl nofun hrecord

theorem not_initialises (hidle : ∀ now drv t, e = .poll now drv t → s.expires now t = false) :
    ¬Initialises (s, e) := by
  cases e with
  | message now drv p apdu => exact id
  | poll now drv t =>
    rintro ⟨-, hexpires⟩
    rw [hidle now drv t rfl] at hexpires
    cases hexpires

theorem marked_step (hhost : host.Sound) (hok : Orderly host (s, e))
    (hmarked : s.HasRecord host → Marked host h s) (hrecord : (s.step host e).HasRecord host) :
    Marked host ((s, e) :: h) (s.step host e) := by
  have heffect := effect host s e
  generalize s.step host e = s' at heffect hrecord ⊢
  cases heffect with
  | quiet cs hcs hidle => exact (hmarked hrecord).keep rfl rfl (not_initialises hidle)
  | requested => exact (hmarked hrecord).keep rfl rfl nofun
  | validating => exact (hmarked hrecord).keep rfl rfl nofun
  | committing => exact (hmarked hrecord).keep rfl rfl nofun
  | stored hcode hstores =>
    obtain ⟨hrecorded, hplace⟩ := hok.1 hcode hstores
    exact (hmarked hrecorded.valid).store hhost hcode hstores hrecorded hplace
  | confirmed =>
    exact Marked.flag hmarked (a := 23) (by decide) (by decide) rfl rfl nofun hrecord
  | @switchOver now drv p apdu timer calls flagged =>
    cases flagged with
    | false => exact (hmarked hrecord).keep rfl rfl nofun
    | true => exact Marked.flag hmarked (a := 25) (by decide) (by decide) rfl rfl nofun hrecord
  | erased => exact absurd hrecord (not_hasRecord_erase host s)
  | expired hexpires => exact marked_expired hmarked hexpires hok _ hrecord

theorem Recorded.counted (hrecorded : s.Recorded host) (hmarked : Marked host h s) :
    Counted host h s where
  counted := by
    rw [← hrecorded.initData]
    exact hmarked.consistent.counted
  written n hpos hle hreceived := by
    obtain ⟨k, rfl⟩ : ∃ k, n = k + 1 := ⟨n - 1, by omega⟩
    rw [← hrecorded.initData] at hle ⊢
    exact hmarked.written k hle hreceived

theorem received_of_counted {n : Nat}
    (hcounted : s.iupRcvdPckCount.toNat = s.receivedCount host s.initData.iupPacketCount.toNat)
    (hall : s.initData.iupPacketCount = s.iupRcvdPckCount) (hpos : 0 < n)
    (hle : n ≤ s.initData.iupPacketCount.toNat) : s.received host (n - 1) = true := by
  have hlength : (List.range s.initData.iupPacketCount.toNat).countP (s.received host) =
      (List.range s.initData.iupPacketCount.toNat).length := by
    rw [List.length_range]
    exact hcounted.symm.trans (by rw [hall])
  exact List.countP_eq_length.mp hlength (n - 1) (List.mem_range.mpr (by omega))

theorem mem_missedPackets {n : UInt16} (h : n ∈ s.missedPackets host) :
    0 < n.toNat ∧ n.toNat ≤ s.initData.iupPacketCount.toNat ∧
      s.received host (n.toNat - 1) = false := by
  obtain ⟨k, hk, rfl⟩ := List.mem_map.mp h
  obtain ⟨hrange, hmissed⟩ := List.mem_filter.mp (List.mem_of_mem_take hk)
  have hlt := List.mem_range.mp hrange
  have hbound := s.initData.iupPacketCount.toNat_lt
  have hnum : (UInt16.ofNat (k + 1)).toNat = k + 1 := by
    rw [UInt16.toNat_ofNat']
    omega
  rw [hnum]
  refine ⟨Nat.succ_pos k, hlt, ?_⟩
  rw [received, Nat.add_sub_cancel, of_decide_eq_true hmissed]
  exact bne_self_eq_false _

theorem received_of_missedPackets {n : Nat} (h : s.missedPackets host = []) (hpos : 0 < n)
    (hle : n ≤ s.initData.iupPacketCount.toNat) : s.received host (n - 1) = true := by
  rw [missedPackets, List.map_eq_nil_iff, List.take_eq_nil_iff] at h
  rcases h with h | h
  · exact absurd h (by decide)
  · have hnot := List.filter_eq_nil_iff.mp h (n - 1) (List.mem_range.mpr (by omega))
    rw [decide_eq_true_iff] at hnot
    rw [received, bne_iff_ne]
    exact hnot

theorem confirmHonest_of_calls {x : Iup × IupEvent}
    (h : ∀ reqId subCode code nums,
      .sendResponse reqId (.confirm subCode code nums) ∉ x.1.newCalls (x.1.step host x.2)) :
    ConfirmHonest host x where
  success reqId subCode nums hmem := absurd hmem (h reqId subCode _ nums)
  missed reqId subCode nums hmem := absurd hmem (h reqId subCode _ nums)

theorem confirmHonest_handleNmeIupConfirm (p : APPReceiveParam) (apdu : Apdu) {x : Iup × IupEvent}
    (hstep : x.1.step host x.2 = x.1.handleNmeIupConfirm host p apdu)
    (hcounted : apdu.iupSession = x.1.initData.iupSessionNumber →
      x.1.iupRcvdPckCount.toNat = x.1.receivedCount host x.1.initData.iupPacketCount.toNat) :
    ConfirmHonest host x := by
  have hconfirms := confirms host p apdu x.1
  rw [← hstep] at hconfirms
  generalize hs' : x.1.step host x.2 = s' at hconfirms
  cases hconfirms with
  | ignored =>
    refine confirmHonest_of_calls fun reqId subCode code nums => ?_
    rw [hs', newCalls_self _ rfl]
    exact List.not_mem_nil
  | rejected =>
    refine confirmHonest_of_calls fun reqId subCode code nums => ?_
    rw [hs', newCalls_call, List.mem_singleton]
    exact fun heq => by cases heq
  | notViable =>
    constructor
    · intro reqId subCode nums hmem
      rw [hs', newCalls_call, List.mem_singleton] at hmem
      cases hmem
    · intro reqId subCode nums hmem
      rw [hs', newCalls_call, List.mem_singleton] at hmem
      cases hmem
  | counted hsession hall =>
    have hcalls : x.1.newCalls (((x.1.confirmed host).call
        (.sendResponse p.reqId (.confirm (apdu.data 0) IUP_CONFIRM_RESULT_SUCESS [])))) =
          [.sendResponse p.reqId (.confirm (apdu.data 0) IUP_CONFIRM_RESULT_SUCESS [])] :=
      newCalls_call x.1 _
    constructor
    · intro reqId subCode nums _ n hpos hle
      exact received_of_counted (hcounted hsession) hall hpos hle
    · intro reqId subCode nums hmem
      rw [hs', hcalls, List.mem_singleton] at hmem
      cases hmem
  | complete hsession hnone =>
    constructor
    · intro reqId subCode nums _ n hpos hle
      exact received_of_missedPackets hnone hpos hle
    · intro reqId subCode nums hmem
      rw [hs', newCalls_call, List.mem_singleton] at hmem
      cases hmem
  | missed =>
    constructor
    · intro reqId subCode nums hmem
      rw [hs', newCalls_call, List.mem_singleton] at hmem
      cases hmem
    · intro reqId subCode nums hmem n hn
      rw [hs', newCalls_call, List.mem_singleton] at hmem
      cases hmem
      exact mem_missedPackets hn

theorem confirmHonest (hscope : e.OfTransfer) (hok : Orderly host (s, e))
    (hcounted : s.Recorded host →
      s.iupRcvdPckCount.toNat = s.receivedCount host s.initData.iupPacketCount.toNat) :
    ConfirmHonest host (s, e) := by
  cases e with
  | message now drv p apdu =>
    rcases hscope.2 with hcode | hcode | hcode
    · obtain ⟨d, timer, c, heq, hc⟩ := handleNmeIupInit_eq host now p apdu s
      have hstep : s.step host (.message now drv p apdu) =
          ({ s.setInitData d with iupInitFirmwareTimer := timer } : Iup).call c := by
        rw [step, handleNMExpanded, if_pos hcode, heq]
      refine confirmHonest_of_calls fun reqId subCode code nums => ?_
      have hcalls : s.newCalls (s.step host (.message now drv p apdu)) = [c] := by
        rw [hstep]
        exact newCalls_call s c
      rw [hcalls, List.mem_singleton]
      exact (hc reqId subCode code nums).symm
    · have hstep : s.step host (.message now drv p apdu) = s.handleNmeIupTransfer host p apdu drv := by
        rw [step, handleNMExpanded, hcode, if_neg (by decide), if_pos rfl]
      have hcalls : (s.handleNmeIupTransfer host p apdu drv).calls = s.calls := by
        by_cases hstores : s.Stores host drv p apdu
        case pos =>
          rw [handleNmeIupTransfer_of_stores hstores]
          rfl
        case neg => rw [handleNmeIupTransfer_of_not_stores hstores]
      refine confirmHonest_of_calls fun reqId subCode code nums => ?_
      change _ ∉ s.newCalls _
      rw [hstep, newCalls_self s hcalls]
      exact List.not_mem_nil
    · refine confirmHonest_handleNmeIupConfirm p apdu ?_ fun hsession =>
        hcounted (hok.2 hcode hsession)
      change s.step host (.message now drv p apdu) = _
      rw [step, handleNMExpanded, hcode, if_neg (by decide), if_neg (by decide), if_pos rfl]
  | poll now drv t =>
    obtain ⟨-, rfl⟩ := hscope
    have hcalls : (s.step host (.poll now drv .initFirmware)).calls = s.calls := by
      rw [step, poll]
      split
      · exact calls_initUpdateProcess host _ drv
      · rfl
    refine confirmHonest_of_calls fun reqId subCode code nums => ?_
    change _ ∉ s.newCalls _
    rw [newCalls_self s hcalls]
    exact List.not_mem_nil

end Iup

/-- In every run of a session the count and the markers are those of the packets that have been
written, and the responses to confirm requests say which packets have been received. -/
theorem confirmed_transfer_complete {host : IupPlatform} (hhost : host.Sound) {s t : Iup}
    {h : List (Iup × IupEvent)} (hs : s.initData.iupPacketCount.toNat ≤ IupPlatform.markerRoom)
    (hrun : Run (fun e t => t.step host e) (s.initUpdateProcess host ⟨true, true, true⟩) h t)
    (hscope : ∀ x ∈ h, x.2.OfTransfer) (hok : ∀ x ∈ h, Iup.Orderly host x) :
    Always (fun h t => t.Recorded host → Iup.Counted host h t) h t ∧
      ∀ x ∈ h, Iup.ConfirmHonest host x := by
  have hall : (t.HasRecord host → Iup.Marked host h t) ∧
      Always (fun h t => t.Recorded host → Iup.Counted host h t) h t ∧
        ∀ x ∈ h, Iup.ConfirmHonest host x := by
    induction hrun with
    | refl =>
      have hmarked := Iup.marked_initUpdateProcess host s ⟨true, true, true⟩ [] hs
      exact ⟨hmarked, fun hrecorded => hrecorded.counted (hmarked hrecorded.valid), by simp⟩
    | @next h t e hrun ih =>
      rw [List.forall_mem_cons] at hscope hok
      obtain ⟨hmarked, halways, hhonest⟩ := ih hscope.2 hok.2
      have hmarked' := Iup.marked_step hhost hok.1 hmarked
      refine ⟨hmarked', ⟨fun hrecorded => hrecorded.counted (hmarked' hrecorded.valid), halways⟩, ?_⟩
      rw [List.forall_mem_cons]
      exact ⟨Iup.confirmHonest hscope.1 hok.1 fun hrecorded =>
        (hrecorded.counted (hmarked hrecorded.valid)).counted, hhonest⟩
  exact hall.2

def updatePlatform : IupPlatform := ⟨4096, 4096, 0, fun _ => true⟩

def idleTimer : LonTimer := ⟨0, 0⟩

def waitingUpdate : Iup where
  iupPersistData := ⟨0, ⟨7, 1, 1, 1, ⟨0x84, 0x84, .replicate 8 0⟩⟩, 0, 0, 0⟩
  iupRcvdPckCount := 0
  iupImageValidated := false
  saltBytes := []
  digestBytes := []
  digestmatch := false
  md5c := default
  fileSizeTemp := 0
  iupInitFirmwareTimer := idleTimer
  iupValidateFirmwareTimer := idleTimer
  iupMd5EventTimer := idleTimer
  iupSwitchOverTimer := idleTimer
  iupCommitFirmwareTimer := idleTimer
  flash := fun _ => 0xFF
  calls := []

def updateMessage (bytes : List UInt8) : IupEvent :=
  .message 0 ⟨true, true, true⟩ { (default : APPReceiveParam) with pduSize := bytes.length }
    fun k => bytes.getD k 0

def transferPacket (packetNumber : UInt8) : IupEvent :=
  updateMessage [0x73, NME_IUP_TRANSFER, 0, 0, 0, 7, 0, packetNumber, 0xAB]

def confirmRequest : IupEvent := updateMessage [0x73, NME_IUP_CONFIRM, 0, 0, 0, 7]

def transferHistory (packetNumber : UInt8) : List (Iup × IupEvent) :=
  history (fun e t => Iup.step updatePlatform t e)
    (waitingUpdate.initUpdateProcess updatePlatform ⟨true, true, true⟩)
    [transferPacket packetNumber, confirmRequest]

theorem ofTransfer_transferHistory (packetNumber : UInt8) :
    ∀ x ∈ transferHistory packetNumber, x.2.OfTransfer := by
  intro x hx
  simp only [transferHistory, history, List.nil_append, List.cons_append, List.mem_cons,
    List.not_mem_nil, or_false] at hx
  rcases hx with rfl | rfl
  · exact ⟨rfl, .inr (.inr rfl)⟩
  · exact ⟨rfl, .inr (.inl rfl)⟩

theorem orderly_transferHistory : ∀ x ∈ transferHistory 1, Iup.Orderly updatePlatform x := by
  decide +kernel

theorem confirmed_transfer_complete_onePacket :
    Always (fun h t => t.Recorded updatePlatform → Iup.Counted updatePlatform h t) (transferHistory 1)
        ([transferPacket 1, confirmRequest].foldl (fun t e => t.step updatePlatform e)
          (waitingUpdate.initUpdateProcess updatePlatform ⟨true, true, true⟩)) ∧
      ∀ x ∈ transferHistory 1, Iup.ConfirmHonest updatePlatform x :=
  confirmed_transfer_complete (by decide) (by decide) (Run.history _ _ _)
    (ofTransfer_transferHistory 1) orderly_transferHistory

theorem not_confirmed_transfer_complete :
    ¬∀ (host : IupPlatform) (s t : Iup) (h : List (Iup × IupEvent)), host.Sound →
      s.initData.iupPacketCount.toNat ≤ IupPlatform.markerRoom →
      Run (fun e t => t.step host e) (s.initUpdateProcess host ⟨true, true, true⟩) h t →
      (∀ x ∈ h, x.2.OfTransfer) →
        Always (fun h t => t.Recorded host → Iup.Counted host h t) h t ∧
          ∀ x ∈ h, Iup.ConfirmHonest host x := by
  intro hall
  obtain ⟨-, hhonest⟩ := hall updatePlatform waitingUpdate _ (transferHistory 2) (by decide)
    (by decide) (Run.history _ _ _) (ofTransfer_transferHistory 2)
  have hreceived := (hhonest _ List.mem_cons_self).success 0 NME_IUP_CONFIRM [] (by decide +kernel) 1
    (by decide) (by decide +kernel)
  exact absurd hreceived (by decide +kernel)

end LonStack
