import LonStack.Iup.Transfer

namespace LonStack

def IupPlatform.RefusesImage (host : IupPlatform) (apdu : Apdu) : Prop :=
  (apdu.identifier 5).imgType ≠ HOST_PROCESSOR_COMBINED_IMAGE ∨
    (apdu.identifier 5).imgSubType ≠ HOST_PROCESSOR_COMBINED_IMAGE ∨
      host.partSize < (apdu.swappedLong 19).toNat

namespace Iup

section

variable (now : UInt32) (p : APPReceiveParam) (apdu : Apdu) (s s' : Iup)

def AnswersInit (resultCode : UInt8) : Prop :=
  ∃ subCode actionTime pcktSize pcktSpacing md5 sha packetCount,
    s'.calls = s.calls ++ [.sendResponse p.reqId (.init subCode resultCode actionTime pcktSize
      pcktSpacing md5 sha packetCount)]

structure KeepsTransfer : Prop where
  initData : s'.initData = s.initData
  rcvdPckCount : s'.iupRcvdPckCount = s.iupRcvdPckCount
  flash : s'.flash = s.flash
  initFirmwareTimer : s'.iupInitFirmwareTimer = s.iupInitFirmwareTimer

def PacketCountTooHigh : Prop := 4096 - iupPersistDataLen < (requestedInitData apdu).iupPacketCount.toNat

def RepeatsSession : Prop :=
  requestedInitData apdu = s.initData ∧
    (PacketCountTooHigh apdu ∨
      s.iupInitFirmwareTimer.set now IUP_INIT_FIRMWARE_TIMER_VALUE = s.iupInitFirmwareTimer)

end

variable {host : IupPlatform} {now : UInt32} {p : APPReceiveParam} {apdu : Apdu} {s : Iup}

inductive HandlesInit (host : IupPlatform) (now : UInt32) (p : APPReceiveParam) (apdu : Apdu)
    (s : Iup) : Iup → Prop
  | malformed : HandlesInit host now p apdu s (s.call (.nmndRespond p.reqId .invalidParameter))
  | refused {c : IupCall} : host.RefusesImage apdu → HandlesInit host now p apdu s (s.call c)
  | tooManyPackets {c : IupCall} : ¬host.RefusesImage apdu → PacketCountTooHigh apdu →
      HandlesInit host now p apdu s ((s.setInitData (requestedInitData apdu)).call c)
  | startsTimer {c : IupCall} : ¬host.RefusesImage apdu → ¬PacketCountTooHigh apdu →
      HandlesInit host now p apdu s
        (({ s.setInitData (requestedInitData apdu) with
          iupInitFirmwareTimer :=
            s.iupInitFirmwareTimer.set now IUP_INIT_FIRMWARE_TIMER_VALUE } : Iup).call c)

theorem handlesInit (host : IupPlatform) (now : UInt32) (p : APPReceiveParam) (apdu : Apdu)
    (s : Iup) : HandlesInit host now p apdu s (s.handleNmeIupInit host now p apdu) := by
  unfold handleNmeIupInit
  split
  case isTrue => exact .malformed
  case isFalse =>
    dsimp only
    split
    case isTrue h => exact .refused (.inl h)
    case isFalse htype =>
      split
      case isTrue h => exact .refused (.inr (.inl h))
      case isFalse hsubType =>
        split
        case isTrue h => exact .refused (.inr (.inr h))
        case isFalse hsize =>
          have himage : ¬host.RefusesImage apdu := fun h =>
            h.elim htype fun h => h.elim hsubType hsize
          split
          case isTrue h => exact .tooManyPackets himage h
          case isFalse h => exact .startsTimer himage h

/-- An init request leaves the transfer alone if and only if its image is refused, or it asks for
nothing else than there is. -/
theorem keepsTransfer_iff {resultCode : UInt8}
    (hanswer : s.AnswersInit p (s.handleNmeIupInit host now p apdu) resultCode) :
    s.KeepsTransfer (s.handleNmeIupInit host now p apdu) ↔
      host.RefusesImage apdu ∨ s.RepeatsSession now apdu := by
  have hmalformed : ∀ c, s.AnswersInit p (s.call c) resultCode →
      c ≠ .nmndRespond p.reqId .invalidParameter := by
    rintro c ⟨subCode, actionTime, pcktSize, pcktSpacing, md5, sha, packetCount, hcalls⟩ rfl
    exact absurd (List.append_cancel_left hcalls) (by simp)
  have hhandles := handlesInit host now p apdu s
  generalize s.handleNmeIupInit host now p apdu = s' at hanswer hhandles ⊢
  cases hhandles with
  | malformed => exact absurd rfl (hmalformed _ hanswer)
  | refused himage => exact ⟨fun _ => .inl himage, fun _ => ⟨rfl, rfl, rfl, rfl⟩⟩
  | tooManyPackets himage hcount =>
    refine ⟨fun h => .inr ⟨h.initData, .inl hcount⟩, fun h => ?_⟩
    obtain himage' | ⟨hsame, -⟩ := h
    · exact absurd himage' himage
    · exact ⟨hsame, rfl, rfl, rfl⟩
  | startsTimer himage hcount =>
    refine ⟨fun h => .inr ⟨h.initData, .inr h.initFirmwareTimer⟩, fun h => ?_⟩
    obtain himage' | ⟨hsame, hcount' | htimer⟩ := h
    · exact absurd himage' himage
    · exact absurd hcount' hcount
    · exact ⟨hsame, rfl, rfl, htimer⟩

end Iup

def initRequest (imgSubType packetCountHigh : UInt8) : Apdu := fun k =>
  ([0x73, NME_IUP_INIT, 0, 0, 0, 8, 0x84, imgSubType] ++ List.replicate 8 0 ++
    [0, 1, packetCountHigh, 0, 0, 0, 0, 1]).getD k 0

theorem keepsTransfer_iff_subType :
    waitingUpdate.AnswersInit { (default : APPReceiveParam) with pduSize := 40 }
        (waitingUpdate.handleNmeIupInit updatePlatform 0
          { (default : APPReceiveParam) with pduSize := 40 } (initRequest 0x85 0))
        IUP_INIT_RESULT_INVALID_IMAGE_SUBTYPE ∧
      (waitingUpdate.KeepsTransfer (waitingUpdate.handleNmeIupInit updatePlatform 0
          { (default : APPReceiveParam) with pduSize := 40 } (initRequest 0x85 0)) ↔
        updatePlatform.RefusesImage (initRequest 0x85 0) ∨
          waitingUpdate.RepeatsSession 0 (initRequest 0x85 0)) :=
  have hanswer : waitingUpdate.AnswersInit { (default : APPReceiveParam) with pduSize := 40 }
      (waitingUpdate.handleNmeIupInit updatePlatform 0
        { (default : APPReceiveParam) with pduSize := 40 } (initRequest 0x85 0))
      IUP_INIT_RESULT_INVALID_IMAGE_SUBTYPE :=
    ⟨NME_IUP_INIT, 0, 0, IUP_PACKET_SPACING, true, false, 0, by decide +kernel⟩
  ⟨hanswer, Iup.keepsTransfer_iff hanswer⟩

theorem not_keepsTransfer :
    ¬∀ (host : IupPlatform) (now : UInt32) (p : APPReceiveParam) (apdu : Apdu) (s : Iup)
      (resultCode : UInt8),
        s.AnswersInit p (s.handleNmeIupInit host now p apdu) resultCode →
          resultCode ≠ IUP_INIT_RESULT_SUCCESS → resultCode ≠ IUP_INIT_RESULT_LARGE_PACKET_SIZE →
            s.KeepsTransfer (s.handleNmeIupInit host now p apdu) := by
  intro hall
  have hkeeps := hall updatePlatform 0 { (default : APPReceiveParam) with pduSize := 40 }
    (initRequest 0x84 0x20) waitingUpdate IUP_INIT_RESULT_PACKET_COUNT_TOO_HIGH
    ⟨NME_IUP_INIT, IUP_INIT_IMAGE_UPDATE_INIT_TIMER, 0, IUP_PACKET_SPACING, true, false, 1,
      by decide +kernel⟩ (by decide) (by decide)
  exact absurd (congrArg IupInitData.iupSessionNumber hkeeps.initData) (by decide +kernel)

end LonStack
