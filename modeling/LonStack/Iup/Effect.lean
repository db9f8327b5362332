import LonStack.Iup.Session

namespace LonStack

open Lib

structure IupPlatform.Proper (host : IupPlatform) (p : APPReceiveParam) (apdu : Apdu) : Prop where
  pduSize : p.pduSize = 40
  imgType : (apdu.identifier 5).imgType = HOST_PROCESSOR_COMBINED_IMAGE
  imgSubType : (apdu.identifier 5).imgSubType = HOST_PROCESSOR_COMBINED_IMAGE
  size : (Iup.requestedInitData apdu).iupImageLen.toNat ≤ host.partSize

instance (host : IupPlatform) (p : APPReceiveParam) (apdu : Apdu) : Decidable (host.Proper p apdu) :=
  decidable_of_iff (_ ∧ _ ∧ _ ∧ _) ⟨fun h => ⟨h.1, h.2.1, h.2.2.1, h.2.2.2⟩,
    fun h => ⟨h.pduSize, h.imgType, h.imgSubType, h.size⟩⟩

namespace Iup

section

variable (host : IupPlatform) (s : Iup)

structure StartsValidation (apdu : Apdu) : Prop where
  session : apdu.iupSession = s.initData.iupSessionNumber
  digestType : apdu.data 5 = DIGEST_TYPE_SUPPORTED
  validated : s.iupImageValidated = false

instance (apdu : Apdu) : Decidable (s.StartsValidation apdu) :=
  decidable_of_iff (_ ∧ _ ∧ _) ⟨fun h => ⟨h.1, h.2.1, h.2.2⟩,
    fun h => ⟨h.session, h.digestType, h.validated⟩⟩

def withCalls (cs : List IupCall) : Iup := { s with calls := s.calls ++ cs }

def validating (now : UInt32) (apdu : Apdu) : Iup :=
  { s with
    saltBytes := apdu.slice (Apdu.dataOffset + 6) 16
    digestBytes := apdu.slice (Apdu.dataOffset + 22) 16
    iupValidateFirmwareTimer :=
      s.iupValidateFirmwareTimer.set now IUP_VALIDATE_FIRMWARE_TIMER_VALUE }

def secondary : Iup :=
  { s with
    iupPersistData := { s.iupPersistData with secondaryFlag := iupTrue }
    flash := s.flash.write (host.iupFlashOffset + 25) [iupTrue] }

def committed : Iup :=
  { s with
    iupPersistData := { s.iupPersistData with iupCommitDone := iupTrue }
    flash := s.flash.write (host.iupFlashOffset + 24) [iupTrue] }

end

/-- What a step can do. The calls of a message are answers; only the timers of the switch-over and of
the commitment activate an image. -/
inductive Effect (host : IupPlatform) (s : Iup) : IupEvent → Iup → Prop
  | quiet {e : IupEvent} (cs : List IupCall) (hcs : .partSetActivePartition ∉ cs)
      (hidle : ∀ now drv t, e = .poll now drv t → s.expires now t = false) :
      Effect host s e (s.withCalls cs)
  | requested {now : UInt32} {drv : FlashDriver} {p : APPReceiveParam} {apdu : Apdu}
      {timer : LonTimer} {c : IupCall} (hcode : apdu.data 0 = NME_IUP_INIT)
      (hproper : host.Proper p apdu)
      (htimer : timer = s.iupInitFirmwareTimer ∧
          IupPlatform.markerRoom < (requestedInitData apdu).iupPacketCount.toNat ∨
        timer = s.iupInitFirmwareTimer.set now IUP_INIT_FIRMWARE_TIMER_VALUE)
      (hc : c ≠ .partSetActivePartition) :
      Effect host s (.message now drv p apdu)
        (({ s.setInitData (requestedInitData apdu) with iupInitFirmwareTimer := timer } : Iup).call c)
  | stored {now : UInt32} {drv : FlashDriver} {p : APPReceiveParam} {apdu : Apdu}
      (hcode : apdu.data 0 = NME_IUP_TRANSFER) (hstores : s.Stores host drv p apdu) :
      Effect host s (.message now drv p apdu) (s.store host apdu)
  | confirmed {now : UInt32} {drv : FlashDriver} {p : APPReceiveParam} {apdu : Apdu} {c : IupCall}
      (hcode : apdu.data 0 = NME_IUP_CONFIRM)
      (hsession : apdu.iupSession = s.initData.iupSessionNumber)
      (hall : s.initData.iupPacketCount = s.iupRcvdPckCount) (hc : c ≠ .partSetActivePartition) :
      Effect host s (.message now drv p apdu) ((s.confirmed host).call c)
  | validating {now : UInt32} {drv : FlashDriver} {p : APPReceiveParam} {apdu : Apdu} {c : IupCall}
      (hcode : apdu.data 0 = NME_IUP_VALIDATE) (hstarts : s.StartsValidation apdu)
      (hc : c ≠ .partSetActivePartition) :
      Effect host s (.message now drv p apdu) ((s.validating now apdu).call c)
  | switchOver {now : UInt32} {drv : FlashDriver} {p : APPReceiveParam} {apdu : Apdu}
      {timer : LonTimer} {calls : List IupCall} (flagged : Bool)
      (hcode : apdu.data 0 = NME_IUP_SWITCHOVER) (hvalidated : s.iupImageValidated = true)
      (hcalls : ∃ cs, calls = s.calls ++ cs ∧ .partSetActivePartition ∉ cs) :
      Effect host s (.message now drv p apdu)
        { (if flagged then s.secondary host else s) with
          iupSwitchOverTimer := timer
          calls := calls }
  | erased {now : UInt32} {drv : FlashDriver} {p : APPReceiveParam} {apdu : Apdu} {c : IupCall}
      (hcode : apdu.data 0 = NME_IUP_STATUS ∨ apdu.data 0 = NME_IUP_COMMIT)
      (hc : c ≠ .partSetActivePartition) :
      Effect host s (.message now drv p apdu) ((s.eraseIupPersistData host).call c)
  | committing {now : UInt32} {drv : FlashDriver} {p : APPReceiveParam} {apdu : Apdu}
      {timer : LonTimer} {c : IupCall} (hcode : apdu.data 0 = NME_IUP_COMMIT)
      (hc : c ≠ .partSetActivePartition) :
      Effect host s (.message now drv p apdu)
        (({ s with iupCommitFirmwareTimer := timer } : Iup).call c)
  | expired {now : UInt32} {drv : FlashDriver} {t : IupTimer} (hexpires : s.expires now t = true) :
      Effect host s (.poll now drv t)
        ((s.setTimer t ((s.timer t).reported now)).onExpired host now drv t)

variable {host : IupPlatform} {now : UInt32} {drv : FlashDriver} {p : APPReceiveParam} {apdu : Apdu}
  {s : Iup}

theorem Effect.self : Effect host s (.message now drv p apdu) s := by
  have h : Effect host s (.message now drv p apdu) (s.withCalls []) :=
    .quiet [] List.not_mem_nil nofun
  rwa [withCalls, List.append_nil] at h

theorem Effect.call {c : IupCall} (hc : c ≠ .partSetActivePartition) :
    Effect host s (.message now drv p apdu) (s.call c) :=
  .quiet [c] (by rwa [List.mem_singleton, eq_comm]) nofun

theorem effect_handleNmeIupInit (hcode : apdu.data 0 = NME_IUP_INIT) :
    Effect host s (.message now drv p apdu) (s.handleNmeIupInit host now p apdu) := by
  unfold handleNmeIupInit
  split
  case isTrue => exact .call (fun h => by cases h)
  case isFalse hpdu =>
    dsimp only
    split
    case isTrue => exact .call (fun h => by cases h)
    case isFalse htype =>
      split
      case isTrue => exact .call (fun h => by cases h)
      case isFalse hsubType =>
        split
        case isTrue => exact .call (fun h => by cases h)
        case isFalse hsize =>
          have hproper : host.Proper p apdu :=
            ⟨not_not.mp hpdu, not_not.mp htype, not_not.mp hsubType, Nat.not_lt.mp hsize⟩
          split
          case isTrue hcount => exact .requested hcode hproper (.inl ⟨rfl, hcount⟩) (fun h => by cases h)
          case isFalse => exact .requested hcode hproper (.inr rfl) (fun h => by cases h)

theorem effect_handleNmeIupConfirm (hcode : apdu.data 0 = NME_IUP_CONFIRM) :
    Effect host s (.message now drv p apdu) (s.handleNmeIupConfirm host p apdu) := by
  have hconfirms := confirms host p apdu s
  generalize s.handleNmeIupConfirm host p apdu = s' at hconfirms ⊢
  cases hconfirms with
  | ignored => exact .self
  | counted hsession hall => exact .confirmed hcode hsession hall (fun h => by cases h)
  | rejected | notViable | complete | missed => exact .call (fun h => by cases h)

theorem effect_handleNmeIupValidate (hcode : apdu.data 0 = NME_IUP_VALIDATE) :
    Effect host s (.message now drv p apdu) (s.handleNmeIupValidate now p apdu) := by
  unfold handleNmeIupValidate
  split
  case isTrue => exact .self
  case isFalse hsession =>
    dsimp only
    split
    case isTrue =>
      split
      case isTrue => exact .call (fun h => by cases h)
      case isFalse => exact .call (fun h => by cases h)
    case isFalse =>
      split
      case isTrue => exact .call (fun h => by cases h)
      case isFalse htype =>
        split
        case isTrue => exact .call (fun h => by cases h)
        case isFalse hvalidated =>
          exact .validating hcode
            ⟨not_not.mp hsession, not_not.mp htype, Bool.eq_false_iff.mpr hvalidated⟩
            (fun h => by cases h)

theorem effect_handleNmeIupSwitchOver (hcode : apdu.data 0 = NME_IUP_SWITCHOVER) :
    Effect host s (.message now drv p apdu) (s.handleNmeIupSwitchOver host now p apdu) := by
  unfold handleNmeIupSwitchOver
  split
  case isTrue => exact .call (fun h => by cases h)
  case isFalse =>
    dsimp only
    split
    case isTrue => exact .call (fun h => by cases h)
    case isFalse hvalidated =>
      have hvalidated : s.iupImageValidated = true := by simpa using hvalidated
      by_cases hflag : apdu.data 1 &&& 0x01 ≠ 0
      case pos =>
        rw [if_pos hflag]
        split
        case isTrue => exact .switchOver true hcode hvalidated ⟨[_], rfl, by simp⟩
        case isFalse =>
          split
          case isTrue => exact .switchOver true hcode hvalidated ⟨[_, _], List.append_assoc _ _ _, by simp⟩
          case isFalse =>
            split
            case isTrue => exact .switchOver true hcode hvalidated ⟨[_, _], List.append_assoc _ _ _, by simp⟩
            case isFalse => exact .switchOver true hcode hvalidated ⟨[_], rfl, by simp⟩
      case neg =>
        rw [if_neg hflag]
        split
        case isTrue => exact .switchOver false hcode hvalidated ⟨[_], rfl, by simp⟩
        case isFalse =>
          split
          case isTrue => exact .switchOver false hcode hvalidated ⟨[_, _], List.append_assoc _ _ _, by simp⟩
          case isFalse =>
            split
            case isTrue => exact .switchOver false hcode hvalidated ⟨[_, _], List.append_assoc _ _ _, by simp⟩
            case isFalse => exact .switchOver false hcode hvalidated ⟨[_], rfl, by simp⟩

theorem effect_handleNmeIupStatus (hcode : apdu.data 0 = NME_IUP_STATUS) :
    Effect host s (.message now drv p apdu) (s.handleNmeIupStatus host p apdu) := by
  unfold handleNmeIupStatus
  split
  case isTrue => exact .call (fun h => by cases h)
  case isFalse =>
    dsimp only
    split
    case isTrue => exact .erased (.inl hcode) (fun h => by cases h)
    case isFalse =>
      split
      case isTrue => exact .erased (.inl hcode) (fun h => by cases h)
      case isFalse =>
        split
        case isTrue => exact .erased (.inl hcode) (fun h => by cases h)
        case isFalse => exact .call (fun h => by cases h)

theorem effect_handleNmeIupCommit (hcode : apdu.data 0 = NME_IUP_COMMIT) :
    Effect host s (.message now drv p apdu) (s.handleNmeIupCommit host now p apdu) := by
  unfold handleNmeIupCommit
  split
  case isTrue => exact .erased (.inr hcode) (fun h => by cases h)
  case isFalse =>
    dsimp only
    split
    case isTrue => exact .erased (.inr hcode) (fun h => by cases h)
    case isFalse =>
      split
      case isTrue =>
        split
        case isTrue => exact .committing hcode (fun h => by cases h)
        case isFalse => exact .erased (.inr hcode) (fun h => by cases h)
      case isFalse => exact .erased (.inr hcode) (fun h => by cases h)

theorem effect_poll (t : IupTimer) : Effect host s (.poll now drv t) (s.poll host now drv t) := by
  unfold poll
  cases hexpires : s.expires now t with
  | true =>
    rw [if_pos rfl]
    have hreported : ((s.timer t).expired now).2 = (s.timer t).reported now := by
      unfold expires LonTimer.expired at hexpires
      unfold LonTimer.expired
      split at hexpires
      · rename_i h
        rw [if_pos h]
      · cases hexpires
    rw [hreported]
    exact .expired hexpires
  | false =>
    rw [if_neg Bool.false_ne_true]
    have hsame : ((s.timer t).expired now).2 = s.timer t := by
      unfold expires LonTimer.expired at hexpires
      unfold LonTimer.expired
      split at hexpires
      · cases hexpires
      · rename_i h
        rw [if_neg h]
    have hquiet : Effect host s (.poll now drv t) (s.withCalls []) := by
      refine .quiet [] List.not_mem_nil ?_
      rintro now' drv' t' ⟨⟩
      exact hexpires
    rw [withCalls, List.append_nil] at hquiet
    rw [hsame]
    cases t <;> exact hquiet

theorem effect (host : IupPlatform) (s : Iup) (e : IupEvent) : Effect host s e (s.step host e) := by
  cases e with
  | poll now drv t => exact effect_poll t
  | message now drv p apdu =>
    rw [step, handleNMExpanded]
    split
    case isTrue hcode => exact effect_handleNmeIupInit hcode
    case isFalse =>
      split
      case isTrue hcode =>
        by_cases hstores : s.Stores host drv p apdu
        case pos =>
          rw [handleNmeIupTransfer_of_stores hstores]
          exact .stored hcode hstores
        case neg =>
          rw [handleNmeIupTransfer_of_not_stores hstores]
          exact .self
      case isFalse =>
        split
        case isTrue hcode => exact effect_handleNmeIupConfirm hcode
        case isFalse =>
          split
          case isTrue hcode => exact effect_handleNmeIupValidate hcode
          case isFalse =>
            split
            case isTrue hcode => exact effect_handleNmeIupSwitchOver hcode
            case isFalse =>
              split
              case isTrue hcode => exact effect_handleNmeIupStatus hcode
              case isFalse =>
                split
                case isTrue hcode => exact effect_handleNmeIupCommit hcode
                case isFalse => exact .self

theorem computeMD5Digest_same (host : IupPlatform) (now : UInt32) (s : Iup) :
    (s.computeMD5Digest host now).flash = s.flash ∧
      (s.computeMD5Digest host now).iupRcvdPckCount = s.iupRcvdPckCount ∧
      (s.computeMD5Digest host now).iupPersistData = s.iupPersistData := by
  unfold computeMD5Digest
  dsimp only
  split <;> exact ⟨rfl, rfl, rfl⟩

theorem calculateMD5_same (host : IupPlatform) (now : UInt32) (s : Iup) :
    (s.calculateMD5 host now).flash = s.flash ∧
      (s.calculateMD5 host now).iupRcvdPckCount = s.iupRcvdPckCount ∧
      (s.calculateMD5 host now).iupPersistData = s.iupPersistData := by
  unfold calculateMD5
  split <;> exact ⟨rfl, rfl, rfl⟩

theorem switchOver_same (host : IupPlatform) (now : UInt32) (drv : FlashDriver) (s : Iup) :
    (s.onExpired host now drv .switchOver).flash = s.flash ∧
      (s.onExpired host now drv .switchOver).iupRcvdPckCount = s.iupRcvdPckCount ∧
      (s.onExpired host now drv .switchOver).iupPersistData = s.iupPersistData := by
  unfold onExpired switchOverImage
  dsimp only
  split
  · split <;> exact ⟨rfl, rfl, rfl⟩
  · exact ⟨rfl, rfl, rfl⟩

theorem commitImage_eq (host : IupPlatform) (s : Iup) :
    (s.iupPersistData.iupCommitDone ≠ 0 ∧ s.commitImage host = s) ∨
      (s.iupPersistData.iupCommitDone = 0 ∧ s.commitImage host =
        ((s.committed host).call .partSetActivePartition).call .archReboot) := by
  unfold commitImage
  split
  case isTrue hdone => exact .inr ⟨hdone, rfl⟩
  case isFalse hdone => exact .inl ⟨hdone, rfl⟩

theorem hasRecord_of_flash {s' : Iup} (hflash : s'.flash = s.flash) (h : s'.HasRecord host) :
    s.HasRecord host := by
  rwa [HasRecord, hflash] at h

theorem not_hasRecord_erase (host : IupPlatform) (s : Iup) :
    ¬(s.eraseIupPersistData host).HasRecord host := by
  rw [HasRecord, eraseIupPersistData]
  simp only
  rw [Image.fill_of_mem (Nat.le_refl _) (by simp only [EEPROM_BLOCK_SIZE]; omega)]
  decide

theorem works_of_hasRecord (h : (s.initUpdateProcess host drv).HasRecord host) :
    drv.opens = true ∧ drv.erases = true := by
  by_contra hdrv
  have hflash : (s.initUpdateProcess host drv).flash = (s.eraseIupPersistData host).flash := by
    unfold initUpdateProcess
    dsimp only
    split
    case isTrue => rfl
    case isFalse hopens =>
      split
      case isTrue => rfl
      case isFalse herases => exact absurd ⟨by simpa using hopens, by simpa using herases⟩ hdrv
  exact not_hasRecord_erase host s (hasRecord_of_flash hflash h)

end Iup

end LonStack
