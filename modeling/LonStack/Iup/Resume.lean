import LonStack.Iup.Effect
import LonStack.Iup.Transfer

namespace LonStack

open Lib

inductive IupSessionEvent
  | event (e : IupEvent)
  | restart

namespace Iup

section

variable (host : IupPlatform) (s : Iup)

def powerUp : Iup where
  iupPersistData := default
  iupRcvdPckCount := 0
  iupImageValidated := false
  saltBytes := .replicate 16 0
  digestBytes := .replicate 16 0
  digestmatch := false
  md5c := default
  fileSizeTemp := 0
  iupInitFirmwareTimer := default
  iupValidateFirmwareTimer := default
  iupMd5EventTimer := default
  iupSwitchOverTimer := default
  iupCommitFirmwareTimer := default
  flash := s.flash
  calls := s.calls

def restart : Iup := s.powerUp.readIupPersistData host

def sessionStep : IupSessionEvent → Iup
  | .event e => s.step host e
  | .restart => s.restart host

/-- The second state says of the session what the first one says. `iupConfirmResultSucceed` is compared
with `TRUE` where it is used, the other flags are used as conditions. -/
structure Resumes (s s' : Iup) : Prop where
  initData : s'.initData = s.initData
  rcvd : s'.iupRcvdPckCount = s.iupRcvdPckCount
  missed : ∀ n, s'.isPacketMissed host n = s.isPacketMissed host n
  confirm : s'.iupPersistData.iupConfirmResultSucceed = iupTrue ↔
    s.iupPersistData.iupConfirmResultSucceed = iupTrue
  commit : s'.iupPersistData.iupCommitDone = 0 ↔ s.iupPersistData.iupCommitDone = 0
  secondary : s'.iupPersistData.secondaryFlag = 0 ↔ s.iupPersistData.secondaryFlag = 0

structure Backed : Prop where
  consistent : s.Consistent host
  confirm : s.flash (host.iupFlashOffset + 23) = iupTrue ↔
    s.iupPersistData.iupConfirmResultSucceed = iupTrue
  commit : s.flash (host.iupFlashOffset + 24) ≠ 0
  secondary : s.flash (host.iupFlashOffset + 25) ≠ 0

def Tidy : Iup × IupSessionEvent → Prop
  | (s, .event (.message _ drv p apdu)) =>
    apdu.data 0 = NME_IUP_TRANSFER → s.Stores host drv p apdu →
      s.Recorded host ∧ s.InPlace host (apdu.swappedShort 5).toNat
  | (s, .event (.poll now _ t)) =>
    t = .initFirmware → s.expires now t = true →
      s.initData.iupPacketCount.toNat ≤ IupPlatform.markerRoom
  | (_, .restart) => True

instance : DecidablePred (Tidy host)
  | (_, .event (.message ..)) => inferInstanceAs (Decidable (_ → _))
  | (_, .event (.poll ..)) => inferInstanceAs (Decidable (_ → _))
  | (_, .restart) => inferInstanceAs (Decidable True)

def Resumable : Prop :=
  (s.Recorded host ∧ s.iupPersistData.iupCommitDone ≠ 0 ∧ s.iupPersistData.secondaryFlag ≠ 0) ∨
    (¬s.HasRecord host ∧ s.powerUp.Resumes host s)

end

variable {host : IupPlatform} {s s' : Iup}

theorem toNat_count {p : Nat → Prop} [DecidablePred p] (n : Nat) (hn : n < 65536) :
    ((List.range n).foldl (fun count k => if p k then count + 1 else count) (0 : UInt16)).toNat =
      (List.range n).countP fun k => p k := by
  induction n with
  | zero => rfl
  | succ n ih =>
    have hle := List.countP_le_length (p := fun k => decide (p k)) (l := List.range n)
    rw [List.length_range] at hle
    have ih := ih (Nat.lt_of_succ_lt hn)
    rw [List.range_succ, List.foldl_append, List.countP_append, List.foldl_cons, List.foldl_nil,
      List.countP_singleton]
    by_cases hp : p n
    case pos =>
      rw [if_pos hp, UInt16.toNat_add, ih, if_pos (decide_eq_true hp)]
      exact Nat.mod_eq_of_lt (show _ + 1 < 65536 by omega)
    case neg => rw [if_neg hp, ih, if_neg (by simpa using hp), Nat.add_zero]

theorem restart_of_record (h : s.HasRecord host) :
    (s.restart host).iupPersistData = .ofImage s.flash host.iupFlashOffset ∧
      (s.restart host).iupRcvdPckCount.toNat =
        s.receivedCount host (s.recordedData host).iupPacketCount.toNat := by
  have h : s.powerUp.flash host.iupFlashOffset = IUP_PERSIST_DATA_VALID := h
  have hcount : (s.recordedData host).iupPacketCount.toNat < 65536 := UInt16.toNat_lt _
  constructor
  · rw [restart, readIupPersistData, if_pos h]
    rfl
  · rw [restart, readIupPersistData, if_pos h]
    refine (toNat_count _ hcount).trans (List.countP_congr fun k _ => ?_)
    rw [received, decide_eq_true_iff, bne_iff_ne]
    rfl

theorem restart_of_not_record (h : ¬s.HasRecord host) : s.restart host = s.powerUp := by
  have h : ¬s.powerUp.flash host.iupFlashOffset = IUP_PERSIST_DATA_VALID := h
  rw [restart, readIupPersistData, if_neg h]

theorem restart_flash (host : IupPlatform) (s : Iup) : (s.restart host).flash = s.flash := by
  unfold restart readIupPersistData
  split
  · rfl
  · rfl

theorem Backed.resumes_iff (h : s.HasRecord host → s.Backed host) :
    Resumes host s (s.restart host) ↔ s.Resumable host := by
  have hmissed : ∀ n, (s.restart host).isPacketMissed host n = s.isPacketMissed host n := by
    intro n
    rw [isPacketMissed, restart_flash, isPacketMissed]
  by_cases hrecord : s.HasRecord host
  case neg =>
    rw [restart_of_not_record hrecord, Resumable]
    constructor
    · intro hr
      exact .inr ⟨hrecord, hr.initData.symm, hr.rcvd.symm, fun n => (hr.missed n).symm,
        hr.confirm.symm, hr.commit.symm, hr.secondary.symm⟩
    · rintro (hr | ⟨-, hr⟩)
      · exact absurd hr.1.valid hrecord
      · exact ⟨hr.initData.symm, hr.rcvd.symm, fun n => (hr.missed n).symm, hr.confirm.symm,
          hr.commit.symm, hr.secondary.symm⟩
  case pos =>
    have hbacked := h hrecord
    obtain ⟨hpersist, hrcvd⟩ := restart_of_record hrecord
    have hdata : (s.restart host).initData = s.recordedData host := by
      rw [initData, hpersist]
      rfl
    constructor
    · intro hr
      have hcommit := hr.commit
      have hsecondary := hr.secondary
      rw [hpersist] at hcommit hsecondary
      exact .inl ⟨⟨hrecord, hdata.symm.trans hr.initData⟩,
        fun heq => hbacked.commit (hcommit.mpr heq), fun heq => hbacked.secondary (hsecondary.mpr heq)⟩
    · rintro (⟨hrecorded, hcommit, hsecondary⟩ | ⟨hnot, -⟩)
      · refine ⟨hdata.trans hrecorded.initData, ?_, hmissed, ?_, ?_, ?_⟩
        · exact UInt16.toNat.inj (hrcvd.trans hbacked.consistent.counted.symm)
        · rw [hpersist]
          exact hbacked.confirm
        · rw [hpersist]
          exact ⟨fun heq => absurd heq hbacked.commit, fun heq => absurd heq hcommit⟩
        · rw [hpersist]
          exact ⟨fun heq => absurd heq hbacked.secondary, fun heq => absurd heq hsecondary⟩
      · exact absurd hrecord hnot

theorem Backed.keep (h : s.Backed host) (hflash : s'.flash = s.flash)
    (hcount : s'.iupRcvdPckCount = s.iupRcvdPckCount)
    (hconfirm : s'.iupPersistData.iupConfirmResultSucceed = s.iupPersistData.iupConfirmResultSucceed) :
    s'.Backed host where
  consistent := h.consistent.keep (fun k _ => by rw [hflash])
    (fun k _ => by rw [received, hflash, received]) hcount
  confirm := by
    rw [hflash, hconfirm]
    exact h.confirm
  commit := by
    rw [hflash]
    exact h.commit
  secondary := by
    rw [hflash]
    exact h.secondary

theorem Backed.flag (h : s.Backed host) {a : Nat} (ha : 23 ≤ a) (ha' : a < 26)
    (hflash : s'.flash = s.flash.write (host.iupFlashOffset + a) [iupTrue])
    (hcount : s'.iupRcvdPckCount = s.iupRcvdPckCount)
    (hconfirm : a = 23 → s'.iupPersistData.iupConfirmResultSucceed = iupTrue)
    (hother : a ≠ 23 → s'.iupPersistData.iupConfirmResultSucceed =
      s.iupPersistData.iupConfirmResultSucceed) : s'.Backed host := by
  obtain ⟨hrecord, hmarkers⟩ : KeepsRecord host s s' ∧ KeepsMarkers host s s' :=
    keeps_flag ha ha' hflash
  have hself : s'.flash (host.iupFlashOffset + a) = iupTrue := by
    rw [hflash]
    exact Image.write_of_mem s.flash [iupTrue] (k := 0) (by decide)
  have hne : ∀ k, k ≠ a → s'.flash (host.iupFlashOffset + k) = s.flash (host.iupFlashOffset + k) := by
    intro k hk
    rw [hflash]
    rcases Nat.lt_or_gt_of_ne hk with hlt | hgt
    · exact Image.write_of_lt _ _ (by omega)
    · exact Image.write_of_le _ _ (by simp only [List.length_singleton]; omega)
  refine ⟨h.consistent.keep hrecord hmarkers hcount, ?_, ?_, ?_⟩
  · by_cases h23 : a = 23
    case pos =>
      rw [h23] at hself
      exact iff_of_true hself (hconfirm h23)
    case neg =>
      rw [hne 23 (Ne.symm h23), hother h23]
      exact h.confirm
  · by_cases h24 : a = 24
    case pos =>
      rw [h24] at hself
      rw [hself]
      decide
    case neg =>
      rw [hne 24 (Ne.symm h24)]
      exact h.commit
  · by_cases h25 : a = 25
    case pos =>
      rw [h25] at hself
      rw [hself]
      decide
    case neg =>
      rw [hne 25 (Ne.symm h25)]
      exact h.secondary

theorem Backed.store {drv : FlashDriver} {p : APPReceiveParam} {apdu : Apdu} (h : s.Backed host)
    (hhost : host.Sound) (hrecorded : s.Recorded host) (hstores : s.Stores host drv p apdu)
    (hplace : s.InPlace host (apdu.swappedShort 5).toNat) : (s.store host apdu).Backed host := by
  have hroom : s.initData.iupPacketCount.toNat ≤ IupPlatform.markerRoom :=
    hrecorded.initData ▸ h.consistent.room
  have hkeep : ∀ k < 26, (s.store host apdu).flash (host.iupFlashOffset + k) =
      s.flash (host.iupFlashOffset + k) := fun k hk =>
    store_block hhost hroom hplace (show k < 4096 by omega)
      (show k ≠ 26 + ((apdu.swappedShort 5).toNat - 1) by omega)
  refine ⟨h.consistent.store hhost hrecorded hstores hplace, ?_, ?_, ?_⟩
  · rw [hkeep 23 (by decide)]
    exact h.confirm
  · rw [hkeep 24 (by decide)]
    exact h.commit
  · rw [hkeep 25 (by decide)]
    exact h.secondary

theorem backed_initUpdateProcess (host : IupPlatform) (s : Iup) (drv : FlashDriver)
    (hroom : s.initData.iupPacketCount.toNat ≤ IupPlatform.markerRoom)
    (hrecord : (s.initUpdateProcess host drv).HasRecord host) :
    (s.initUpdateProcess host drv).Backed host := by
  obtain ⟨hopens, herases⟩ := works_of_hasRecord hrecord
  have hflash := initUpdateProcess_flash host s drv hopens herases
  have herased : ∀ k, 23 ≤ k → k < 26 →
      (s.initUpdateProcess host drv).flash (host.iupFlashOffset + k) = 0xFF := by
    intro k hk hk'
    rw [hflash, Image.write_of_le]
    · by_cases hpart : host.partStart ≤ host.iupFlashOffset + k ∧
          host.iupFlashOffset + k < host.partStart + host.partSize
      case pos => exact Image.fill_of_mem hpart.1 hpart.2
      case neg =>
        rw [Image.fill_of_not_mem (by omega)]
        exact Image.fill_of_mem (by omega) (by simp only [EEPROM_BLOCK_SIZE]; omega)
    · rw [List.length_cons, length_bytes_initData]
      simp only [sizeofInitData]
      omega
  have hconfirm : (s.initUpdateProcess host drv).iupPersistData.iupConfirmResultSucceed = iupFalse := by
    unfold initUpdateProcess
    simp only [hopens, herases, Bool.not_true, Bool.false_eq_true, if_false]
    rfl
  refine ⟨(consistent_initUpdateProcess host s drv hopens herases hroom).1, ?_, ?_, ?_⟩
  · rw [herased 23 (by decide) (by decide), hconfirm]
    decide
  · rw [herased 24 (by decide) (by decide)]
    decide
  · rw [herased 25 (by decide) (by decide)]
    decide

theorem backed_restart (h : s.HasRecord host → s.Backed host)
    (hrecord : (s.restart host).HasRecord host) : (s.restart host).Backed host := by
  have hflash := restart_flash host s
  have hold := hasRecord_of_flash hflash hrecord
  have hbacked := h hold
  obtain ⟨hpersist, hrcvd⟩ := restart_of_record hold
  have hdata : (s.restart host).recordedData host = s.recordedData host := by
    rw [recordedData, hflash, recordedData]
  have hreceived : (s.restart host).received host = s.received host := by
    funext k
    rw [received, hflash, received]
  refine ⟨⟨hrecord, ?_, ?_, ?_⟩, ?_, ?_, ?_⟩
  · rw [hdata]
    exact hbacked.consistent.room
  · rw [hdata, hrcvd, receivedCount, receivedCount, hreceived]
  · rw [hdata, hreceived]
    exact hbacked.consistent.clear
  · rw [hflash, hpersist]
    exact Iff.rfl
  · rw [hflash]
    exact hbacked.commit
  · rw [hflash]
    exact hbacked.secondary

theorem backed_expired (t : IupTimer) (now : UInt32) (drv : FlashDriver)
    (h : s.HasRecord host → s.Backed host)
    (hroom : t = .initFirmware → s.initData.iupPacketCount.toNat ≤ IupPlatform.markerRoom)
    (timer : LonTimer)
    (hrecord : ((s.setTimer t timer).onExpired host now drv t).HasRecord host) :
    ((s.setTimer t timer).onExpired host now drv t).Backed host := by
  cases t with
  | initFirmware => exact backed_initUpdateProcess host _ drv (hroom rfl) hrecord
  | validateFirmware =>
    have hsame := computeMD5Digest_same host now (s.setTimer .validateFirmware timer)
    exact (h (hasRecord_of_flash hsame.1 hrecord)).keep hsame.1 hsame.2.1 (by rw [onExpired, hsame.2.2]; rfl)
  | md5Event =>
    have hsame := calculateMD5_same host now (s.setTimer .md5Event timer)
    exact (h (hasRecord_of_flash hsame.1 hrecord)).keep hsame.1 hsame.2.1 (by rw [onExpired, hsame.2.2]; rfl)
  | switchOver =>
    have hsame := switchOver_same host now drv (s.setTimer .switchOver timer)
    exact (h (hasRecord_of_flash hsame.1 hrecord)).keep hsame.1 hsame.2.1 (by rw [hsame.2.2]; rfl)
  | commitFirmware =>
    have hcommit := commitImage_eq host (s.setTimer .commitFirmware timer)
    change ((s.setTimer .commitFirmware timer).commitImage host).Backed host
    change ((s.setTimer .commitFirmware timer).commitImage host).HasRecord host at hrecord
    generalize (s.setTimer .commitFirmware timer).commitImage host = s' at hcommit hrecord ⊢
    cases hcommit with
    | inl heq =>
      rw [heq.2] at hrecord ⊢
      exact (h hrecord).keep rfl rfl rfl
    | inr heq =>
      have hflash : s'.flash = s.flash.write (host.iupFlashOffset + 24) [iupTrue] := by
        rw [heq.2]
        rfl
      have hkeeps : KeepsRecord host s s' ∧ KeepsMarkers host s s' :=
        keeps_flag (a := 24) (by decide) (by decide) hflash
      rw [heq.2] at hrecord hkeeps ⊢
      exact (h (hkeeps.1.hasRecord.mp hrecord)).flag (a := 24) (by decide) (by decide) rfl rfl
        (fun h => absurd h (by decide)) fun _ => rfl

theorem backed_step (hhost : host.Sound) {e : IupSessionEvent} (htidy : Tidy host (s, e))
    (h : s.HasRecord host → s.Backed host) (hrecord : (s.sessionStep host e).HasRecord host) :
    (s.sessionStep host e).Backed host := by
  cases e with
  | restart => exact backed_restart h hrecord
  | event e =>
    have heffect := effect host s e
    change (s.step host e).Backed host
    change (s.step host e).HasRecord host at hrecord
    generalize s.step host e = s' at heffect hrecord ⊢
    cases heffect with
    | quiet cs => exact (h hrecord).keep rfl rfl rfl
    | requested => exact (h hrecord).keep rfl rfl rfl
    | validating => exact (h hrecord).keep rfl rfl rfl
    | committing => exact (h hrecord).keep rfl rfl rfl
    | stored hcode hstores =>
      obtain ⟨hrecorded, hplace⟩ := htidy hcode hstores
      exact (h hrecorded.valid).store hhost hrecorded hstores hplace
    | @confirmed now drv p apdu c =>
      have hkeeps : KeepsRecord host s ((s.confirmed host).call c) ∧
          KeepsMarkers host s ((s.confirmed host).call c) :=
        keeps_flag (a := 23) (by decide) (by decide) rfl
      exact (h (hkeeps.1.hasRecord.mp hrecord)).flag (a := 23) (by decide) (by decide) rfl rfl
        (fun _ => rfl) fun hne => absurd rfl hne
    | @switchOver now drv p apdu timer calls flagged =>
      cases flagged with
      | false => exact (h hrecord).keep rfl rfl rfl
      | true =>
        have hkeeps : KeepsRecord host s
            { s.secondary host with iupSwitchOverTimer := timer, calls := calls } ∧
              KeepsMarkers host s
                { s.secondary host with iupSwitchOverTimer := timer, calls := calls } :=
          keeps_flag (a := 25) (by decide) (by decide) rfl
        exact (h (hkeeps.1.hasRecord.mp hrecord)).flag (a := 25) (by decide) (by decide) rfl rfl
          (fun h => absurd h (by decide)) fun _ => rfl
    | erased => exact absurd hrecord (not_hasRecord_erase host s)
    | @expired now drv t hexpires =>
      exact backed_expired t now drv h (fun ht => htidy ht hexpires) _ hrecord

def SameTimer (timer timer' : LonTimer) : Prop :=
  timer' = timer ∨ timer.expiration = 0 ∧ timer'.expiration = 0

/-- Two states that all messages and timers treat alike. What a validation works with only counts
while it goes on, its result only where there is one. -/
structure Alike (s s' : Iup) : Prop where
  initData : s'.initData = s.initData
  rcvd : s'.iupRcvdPckCount = s.iupRcvdPckCount
  confirm : s'.iupPersistData.iupConfirmResultSucceed = iupTrue ↔
    s.iupPersistData.iupConfirmResultSucceed = iupTrue
  commit : s'.iupPersistData.iupCommitDone = 0 ↔ s.iupPersistData.iupCommitDone = 0
  secondary : s'.iupPersistData.secondaryFlag = 0 ↔ s.iupPersistData.secondaryFlag = 0
  validated : s'.iupImageValidated = s.iupImageValidated
  digestmatch : s.iupImageValidated = true → s'.digestmatch = s.digestmatch
  timers : ∀ t, SameTimer (s.timer t) (s'.timer t)
  salt : (s.timer .validateFirmware).expiration ≠ 0 → s'.saltBytes = s.saltBytes
  digest : (s.timer .validateFirmware).expiration ≠ 0 ∨ (s.timer .md5Event).expiration ≠ 0 →
    s'.digestBytes = s.digestBytes
  md5 : (s.timer .md5Event).expiration ≠ 0 → s'.md5c = s.md5c ∧ s'.fileSizeTemp = s.fileSizeTemp
  flash : s'.flash = s.flash
  calls : s'.calls = s.calls

theorem SameTimer.of_eq {timer timer' : LonTimer} (h : timer' = timer) : SameTimer timer timer' := .inl h

theorem SameTimer.expired {timer timer' : LonTimer} (h : SameTimer timer timer') (now : UInt32) :
    (timer'.expired now).1 = (timer.expired now).1 ∧
      ((timer.expired now).1 = true → timer' = timer ∧ timer.expiration ≠ 0) ∧
      ((timer.expired now).1 = false → (timer.expired now).2 = timer ∧ (timer'.expired now).2 = timer') := by
  have hidle : ∀ timer : LonTimer, timer.expiration = 0 → timer.isExpired now = false := by
    intro timer hzero
    rw [LonTimer.isExpired, hzero]
    rfl
  have hnot : ∀ timer : LonTimer, timer.isExpired now = false → timer.expired now = (false, timer) := by
    intro timer hzero
    rw [LonTimer.expired, hzero]
    rfl
  rcases h with rfl | ⟨hzero, hzero'⟩
  · refine ⟨rfl, fun hexp => ⟨rfl, fun hzero => ?_⟩, fun hexp => ?_⟩
    · rw [hnot _ (hidle _ hzero)] at hexp
      cases hexp
    · cases hexpired : timer'.isExpired now with
      | false => rw [hnot _ hexpired]; exact ⟨rfl, rfl⟩
      | true =>
        rw [LonTimer.expired, hexpired] at hexp
        cases hexp
  · rw [hnot _ (hidle _ hzero), hnot _ (hidle _ hzero')]
    exact ⟨rfl, fun hexp => absurd hexp Bool.false_ne_true, fun _ => ⟨rfl, rfl⟩⟩

theorem set_eq (timer timer' : LonTimer) (now : UInt32) {duration : UInt32} (h : duration ≠ 0) :
    timer'.set now duration = timer.set now duration := by
  rw [LonTimer.set, if_neg h, LonTimer.set, if_neg h]

namespace Alike

variable {now : UInt32} {drv : FlashDriver} {p : APPReceiveParam} {apdu : Apdu}

theorem call (h : Alike s s') (c : IupCall) : Alike (s.call c) (s'.call c) :=
  { h with calls := congrArg (· ++ [c]) h.calls }

theorem writeFlash (h : Alike s s') (a : Nat) (bytes : List UInt8) :
    Alike (s.writeFlash a bytes) (s'.writeFlash a bytes) :=
  { h with flash := congrArg (Image.write · a bytes) h.flash }

theorem erase (h : Alike s s') (host : IupPlatform) :
    Alike (s.eraseIupPersistData host) (s'.eraseIupPersistData host) :=
  { h with flash := congrArg (Image.fill · host.iupFlashOffset EEPROM_BLOCK_SIZE 0xFF) h.flash }

theorem setInitData (h : Alike s s') (d : IupInitData) : Alike (s.setInitData d) (s'.setInitData d) :=
  { h with initData := rfl }

theorem setTimer (h : Alike s s') {t : IupTimer} {timer timer' : LonTimer}
    (hsame : SameTimer timer timer')
    (hvalidate : t = .validateFirmware → timer.expiration ≠ 0 →
      s'.saltBytes = s.saltBytes ∧ s'.digestBytes = s.digestBytes)
    (hmd5 : t = .md5Event → timer.expiration ≠ 0 →
      s'.digestBytes = s.digestBytes ∧ s'.md5c = s.md5c ∧ s'.fileSizeTemp = s.fileSizeTemp) :
    Alike (s.setTimer t timer) (s'.setTimer t timer') := by
  cases t with
  | validateFirmware =>
    refine { h with timers := fun t => ?_, salt := fun hrun => (hvalidate rfl hrun).1, digest := ?_ }
    · cases t with
      | validateFirmware => exact hsame
      | initFirmware => exact h.timers .initFirmware
      | md5Event => exact h.timers .md5Event
      | switchOver => exact h.timers .switchOver
      | commitFirmware => exact h.timers .commitFirmware
    · rintro (hrun | hrun)
      · exact (hvalidate rfl hrun).2
      · exact h.digest (.inr hrun)
  | md5Event =>
    refine { h with timers := fun t => ?_, digest := ?_, md5 := fun hrun => (hmd5 rfl hrun).2 }
    · cases t with
      | md5Event => exact hsame
      | initFirmware => exact h.timers .initFirmware
      | validateFirmware => exact h.timers .validateFirmware
      | switchOver => exact h.timers .switchOver
      | commitFirmware => exact h.timers .commitFirmware
    · rintro (hrun | hrun)
      · exact h.digest (.inl hrun)
      · exact (hmd5 rfl hrun).1
  | initFirmware =>
    refine { h with timers := fun t => ?_ }
    cases t with
    | initFirmware => exact hsame
    | validateFirmware => exact h.timers .validateFirmware
    | md5Event => exact h.timers .md5Event
    | switchOver => exact h.timers .switchOver
    | commitFirmware => exact h.timers .commitFirmware
  | switchOver =>
    refine { h with timers := fun t => ?_ }
    cases t with
    | switchOver => exact hsame
    | initFirmware => exact h.timers .initFirmware
    | validateFirmware => exact h.timers .validateFirmware
    | md5Event => exact h.timers .md5Event
    | commitFirmware => exact h.timers .commitFirmware
  | commitFirmware =>
    refine { h with timers := fun t => ?_ }
    cases t with
    | commitFirmware => exact hsame
    | initFirmware => exact h.timers .initFirmware
    | validateFirmware => exact h.timers .validateFirmware
    | md5Event => exact h.timers .md5Event
    | switchOver => exact h.timers .switchOver

theorem handleNmeIupInit (h : Alike s s') :
    Alike (s.handleNmeIupInit host now p apdu) (s'.handleNmeIupInit host now p apdu) := by
  unfold Iup.handleNmeIupInit
  split
  case isTrue => exact h.call _
  case isFalse =>
    dsimp only
    split
    case isTrue => exact h.call _
    case isFalse =>
      split
      case isTrue => exact h.call _
      case isFalse =>
        split
        case isTrue => exact h.call _
        case isFalse =>
          have hset := h.setInitData (requestedInitData apdu)
          rw [hset.initData]
          split
          case isTrue => exact hset.call _
          case isFalse =>
            have htimer := hset.setTimer (t := .initFirmware)
              (.of_eq (set_eq s.iupInitFirmwareTimer s'.iupInitFirmwareTimer now
                (show IUP_INIT_FIRMWARE_TIMER_VALUE ≠ 0 by decide))) nofun nofun
            exact htimer.call _

theorem stores_iff (h : Alike s s') : s'.Stores host drv p apdu ↔ s.Stores host drv p apdu := by
  rw [Stores, Stores, h.initData, Ne, Ne, h.confirm, isPacketMissed, isPacketMissed, h.flash]

theorem store (h : Alike s s') : Alike (s.store host apdu) (s'.store host apdu) := by
  refine { h with rcvd := ?_, flash := ?_ }
  · rw [Iup.store, Iup.store, h.rcvd]
  · rw [Iup.store, Iup.store, packetData, packetData, h.initData, h.flash]

theorem handleNmeIupTransfer (h : Alike s s') :
    Alike (s.handleNmeIupTransfer host p apdu drv) (s'.handleNmeIupTransfer host p apdu drv) := by
  by_cases hstores : s.Stores host drv p apdu
  case pos =>
    rw [handleNmeIupTransfer_of_stores hstores, handleNmeIupTransfer_of_stores (h.stores_iff.mpr hstores)]
    exact h.store
  case neg =>
    rw [handleNmeIupTransfer_of_not_stores hstores,
      handleNmeIupTransfer_of_not_stores (mt h.stores_iff.mp hstores)]
    exact h

theorem confirmed (h : Alike s s') (host : IupPlatform) :
    Alike (s.confirmed host) (s'.confirmed host) :=
  { h with
    confirm := Iff.rfl
    flash := congrArg (Image.write · (host.iupFlashOffset + 23) [iupTrue]) h.flash }

theorem handleNmeIupConfirm (h : Alike s s') :
    Alike (s.handleNmeIupConfirm host p apdu) (s'.handleNmeIupConfirm host p apdu) := by
  have hmissed : s'.missedPackets host = s.missedPackets host := by
    rw [missedPackets, missedPackets, h.initData, h.flash]
  unfold Iup.handleNmeIupConfirm
  rw [h.initData]
  split
  case isTrue => exact h.call _
  case isFalse =>
    split
    case isTrue => exact h
    case isFalse =>
      dsimp only
      by_cases hviable : s.iupRcvdPckCount.toNat < 80 * s.initData.iupPacketCount.toNat / 100
      case pos =>
        have hviable' : s'.iupRcvdPckCount.toNat < 80 * s.initData.iupPacketCount.toNat / 100 := by
          rwa [h.rcvd]
        rw [if_pos hviable, if_pos hviable']
        exact h.call _
      case neg =>
        have hviable' : ¬s'.iupRcvdPckCount.toNat < 80 * s.initData.iupPacketCount.toNat / 100 := by
          rwa [h.rcvd]
        rw [if_neg hviable, if_neg hviable']
        by_cases hall : s.initData.iupPacketCount = s.iupRcvdPckCount
        case pos =>
          rw [if_pos hall, if_pos (hall.trans h.rcvd.symm)]
          exact (h.confirmed host).call _
        case neg =>
          have hall' : ¬s.initData.iupPacketCount = s'.iupRcvdPckCount := by rwa [h.rcvd]
          rw [if_neg hall, if_neg hall', hmissed]
          split
          case isTrue => exact h.call _
          case isFalse => exact h.call _

theorem validating (h : Alike s s') (now : UInt32) (apdu : Apdu) :
    Alike (s.validating now apdu) (s'.validating now apdu) := by
  have hset := set_eq s.iupValidateFirmwareTimer s'.iupValidateFirmwareTimer now
    (show IUP_VALIDATE_FIRMWARE_TIMER_VALUE ≠ 0 by decide)
  refine { h with timers := fun t => ?_, salt := fun _ => rfl, digest := fun _ => rfl }
  cases t with
  | validateFirmware => exact .of_eq hset
  | initFirmware => exact h.timers .initFirmware
  | md5Event => exact h.timers .md5Event
  | switchOver => exact h.timers .switchOver
  | commitFirmware => exact h.timers .commitFirmware

theorem handleNmeIupValidate (h : Alike s s') :
    Alike (s.handleNmeIupValidate now p apdu) (s'.handleNmeIupValidate now p apdu) := by
  unfold Iup.handleNmeIupValidate
  rw [h.initData]
  split
  case isTrue => exact h
  case isFalse =>
    dsimp only
    split
    case isTrue =>
      split
      case isTrue => exact h.call _
      case isFalse => exact h.call _
    case isFalse =>
      split
      case isTrue => exact h.call _
      case isFalse =>
        by_cases hvalidated : s.iupImageValidated = true
        case pos =>
          rw [if_pos hvalidated, if_pos (h.validated.trans hvalidated), h.digestmatch hvalidated]
          exact h.call _
        case neg =>
          have hvalidated' : ¬s'.iupImageValidated = true := by rwa [h.validated]
          rw [if_neg hvalidated, if_neg hvalidated']
          exact (h.validating now apdu).call _

theorem secondaryFlag (h : Alike s s') (host : IupPlatform) :
    Alike (s.secondary host) (s'.secondary host) :=
  { h with
    secondary := Iff.rfl
    flash := congrArg (Image.write · (host.iupFlashOffset + 25) [iupTrue]) h.flash }

theorem handleNmeIupSwitchOver (h : Alike s s') :
    Alike (s.handleNmeIupSwitchOver host now p apdu) (s'.handleNmeIupSwitchOver host now p apdu) := by
  have hset : ∀ {x x' : Iup}, Alike x x' →
      Alike { x with iupSwitchOverTimer := x.iupSwitchOverTimer.set now (1 * IUP_SWITCHOVER_TIMER_VALUE) }
        { x' with
          iupSwitchOverTimer := x'.iupSwitchOverTimer.set now (1 * IUP_SWITCHOVER_TIMER_VALUE) } :=
    fun {x x'} hx => hx.setTimer (t := .switchOver) (.of_eq (set_eq x.iupSwitchOverTimer
      x'.iupSwitchOverTimer now (show 1 * IUP_SWITCHOVER_TIMER_VALUE ≠ 0 by decide))) nofun nofun
  -- the flags are the same from here on, whether or not the image becomes the secondary one
  have hrest : ∀ {x x' : Iup}, Alike x x' → ∀ c : UInt8 → UInt16 → IupCall,
      Alike
        (if apdu.swappedLong 2 ≠ 0 then x.call (c IUP_SWITCHOVER_DELAY_NOT_SUPPORTED 0)
        else
          let x :=
            if apdu.data 1 &&& 0x02 = 0 then x.call .erasePersistentNetworkConfig
            else if apdu.data 1 &&& 0x04 = 0 then x.call .erasePersistentAppData
            else x
          let x :=
            { x with
              iupSwitchOverTimer := x.iupSwitchOverTimer.set now (1 * IUP_SWITCHOVER_TIMER_VALUE) }
          x.call (c IUP_SWITCHOVER_RESULT_SUCCESS IZOT_RESET_TIME_AFTER_SWITCHOVER))
        (if apdu.swappedLong 2 ≠ 0 then x'.call (c IUP_SWITCHOVER_DELAY_NOT_SUPPORTED 0)
        else
          let x' :=
            if apdu.data 1 &&& 0x02 = 0 then x'.call .erasePersistentNetworkConfig
            else if apdu.data 1 &&& 0x04 = 0 then x'.call .erasePersistentAppData
            else x'
          let x' :=
            { x' with
              iupSwitchOverTimer := x'.iupSwitchOverTimer.set now (1 * IUP_SWITCHOVER_TIMER_VALUE) }
          x'.call (c IUP_SWITCHOVER_RESULT_SUCCESS IZOT_RESET_TIME_AFTER_SWITCHOVER)) := by
    intro x x' hx c
    split
    case isTrue => exact hx.call _
    case isFalse =>
      split
      case isTrue => exact (hset (hx.call _)).call _
      case isFalse =>
        split
        case isTrue => exact (hset (hx.call _)).call _
        case isFalse => exact (hset hx).call _
  unfold Iup.handleNmeIupSwitchOver
  split
  case isTrue => exact h.call _
  case isFalse =>
    dsimp only
    by_cases hvalidated : (!s.iupImageValidated) = true
    case pos =>
      have hvalidated' : (!s'.iupImageValidated) = true := by rwa [h.validated]
      rw [if_pos hvalidated, if_pos hvalidated']
      exact h.call _
    case neg =>
      have hvalidated' : ¬(!s'.iupImageValidated) = true := by rwa [h.validated]
      rw [if_neg hvalidated, if_neg hvalidated']
      by_cases hflag : apdu.data 1 &&& 0x01 ≠ 0
      case pos =>
        rw [if_pos hflag, if_pos hflag]
        exact hrest (h.secondaryFlag host) fun code time => .sendResponse p.reqId
          (.switchOver (apdu.data 0) code time ⟨0, 0⟩)
      case neg =>
        rw [if_neg hflag, if_neg hflag]
        exact hrest h fun code time => .sendResponse p.reqId
          (.switchOver (apdu.data 0) code time ⟨0, 0⟩)

theorem handleNmeIupStatus (h : Alike s s') :
    Alike (s.handleNmeIupStatus host p apdu) (s'.handleNmeIupStatus host p apdu) := by
  unfold Iup.handleNmeIupStatus
  rw [h.initData]
  split
  case isTrue => exact h.call _
  case isFalse =>
    dsimp only
    split
    case isTrue => exact (h.erase host).call _
    case isFalse =>
      by_cases hcommit : s.iupPersistData.iupCommitDone = 0
      case neg =>
        rw [if_pos hcommit, if_pos (mt h.commit.mp hcommit)]
        exact (h.erase host).call _
      case pos =>
        rw [if_neg (not_not_intro hcommit), if_neg (not_not_intro (h.commit.mpr hcommit))]
        by_cases hsecondary : s.iupPersistData.secondaryFlag = 0
        case pos =>
          rw [if_pos hsecondary, if_pos (h.secondary.mpr hsecondary)]
          exact (h.erase host).call _
        case neg =>
          rw [if_neg hsecondary, if_neg (mt h.secondary.mp hsecondary)]
          exact h.call _

theorem handleNmeIupCommit (h : Alike s s') :
    Alike (s.handleNmeIupCommit host now p apdu) (s'.handleNmeIupCommit host now p apdu) := by
  unfold Iup.handleNmeIupCommit
  rw [h.initData]
  split
  case isTrue => exact (h.erase host).call _
  case isFalse =>
    dsimp only
    split
    case isTrue => exact (h.erase host).call _
    case isFalse =>
      by_cases hsecondary : s.iupPersistData.secondaryFlag = 0
      case pos =>
        rw [if_neg (not_not_intro hsecondary), if_neg (not_not_intro (h.secondary.mpr hsecondary))]
        exact (h.erase host).call _
      case neg =>
        rw [if_pos hsecondary, if_pos (mt h.secondary.mp hsecondary)]
        by_cases hcommit : s.iupPersistData.iupCommitDone = 0
        case pos =>
          rw [if_pos hcommit, if_pos (h.commit.mpr hcommit)]
          have htimer := h.setTimer (t := .commitFirmware)
            (.of_eq (set_eq s.iupCommitFirmwareTimer s'.iupCommitFirmwareTimer now
              (show IUP_COMMIT_FIRMWARE_TIMER_VALUE ≠ 0 by decide))) nofun nofun
          exact htimer.call _
        case neg =>
          rw [if_neg hcommit, if_neg (mt h.commit.mp hcommit)]
          exact (h.erase host).call _

theorem initUpdateProcess (h : Alike s s') (host : IupPlatform) (drv : FlashDriver) :
    Alike (s.initUpdateProcess host drv) (s'.initUpdateProcess host drv) := by
  have hdata : s'.iupPersistData.initData = s.iupPersistData.initData := h.initData
  unfold Iup.initUpdateProcess
  dsimp only
  split
  case isTrue =>
    exact { h with
      rcvd := rfl, confirm := Iff.rfl, commit := Iff.rfl, secondary := Iff.rfl, validated := rfl
      digestmatch := fun hvalidated => absurd hvalidated Bool.false_ne_true
      flash := congrArg (Image.fill · host.iupFlashOffset EEPROM_BLOCK_SIZE 0xFF) h.flash }
  case isFalse =>
    split
    case isTrue =>
      exact { h with
        rcvd := rfl, confirm := Iff.rfl, commit := Iff.rfl, secondary := Iff.rfl, validated := rfl
        digestmatch := fun hvalidated => absurd hvalidated Bool.false_ne_true
        flash := congrArg (Image.fill · host.iupFlashOffset EEPROM_BLOCK_SIZE 0xFF) h.flash }
    case isFalse =>
      refine { h with
        rcvd := rfl, confirm := Iff.rfl, commit := Iff.rfl, secondary := Iff.rfl, validated := rfl
        digestmatch := fun hvalidated => absurd hvalidated Bool.false_ne_true
        flash := ?_ }
      simp only [Iup.writeFlash, eraseIupPersistData, Iup.initData, h.flash, hdata]

theorem computeMD5Digest (h : Alike s s') (hsalt : s'.saltBytes = s.saltBytes)
    (hdigest : s'.digestBytes = s.digestBytes) :
    Alike (s.computeMD5Digest host now) (s'.computeMD5Digest host now) := by
  have hverify : s'.verifyImage host = s.verifyImage host := by
    rw [verifyImage, image, h.flash, h.initData, verifyImage, image]
  have hset := set_eq s.iupMd5EventTimer s'.iupMd5EventTimer now (show (2 : UInt32) ≠ 0 by decide)
  unfold Iup.computeMD5Digest
  rw [hverify]
  dsimp only
  cases s.verifyImage host with
  | true =>
    refine { h with
      timers := fun t => ?_, salt := fun _ => hsalt, digest := fun _ => hdigest, md5 := fun _ => ?_ }
    · cases t with
      | md5Event => exact .of_eq hset
      | initFirmware => exact h.timers .initFirmware
      | validateFirmware => exact h.timers .validateFirmware
      | switchOver => exact h.timers .switchOver
      | commitFirmware => exact h.timers .commitFirmware
    · exact ⟨by simp only [if_true, hsalt], rfl⟩
  | false =>
    refine { h with
      validated := rfl, digestmatch := fun _ => rfl
      timers := fun t => ?_, salt := fun _ => hsalt, digest := fun _ => hdigest, md5 := fun _ => ?_ }
    · cases t with
      | md5Event => exact .of_eq hset
      | initFirmware => exact h.timers .initFirmware
      | validateFirmware => exact h.timers .validateFirmware
      | switchOver => exact h.timers .switchOver
      | commitFirmware => exact h.timers .commitFirmware
    · exact ⟨by simp only [Bool.false_eq_true, if_false, hsalt], rfl⟩

theorem calculateMD5 (h : Alike s s') (hdigest : s'.digestBytes = s.digestBytes)
    (hmd5 : s'.md5c = s.md5c ∧ s'.fileSizeTemp = s.fileSizeTemp) :
    Alike (s.calculateMD5 host now) (s'.calculateMD5 host now) := by
  have hstep : s'.md5Step = s.md5Step := by rw [md5Step, md5Step, h.initData, hmd5.2]
  have hset := set_eq s.iupMd5EventTimer s'.iupMd5EventTimer now (show (2 : UInt32) ≠ 0 by decide)
  unfold Iup.calculateMD5
  rw [h.initData]
  by_cases hmore : s.fileSizeTemp < s.initData.iupImageLen.toNat
  case pos =>
    have hmore' : s'.fileSizeTemp < s.initData.iupImageLen.toNat := by rwa [hmd5.2]
    rw [if_pos hmore, if_pos hmore']
    refine { h with timers := fun t => ?_, digest := fun _ => hdigest, md5 := fun _ => ?_ }
    · cases t with
      | md5Event => exact .of_eq hset
      | initFirmware => exact h.timers .initFirmware
      | validateFirmware => exact h.timers .validateFirmware
      | switchOver => exact h.timers .switchOver
      | commitFirmware => exact h.timers .commitFirmware
    · simp only [hstep, hmd5.1, hmd5.2, h.flash, and_self]
  case neg =>
    have hmore' : ¬s'.fileSizeTemp < s.initData.iupImageLen.toNat := by rwa [hmd5.2]
    rw [if_neg hmore, if_neg hmore']
    refine { h with validated := rfl, digestmatch := fun _ => ?_, md5 := fun _ => ⟨rfl, rfl⟩ }
    simp only [hdigest, hmd5.1]

theorem switchOver (h : Alike s s') (drv : FlashDriver) :
    Alike (s.onExpired host now drv .switchOver) (s'.onExpired host now drv .switchOver) := by
  unfold onExpired switchOverImage
  dsimp only
  by_cases hvalidated : s.iupImageValidated = true
  case pos =>
    rw [if_pos hvalidated, if_pos (h.validated.trans hvalidated)]
    by_cases hsecondary : s.iupPersistData.secondaryFlag = 0
    case pos =>
      rw [if_pos hsecondary, if_pos (h.secondary.mpr hsecondary)]
      exact (h.call _).call _
    case neg =>
      rw [if_neg hsecondary, if_neg (mt h.secondary.mp hsecondary)]
      exact h
  case neg =>
    have hvalidated' : ¬s'.iupImageValidated = true := by rwa [h.validated]
    rw [if_neg hvalidated, if_neg hvalidated']
    exact h

theorem commitImage (h : Alike s s') (host : IupPlatform) :
    Alike (s.commitImage host) (s'.commitImage host) := by
  unfold Iup.commitImage
  by_cases hcommit : s.iupPersistData.iupCommitDone = 0
  case pos =>
    rw [if_pos hcommit, if_pos (h.commit.mpr hcommit)]
    exact { h with
      commit := Iff.rfl
      flash := congrArg (Image.write · (host.iupFlashOffset + 24) [iupTrue]) h.flash
      calls := congrArg (fun calls => (calls ++ [.partSetActivePartition]) ++ [.archReboot]) h.calls }
  case neg =>
    rw [if_neg hcommit, if_neg (mt h.commit.mp hcommit)]
    exact h

theorem poll (h : Alike s s') (t : IupTimer) :
    Alike (s.poll host now drv t) (s'.poll host now drv t) := by
  obtain ⟨hexpires, hrun, hidle⟩ := (h.timers t).expired now
  have hexpires : s'.expires now t = s.expires now t := hexpires
  unfold Iup.poll
  rw [hexpires]
  cases hcase : s.expires now t with
  | false =>
    obtain ⟨hsame, hsame'⟩ := hidle hcase
    rw [if_neg Bool.false_ne_true, if_neg Bool.false_ne_true, hsame, hsame']
    refine h.setTimer (h.timers t) (fun ht hne => ?_) fun ht hne => ?_
    · rw [ht] at hne
      exact ⟨h.salt hne, h.digest (.inl hne)⟩
    · rw [ht] at hne
      exact ⟨h.digest (.inr hne), h.md5 hne⟩
  | true =>
    obtain ⟨heq, hne⟩ := hrun hcase
    rw [if_pos rfl, if_pos rfl, heq]
    have hset := h.setTimer (t := t) (.of_eq (rfl : ((s.timer t).expired now).2 = _))
      (fun ht _ => by
        rw [ht] at hne
        exact ⟨h.salt hne, h.digest (.inl hne)⟩)
      (fun ht _ => by
        rw [ht] at hne
        exact ⟨h.digest (.inr hne), h.md5 hne⟩)
    cases t with
    | initFirmware => exact hset.initUpdateProcess host drv
    | validateFirmware => exact hset.computeMD5Digest (h.salt hne) (h.digest (.inl hne))
    | md5Event => exact hset.calculateMD5 (h.digest (.inr hne)) (h.md5 hne)
    | switchOver => exact hset.switchOver drv
    | commitFirmware => exact hset.commitImage host

theorem step (h : Alike s s') (e : IupEvent) : Alike (s.step host e) (s'.step host e) := by
  cases e with
  | poll now drv t => exact h.poll t
  | message now drv p apdu =>
    rw [Iup.step, Iup.step, handleNMExpanded, handleNMExpanded]
    split
    case isTrue => exact h.handleNmeIupInit
    case isFalse =>
      split
      case isTrue => exact h.handleNmeIupTransfer
      case isFalse =>
        split
        case isTrue => exact h.handleNmeIupConfirm
        case isFalse =>
          split
          case isTrue => exact h.handleNmeIupValidate
          case isFalse =>
            split
            case isTrue => exact h.handleNmeIupSwitchOver
            case isFalse =>
              split
              case isTrue => exact h.handleNmeIupStatus
              case isFalse =>
                split
                case isTrue => exact h.handleNmeIupCommit
                case isFalse => exact h

theorem foldl (h : Alike s s') (host : IupPlatform) (es : List IupEvent) :
    Alike (es.foldl (fun t e => t.step host e) s) (es.foldl (fun t e => t.step host e) s') := by
  induction es generalizing s s' with
  | nil => exact h
  | cons e es ih => exact ih (h.step e)

end Alike

structure Settled (s : Iup) : Prop where
  validated : s.iupImageValidated = false
  timers : ∀ t, (s.timer t).expiration = 0

theorem alike_restart (hresumes : Resumes host s (s.restart host)) (h : s.Settled) :
    Alike s (s.restart host) := by
  have hkept : (s.restart host).iupImageValidated = false ∧ (s.restart host).calls = s.calls ∧
      ∀ t, ((s.restart host).timer t).expiration = 0 := by
    unfold restart readIupPersistData
    split
    · exact ⟨rfl, rfl, fun t => by cases t <;> rfl⟩
    · exact ⟨rfl, rfl, fun t => by cases t <;> rfl⟩
  exact
    { initData := hresumes.initData
      rcvd := hresumes.rcvd
      confirm := hresumes.confirm
      commit := hresumes.commit
      secondary := hresumes.secondary
      validated := hkept.1.trans h.validated.symm
      digestmatch := fun hvalidated => by
        rw [h.validated] at hvalidated
        cases hvalidated
      timers := fun t => .inr ⟨h.timers t, hkept.2.2 t⟩
      salt := fun hne => absurd (h.timers _) hne
      digest := fun hne => hne.elim (absurd (h.timers _)) (absurd (h.timers _))
      md5 := fun hne => absurd (h.timers _) hne
      flash := restart_flash host s
      calls := hkept.2.1 }

end Iup

/-- In every state of a session that can have been reached, a restart gives the session back exactly
if the record has it; where besides nothing is under way, all later messages and timers do the same as
without the restart. -/
theorem session_resumed {host : IupPlatform} (hhost : host.Sound) {s t : Iup} {drv : FlashDriver}
    {h : List (Iup × IupSessionEvent)}
    (hs : s.initData.iupPacketCount.toNat ≤ IupPlatform.markerRoom)
    (hrun : Run (fun e t => t.sessionStep host e) (s.initUpdateProcess host drv) h t)
    (htidy : ∀ x ∈ h, Iup.Tidy host x) :
    (Iup.Resumes host t (t.restart host) ↔ t.Resumable host) ∧
      (t.Resumable host → t.Settled → ∀ es : List IupEvent,
        (es.foldl (fun t e => t.step host e) (t.restart host)).calls =
            (es.foldl (fun t e => t.step host e) t).calls ∧
          (es.foldl (fun t e => t.step host e) (t.restart host)).flash =
            (es.foldl (fun t e => t.step host e) t).flash) := by
  have hbacked : t.HasRecord host → t.Backed host :=
    hrun.invariant (I := fun t => t.HasRecord host → t.Backed host)
      (fun e t htidy h hrecord => Iup.backed_step hhost htidy h hrecord) htidy
      (Iup.backed_initUpdateProcess host s drv hs)
  have hiff := Iup.Backed.resumes_iff hbacked
  refine ⟨hiff, fun hresumable hsettled es => ?_⟩
  have halike := (Iup.alike_restart (hiff.mpr hresumable) hsettled).foldl host es
  exact ⟨halike.calls, halike.flash⟩

def lossEvents : List IupSessionEvent := [.event (transferPacket 1), .restart]

def lossHistory : List (Iup × IupSessionEvent) :=
  history (fun e t => Iup.sessionStep updatePlatform t e)
    (waitingUpdate.initUpdateProcess updatePlatform ⟨true, true, true⟩) lossEvents

def afterLoss : Iup :=
  lossEvents.foldl (fun t e => t.sessionStep updatePlatform e)
    (waitingUpdate.initUpdateProcess updatePlatform ⟨true, true, true⟩)

theorem tidy_lossHistory : ∀ x ∈ lossHistory, Iup.Tidy updatePlatform x := by decide +kernel

theorem resumable_afterLoss : afterLoss.Resumable updatePlatform := by
  refine .inl ⟨?_, by decide +kernel, by decide +kernel⟩
  constructor <;> decide +kernel

theorem settled_afterLoss : afterLoss.Settled := by
  refine ⟨by decide +kernel, fun t => ?_⟩
  cases t <;> decide +kernel

theorem session_resumed_afterLoss :
    Iup.Resumes updatePlatform afterLoss (afterLoss.restart updatePlatform) ∧
      ∀ es : List IupEvent,
        (es.foldl (fun t e => t.step updatePlatform e) (afterLoss.restart updatePlatform)).calls =
            (es.foldl (fun t e => t.step updatePlatform e) afterLoss).calls ∧
          (es.foldl (fun t e => t.step updatePlatform e) (afterLoss.restart updatePlatform)).flash =
            (es.foldl (fun t e => t.step updatePlatform e) afterLoss).flash := by
  have hresumed := session_resumed (by decide) (by decide) (Run.history _ _ lossEvents) tidy_lossHistory
  exact ⟨hresumed.1.mpr resumable_afterLoss, hresumed.2 resumable_afterLoss settled_afterLoss⟩

theorem not_session_resumed :
    ¬∀ (host : IupPlatform) (s t : Iup) (drv : FlashDriver) (h : List (Iup × IupSessionEvent)),
      host.Sound → s.initData.iupPacketCount.toNat ≤ IupPlatform.markerRoom →
        Run (fun e t => t.sessionStep host e) (s.initUpdateProcess host drv) h t →
          Iup.Resumes host t (t.restart host) := by
  intro hall
  have hresumes := hall updatePlatform waitingUpdate _ ⟨true, true, true⟩ [] (by decide) (by decide) .refl
  exact absurd (hresumes.commit.mpr (by decide +kernel)) (by decide +kernel)

end LonStack
