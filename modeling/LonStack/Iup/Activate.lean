import LonStack.Iup.Resume

namespace LonStack

open Lib

def IupPlatform.Apart (host : IupPlatform) : Prop :=
  host.partStart + host.partSize ≤ host.iupFlashOffset ∨
    host.iupFlashOffset + EEPROM_BLOCK_SIZE ≤ host.partStart

instance (host : IupPlatform) : Decidable host.Apart := inferInstanceAs (Decidable (_ ∨ _))

namespace Iup

section

variable (host : IupPlatform) (s : Iup)

def Wrote (n : Nat) (x : Iup × IupEvent) : Prop := ∃ bytes, Writes host n bytes x

def Asks (salt digest : List UInt8) : Iup × IupEvent → Prop
  | (s, .message _ _ _ apdu) =>
    apdu.data 0 = NME_IUP_VALIDATE ∧ apdu.iupSession = s.initData.iupSessionNumber ∧
      apdu.slice (Apdu.dataOffset + 6) 16 = salt ∧ apdu.slice (Apdu.dataOffset + 22) 16 = digest
  | (_, .poll ..) => False

structure Approved (h : List (Iup × IupEvent)) (s : Iup) : Prop where
  written : ∀ n, 0 < n → n ≤ s.initData.iupPacketCount.toNat → Since (Wrote host n) Initialises h
  verified : s.verifyImage host = true
  digest : ∃ salt digest, Since (Asks salt digest) Initialises h ∧
    md5 (salt ++ s.image host) = digest

def OnlyApproved : List (Iup × IupEvent) → Iup → Prop
  | [], _ => True
  | (s, _) :: h, t => .partSetActivePartition ∈ s.newCalls t → Approved host h s

def Failed : Prop := s.iupImageValidated = true ∧ s.digestmatch = false

instance : Decidable s.Failed := inferInstanceAs (Decidable (_ ∧ _))

def Pending : Prop := s.iupInitFirmwareTimer.expiration ≠ 0

instance : Decidable s.Pending := inferInstanceAs (Decidable (_ ≠ _))

def Validating : Prop :=
  s.iupValidateFirmwareTimer.expiration ≠ 0 ∨ s.iupMd5EventTimer.expiration ≠ 0

instance : Decidable s.Validating := inferInstanceAs (Decidable (_ ∨ _))

/-- Packets are stored and confirmed as `Orderly` says, no init request is refused for its packet
count after its data have been taken, a validation starts when the packets have been confirmed and not
while one with another digest goes on, a session does not begin while one goes on, a failed result is
not overwritten, and an image is activated when its digest has matched. -/
def Careful : Iup × IupEvent → Prop
  | (s, .message now drv p apdu) =>
    Orderly host (s, .message now drv p apdu) ∧
    (apdu.data 0 = NME_IUP_INIT → host.Proper p apdu →
      (requestedInitData apdu).iupPacketCount.toNat ≤ IupPlatform.markerRoom) ∧
    (apdu.data 0 = NME_IUP_VALIDATE → s.StartsValidation apdu → ¬s.Pending →
      s.iupPersistData.iupConfirmResultSucceed = iupTrue ∧
        (s.Validating → apdu.slice (Apdu.dataOffset + 6) 16 = s.saltBytes ∧
          apdu.slice (Apdu.dataOffset + 22) 16 = s.digestBytes))
  | (s, .poll now drv t) =>
    Orderly host (s, .poll now drv t) ∧ (s.expires now t = true →
      (t = .initFirmware → ¬s.Validating) ∧
      (t = .md5Event → s.Failed → s.initData.iupImageLen.toNat ≤ s.fileSizeTemp →
        MD5Final s.md5c ≠ s.digestBytes) ∧
      (t = .switchOver → s.iupImageValidated = true → s.iupPersistData.secondaryFlag = 0 →
        s.digestmatch = true ∧ ¬s.Pending) ∧
      (t = .commitFirmware → s.iupPersistData.iupCommitDone = 0 →
        s.iupImageValidated = true ∧ s.digestmatch = true ∧ ¬s.Pending))

instance : DecidablePred (Careful host)
  | (_, .message ..) => inferInstanceAs (Decidable (_ ∧ _ ∧ _))
  | (_, .poll ..) => inferInstanceAs (Decidable (_ ∧ _))

/-- The invariant. Nothing is known of a session that waits for its beginning. -/
structure Kept (h : List (Iup × IupEvent)) (s : Iup) : Prop where
  marked : s.HasRecord host → Marked host h s
  size : s.initData.iupImageLen.toNat ≤ host.partSize
  once : s.iupMd5EventTimer.repeatTimeout = 0
  confirmed : ¬s.Pending → s.iupPersistData.iupConfirmResultSucceed = iupTrue →
    ∀ n, 0 < n → n ≤ s.initData.iupPacketCount.toNat → Since (Wrote host n) Initialises h
  asked : ¬s.Pending → s.Validating → s.iupPersistData.iupConfirmResultSucceed = iupTrue ∧
    Since (Asks s.saltBytes s.digestBytes) Initialises h
  digesting : ¬s.Pending → s.iupMd5EventTimer.expiration ≠ 0 →
    s.fileSizeTemp ≤ s.initData.iupImageLen.toNat ∧
      (128 ∣ s.fileSizeTemp ∨ s.fileSizeTemp = s.initData.iupImageLen.toNat) ∧
      s.md5c = (s.saltBytes ++ (s.image host).take s.fileSizeTemp).foldl MD5Update MD5Init ∧
      (s.verifyImage host = true ∨ s.Failed)
  validated : ¬s.Pending → s.iupImageValidated = true → s.digestmatch = true →
    s.iupPersistData.iupConfirmResultSucceed = iupTrue ∧ Approved host h s

end

variable {host : IupPlatform} {s s' : Iup} {e : IupEvent} {h : List (Iup × IupEvent)}

structure SameSession (host : IupPlatform) (s s' : Iup) : Prop where
  initData : s'.initData = s.initData
  confirm : s'.iupPersistData.iupConfirmResultSucceed = s.iupPersistData.iupConfirmResultSucceed
  validated : s'.iupImageValidated = s.iupImageValidated
  digestmatch : s'.digestmatch = s.digestmatch
  saltBytes : s'.saltBytes = s.saltBytes
  digestBytes : s'.digestBytes = s.digestBytes
  md5c : s'.md5c = s.md5c
  fileSizeTemp : s'.fileSizeTemp = s.fileSizeTemp
  initTimer : s'.iupInitFirmwareTimer = s.iupInitFirmwareTimer
  validateTimer : s'.iupValidateFirmwareTimer = s.iupValidateFirmwareTimer
  md5Timer : s'.iupMd5EventTimer = s.iupMd5EventTimer
  image : s'.image host = s.image host

theorem image_of_onlyIn (hapart : host.Apart) (hsize : s.initData.iupImageLen.toNat ≤ host.partSize)
    (hdata : s'.initData = s.initData)
    (hflash : s.flash.OnlyIn s'.flash host.iupFlashOffset EEPROM_BLOCK_SIZE) :
    s'.image host = s.image host := by
  rw [image, image, hdata]
  apply hflash.slice_eq
  rcases hapart with hle | hle
  · left
    omega
  · exact .inr hle

theorem Approved.later (happroved : Approved host h s) (hdata : s'.initData = s.initData)
    (himage : s'.image host = s.image host) (hnot : ¬Initialises (s, e)) :
    Approved host ((s, e) :: h) s' := by
  obtain ⟨salt, digest, hasks, hmatch⟩ := happroved.digest
  refine ⟨?_, ?_, salt, digest, .inr ⟨hnot, hasks⟩, ?_⟩
  · rw [hdata]
    exact fun n hpos hle => .inr ⟨hnot, happroved.written n hpos hle⟩
  · rw [verifyImage, himage]
    exact happroved.verified
  · rw [himage]
    exact hmatch

theorem Kept.same (hkept : Kept host h s) (hsame : SameSession host s s')
    (hnot : ¬Initialises (s, e)) (hmarked : s'.HasRecord host → Marked host ((s, e) :: h) s') :
    Kept host ((s, e) :: h) s' := by
  have hpending : s'.Pending ↔ s.Pending := by rw [Pending, Pending, hsame.initTimer]
  have hvalidating : s'.Validating ↔ s.Validating := by
    rw [Validating, Validating, hsame.validateTimer, hsame.md5Timer]
  have hfailed : s'.Failed ↔ s.Failed := by
    rw [Failed, Failed, hsame.validated, hsame.digestmatch]
  constructor
  · exact hmarked
  · rw [hsame.initData]
    exact hkept.size
  · rw [hsame.md5Timer]
    exact hkept.once
  · intro hidle hconfirm
    rw [hsame.initData]
    rw [hpending] at hidle
    rw [hsame.confirm] at hconfirm
    exact fun n hpos hle => .inr ⟨hnot, hkept.confirmed hidle hconfirm n hpos hle⟩
  · intro hidle hrun
    rw [hpending] at hidle
    rw [hvalidating] at hrun
    obtain ⟨hconfirm, hasks⟩ := hkept.asked hidle hrun
    rw [hsame.confirm, hsame.saltBytes, hsame.digestBytes]
    exact ⟨hconfirm, .inr ⟨hnot, hasks⟩⟩
  · intro hidle hrun
    rw [hpending] at hidle
    rw [hsame.md5Timer] at hrun
    rw [hsame.fileSizeTemp, hsame.initData, hsame.md5c, hsame.saltBytes, hsame.image, verifyImage,
      hsame.image, hfailed]
    exact hkept.digesting hidle hrun
  · intro hidle hvalidated hmatch
    rw [hpending] at hidle
    rw [hsame.validated] at hvalidated
    rw [hsame.digestmatch] at hmatch
    obtain ⟨hconfirm, happroved⟩ := hkept.validated hidle hvalidated hmatch
    rw [hsame.confirm]
    exact ⟨hconfirm, happroved.later hsame.initData hsame.image hnot⟩

theorem onlyIn_flag (host : IupPlatform) (m : Image) {a : Nat} (ha : a < iupPersistDataLen) (x : UInt8) :
    m.OnlyIn (m.write (host.iupFlashOffset + a) [x]) host.iupFlashOffset EEPROM_BLOCK_SIZE := by
  have ha : a < 26 := ha
  apply (Image.OnlyIn.write m (host.iupFlashOffset + a) [x]).mono (Nat.le_add_right _ _)
  simp only [List.length_singleton, EEPROM_BLOCK_SIZE]
  omega

theorem image_flag (hapart : host.Apart) (hsize : s.initData.iupImageLen.toNat ≤ host.partSize)
    (hdata : s'.initData = s.initData) {a : Nat} (ha : a < iupPersistDataLen) {x : UInt8}
    (hflash : s'.flash = s.flash.write (host.iupFlashOffset + a) [x]) :
    s'.image host = s.image host :=
  image_of_onlyIn hapart hsize hdata (hflash ▸ onlyIn_flag host s.flash ha x)

section

variable {now : UInt32} {drv : FlashDriver} {p : APPReceiveParam} {apdu : Apdu} {c : IupCall}

theorem Kept.pending (hpending : s'.Pending) (hmarked : s'.HasRecord host → Marked host h s')
    (hsize : s'.initData.iupImageLen.toNat ≤ host.partSize)
    (honce : s'.iupMd5EventTimer.repeatTimeout = 0) : Kept host h s' where
  marked := hmarked
  size := hsize
  once := honce
  confirmed hidle := absurd hpending hidle
  asked hidle := absurd hpending hidle
  digesting hidle := absurd hpending hidle
  validated hidle := absurd hpending hidle

theorem Kept.stored (hkept : Kept host h s) (hstores : s.Stores host drv p apdu)
    (hmarked : (s.store host apdu).HasRecord host → Marked host ((s, e) :: h) (s.store host apdu)) :
    Kept host ((s, e) :: h) (s.store host apdu) := by
  have hconfirm := hstores.2.2.1
  constructor
  · exact hmarked
  · exact hkept.size
  · exact hkept.once
  · intro _ hconfirmed
    exact absurd hconfirmed hconfirm
  · intro hidle hrun
    exact absurd (hkept.asked hidle hrun).1 hconfirm
  · intro hidle hrun
    exact absurd (hkept.asked hidle (.inr hrun)).1 hconfirm
  · intro hidle hvalidated hmatch
    exact absurd (hkept.validated hidle hvalidated hmatch).1 hconfirm

theorem Kept.confirm (hkept : Kept host h s) (hapart : host.Apart) (hrecorded : s.Recorded host)
    (hall : s.initData.iupPacketCount = s.iupRcvdPckCount) (hnot : ¬Initialises (s, e))
    (hmarked : ((s.confirmed host).call c).HasRecord host →
      Marked host ((s, e) :: h) ((s.confirmed host).call c)) :
    Kept host ((s, e) :: h) ((s.confirmed host).call c) := by
  have himage : ((s.confirmed host).call c).image host = s.image host :=
    image_flag (a := 23) hapart hkept.size rfl (by decide) rfl
  have hcounted := hrecorded.counted (hkept.marked hrecorded.valid)
  constructor
  · exact hmarked
  · exact hkept.size
  · exact hkept.once
  · intro _ _ n hpos hle
    have hwritten := hcounted.written n hpos hle (received_of_counted hcounted.counted hall hpos hle)
    exact .inr ⟨hnot, hwritten.mono (fun _ hx => ⟨_, hx⟩) fun _ hx => hx⟩
  · intro hidle hrun
    exact ⟨rfl, .inr ⟨hnot, (hkept.asked hidle hrun).2⟩⟩
  · intro hidle hrun
    rw [verifyImage, himage]
    exact hkept.digesting hidle hrun
  · intro hidle hvalidated hmatch
    exact ⟨rfl, (hkept.validated hidle hvalidated hmatch).2.later rfl himage hnot⟩

theorem Kept.start (hkept : Kept host h s) (hcode : apdu.data 0 = NME_IUP_VALIDATE)
    (hstarts : s.StartsValidation apdu)
    (hok : ¬s.Pending → s.iupPersistData.iupConfirmResultSucceed = iupTrue ∧
      (s.Validating → apdu.slice (Apdu.dataOffset + 6) 16 = s.saltBytes ∧
        apdu.slice (Apdu.dataOffset + 22) 16 = s.digestBytes))
    (hmarked : ((s.validating now apdu).call c).HasRecord host →
      Marked host ((s, .message now drv p apdu) :: h) ((s.validating now apdu).call c)) :
    Kept host ((s, .message now drv p apdu) :: h) ((s.validating now apdu).call c) := by
  constructor
  · exact hmarked
  · exact hkept.size
  · exact hkept.once
  · intro hidle hconfirm n hpos hle
    exact .inr ⟨id, hkept.confirmed hidle hconfirm n hpos hle⟩
  · intro hidle _
    exact ⟨(hok hidle).1, .inl ⟨hcode, hstarts.session, rfl, rfl⟩⟩
  · intro hidle hrun
    -- a digest that is being calculated is one for the same salt
    have hsalt : ((s.validating now apdu).call c).saltBytes = s.saltBytes :=
      ((hok hidle).2 (.inr hrun)).1
    rw [hsalt]
    exact hkept.digesting hidle hrun
  · intro _ hvalidated
    exact absurd (hstarts.validated.symm.trans hvalidated) Bool.false_ne_true

theorem initUpdateProcess_keeps (host : IupPlatform) (s : Iup) (drv : FlashDriver) :
    (s.initUpdateProcess host drv).initData = s.initData ∧
      (s.initUpdateProcess host drv).iupMd5EventTimer = s.iupMd5EventTimer ∧
      (s.initUpdateProcess host drv).iupValidateFirmwareTimer = s.iupValidateFirmwareTimer ∧
      (s.initUpdateProcess host drv).iupPersistData.iupConfirmResultSucceed = iupFalse ∧
      (s.initUpdateProcess host drv).iupImageValidated = false := by
  unfold initUpdateProcess
  dsimp only
  split
  · exact ⟨rfl, rfl, rfl, rfl, rfl⟩
  · split
    · exact ⟨rfl, rfl, rfl, rfl, rfl⟩
    · exact ⟨rfl, rfl, rfl, rfl, rfl⟩

theorem Kept.begin (hkept : Kept host h s) {timer : LonTimer} (hvalidating : ¬s.Validating)
    (hmarked :
      (({ s with iupInitFirmwareTimer := timer } : Iup).initUpdateProcess host drv).HasRecord host →
      Marked host ((s, e) :: h)
        (({ s with iupInitFirmwareTimer := timer } : Iup).initUpdateProcess host drv)) :
    Kept host ((s, e) :: h)
      (({ s with iupInitFirmwareTimer := timer } : Iup).initUpdateProcess host drv) := by
  obtain ⟨hdata, hmd5, hvalidate, hconfirm, hvalidated⟩ :=
    initUpdateProcess_keeps host { s with iupInitFirmwareTimer := timer } drv
  constructor
  · exact hmarked
  · rw [hdata]
    exact hkept.size
  · rw [hmd5]
    exact hkept.once
  · intro _ hconfirmed
    rw [hconfirm] at hconfirmed
    exact absurd hconfirmed (by decide)
  · intro _ hrun
    rw [Validating, hvalidate, hmd5] at hrun
    exact absurd hrun hvalidating
  · intro _ hrun
    rw [hmd5] at hrun
    exact absurd (.inr hrun) hvalidating
  · intro _ hval
    rw [hvalidated] at hval
    exact absurd hval Bool.false_ne_true

end

theorem expiration_ne_zero {timer : LonTimer} {now : UInt32} (h : (timer.expired now).1 = true) :
    timer.expiration ≠ 0 := by
  intro hzero
  rw [LonTimer.expired, LonTimer.isExpired, hzero] at h
  cases h

theorem Kept.compute (hkept : Kept host h s) {now : UInt32} {timer : LonTimer}
    (hrun : s.iupValidateFirmwareTimer.expiration ≠ 0) (hnot : ¬Initialises (s, e))
    (hmarked : ((s.setTimer .validateFirmware timer).computeMD5Digest host now).HasRecord host →
      Marked host ((s, e) :: h) ((s.setTimer .validateFirmware timer).computeMD5Digest host now)) :
    Kept host ((s, e) :: h) ((s.setTimer .validateFirmware timer).computeMD5Digest host now) := by
  have hsize := hkept.size
  have hasked := fun hidle => hkept.asked hidle (.inl hrun)
  have hset : ∀ timer : LonTimer, (timer.set now 2).repeatTimeout = 0 := fun timer => by
    rw [LonTimer.set, if_neg (by decide)]
  unfold computeMD5Digest at hmarked ⊢
  have hverify : (s.setTimer .validateFirmware timer).verifyImage host = s.verifyImage host := rfl
  rw [hverify] at hmarked ⊢
  cases himage : s.verifyImage host with
  | true =>
    rw [himage] at hmarked
    rw [if_pos rfl] at hmarked ⊢
    constructor
    · exact hmarked
    · exact hsize
    · exact hset s.iupMd5EventTimer
    · intro hidle hconfirm n hpos hle
      exact .inr ⟨hnot, hkept.confirmed hidle hconfirm n hpos hle⟩
    · intro hidle _
      exact ⟨(hasked hidle).1, .inr ⟨hnot, (hasked hidle).2⟩⟩
    · intro _ _
      refine ⟨Nat.zero_le _, .inl ⟨0, rfl⟩, ?_, .inl himage⟩
      rw [List.take_zero, List.append_nil]
    · intro hidle hvalidated hmatch
      obtain ⟨hconfirm, happroved⟩ := hkept.validated hidle hvalidated hmatch
      exact ⟨hconfirm, happroved.later rfl rfl hnot⟩
  | false =>
    rw [himage] at hmarked
    rw [if_neg Bool.false_ne_true] at hmarked ⊢
    constructor
    · exact hmarked
    · exact hsize
    · exact hset s.iupMd5EventTimer
    · intro hidle hconfirm n hpos hle
      exact .inr ⟨hnot, hkept.confirmed hidle hconfirm n hpos hle⟩
    · intro hidle _
      exact ⟨(hasked hidle).1, .inr ⟨hnot, (hasked hidle).2⟩⟩
    · intro _ _
      refine ⟨Nat.zero_le _, .inl ⟨0, rfl⟩, ?_, .inr ⟨rfl, rfl⟩⟩
      rw [List.take_zero, List.append_nil]
    · intro _ _ hmatch
      cases hmatch

theorem take_md5Step (host : IupPlatform) (hmore : s.fileSizeTemp < s.initData.iupImageLen.toNat)
    (hdvd : 128 ∣ s.fileSizeTemp) :
    s.fileSizeTemp + s.md5Step ≤ s.initData.iupImageLen.toNat ∧
      (128 ∣ s.fileSizeTemp + s.md5Step ∨
        s.fileSizeTemp + s.md5Step = s.initData.iupImageLen.toNat) ∧
      (s.image host).take s.fileSizeTemp ++
          s.flash.slice (s.fileSizeTemp + host.partStart) s.md5Step =
        (s.image host).take (s.fileSizeTemp + s.md5Step) := by
  obtain ⟨k, hk⟩ := hdvd
  have hstep : s.fileSizeTemp + s.md5Step ≤ s.initData.iupImageLen.toNat ∧
      (128 ∣ s.fileSizeTemp + s.md5Step ∨
        s.fileSizeTemp + s.md5Step = s.initData.iupImageLen.toNat) := by
    unfold md5Step
    dsimp only
    split
    case isTrue hlast => omega
    case isFalse hmiddle => omega
  refine ⟨hstep.1, hstep.2, ?_⟩
  apply List.ext_getElem
  · simp only [image, List.length_append, List.length_take, Image.length_slice]
    omega
  · intro i hi hi'
    rw [List.getElem_append]
    split
    case isTrue hlt => rw [List.getElem_take, List.getElem_take]
    case isFalse hge =>
      simp only [image, List.length_take, Image.length_slice] at hge hi' ⊢
      rw [List.getElem_take]
      simp only [Image.slice, List.getElem_map, List.getElem_range]
      congr 1
      omega

theorem Kept.digest (hkept : Kept host h s) {now : UInt32} {timer : LonTimer}
    (hrun : s.iupMd5EventTimer.expiration ≠ 0) (hnot : ¬Initialises (s, e))
    (htimer : timer.expiration = 0 ∧ timer.repeatTimeout = 0)
    (hok : s.Failed → s.initData.iupImageLen.toNat ≤ s.fileSizeTemp → MD5Final s.md5c ≠ s.digestBytes)
    (hmarked : ((s.setTimer .md5Event timer).calculateMD5 host now).HasRecord host →
      Marked host ((s, e) :: h) ((s.setTimer .md5Event timer).calculateMD5 host now)) :
    Kept host ((s, e) :: h) ((s.setTimer .md5Event timer).calculateMD5 host now) := by
  have hasked := fun hidle => hkept.asked hidle (.inr hrun)
  unfold calculateMD5 at hmarked ⊢
  have hcond : (s.setTimer .md5Event timer).fileSizeTemp <
      (s.setTimer .md5Event timer).initData.iupImageLen.toNat ↔
        s.fileSizeTemp < s.initData.iupImageLen.toNat := Iff.rfl
  by_cases hmore : s.fileSizeTemp < s.initData.iupImageLen.toNat
  case pos =>
    rw [if_pos (hcond.mpr hmore)] at hmarked ⊢
    constructor
    · exact hmarked
    · exact hkept.size
    · change (timer.set now 2).repeatTimeout = 0
      rw [LonTimer.set, if_neg (by decide)]
    · intro hidle hconfirm n hpos hle
      exact .inr ⟨hnot, hkept.confirmed hidle hconfirm n hpos hle⟩
    · intro hidle _
      exact ⟨(hasked hidle).1, .inr ⟨hnot, (hasked hidle).2⟩⟩
    · intro hidle _
      obtain ⟨hle, hdvd, hmd5, hverified⟩ := hkept.digesting hidle hrun
      have hdvd : 128 ∣ s.fileSizeTemp := hdvd.resolve_right (Nat.ne_of_lt hmore)
      obtain ⟨hle', hdvd', htake⟩ := take_md5Step host hmore hdvd
      refine ⟨hle', hdvd', ?_, hverified⟩
      change (s.flash.slice (s.fileSizeTemp + host.partStart) s.md5Step).foldl MD5Update s.md5c =
        (s.saltBytes ++ (s.image host).take (s.fileSizeTemp + s.md5Step)).foldl MD5Update MD5Init
      rw [← htake, ← List.append_assoc, List.foldl_append, hmd5]
    · intro hidle hvalidated hmatch
      obtain ⟨hconfirm, happroved⟩ := hkept.validated hidle hvalidated hmatch
      exact ⟨hconfirm, happroved.later rfl rfl hnot⟩
  case neg =>
    rw [if_neg (mt hcond.mp hmore)] at hmarked ⊢
    have hdone : s.initData.iupImageLen.toNat ≤ s.fileSizeTemp := Nat.not_lt.mp hmore
    constructor
    · exact hmarked
    · exact hkept.size
    · exact htimer.2
    · intro hidle hconfirm n hpos hle
      exact .inr ⟨hnot, hkept.confirmed hidle hconfirm n hpos hle⟩
    · intro hidle _
      exact ⟨(hasked hidle).1, .inr ⟨hnot, (hasked hidle).2⟩⟩
    · intro _ hrunning
      exact absurd htimer.1 hrunning
    · intro hidle _ hmatch
      have hmatch : (MD5Final s.md5c == s.digestBytes) = true := hmatch
      rw [beq_iff_eq] at hmatch
      obtain ⟨hle, -, hmd5, hverified⟩ := hkept.digesting hidle hrun
      obtain ⟨hconfirm, hasks⟩ := hasked hidle
      have hverified : s.verifyImage host = true :=
        hverified.resolve_right fun hfailed => hok hfailed hdone hmatch
      refine ⟨hconfirm, ?_, hverified, s.saltBytes, s.digestBytes, .inr ⟨hnot, hasks⟩, ?_⟩
      · intro n hpos hn
        exact .inr ⟨hnot, hkept.confirmed hidle hconfirm n hpos hn⟩
      · -- all bytes of the image have been taken
        have htake : (s.image host).take s.fileSizeTemp = s.image host := by
          rw [List.take_of_length_le]
          rwa [image, Image.length_slice]
        rw [htake] at hmd5
        change md5 (s.saltBytes ++ s.image host) = s.digestBytes
        rw [md5, ← hmd5, hmatch]

theorem Careful.orderly (hok : Careful host (s, e)) : Orderly host (s, e) := by
  cases e with
  | message => exact hok.1
  | poll => exact hok.1

theorem set_running (timer : LonTimer) (now : UInt32) {duration : UInt32} (h : duration ≠ 0) :
    (timer.set now duration).expiration ≠ 0 := by
  rw [LonTimer.set, if_neg h]
  dsimp only
  split
  case isTrue => decide
  case isFalse hne => exact hne

theorem kept_expired {now : UInt32} {drv : FlashDriver} {t : IupTimer} (hkept : Kept host h s)
    (hapart : host.Apart) (hexpires : s.expires now t = true)
    (hok : Careful host (s, .poll now drv t))
    (hmarked :
      ((s.setTimer t ((s.timer t).reported now)).onExpired host now drv t).HasRecord host →
      Marked host ((s, .poll now drv t) :: h)
        ((s.setTimer t ((s.timer t).reported now)).onExpired host now drv t)) :
    Kept host ((s, .poll now drv t) :: h)
      ((s.setTimer t ((s.timer t).reported now)).onExpired host now drv t) := by
  obtain ⟨hinit, hmd5, -, -⟩ := hok.2 hexpires
  have hrun := expiration_ne_zero hexpires
  cases t with
  | initFirmware => exact hkept.begin (hinit rfl) hmarked
  | validateFirmware => exact hkept.compute hrun nofun hmarked
  | md5Event =>
    refine hkept.digest hrun nofun ?_ (hmd5 rfl) hmarked
    rw [LonTimer.reported, if_pos (show (s.timer .md5Event).repeatTimeout = 0 from hkept.once)]
    exact ⟨rfl, hkept.once⟩
  | switchOver =>
    refine hkept.same ?_ nofun hmarked
    unfold onExpired switchOverImage setTimer call
    dsimp only
    split
    · split
      · exact ⟨rfl, rfl, rfl, rfl, rfl, rfl, rfl, rfl, rfl, rfl, rfl, rfl⟩
      · exact ⟨rfl, rfl, rfl, rfl, rfl, rfl, rfl, rfl, rfl, rfl, rfl, rfl⟩
    · exact ⟨rfl, rfl, rfl, rfl, rfl, rfl, rfl, rfl, rfl, rfl, rfl, rfl⟩
  | commitFirmware =>
    refine hkept.same ?_ nofun hmarked
    have hcommit := commitImage_eq host
      (s.setTimer .commitFirmware ((s.timer .commitFirmware).reported now))
    change SameSession host s
      ((s.setTimer .commitFirmware ((s.timer .commitFirmware).reported now)).commitImage host)
    rcases hcommit with ⟨-, heq⟩ | ⟨-, heq⟩
    · rw [heq]
      exact ⟨rfl, rfl, rfl, rfl, rfl, rfl, rfl, rfl, rfl, rfl, rfl, rfl⟩
    · rw [heq]
      exact ⟨rfl, rfl, rfl, rfl, rfl, rfl, rfl, rfl, rfl, rfl, rfl,
        image_flag (a := 24) hapart hkept.size rfl (by decide) rfl⟩

theorem kept_step (hhost : host.Sound) (hapart : host.Apart) (hok : Careful host (s, e))
    (hkept : Kept host h s) : Kept host ((s, e) :: h) (s.step host e) := by
  have hmarked := marked_step hhost hok.orderly hkept.marked
  have heffect := effect host s e
  generalize s.step host e = s' at heffect hmarked ⊢
  cases heffect with
  | quiet cs hcs hidle =>
    exact hkept.same ⟨rfl, rfl, rfl, rfl, rfl, rfl, rfl, rfl, rfl, rfl, rfl, rfl⟩
      (not_initialises hidle) hmarked
  | @requested now drv p apdu timer c hcode hproper htimer hc =>
    have htimer : timer = s.iupInitFirmwareTimer.set now IUP_INIT_FIRMWARE_TIMER_VALUE :=
      htimer.resolve_left fun hcount => Nat.not_lt.mpr (hok.2.1 hcode hproper) hcount.2
    have hpending : timer.expiration ≠ 0 := htimer ▸ set_running _ now (by decide)
    exact .pending hpending hmarked hproper.size hkept.once
  | stored hcode hstores => exact hkept.stored hstores hmarked
  | confirmed hcode hsession hall hc =>
    exact hkept.confirm hapart (hok.1.2 hcode hsession) hall nofun hmarked
  | validating hcode hstarts hc => exact hkept.start hcode hstarts (hok.2.2 hcode hstarts) hmarked
  | @switchOver now drv p apdu timer calls flagged =>
    refine hkept.same ?_ nofun hmarked
    cases flagged with
    | false => exact ⟨rfl, rfl, rfl, rfl, rfl, rfl, rfl, rfl, rfl, rfl, rfl, rfl⟩
    | true =>
      exact ⟨rfl, rfl, rfl, rfl, rfl, rfl, rfl, rfl, rfl, rfl, rfl,
        image_flag (a := 25) hapart hkept.size rfl (by decide) rfl⟩
  | erased =>
    refine hkept.same ⟨rfl, rfl, rfl, rfl, rfl, rfl, rfl, rfl, rfl, rfl, rfl, ?_⟩ nofun hmarked
    exact image_of_onlyIn hapart hkept.size rfl (Image.OnlyIn.fill _ _ _ _)
  | committing =>
    exact hkept.same ⟨rfl, rfl, rfl, rfl, rfl, rfl, rfl, rfl, rfl, rfl, rfl, rfl⟩ nofun hmarked
  | expired hexpires => exact kept_expired hkept hapart hexpires hok hmarked

theorem not_activated_call {x : Iup} {c : IupCall} (hcalls : x.calls = s.calls)
    (hc : c ≠ .partSetActivePartition) : .partSetActivePartition ∉ s.newCalls (x.call c) := by
  have hnew : s.newCalls (x.call c) = [c] := by rw [newCalls, ← hcalls, call, List.drop_left]
  rw [hnew, List.mem_singleton]
  exact hc.symm

theorem approved_of_activated (hkept : Kept host h s) (hok : Careful host (s, e))
    (hactivated : .partSetActivePartition ∈ s.newCalls (s.step host e)) : Approved host h s := by
  have hnone : ∀ s' : Iup, s'.calls = s.calls → .partSetActivePartition ∉ s.newCalls s' := by
    intro s' hcalls
    rw [newCalls_self s hcalls]
    exact List.not_mem_nil
  have heffect := effect host s e
  generalize s.step host e = s' at heffect hactivated
  cases heffect with
  | quiet cs hcs =>
    rw [newCalls, withCalls, List.drop_left] at hactivated
    exact absurd hactivated hcs
  | requested hcode hproper htimer hc =>
    exact absurd hactivated (not_activated_call rfl hc)
  | stored hcode hstores => exact absurd hactivated (hnone _ rfl)
  | confirmed hcode hsession hall hc =>
    exact absurd hactivated (not_activated_call rfl hc)
  | validating hcode hstarts hc =>
    exact absurd hactivated (not_activated_call rfl hc)
  | switchOver flagged hcode hvalidated hcalls =>
    obtain ⟨cs, rfl, hcs⟩ := hcalls
    rw [newCalls, List.drop_left] at hactivated
    exact absurd hactivated hcs
  | erased hcode hc =>
    exact absurd hactivated (not_activated_call rfl hc)
  | committing hcode hc =>
    exact absurd hactivated (not_activated_call rfl hc)
  | @expired now drv t hexpires =>
    obtain ⟨-, -, hswitch, hcommit⟩ := hok.2 hexpires
    cases t with
    | initFirmware => exact absurd hactivated (hnone _ (calls_initUpdateProcess host _ drv))
    | validateFirmware =>
      refine absurd hactivated (hnone _ ?_)
      unfold onExpired computeMD5Digest
      dsimp only
      split <;> rfl
    | md5Event =>
      refine absurd hactivated (hnone _ ?_)
      unfold onExpired calculateMD5
      dsimp only
      split <;> rfl
    | switchOver =>
      by_cases hgoes : s.iupImageValidated = true ∧ s.iupPersistData.secondaryFlag = 0
      case pos =>
        obtain ⟨hmatch, hidle⟩ := hswitch rfl hgoes.1 hgoes.2
        exact (hkept.validated hidle hgoes.1 hmatch).2
      case neg =>
        refine absurd hactivated (hnone _ ?_)
        unfold onExpired switchOverImage
        dsimp only
        split
        case isTrue hvalidated =>
          split
          case isTrue hsecondary => exact absurd ⟨hvalidated, hsecondary⟩ hgoes
          case isFalse => rfl
        case isFalse => rfl
    | commitFirmware =>
      by_cases hgoes : s.iupPersistData.iupCommitDone = 0
      case pos =>
        obtain ⟨hvalidated, hmatch, hidle⟩ := hcommit rfl hgoes
        exact (hkept.validated hidle hvalidated hmatch).2
      case neg =>
        refine absurd hactivated (hnone _ ?_)
        unfold onExpired commitImage
        dsimp only
        split
        case isTrue hdone => exact absurd hdone hgoes
        case isFalse => rfl

theorem failed_step (hok : Careful host (s, e)) (hfailed : s.Failed) (hnot : ¬Initialises (s, e)) :
    (s.step host e).Failed := by
  have heffect := effect host s e
  generalize s.step host e = s' at heffect ⊢
  cases heffect with
  | quiet => exact hfailed
  | requested => exact hfailed
  | stored => exact hfailed
  | confirmed => exact hfailed
  | validating => exact hfailed
  | @switchOver now drv p apdu timer calls flagged => cases flagged <;> exact hfailed
  | erased => exact hfailed
  | committing => exact hfailed
  | @expired now drv t hexpires =>
    obtain ⟨-, hmd5, -, -⟩ := hok.2 hexpires
    cases t with
    | initFirmware => exact absurd ⟨rfl, hexpires⟩ hnot
    | validateFirmware =>
      unfold onExpired computeMD5Digest
      dsimp only
      split
      · exact hfailed
      · exact ⟨rfl, rfl⟩
    | md5Event =>
      unfold onExpired calculateMD5
      dsimp only
      split
      case isTrue => exact hfailed
      case isFalse hmore => exact ⟨rfl, beq_eq_false_iff_ne.mpr (hmd5 rfl hfailed (Nat.not_lt.mp hmore))⟩
    | switchOver =>
      unfold onExpired switchOverImage
      dsimp only
      split
      · split <;> exact hfailed
      · exact hfailed
    | commitFirmware =>
      rcases commitImage_eq host (s.setTimer .commitFirmware ((s.timer .commitFirmware).reported now))
        with ⟨-, heq⟩ | ⟨-, heq⟩
      · rw [onExpired, heq]
        exact hfailed
      · rw [onExpired, heq]
        exact hfailed

end Iup

/-- In every run of a device that has been switched on without a session, only approved images are
activated, and no later step of a session makes a success of a failed verification or digest. -/
theorem only_approved_activated {host : IupPlatform} (hhost : host.Sound) (hapart : host.Apart)
    {s t : Iup} {h : List (Iup × IupEvent)} (hs : ¬s.HasRecord host)
    (hrun : Run (fun e t => t.step host e) (s.restart host) h t)
    (hok : ∀ x ∈ h, Iup.Careful host x) :
    Always (Iup.OnlyApproved host) h t ∧
      ∀ x ∈ h, x.1.Failed → ¬Iup.Initialises x → (x.1.step host x.2).Failed := by
  have hall : Iup.Kept host h t ∧ Always (Iup.OnlyApproved host) h t := by
    induction hrun with
    | refl =>
      rw [Iup.restart_of_not_record hs]
      refine ⟨⟨fun hrecord => absurd hrecord hs, Nat.zero_le _, rfl, ?_, ?_, ?_, ?_⟩, trivial⟩
      · intro _ hconfirm
        have hconfirm : (0 : UInt8) = 1 := hconfirm
        exact absurd hconfirm (by decide)
      · rintro _ (hrun | hrun)
        · exact absurd rfl hrun
        · exact absurd rfl hrun
      · intro _ hrun
        exact absurd rfl hrun
      · intro _ hvalidated
        exact absurd hvalidated Bool.false_ne_true
    | @next h t e hrun ih =>
      rw [List.forall_mem_cons] at hok
      obtain ⟨hkept, halways⟩ := ih hok.2
      exact ⟨Iup.kept_step hhost hapart hok.1 hkept,
        fun hactivated => Iup.approved_of_activated hkept hok.1 hactivated, halways⟩
  exact ⟨hall.2, fun x hx hfailed hnot => Iup.failed_step (hok x hx) hfailed hnot⟩

def md5OfPacket : List UInt8 :=
  [0x1C, 0x93, 0xA5, 0x91, 0xC5, 0x1D, 0xD2, 0x38, 0x70, 0x2B, 0x94, 0xB9, 0x0C, 0x03, 0x91, 0x4B]

def activation : List IupEvent :=
  [updateMessage ([0x73, NME_IUP_INIT, 0, 0, 0, 7, 0x84, 0x84, 0, 0, 0, 0, 0, 0, 0, 0, 0, 1, 0, 1,
      0, 0, 0, 1] ++ .replicate 16 0),
    .poll 500 ⟨true, true, true⟩ .initFirmware,
    transferPacket 1,
    confirmRequest,
    updateMessage ([0x73, NME_IUP_VALIDATE, 0, 0, 0, 7, DIGEST_TYPE_SUPPORTED] ++ .replicate 16 0 ++
      md5OfPacket),
    .poll 100 ⟨true, true, true⟩ .validateFirmware,
    .poll 102 ⟨true, true, true⟩ .md5Event,
    .poll 104 ⟨true, true, true⟩ .md5Event,
    updateMessage ([0x73, NME_IUP_SWITCHOVER, 6] ++ .replicate 15 0)]

def activationHistory (host : IupPlatform) : List (Iup × IupEvent) :=
  history (fun e t => Iup.step host t e) (waitingUpdate.restart host) activation

def switching (host : IupPlatform) : Iup :=
  activation.foldl (fun t e => t.step host e) (waitingUpdate.restart host)

def switchOverPoll : IupEvent := .poll 1000 ⟨true, true, true⟩ .switchOver

theorem careful_activation :
    ∀ x ∈ (switching updatePlatform, switchOverPoll) :: activationHistory updatePlatform,
      Iup.Careful updatePlatform x := by
  decide +kernel

theorem only_approved_activated_onePacket :
    .partSetActivePartition ∈ (switching updatePlatform).newCalls
        ((switching updatePlatform).step updatePlatform switchOverPoll) ∧
      Always (Iup.OnlyApproved updatePlatform)
          ((switching updatePlatform, switchOverPoll) :: activationHistory updatePlatform)
          ((switching updatePlatform).step updatePlatform switchOverPoll) ∧
        ∀ x ∈ (switching updatePlatform, switchOverPoll) :: activationHistory updatePlatform,
          x.1.Failed → ¬Iup.Initialises x → (x.1.step updatePlatform x.2).Failed :=
  ⟨by decide +kernel, only_approved_activated (by decide) (by decide) (by decide)
    (.next switchOverPoll (Run.history _ _ activation)) careful_activation⟩

theorem not_only_approved_activated :
    ¬∀ (host : IupPlatform) (s t : Iup) (h : List (Iup × IupEvent)), host.Sound → host.Apart →
      ¬s.HasRecord host → Run (fun e t => t.step host e) (s.restart host) h t →
        Always (Iup.OnlyApproved host) h t := by
  intro hall
  let host : IupPlatform := { updatePlatform with verifyLoadFirmware := fun _ => false }
  have halways := hall host waitingUpdate _ _ (by decide) (by decide) (by decide)
    (.next switchOverPoll (Run.history _ _ activation))
  have happroved : Iup.Approved host (activationHistory host) (switching host) :=
    halways.1 (by decide +kernel)
  exact absurd happroved.verified (by decide +kernel)

end LonStack
