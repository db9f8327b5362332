import LonStack.Iup.Md5
import LonStack.Lib.Region
import LonStack.NetMgmt.Respond
import LonStack.Timer

namespace LonStack

open Lib

abbrev NME_IUP_INIT : UInt8 := 0x1C
abbrev NME_IUP_TRANSFER : UInt8 := 0x1D
abbrev NME_IUP_CONFIRM : UInt8 := 0x1E
abbrev NME_IUP_VALIDATE : UInt8 := 0x1F
abbrev NME_IUP_SWITCHOVER : UInt8 := 0x20
abbrev NME_IUP_STATUS : UInt8 := 0x21
abbrev NME_IUP_COMMIT : UInt8 := 0x22

abbrev HOST_PROCESSOR_COMBINED_IMAGE : UInt8 := 0x84

abbrev IUP_INIT_RESULT_SUCCESS : UInt8 := 0x00
abbrev IUP_INIT_RESULT_LARGE_PACKET_SIZE : UInt8 := 0x02
abbrev IUP_INIT_RESULT_INVALID_IMAGE_TYPE : UInt8 := 0x03
abbrev IUP_INIT_RESULT_INVALID_IMAGE_SUBTYPE : UInt8 := 0x04
abbrev IUP_INIT_RESULT_VERSION_INCOMPATIBLE : UInt8 := 0x05
abbrev IUP_INIT_RESULT_MODEL_INCOMPATIBLE : UInt8 := 0x06
abbrev IUP_INIT_RESULT_IMAGE_TOO_LARGE : UInt8 := 0x07
abbrev IUP_INIT_RESULT_PACKET_COUNT_TOO_HIGH : UInt8 := 0x08

abbrev IUP_CONFIRM_RESULT_SUCESS : UInt8 := 0x00
abbrev IUP_CONFIRM_RESULT_PACKET_MISSED : UInt8 := 0x02
abbrev IUP_CONFIRM_RESULT_IMAGE_NOT_VIABLE : UInt8 := 0x03

abbrev DIGEST_TYPE_NONE : UInt8 := 0x00
abbrev DIGEST_TYPE_SUPPORTED : UInt8 := 0x01

abbrev IUP_VALIDATE_RESULT_SUCCESS : UInt8 := 0x00
abbrev IUP_VALIDATE_RESULT_STILL_PENDING : UInt8 := 0x01
abbrev IUP_VALIDATE_RESULT_INVALID_DIGEST : UInt8 := 0x04

abbrev IUP_SWITCHOVER_RESULT_SUCCESS : UInt8 := 0x00
abbrev IUP_SWITCHOVER_RESULT_IMAGE_REJECTED : UInt8 := 0x06
abbrev IUP_SWITCHOVER_DELAY_NOT_SUPPORTED : UInt8 := 0x07

abbrev IUP_STATUS_REJECTION_NONE : UInt8 := 0x00
abbrev IUP_STATUS_REJECTION_VERSION_INCOMPATIBLE : UInt8 := 0x01
abbrev IUP_STATUS_REJECTION_IMAGE_REJECTED : UInt8 := 0x05

abbrev IUP_COMMIT_RESULT_SUCCESS : UInt8 := 0x00
abbrev IUP_COMMIT_RESULT_STILL_PENDING : UInt8 := 0x01
abbrev IUP_COMMIT_RESULT_IMAGE_ALREADY_PRIMARY : UInt8 := 0x03
abbrev IUP_COMMIT_RESULT_FAILED : UInt8 := 0x04

abbrev EEPROM_NOT_WRITTEN : UInt8 := 0xFF
abbrev EEPROM_WRITTEN : UInt8 := 0x01
abbrev EEPROM_BLOCK_SIZE : Nat := 0x1000
abbrev IUP_PERSIST_DATA_VALID : UInt8 := 0x01
abbrev IUP_PACKET_SPACING : UInt16 := 100
abbrev IUP_PACKET_SIZE_SUPPORTED : Nat := 240
abbrev IUP_INIT_IMAGE_UPDATE_INIT_TIMER : UInt16 := 10
abbrev IUP_INIT_FIRMWARE_TIMER_VALUE : UInt32 := 500
abbrev IUP_VALIDATE_FIRMWARE_TIMER_VALUE : UInt32 := 100
abbrev IUP_SWITCHOVER_TIMER_VALUE : UInt32 := 1000
abbrev IUP_COMMIT_FIRMWARE_TIMER_VALUE : UInt32 := 2000
abbrev IUP_COMMIT_RESPONSE_ACTION_TIME : UInt16 := 20
abbrev MAX_PACKET_COUNT_IN_CONFIRM_RESPONSE : Nat := 20
abbrev IZOT_RESET_TIME_AFTER_SWITCHOVER : UInt16 := 60

/-- The flag values. Flags are bytes: they are read back from flash. -/
abbrev iupTrue : UInt8 := 1
abbrev iupFalse : UInt8 := 0

structure ImageIdentifier where
  imgType : UInt8
  imgSubType : UInt8
  imgInstance : Vector UInt8 8
  deriving DecidableEq, Repr, Inhabited

structure IupInitData where
  iupSessionNumber : UInt32
  iupImageLen : UInt32
  iupPacketLen : UInt16
  iupPacketCount : UInt16
  iupImageIdentifier : ImageIdentifier
  deriving DecidableEq, Repr, Inhabited

structure IupPersistent where
  iupMode : UInt8
  initData : IupInitData
  iupConfirmResultSucceed : UInt8
  iupCommitDone : UInt8
  secondaryFlag : UInt8
  deriving DecidableEq, Repr, Inhabited

abbrev sizeofInitData : Nat := 22
abbrev iupPersistDataLen : Nat := 26

def shortBytes (w : UInt16) : List UInt8 := [w.toUInt8, (w >>> 8).toUInt8]

namespace ImageIdentifier

def bytes (ident : ImageIdentifier) : List UInt8 :=
  ident.imgType :: ident.imgSubType :: ident.imgInstance.toList

def ofImage (m : Image) (a : Nat) : ImageIdentifier where
  imgType := m a
  imgSubType := m (a + 1)
  imgInstance := .ofFn fun k => m (a + 2 + k)

end ImageIdentifier

namespace IupInitData

def bytes (d : IupInitData) : List UInt8 :=
  wordBytes d.iupSessionNumber ++ wordBytes d.iupImageLen ++ shortBytes d.iupPacketLen ++
    shortBytes d.iupPacketCount ++ d.iupImageIdentifier.bytes

def ofImage (m : Image) (a : Nat) : IupInitData where
  iupSessionNumber := m.long a
  iupImageLen := m.long (a + 4)
  iupPacketLen := m.short (a + 8)
  iupPacketCount := m.short (a + 10)
  iupImageIdentifier := .ofImage m (a + 12)

end IupInitData

def IupPersistent.ofImage (m : Image) (a : Nat) : IupPersistent where
  iupMode := m a
  initData := .ofImage m (a + 1)
  iupConfirmResultSucceed := m (a + 23)
  iupCommitDone := m (a + 24)
  secondaryFlag := m (a + 25)

namespace Apdu

variable (apdu : Apdu)

def swappedShort (i : Nat) : UInt16 := (apdu.data i).toUInt16 <<< 8 ||| (apdu.data (i + 1)).toUInt16

def swappedLong (i : Nat) : UInt32 :=
  (apdu.data i).toUInt32 <<< 24 ||| (apdu.data (i + 1)).toUInt32 <<< 16 |||
    (apdu.data (i + 2)).toUInt32 <<< 8 ||| (apdu.data (i + 3)).toUInt32

def identifier (i : Nat) : ImageIdentifier := .ofImage apdu (dataOffset + i)

def iupSession : UInt32 := apdu.swappedLong 1

end Apdu

structure RejectionInfo where
  dataLen : UInt8
  type : UInt8
  deriving DecidableEq, Repr, Inhabited

/-- The responses. Numbers stand as they are before they are swapped; a field that is not set is
absent. -/
inductive IupResponse
  | init (subCode resultCode : UInt8) (actionTime pcktSize pcktSpacing : UInt16) (md5 sha : Bool)
      (packetCount : UInt16)
  | confirm (subCode resultCode : UInt8) (pcktNumberColl : List UInt16)
  | validate (subCode resultCode : UInt8) (actionTime : UInt16)
  | switchOver (subCode resultCode : UInt8) (actionTime : UInt16) (rejectInfo : RejectionInfo)
  | status (subCode : UInt8) (statusFlag : Option UInt8) (rejectionCode : UInt8)
      (rejectInfo : RejectionInfo)
  | commit (subCode resultCode : UInt8) (actionTime : UInt16) (rejectInfo : RejectionInfo)
  deriving DecidableEq, Repr

inductive IupStatus
  | invalidParameter
  | iupTransferFailure
  deriving DecidableEq, Repr

inductive IupCall
  | sendResponse (reqId : RequestId) (response : IupResponse)
  | nmndRespond (reqId : RequestId) (sts : IupStatus)
  | partSetActivePartition
  | archReboot
  | erasePersistentNetworkConfig
  | erasePersistentAppData
  deriving DecidableEq, Repr

structure IupPlatform where
  partStart : Nat
  partSize : Nat
  iupFlashOffset : Nat
  verifyLoadFirmware : List UInt8 → Bool

/-- Which calls of the flash driver succeed. A call that fails changes nothing. -/
structure FlashDriver where
  opens : Bool
  erases : Bool
  writes : Bool
  deriving DecidableEq, Repr

structure Iup where
  iupPersistData : IupPersistent
  iupRcvdPckCount : UInt16
  iupImageValidated : Bool
  saltBytes : List UInt8
  digestBytes : List UInt8
  digestmatch : Bool
  md5c : MD5Context
  fileSizeTemp : Nat
  iupInitFirmwareTimer : LonTimer
  iupValidateFirmwareTimer : LonTimer
  iupMd5EventTimer : LonTimer
  iupSwitchOverTimer : LonTimer
  iupCommitFirmwareTimer : LonTimer
  flash : Image
  calls : List IupCall

namespace IupPlatform

variable (host : IupPlatform)

def markerAt (packetNumber : UInt16) : Nat :=
  (host.iupFlashOffset + iupPersistDataLen + packetNumber.toNat + (2 ^ 32 - 1)) % 2 ^ 32

def packetAt (packetLen packetNumber : UInt16) : Nat :=
  (host.partStart + 2 ^ 32 + packetNumber.toNat * packetLen.toNat - packetLen.toNat) % 2 ^ 32

end IupPlatform

namespace Iup

variable (host : IupPlatform) (now : UInt32) (p : APPReceiveParam) (apdu : Apdu) (s : Iup)

def initData : IupInitData := s.iupPersistData.initData

def call (c : IupCall) : Iup := { s with calls := s.calls ++ [c] }

def setInitData (d : IupInitData) : Iup :=
  { s with iupPersistData := { s.iupPersistData with initData := d } }

def writeFlash (a : Nat) (bytes : List UInt8) : Iup := { s with flash := s.flash.write a bytes }

def isPacketMissed (packetNumber : UInt16) : Bool :=
  s.flash (host.markerAt packetNumber) = EEPROM_NOT_WRITTEN

def eraseIupPersistData : Iup :=
  { s with flash := s.flash.fill host.iupFlashOffset EEPROM_BLOCK_SIZE 0xFF }

def readIupPersistData : Iup :=
  if s.flash host.iupFlashOffset = IUP_PERSIST_DATA_VALID then
    let persist := IupPersistent.ofImage s.flash host.iupFlashOffset
    { s with
      iupPersistData := persist
      iupRcvdPckCount :=
        (List.range persist.initData.iupPacketCount.toNat).foldl (fun count k =>
          if s.flash (host.iupFlashOffset + iupPersistDataLen + k) ≠ EEPROM_NOT_WRITTEN then count + 1
          else count) s.iupRcvdPckCount }
  else s

def initUpdateProcess (drv : FlashDriver) : Iup :=
  let s :=
    { s with
      iupPersistData :=
        { s.iupPersistData with
          iupMode := 1
          iupConfirmResultSucceed := iupFalse
          iupCommitDone := iupFalse
          secondaryFlag := iupFalse }
      iupRcvdPckCount := 0
      iupImageValidated := false }
  let s := s.eraseIupPersistData host
  if !drv.opens then s
  else if !drv.erases then s
  else
    let s := { s with flash := s.flash.fill host.partStart host.partSize 0xFF }
    s.writeFlash host.iupFlashOffset (s.iupPersistData.iupMode :: s.initData.bytes)

def image : List UInt8 := s.flash.slice host.partStart s.initData.iupImageLen.toNat

def verifyImage : Bool := host.verifyLoadFirmware (s.image host)

def computeMD5Digest : Iup :=
  let s :=
    if s.verifyImage host then s else { s with iupImageValidated := true, digestmatch := false }
  { s with
    md5c := s.saltBytes.foldl MD5Update MD5Init
    fileSizeTemp := 0
    iupMd5EventTimer := s.iupMd5EventTimer.set now 2 }

def md5Step : Nat :=
  let surPlus := s.initData.iupImageLen.toNat % 128
  if s.initData.iupImageLen.toNat - s.fileSizeTemp = surPlus then surPlus else 128

def calculateMD5 : Iup :=
  if s.fileSizeTemp < s.initData.iupImageLen.toNat then
    { s with
      md5c := (s.flash.slice (s.fileSizeTemp + host.partStart) s.md5Step).foldl MD5Update s.md5c
      fileSizeTemp := s.fileSizeTemp + s.md5Step
      iupMd5EventTimer := s.iupMd5EventTimer.set now 2 }
  else
    { s with
      md5c := default
      digestmatch := MD5Final s.md5c == s.digestBytes
      iupImageValidated := true
      fileSizeTemp := 0 }

def switchOverImage : Iup :=
  if s.iupPersistData.secondaryFlag = 0 then (s.call .partSetActivePartition).call .archReboot else s

def commitImage : Iup :=
  if s.iupPersistData.iupCommitDone = 0 then
    let s := s.call .partSetActivePartition
    let s := { s with iupPersistData := { s.iupPersistData with iupCommitDone := iupTrue } }
    (s.writeFlash (host.iupFlashOffset + 24) [s.iupPersistData.iupCommitDone]).call .archReboot
  else s

def packetCountFor (imageLen : UInt32) : UInt16 :=
  let count := UInt16.ofNat (imageLen.toNat / IUP_PACKET_SIZE_SUPPORTED)
  if imageLen.toNat % IUP_PACKET_SIZE_SUPPORTED ≠ 0 then count + 1 else count

def isEmpty (bytes : List UInt8) : Bool := bytes.all (· == 0)

def headerResult (resultCode : UInt8) (header : List UInt8) : UInt8 :=
  if isEmpty header then resultCode
  else
    let resultCode :=
      if header.getD 0 0 ≠ 0xC5 ∨ (header.drop 2).take 4 ≠ [0, 0, 0, 1] ∨
          (header.drop 6).take 2 ≠ [0, 2] then IUP_INIT_RESULT_MODEL_INCOMPATIBLE
      else resultCode
    if header.getD 1 0 ≠ 0 ∨ header.getD 10 0 ≠ 0 then IUP_INIT_RESULT_VERSION_INCOMPATIBLE
    else resultCode

def requestedInitData : IupInitData :=
  let imageLen := apdu.swappedLong 19
  let large := IUP_PACKET_SIZE_SUPPORTED < (apdu.swappedShort 15).toNat
  { iupSessionNumber := apdu.swappedLong 1
    iupImageLen := imageLen
    iupPacketLen := if large then 240 else apdu.swappedShort 15
    iupPacketCount := if large then packetCountFor imageLen else apdu.swappedShort 17
    iupImageIdentifier := apdu.identifier 5 }

def handleNmeIupInit : Iup :=
  if p.pduSize ≠ 40 then s.call (.nmndRespond p.reqId .invalidParameter)
  else
    let respond (s : Iup) (resultCode : UInt8) (actionTime pcktSize packetCount : UInt16) :=
      s.call (.sendResponse p.reqId (.init (apdu.data 0) resultCode actionTime pcktSize
        IUP_PACKET_SPACING true false packetCount))
    let ident := apdu.identifier 5
    if ident.imgType ≠ HOST_PROCESSOR_COMBINED_IMAGE then
      respond s IUP_INIT_RESULT_INVALID_IMAGE_TYPE 0 0 0
    else if ident.imgSubType ≠ HOST_PROCESSOR_COMBINED_IMAGE then
      respond s IUP_INIT_RESULT_INVALID_IMAGE_SUBTYPE 0 0 0
    else if host.partSize < (apdu.swappedLong 19).toNat then
      respond s IUP_INIT_RESULT_IMAGE_TOO_LARGE 0 0 0
    else
      let s := s.setInitData (requestedInitData apdu)
      let large := IUP_PACKET_SIZE_SUPPORTED < (apdu.swappedShort 15).toNat
      let pcktSize : UInt16 := if large then 240 else 0
      if 4096 - iupPersistDataLen < s.initData.iupPacketCount.toNat then
        respond s IUP_INIT_RESULT_PACKET_COUNT_TOO_HIGH IUP_INIT_IMAGE_UPDATE_INIT_TIMER pcktSize 1
      else
        let resultCode :=
          if large then IUP_INIT_RESULT_LARGE_PACKET_SIZE else IUP_INIT_RESULT_SUCCESS
        let resultCode := headerResult resultCode (apdu.slice (Apdu.dataOffset + 23) 16)
        let s :=
          { s with
            iupInitFirmwareTimer := s.iupInitFirmwareTimer.set now IUP_INIT_FIRMWARE_TIMER_VALUE }
        respond s resultCode IUP_INIT_IMAGE_UPDATE_INIT_TIMER pcktSize 0

def handleNmeIupTransfer (drv : FlashDriver) : Iup :=
  if p.pduSize ≤ 8 then s
  else if apdu.iupSession ≠ s.initData.iupSessionNumber then s
  else if s.iupPersistData.iupConfirmResultSucceed = iupTrue then s
  else
    let newPckNum := apdu.swappedShort 5
    if !s.isPacketMissed host newPckNum then s
    else if !drv.writes then s
    else
      let len := s.initData.iupPacketLen
      let s := s.writeFlash (host.packetAt len newPckNum) (apdu.slice (Apdu.dataOffset + 7) len.toNat)
      let s := { s with iupRcvdPckCount := s.iupRcvdPckCount + 1 }
      s.writeFlash (host.markerAt newPckNum) [EEPROM_WRITTEN]

def missedPackets : List UInt16 :=
  (((List.range s.initData.iupPacketCount.toNat).filter fun k =>
    s.flash (host.iupFlashOffset + iupPersistDataLen + k) = EEPROM_NOT_WRITTEN).take
      MAX_PACKET_COUNT_IN_CONFIRM_RESPONSE).map fun k => UInt16.ofNat (k + 1)

def handleNmeIupConfirm : Iup :=
  if p.pduSize ≠ 6 then s.call (.nmndRespond p.reqId .invalidParameter)
  else if apdu.iupSession ≠ s.initData.iupSessionNumber then s
  else
    let respond (s : Iup) (resultCode : UInt8) (pcktNumberColl : List UInt16) :=
      s.call (.sendResponse p.reqId (.confirm (apdu.data 0) resultCode pcktNumberColl))
    if s.iupRcvdPckCount.toNat < 80 * s.initData.iupPacketCount.toNat / 100 then
      respond s IUP_CONFIRM_RESULT_IMAGE_NOT_VIABLE []
    else if s.initData.iupPacketCount = s.iupRcvdPckCount then
      let s :=
        { s with
          iupPersistData := { s.iupPersistData with iupConfirmResultSucceed := iupTrue } }
      let s := s.writeFlash (host.iupFlashOffset + 23) [s.iupPersistData.iupConfirmResultSucceed]
      respond s IUP_CONFIRM_RESULT_SUCESS []
    else if s.missedPackets host = [] then respond s IUP_CONFIRM_RESULT_SUCESS []
    else respond s IUP_CONFIRM_RESULT_PACKET_MISSED (s.missedPackets host)

def handleNmeIupValidate : Iup :=
  if apdu.iupSession ≠ s.initData.iupSessionNumber then s
  else
    let respond (s : Iup) (resultCode : UInt8) (actionTime : UInt16) :=
      s.call (.sendResponse p.reqId (.validate (apdu.data 0) resultCode actionTime))
    if apdu.data 5 = DIGEST_TYPE_NONE then
      if p.pduSize ≠ 7 then s.call (.nmndRespond p.reqId .invalidParameter)
      else respond s IUP_VALIDATE_RESULT_SUCCESS 0
    else if apdu.data 5 ≠ DIGEST_TYPE_SUPPORTED then respond s IUP_VALIDATE_RESULT_INVALID_DIGEST 0
    else if s.iupImageValidated then
      respond s (if s.digestmatch then IUP_VALIDATE_RESULT_SUCCESS
        else IUP_VALIDATE_RESULT_INVALID_DIGEST) 0
    else
      let s :=
        { s with
          saltBytes := apdu.slice (Apdu.dataOffset + 6) 16
          digestBytes := apdu.slice (Apdu.dataOffset + 22) 16
          iupValidateFirmwareTimer :=
            s.iupValidateFirmwareTimer.set now IUP_VALIDATE_FIRMWARE_TIMER_VALUE }
      respond s IUP_VALIDATE_RESULT_STILL_PENDING 60

def handleNmeIupSwitchOver : Iup :=
  if p.pduSize ≠ 18 then s.call (.nmndRespond p.reqId .invalidParameter)
  else
    let respond (s : Iup) (resultCode : UInt8) (actionTime : UInt16) :=
      s.call (.sendResponse p.reqId (.switchOver (apdu.data 0) resultCode actionTime ⟨0, 0⟩))
    let flags := apdu.data 1
    if !s.iupImageValidated then respond s IUP_SWITCHOVER_RESULT_IMAGE_REJECTED 0
    else
      let s :=
        if flags &&& 0x01 ≠ 0 then
          let s := { s with iupPersistData := { s.iupPersistData with secondaryFlag := iupTrue } }
          s.writeFlash (host.iupFlashOffset + 25) [s.iupPersistData.secondaryFlag]
        else s
      if apdu.swappedLong 2 ≠ 0 then respond s IUP_SWITCHOVER_DELAY_NOT_SUPPORTED 0
      else
        let s :=
          if flags &&& 0x02 = 0 then s.call .erasePersistentNetworkConfig
          else if flags &&& 0x04 = 0 then s.call .erasePersistentAppData
          else s
        let s :=
          { s with
            iupSwitchOverTimer := s.iupSwitchOverTimer.set now (1 * IUP_SWITCHOVER_TIMER_VALUE) }
        respond s IUP_SWITCHOVER_RESULT_SUCCESS IZOT_RESET_TIME_AFTER_SWITCHOVER

def handleNmeIupStatus : Iup :=
  if p.pduSize ≠ 12 then s.call (.nmndRespond p.reqId .invalidParameter)
  else
    let respond (s : Iup) (statusFlag : Option UInt8) (rejectionCode : UInt8) :=
      s.call (.sendResponse p.reqId (.status (apdu.data 0) statusFlag rejectionCode ⟨0, 0⟩))
    if apdu.identifier 1 ≠ s.initData.iupImageIdentifier then
      respond (s.eraseIupPersistData host) none IUP_STATUS_REJECTION_VERSION_INCOMPATIBLE
    else if s.iupPersistData.iupCommitDone ≠ 0 then
      respond (s.eraseIupPersistData host) (some 0x05) IUP_STATUS_REJECTION_NONE
    else if s.iupPersistData.secondaryFlag = 0 then
      respond (s.eraseIupPersistData host) (some 0x00) IUP_STATUS_REJECTION_IMAGE_REJECTED
    else respond s (some 0x07) IUP_STATUS_REJECTION_NONE

def handleNmeIupCommit : Iup :=
  if p.pduSize ≠ 13 then
    (s.eraseIupPersistData host).call (.nmndRespond p.reqId .iupTransferFailure)
  else
    let respond (s : Iup) (resultCode : UInt8) (actionTime : UInt16) :=
      s.call (.sendResponse p.reqId (.commit (apdu.data 0) resultCode actionTime ⟨0, 0⟩))
    if apdu.identifier 2 ≠ s.initData.iupImageIdentifier then
      respond (s.eraseIupPersistData host) IUP_COMMIT_RESULT_FAILED 0
    else if s.iupPersistData.secondaryFlag ≠ 0 then
      if s.iupPersistData.iupCommitDone = 0 then
        let s :=
          { s with
            iupCommitFirmwareTimer :=
              s.iupCommitFirmwareTimer.set now IUP_COMMIT_FIRMWARE_TIMER_VALUE }
        respond s IUP_COMMIT_RESULT_STILL_PENDING IUP_COMMIT_RESPONSE_ACTION_TIME
      else respond (s.eraseIupPersistData host) IUP_COMMIT_RESULT_SUCCESS 0
    else respond (s.eraseIupPersistData host) IUP_COMMIT_RESULT_IMAGE_ALREADY_PRIMARY 0

end Iup

inductive IupTimer
  | initFirmware
  | validateFirmware
  | md5Event
  | switchOver
  | commitFirmware
  deriving DecidableEq, Repr

inductive IupEvent
  | message (now : UInt32) (drv : FlashDriver) (p : APPReceiveParam) (apdu : Apdu)
  | poll (now : UInt32) (drv : FlashDriver) (t : IupTimer)

namespace Iup

variable (host : IupPlatform) (now : UInt32) (drv : FlashDriver) (s : Iup)

def timer : IupTimer → LonTimer
  | .initFirmware => s.iupInitFirmwareTimer
  | .validateFirmware => s.iupValidateFirmwareTimer
  | .md5Event => s.iupMd5EventTimer
  | .switchOver => s.iupSwitchOverTimer
  | .commitFirmware => s.iupCommitFirmwareTimer

def setTimer (t : IupTimer) (timer : LonTimer) : Iup :=
  match t with
  | .initFirmware => { s with iupInitFirmwareTimer := timer }
  | .validateFirmware => { s with iupValidateFirmwareTimer := timer }
  | .md5Event => { s with iupMd5EventTimer := timer }
  | .switchOver => { s with iupSwitchOverTimer := timer }
  | .commitFirmware => { s with iupCommitFirmwareTimer := timer }

def onExpired : IupTimer → Iup
  | .initFirmware => s.initUpdateProcess host drv
  | .validateFirmware => s.computeMD5Digest host now
  | .md5Event => s.calculateMD5 host now
  | .switchOver => if s.iupImageValidated then s.switchOverImage else s
  | .commitFirmware => s.commitImage host

def expires (t : IupTimer) : Bool := ((s.timer t).expired now).1

def poll (t : IupTimer) : Iup :=
  let s' := s.setTimer t ((s.timer t).expired now).2
  if s.expires now t then s'.onExpired host now drv t else s'

def handleNMExpanded (p : APPReceiveParam) (apdu : Apdu) : Iup :=
  if apdu.data 0 = NME_IUP_INIT then s.handleNmeIupInit host now p apdu
  else if apdu.data 0 = NME_IUP_TRANSFER then s.handleNmeIupTransfer host p apdu drv
  else if apdu.data 0 = NME_IUP_CONFIRM then s.handleNmeIupConfirm host p apdu
  else if apdu.data 0 = NME_IUP_VALIDATE then s.handleNmeIupValidate now p apdu
  else if apdu.data 0 = NME_IUP_SWITCHOVER then s.handleNmeIupSwitchOver host now p apdu
  else if apdu.data 0 = NME_IUP_STATUS then s.handleNmeIupStatus host p apdu
  else if apdu.data 0 = NME_IUP_COMMIT then s.handleNmeIupCommit host now p apdu
  else s

def step (e : IupEvent) : Iup :=
  match e with
  | .message now drv p apdu => s.handleNMExpanded host now drv p apdu
  | .poll now drv t => s.poll host now drv t

end Iup

end LonStack
