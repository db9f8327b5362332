import LonStack.Lib.Image
import LonStack.Types

namespace LonStack

open Lib

def wordBytes (w : UInt32) : List UInt8 :=
  [w.toUInt8, (w >>> 8).toUInt8, (w >>> 16).toUInt8, (w >>> 24).toUInt8]

theorem wordBytes_long (m : Image) (a : Nat) :
    wordBytes (m.long a) = [m a, m (a + 1), m (a + 2), m (a + 3)] := by
  have h0 := (m a).toNat_lt
  have h1 := (m (a + 1)).toNat_lt
  have h2 := (m (a + 2)).toNat_lt
  have h3 := (m (a + 3)).toNat_lt
  have hn : (m.long a).toNat = (m a).toNat + 0x100 * (m (a + 1)).toNat +
      0x10000 * (m (a + 2)).toNat + 0x1000000 * (m (a + 3)).toNat := by
    rw [Image.long, UInt32.toNat_ofNat_of_lt']
    change _ < 2 ^ 32
    omega
  have h8 : (8 : UInt32).toNat % 32 = 8 := rfl
  have h16 : (16 : UInt32).toNat % 32 = 16 := rfl
  have h24 : (24 : UInt32).toNat % 32 = 24 := rfl
  have hb (b : UInt8) (w : UInt32) (h : w.toNat % 256 = b.toNat) : w.toUInt8 = b :=
    UInt8.toNat.inj ((UInt32.toNat_toUInt8 w).trans h)
  rw [wordBytes, hb (m a) (m.long a), hb (m (a + 1)) (m.long a >>> 8),
    hb (m (a + 2)) (m.long a >>> 16), hb (m (a + 3)) (m.long a >>> 24)]
  all_goals
    simp only [UInt32.toNat_shiftRight, h8, h16, h24, Nat.shiftRight_eq_div_pow, hn]
    omega
namespace LonStatusCode

def code : LonStatusCode → UInt32
  | .noError => 0
  | .invalidInterfaceId => 5
  | .noBufferAvailable => 7
  | .invalidBufferLength => 9
  | .readFailed => 14
  | .writeFailed => 15
  | .invalidParameter => 27
  | .frameError => 35
  | .invalidBufferCount => 42
  | .bufferSizeTooSmall => 44
  | .noMemoryAvailable => 49
  | .invalidOperation => 56
  | .transactionInProgress => 59
  | .transactionNotAvailable => 60
  | .transactionFailure => 61
  | .modeChangeFailure => 62
  | .dpIndexInvalid => 70
  | .outputDpPropagateFailure => 77
  | .noSpaceInNvTable => 78
  | .invalidNvName => 79
  | .destinationAddressMissing => 80
  | .invalidMessageLength => 82
  | .invalidMessageService => 83
  | .invalidMessageAddress => 86
  | .invalidMessageCommand => 87
  | .invalidMessageMode => 88
  | .lniWriteFailure => 92
  | .txBufferFull => 93
  | .stackNotInitialized => 98
  | .stackInitializationFailure => 99
  | .persistentDataFailure => 111
  | .persistentDataDirError => 113
  | .persistentDataAccessError => 114
  | .iupInvalidParameter => 120
  | .datapointMsgTooShort => 131
  | .eepromWriteFail => 132
  | .badAddressType => 133
  | .invalidDomain => 138
  | .invalidAddrTableIndex => 141
  | .incompleteMsg => 142
  | .invalidDatapointIndex => 147
  | .writePastEndOfNetBuffer => 151
  | .writePastEndOfApplBuffer => 156
  | .authenticationMismatch => 160
  | .invalidBufferSize => 166
  | .invalidNvLength => 169
  | .invalidSelector => 171
  | .invalidSelfDocumentation => 172
  | .noSelectorsAvailable => 174

end LonStatusCode

inductive IzotPersistentSegType
  | networkImage
  | securityII
  | nodeDefinition
  | applicationData
  | uniqueId
  | connectionTable
  | isi
  deriving DecidableEq, Repr, Inhabited

structure CommitTimer where
  persistenceList : IzotPersistentSegType → Bool
  scheduled : Bool
  lastUpdate : UInt64
  deriving Inhabited

namespace CommitTimer

variable (t : CommitTimer)

def segSetCommitFlag (seg : IzotPersistentSegType) : CommitTimer :=
  { t with persistenceList := Function.update t.persistenceList seg true }

def memStartCommitTimer (now : UInt32) : CommitTimer :=
  { t with
    lastUpdate := if t.scheduled then t.lastUpdate else now.toUInt64
    scheduled := true }

end CommitTimer

/-- What `OsalPrintLog` writes. The last error and the copy of the node state are in the network
image. -/
structure EventLog extends CommitTimer where
  errorLog : UInt32
  nodeState : UInt8
  deriving Inhabited

namespace EventLog

variable (nodeState : UInt8) (now : UInt32) (l : EventLog)

def writePersistentNetworkImage : EventLog :=
  { l with
    nodeState := nodeState
    toCommitTimer := (l.segSetCommitFlag .networkImage).memStartCommitTimer now }

/-- Only an error that is not the last one is stored. -/
def osalPrintLog (status : LonStatusCode) : EventLog :=
  if status ≠ .noError ∧ l.errorLog ≠ status.code then
    { l with errorLog := status.code }.writePersistentNetworkImage nodeState now
  else l

def osalPrintLogs (statuses : List LonStatusCode) : EventLog :=
  statuses.foldl (fun l status => l.osalPrintLog nodeState now status) l

variable {nodeState now l}

@[simp] theorem osalPrintLog_noError : l.osalPrintLog nodeState now .noError = l :=
  if_neg fun h => h.1 rfl

theorem osalPrintLog_of_last {status : LonStatusCode} (h : l.errorLog = status.code) :
    l.osalPrintLog nodeState now status = l := if_neg fun hnew => hnew.2 h

theorem osalPrintLog_of_new {status : LonStatusCode} (hstatus : status ≠ .noError)
    (h : l.errorLog ≠ status.code) :
    l.osalPrintLog nodeState now status =
      { l with errorLog := status.code }.writePersistentNetworkImage nodeState now :=
  if_pos ⟨hstatus, h⟩

theorem errorLog_osalPrintLog {status : LonStatusCode} (hstatus : status ≠ .noError) :
    (l.osalPrintLog nodeState now status).errorLog = status.code := by
  by_cases h : l.errorLog = status.code
  case pos => rw [osalPrintLog_of_last h, h]
  case neg =>
    rw [osalPrintLog_of_new hstatus h]
    rfl

theorem osalPrintLog_cases (nodeState : UInt8) (now : UInt32) (l : EventLog)
    (status : LonStatusCode) :
    l.osalPrintLog nodeState now status = l ∨
      ((l.osalPrintLog nodeState now status).errorLog = status.code ∧
        (l.osalPrintLog nodeState now status).nodeState = nodeState ∧
          (l.osalPrintLog nodeState now status).persistenceList .networkImage = true ∧
            (l.osalPrintLog nodeState now status).scheduled = true) := by
  by_cases h : status ≠ .noError ∧ l.errorLog ≠ status.code
  case pos =>
    rw [osalPrintLog_of_new h.1 h.2]
    refine .inr ⟨rfl, rfl, ?_, rfl⟩
    show Function.update l.persistenceList .networkImage true .networkImage = true
    exact Function.update_self ..
  case neg => exact .inl (if_neg h)

theorem persistenceList_osalPrintLog {status : LonStatusCode} {seg : IzotPersistentSegType}
    (hseg : seg ≠ .networkImage) :
    (l.osalPrintLog nodeState now status).persistenceList seg = l.persistenceList seg := by
  unfold osalPrintLog
  split
  case isTrue => exact Function.update_of_ne hseg ..
  case isFalse => rfl

theorem keeps_osalPrintLog (nodeState : UInt8) (now : UInt32) (status : LonStatusCode)
    {seg : IzotPersistentSegType} (h : l.persistenceList seg = true) :
    (l.osalPrintLog nodeState now status).persistenceList seg = true := by
  by_cases hseg : seg = .networkImage
  case pos =>
    subst hseg
    rcases osalPrintLog_cases nodeState now l status with hsame | hnew
    · rw [hsame, h]
    · exact hnew.2.2.1
  case neg => rw [persistenceList_osalPrintLog hseg, h]

end EventLog

end LonStack
