import LonStack.NetMgmt.Memory
import LonStack.NetMgmt.ReadBack

namespace LonStack

open Lib

inductive MemoryCommand
  | readMemory
  | writeMemory
  | queryId
  deriving DecidableEq, Repr

/-- Facts of the process: EEPROM, memory map and the pointer to the memory map are variables of
their own, none of them in the first 64 KiB, the EEPROM holds the tables and the log, and
`IzotTranslateWindowArea` has one address for reading and for writing, which is not in the EEPROM. -/
structure MemoryHost.Sound (host : MemoryHost) (gp : AppData) : Prop where
  log_lt : EEPROM.nodeState < host.sizeofEEPROM
  resetCause_lt : host.resetCause < host.sizeofNmMap
  mapped : 2 ^ 16 ≤ gp.eep
  nmpVar_mapped : 2 ^ 16 ≤ host.nmpVar
  apart : gp.nmp + host.sizeofNmMap ≤ gp.eep ∨ gp.eep + host.sizeofEEPROM ≤ gp.nmp
  nmpVar_eep : host.nmpVar < gp.eep ∨ gp.eep + host.sizeofEEPROM ≤ host.nmpVar
  nmpVar_ne : host.nmpVar ≠ gp.nmp
  translate_eq {addr size a b : Nat} :
    host.translate false addr size = some a → host.translate true addr size = some b → a = b
  translate_apart {addr size a : Nat} :
    host.translate true addr size = some a → a + size ≤ gp.eep ∨ gp.eep + host.sizeofEEPROM ≤ a

namespace AppData

variable (gp : AppData) (host : MemoryHost)

/-- The range lies in the read-only data and the configuration data, which follow each other. -/
def InReadable (memp count : Nat) : Prop :=
  gp.readOnlyData ≤ memp ∧ memp + count ≤ gp.domainTable 0

def InConfigData (memp count : Nat) : Prop :=
  gp.configData ≤ memp ∧ memp + count ≤ gp.domainTable 0

def RoomToRespond : Prop := gp.tsaRespQ.queueEntries + 1 < gp.tsaRespQ.queueCapacity

instance : Decidable gp.RoomToRespond := inferInstanceAs (Decidable (_ < _))

end AppData

namespace MemoryCommand

open AppData

variable (c : MemoryCommand) (host : MemoryHost) (gp : AppData) (p : APPReceiveParam) (apdu : Apdu)

def code : MemoryCommand → UInt8
  | readMemory => NM_READ_MEMORY
  | writeMemory => NM_WRITE_MEMORY
  | queryId => NM_QUERY_ID

def run : AppData :=
  match c with
  | readMemory => gp.handleNMReadMemory host p apdu
  | writeMemory => gp.handleNMWriteMemory host p apdu
  | queryId => gp.handleNMQueryId p apdu

/-- `QueueWrite` is called for a response. -/
def responds : Bool :=
  let failure := p.service = .request ∧ gp.tsaRespQ.full = false ∧
    (nmndData .nm apdu).length + 1 ≤ gp.tsaRespBufSize
  match c with
  | readMemory => (p.pduSize < 5 ∨ gp.tsaRespBufSize < readCount apdu) → failure
  | writeMemory => failure
  | queryId => ((p.pduSize ≠ 2 ∧ p.pduSize < 6) ∨
      (2 < p.pduSize ∧ p.pduSize ≠ 6 + queryIdCount apdu)) → failure

def LogsFull : Prop := c.responds gp p apdu = true ∧ ¬gp.RoomToRespond

instance : Decidable (c.LogsFull gp p apdu) := inferInstanceAs (Decidable (_ ∧ _))

/-- The handler with the error that `QueueWrite` logs, at its end, when the queue of responses takes
no more. -/
def handle : AppData :=
  if c.LogsFull gp p apdu then (c.run host gp p apdu).osalPrintLog .noBufferAvailable
  else c.run host gp p apdu

def Answers (r : TSASendParam) : Prop :=
  (c.handle host gp p apdu).tsaRespQ.toList = gp.tsaRespQ.toList ++ [r]

/-- The command goes to the direct memory files. -/
def ToFiles : Prop :=
  readMode apdu = ABSOLUTE_MEM_ADDR ∧ host.inDmfWindow (readOffset apdu) (readCount apdu)

instance : Decidable (ToFiles host apdu) := inferInstanceAs (Decidable (_ ∧ _))

def ReadDone (r : TSASendParam) : Prop :=
  r.apdu.head? = some (NM_resp_success ||| NM_READ_MEMORY) ∧ r.apdu.length = 1 + readCount apdu

def LocationZero : Prop :=
  readMode apdu = ABSOLUTE_MEM_ADDR ∧ readOffset apdu = 0 ∧ readCount apdu = 1

def ReadWindow : Prop :=
  gp.readWriteProtect → 5 ≤ p.pduSize → ∀ r, readMemory.Answers host gp p apdu r →
    (ReadDone apdu r ↔
      ¬ToFiles host apdu ∧
        (gp.InReadable (gp.readMemp (readMode apdu) (readOffset apdu)) (readCount apdu) ∨
          LocationZero apdu))

def writeAddress : Option Nat :=
  if readMode apdu = ABSOLUTE_MEM_ADDR ∧ host.inDmfWindow (readOffset apdu) (readCount apdu) then
    host.translate true (readOffset apdu) (readCount apdu)
  else gp.writeMemp (readMode apdu) (readOffset apdu)

def WriteAccepted : Prop := (gp.writeMemory host p apdu).1 = .noError

instance : Decidable (WriteAccepted host gp p apdu) := inferInstanceAs (Decidable (_ = _))

def WriteComplete : Prop :=
  6 + readCount apdu ≤ p.pduSize ∧ (p.pduSize = 6 + readCount apdu ∨ p.pduSize = 17)

def WriteWindow : Prop :=
  gp.readWriteProtect →
    (WriteAccepted host gp p apdu ↔
      WriteComplete p apdu ∧ ¬ToFiles host apdu ∧
        ∃ memp, gp.writeMemp (readMode apdu) (readOffset apdu) = some memp ∧
          gp.InConfigData memp (readCount apdu))

def Matches (memp : Nat) : Prop :=
  ∀ k < queryIdCount apdu, apdu (6 + k) = gp.mem (memp + k)

def QueryIdWindow : Prop :=
  ∀ memp r, p.pduSize = 6 + queryIdCount apdu → gp.queryIdSelected (apdu.data 0) = some true →
    gp.queryIdMemp (queryIdMode apdu) (queryIdOffset apdu) = some memp →
      queryId.Answers host gp p apdu r →
        (gp.InReadable memp (queryIdCount apdu) ∧ Matches gp apdu memp →
          r.nullResponse = false ∧ r.apdu = (NM_resp_success ||| NM_QUERY_ID) :: gp.idBytes) ∧
        (gp.InReadable memp (queryIdCount apdu) ∧ ¬Matches gp apdu memp →
          r.nullResponse = true) ∧
        (¬gp.InReadable memp (queryIdCount apdu) →
          r.nullResponse = false ∧ r.apdu = [NM_resp_failure ||| NM_QUERY_ID])

def Window : Prop :=
  match c with
  | readMemory => ReadWindow host gp p apdu
  | writeMemory => WriteWindow host gp p apdu
  | queryId => QueryIdWindow host gp p apdu

/-- The bytes that the form of a write changes by itself. -/
def Touched (a : Nat) : Prop :=
  (writeForm apdu &&& CNFG_CS_RECALC ≠ 0 ∧ a = gp.configCheckSum) ∨
    (writeForm apdu &&& ACTION_RESET ≠ 0 ∧ a = gp.nmp + host.resetCause)

/-- A write stores its data at `memp` and changes nothing else, but for the bytes that its form asks
to change, and a read of the range gives the data back. -/
structure Stores (memp : Nat) : Prop where
  complete : 6 + readCount apdu ≤ p.pduSize
  stored (a : Nat) : (Touched host gp apdu a → memp ≤ a ∧ a < memp + readCount apdu) →
    (writeMemory.handle host gp p apdu).mem a = gp.mem.copy memp apdu 6 (readCount apdu) a
  readBack (q : Queue TSASendParam) (p' : APPReceiveParam) (apdu' : Apdu) (r : TSASendParam) :
    5 ≤ p'.pduSize → (∀ k < 4, apdu'.data k = apdu.data k) →
      readMemory.Answers host ((writeMemory.handle host gp p apdu).withQueue q) p' apdu' r →
        ReadDone apdu' r → ∀ k < readCount apdu, r.apdu[1 + k]? = some (apdu (6 + k))

structure Respects : Prop where
  /-- Nothing behind the PDU counts. -/
  within (apdu' : Apdu) : apdu' 0 = apdu 0 → (∀ k < p.pduSize, apdu' k = apdu k) →
    c.handle host gp p apdu' = c.handle host gp p apdu
  fits (r : TSASendParam) : c.Answers host gp p apdu r → r.apdu.length ≤ gp.tsaRespBufSize
  window : c.Window host gp p apdu
  stores : c = writeMemory → WriteAccepted host gp p apdu →
    ∃ memp, writeAddress host gp apdu = some memp ∧ Stores host gp p apdu memp
  rejected : (c = writeMemory → ¬WriteAccepted host gp p apdu) →
    (c.handle host gp p apdu).mem = gp.mem

/-- The read passes the tests of its location. -/
def ReadServed : Prop :=
  if ToFiles host apdu then (host.translate false (readOffset apdu) (readCount apdu)).isSome = true
  else gp.readWriteProtect →
    gp.readAllowed host (gp.readMemp (readMode apdu) (readOffset apdu)) (readCount apdu) = true

/-- A read that fills the buffer of the response leaves no room for the code. With the flag on, the
direct memory files are read all the same, the pointer to the memory map is read in place of
location 0, and a range that ends with the configuration data is refused. -/
structure ReadGuarded : Prop where
  fits : readCount apdu = gp.tsaRespBufSize → ¬ReadServed host gp apdu
  files : gp.readWriteProtect → readCount apdu ≤ gp.tsaRespBufSize → ToFiles host apdu →
    host.translate false (readOffset apdu) (readCount apdu) = none
  zero : gp.readWriteProtect → ¬ToFiles host apdu → ¬LocationZero apdu
  pointer : gp.readWriteProtect → ¬ToFiles host apdu →
    ¬(gp.readMemp (readMode apdu) (readOffset apdu) = host.nmpVar ∧ readCount apdu = 1)
  last : gp.readWriteProtect → ¬ToFiles host apdu →
    gp.readOnlyData ≤ gp.readMemp (readMode apdu) (readOffset apdu) →
      gp.readMemp (readMode apdu) (readOffset apdu) + readCount apdu ≠ gp.domainTable 0

/-- The tests of a write let it go to `memp`. -/
structure WritesTo (memp : Nat) : Prop where
  long : 6 ≤ p.pduSize
  size : p.pduSize = 6 + readCount apdu ∨ p.pduSize = 17
  files : ToFiles host apdu → host.translate true (readOffset apdu) (readCount apdu) = some memp
  mapped : ¬ToFiles host apdu → gp.writeMemp (readMode apdu) (readOffset apdu) = some memp
  inRange : ¬ToFiles host apdu → gp.writeInRange host memp (readCount apdu)
  allowed : ¬ToFiles host apdu → gp.readWriteProtect → gp.writeAllowed memp (readCount apdu)

/-- Where the code takes the data of a write from. For the direct memory files that is behind all
four bytes of the form. -/
def dataAt : Nat := if ToFiles host apdu then 9 else 6

def withData (memp : Nat) : AppData :=
  gp.setMem (gp.mem.copy memp apdu (dataAt host apdu) (readCount apdu))

/-- The data that is written lies in the PDU right behind the form, what the form changes is what
the data says, and the data looks like what a read shows of it: location 0 as the version of the
firmware, and the input clock as a slow one. -/
structure KeepsData (memp : Nat) : Prop where
  complete : 6 + readCount apdu ≤ p.pduSize
  window : gp.readWriteProtect → ¬ToFiles host apdu
  data : ∀ k < readCount apdu, ¬Touched host gp apdu (memp + k) →
    dataAt host apdu + k < p.pduSize ∧ apdu (dataAt host apdu + k) = apdu (6 + k)
  checkSum : writeForm apdu &&& CNFG_CS_RECALC ≠ 0 → ∀ k < readCount apdu,
    memp + k = gp.configCheckSum → (withData host gp apdu memp).computeConfigCheckSum = apdu (6 + k)
  resetCause : writeForm apdu &&& ACTION_RESET ≠ 0 → ∀ k < readCount apdu,
    memp + k = gp.nmp + host.resetCause → IzotSoftwareReset = apdu (6 + k)
  version : ¬ToFiles host apdu → memp = gp.nmp → readCount apdu = 1 →
    apdu 6 = BASE_FIRMWARE_VERSION
  log : writeMemory.LogsFull gp p apdu →
    (withData host gp apdu memp).errorLog = LonStatusCode.noBufferAvailable.code
  clock : ¬ToFiles host apdu → readCount apdu ≤ gp.tsaRespBufSize →
    ((withData host gp apdu memp).readWriteProtect → gp.readAllowed host memp (readCount apdu)) →
      ∀ k < readCount apdu, memp + k = gp.configData + IzotConfigData.clock →
        IZOT_CONFIG_INPUT_CLOCK.put (apdu (6 + k)) 0 = apdu (6 + k)

/-- With the flag on, a range that ends with the configuration data is refused. -/
structure WriteGuarded : Prop where
  keeps (memp : Nat) : WritesTo host gp p apdu memp → KeepsData host gp p apdu memp
  log : (∀ memp, ¬WritesTo host gp p apdu memp) → writeMemory.LogsFull gp p apdu →
    gp.errorLog = LonStatusCode.noBufferAvailable.code
  last (memp : Nat) : gp.readWriteProtect → WriteComplete p apdu → ¬ToFiles host apdu →
    gp.writeMemp (readMode apdu) (readOffset apdu) = some memp → gp.configData ≤ memp →
      memp + readCount apdu ≠ gp.domainTable 0

/-- The range is tested with the low byte of the offset in place of the size. -/
def QueryGuarded : Prop :=
  p.pduSize = 6 + queryIdCount apdu → gp.queryIdSelected (apdu.data 0) = some true →
    ∀ memp, gp.queryIdMemp (queryIdMode apdu) (queryIdOffset apdu) = some memp →
      gp.readOnlyData ≤ memp →
        (memp + (apdu.data 3).toNat < gp.domainTable 0 ↔
          memp + queryIdCount apdu ≤ gp.domainTable 0)

/-- Only a response that is queued can be wrong, and one that is not may be logged as an error. -/
def Guarded : Prop :=
  match c with
  | readMemory =>
    (gp.RoomToRespond → 5 ≤ p.pduSize → ReadGuarded host gp apdu) ∧
      (readMemory.LogsFull gp p apdu → gp.errorLog = LonStatusCode.noBufferAvailable.code)
  | writeMemory => WriteGuarded host gp p apdu
  | queryId =>
    (gp.RoomToRespond → QueryGuarded gp p apdu) ∧
      (queryId.LogsFull gp p apdu → gp.errorLog = LonStatusCode.noBufferAvailable.code)

end MemoryCommand

end LonStack
