import LonStack.NetMgmt.Windows
import LonStack.NetMgmt.ReadBackLaws

namespace LonStack

open Lib

namespace AppData

variable {gp : AppData} {host : MemoryHost} {p : APPReceiveParam} {apdu apdu' : Apdu}

theorem osalPrintLog_of_last {status : LonStatusCode} (h : gp.errorLog = status.code) :
    gp.osalPrintLog status = gp := by
  rw [osalPrintLog, EventLog.osalPrintLog_of_last h, setEventLog_eventLog]

theorem errorLog_osalPrintLog {status : LonStatusCode} (hstatus : status ≠ .noError) :
    (gp.osalPrintLog status).errorLog = status.code :=
  (errorLog_setEventLog _).trans (EventLog.errorLog_osalPrintLog hstatus)

theorem mem_osalPrintLog (status : LonStatusCode) {a : Nat}
    (h : a < gp.eep + EEPROM.errorLog ∨ gp.eep + EEPROM.nodeState < a) :
    (gp.osalPrintLog status).mem a = gp.mem a :=
  mem_setEventLog _ h

@[simp] theorem mem_writeResponse (reqId : RequestId) (null flex : Bool) (bytes : List UInt8) :
    (gp.writeResponse reqId null flex bytes).mem = gp.mem := rfl

theorem eq_of_writeResponse {reqId : RequestId} {null flex : Bool} {bytes : List UInt8}
    {r : TSASendParam}
    (h : (gp.writeResponse reqId null flex bytes).tsaRespQ.toList = gp.tsaRespQ.toList ++ [r]) :
    r.apdu = bytes ∧ r.nullResponse = null := by
  have hpush : (gp.tsaRespQ.push fun slot => slot.asResponse reqId null flex bytes).toList =
      gp.tsaRespQ.toList ++ [r] := h
  rw [Queue.toList_push] at hpush
  by_cases hroom : gp.tsaRespQ.queueEntries + 1 < gp.tsaRespQ.queueCapacity
  case pos =>
    rw [if_pos hroom] at hpush
    have hr := List.append_cancel_left hpush
    rw [← List.singleton_inj.mp hr]
    exact ⟨rfl, rfl⟩
  case neg =>
    rw [if_neg hroom] at hpush
    exact absurd (congrArg List.length hpush) (by simp)

theorem room_of_writeResponse {reqId : RequestId} {null flex : Bool} {bytes : List UInt8}
    {r : TSASendParam}
    (h : (gp.writeResponse reqId null flex bytes).tsaRespQ.toList = gp.tsaRespQ.toList ++ [r]) :
    gp.RoomToRespond := by
  by_contra hroom
  have hfull := (Queue.toList_push gp.tsaRespQ fun slot =>
    slot.asResponse reqId null flex bytes).trans (if_neg hroom)
  exact absurd (congrArg List.length (hfull.symm.trans h)) (by simp)

theorem exists_writeResponse (hroom : gp.RoomToRespond) (reqId : RequestId) (null flex : Bool)
    (bytes : List UInt8) :
    ∃ r, (gp.writeResponse reqId null flex bytes).tsaRespQ.toList = gp.tsaRespQ.toList ++ [r] ∧
      r.apdu = bytes ∧ r.nullResponse = null :=
  ⟨gp.tsaRespQ.tailSlot.asResponse reqId null flex bytes,
    (Queue.toList_push _ _).trans (if_pos hroom), rfl, rfl⟩

theorem eq_of_nmndRespond {sts : LonStatusCode} {r : TSASendParam}
    (h : (gp.nmndRespond .nm sts p apdu).tsaRespQ.toList = gp.tsaRespQ.toList ++ [r]) :
    r.apdu = (nmndCode .nm sts ||| apdu.nmCode) :: nmndData .nm apdu ∧
      r.apdu.length ≤ gp.tsaRespBufSize := by
  rw [nmndRespond_eq] at h
  by_cases hfit : p.service = .request ∧ (nmndData .nm apdu).length + 1 ≤ gp.tsaRespBufSize
  case pos =>
    simp only [if_pos hfit] at h
    have hwrite : (gp.writeResponse p.reqId false false ((nmndCode .nm sts ||| apdu.nmCode) ::
        nmndData .nm apdu)).tsaRespQ.toList = gp.tsaRespQ.toList ++ [r] := h
    have hr : r.apdu = (nmndCode .nm sts ||| apdu.nmCode) :: nmndData .nm apdu :=
      (eq_of_writeResponse hwrite).1
    exact ⟨hr, hr ▸ hfit.2⟩
  case neg =>
    simp only [if_neg hfit] at h
    exact absurd (congrArg List.length h) (by simp)

theorem mem_nmndRespond (sts : LonStatusCode) : (gp.nmndRespond .nm sts p apdu).mem = gp.mem := by
  rw [nmndRespond_eq]

theorem nmndData_of_code (h : apdu.nmCode ≠ 0) : nmndData .nm apdu = [] := if_neg h

theorem nmndRespond_congr_code {sts : LonStatusCode} (h : apdu.nmCode ≠ 0)
    (h0 : apdu' 0 = apdu 0) : gp.nmndRespond .nm sts p apdu' = gp.nmndRespond .nm sts p apdu := by
  have hcode : apdu'.nmCode = apdu.nmCode := congrArg (· &&& NM_opcode_mask) h0
  rw [nmndRespond_eq, nmndRespond_eq, nmndData_of_code h, nmndData_of_code (hcode ▸ h)]
  have hsub : NtwkMgmtMsgType.subCode .nm apdu' = NtwkMgmtMsgType.subCode .nm apdu := hcode
  rw [hsub]

@[simp] theorem eep_slowClock : gp.slowClock.eep = gp.eep := rfl

theorem put_put (b : UInt8) :
    IZOT_CONFIG_INPUT_CLOCK.put (IZOT_CONFIG_INPUT_CLOCK.put b 0) (IZOT_CONFIG_INPUT_CLOCK.get b) =
      b :=
  forall_byte
    (P := fun b => IZOT_CONFIG_INPUT_CLOCK.put (IZOT_CONFIG_INPUT_CLOCK.put b 0)
      (IZOT_CONFIG_INPUT_CLOCK.get b) = b) (by decide +kernel) b

theorem restoreClock_slowClock :
    gp.slowClock.restoreClock (gp.mem.getAttribute gp.configData IZOT_CONFIG_INPUT_CLOCK) = gp := by
  have hmem : (gp.mem.setAttribute gp.configData IZOT_CONFIG_INPUT_CLOCK 0).setAttribute
      gp.configData IZOT_CONFIG_INPUT_CLOCK
        (gp.mem.getAttribute gp.configData IZOT_CONFIG_INPUT_CLOCK) = gp.mem := by
    funext k
    by_cases hk : k = gp.configData + IZOT_CONFIG_INPUT_CLOCK.field
    case pos =>
      rw [hk, Image.setAttribute, Image.set_self, Image.setAttribute, Image.set_self,
        Image.getAttribute]
      exact put_put _
    case neg =>
      rw [Image.setAttribute, Image.set_of_ne hk, Image.setAttribute, Image.set_of_ne hk]
  exact congrArg gp.setMem hmem

theorem mem_slowClock (a : Nat) :
    gp.slowClock.mem a = if a = gp.configData + IzotConfigData.clock then
      IZOT_CONFIG_INPUT_CLOCK.put (gp.mem a) 0 else gp.mem a := by
  by_cases ha : a = gp.configData + IzotConfigData.clock
  case pos =>
    rw [if_pos ha, ha]
    exact Image.set_self _
  case neg =>
    rw [if_neg ha]
    exact Image.set_of_ne ha

theorem length_readBytes (memp count : Nat) : (gp.readBytes memp count).length = count := by
  rw [readBytes]
  by_cases h : memp = gp.nmp ∧ count = 1
  case pos => rw [if_pos h, h.2, List.length_singleton]
  case neg => rw [if_neg h, Image.length_slice]

def readAnswer (gp : AppData) (host : MemoryHost) (apdu : Apdu) : List UInt8 :=
  if readMode apdu = ABSOLUTE_MEM_ADDR ∧ host.inDmfWindow (readOffset apdu) (readCount apdu) then
    (match host.izotMemoryRead gp.mem (readOffset apdu) (readCount apdu) with
    | some data => (NM_resp_success ||| NM_READ_MEMORY) :: data
    | none => [NM_resp_failure ||| NM_READ_MEMORY])
  else if gp.readWriteProtect ∧
      ¬gp.readAllowed host (gp.readMemp (readMode apdu) (readOffset apdu)) (readCount apdu) then
    [NM_resp_failure ||| NM_READ_MEMORY]
  else
    ((if readMode apdu = MFG_RELATIVE then NM_resp_failure else NM_resp_success) |||
      NM_READ_MEMORY) ::
        gp.slowClock.readBytes (gp.readMemp (readMode apdu) (readOffset apdu)) (readCount apdu)

theorem handleNMReadMemory_eq :
    gp.handleNMReadMemory host p apdu =
      if p.pduSize < 5 ∨ gp.tsaRespBufSize < readCount apdu then
        gp.nmndRespond .nm .invalidMessageLength p apdu
      else gp.writeResponse p.reqId false false (gp.readAnswer host apdu) := by
  unfold handleNMReadMemory readAnswer
  by_cases hshort : p.pduSize < 5 ∨ gp.tsaRespBufSize < readCount apdu
  case pos => rw [if_pos hshort, if_pos hshort]
  case neg =>
    rw [if_neg hshort, if_neg hshort]
    by_cases hfiles :
      readMode apdu = ABSOLUTE_MEM_ADDR ∧ host.inDmfWindow (readOffset apdu) (readCount apdu)
    case pos =>
      exact (if_pos hfiles).trans
        (congrArg (gp.writeResponse p.reqId false false) (if_pos hfiles).symm)
    case neg =>
      rw [if_neg hfiles, if_neg hfiles]
      dsimp only
      split
      case isTrue => rfl
      case isFalse => rw [readMemory, restoreClock_slowClock]

theorem length_readAnswer (gp : AppData) (host : MemoryHost) (apdu : Apdu) :
    (gp.readAnswer host apdu).length ≤ 1 + readCount apdu := by
  unfold readAnswer
  split
  case isTrue =>
    rw [MemoryHost.izotMemoryRead]
    cases host.translate false (readOffset apdu) (readCount apdu) with
    | none => exact Nat.le_add_right 1 _
    | some addr =>
      rw [Option.map_some, List.length_cons, Image.length_slice, Nat.add_comm]
  case isFalse =>
    split
    case isTrue => exact Nat.le_add_right 1 _
    case isFalse => rw [List.length_cons, length_readBytes, Nat.add_comm]

theorem read_congr (h : ∀ k < 4, apdu'.data k = apdu.data k) :
    readMode apdu' = readMode apdu ∧ readOffset apdu' = readOffset apdu ∧
      readCount apdu' = readCount apdu := by
  unfold readMode readOffset readCount Apdu.word
  rw [h 0 (by omega), h 1 (by omega), h 2 (by omega), h 3 (by omega)]
  exact ⟨rfl, rfl, rfl⟩

theorem readAnswer_congr (h : ∀ k < 4, apdu'.data k = apdu.data k) :
    gp.readAnswer host apdu' = gp.readAnswer host apdu := by
  obtain ⟨hmode, hoffset, hcount⟩ := read_congr h
  unfold readAnswer
  rw [hmode, hoffset, hcount]

theorem handleNMReadMemory_congr (hcode : apdu.nmCode ≠ 0) (h0 : apdu' 0 = apdu 0)
    (h : ∀ k < p.pduSize, apdu' k = apdu k) :
    gp.handleNMReadMemory host p apdu' = gp.handleNMReadMemory host p apdu := by
  rw [handleNMReadMemory_eq, handleNMReadMemory_eq]
  by_cases hsize : p.pduSize < 5
  case pos => rw [if_pos (.inl hsize), if_pos (.inl hsize), nmndRespond_congr_code hcode h0]
  case neg =>
    have h4 : ∀ k < 4, apdu'.data k = apdu.data k := fun k hk => h (1 + k) (by omega)
    rw [(read_congr h4).2.2, readAnswer_congr h4, nmndRespond_congr_code hcode h0]

theorem mem_handleNMReadMemory : (gp.handleNMReadMemory host p apdu).mem = gp.mem := by
  rw [handleNMReadMemory_eq]
  by_cases h : p.pduSize < 5 ∨ gp.tsaRespBufSize < readCount apdu
  case pos => rw [if_pos h, mem_nmndRespond]
  case neg => rw [if_neg h, mem_writeResponse]

theorem mem_handleNMWriteMemory :
    (gp.handleNMWriteMemory host p apdu).mem = (gp.writeMemory host p apdu).2.mem := by
  rw [handleNMWriteMemory, mem_nmndRespond]

/-- The memory after the actions that the form asks for. -/
def touch (gp : AppData) (host : MemoryHost) (form : UInt8) : Image :=
  let summed :=
    if form &&& CNFG_CS_RECALC ≠ 0 then gp.mem.set gp.configCheckSum gp.computeConfigCheckSum
    else gp.mem
  if form &&& ACTION_RESET ≠ 0 then summed.set (gp.nmp + host.resetCause) IzotSoftwareReset
  else summed

theorem afterWrite_eq (form : UInt8) :
    gp.afterWrite host form =
      { gp with
        mem := gp.touch host form
        resetNode := gp.resetNode || decide (form &&& ACTION_RESET ≠ 0)
        resetCause := if form &&& ACTION_RESET ≠ 0 then IzotSoftwareReset else gp.resetCause } := by
  unfold afterWrite touch
  dsimp only
  by_cases hreset : form &&& ACTION_RESET ≠ 0
  case pos =>
    rw [if_pos hreset, if_pos hreset, if_pos hreset, decide_eq_true hreset, Bool.or_true]
    by_cases hsum : form &&& CNFG_CS_RECALC ≠ 0
    case pos => rw [if_pos hsum, if_pos hsum]; rfl
    case neg => rw [if_neg hsum, if_neg hsum]
  case neg =>
    rw [if_neg hreset, if_neg hreset, if_neg hreset, decide_eq_false hreset, Bool.or_false]
    by_cases hsum : form &&& CNFG_CS_RECALC ≠ 0
    case pos => rw [if_pos hsum, if_pos hsum]; rfl
    case neg => rw [if_neg hsum, if_neg hsum]

theorem touch_of_not {form : UInt8} {a : Nat}
    (hsum : ¬(form &&& CNFG_CS_RECALC ≠ 0 ∧ a = gp.configCheckSum))
    (hreset : ¬(form &&& ACTION_RESET ≠ 0 ∧ a = gp.nmp + host.resetCause)) :
    gp.touch host form a = gp.mem a := by
  have hsummed : (if form &&& CNFG_CS_RECALC ≠ 0 then
      gp.mem.set gp.configCheckSum gp.computeConfigCheckSum else gp.mem) a = gp.mem a := by
    by_cases h : form &&& CNFG_CS_RECALC ≠ 0
    case pos =>
      rw [if_pos h]
      exact Image.set_of_ne fun ha => hsum ⟨h, ha⟩
    case neg => rw [if_neg h]
  unfold touch
  by_cases h : form &&& ACTION_RESET ≠ 0
  case pos =>
    rw [if_pos h, ← hsummed]
    exact Image.set_of_ne fun ha => hreset ⟨h, ha⟩
  case neg => rw [if_neg h, hsummed]

theorem touch_resetCause {form : UInt8} (hreset : form &&& ACTION_RESET ≠ 0) :
    gp.touch host form (gp.nmp + host.resetCause) = IzotSoftwareReset := by
  unfold touch
  rw [if_pos hreset, Image.set_self]

theorem resetCause_apart (hhost : host.Sound gp) :
    gp.nmp + host.resetCause < gp.eep ∨
      gp.eep + EEPROM.nodeState < gp.nmp + host.resetCause := by
  have hlog := hhost.log_lt
  have hlt := hhost.resetCause_lt
  have hapart := hhost.apart
  omega

theorem touch_configCheckSum {form : UInt8} (hhost : host.Sound gp)
    (hsum : form &&& CNFG_CS_RECALC ≠ 0) :
    gp.touch host form gp.configCheckSum = gp.computeConfigCheckSum := by
  have hne : gp.configCheckSum ≠ gp.nmp + host.resetCause := by
    have hapart := resetCause_apart hhost
    have hstate : EEPROM.nodeState = 3668 := rfl
    rw [configCheckSum_eq]
    omega
  unfold touch
  rw [if_pos hsum]
  by_cases h : form &&& ACTION_RESET ≠ 0
  case pos => rw [if_pos h, Image.set_of_ne hne, Image.set_self]
  case neg => rw [if_neg h, Image.set_self]

/-- What the form of a write changes does not depend on what was there, and nothing else of the
memory counts for it but the configuration. -/
theorem touch_congr {m m' : Image} (hhost : host.Sound gp)
    (h : ∀ a, ¬MemoryCommand.Touched host gp apdu a → m' a = m a) :
    (gp.setMem m').touch host (writeForm apdu) = (gp.setMem m).touch host (writeForm apdu) := by
  funext a
  have hhost' (m : Image) : host.Sound (gp.setMem m) :=
    { hhost with
      translate_eq := hhost.translate_eq
      translate_apart := hhost.translate_apart }
  by_cases hreset : writeForm apdu &&& ACTION_RESET ≠ 0 ∧ a = gp.nmp + host.resetCause
  case pos =>
    rw [hreset.2]
    exact (touch_resetCause hreset.1).trans (touch_resetCause hreset.1).symm
  case neg =>
    by_cases hsum : writeForm apdu &&& CNFG_CS_RECALC ≠ 0 ∧ a = gp.configCheckSum
    case pos =>
      have hcompute : (gp.setMem m').computeConfigCheckSum = (gp.setMem m).computeConfigCheckSum := by
        refine Image.xorBytes_congr fun k hk => h _ ?_
        have hapart := resetCause_apart hhost
        change k < gp.configCheckSum - gp.configData at hk
        change ¬MemoryCommand.Touched host gp apdu (gp.configData + k)
        have hstate : EEPROM.nodeState = 3668 := rfl
        rw [configCheckSum_eq, configData_eq] at hk
        rw [configData_eq]
        rintro (⟨-, ha⟩ | ⟨-, ha⟩)
        · rw [configCheckSum_eq] at ha
          omega
        · omega
      rw [hsum.2]
      exact (touch_configCheckSum (hhost' m') hsum.1).trans
        (hcompute.trans (touch_configCheckSum (hhost' m) hsum.1).symm)
    case neg =>
      have hkept (m : Image) : (gp.setMem m).touch host (writeForm apdu) a = m a :=
        touch_of_not hsum hreset
      rw [hkept, hkept]
      exact h a fun ht => ht.elim hsum hreset

theorem afterWrite_congr {m m' : Image} (hhost : host.Sound gp)
    (h : ∀ a, ¬MemoryCommand.Touched host gp apdu a → m' a = m a) :
    (gp.setMem m').afterWrite host (writeForm apdu) =
      (gp.setMem m).afterWrite host (writeForm apdu) := by
  rw [afterWrite_eq, afterWrite_eq, touch_congr hhost h]
  rfl

theorem writeMemory_of_writesTo {memp : Nat} (h : MemoryCommand.WritesTo host gp p apdu memp) :
    gp.writeMemory host p apdu =
      (.noError, (MemoryCommand.withData host gp apdu memp).afterWrite host (writeForm apdu)) := by
  have hlong := h.long
  have hsize := h.size
  rw [writeMemory, if_neg (by omega), if_neg (by omega), MemoryCommand.withData, MemoryCommand.dataAt]
  by_cases hfiles : MemoryCommand.ToFiles host apdu
  case pos =>
    rw [if_pos hfiles, MemoryHost.izotMemoryWrite, h.files hfiles]
    exact if_pos hfiles
  case neg =>
    rw [if_neg hfiles, h.mapped hfiles]
    refine (if_neg hfiles).trans ?_
    dsimp only
    rw [if_neg (not_not.mpr (h.inRange hfiles)), if_neg fun hrefused =>
      hrefused.2 (h.allowed hfiles hrefused.1)]

/-- A write is carried out or refused. -/
theorem writeMemory_cases (gp : AppData) (host : MemoryHost) (p : APPReceiveParam) (apdu : Apdu) :
    (∃ memp, MemoryCommand.WritesTo host gp p apdu memp) ∨
      ∃ sts, sts ≠ .noError ∧ gp.writeMemory host p apdu = (sts, gp) := by
  unfold writeMemory
  by_cases hlong : p.pduSize < 6
  case pos => exact .inr ⟨_, by decide, if_pos hlong⟩
  case neg =>
    rw [if_neg hlong]
    by_cases hsize : p.pduSize ≠ 6 + readCount apdu ∧ p.pduSize ≠ 17
    case pos => exact .inr ⟨_, by decide, if_pos hsize⟩
    case neg =>
      rw [if_neg hsize]
      by_cases hfiles : MemoryCommand.ToFiles host apdu
      case pos =>
        rw [MemoryHost.izotMemoryWrite]
        cases htarget : host.translate true (readOffset apdu) (readCount apdu) with
        | none => exact .inr ⟨.writeFailed, by decide, if_pos hfiles⟩
        | some memp =>
          exact .inl ⟨memp, by omega, by omega, fun _ => htarget, fun h => absurd hfiles h,
            fun h => absurd hfiles h, fun h => absurd hfiles h⟩
      case neg =>
        cases hmemp : gp.writeMemp (readMode apdu) (readOffset apdu) with
        | none => exact .inr ⟨.invalidMessageMode, by decide, if_neg hfiles⟩
        | some memp =>
          by_cases hrange : gp.writeInRange host memp (readCount apdu) = true
          case neg =>
            exact .inr ⟨.invalidMessageCommand, by decide, (if_neg hfiles).trans (if_pos hrange)⟩
          case pos =>
            by_cases hrefused : gp.readWriteProtect ∧ ¬gp.writeAllowed memp (readCount apdu)
            case pos =>
              exact .inr ⟨.invalidMessageCommand, by decide,
                (if_neg hfiles).trans ((if_neg (not_not.mpr hrange)).trans (if_pos hrefused))⟩
            case neg =>
              exact .inl ⟨memp, by omega, by omega, fun h => absurd h hfiles, fun _ => hmemp,
                fun _ => hrange, fun _ hprotect =>
                  not_not.mp fun hnot => hrefused ⟨hprotect, hnot⟩⟩

theorem accepted_iff :
    MemoryCommand.WriteAccepted host gp p apdu ↔
      ∃ memp, MemoryCommand.WritesTo host gp p apdu memp := by
  constructor
  · intro h
    obtain hto | ⟨sts, hsts, hw⟩ := writeMemory_cases gp host p apdu
    · exact hto
    · rw [MemoryCommand.WriteAccepted, hw] at h
      exact absurd h hsts
  · rintro ⟨memp, hto⟩
    rw [MemoryCommand.WriteAccepted, writeMemory_of_writesTo hto]

theorem write_congr (h : ∀ k < 6, apdu' k = apdu k) :
    readMode apdu' = readMode apdu ∧ readOffset apdu' = readOffset apdu ∧
      readCount apdu' = readCount apdu ∧ writeForm apdu' = writeForm apdu := by
  obtain ⟨hmode, hoffset, hcount⟩ := read_congr fun k hk => h (1 + k) (by omega)
  exact ⟨hmode, hoffset, hcount, h 5 (by omega)⟩

/-- A write reads its data behind the first six bytes. -/
theorem writeMemory_congr (h : ∀ k < p.pduSize, apdu' k = apdu k)
    (hdata : ∀ memp, MemoryCommand.WritesTo host gp p apdu memp →
      (gp.setMem (gp.mem.copy memp apdu' (MemoryCommand.dataAt host apdu)
        (readCount apdu))).afterWrite host (writeForm apdu) =
          (MemoryCommand.withData host gp apdu memp).afterWrite host (writeForm apdu)) :
    gp.writeMemory host p apdu' = gp.writeMemory host p apdu := by
  by_cases hlong : p.pduSize < 6
  case pos => rw [writeMemory, writeMemory, if_pos hlong, if_pos hlong]
  case neg =>
    obtain ⟨hmode, hoffset, hcount, hform⟩ := write_congr fun k hk => h k (by omega)
    rw [writeMemory, writeMemory, if_neg hlong, if_neg hlong, hmode, hoffset, hcount, hform]
    by_cases hsize : p.pduSize ≠ 6 + readCount apdu ∧ p.pduSize ≠ 17
    case pos => rw [if_pos hsize, if_pos hsize]
    case neg =>
      rw [if_neg hsize, if_neg hsize]
      by_cases hfiles : MemoryCommand.ToFiles host apdu
      case pos =>
        refine (if_pos hfiles).trans (Eq.trans ?_ (if_pos hfiles).symm)
        rw [MemoryHost.izotMemoryWrite, MemoryHost.izotMemoryWrite]
        cases htarget : host.translate true (readOffset apdu) (readCount apdu) with
        | none => rfl
        | some memp =>
          have heq := hdata memp ⟨by omega, by omega, fun _ => htarget, fun h => absurd hfiles h,
            fun h => absurd hfiles h, fun h => absurd hfiles h⟩
          rw [MemoryCommand.withData, MemoryCommand.dataAt, if_pos hfiles] at heq
          exact congrArg (Prod.mk LonStatusCode.noError) heq
      case neg =>
        refine (if_neg hfiles).trans (Eq.trans ?_ (if_neg hfiles).symm)
        cases hmemp : gp.writeMemp (readMode apdu) (readOffset apdu) with
        | none => rfl
        | some memp =>
          dsimp only
          by_cases hrange : gp.writeInRange host memp (readCount apdu) = true
          case neg => rw [if_pos hrange, if_pos hrange]
          case pos =>
            rw [if_neg (not_not.mpr hrange), if_neg (not_not.mpr hrange)]
            by_cases hrefused : gp.readWriteProtect ∧ ¬gp.writeAllowed memp (readCount apdu)
            case pos => rw [if_pos hrefused, if_pos hrefused]
            case neg =>
              have heq := hdata memp ⟨by omega, by omega, fun h => absurd h hfiles, fun _ => hmemp,
                fun _ => hrange, fun _ hprotect =>
                  not_not.mp fun hnot => hrefused ⟨hprotect, hnot⟩⟩
              rw [MemoryCommand.withData, MemoryCommand.dataAt, if_neg hfiles] at heq
              rw [if_neg hrefused, if_neg hrefused]
              exact congrArg (Prod.mk LonStatusCode.noError) heq

theorem accepted_of_inConfigData {memp : Nat} (hhost : host.Sound gp)
    (hcomplete : MemoryCommand.WriteComplete p apdu) (hfiles : ¬MemoryCommand.ToFiles host apdu)
    (hmemp : gp.writeMemp (readMode apdu) (readOffset apdu) = some memp)
    (hconfig : gp.InConfigData memp (readCount apdu))
    (hend : memp + readCount apdu ≠ gp.domainTable 0) :
    MemoryCommand.WriteAccepted host gp p apdu := by
  obtain ⟨hle, hsize⟩ := hcomplete
  obtain ⟨hlo, hhi⟩ := hconfig
  have hlog : 3668 < host.sizeofEEPROM := hhost.log_lt
  have hlo' : gp.eep + 47 ≤ memp := hlo
  rw [domainTable_eq] at hhi hend
  have hrange : gp.writeInRange host memp (readCount apdu) = true := by
    rw [writeInRange, Bool.or_eq_true]
    refine .inr ?_
    rw [Bool.and_eq_true, decide_eq_true_iff, decide_eq_true_iff]
    exact ⟨by omega, by omega⟩
  have hallowed : gp.writeAllowed memp (readCount apdu) = true := by
    rw [writeAllowed, Bool.and_eq_true, decide_eq_true_iff, decide_eq_true_iff, domainTable_eq]
    exact ⟨hlo, by omega⟩
  exact accepted_iff.mpr ⟨memp, by omega, hsize, fun h => absurd h hfiles, fun _ => hmemp,
    fun _ => hrange, fun _ _ => hallowed⟩

theorem mem_handleNMQueryId : (gp.handleNMQueryId p apdu).mem = gp.mem := by
  unfold handleNMQueryId
  split
  case isTrue => rw [mem_nmndRespond]
  case isFalse =>
    split
    case isTrue =>
      rw [mem_nmndRespond]
      rfl
    case isFalse => rw [mem_writeResponse]

theorem queryIdMatch_iff (gp : AppData) (apdu : Apdu) (memp : Nat) :
    gp.queryIdMatch apdu memp (queryIdCount apdu) = true ↔ MemoryCommand.Matches gp apdu memp := by
  rw [queryIdMatch, decide_eq_true_iff, MemoryCommand.Matches]
  constructor
  · intro h k hk
    have hk' := List.map_inj_left.mp h k (List.mem_range.mpr hk)
    exact hk'
  · intro h
    exact Image.slice_congr h

theorem queryId_congr (h : ∀ k < 6, apdu' k = apdu k) :
    apdu'.data 0 = apdu.data 0 ∧ queryIdMode apdu' = queryIdMode apdu ∧
      queryIdOffset apdu' = queryIdOffset apdu ∧ queryIdCount apdu' = queryIdCount apdu ∧
        apdu'.data 3 = apdu.data 3 := by
  have h0 : apdu'.data 0 = apdu.data 0 := h 1 (by omega)
  have h1 : apdu'.data 1 = apdu.data 1 := h 2 (by omega)
  have h2 : apdu'.data 2 = apdu.data 2 := h 3 (by omega)
  have h3 : apdu'.data 3 = apdu.data 3 := h 4 (by omega)
  have h4 : apdu'.data 4 = apdu.data 4 := h 5 (by omega)
  unfold queryIdMode queryIdOffset queryIdCount Apdu.word
  rw [h1, h2, h3, h4]
  exact ⟨h0, rfl, rfl, rfl, rfl⟩

theorem queryIdAnswer_congr (hsize : p.pduSize = 2 ∨ p.pduSize = 6 + queryIdCount apdu)
    (h : ∀ k < p.pduSize, apdu' k = apdu k) :
    gp.queryIdAnswer p apdu' = gp.queryIdAnswer p apdu := by
  have h0 : apdu'.data 0 = apdu.data 0 := h 1 (by omega)
  unfold queryIdAnswer
  rw [h0]
  by_cases hmem : 2 < p.pduSize
  case neg => simp only [if_neg hmem]
  case pos =>
    have hsize' : p.pduSize = 6 + queryIdCount apdu := by omega
    obtain ⟨-, hmode, hoffset, hcount, h3⟩ := queryId_congr fun k hk => h k (by omega)
    have hmatch (memp : Nat) : gp.queryIdMatch apdu' memp (queryIdCount apdu) =
        gp.queryIdMatch apdu memp (queryIdCount apdu) := by
      have hslice : Image.slice apdu' (Apdu.dataOffset + 5) (queryIdCount apdu) =
          Image.slice apdu (Apdu.dataOffset + 5) (queryIdCount apdu) := by
        refine Image.slice_congr fun k hk => ?_
        change apdu' (6 + k) = apdu (6 + k)
        exact h _ (by omega)
      rw [queryIdMatch, queryIdMatch, hslice]
    have hmemory : gp.queryIdMemory apdu' = gp.queryIdMemory apdu := by
      unfold queryIdMemory queryIdAllowed
      simp only [hmode, hoffset, hcount, h3, hmatch]
    simp only [if_pos hmem, hmemory]

theorem handleNMQueryId_congr (hcode : apdu.nmCode ≠ 0) (h0 : apdu' 0 = apdu 0)
    (h : ∀ k < p.pduSize, apdu' k = apdu k) :
    gp.handleNMQueryId p apdu' = gp.handleNMQueryId p apdu := by
  unfold handleNMQueryId
  by_cases hshort : p.pduSize ≠ 2 ∧ p.pduSize < 6
  case pos => rw [if_pos hshort, if_pos hshort, nmndRespond_congr_code hcode h0]
  case neg =>
    rw [if_neg hshort, if_neg hshort]
    have hcount : 2 < p.pduSize → queryIdCount apdu' = queryIdCount apdu := fun hmem =>
      (queryId_congr fun k hk => h k (by omega)).2.2.2.1
    by_cases hsize : 2 < p.pduSize ∧ p.pduSize ≠ 6 + queryIdCount apdu
    case pos =>
      rw [if_pos hsize, if_pos ⟨hsize.1, hcount hsize.1 ▸ hsize.2⟩,
        nmndRespond_congr_code hcode h0]
    case neg =>
      have hsize' : ¬(2 < p.pduSize ∧ p.pduSize ≠ 6 + queryIdCount apdu') := fun hs =>
        hsize ⟨hs.1, hcount hs.1 ▸ hs.2⟩
      rw [if_neg hsize, if_neg hsize', queryIdAnswer_congr (by omega) h]

theorem length_queryIdResponse (hbuf : 1 ≤ gp.tsaRespBufSize) (answer : IdAnswer) :
    (gp.queryIdResponse answer).length ≤ gp.tsaRespBufSize := by
  unfold queryIdResponse
  split
  case isTrue h =>
    rw [List.length_cons, idBytes, List.length_append, Image.length_slice, Image.length_slice]
    omega
  case isFalse => exact hbuf

end AppData

end LonStack
