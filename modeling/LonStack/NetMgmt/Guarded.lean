import LonStack.NetMgmt.WindowLaws
import LonStack.NetMgmt.Consistent

namespace LonStack

open Lib

namespace MemoryCommand

open AppData

variable {c : MemoryCommand} {host : MemoryHost} {gp : AppData} {p : APPReceiveParam} {apdu : Apdu}
variable {r : TSASendParam} {memp : Nat}

theorem code_ne_zero (c : MemoryCommand) : c.code ≠ 0 := by
  cases c <;> decide

theorem answers_iff :
    c.Answers host gp p apdu r ↔
      (c.run host gp p apdu).tsaRespQ.toList = gp.tsaRespQ.toList ++ [r] := by
  unfold Answers handle
  split <;> rfl

theorem handle_eq_run (h : c.LogsFull gp p apdu →
    (c.run host gp p apdu).errorLog = LonStatusCode.noBufferAvailable.code) :
    c.handle host gp p apdu = c.run host gp p apdu := by
  unfold handle
  split
  case isTrue hfull => exact osalPrintLog_of_last (h hfull)
  case isFalse => rfl

theorem errorLog_handle (h : c.LogsFull gp p apdu) :
    (c.handle host gp p apdu).errorLog = LonStatusCode.noBufferAvailable.code := by
  rw [handle, if_pos h]
  exact errorLog_osalPrintLog (by decide)

theorem eep_run (c : MemoryCommand) : (c.run host gp p apdu).eep = gp.eep := by
  cases c with
  | readMemory =>
    change (gp.handleNMReadMemory host p apdu).eep = gp.eep
    rw [handleNMReadMemory_eq]
    split
    case isTrue => rw [nmndRespond_eq]
    case isFalse => rfl
  | writeMemory =>
    change (gp.handleNMWriteMemory host p apdu).eep = gp.eep
    rw [handleNMWriteMemory, nmndRespond_eq]
    obtain ⟨memp, hto⟩ | ⟨sts, -, hw⟩ := writeMemory_cases gp host p apdu
    · rw [writeMemory_of_writesTo hto, afterWrite_eq]
      rfl
    · rw [hw]
  | queryId =>
    change (gp.handleNMQueryId p apdu).eep = gp.eep
    unfold handleNMQueryId
    split
    case isTrue => rw [nmndRespond_eq]
    case isFalse =>
      split
      case isTrue =>
        rw [nmndRespond_eq]
        rfl
      case isFalse => rfl

theorem eep_handle (c : MemoryCommand) : (c.handle host gp p apdu).eep = gp.eep := by
  unfold handle
  split
  case isTrue => exact eep_run c
  case isFalse => exact eep_run c

theorem mem_handle {a : Nat} (h : a < gp.eep + EEPROM.errorLog ∨ gp.eep + EEPROM.nodeState < a) :
    (c.handle host gp p apdu).mem a = (c.run host gp p apdu).mem a := by
  unfold handle
  split
  case isTrue =>
    refine mem_osalPrintLog _ ?_
    rw [eep_run]
    exact h
  case isFalse => rfl

/-- A command that leaves the memory alone must not log a new error. -/
theorem errorLog_of_mem_handle (h : (c.handle host gp p apdu).mem = gp.mem)
    (hfull : c.LogsFull gp p apdu) : gp.errorLog = LonStatusCode.noBufferAvailable.code := by
  rw [← errorLog_handle hfull]
  exact (errorLog_congr (eep_handle c) fun _ _ => congrFun h _).symm

theorem handle_eq_run_of_mem (hmem : (c.run host gp p apdu).mem = gp.mem)
    (h : c.LogsFull gp p apdu → gp.errorLog = LonStatusCode.noBufferAvailable.code) :
    c.handle host gp p apdu = c.run host gp p apdu :=
  handle_eq_run fun hfull =>
    (errorLog_congr (eep_run c) fun _ _ => congrFun hmem _).trans (h hfull)

theorem logsFull_congr {apdu' : Apdu} (hcode : apdu.nmCode ≠ 0) (h0 : apdu' 0 = apdu 0)
    (h : ∀ k < p.pduSize, apdu' k = apdu k) :
    c.LogsFull gp p apdu' ↔ c.LogsFull gp p apdu := by
  have hcode' : apdu'.nmCode = apdu.nmCode := congrArg (· &&& NM_opcode_mask) h0
  have hdata : nmndData .nm apdu' = nmndData .nm apdu := by
    rw [nmndData_of_code hcode, nmndData_of_code (hcode' ▸ hcode)]
  suffices hresponds : c.responds gp p apdu' = c.responds gp p apdu by
    rw [LogsFull, LogsFull, hresponds]
  unfold responds
  rw [hdata]
  cases c with
  | readMemory =>
    dsimp only
    by_cases hsize : p.pduSize < 5
    case pos => simp only [hsize, true_or]
    case neg => rw [(read_congr fun k hk => h (1 + k) (by omega)).2.2]
  | writeMemory => rfl
  | queryId =>
    dsimp only
    by_cases hsize : p.pduSize < 6
    case pos =>
      by_cases h2 : p.pduSize = 2
      case pos => simp only [h2, ne_eq, not_true_eq_false, false_and, lt_irrefl]
      case neg => simp only [ne_eq, h2, not_false_eq_true, hsize, true_and, true_or]
    case neg => rw [(queryId_congr fun k hk => h k (by omega)).2.2.2.1]

theorem handle_congr {apdu' : Apdu} (hcode : apdu.nmCode ≠ 0) (h0 : apdu' 0 = apdu 0)
    (h : ∀ k < p.pduSize, apdu' k = apdu k)
    (hrun : c.run host gp p apdu' = c.run host gp p apdu) :
    c.handle host gp p apdu' = c.handle host gp p apdu := by
  rw [handle, handle, hrun]
  exact if_congr (logsFull_congr hcode h0 h) rfl rfl

theorem failure_ne_success :
    NM_resp_failure ||| NM_READ_MEMORY ≠ NM_resp_success ||| NM_READ_MEMORY := by decide

theorem readOffset_lt (apdu : Apdu) : readOffset apdu < 2 ^ 16 := by
  have hhigh := (apdu.data 1).toNat_lt
  have hlow := (apdu.data 2).toNat_lt
  change (apdu.data 1).toNat * 256 + (apdu.data 2).toNat < 2 ^ 16
  omega

theorem readAnswer_of_not_served (h : ¬ReadServed host gp apdu) :
    gp.readAnswer host apdu = [NM_resp_failure ||| NM_READ_MEMORY] := by
  rw [ReadServed] at h
  by_cases hfiles : ToFiles host apdu
  case pos =>
    rw [if_pos hfiles, Option.not_isSome_iff_eq_none] at h
    refine (if_pos hfiles).trans ?_
    rw [MemoryHost.izotMemoryRead, h]
    rfl
  case neg =>
    rw [if_neg hfiles, Classical.not_imp] at h
    exact (if_neg hfiles).trans (if_pos h)

theorem readAnswer_of_file (hfiles : ToFiles host apdu) {addr : Nat}
    (h : host.translate false (readOffset apdu) (readCount apdu) = some addr) :
    gp.readAnswer host apdu =
      (NM_resp_success ||| NM_READ_MEMORY) :: gp.mem.slice addr (readCount apdu) := by
  refine (if_pos hfiles).trans ?_
  rw [MemoryHost.izotMemoryRead, h]
  rfl

theorem readAnswer_of_served (hfiles : ¬ToFiles host apdu) (h : ReadServed host gp apdu) :
    gp.readAnswer host apdu =
      ((if readMode apdu = MFG_RELATIVE then NM_resp_failure else NM_resp_success) |||
        NM_READ_MEMORY) ::
          gp.slowClock.readBytes (gp.readMemp (readMode apdu) (readOffset apdu))
            (readCount apdu) := by
  rw [ReadServed, if_neg hfiles] at h
  exact (if_neg hfiles).trans (if_neg fun hrefused => hrefused.2 (h hrefused.1))

theorem length_readAnswer_of_served (h : ReadServed host gp apdu) :
    (gp.readAnswer host apdu).length = 1 + readCount apdu := by
  by_cases hfiles : ToFiles host apdu
  case pos =>
    have hsome := h
    rw [ReadServed, if_pos hfiles] at hsome
    obtain ⟨addr, haddr⟩ := Option.isSome_iff_exists.mp hsome
    rw [readAnswer_of_file hfiles haddr, List.length_cons, Image.length_slice, Nat.add_comm]
  case neg =>
    rw [readAnswer_of_served hfiles h, List.length_cons, length_readBytes, Nat.add_comm]

theorem readDone_iff (hr : r.apdu = gp.readAnswer host apdu) :
    ReadDone apdu r ↔
      ReadServed host gp apdu ∧ (ToFiles host apdu ∨ readMode apdu ≠ MFG_RELATIVE) := by
  by_cases hserved : ReadServed host gp apdu
  case neg =>
    refine ⟨fun hdone => ?_, fun h => absurd h.1 hserved⟩
    have hhead := hdone.1
    rw [hr, readAnswer_of_not_served hserved, List.head?_cons] at hhead
    exact absurd (Option.some.inj hhead) failure_ne_success
  case pos =>
    have hlen : r.apdu.length = 1 + readCount apdu := hr ▸ length_readAnswer_of_served hserved
    have hhead : r.apdu.head? = some (NM_resp_success ||| NM_READ_MEMORY) ↔
        ToFiles host apdu ∨ readMode apdu ≠ MFG_RELATIVE := by
      by_cases hfiles : ToFiles host apdu
      case pos =>
        have hsome := hserved
        rw [ReadServed, if_pos hfiles] at hsome
        obtain ⟨addr, haddr⟩ := Option.isSome_iff_exists.mp hsome
        rw [hr, readAnswer_of_file hfiles haddr]
        exact ⟨fun _ => .inl hfiles, fun _ => rfl⟩
      case neg =>
        rw [hr, readAnswer_of_served hfiles hserved, List.head?_cons]
        by_cases hmode : readMode apdu = MFG_RELATIVE
        case pos =>
          rw [if_pos hmode]
          exact ⟨fun h => absurd (Option.some.inj h) failure_ne_success,
            fun h => absurd hmode (h.resolve_left hfiles)⟩
        case neg =>
          rw [if_neg hmode]
          exact ⟨fun _ => .inr hmode, fun _ => rfl⟩
    exact ⟨fun hdone => ⟨hserved, hhead.mp hdone.1⟩, fun h => ⟨hhead.mpr h.2, hlen⟩⟩

theorem readMemory_answers_long
    (hlong : gp.tsaRespBufSize < readCount apdu) (h : readMemory.Answers host gp p apdu r) :
    r.apdu.length ≤ gp.tsaRespBufSize ∧ ¬ReadDone apdu r := by
  have h' : (gp.handleNMReadMemory host p apdu).tsaRespQ.toList = gp.tsaRespQ.toList ++ [r] :=
    answers_iff.mp h
  rw [handleNMReadMemory_eq, if_pos (.inr hlong)] at h'
  obtain ⟨-, hle⟩ := eq_of_nmndRespond h'
  refine ⟨hle, fun hdone => ?_⟩
  have hlen := hdone.2
  omega

theorem readMemory_answers (hsize : 5 ≤ p.pduSize) (hcount : readCount apdu ≤ gp.tsaRespBufSize)
    (h : readMemory.Answers host gp p apdu r) :
    gp.RoomToRespond ∧ r.apdu = gp.readAnswer host apdu := by
  have h' : (gp.handleNMReadMemory host p apdu).tsaRespQ.toList = gp.tsaRespQ.toList ++ [r] :=
    answers_iff.mp h
  rw [handleNMReadMemory_eq, if_neg (by omega)] at h'
  exact ⟨room_of_writeResponse h', (eq_of_writeResponse h').1⟩

theorem exists_readMemory_answers (hroom : gp.RoomToRespond) (hsize : 5 ≤ p.pduSize)
    (hcount : readCount apdu ≤ gp.tsaRespBufSize) :
    ∃ r, readMemory.Answers host gp p apdu r ∧ r.apdu = gp.readAnswer host apdu := by
  obtain ⟨r, hr, hbytes, -⟩ :=
    exists_writeResponse hroom p.reqId false false (gp.readAnswer host apdu)
  refine ⟨r, answers_iff.mpr ?_, hbytes⟩
  change (gp.handleNMReadMemory host p apdu).tsaRespQ.toList = _
  rw [handleNMReadMemory_eq, if_neg (by omega)]
  exact hr

theorem readMemory_fits_iff (host : MemoryHost) (p : APPReceiveParam) (apdu : Apdu)
    (hbuf : 73 ≤ gp.tsaRespBufSize) :
    (∀ r, readMemory.Answers host gp p apdu r → r.apdu.length ≤ gp.tsaRespBufSize) ↔
      (gp.RoomToRespond → 5 ≤ p.pduSize → readCount apdu = gp.tsaRespBufSize →
        ¬ReadServed host gp apdu) := by
  constructor
  · intro h hroom hsize hcount hserved
    obtain ⟨r, hanswers, hr⟩ := exists_readMemory_answers hroom hsize (Nat.le_of_eq hcount)
    have hle := h r hanswers
    rw [hr, length_readAnswer_of_served hserved] at hle
    omega
  · intro h r hanswers
    by_cases hsize : 5 ≤ p.pduSize
    case neg =>
      have h' : (gp.handleNMReadMemory host p apdu).tsaRespQ.toList =
          gp.tsaRespQ.toList ++ [r] := answers_iff.mp hanswers
      rw [handleNMReadMemory_eq, if_pos (by omega)] at h'
      exact (eq_of_nmndRespond h').2
    case pos =>
      by_cases hcount : readCount apdu ≤ gp.tsaRespBufSize
      case neg => exact (readMemory_answers_long (by omega) hanswers).1
      case pos =>
        obtain ⟨hroom, hr⟩ := readMemory_answers hsize hcount hanswers
        rw [hr]
        have hlen := length_readAnswer gp host apdu
        by_cases hserved : ReadServed host gp apdu
        case pos =>
          have hne : readCount apdu ≠ gp.tsaRespBufSize := fun heq => h hroom hsize heq hserved
          omega
        case neg =>
          rw [readAnswer_of_not_served hserved, List.length_singleton]
          omega

/-- The tests of a read against the window that it should have. -/
theorem readAllowed_iff_window (hhost : host.Sound gp) (apdu : Apdu) :
    ((gp.readAllowed host (gp.readMemp (readMode apdu) (readOffset apdu)) (readCount apdu) = true ∧
        readMode apdu ≠ MFG_RELATIVE) ↔
      (gp.InReadable (gp.readMemp (readMode apdu) (readOffset apdu)) (readCount apdu) ∨
        LocationZero apdu)) ↔
    ¬LocationZero apdu ∧
      ¬(gp.readMemp (readMode apdu) (readOffset apdu) = host.nmpVar ∧ readCount apdu = 1) ∧
        (gp.readOnlyData ≤ gp.readMemp (readMode apdu) (readOffset apdu) →
          gp.readMemp (readMode apdu) (readOffset apdu) + readCount apdu ≠ gp.domainTable 0) := by
  have hlog : 3668 < host.sizeofEEPROM := hhost.log_lt
  have hcause := hhost.resetCause_lt
  have hapart := hhost.apart
  have hvar := hhost.nmpVar_eep
  have hne := hhost.nmpVar_ne
  have hzero : LocationZero apdu →
      gp.readMemp (readMode apdu) (readOffset apdu) = gp.nmp ∧ readCount apdu = 1 := by
    rintro ⟨hmode, hoffset, hcount⟩
    refine ⟨?_, hcount⟩
    rw [hmode, hoffset]
    rfl
  have hmfg : readMode apdu = MFG_RELATIVE →
      gp.readMemp (readMode apdu) (readOffset apdu) < 2 ^ 16 := by
    intro hmode
    rw [hmode]
    exact readOffset_lt apdu
  have hmapped := hhost.mapped
  have hvarMapped := hhost.nmpVar_mapped
  rw [readAllowed, Bool.or_eq_true, Bool.and_eq_true, Bool.and_eq_true, decide_eq_true_iff,
    decide_eq_true_iff, decide_eq_true_iff, decide_eq_true_iff, InReadable, domainTable_eq,
    readOnlyData_eq]
  generalize gp.readMemp (readMode apdu) (readOffset apdu) = memp at *
  generalize readCount apdu = count at *
  constructor
  · intro h
    refine ⟨fun hz => ?_, fun hp => ?_, fun hlo hend => ?_⟩
    · have hread := (h.mpr (.inr hz)).1
      have hat := hzero hz
      omega
    · obtain hin | hz := h.mp ⟨.inr hp, fun hmode => by have := hmfg hmode; omega⟩
      · omega
      · have hat := hzero hz
        omega
    · have hread := (h.mpr (.inl ⟨hlo, Nat.le_of_eq hend⟩)).1
      omega
  · rintro ⟨hz, hp, hend⟩
    constructor
    · rintro ⟨hread, -⟩
      exact .inl ⟨(hread.resolve_right hp).1, Nat.le_of_lt (hread.resolve_right hp).2⟩
    · intro hin
      have hin := hin.resolve_right hz
      have hlast := hend hin.1
      exact ⟨.inl ⟨hin.1, by omega⟩, fun hmode => by have := hmfg hmode; omega⟩

theorem readMemory_window_iff (hhost : host.Sound gp) (p : APPReceiveParam) (apdu : Apdu)
    (hbuf : 73 ≤ gp.tsaRespBufSize) :
    ReadWindow host gp p apdu ↔
      (gp.RoomToRespond → 5 ≤ p.pduSize → gp.readWriteProtect →
        (readCount apdu ≤ gp.tsaRespBufSize → ToFiles host apdu →
          host.translate false (readOffset apdu) (readCount apdu) = none) ∧
        (¬ToFiles host apdu →
          ¬LocationZero apdu ∧
            ¬(gp.readMemp (readMode apdu) (readOffset apdu) = host.nmpVar ∧ readCount apdu = 1) ∧
              (gp.readOnlyData ≤ gp.readMemp (readMode apdu) (readOffset apdu) →
                gp.readMemp (readMode apdu) (readOffset apdu) + readCount apdu ≠
                  gp.domainTable 0))) := by
  have hwindow := readAllowed_iff_window hhost apdu
  have hshort : gp.tsaRespBufSize < readCount apdu →
      ¬(gp.InReadable (gp.readMemp (readMode apdu) (readOffset apdu)) (readCount apdu) ∨
        LocationZero apdu) := by
    rintro hlong (⟨hlo, hhi⟩ | hzero)
    · rw [domainTable_eq] at hhi
      rw [readOnlyData_eq] at hlo
      omega
    · have hone := hzero.2.2
      omega
  have hserved (hfiles : ¬ToFiles host apdu) (hprotect : gp.readWriteProtect = true) :
      ReadServed host gp apdu ↔
        gp.readAllowed host (gp.readMemp (readMode apdu) (readOffset apdu)) (readCount apdu) =
          true := by
    rw [ReadServed, if_neg hfiles]
    exact ⟨fun h => h hprotect, fun h _ => h⟩
  constructor
  · intro h hroom hsize hprotect
    refine ⟨fun hcount hfiles => ?_, fun hfiles => ?_⟩
    · by_contra hsome
      obtain ⟨r, hanswers, hr⟩ := exists_readMemory_answers hroom hsize hcount
      have hread : ReadServed host gp apdu :=
        (if_pos hfiles).mpr (Option.ne_none_iff_isSome.mp hsome)
      exact ((h hprotect hsize r hanswers).mp ((readDone_iff hr).mpr ⟨hread, .inl hfiles⟩)).1 hfiles
    · by_cases hcount : readCount apdu ≤ gp.tsaRespBufSize
      case pos =>
        obtain ⟨r, hanswers, hr⟩ := exists_readMemory_answers hroom hsize hcount
        have hdone := readDone_iff hr
        have hin := h hprotect hsize r hanswers
        refine hwindow.mp ⟨fun hread => ?_, fun hread => ?_⟩
        · exact (hin.mp (hdone.mpr ⟨(hserved hfiles hprotect).mpr hread.1, .inr hread.2⟩)).2
        · have hd := hdone.mp (hin.mpr ⟨hfiles, hread⟩)
          exact ⟨(hserved hfiles hprotect).mp hd.1, hd.2.resolve_left hfiles⟩
      case neg =>
        refine ⟨fun hzero => hshort (by omega) (.inr hzero), fun hp => by omega, fun hlo hend => ?_⟩
        rw [domainTable_eq] at hend
        rw [readOnlyData_eq] at hlo
        omega
  · intro h hprotect hsize r hanswers
    by_cases hcount : readCount apdu ≤ gp.tsaRespBufSize
    case neg =>
      exact ⟨fun hdone => absurd hdone (readMemory_answers_long (by omega) hanswers).2,
        fun hin => absurd hin.2 (hshort (by omega))⟩
    case pos =>
      obtain ⟨hroom, hr⟩ := readMemory_answers hsize hcount hanswers
      obtain ⟨hnone, hwin⟩ := h hroom hsize hprotect
      rw [readDone_iff hr]
      by_cases hfiles : ToFiles host apdu
      case pos =>
        refine ⟨fun hd => ?_, fun hin => absurd hfiles hin.1⟩
        have hsome := hd.1
        rw [ReadServed, if_pos hfiles, hnone hcount hfiles] at hsome
        exact absurd hsome (by decide)
      case neg =>
        have hiff := hwindow.mpr (hwin hfiles)
        refine ⟨fun hd => ⟨hfiles, hiff.mp ?_⟩, fun hin => ?_⟩
        · exact ⟨(hserved hfiles hprotect).mp hd.1, hd.2.resolve_left hfiles⟩
        · have hread := hiff.mpr hin.2
          exact ⟨(hserved hfiles hprotect).mpr hread.1, .inr hread.2⟩

theorem writeAddress_of_writesTo (h : WritesTo host gp p apdu memp) :
    writeAddress host gp apdu = some memp := by
  by_cases hfiles : ToFiles host apdu
  case pos => exact (if_pos hfiles).trans (h.files hfiles)
  case neg => exact (if_neg hfiles).trans (h.mapped hfiles)

theorem run_writeMemory (h : WritesTo host gp p apdu memp) :
    writeMemory.run host gp p apdu =
      ((withData host gp apdu memp).afterWrite host (writeForm apdu)).nmndRespond .nm .noError p
        apdu := by
  change (gp.writeMemory host p apdu).2.nmndRespond .nm (gp.writeMemory host p apdu).1 p apdu = _
  rw [writeMemory_of_writesTo h]

theorem mem_run_writeMemory (h : WritesTo host gp p apdu memp) :
    (writeMemory.run host gp p apdu).mem =
      (withData host gp apdu memp).touch host (writeForm apdu) := by
  rw [run_writeMemory h, mem_nmndRespond, afterWrite_eq]

theorem sound_withData (hhost : host.Sound gp) : host.Sound (withData host gp apdu memp) :=
  { hhost with
    translate_eq := hhost.translate_eq
    translate_apart := hhost.translate_apart }

theorem mem_withData_add {k : Nat} (hk : k < readCount apdu) :
    (withData host gp apdu memp).mem (memp + k) = apdu (dataAt host apdu + k) :=
  Image.copy_add hk

theorem mem_of_not_touched {a : Nat} (h : WritesTo host gp p apdu memp)
    (ha : ¬Touched host gp apdu a) :
    (writeMemory.run host gp p apdu).mem a = (withData host gp apdu memp).mem a := by
  rw [mem_run_writeMemory h]
  exact touch_of_not (fun hsum => ha (.inl hsum)) fun hreset => ha (.inr hreset)

theorem mem_configCheckSum (hhost : host.Sound gp) (h : WritesTo host gp p apdu memp)
    (hsum : writeForm apdu &&& CNFG_CS_RECALC ≠ 0) :
    (writeMemory.run host gp p apdu).mem gp.configCheckSum =
      (withData host gp apdu memp).computeConfigCheckSum := by
  rw [mem_run_writeMemory h]
  exact touch_configCheckSum (sound_withData hhost) hsum

theorem mem_resetCause (h : WritesTo host gp p apdu memp)
    (hreset : writeForm apdu &&& ACTION_RESET ≠ 0) :
    (writeMemory.run host gp p apdu).mem (gp.nmp + host.resetCause) = IzotSoftwareReset := by
  rw [mem_run_writeMemory h]
  exact touch_resetCause hreset

theorem addresses_run (h : WritesTo host gp p apdu memp) :
    (writeMemory.run host gp p apdu).eep = gp.eep ∧
      (writeMemory.run host gp p apdu).nmp = gp.nmp ∧
        (writeMemory.run host gp p apdu).tsaRespBufSize = gp.tsaRespBufSize := by
  rw [run_writeMemory h, nmndRespond_eq, afterWrite_eq]
  exact ⟨rfl, rfl, rfl⟩

/-- The flag for the protection is not among the bytes that the form changes. -/
theorem readWriteProtect_run (hhost : host.Sound gp) (h : WritesTo host gp p apdu memp) :
    (writeMemory.run host gp p apdu).readWriteProtect =
      (withData host gp apdu memp).readWriteProtect := by
  have heep := (addresses_run h).1
  have hflag : (writeMemory.run host gp p apdu).mem
      (gp.readOnlyData + IZOT_READONLY_RW_PROTECT.field) =
        (withData host gp apdu memp).mem (gp.readOnlyData + IZOT_READONLY_RW_PROTECT.field) := by
    refine mem_of_not_touched h ?_
    have hapart := resetCause_apart hhost
    have hstate : EEPROM.nodeState = 3668 := rfl
    rw [readOnlyData_eq]
    rintro (⟨-, ha⟩ | ⟨-, ha⟩)
    · rw [configCheckSum_eq] at ha
      have hfield : IZOT_READONLY_RW_PROTECT.field < 3658 := by decide
      omega
    · have hfield : IZOT_READONLY_RW_PROTECT.field < 3658 := by decide
      omega
  rw [readWriteProtect, readWriteProtect, Image.getAttribute, Image.getAttribute, readOnlyData_eq,
    readOnlyData_eq, heep]
  rw [readOnlyData_eq] at hflag
  rw [hflag]
  rfl

theorem readMemp_of_writeMemp {mode : UInt8} {offset memp : Nat}
    (h : gp.writeMemp mode offset = some memp) :
    gp.readMemp mode offset = memp ∧ mode ≠ MFG_RELATIVE := by
  unfold writeMemp at h
  unfold readMemp
  by_cases h0 : mode = ABSOLUTE_MEM_ADDR
  case pos =>
    rw [if_pos h0] at h
    rw [if_pos h0]
    exact ⟨Option.some.inj h, h0 ▸ by decide⟩
  case neg =>
    rw [if_neg h0] at h
    rw [if_neg h0]
    by_cases h2 : mode = CONFIG_RELATIVE
    case pos =>
      rw [if_pos h2] at h
      rw [if_pos h2]
      exact ⟨Option.some.inj h, h2 ▸ by decide⟩
    case neg =>
      rw [if_neg h2] at h
      rw [if_neg h2]
      by_cases h3 : mode = STAT_RELATIVE
      case pos =>
        rw [if_pos h3] at h
        rw [if_pos h3]
        exact ⟨Option.some.inj h, h3 ▸ by decide⟩
      case neg =>
        rw [if_neg h3] at h
        rw [if_neg h3]
        by_cases h1 : mode = READ_ONLY_RELATIVE
        case pos =>
          rw [if_pos h1] at h
          have hmfg : mode ≠ MFG_RELATIVE := h1 ▸ by decide
          rw [if_neg hmfg]
          exact ⟨Option.some.inj h, hmfg⟩
        case neg =>
          rw [if_neg h1] at h
          exact absurd h (by simp)

theorem readMemp_congr {gp' : AppData} (heep : gp'.eep = gp.eep) (hnmp : gp'.nmp = gp.nmp)
    (mode : UInt8) (offset : Nat) : gp'.readMemp mode offset = gp.readMemp mode offset := by
  unfold readMemp absolute configData readOnlyData
  rw [heep, hnmp]

/-- A read after a write, by whatever request has the same location. -/
def readAfter (host : MemoryHost) (gp : AppData) (p : APPReceiveParam) (apdu : Apdu)
    (q : Queue TSASendParam) : AppData :=
  (writeMemory.run host gp p apdu).withQueue q

theorem readMemp_readAfter (hfiles : ¬ToFiles host apdu) (h : WritesTo host gp p apdu memp)
    (q : Queue TSASendParam) :
    (readAfter host gp p apdu q).readMemp (readMode apdu) (readOffset apdu) = memp := by
  obtain ⟨heep, hnmp, -⟩ := addresses_run h
  exact (readMemp_congr heep hnmp _ _).trans (readMemp_of_writeMemp (h.mapped hfiles)).1

theorem readAllowed_readAfter (h : WritesTo host gp p apdu memp) (q : Queue TSASendParam) :
    (readAfter host gp p apdu q).readAllowed host memp (readCount apdu) =
      gp.readAllowed host memp (readCount apdu) := by
  rw [readAllowed, readAllowed, readOnlyData_eq, readOnlyData_eq, domainTable_eq, domainTable_eq]
  change ((writeMemory.run host gp p apdu).eep ≤ memp &&
    memp + readCount apdu < (writeMemory.run host gp p apdu).eep + 72 + 15 * 0 || _) = _
  rw [(addresses_run h).1]

/-- What a read shows of a byte that has been written. -/
def shown (host : MemoryHost) (gp : AppData) (p : APPReceiveParam) (apdu : Apdu) (memp k : Nat) :
    UInt8 :=
  if ToFiles host apdu then (writeMemory.run host gp p apdu).mem (memp + k)
  else if memp = gp.nmp ∧ readCount apdu = 1 then BASE_FIRMWARE_VERSION
  else if memp + k = gp.configData + IzotConfigData.clock then
    IZOT_CONFIG_INPUT_CLOCK.put ((writeMemory.run host gp p apdu).mem (memp + k)) 0
  else (writeMemory.run host gp p apdu).mem (memp + k)

theorem getElem_cons_slice (code : UInt8) (m : Image) (a n : Nat) {k : Nat} (hk : k < n) :
    (code :: m.slice a n)[1 + k]? = some (m (a + k)) := by
  rw [Nat.add_comm, List.getElem?_cons_succ, Image.slice, List.getElem?_map,
    List.getElem?_range hk, Option.map_some]

theorem served_of_readDone {q : Queue TSASendParam} {p' : APPReceiveParam} {apdu' : Apdu}
    (h : WritesTo host gp p apdu memp) (hdata : ∀ k < 4, apdu'.data k = apdu.data k)
    (hsize : 5 ≤ p'.pduSize)
    (hanswers : readMemory.Answers host (readAfter host gp p apdu q) p' apdu' r)
    (hdone : ReadDone apdu' r) :
    readCount apdu ≤ gp.tsaRespBufSize ∧
      r.apdu = (readAfter host gp p apdu q).readAnswer host apdu ∧
        ReadServed host (readAfter host gp p apdu q) apdu := by
  obtain ⟨-, -, hcount⟩ := read_congr hdata
  have hfit : readCount apdu' ≤ (readAfter host gp p apdu q).tsaRespBufSize := by
    by_contra hlong
    exact (readMemory_answers_long (by omega) hanswers).2 hdone
  obtain ⟨-, hr⟩ := readMemory_answers hsize hfit hanswers
  rw [readAnswer_congr hdata] at hr
  have hdone' : ReadDone apdu r := by
    rw [ReadDone, ← hcount]
    exact hdone
  have hbuf := (addresses_run h).2.2
  exact ⟨hcount ▸ hfit.trans (Nat.le_of_eq hbuf), hr, ((readDone_iff hr).mp hdone').1⟩

theorem getElem_of_served (hhost : host.Sound gp) (h : WritesTo host gp p apdu memp)
    {q : Queue TSASendParam} (hr : r.apdu = (readAfter host gp p apdu q).readAnswer host apdu)
    (hserved : ReadServed host (readAfter host gp p apdu q) apdu) {k : Nat}
    (hk : k < readCount apdu) : r.apdu[1 + k]? = some (shown host gp p apdu memp k) := by
  by_cases hfiles : ToFiles host apdu
  case pos =>
    rw [ReadServed, if_pos hfiles] at hserved
    obtain ⟨addr, haddr⟩ := Option.isSome_iff_exists.mp hserved
    have hsame : addr = memp := hhost.translate_eq haddr (h.files hfiles)
    rw [hr, readAnswer_of_file hfiles haddr, getElem_cons_slice _ _ _ _ hk, shown, if_pos hfiles, hsame]
    rfl
  case neg =>
    obtain ⟨heep, hnmp, -⟩ := addresses_run h
    rw [hr, readAnswer_of_served hfiles hserved, readMemp_readAfter hfiles h, shown, if_neg hfiles,
      readBytes]
    have hnmp' : (readAfter host gp p apdu q).slowClock.nmp = gp.nmp := hnmp
    have hclock : (readAfter host gp p apdu q).configData = gp.configData := by
      rw [configData_eq, configData_eq]
      exact congrArg (· + 47) heep
    rw [hnmp']
    by_cases hzero : memp = gp.nmp ∧ readCount apdu = 1
    case pos =>
      have hk0 : k = 0 := by omega
      rw [if_pos hzero, if_pos hzero, hk0]
      rfl
    case neg =>
      rw [if_neg hzero, if_neg hzero, getElem_cons_slice _ _ _ _ hk, mem_slowClock, hclock]
      rfl

theorem exists_readDone (hfiles : ¬ToFiles host apdu) (h : WritesTo host gp p apdu memp)
    (hcount : readCount apdu ≤ gp.tsaRespBufSize)
    (hallowed : (writeMemory.run host gp p apdu).readWriteProtect →
      gp.readAllowed host memp (readCount apdu)) :
    ∃ (q : Queue TSASendParam) (p' : APPReceiveParam) (r : TSASendParam), 5 ≤ p'.pduSize ∧
      readMemory.Answers host (readAfter host gp p apdu q) p' apdu r ∧ ReadDone apdu r := by
  obtain ⟨heep, hnmp, hbuf⟩ := addresses_run h
  let p' : APPReceiveParam := { (default : APPReceiveParam) with pduSize := 5 }
  have hroom : (readAfter host gp p apdu EntryPair.emptyQueue).RoomToRespond := by
    change EntryPair.emptyQueue.queueEntries + 1 < EntryPair.emptyQueue.queueCapacity
    decide
  have hfit : readCount apdu ≤ (readAfter host gp p apdu EntryPair.emptyQueue).tsaRespBufSize :=
    hcount.trans (Nat.le_of_eq hbuf.symm)
  obtain ⟨r, hanswers, hr⟩ : ∃ r, readMemory.Answers host
      (readAfter host gp p apdu EntryPair.emptyQueue) p' apdu r ∧
        r.apdu = (readAfter host gp p apdu EntryPair.emptyQueue).readAnswer host apdu :=
    exists_readMemory_answers hroom (by decide) hfit
  refine ⟨_, p', r, by decide, hanswers, (readDone_iff hr).mpr ⟨?_, .inr ?_⟩⟩
  · rw [ReadServed, if_neg hfiles, readMemp_readAfter hfiles h]
    intro hprotect
    exact (readAllowed_readAfter h _).trans (hallowed hprotect)
  · exact (readMemp_of_writeMemp (h.mapped hfiles)).2

theorem writesTo_congr {apdu' : Apdu} (h : WritesTo host gp p apdu memp)
    (hin : ∀ k < p.pduSize, apdu' k = apdu k) :
    WritesTo host gp p apdu' memp ∧ dataAt host apdu' = dataAt host apdu ∧
      readCount apdu' = readCount apdu ∧ writeForm apdu' = writeForm apdu := by
  have hlong := h.long
  obtain ⟨hmode, hoffset, hcount, hform⟩ := write_congr fun k hk => hin k (by omega)
  have hfiles : ToFiles host apdu' ↔ ToFiles host apdu := by
    rw [ToFiles, ToFiles, hmode, hoffset, hcount]
  have hat : dataAt host apdu' = dataAt host apdu := by
    rw [dataAt, dataAt]
    exact if_congr hfiles rfl rfl
  refine ⟨⟨hlong, ?_, ?_, ?_, ?_, ?_⟩, hat, hcount, hform⟩
  · rw [hcount]
    exact h.size
  · rw [hfiles, hoffset, hcount]
    exact h.files
  · rw [hfiles, hmode, hoffset]
    exact h.mapped
  · rw [hfiles, hcount]
    exact h.inRange
  · rw [hfiles, hcount]
    exact h.allowed

/-- Nothing that is written in the memory map lies in the EEPROM. -/
theorem apart_of_nmp (hhost : host.Sound gp) {a : Nat} (hlo : gp.eep ≤ a) (hhi : a ≤ gp.eep + 3658) :
    a ≠ gp.nmp := by
  have hlog : 3668 < host.sizeofEEPROM := hhost.log_lt
  have hcause := hhost.resetCause_lt
  have hapart := hhost.apart
  omega

theorem not_protect_of_nmp (hhost : host.Sound gp) (hfiles : ¬ToFiles host apdu)
    (h : WritesTo host gp p apdu gp.nmp) (hone : readCount apdu = 1) :
    ¬(writeMemory.run host gp p apdu).readWriteProtect = true := by
  intro hprotect
  rw [readWriteProtect_run hhost h] at hprotect
  have hkept : (withData host gp apdu gp.nmp).mem
      (gp.readOnlyData + IZOT_READONLY_RW_PROTECT.field) =
        gp.mem (gp.readOnlyData + IZOT_READONLY_RW_PROTECT.field) := by
    have hne := apart_of_nmp hhost (a := gp.readOnlyData + IZOT_READONLY_RW_PROTECT.field)
      (Nat.le_add_right _ _) (Nat.add_le_add_left (by decide) _)
    exact Image.copy_of_not_mem (by omega)
  have hold : gp.readWriteProtect = true := by
    rw [readWriteProtect, Image.getAttribute] at hprotect ⊢
    rw [← hkept]
    exact hprotect
  have hallowed := h.allowed hfiles hold
  rw [writeAllowed, Bool.and_eq_true, decide_eq_true_iff, decide_eq_true_iff, configData_eq,
    domainTable_eq] at hallowed
  exact apart_of_nmp hhost (by omega) (by omega) rfl

/-- The last error is in the EEPROM, away from what the form of a write changes. -/
theorem errorLog_apart (hhost : host.Sound gp) {k : Nat} (hk : k < 4) :
    ¬Touched host gp apdu (gp.eep + EEPROM.errorLog + k) := by
  have hapart := resetCause_apart hhost
  have hlog : EEPROM.errorLog = 3659 := rfl
  have hstate : EEPROM.nodeState = 3668 := rfl
  rintro (⟨-, ha⟩ | ⟨-, ha⟩)
  · rw [configCheckSum_eq] at ha
    omega
  · omega

theorem errorLog_run (hhost : host.Sound gp) (hto : WritesTo host gp p apdu memp) :
    (writeMemory.run host gp p apdu).errorLog = (withData host gp apdu memp).errorLog :=
  errorLog_congr (eep_run writeMemory) fun _ hk =>
    mem_of_not_touched hto (errorLog_apart hhost hk)

theorem handle_writeMemory_eq (hhost : host.Sound gp) (hto : WritesTo host gp p apdu memp)
    (h : writeMemory.LogsFull gp p apdu →
      (withData host gp apdu memp).errorLog = LonStatusCode.noBufferAvailable.code) :
    writeMemory.handle host gp p apdu = writeMemory.run host gp p apdu :=
  handle_eq_run fun hfull => (errorLog_run hhost hto).trans (h hfull)

theorem log_of_stores (hhost : host.Sound gp) (hto : WritesTo host gp p apdu memp)
    (h : Stores host gp p apdu memp) (hfull : writeMemory.LogsFull gp p apdu) :
    (withData host gp apdu memp).errorLog = LonStatusCode.noBufferAvailable.code := by
  have hsame : (writeMemory.handle host gp p apdu).errorLog =
      (withData host gp apdu memp).errorLog := by
    refine errorLog_congr (eep_handle writeMemory) fun k hk => ?_
    refine (h.stored _ fun ht => absurd ht (errorLog_apart hhost hk)).trans ?_
    change gp.mem.copy memp apdu 6 (readCount apdu) (gp.eep + EEPROM.errorLog + k) =
      gp.mem.copy memp apdu (dataAt host apdu) (readCount apdu) (gp.eep + EEPROM.errorLog + k)
    by_cases hfiles : ToFiles host apdu
    case pos =>
      have hapart := hhost.translate_apart (hto.files hfiles)
      have hlt := hhost.log_lt
      have hstate : EEPROM.nodeState = EEPROM.errorLog + 9 := rfl
      rw [Image.copy_of_not_mem (by omega), Image.copy_of_not_mem (by omega)]
    case neg => rw [dataAt, if_neg hfiles]
  rw [← hsame]
  exact errorLog_handle hfull

/-- What is read back is what the read shows. -/
theorem shown_of_stores (hhost : host.Sound gp) (hfiles : ¬ToFiles host apdu)
    (hto : WritesTo host gp p apdu memp) (h : Stores host gp p apdu memp)
    (hrun : writeMemory.handle host gp p apdu = writeMemory.run host gp p apdu)
    (hcount : readCount apdu ≤ gp.tsaRespBufSize)
    (hallowed : (writeMemory.run host gp p apdu).readWriteProtect →
      gp.readAllowed host memp (readCount apdu)) {k : Nat} (hk : k < readCount apdu) :
    shown host gp p apdu memp k = apdu (6 + k) := by
  obtain ⟨q, p', r, hsize, hanswers, hdone⟩ := exists_readDone hfiles hto hcount hallowed
  have hreadBack := h.readBack
  rw [hrun] at hreadBack
  have hread := hreadBack q p' apdu r hsize (fun _ _ => rfl) hanswers hdone k hk
  obtain ⟨-, hr, hserved⟩ := served_of_readDone hto (fun _ _ => rfl) hsize hanswers hdone
  rw [getElem_of_served hhost hto hr hserved hk] at hread
  exact Option.some.inj hread

theorem keepsData_of_respects (hhost : host.Sound gp) (hbuf : 73 ≤ gp.tsaRespBufSize)
    (h : writeMemory.Respects host gp p apdu) (hto : WritesTo host gp p apdu memp) :
    KeepsData host gp p apdu memp := by
  have haccepted : WriteAccepted host gp p apdu := accepted_iff.mpr ⟨memp, hto⟩
  obtain ⟨memp', haddr, hstores⟩ := h.stores rfl haccepted
  obtain rfl : memp' = memp := Option.some.inj (haddr.symm.trans (writeAddress_of_writesTo hto))
  have hlog := log_of_stores hhost hto hstores
  have hrun := handle_writeMemory_eq hhost hto hlog
  have hbyte (k : Nat) (hk : k < readCount apdu) :
      (writeMemory.run host gp p apdu).mem (memp' + k) = apdu (6 + k) := by
    rw [← hrun]
    exact (hstores.stored _ fun _ => ⟨by omega, by omega⟩).trans (Image.copy_add hk)
  have hdata (k : Nat) (hk : k < readCount apdu) (ht : ¬Touched host gp apdu (memp' + k)) :
      apdu (dataAt host apdu + k) = apdu (6 + k) :=
    (mem_withData_add hk).symm.trans ((mem_of_not_touched hto ht).symm.trans (hbyte k hk))
  refine {
    complete := hstores.complete
    window := fun hprotect => ((h.window hprotect).mp haccepted).2.1
    data := fun k hk ht => ⟨?_, hdata k hk ht⟩
    checkSum := fun hsum k hk ha => ?_
    resetCause := fun hreset k hk ha => ?_
    version := fun hfiles hnmp hone => ?_
    log := hlog
    clock := fun hfiles hcount hallowed k hk ha => ?_ }
  · -- Another byte behind the PDU would be stored as well. It is for a file, so it is not in the log.
    by_contra hbehind
    have hlong := hto.long
    have hcomplete := hstores.complete
    have hfiles : ToFiles host apdu := by
      by_contra hnot
      rw [dataAt, if_neg hnot] at hbehind
      omega
    have hapart := hhost.translate_apart (hto.files hfiles)
    have hlt := hhost.log_lt
    have hin (j : Nat) (hj : j < p.pduSize) : Image.set apdu (dataAt host apdu + k)
        (apdu (dataAt host apdu + k) + 1) j = apdu j := Image.set_of_ne (by omega)
    obtain ⟨hto', hat, hcount, hform⟩ := writesTo_congr hto hin
    have hsame := congrArg (fun gp' => gp'.mem (memp' + k)) (h.within _ (hin 0 (by omega)) hin)
    rw [mem_handle (by omega), mem_handle (by omega)] at hsame
    have ht' : ¬Touched host gp (Image.set apdu (dataAt host apdu + k)
        (apdu (dataAt host apdu + k) + 1)) (memp' + k) := by
      rw [Touched, hform]
      exact ht
    have hnew := (mem_of_not_touched hto' ht').trans (mem_withData_add (hcount.symm ▸ hk))
    rw [hat, Image.set_self, hsame, mem_of_not_touched hto ht, mem_withData_add hk] at hnew
    exact absurd hnew (by simp)
  · have hmem := mem_configCheckSum hhost hto hsum
    rw [← ha, hbyte k hk] at hmem
    exact hmem.symm
  · have hmem := mem_resetCause hto hreset
    rw [← ha, hbyte k hk] at hmem
    exact hmem.symm
  · subst hnmp
    have hshown := shown_of_stores hhost hfiles hto hstores hrun (by omega)
      (fun hprotect => absurd hprotect (not_protect_of_nmp hhost hfiles hto hone)) (k := 0)
        (by omega)
    rw [shown, if_neg hfiles, if_pos ⟨rfl, hone⟩] at hshown
    exact hshown.symm
  · have hshown := shown_of_stores hhost hfiles hto hstores hrun hcount
      (fun hprotect => hallowed (readWriteProtect_run hhost hto ▸ hprotect)) hk
    have hzero : ¬(memp' = gp.nmp ∧ readCount apdu = 1) := by
      rintro ⟨hnmp, hone⟩
      rw [configData_eq] at ha
      have hclock : IzotConfigData.clock = 8 := rfl
      exact apart_of_nmp hhost (a := memp') (by omega) (by omega) hnmp
    rw [shown, if_neg hfiles, if_neg hzero, if_pos ha, hbyte k hk] at hshown
    exact hshown

theorem mem_of_keepsData (hhost : host.Sound gp) (hto : WritesTo host gp p apdu memp)
    (h : KeepsData host gp p apdu memp) {k : Nat} (hk : k < readCount apdu) :
    (writeMemory.run host gp p apdu).mem (memp + k) = apdu (6 + k) := by
  by_cases ht : Touched host gp apdu (memp + k)
  case pos =>
    obtain ⟨hsum, ha⟩ | ⟨hreset, ha⟩ := ht
    · rw [ha, mem_configCheckSum hhost hto hsum]
      exact h.checkSum hsum k hk ha
    · rw [ha, mem_resetCause hto hreset]
      exact h.resetCause hreset k hk ha
  case neg => rw [mem_of_not_touched hto ht, mem_withData_add hk, (h.data k hk ht).2]

theorem stores_of_keepsData (hhost : host.Sound gp) (hto : WritesTo host gp p apdu memp)
    (h : KeepsData host gp p apdu memp) : Stores host gp p apdu memp := by
  have hrun := handle_writeMemory_eq hhost hto h.log
  refine ⟨h.complete, ?_, ?_⟩
  all_goals rw [hrun]
  · intro a ha
    by_cases hin : memp ≤ a ∧ a < memp + readCount apdu
    case pos =>
      obtain ⟨k, rfl⟩ := Nat.exists_eq_add_of_le hin.1
      have hk : k < readCount apdu := by omega
      rw [mem_of_keepsData hhost hto h hk, Image.copy_add hk]
    case neg =>
      have hkept : (withData host gp apdu memp).mem a = gp.mem a :=
        Image.copy_of_not_mem (by omega)
      rw [mem_of_not_touched hto fun ht => hin (ha ht), hkept, Image.copy_of_not_mem (by omega)]
  · intro q p' apdu' r hsize hdata hanswers hdone k hk
    obtain ⟨hcount, hr, hserved⟩ := served_of_readDone hto hdata hsize hanswers hdone
    have hbyte := mem_of_keepsData hhost hto h hk
    rw [getElem_of_served hhost hto hr hserved hk, shown]
    by_cases hfiles : ToFiles host apdu
    case pos => rw [if_pos hfiles, hbyte]
    case neg =>
      rw [if_neg hfiles]
      by_cases hzero : memp = gp.nmp ∧ readCount apdu = 1
      case pos =>
        have hk0 : k = 0 := by omega
        rw [if_pos hzero, hk0, ← h.version hfiles hzero.1 hzero.2]
      case neg =>
        rw [if_neg hzero, hbyte]
        by_cases ha : memp + k = gp.configData + IzotConfigData.clock
        case neg => rw [if_neg ha]
        case pos =>
          rw [if_pos ha, h.clock hfiles hcount ?_ k hk ha]
          intro hprotect
          rw [ReadServed, if_neg hfiles, readMemp_readAfter hfiles hto] at hserved
          rw [← readAllowed_readAfter hto q]
          exact hserved ((readWriteProtect_run hhost hto).trans hprotect)

theorem within_of_writeGuarded (hcode : apdu.nmCode ≠ 0) (hhost : host.Sound gp)
    (h : WriteGuarded host gp p apdu) {apdu' : Apdu} (h0 : apdu' 0 = apdu 0)
    (hin : ∀ k < p.pduSize, apdu' k = apdu k) :
    writeMemory.handle host gp p apdu' = writeMemory.handle host gp p apdu := by
  have hw : gp.writeMemory host p apdu' = gp.writeMemory host p apdu := by
    refine writeMemory_congr hin fun memp hto => afterWrite_congr hhost fun a ha => ?_
    by_cases hrange : memp ≤ a ∧ a < memp + readCount apdu
    case neg => rw [Image.copy_of_not_mem (by omega), Image.copy_of_not_mem (by omega)]
    case pos =>
      obtain ⟨k, rfl⟩ := Nat.exists_eq_add_of_le hrange.1
      have hk : k < readCount apdu := by omega
      rw [Image.copy_add hk, Image.copy_add hk]
      exact hin _ ((h.keeps memp hto).data k hk ha).1
  refine handle_congr hcode h0 hin ?_
  change gp.handleNMWriteMemory host p apdu' = gp.handleNMWriteMemory host p apdu
  rw [handleNMWriteMemory, handleNMWriteMemory, hw, nmndRespond_congr_code hcode h0]

theorem window_of_writeGuarded (hhost : host.Sound gp) (h : WriteGuarded host gp p apdu) :
    WriteWindow host gp p apdu := by
  intro hprotect
  constructor
  · intro haccepted
    obtain ⟨memp, hto⟩ := accepted_iff.mp haccepted
    have hkeeps := h.keeps memp hto
    have hfiles := hkeeps.window hprotect
    have hallowed := hto.allowed hfiles hprotect
    rw [writeAllowed, Bool.and_eq_true, decide_eq_true_iff, decide_eq_true_iff] at hallowed
    exact ⟨⟨hkeeps.complete, hto.size⟩, hfiles, memp, hto.mapped hfiles, hallowed.1,
      Nat.le_of_lt hallowed.2⟩
  · rintro ⟨hcomplete, hfiles, memp, hmemp, hconfig⟩
    exact accepted_of_inConfigData hhost hcomplete hfiles hmemp hconfig
      (h.last memp hprotect hcomplete hfiles hmemp hconfig.1)

theorem last_of_window (h : WriteWindow host gp p apdu) (hprotect : gp.readWriteProtect = true)
    (hcomplete : WriteComplete p apdu) (hfiles : ¬ToFiles host apdu)
    (hmemp : gp.writeMemp (readMode apdu) (readOffset apdu) = some memp)
    (hlo : gp.configData ≤ memp) : memp + readCount apdu ≠ gp.domainTable 0 := by
  intro hend
  obtain ⟨memp', hto⟩ := accepted_iff.mp ((h hprotect).mpr
    ⟨hcomplete, hfiles, memp, hmemp, hlo, Nat.le_of_eq hend⟩)
  obtain rfl : memp = memp' := Option.some.inj (hmemp.symm.trans (hto.mapped hfiles))
  have hallowed := hto.allowed hfiles hprotect
  rw [writeAllowed, Bool.and_eq_true, decide_eq_true_iff, decide_eq_true_iff] at hallowed
  omega

theorem writeMemory_fits (h : writeMemory.Answers host gp p apdu r) :
    r.apdu.length ≤ gp.tsaRespBufSize := by
  have h' : (gp.handleNMWriteMemory host p apdu).tsaRespQ.toList = gp.tsaRespQ.toList ++ [r] :=
    answers_iff.mp h
  rw [handleNMWriteMemory] at h'
  have hq : (gp.writeMemory host p apdu).2.tsaRespQ = gp.tsaRespQ ∧
      (gp.writeMemory host p apdu).2.tsaRespBufSize = gp.tsaRespBufSize := by
    obtain ⟨memp, hto⟩ | ⟨sts, -, hw⟩ := writeMemory_cases gp host p apdu
    · rw [writeMemory_of_writesTo hto, afterWrite_eq]
      exact ⟨rfl, rfl⟩
    · rw [hw]
      exact ⟨rfl, rfl⟩
  rw [← hq.1] at h'
  rw [← hq.2]
  exact (eq_of_nmndRespond h').2

theorem mem_of_not_accepted (h : ¬WriteAccepted host gp p apdu) :
    (writeMemory.run host gp p apdu).mem = gp.mem := by
  refine mem_handleNMWriteMemory.trans ?_
  obtain hto | ⟨sts, -, hw⟩ := writeMemory_cases gp host p apdu
  · exact absurd (accepted_iff.mpr hto) h
  · rw [hw]

theorem queryIdAllowed_iff :
    gp.queryIdAllowed apdu memp = true ↔
      gp.readOnlyData ≤ memp ∧ memp + (apdu.data 3).toNat < gp.domainTable 0 := by
  rw [queryIdAllowed, Bool.and_eq_true, decide_eq_true_iff, decide_eq_true_iff]

/-- What the comparison with the memory leads to. -/
def queryIdOutcome (gp : AppData) (apdu : Apdu) (memp : Nat) : IdAnswer :=
  if ¬gp.queryIdAllowed apdu memp then .failed
  else if ¬gp.queryIdMatch apdu memp (queryIdCount apdu) then .null
  else .id

theorem queryIdAnswer_eq (hsize : p.pduSize = 6 + queryIdCount apdu)
    (hselected : gp.queryIdSelected (apdu.data 0) = some true)
    (hmemp : gp.queryIdMemp (queryIdMode apdu) (queryIdOffset apdu) = some memp) :
    gp.queryIdAnswer p apdu = queryIdOutcome gp apdu memp := by
  rw [queryIdAnswer, hselected]
  refine (if_pos (by omega)).trans ?_
  rw [queryIdMemory, hmemp]
  rfl

theorem run_queryId (hsize : p.pduSize = 6 + queryIdCount apdu)
    (hselected : gp.queryIdSelected (apdu.data 0) = some true)
    (hmemp : gp.queryIdMemp (queryIdMode apdu) (queryIdOffset apdu) = some memp) :
    queryId.run host gp p apdu =
      gp.writeResponse p.reqId (queryIdOutcome gp apdu memp = .null) false
        (gp.queryIdResponse (queryIdOutcome gp apdu memp)) := by
  change gp.handleNMQueryId p apdu = _
  rw [handleNMQueryId, if_neg (by omega), if_neg (by omega),
    queryIdAnswer_eq hsize hselected hmemp]

theorem queryIdResponse_id (hbuf : 73 ≤ gp.tsaRespBufSize) :
    gp.queryIdResponse .id = (NM_resp_success ||| NM_QUERY_ID) :: gp.idBytes := by
  have hids : 1 + IZOT_UNIQUE_ID_LENGTH + IZOT_PROGRAM_ID_LENGTH ≤ gp.tsaRespBufSize :=
    Nat.le_trans (by decide) hbuf
  exact if_pos ⟨rfl, hids⟩

theorem failure_ne_id (ids : List UInt8) :
    [NM_resp_failure ||| NM_QUERY_ID] ≠ (NM_resp_success ||| NM_QUERY_ID) :: ids := by
  intro h
  have hcode : NM_resp_failure ||| NM_QUERY_ID ≠ NM_resp_success ||| NM_QUERY_ID := by decide
  exact hcode (List.cons.inj h).1

theorem queryId_window_iff (host : MemoryHost) (p : APPReceiveParam) (apdu : Apdu)
    (hbuf : 73 ≤ gp.tsaRespBufSize) :
    QueryIdWindow host gp p apdu ↔ (gp.RoomToRespond → QueryGuarded gp p apdu) := by
  constructor
  · intro h hroom hsize hselected memp hmemp hlo
    obtain ⟨r, hanswers, hr, hnull⟩ := exists_writeResponse hroom p.reqId
      (queryIdOutcome gp apdu memp = .null) false
        (gp.queryIdResponse (queryIdOutcome gp apdu memp))
    have hanswers' : queryId.Answers host gp p apdu r := by
      rw [answers_iff, run_queryId hsize hselected hmemp]
      exact hanswers
    obtain ⟨hmatch, hother, hout⟩ := h memp r hsize hselected hmemp hanswers'
    constructor
    · intro hlow
      by_contra hend
      obtain ⟨hsome, hbytes⟩ := hout fun hin => hend hin.2
      have hallowed := queryIdAllowed_iff.mpr ⟨hlo, hlow⟩
      rw [queryIdOutcome, if_neg (not_not.mpr hallowed)] at hr hnull
      by_cases hsame : gp.queryIdMatch apdu memp (queryIdCount apdu) = true
      case pos =>
        rw [if_neg (not_not.mpr hsame), queryIdResponse_id hbuf] at hr
        exact failure_ne_id _ (hbytes.symm.trans hr)
      case neg =>
        rw [if_pos hsame, hsome] at hnull
        exact absurd hnull (by decide)
    · intro hend
      by_contra hlow
      have hallowed : ¬gp.queryIdAllowed apdu memp = true := fun hallowed =>
        hlow (queryIdAllowed_iff.mp hallowed).2
      rw [queryIdOutcome, if_pos hallowed] at hr hnull
      by_cases hsame : Matches gp apdu memp
      case pos => exact failure_ne_id _ (hr.symm.trans (hmatch ⟨⟨hlo, hend⟩, hsame⟩).2)
      case neg =>
        rw [hother ⟨⟨hlo, hend⟩, hsame⟩] at hnull
        exact absurd hnull (by decide)
  · intro h memp r hsize hselected hmemp hanswers
    rw [answers_iff, run_queryId hsize hselected hmemp] at hanswers
    obtain ⟨hr, hnull⟩ := eq_of_writeResponse hanswers
    have hguarded := h (room_of_writeResponse hanswers) hsize hselected memp hmemp
    have hallowed : gp.queryIdAllowed apdu memp = true ↔ gp.InReadable memp (queryIdCount apdu) :=
      queryIdAllowed_iff.trans (and_congr_right hguarded)
    have hmatch := queryIdMatch_iff gp apdu memp
    refine ⟨fun hin => ?_, fun hin => ?_, fun hout => ?_⟩
    · rw [queryIdOutcome, if_neg (not_not.mpr (hallowed.mpr hin.1)),
        if_neg (not_not.mpr (hmatch.mpr hin.2))] at hr hnull
      exact ⟨hnull, hr.trans (queryIdResponse_id hbuf)⟩
    · rw [queryIdOutcome, if_neg (not_not.mpr (hallowed.mpr hin.1)),
        if_pos fun heq => hin.2 (hmatch.mp heq)] at hnull
      exact hnull
    · rw [queryIdOutcome, if_pos fun hin => hout (hallowed.mp hin)] at hr hnull
      exact ⟨hnull, hr⟩

theorem queryId_fits (hbuf : 73 ≤ gp.tsaRespBufSize) (h : queryId.Answers host gp p apdu r) :
    r.apdu.length ≤ gp.tsaRespBufSize := by
  have h' : (gp.handleNMQueryId p apdu).tsaRespQ.toList = gp.tsaRespQ.toList ++ [r] :=
    answers_iff.mp h
  unfold handleNMQueryId at h'
  split at h'
  case isTrue => exact (eq_of_nmndRespond h').2
  case isFalse =>
    split at h'
    case isTrue =>
      have hbegun : (gp.beginResponse.nmndRespond .nm .invalidMessageLength p apdu).tsaRespQ.toList =
          gp.beginResponse.tsaRespQ.toList ++ [r] := h'
      exact (eq_of_nmndRespond hbegun).2
    case isFalse =>
      rw [(eq_of_writeResponse h').1]
      exact length_queryIdResponse (by omega) _

theorem mem_run_readMemory : (readMemory.run host gp p apdu).mem = gp.mem :=
  mem_handleNMReadMemory

theorem mem_run_queryId : (queryId.run host gp p apdu).mem = gp.mem := mem_handleNMQueryId

theorem readMemory_respects_iff (hcode : apdu.nmCode ≠ 0) (hhost : host.Sound gp)
    (hbuf : 73 ≤ gp.tsaRespBufSize) :
    readMemory.Respects host gp p apdu ↔ readMemory.Guarded host gp p apdu := by
  have hfits := readMemory_fits_iff host p apdu hbuf
  have hwindow := readMemory_window_iff hhost p apdu hbuf
  constructor
  · intro h
    refine ⟨fun hroom hsize => ?_, errorLog_of_mem_handle (h.rejected fun hc => absurd hc (by decide))⟩
    have hwin := hwindow.mp h.window hroom hsize
    exact {
      fits := hfits.mp h.fits hroom hsize
      files := fun hprotect => (hwin hprotect).1
      zero := fun hprotect hfiles => ((hwin hprotect).2 hfiles).1
      pointer := fun hprotect hfiles => ((hwin hprotect).2 hfiles).2.1
      last := fun hprotect hfiles => ((hwin hprotect).2 hfiles).2.2 }
  · rintro ⟨h, hlog⟩
    exact {
      within := fun apdu' h0 hin =>
        handle_congr hcode h0 hin (handleNMReadMemory_congr hcode h0 hin)
      fits := hfits.mpr fun hroom hsize => (h hroom hsize).fits
      window := hwindow.mpr fun hroom hsize hprotect =>
        have hguarded := h hroom hsize
        ⟨hguarded.files hprotect, fun hfiles => ⟨hguarded.zero hprotect hfiles,
          hguarded.pointer hprotect hfiles, hguarded.last hprotect hfiles⟩⟩
      stores := fun hc => absurd hc (by decide)
      rejected := fun _ => by rw [handle_eq_run_of_mem mem_run_readMemory hlog, mem_run_readMemory] }

theorem writeMemory_respects_iff (hcode : apdu.nmCode ≠ 0) (hhost : host.Sound gp)
    (hbuf : 73 ≤ gp.tsaRespBufSize) :
    writeMemory.Respects host gp p apdu ↔ writeMemory.Guarded host gp p apdu := by
  constructor
  · intro h
    exact {
      keeps := fun memp hto => keepsData_of_respects hhost hbuf h hto
      log := fun hnot hfull => errorLog_of_mem_handle (h.rejected fun _ haccepted =>
        (accepted_iff.mp haccepted).elim hnot) hfull
      last := fun memp hprotect hcomplete hfiles hmemp hlo =>
        last_of_window h.window hprotect hcomplete hfiles hmemp hlo }
  · intro h
    exact {
      within := fun apdu' h0 hin => within_of_writeGuarded hcode hhost h h0 hin
      fits := fun r hanswers => writeMemory_fits hanswers
      window := window_of_writeGuarded hhost h
      stores := by
        intro _ haccepted
        obtain ⟨memp, hto⟩ := accepted_iff.mp haccepted
        exact ⟨memp, writeAddress_of_writesTo hto, stores_of_keepsData hhost hto (h.keeps memp hto)⟩
      rejected := by
        intro hrejected
        have hnot := hrejected rfl
        have hmem := mem_of_not_accepted hnot
        rw [handle_eq_run_of_mem hmem (h.log fun memp hto => hnot (accepted_iff.mpr ⟨memp, hto⟩)),
          hmem] }

theorem queryId_respects_iff (hcode : apdu.nmCode ≠ 0) (hbuf : 73 ≤ gp.tsaRespBufSize) :
    queryId.Respects host gp p apdu ↔ queryId.Guarded host gp p apdu := by
  have hwindow := queryId_window_iff host p apdu hbuf
  constructor
  · intro h
    exact ⟨hwindow.mp h.window,
      errorLog_of_mem_handle (h.rejected fun hc => absurd hc (by decide))⟩
  · rintro ⟨h, hlog⟩
    exact {
      within := fun apdu' h0 hin => handle_congr hcode h0 hin (handleNMQueryId_congr hcode h0 hin)
      fits := fun r hanswers => queryId_fits hbuf hanswers
      window := hwindow.mpr h
      stores := fun hc => absurd hc (by decide)
      rejected := fun _ => by rw [handle_eq_run_of_mem mem_run_queryId hlog, mem_run_queryId] }

/-- A memory command respects its windows exactly if none of the tests at their ends goes wrong, and
a write that is carried out finds its data behind the form. -/
theorem respects_iff (hcode : apdu.nmCode = c.code) (hhost : host.Sound gp)
    (hbuf : 73 ≤ gp.tsaRespBufSize) :
    c.Respects host gp p apdu ↔ c.Guarded host gp p apdu := by
  have hcode' : apdu.nmCode ≠ 0 := hcode ▸ code_ne_zero c
  cases c with
  | readMemory => exact readMemory_respects_iff hcode' hhost hbuf
  | writeMemory => exact writeMemory_respects_iff hcode' hhost hbuf
  | queryId => exact queryId_respects_iff hcode' hbuf

def mappedNode : AppData :=
  { ConfigCommand.zeroNode with
    mem := fun k => ConfigCommand.zeroNode.mem (k - 0x10000)
    eep := 0x10000
    nmp := 0x20000
    selectQueryFlag := true }

def mappedHost : MemoryHost where
  nmpVar := 0x30000
  sizeofEEPROM := 3700
  sizeofNmMap := 2400
  resetCause := 60
  dmfWindow := none
  translate _ _ _ := none

theorem sound_mappedHost : mappedHost.Sound mappedNode where
  log_lt := by decide
  resetCause_lt := by decide
  mapped := by decide
  nmpVar_mapped := by decide
  apart := by decide
  nmpVar_eep := by decide
  nmpVar_ne := by decide
  translate_eq h := absurd h (by simp [mappedHost])
  translate_apart h := absurd h (by simp [mappedHost])

def requestOf (pduSize : Nat) : APPReceiveParam := { (default : APPReceiveParam) with
  service := .request
  pduSize := pduSize }

theorem respects_readVersion :
    readMemory.Respects mappedHost mappedNode (requestOf 5)
      (Image.write (fun _ => 0) 0 [0x6D, 0, 0, 0, 1]) :=
  (respects_iff (by decide) sound_mappedHost (by decide)).mpr ⟨fun _ _ =>
    { fits := fun h => absurd h (by decide)
      files := fun h => absurd h (by decide)
      zero := fun h => absurd h (by decide)
      pointer := fun h => absurd h (by decide)
      last := fun h => absurd h (by decide) }, fun h => absurd h (by decide)⟩

/-- A query for the 30 zero bytes from the configuration data on, of which five lie behind it. -/
def longQuery : Apdu := Image.write (fun _ => 0) 0 [0x61, 1, 2, 0, 0, 30]

theorem not_respects_longQuery :
    ¬queryId.Respects mappedHost mappedNode (requestOf 36) longQuery := by
  intro h
  have hguarded := (queryId_window_iff _ _ _ (by decide)).mp h.window (by decide) (by decide) (by decide)
    0x1002F (by decide) (by decide)
  exact absurd (hguarded.mp (by decide)) (by decide)

end MemoryCommand

end LonStack
