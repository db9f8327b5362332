import LonStack.App.Outputs
import LonStack.OsalLog

namespace LonStack

open Lib

abbrev MAX_NV_ARRAYS : Nat := 10
abbrev MAX_NV_SELF_DOC_LENGTH : Nat := 1023
abbrev sizeofSNVTdescStruct : Nat := 2
abbrev sizeofSNVTextension : Nat := 1
abbrev sizeofAliasField : Nat := 3

abbrev sizeofSNVTheader : Nat := 6

/-- A string that ends with its first null character, which is not in `chars`. -/
structure CString where
  chars : List UInt8
  noNul : 0 ∉ chars

namespace CString

def strlen (s : CString) : Nat := s.chars.length

def bytes (s : CString) : List UInt8 := s.chars ++ [0]

theorem length_bytes (s : CString) : s.bytes.length = s.strlen + 1 := List.length_append

end CString

structure NVDefinition where
  priority : UInt8
  direction : UInt8
  /-- Of the first element, and for a variable that is not bindable only. -/
  selector : UInt16
  bind : Bool
  turnaround : UInt8
  service : UInt8
  auth : UInt8
  persist : UInt8
  explodeArray : Bool
  nvLength : UInt8
  snvtDesc : UInt8
  snvtExt : UInt8
  snvtType : UInt8
  rateEst : UInt8
  maxrEst : UInt8
  /-- 0 for a simple variable. -/
  arrayCnt : UInt16
  nvName : Option CString
  nvSdoc : Option CString
  varAddr : Option Nat
  ibol : Option (List UInt8)
  changeable : UInt8

namespace NVDefinition

variable (dp : NVDefinition)

def extRec : Bool := dp.snvtDesc &&& 0x80 ≠ 0

def mre : Bool := dp.snvtExt &&& 0x80 ≠ 0

def re : Bool := dp.snvtExt &&& 0x40 ≠ 0

def nm : Bool := dp.snvtExt &&& 0x20 ≠ 0

def sd : Bool := dp.snvtExt &&& 0x10 ≠ 0

def nc : Bool := dp.snvtExt &&& 0x08 ≠ 0

def dim : Nat := if 0 < dp.arrayCnt then dp.arrayCnt.toNat else 1

def exploded : Bool := 0 < dp.arrayCnt ∧ dp.explodeArray

def nvSelfIdCnt : Nat := if dp.exploded then dp.dim else 1

/-- The length of the name, or of a name with an index and brackets, in 16 bits. -/
def nvNameLen (nvName : CString) : Nat :=
  ((nvName.strlen + 1) % 65536 + if dp.exploded then 5 else 0) % 65536

def docLen : Nat :=
  match dp.nvSdoc with
  | none => 1
  | some nvSdoc => (nvSdoc.strlen + 1) % 65536

def nameTooLong (nvName : CString) : Bool :=
  dp.extRec && dp.nm && (if dp.exploded then 22 else 20) < dp.nvNameLen nvName

def docTooLong : Bool := dp.extRec && dp.sd && MAX_NV_SELF_DOC_LENGTH < dp.docLen

def sizeNeeded (nvName : CString) : Nat :=
  (sizeofSNVTdescStruct * dp.nvSelfIdCnt +
    (if dp.extRec then
      sizeofSNVTextension * dp.nvSelfIdCnt +
        (if dp.mre then dp.nvSelfIdCnt else 0) +
        (if dp.re then dp.nvSelfIdCnt else 0) +
        (if dp.nm then dp.nvNameLen nvName * dp.nvSelfIdCnt else 0) +
        (if dp.sd then dp.docLen * dp.nvSelfIdCnt else 0) +
        (if dp.nc then 2 * dp.nvSelfIdCnt else 0)
    else 0)) % 65536

end NVDefinition

/-- The self-identification data, with `descPtr` and `aliasPtr` as offsets in `sb`. -/
structure SNVTstruct where
  /-- Stored with the high byte first. -/
  length : UInt16
  numNetvars : UInt8
  version : UInt8
  msbNumNetvars : UInt8
  mtagCount : UInt8
  sb : Image
  /-- Behind the last descriptor. -/
  descPtr : Nat
  aliasPtr : Nat

namespace SNVTstruct

structure Cursor where
  sb : Image
  extPtr : Nat

namespace Cursor

def emit (c : Cursor) (bs : List UInt8) : Cursor := ⟨c.sb.write c.extPtr bs, c.extPtr + bs.length⟩

def emitIf (b : Bool) (c : Cursor) (bs : List UInt8) : Cursor := if b then c.emit bs else c

def strcpy (c : Cursor) (s : CString) (len : Nat) : Cursor :=
  ⟨c.sb.write c.extPtr s.bytes, c.extPtr + len⟩

def skip (c : Cursor) (n : Nat) : Cursor := { c with extPtr := c.extPtr + n }

end Cursor

def digits (index : Nat) : Nat := if index < 10 then 1 else if index < 100 then 2 else 3

/-- The name in the record of element `i`. The name of an exploded array is skipped. -/
def emitName (dp : NVDefinition) (nvName : CString) (i : Nat) (c : Cursor) : Cursor :=
  let nvNameLen := (nvName.strlen + 1) % 65536
  if dp.exploded then (c.skip (nvNameLen + digits (i + 1))).emit [0]
  else c.strcpy nvName nvNameLen

def emitSdoc (dp : NVDefinition) (c : Cursor) : Cursor :=
  match dp.nvSdoc with
  | none => c.emit [0]
  | some nvSdoc => c.strcpy nvSdoc ((nvSdoc.strlen + 1) % 65536)

def emitExtension (dp : NVDefinition) (nvName : CString) (i : Nat) (c : Cursor) : Cursor :=
  let c := c.emit [dp.snvtExt]
  let c := c.emitIf dp.mre [dp.maxrEst]
  let c := c.emitIf dp.re [dp.rateEst]
  let c := if dp.nm then emitName dp nvName i c else c
  let c := if dp.sd then emitSdoc dp c else c
  c.emitIf dp.nc [(dp.arrayCnt >>> 8).toUInt8, dp.arrayCnt.toUInt8]

def jumpUp (m : Image) (p jumpBy : Nat) : Nat → Image
  | 0 => m
  | n + 1 => jumpUp (m.set (p + n + jumpBy) (m (p + n))) p jumpBy n

def descriptors (dp : NVDefinition) : List UInt8 :=
  (List.replicate dp.nvSelfIdCnt [dp.snvtDesc, dp.snvtType]).flatten

variable (snvt : SNVTstruct) (dp : NVDefinition)

def addDescriptors : Image :=
  (jumpUp snvt.sb snvt.descPtr (sizeofSNVTdescStruct * dp.nvSelfIdCnt)
    (snvt.aliasPtr - snvt.descPtr)).write snvt.descPtr (descriptors dp)

def addExtensions (nvName : CString) : Cursor :=
  let start : Cursor :=
    ⟨snvt.addDescriptors dp, snvt.aliasPtr + sizeofSNVTdescStruct * dp.nvSelfIdCnt⟩
  if dp.extRec then
    (List.range dp.nvSelfIdCnt).foldl (fun c i => emitExtension dp nvName i c) start
  else start

def addSelfId (nvName : CString) : SNVTstruct :=
  let numNetvars := snvt.numNetvars.toNat + dp.nvSelfIdCnt
  let saveAlias := snvt.sb.slice snvt.aliasPtr sizeofAliasField
  let c := snvt.addExtensions dp nvName
  { snvt with
    length := .ofNat (c.extPtr + sizeofAliasField + sizeofSNVTheader)
    numNetvars := .ofNat (numNetvars % 256)
    msbNumNetvars := snvt.msbNumNetvars + .ofNat (numNetvars / 256)
    sb := c.sb.write c.extPtr saveAlias
    descPtr := snvt.descPtr + sizeofSNVTdescStruct * dp.nvSelfIdCnt
    aliasPtr := c.extPtr }

/-- The data of a node without variables. The subtraction of the size is done in 64 bits. -/
def init (szSelfDoc : CString) (siDataLength : UInt32)
    (bindableMTagCount aliasTableCount : UInt8) : SNVTstruct :=
  let docLen := (szSelfDoc.strlen + 1) % 65536
  let fits := docLen ≤ (siDataLength.toNat + 2 ^ 64 - sizeofAliasField) % 2 ^ 64
  let len := if fits then docLen else 1
  let documented := snvt.sb.write 0 (if fits then szSelfDoc.bytes else [0])
  { length := .ofNat (sizeofSNVTheader + len + sizeofAliasField)
    numNetvars := 0
    version := 1
    msbNumNetvars := 0
    mtagCount := bindableMTagCount
    sb := documented.write len [0xFF, 0, aliasTableCount]
    descPtr := 0
    aliasPtr := len }

end SNVTstruct

structure NvRegistry extends AppStackData where
  /-- The number of entries of `nvConfigTable` that were ever filled, in the EEPROM. -/
  nvInitCount : Nat
  unboundSelector : UInt16
  nmAuth : Bool
  snvt : SNVTstruct
  siDataLength : UInt32
  dpPropInitCount : Nat
  dpPropAttribute : Nat → UInt8
  commits : CommitTimer
  tickCount : UInt32

abbrev IZOT_DATAPOINT_PERSIST : Attribute := ⟨8, 0x01, 0⟩
abbrev IZOT_DATAPOINT_CHANGEABLE_TYPE : Attribute := ⟨8, 0x02, 1⟩

def NVDefinition.initEntry (dp : NVDefinition) (m : Image) (p : Nat) (selectorVal : UInt16) : Image :=
  let m := m.setAttribute p IZOT_DATAPOINT_PRIORITY dp.priority
  let m := m.setAttribute p IZOT_DATAPOINT_DIRECTION dp.direction
  let m := m.setAttribute p IZOT_DATAPOINT_SELHIGH (selectorVal >>> 8).toUInt8
  let m := m.set (p + 1) selectorVal.toUInt8
  let m := m.setAttribute p IZOT_DATAPOINT_TURNAROUND dp.turnaround
  let m := m.setAttribute p IZOT_DATAPOINT_SERVICE dp.service
  let m := m.setAttribute p IZOT_DATAPOINT_AUTHENTICATION dp.auth
  let m := m.setAttribute p IZOT_DATAPOINT_ADDRESS_LOW 0xF
  let m := m.setAttribute p IZOT_DATAPOINT_ADDRESS_HIGH 0xF
  m.setAttribute p IZOT_DATAPOINT_AES 0

namespace AppData

variable (gp : AppData)

def setFixed (i : Nat) (fixed : NVFixedStruct) : AppData :=
  { gp with nvFixedTable := Function.update gp.nvFixedTable i fixed }

def growTable (dim : Nat) : AppData :=
  if h : gp.nvTableSize + dim ≤ NV_TABLE_SIZE then
    { gp with nvTableSize := gp.nvTableSize + dim, nvTableSize_le := h }
  else gp

@[simp] theorem mem_growTable (dim : Nat) : (gp.growTable dim).mem = gp.mem := by
  unfold growTable
  split <;> rfl

@[simp] theorem eep_growTable (dim : Nat) : (gp.growTable dim).eep = gp.eep := by
  unfold growTable
  split <;> rfl

theorem nvTableSize_growTable {dim : Nat} (h : gp.nvTableSize + dim ≤ NV_TABLE_SIZE) :
    (gp.growTable dim).nvTableSize = gp.nvTableSize + dim := by
  unfold growTable
  rw [dif_pos h]

end AppData

theorem zero_le_tableSize : 0 ≤ NV_TABLE_SIZE := by decide

def AppData.noVariables (gp : AppData) : AppData :=
  { gp with nvTableSize := 0, nvTableSize_le := zero_le_tableSize }

namespace NvRegistry

variable (gp : NvRegistry) (dp : NVDefinition)

def appLayerInit (szSelfDoc : CString) (bindableMTagCount aliasTableCount : UInt8) : NvRegistry :=
  { gp with
    toAppData := gp.toAppData.noVariables
    unboundSelector := 0x3FFF
    nvArrayTbl := []
    snvt := gp.snvt.init szSelfDoc gp.siDataLength bindableMTagCount aliasTableCount }

def setEventLog (l : EventLog) : NvRegistry :=
  { gp with
    toAppData := gp.toAppData.setEventLog l
    commits := l.toCommitTimer }

def osalPrintLog (status : LonStatusCode) : NvRegistry :=
  gp.setEventLog ((gp.eventLog gp.commits).osalPrintLog gp.nodeState gp.tickCount status)

def noRoom (nvName : CString) : Bool :=
  (gp.siDataLength - 1).toNat < gp.snvt.aliasPtr + sizeofAliasField + dp.sizeNeeded nvName

def badSelector : Bool :=
  if dp.bind then (gp.unboundSelector.toNat : Int) - dp.dim + 1 < 0x3000
  else (0x2FFF : Int) < dp.selector.toNat + dp.dim - 1

def refused (nvName : CString) : Bool :=
  NV_TABLE_SIZE < gp.nvTableSize + dp.dim || dp.nameTooLong nvName || dp.docTooLong ||
    gp.noRoom dp nvName || (decide (0 < dp.arrayCnt) && gp.nvArrayTbl.length == MAX_NV_ARRAYS) ||
      gp.badSelector dp

def refusal (nvName : CString) : LonStatusCode :=
  if NV_TABLE_SIZE < gp.nvTableSize + dp.dim then .noSpaceInNvTable
  else if dp.nameTooLong nvName then .invalidNvName
  else if dp.docTooLong then .invalidSelfDocumentation
  else if gp.noRoom dp nvName ∨ (0 < dp.arrayCnt ∧ gp.nvArrayTbl.length = MAX_NV_ARRAYS) then
    .noSpaceInNvTable
  else if dp.bind then .noSelectorsAvailable
  else .invalidSelector

/-- An entry is filled only once, and its selector is used up. -/
def addEntry (i : Nat) (selectorVal : UInt16) : NvRegistry :=
  let filled :=
    if gp.nvInitCount ≤ i then
      { gp with
        toAppData := gp.toAppData.setMem (dp.initEntry gp.mem (gp.nvConfigTable i) selectorVal)
        nvInitCount := i + 1 }
    else gp
  { filled with
    unboundSelector :=
      if dp.bind then filled.unboundSelector - 1 else filled.unboundSelector }

def addFixed (i nvAddress : Nat) : NvRegistry :=
  { gp with
    toAppData := gp.toAppData.setFixed i ⟨dp.nvLength, nvAddress⟩
    nmAuth := gp.nmAuth || dp.auth ≠ 0 }

def addElements : Nat → Nat → UInt16 → Nat → NvRegistry → Bool × NvRegistry
  | 0, _, _, _, gp => (true, gp)
  | n + 1, i, selectorVal, nvAddress, gp =>
    let gp := gp.addEntry dp i selectorVal
    if MAX_NV_LENGTH < dp.nvLength.toNat then (false, gp)
    else addElements n (i + 1) (selectorVal - 1) (nvAddress + dp.nvLength.toNat)
      (gp.addFixed dp i nvAddress)

def addArray : NvRegistry :=
  if 0 < dp.arrayCnt then { gp with nvArrayTbl := gp.nvArrayTbl ++ [⟨gp.nvTableSize, dp.dim⟩] }
  else gp

def addDpProp : NvRegistry :=
  { gp with
    ibolSeq :=
      if dp.ibol.isSome then Function.update gp.ibolSeq gp.dpPropInitCount dp.ibol else gp.ibolSeq
    dpPropAttribute := Function.update gp.dpPropAttribute gp.dpPropInitCount
      (IZOT_DATAPOINT_CHANGEABLE_TYPE.put
        (IZOT_DATAPOINT_PERSIST.put (gp.dpPropAttribute gp.dpPropInitCount) dp.persist)
        dp.changeable)
    dpPropInitCount := gp.dpPropInitCount + 1 }

def addDpProps : Nat → NvRegistry → NvRegistry
  | 0, gp => gp
  | n + 1, gp => addDpProps n (gp.addDpProp dp)

def describe (nvName : CString) : NvRegistry :=
  let gp := gp.addArray dp
  addDpProps dp dp.dim
    { gp with
      toAppData := gp.toAppData.growTable dp.dim
      snvt := gp.snvt.addSelfId dp nvName }

def firstSelector : UInt16 := if dp.bind then gp.unboundSelector else dp.selector

/-- The index of the variable, or of the first element, and -1 if it is refused. -/
def addNV : Int × NvRegistry :=
  match dp.nvName, dp.varAddr with
  | some nvName, some varAddr =>
    if gp.refused dp nvName then (-1, gp.osalPrintLog (gp.refusal dp nvName))
    else
      match addElements dp dp.dim gp.nvTableSize (gp.firstSelector dp) varAddr gp with
      | (false, gp') => (-1, gp'.osalPrintLog .invalidNvLength)
      | (true, gp') => (gp.nvTableSize, gp'.describe dp nvName)
  | _, _ => (-1, gp)

structure SameVariables (gp gp' : NvRegistry) : Prop where
  nvConfigTable : ∀ k < sizeofIzotDatapointConfig * NV_TABLE_SIZE,
    gp'.mem (gp.nvConfigTable 0 + k) = gp.mem (gp.nvConfigTable 0 + k)
  nvInitCount : gp'.nvInitCount = gp.nvInitCount
  nvFixedTable : gp'.nvFixedTable = gp.nvFixedTable
  nvArrayTbl : gp'.nvArrayTbl = gp.nvArrayTbl
  unboundSelector : gp'.unboundSelector = gp.unboundSelector
  nvTableSize : gp'.nvTableSize = gp.nvTableSize
  nmAuth : gp'.nmAuth = gp.nmAuth
  snvt : gp'.snvt = gp.snvt

def LeavesNoTrace : Prop := (gp.addNV dp).1 = -1 → gp.SameVariables (gp.addNV dp).2

def RefusedAtOnce : Prop :=
  dp.varAddr = none ∨ ∀ nvName, dp.nvName = some nvName → gp.refused dp nvName = true

variable {gp dp} {i : Nat}

theorem SameVariables.refl (gp : NvRegistry) : gp.SameVariables gp :=
  ⟨fun _ _ => rfl, rfl, rfl, rfl, rfl, rfl, rfl, rfl⟩

theorem mem_osalPrintLog (status : LonStatusCode) {a : Nat} (h : a < gp.eep + EEPROM.errorLog) :
    (gp.osalPrintLog status).mem a = gp.mem a :=
  AppData.mem_setEventLog _ (.inl h)

theorem sameVariables_osalPrintLog_iff {gp' : NvRegistry} (status : LonStatusCode)
    (heep : gp'.eep = gp.eep) :
    gp.SameVariables (gp'.osalPrintLog status) ↔ gp.SameVariables gp' := by
  have hmem (k : Nat) (hk : k < sizeofIzotDatapointConfig * NV_TABLE_SIZE) :
      (gp'.osalPrintLog status).mem (gp.nvConfigTable 0 + k) =
        gp'.mem (gp.nvConfigTable 0 + k) := by
    refine mem_osalPrintLog status ?_
    have hlt : k < 4 * 254 := hk
    rw [AppData.nvConfigTable_eq, heep, show EEPROM.errorLog = 3659 from rfl]
    omega
  constructor
  · intro h
    exact ⟨fun k hk => (hmem k hk).symm.trans (h.nvConfigTable k hk), h.nvInitCount,
      h.nvFixedTable, h.nvArrayTbl, h.unboundSelector, h.nvTableSize, h.nmAuth, h.snvt⟩
  · intro h
    exact ⟨fun k hk => (hmem k hk).trans (h.nvConfigTable k hk), h.nvInitCount,
      h.nvFixedTable, h.nvArrayTbl, h.unboundSelector, h.nvTableSize, h.nmAuth, h.snvt⟩

theorem one_le_dim (dp : NVDefinition) : 1 ≤ dp.dim := by
  unfold NVDefinition.dim
  split
  case isTrue h => exact h
  case isFalse => exact le_rfl

theorem addElements_fst (h : dp.nvLength.toNat ≤ MAX_NV_LENGTH) (n i : Nat) (selectorVal : UInt16)
    (nvAddress : Nat) : (addElements dp n i selectorVal nvAddress gp).1 = true := by
  induction n generalizing gp i selectorVal nvAddress with
  | zero => rfl
  | succ n ih =>
    rw [addElements]
    rw [if_neg (not_lt.mpr h)]
    exact ih _ _ _

theorem addElements_of_tooLong (h : MAX_NV_LENGTH < dp.nvLength.toNat) (i : Nat)
    (selectorVal : UInt16) (nvAddress : Nat) :
    addElements dp dp.dim i selectorVal nvAddress gp = (false, gp.addEntry dp i selectorVal) := by
  obtain ⟨n, hn⟩ := Nat.exists_eq_add_of_le' (one_le_dim dp)
  rw [hn, addElements]
  exact if_pos h

theorem addNV_of_tooLong (h : MAX_NV_LENGTH < dp.nvLength.toNat) (hearly : ¬gp.RefusedAtOnce dp) :
    gp.addNV dp =
      (-1, (gp.addEntry dp gp.nvTableSize (gp.firstSelector dp)).osalPrintLog .invalidNvLength) := by
  unfold RefusedAtOnce at hearly
  push Not at hearly
  obtain ⟨haddr, nvName, hname, hrefused⟩ := hearly
  obtain ⟨varAddr, haddr⟩ := Option.ne_none_iff_exists'.mp haddr
  unfold addNV
  rw [hname, haddr]
  dsimp only
  rw [if_neg hrefused, addElements_of_tooLong h]

theorem sameVariables_of_refused (h : gp.RefusedAtOnce dp) :
    gp.SameVariables (gp.addNV dp).2 := by
  unfold addNV
  split
  case h_1 nvName varAddr hname haddr =>
    rcases h with hnone | hrefused
    · exact absurd (haddr.symm.trans hnone) nofun
    · rw [if_pos (hrefused nvName hname)]
      exact (sameVariables_osalPrintLog_iff _ rfl).mpr (.refl gp)
  case h_2 => exact .refl gp

theorem addNV_of_not_refused (h : dp.nvLength.toNat ≤ MAX_NV_LENGTH)
    (hearly : ¬gp.RefusedAtOnce dp) : (gp.addNV dp).1 = gp.nvTableSize := by
  unfold RefusedAtOnce at hearly
  push Not at hearly
  obtain ⟨haddr, nvName, hname, hrefused⟩ := hearly
  obtain ⟨varAddr, haddr⟩ := Option.ne_none_iff_exists'.mp haddr
  have hfst : (addElements dp dp.dim gp.nvTableSize (gp.firstSelector dp) varAddr gp).1 = true :=
    addElements_fst h _ _ _ _
  unfold addNV
  rw [hname, haddr]
  dsimp only
  rw [if_neg hrefused]
  generalize addElements dp dp.dim gp.nvTableSize (gp.firstSelector dp) varAddr gp = r at hfst
  obtain ⟨ok, gp'⟩ := r
  cases hfst
  rfl

theorem eep_addEntry (i : Nat) (selectorVal : UInt16) :
    (gp.addEntry dp i selectorVal).eep = gp.eep := by
  unfold addEntry
  split <;> rfl

theorem sameVariables_addEntry_iff (i : Nat) (selectorVal : UInt16) :
    gp.SameVariables (gp.addEntry dp i selectorVal) ↔ dp.bind = false ∧ i < gp.nvInitCount := by
  constructor
  · intro h
    have hcount := h.nvInitCount
    have hselector := h.unboundSelector
    unfold addEntry at hcount hselector
    split at hcount
    case isTrue hi =>
      dsimp only at hcount
      omega
    case isFalse hi =>
      rw [if_neg hi] at hselector
      dsimp only at hselector
      split at hselector
      case isTrue =>
        rw [UInt16.sub_eq_iff_eq_add, UInt16.left_eq_add] at hselector
        cases hselector
      case isFalse hbind => exact ⟨Bool.eq_false_of_not_eq_true hbind, by omega⟩
  · rintro ⟨hbind, hi⟩
    unfold addEntry
    rw [if_neg (by omega), hbind]
    exact .refl gp

/-- A refused variable leaves no trace unless it is refused for its length and its first entry was
filled or took a selector. -/
theorem leavesNoTrace_iff :
    gp.LeavesNoTrace dp ↔
      dp.nvLength.toNat ≤ MAX_NV_LENGTH ∨ gp.RefusedAtOnce dp ∨
        (dp.bind = false ∧ gp.nvTableSize < gp.nvInitCount) := by
  by_cases hearly : gp.RefusedAtOnce dp
  · exact iff_of_true (fun _ => sameVariables_of_refused hearly) (.inr (.inl hearly))
  · by_cases hlength : dp.nvLength.toNat ≤ MAX_NV_LENGTH
    · refine iff_of_true (fun hrefused => ?_) (.inl hlength)
      rw [addNV_of_not_refused hlength hearly] at hrefused
      omega
    · unfold LeavesNoTrace
      rw [addNV_of_tooLong (not_le.mp hlength) hearly, or_iff_right hlength, or_iff_right hearly,
        ← sameVariables_addEntry_iff gp.nvTableSize (gp.firstSelector dp),
        ← sameVariables_osalPrintLog_iff .invalidNvLength (eep_addEntry ..)]
      exact ⟨fun h => h rfl, fun h _ => h⟩

theorem noNul_nil : (0 : UInt8) ∉ ([] : List UInt8) := nofun

theorem noNul_singleton : (0 : UInt8) ∉ [(0x61 : UInt8)] := by decide

def emptyString : CString := ⟨[], noNul_nil⟩

def powerUp : NvRegistry where
  toAppStackData := AppStackData.oneOutput
  nvInitCount := 0
  unboundSelector := 0
  nmAuth := false
  snvt := ⟨0, 0, 0, 0, 0, fun _ => 0, 0, 0⟩
  siDataLength := 100
  dpPropInitCount := 0
  dpPropAttribute _ := 0
  commits := default
  tickCount := 0

def fresh : NvRegistry := powerUp.appLayerInit emptyString 0 0

def simpleOutput : NVDefinition where
  priority := 0
  direction := 1
  selector := 0
  bind := true
  turnaround := 0
  service := 0
  auth := 0
  persist := 0
  explodeArray := false
  nvLength := 1
  snvtDesc := 0
  snvtExt := 0
  snvtType := 0
  rateEst := 0
  maxrEst := 0
  arrayCnt := 0
  nvName := some ⟨[0x61], noNul_singleton⟩
  nvSdoc := none
  varAddr := some 5000
  ibol := none
  changeable := 0

theorem not_leavesNoTrace : ¬∀ (gp : NvRegistry) (dp : NVDefinition), gp.LeavesNoTrace dp := by
  intro hall
  have hsame := hall fresh { simpleOutput with nvLength := 229 } (by decide +kernel)
  exact absurd hsame.unboundSelector (by decide +kernel)

variable (gp) in
def selectorAt (i : Nat) : Nat := (IzotDatapointConfig.ofImage gp.mem (gp.nvConfigTable i)).selector

def addAll (gp : NvRegistry) : List NVDefinition → Option NvRegistry
  | [] => some gp
  | dp :: dps => if (gp.addNV dp).1 = -1 then none else addAll (gp.addNV dp).2 dps

def elements (dps : List NVDefinition) : List (NVDefinition × Nat) :=
  dps.flatMap fun dp => (List.range dp.dim).map fun j => (dp, j)

def IsElement (dps : List NVDefinition) (k : Nat) (dp : NVDefinition) (j : Nat) : Prop :=
  (elements dps)[k]? = some (dp, j)

structure Fresh (gp : NvRegistry) : Prop where
  nvTableSize : gp.nvTableSize = 0
  nvInitCount : gp.nvInitCount = 0
  unboundSelector : gp.unboundSelector = 0x3FFF

structure SelectorsOk (gp : NvRegistry) (dps : List NVDefinition) : Prop where
  bindable : ∀ k dp j, IsElement dps k dp j → dp.bind = true →
    0x3000 ≤ gp.selectorAt k ∧ gp.selectorAt k ≤ 0x3FFF
  distinct : ∀ k k' dp dp' j j', IsElement dps k dp j → IsElement dps k' dp' j' →
    dp.bind = true → dp'.bind = true → k ≠ k' → gp.selectorAt k ≠ gp.selectorAt k'
  nonBindable : ∀ k dp j, IsElement dps k dp j → dp.bind = false →
    (gp.selectorAt k : Int) = (dp.selector.toNat : Int) - j ∧
      (0 : Int) ≤ (dp.selector.toNat : Int) - j ∧ (dp.selector.toNat : Int) - j ≤ 0x2FFF

def CountsDown (dp : NVDefinition) : Prop := dp.bind = false → dp.dim ≤ dp.selector.toNat + 1

theorem onlyIn_initEntry (dp : NVDefinition) (m : Image) (p : Nat) (selectorVal : UInt16) :
    m.OnlyIn (dp.initEntry m p selectorVal) p 4 := by
  intro k hk
  unfold NVDefinition.initEntry Image.setAttribute
  dsimp only
  rw [Image.set_of_ne, Image.set_of_ne, Image.set_of_ne, Image.set_of_ne, Image.set_of_ne,
    Image.set_of_ne, Image.set_of_ne, Image.set_of_ne, Image.set_of_ne, Image.set_of_ne]
  all_goals omega

theorem selector_initEntry (dp : NVDefinition) (m : Image) (p : Nat) (selectorVal : UInt16) :
    (IzotDatapointConfig.ofImage (dp.initEntry m p selectorVal) p).selector =
      selectorVal.toNat % 0x4000 := by
  have hlow : dp.initEntry m p selectorVal (p + 1) = selectorVal.toUInt8 := by
    unfold NVDefinition.initEntry Image.setAttribute
    dsimp only
    rw [Image.set_of_ne (by omega), Image.set_of_ne (by omega), Image.set_of_ne (by omega),
      Image.set_of_ne (by omega), Image.set_of_ne (by omega), Image.set_of_ne (by omega),
      Image.set_self]
  have hhigh : ∃ b, dp.initEntry m p selectorVal p =
      IZOT_DATAPOINT_SELHIGH.put b (selectorVal >>> 8).toUInt8 := by
    unfold NVDefinition.initEntry Image.setAttribute
    dsimp only
    rw [Image.set_of_ne (by omega), Image.set_of_ne (by omega), Image.set_of_ne (by omega),
      Image.set_of_ne (by omega), Image.set_of_ne (by omega), Image.set_of_ne (by omega),
      Image.set_of_ne (by omega)]
    exact ⟨_, Image.set_self _⟩
  obtain ⟨b, hhigh⟩ := hhigh
  have hget : ∀ v : UInt8, (((v <<< 0) &&& 0x3F) >>> 0 : UInt8).toNat = v.toNat % 64 := by
    have hall : ∀ k < 256, ((((UInt8.ofNat k) <<< 0) &&& 0x3F) >>> 0 : UInt8).toNat = k % 64 := by
      decide +kernel
    intro v
    have hv := hall v.toNat v.toNat_lt
    rwa [UInt8.ofNat_toNat] at hv
  have hshift : (selectorVal >>> 8).toUInt8.toNat = selectorVal.toNat / 256 := by
    have hlt := selectorVal.toNat_lt
    rw [UInt16.toNat_toUInt8, UInt16.toNat_shiftRight]
    change selectorVal.toNat >>> 8 % 256 = _
    rw [Nat.shiftRight_eq_div_pow, Nat.mod_eq_of_lt (by omega)]
  unfold IzotDatapointConfig.selector IzotDatapointConfig.selHigh IzotDatapointConfig.ofImage
  dsimp only
  rw [hlow, hhigh, Attribute.get_put, hget, hshift, UInt16.toNat_toUInt8]
  omega

theorem sub_ofNat_sub_ofNat (a : UInt16) (m n : Nat) :
    a - .ofNat m - .ofNat n = a - .ofNat (m + n) := by
  rw [← UInt16.toNat_inj]
  simp only [UInt16.toNat_sub, UInt16.toNat_ofNat']
  omega

structure Filled (gp gp' : NvRegistry) (dp : NVDefinition) (i n : Nat) (selectorVal : UInt16) :
    Prop where
  eep : gp'.eep = gp.eep
  nvTableSize : gp'.nvTableSize = gp.nvTableSize
  nvInitCount : gp'.nvInitCount = i + n
  unboundSelector : gp'.unboundSelector =
    if dp.bind then gp.unboundSelector - .ofNat n else gp.unboundSelector
  mem : gp.mem.OnlyIn gp'.mem (gp.nvConfigTable i) (4 * n)
  selectorAt : ∀ k < n, gp'.selectorAt (i + k) = (selectorVal - .ofNat k).toNat % 0x4000

theorem filled_addEntry (h : gp.nvInitCount = i) (selectorVal : UInt16) :
    gp.Filled (gp.addEntry dp i selectorVal) dp i 1 selectorVal := by
  have hentry : gp.addEntry dp i selectorVal =
      { gp with
        toAppData := gp.toAppData.setMem (dp.initEntry gp.mem (gp.nvConfigTable i) selectorVal)
        nvInitCount := i + 1
        unboundSelector := if dp.bind then gp.unboundSelector - 1 else gp.unboundSelector } := by
    unfold addEntry
    rw [if_pos h.le]
  rw [hentry]
  refine ⟨rfl, rfl, rfl, rfl, onlyIn_initEntry dp gp.mem _ selectorVal, fun k hk => ?_⟩
  obtain rfl : k = 0 := by omega
  rw [show UInt16.ofNat 0 = 0 from rfl, UInt16.sub_zero]
  exact selector_initEntry dp gp.mem (gp.nvConfigTable i) selectorVal

theorem Filled.zero (h : gp.nvInitCount = i) (selectorVal : UInt16) :
    gp.Filled gp dp i 0 selectorVal where
  eep := rfl
  nvTableSize := rfl
  nvInitCount := h
  unboundSelector := by
    rw [show UInt16.ofNat 0 = 0 from rfl, UInt16.sub_zero, ite_self]
  mem := .refl _ _ _
  selectorAt := nofun

theorem selectorAt_congr {gp gp' : NvRegistry} {n : Nat} (heep : gp'.eep = gp.eep)
    (h : gp.mem.OnlyIn gp'.mem (gp.nvConfigTable i) (4 * n)) {k : Nat} (hk : k < i ∨ i + n ≤ k) :
    gp'.selectorAt k = gp.selectorAt k := by
  have haddr : gp'.nvConfigTable k = gp.nvConfigTable k := by
    rw [AppData.nvConfigTable_eq, AppData.nvConfigTable_eq, heep]
  unfold selectorAt
  rw [haddr, IzotDatapointConfig.ofImage_congr fun x hx => h _ ?_]
  rw [AppData.nvConfigTable_eq, AppData.nvConfigTable_eq]
  omega

theorem Filled.cons {gp gp' gp'' : NvRegistry} {n : Nat} {selectorVal : UInt16}
    (h : gp.Filled gp' dp i 1 selectorVal) (h' : gp'.Filled gp'' dp (i + 1) n (selectorVal - 1)) :
    gp.Filled gp'' dp i (n + 1) selectorVal where
  eep := h'.eep.trans h.eep
  nvTableSize := h'.nvTableSize.trans h.nvTableSize
  nvInitCount := by rw [h'.nvInitCount, Nat.add_assoc, Nat.add_comm 1 n]
  unboundSelector := by
    rw [h'.unboundSelector, h.unboundSelector]
    split
    case isTrue =>
      rw [sub_ofNat_sub_ofNat, Nat.add_comm]
    case isFalse => rfl
  mem := by
    have hmem := h'.mem
    rw [AppData.nvConfigTable_eq, h.eep] at hmem
    refine (h.mem.mono le_rfl (by omega)).trans (hmem.mono ?_ ?_)
    all_goals rw [AppData.nvConfigTable_eq]; omega
  selectorAt := by
    intro k hk
    cases k with
    | zero =>
      have hkeep := selectorAt_congr (k := i) h'.eep h'.mem (.inl (Nat.lt_succ_self i))
      exact hkeep.trans (h.selectorAt 0 Nat.one_pos)
    | succ k =>
      have hnew := h'.selectorAt k (by omega)
      rw [Nat.add_assoc, Nat.add_comm 1 k] at hnew
      rw [hnew, show (1 : UInt16) = .ofNat 1 from rfl, sub_ofNat_sub_ofNat, Nat.add_comm]

theorem filled_addFixed {gp' : NvRegistry} {n : Nat} {selectorVal : UInt16} (nvAddress : Nat)
    (h : gp.Filled gp' dp i n selectorVal) :
    gp.Filled (gp'.addFixed dp i nvAddress) dp i n selectorVal :=
  ⟨h.eep, h.nvTableSize, h.nvInitCount, h.unboundSelector, h.mem, h.selectorAt⟩

theorem filled_addElements (h : gp.nvInitCount = i) (n : Nat) (selectorVal : UInt16)
    (nvAddress : Nat) (hok : (addElements dp n i selectorVal nvAddress gp).1 = true) :
    gp.Filled (addElements dp n i selectorVal nvAddress gp).2 dp i n selectorVal := by
  induction n generalizing gp i selectorVal nvAddress with
  | zero => exact .zero h selectorVal
  | succ n ih =>
    rw [addElements] at hok ⊢
    by_cases hlength : MAX_NV_LENGTH < dp.nvLength.toNat
    · rw [if_pos hlength] at hok
      cases hok
    · rw [if_neg hlength] at hok ⊢
      have hentry : gp.Filled (gp.addEntry dp i selectorVal) dp i 1 selectorVal :=
        filled_addEntry h selectorVal
      have hfirst := filled_addFixed nvAddress hentry
      exact hfirst.cons (ih hfirst.nvInitCount _ _ hok)

structure Described (gp gp' : NvRegistry) (dp : NVDefinition) (nvName : CString) : Prop where
  toAppData : gp'.toAppData = gp.toAppData.growTable dp.dim
  nvInitCount : gp'.nvInitCount = gp.nvInitCount
  unboundSelector : gp'.unboundSelector = gp.unboundSelector
  snvt : gp'.snvt = gp.snvt.addSelfId dp nvName
  siDataLength : gp'.siDataLength = gp.siDataLength

theorem Described.addDpProps {gp' : NvRegistry} {nvName : CString} (n : Nat)
    (h : gp.Described gp' dp nvName) : gp.Described (addDpProps dp n gp') dp nvName := by
  induction n generalizing gp' with
  | zero => exact h
  | succ n ih =>
    exact ih ⟨h.toAppData, h.nvInitCount, h.unboundSelector, h.snvt, h.siDataLength⟩

theorem described_describe (nvName : CString) : gp.Described (gp.describe dp nvName) dp nvName := by
  unfold describe addArray
  split
  case isTrue => exact .addDpProps _ ⟨rfl, rfl, rfl, rfl, rfl⟩
  case isFalse => exact .addDpProps _ ⟨rfl, rfl, rfl, rfl, rfl⟩

theorem described_addNV (hok : (gp.addNV dp).1 ≠ -1) :
    ∃ nvName nvAddress, dp.nvName = some nvName ∧ gp.refused dp nvName = false ∧
      (addElements dp dp.dim gp.nvTableSize (gp.firstSelector dp) nvAddress gp).1 = true ∧
      Described (addElements dp dp.dim gp.nvTableSize (gp.firstSelector dp) nvAddress gp).2
        (gp.addNV dp).2 dp nvName := by
  unfold addNV at hok ⊢
  split at hok
  case h_1 nvName nvAddress hname _ =>
    refine ⟨nvName, nvAddress, hname, ?_⟩
    split at hok
    case isTrue => exact absurd rfl hok
    case isFalse hrefused =>
      rw [if_neg hrefused]
      generalize addElements dp dp.dim gp.nvTableSize (gp.firstSelector dp) nvAddress gp = r at hok ⊢
      obtain ⟨ok, gp'⟩ := r
      cases ok with
      | false => exact absurd rfl hok
      | true => exact ⟨Bool.eq_false_of_not_eq_true hrefused, rfl, described_describe nvName⟩
  case h_2 => exact absurd rfl hok

variable {dps : List NVDefinition}

def isBindable (e : NVDefinition × Nat) : Bool := e.1.bind

def elementsOf (dp : NVDefinition) : List (NVDefinition × Nat) :=
  (List.range dp.dim).map fun j => (dp, j)

theorem elements_append (dps : List NVDefinition) (dp : NVDefinition) :
    elements (dps ++ [dp]) = elements dps ++ elementsOf dp := by
  unfold elements
  rw [List.flatMap_append, List.flatMap_singleton]
  rfl

@[simp] theorem length_elementsOf (dp : NVDefinition) : (elementsOf dp).length = dp.dim := by
  rw [elementsOf, List.length_map, List.length_range]

theorem countP_take_elementsOf {j : Nat} (hj : j ≤ dp.dim) :
    ((elementsOf dp).take j).countP isBindable = if dp.bind then j else 0 := by
  have htake : (elementsOf dp).take j = (List.range j).map fun j => (dp, j) := by
    rw [elementsOf, ← List.map_take, List.take_range, Nat.min_eq_left hj]
  have hbind : isBindable ∘ (fun j => (dp, j)) = fun _ : Nat => dp.bind := rfl
  rw [htake, List.countP_map, hbind]
  cases dp.bind with
  | false => exact congrFun List.countP_false _
  | true => exact (congrFun List.countP_true _).trans List.length_range

theorem isElement_append {dp' : NVDefinition} {k j : Nat} (h : IsElement (dps ++ [dp]) k dp' j) :
    IsElement dps k dp' j ∨
      dp' = dp ∧ j < dp.dim ∧ k = (elements dps).length + j := by
  unfold IsElement at h ⊢
  rw [elements_append] at h
  by_cases hk : k < (elements dps).length
  · rw [List.getElem?_append_left hk] at h
    exact .inl h
  · rw [List.getElem?_append_right (by omega), elementsOf, List.getElem?_map] at h
    obtain ⟨x, hx, heq⟩ := Option.map_eq_some_iff.mp h
    obtain ⟨hlt, rfl⟩ := List.getElem?_eq_some_iff.mp hx
    rw [List.length_range] at hlt
    rw [List.getElem_range] at heq
    cases heq
    exact .inr ⟨rfl, hlt, by omega⟩

theorem IsElement.lt {k j : Nat} (h : IsElement dps k dp j) : k < (elements dps).length :=
  (List.getElem?_eq_some_iff.mp h).1

theorem IsElement.mem {k j : Nat} (h : IsElement dps k dp j) : dp ∈ dps ∧ j < dp.dim := by
  obtain ⟨dp', hmem, hj⟩ := List.mem_flatMap.mp (List.mem_of_getElem? h)
  obtain ⟨x, hx, heq⟩ := List.mem_map.mp hj
  cases heq
  exact ⟨hmem, List.mem_range.mp hx⟩

theorem exists_isElement (hmem : dp ∈ dps) {j : Nat} (hj : j < dp.dim) :
    ∃ k, IsElement dps k dp j :=
  List.mem_iff_getElem?.mp
    (List.mem_flatMap.mpr ⟨dp, hmem, List.mem_map.mpr ⟨j, List.mem_range.mpr hj, rfl⟩⟩)

structure Assigned (gp : NvRegistry) (dps : List NVDefinition) : Prop where
  nvTableSize : gp.nvTableSize = (elements dps).length
  nvInitCount : gp.nvInitCount = (elements dps).length
  unboundSelector : gp.unboundSelector.toNat + (elements dps).countP isBindable = 0x3FFF
  bindable : ∀ k dp j, IsElement dps k dp j → dp.bind = true →
    gp.selectorAt k + ((elements dps).take k).countP isBindable = 0x3FFF
  nonBindable : ∀ k dp j, IsElement dps k dp j → dp.bind = false →
    gp.selectorAt k = (dp.selector - .ofNat j).toNat % 0x4000
  inRange : ∀ dp ∈ dps, dp.bind = false → dp.selector.toNat + dp.dim ≤ 0x3000

theorem not_isElement_nil {k j : Nat} : ¬IsElement [] k dp j := fun h => nomatch h

theorem Assigned.nil (h : gp.Fresh) : gp.Assigned [] where
  nvTableSize := h.nvTableSize
  nvInitCount := h.nvInitCount
  unboundSelector := by rw [h.unboundSelector]; rfl
  bindable _ _ _ helement := absurd helement not_isElement_nil
  nonBindable _ _ _ helement := absurd helement not_isElement_nil
  inRange _ hmem := absurd hmem List.not_mem_nil

theorem Assigned.length_le (h : gp.Assigned dps) : (elements dps).length ≤ 254 :=
  h.nvTableSize ▸ gp.nvTableSize_le

theorem Assigned.countP_le (h : gp.Assigned dps) : (elements dps).countP isBindable ≤ 254 :=
  List.countP_le_length.trans h.length_le

theorem badSelector_eq_false_iff :
    gp.badSelector dp = false ↔
      if dp.bind then 0x3000 + dp.dim ≤ gp.unboundSelector.toNat + 1
      else dp.selector.toNat + dp.dim ≤ 0x3000 := by
  unfold badSelector
  cases dp.bind <;> simp <;> omega

theorem Assigned.append {gp' : NvRegistry} (h : gp.Assigned dps)
    (hsize : gp.nvTableSize + dp.dim ≤ 254) (hselector : gp.badSelector dp = false)
    (hfilled : gp.Filled gp' dp gp.nvTableSize dp.dim (gp.firstSelector dp)) :
    (elements (dps ++ [dp])).countP isBindable + gp'.unboundSelector.toNat = 0x3FFF ∧
      (∀ k dp' j, IsElement (dps ++ [dp]) k dp' j → dp'.bind = true →
        gp'.selectorAt k + ((elements (dps ++ [dp])).take k).countP isBindable = 0x3FFF) ∧
      (∀ k dp' j, IsElement (dps ++ [dp]) k dp' j → dp'.bind = false →
        gp'.selectorAt k = (dp'.selector - .ofNat j).toNat % 0x4000) := by
  have hunbound := h.unboundSelector
  have hcount := h.countP_le
  have hold : ∀ k < (elements dps).length, gp'.selectorAt k = gp.selectorAt k := fun k hk =>
    selectorAt_congr hfilled.eep hfilled.mem (.inl (h.nvTableSize ▸ hk))
  have hsub : ∀ j ≤ 254, (gp.unboundSelector - .ofNat j).toNat = gp.unboundSelector.toNat - j := by
    intro j hj
    rw [UInt16.toNat_sub, UInt16.toNat_ofNat']
    omega
  refine ⟨?_, fun k dp' j hk hbind => ?_, fun k dp' j hk hbind => ?_⟩
  · have hall := @countP_take_elementsOf dp _ le_rfl
    rw [← length_elementsOf dp, List.take_length, length_elementsOf] at hall
    rw [elements_append, List.countP_append, hall, hfilled.unboundSelector]
    split
    case isTrue =>
      rw [hsub _ (by omega)]
      omega
    case isFalse => omega
  · rw [elements_append]
    rcases isElement_append hk with hk | ⟨rfl, hj, rfl⟩
    · rw [List.take_append_of_le_length hk.lt.le, hold k hk.lt]
      exact h.bindable k dp' j hk hbind
    · have hnew := hfilled.selectorAt j hj
      rw [h.nvTableSize] at hnew
      rw [hnew, List.take_length_add_append, List.countP_append, countP_take_elementsOf hj.le,
        hbind, if_pos rfl, firstSelector, hbind, if_pos rfl, hsub j (by omega)]
      omega
  · rcases isElement_append hk with hk | ⟨rfl, hj, rfl⟩
    · rw [hold k hk.lt]
      exact h.nonBindable k dp' j hk hbind
    · have hnew := hfilled.selectorAt j hj
      rw [h.nvTableSize] at hnew
      rw [hnew, firstSelector, hbind, if_neg Bool.false_ne_true]

theorem Assigned.addNV (h : gp.Assigned dps) (hok : (gp.addNV dp).1 ≠ -1) :
    (gp.addNV dp).2.Assigned (dps ++ [dp]) := by
  obtain ⟨nvName, nvAddress, -, hrefused, hdone, hdesc⟩ := described_addNV hok
  have hfilled := filled_addElements (h.nvInitCount.trans h.nvTableSize.symm) dp.dim
    (gp.firstSelector dp) nvAddress hdone
  generalize (addElements dp dp.dim gp.nvTableSize (gp.firstSelector dp) nvAddress gp).2 = gp'
    at hdesc hfilled
  simp only [refused, Bool.or_eq_false_iff, decide_eq_false_iff_not, not_lt] at hrefused
  obtain ⟨⟨⟨⟨⟨hsize, -⟩, -⟩, -⟩, -⟩, hselector⟩ := hrefused
  obtain ⟨hunbound, hbindable, hnonBindable⟩ := h.append hsize hselector hfilled
  have hlength : (elements (dps ++ [dp])).length = gp.nvTableSize + dp.dim := by
    rw [elements_append, List.length_append, length_elementsOf, h.nvTableSize]
  have hselectorAt : ∀ k, (gp.addNV dp).2.selectorAt k = gp'.selectorAt k := fun k => by
    unfold selectorAt
    rw [AppData.nvConfigTable_eq, AppData.nvConfigTable_eq, hdesc.toAppData, AppData.mem_growTable,
      AppData.eep_growTable]
  constructor
  case nvTableSize =>
    have hgrow : gp'.nvTableSize + dp.dim ≤ NV_TABLE_SIZE := by rwa [hfilled.nvTableSize]
    rw [hdesc.toAppData, AppData.nvTableSize_growTable _ hgrow, hfilled.nvTableSize, hlength]
  case nvInitCount => rw [hdesc.nvInitCount, hfilled.nvInitCount, hlength]
  case unboundSelector =>
    rw [hdesc.unboundSelector]
    omega
  case bindable =>
    intro k dp' j hk hbind
    rw [hselectorAt]
    exact hbindable k dp' j hk hbind
  case nonBindable =>
    intro k dp' j hk hbind
    rw [hselectorAt]
    exact hnonBindable k dp' j hk hbind
  case inRange =>
    intro dp' hmem hbind
    rcases List.mem_append.mp hmem with hmem | hmem
    · exact h.inRange dp' hmem hbind
    · rw [List.mem_singleton] at hmem
      subst hmem
      have hrange := badSelector_eq_false_iff.mp hselector
      rwa [hbind, if_neg Bool.false_ne_true] at hrange

theorem Assigned.addAll {dps' : List NVDefinition} (h : gp.Assigned dps) {gp' : NvRegistry}
    (hadd : gp.addAll dps' = some gp') : gp'.Assigned (dps ++ dps') := by
  induction dps' generalizing gp dps with
  | nil =>
    cases hadd
    rwa [List.append_nil]
  | cons dp dps' ih =>
    rw [NvRegistry.addAll] at hadd
    split at hadd
    case isTrue => cases hadd
    case isFalse hok =>
      have hrun := ih (h.addNV hok) hadd
      rwa [List.append_assoc, List.singleton_append] at hrun

theorem Assigned.distinct (h : gp.Assigned dps) {k k' j j' : Nat} {dp dp' : NVDefinition}
    (hk : IsElement dps k dp j) (hk' : IsElement dps k' dp' j') (hbind : dp.bind = true)
    (hbind' : dp'.bind = true) (hlt : k < k') : gp.selectorAt k ≠ gp.selectorAt k' := by
  have hfirst := h.bindable k dp j hk hbind
  have hsecond := h.bindable k' dp' j' hk' hbind'
  have hbetween : ((elements dps).take k).countP isBindable + 1 ≤
      ((elements dps).take k').countP isBindable := by
    have hsucc : ((elements dps).take (k + 1)).countP isBindable =
        ((elements dps).take k).countP isBindable + 1 := by
      rw [List.take_add_one, hk, Option.toList_some, List.countP_append,
        List.countP_singleton, isBindable, if_pos hbind]
    rw [← hsucc]
    exact (List.take_prefix_take_left (by omega)).sublist.countP_le
  omega

/-- For every sequence of variables that are accepted by a fresh node, their selectors are unique
and in range if and only if no array counts its selectors down below 0. -/
theorem selectorsOk_iff {gp' : NvRegistry} (h : gp.Fresh) (hadd : gp.addAll dps = some gp') :
    gp'.SelectorsOk dps ↔ ∀ dp ∈ dps, CountsDown dp := by
  have hassigned := (Assigned.nil h).addAll hadd
  rw [List.nil_append] at hassigned
  constructor
  · intro hok dp hmem hbind
    by_contra hlt
    obtain ⟨k, hk⟩ := exists_isElement hmem (j := dp.selector.toNat + 1) (by omega)
    have hrange := (hok.nonBindable k dp _ hk hbind).2.1
    omega
  · intro hdown
    constructor
    case bindable =>
      intro k dp j hk hbind
      have hselector := hassigned.bindable k dp j hk hbind
      have hcount : ((elements dps).take k).countP isBindable ≤ (elements dps).countP isBindable :=
        (List.take_sublist k _).countP_le
      have hle := hassigned.countP_le
      omega
    case distinct =>
      intro k k' dp dp' j j' hk hk' hbind hbind' hne
      rcases Nat.lt_or_gt_of_ne hne with hlt | hlt
      · exact hassigned.distinct hk hk' hbind hbind' hlt
      · exact (hassigned.distinct hk' hk hbind' hbind hlt).symm
    case nonBindable =>
      intro k dp j hk hbind
      obtain ⟨hmem, hj⟩ := hk.mem
      have hle := hdown dp hmem hbind
      have hrange := hassigned.inRange dp hmem hbind
      rw [hassigned.nonBindable k dp j hk hbind, UInt16.toNat_sub, UInt16.toNat_ofNat']
      omega

theorem fresh_fresh : fresh.Fresh := ⟨rfl, rfl, rfl⟩

theorem addAll_singleton (h : (gp.addNV dp).1 ≠ -1) : gp.addAll [dp] = some (gp.addNV dp).2 :=
  if_neg h

theorem selectorsOk_iff_simpleOutput :
    (fresh.addNV simpleOutput).2.SelectorsOk [simpleOutput] ↔
      ∀ dp ∈ [simpleOutput], CountsDown dp :=
  selectorsOk_iff fresh_fresh (addAll_singleton (by decide +kernel))

theorem not_selectorsOk :
    ¬∀ (gp gp' : NvRegistry) (dps : List NVDefinition), gp.Fresh → gp.addAll dps = some gp' →
        gp'.SelectorsOk dps := by
  intro hall
  have hok := hall fresh _ [{ simpleOutput with bind := false, arrayCnt := 2 }] fresh_fresh
    (addAll_singleton (by decide +kernel))
  exact absurd (hok.nonBindable 1 _ 1 rfl rfl).2.1 (by decide)

end NvRegistry

end LonStack
