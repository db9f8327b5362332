import LonStack.App.AddNv
import LonStack.Lib.Codec
import LonStack.Lib.Contains

namespace LonStack

open Lib

structure Descriptor where
  snvtDesc : UInt8
  snvtTypeIndex : UInt8
  deriving DecidableEq, Repr

namespace Descriptor

def equiv : UInt8 × UInt8 ≃ Descriptor where
  toFun p := ⟨p.1, p.2⟩
  invFun d := (d.snvtDesc, d.snvtTypeIndex)
  left_inv _ := rfl
  right_inv _ := rfl

def codec : Codec Descriptor := (Codec.byte.pair fun _ => .byte).iso equiv

def extRec (d : Descriptor) : Bool := d.snvtDesc &&& 0x80 ≠ 0

end Descriptor

/-- An extension record. Its first byte says which of the other parts it has. -/
structure Extension where
  flags : UInt8
  maxRate : Option UInt8
  meanRate : Option UInt8
  name : Option (List UInt8)
  doc : Option (List UInt8)
  /-- The high byte first. -/
  count : Option (UInt8 × UInt8)
  deriving DecidableEq, Repr

namespace Extension

def equiv : UInt8 × Option UInt8 × Option UInt8 × Option (List UInt8) × Option (List UInt8) ×
    Option (UInt8 × UInt8) ≃ Extension where
  toFun p := ⟨p.1, p.2.1, p.2.2.1, p.2.2.2.1, p.2.2.2.2.1, p.2.2.2.2.2⟩
  invFun e := (e.flags, e.maxRate, e.meanRate, e.name, e.doc, e.count)
  left_inv _ := rfl
  right_inv _ := rfl

def codec : Codec Extension :=
  (Codec.byte.pair fun flags =>
    (Codec.byte.optional (flags &&& 0x80 ≠ 0)).pair fun _ =>
      (Codec.byte.optional (flags &&& 0x40 ≠ 0)).pair fun _ =>
        (Codec.zeroTerminated.optional (flags &&& 0x20 ≠ 0)).pair fun _ =>
          (Codec.zeroTerminated.optional (flags &&& 0x10 ≠ 0)).pair fun _ =>
            (Codec.byte.pair fun _ => .byte).optional (flags &&& 0x08 ≠ 0)).iso equiv

end Extension

structure SelfId where
  descriptors : List Descriptor
  nodeDoc : List UInt8
  extensions : List Extension
  aliasField : List UInt8
  deriving DecidableEq, Repr

namespace SelfId

def equiv : List Descriptor × List UInt8 × List Extension × List UInt8 ≃ SelfId where
  toFun p := ⟨p.1, p.2.1, p.2.2.1, p.2.2.2⟩
  invFun x := (x.descriptors, x.nodeDoc, x.extensions, x.aliasField)
  left_inv _ := rfl
  right_inv _ := rfl

def codec (n : Nat) : Codec SelfId :=
  ((Codec.repeated n Descriptor.codec).pair fun descriptors =>
    Codec.zeroTerminated.pair fun _ =>
      (Codec.repeated (descriptors.countP Descriptor.extRec) Extension.codec).pair fun _ =>
        Codec.repeated sizeofAliasField .byte).iso equiv

end SelfId

namespace NVDefinition

variable (dp : NVDefinition)

def descriptor : Descriptor := ⟨dp.snvtDesc, dp.snvtType⟩

def name : CString := dp.nvName.getD NvRegistry.emptyString

def indexDigits (index : Nat) : List UInt8 :=
  let digit (n : Nat) : UInt8 := 0x30 + .ofNat (n % 10)
  if index < 10 then [digit index]
  else if index < 100 then [digit (index / 10), digit index]
  else [digit (index / 100), digit (index / 10), digit index]

def elementName (i : Nat) : List UInt8 :=
  if dp.exploded then dp.name.chars ++ 0x5B :: indexDigits (i + 1) ++ [0x5D] else dp.name.chars

def sdoc : List UInt8 :=
  match dp.nvSdoc with
  | none => []
  | some nvSdoc => nvSdoc.chars

def extension (i : Nat) : Extension where
  flags := dp.snvtExt
  maxRate := if dp.mre then some dp.maxrEst else none
  meanRate := if dp.re then some dp.rateEst else none
  name := if dp.nm then some (dp.elementName i) else none
  doc := if dp.sd then some dp.sdoc else none
  count := if dp.nc then some ((dp.arrayCnt >>> 8).toUInt8, dp.arrayCnt.toUInt8) else none

def extensions : List Extension :=
  if dp.extRec then (List.range dp.nvSelfIdCnt).map dp.extension else []

end NVDefinition

namespace SelfId

def add (x : SelfId) (dp : NVDefinition) : SelfId :=
  { x with
    descriptors := x.descriptors ++ List.replicate dp.nvSelfIdCnt dp.descriptor
    extensions := x.extensions ++ dp.extensions }

def addAll (x : SelfId) (dps : List NVDefinition) : SelfId := dps.foldl add x

/-- The data of a node without variables. A documentation that is too long is left out. -/
def ofNode (szSelfDoc : CString) (siDataLength : UInt32) (aliasTableCount : UInt8) : SelfId where
  descriptors := []
  nodeDoc :=
    if szSelfDoc.strlen + 1 + sizeofAliasField ≤ siDataLength.toNat then szSelfDoc.chars else []
  extensions := []
  aliasField := [0xFF, 0, aliasTableCount]

end SelfId

namespace SNVTstruct

def count (snvt : SNVTstruct) : Nat := snvt.msbNumNetvars.toNat * 256 + snvt.numNetvars.toNat

end SNVTstruct

namespace NvRegistry

structure Describes (gp : NvRegistry) (x : SelfId) : Prop where
  parses : (SelfId.codec gp.snvt.count).decodeAll
    (gp.snvt.sb.slice 0 (gp.snvt.length.toNat - sizeofSNVTheader)) = some x
  length : gp.snvt.length.toNat = gp.snvt.aliasPtr + sizeofAliasField + sizeofSNVTheader
  allocated : gp.snvt.aliasPtr + sizeofAliasField ≤ gp.siDataLength.toNat

def DescribesAll (gp : NvRegistry) (x : SelfId) (dps : List NVDefinition) : Prop :=
  ∀ done rest gp', dps = done ++ rest → gp.addAll done = some gp' → gp'.Describes (x.addAll done)

end NvRegistry

def Descriptor.bytes (d : Descriptor) : List UInt8 := [d.snvtDesc, d.snvtTypeIndex]

def Extension.bytes (e : Extension) : List UInt8 := Extension.codec.encode e

namespace SelfId

variable {x : SelfId} {n : Nat}

def bytes (x : SelfId) : List UInt8 :=
  x.descriptors.flatMap Descriptor.bytes ++
    (x.nodeDoc ++ [0] ++ (x.extensions.flatMap Extension.bytes ++ x.aliasField))

structure Valid (x : SelfId) : Prop where
  nodeDoc : 0 ∉ x.nodeDoc
  extensions_length : x.extensions.length = x.descriptors.countP Descriptor.extRec
  extensions : ∀ e ∈ x.extensions, Extension.codec.Valid e
  aliasField : x.aliasField.length = sizeofAliasField

theorem valid_codec (h : x.Valid) : (codec x.descriptors.length).Valid x :=
  ⟨Codec.valid_repeated rfl fun _ _ => ⟨trivial, trivial⟩, h.nodeDoc,
    Codec.valid_repeated h.extensions_length h.extensions,
    Codec.valid_repeated h.aliasField fun _ _ => trivial⟩

theorem encode_codec (h : (codec n).Valid x) : (codec n).encode x = x.bytes := by
  have hdescriptors : (Codec.repeated n Descriptor.codec).Valid x.descriptors := h.1
  have hextensions : (Codec.repeated (x.descriptors.countP Descriptor.extRec)
      Extension.codec).Valid x.extensions := h.2.2.1
  have halias : (Codec.repeated sizeofAliasField .byte).Valid x.aliasField := h.2.2.2
  have hencode : (codec n).encode x =
      (Codec.repeated n Descriptor.codec).encode x.descriptors ++
        (x.nodeDoc ++ [0] ++
          ((Codec.repeated (x.descriptors.countP Descriptor.extRec) Extension.codec).encode
              x.extensions ++
            (Codec.repeated sizeofAliasField .byte).encode x.aliasField)) := rfl
  rw [hencode, Codec.encode_repeated hdescriptors, Codec.encode_repeated hextensions,
    Codec.encode_repeated halias]
  have hbyte : x.aliasField.flatMap Codec.byte.encode = x.aliasField :=
    List.flatMap_singleton' x.aliasField
  rw [hbyte]
  rfl

theorem length_aliasField_of_valid (h : (codec n).Valid x) :
    x.aliasField.length = sizeofAliasField :=
  Codec.length_of_valid_repeated h.2.2.2

theorem length_bytes_add (x : SelfId) (dp : NVDefinition) :
    (x.add dp).bytes.length =
      x.bytes.length + 2 * dp.nvSelfIdCnt + (dp.extensions.flatMap Extension.bytes).length := by
  unfold bytes add
  dsimp only
  rw [List.flatMap_append, List.flatMap_append]
  simp only [List.length_append]
  have hdescriptors : ((List.replicate dp.nvSelfIdCnt dp.descriptor).flatMap
      Descriptor.bytes).length = 2 * dp.nvSelfIdCnt := by
    simp [Descriptor.bytes, Nat.mul_comm]
  omega

theorem addAll_append (x : SelfId) (dps dps' : List NVDefinition) :
    x.addAll (dps ++ dps') = (x.addAll dps).addAll dps' :=
  List.foldl_append

theorem length_bytes_addAll (x : SelfId) (dps : List NVDefinition) :
    x.bytes.length ≤ (x.addAll dps).bytes.length := by
  induction dps generalizing x with
  | nil => exact le_rfl
  | cons dp dps ih =>
    refine le_trans ?_ (ih (x.add dp))
    rw [length_bytes_add]
    omega

end SelfId

namespace NVDefinition

variable {dp : NVDefinition}

theorem bytes_extension (i : Nat) :
    (dp.extension i).bytes =
      [dp.snvtExt] ++ ((if dp.mre then [dp.maxrEst] else []) ++
        ((if dp.re then [dp.rateEst] else []) ++
          ((if dp.nm then dp.elementName i ++ [0] else []) ++
            ((if dp.sd then dp.sdoc ++ [0] else []) ++
              if dp.nc then [(dp.arrayCnt >>> 8).toUInt8, dp.arrayCnt.toUInt8] else [])))) := by
  unfold extension Extension.bytes
  cases dp.mre <;> cases dp.re <;> cases dp.nm <;> cases dp.sd <;> cases dp.nc <;> rfl

theorem valid_extension {i : Nat} (h : ¬(dp.nm = true ∧ dp.exploded = true)) :
    Extension.codec.Valid (dp.extension i) := by
  have hname : dp.nm = true → 0 ∉ dp.elementName i := fun hnm => by
    unfold elementName
    rw [if_neg fun hexploded => h ⟨hnm, hexploded⟩]
    exact dp.name.noNul
  have hdoc : 0 ∉ dp.sdoc := by
    unfold sdoc
    split
    case h_1 => exact List.not_mem_nil
    case h_2 nvSdoc _ => exact nvSdoc.noNul
  exact ⟨trivial, Codec.valid_optional fun _ => trivial, Codec.valid_optional fun _ => trivial,
    Codec.valid_optional hname, Codec.valid_optional fun _ => hdoc,
    Codec.valid_optional fun _ => ⟨trivial, trivial⟩⟩

end NVDefinition

namespace SNVTstruct

namespace Cursor

variable (c : Cursor)

theorem emit_emit (bs bs' : List UInt8) : (c.emit bs).emit bs' = c.emit (bs ++ bs') := by
  unfold emit
  rw [Image.write_append, List.length_append, Nat.add_assoc]

theorem emitIf_eq (b : Bool) (bs : List UInt8) :
    emitIf b c bs = c.emit (if b then bs else []) := by
  cases b <;> rfl

theorem strcpy_eq {s : CString} {len : Nat} (h : len = s.strlen + 1) :
    c.strcpy s len = c.emit (s.chars ++ [0]) := by
  subst h
  unfold strcpy emit
  rw [List.length_append]
  rfl

end Cursor

variable {dp : NVDefinition}

structure ShortStrings (dp : NVDefinition) : Prop where
  name : dp.nm = true → dp.name.strlen + 1 < 65536
  doc : dp.sd = true → dp.sdoc.length + 1 < 65536

theorem emitSdoc_eq (hdoc : dp.sdoc.length + 1 < 65536) (c : Cursor) :
    emitSdoc dp c = c.emit (dp.sdoc ++ [0]) := by
  unfold NVDefinition.sdoc at hdoc ⊢
  unfold emitSdoc
  cases hsome : dp.nvSdoc with
  | none => rfl
  | some nvSdoc =>
    rw [hsome] at hdoc
    exact c.strcpy_eq (Nat.mod_eq_of_lt hdoc)

theorem extPtr_emitName (hname : dp.name.strlen + 1 < 65536) (i : Nat) (c : Cursor) :
    (emitName dp dp.name i c).extPtr + (if dp.exploded then 1 else 0) =
      c.extPtr + (dp.elementName i ++ [0]).length := by
  have hdigits : (NVDefinition.indexDigits (i + 1)).length = digits (i + 1) := by
    unfold NVDefinition.indexDigits digits
    dsimp only
    split
    case isTrue => rfl
    case isFalse => split <;> rfl
  have hstrlen : dp.name.chars.length = dp.name.strlen := rfl
  unfold emitName NVDefinition.elementName
  cases dp.exploded with
  | true =>
    simp only [if_true, Cursor.emit, Cursor.skip, Nat.mod_eq_of_lt hname, List.length_append,
      List.length_cons, List.length_nil, hdigits, hstrlen]
    omega
  | false =>
    simp only [Bool.false_eq_true, if_false]
    rw [Cursor.strcpy_eq c (Nat.mod_eq_of_lt hname)]
    rfl

theorem emitName_eq (hname : dp.name.strlen + 1 < 65536) (hplain : dp.exploded = false) (i : Nat)
    (c : Cursor) : emitName dp dp.name i c = c.emit (dp.elementName i ++ [0]) := by
  unfold emitName NVDefinition.elementName
  simp only [hplain, Bool.false_eq_true, if_false]
  exact c.strcpy_eq (Nat.mod_eq_of_lt hname)

def namesExploded (dp : NVDefinition) : Bool := dp.nm && dp.exploded

theorem emitExtension_eq (h : ShortStrings dp) (hplain : namesExploded dp = false) (i : Nat)
    (c : Cursor) : emitExtension dp dp.name i c = c.emit (dp.extension i).bytes := by
  have hnm : ∀ c : Cursor, (if dp.nm then emitName dp dp.name i c else c) =
      c.emit (if dp.nm then dp.elementName i ++ [0] else []) := fun c => by
    cases hb : dp.nm with
    | false => rfl
    | true =>
      rw [namesExploded, hb, Bool.true_and] at hplain
      exact emitName_eq (h.name hb) hplain i c
  have hsd : ∀ c : Cursor, (if dp.sd then emitSdoc dp c else c) =
      c.emit (if dp.sd then dp.sdoc ++ [0] else []) := fun c => by
    cases hb : dp.sd with
    | false => rfl
    | true => exact emitSdoc_eq (h.doc hb) c
  unfold emitExtension
  dsimp only
  rw [hsd, hnm, Cursor.emitIf_eq, Cursor.emitIf_eq, Cursor.emitIf_eq, NVDefinition.bytes_extension]
  simp only [Cursor.emit_emit, List.append_assoc]

theorem extPtr_emitExtension (h : ShortStrings dp) (i : Nat) (c : Cursor) :
    (emitExtension dp dp.name i c).extPtr + (if namesExploded dp then 1 else 0) =
      c.extPtr + (dp.extension i).bytes.length := by
  have hnm : ∀ c : Cursor, (if dp.nm then emitName dp dp.name i c else c).extPtr +
      (if namesExploded dp then 1 else 0) =
        c.extPtr + (if dp.nm then dp.elementName i ++ [0] else []).length := fun c => by
    unfold namesExploded
    cases hb : dp.nm with
    | false => rfl
    | true => exact extPtr_emitName (h.name hb) i c
  have hsd : ∀ c : Cursor, (if dp.sd then emitSdoc dp c else c) =
      c.emit (if dp.sd then dp.sdoc ++ [0] else []) := fun c => by
    cases hb : dp.sd with
    | false => rfl
    | true => exact emitSdoc_eq (h.doc hb) c
  have hemit : ∀ (c : Cursor) (bs : List UInt8), (c.emit bs).extPtr = c.extPtr + bs.length :=
    fun _ _ => rfl
  unfold emitExtension
  dsimp only
  rw [hsd, Cursor.emitIf_eq, Cursor.emitIf_eq, Cursor.emitIf_eq, NVDefinition.bytes_extension,
    hemit, hemit]
  have hname := hnm (((c.emit [dp.snvtExt]).emit (if dp.mre then [dp.maxrEst] else [])).emit
    (if dp.re then [dp.rateEst] else []))
  rw [hemit, hemit, hemit] at hname
  simp only [List.length_append] at hname ⊢
  omega

theorem jumpUp_apply (m : Image) (p jumpBy n k : Nat) :
    jumpUp m p jumpBy n k =
      if p + jumpBy ≤ k ∧ k < p + jumpBy + n then m (k - jumpBy) else m k := by
  induction n generalizing m with
  | zero => rw [jumpUp, if_neg (by omega)]
  | succ n ih =>
    rw [jumpUp, ih]
    by_cases hlast : k = p + n + jumpBy
    · subst hlast
      rw [if_neg (by omega), if_pos (by omega), Image.set_self, Nat.add_sub_cancel]
    · by_cases hin : p + jumpBy ≤ k ∧ k < p + jumpBy + n
      · rw [if_pos hin, if_pos (by omega), Image.set_of_ne (by omega)]
      · rw [if_neg hin, if_neg (by omega), Image.set_of_ne hlast]

theorem contains_jumpUp {m : Image} {p jumpBy n : Nat} {bs : List UInt8}
    (h : m.Contains p bs) (hn : bs.length = n) :
    (jumpUp m p jumpBy n).Contains (p + jumpBy) bs :=
  h.congr fun i hi => by
    rw [jumpUp_apply, if_pos (by omega)]
    exact congrArg m (by omega)

theorem onlyIn_jumpUp (m : Image) (p jumpBy n : Nat) :
    m.OnlyIn (jumpUp m p jumpBy n) (p + jumpBy) n := by
  intro k hk
  rw [jumpUp_apply, if_neg (by omega)]

theorem length_descriptors (dp : NVDefinition) :
    (descriptors dp).length = sizeofSNVTdescStruct * dp.nvSelfIdCnt := by
  simp [descriptors, Nat.mul_comm]

theorem descriptors_eq (dp : NVDefinition) :
    descriptors dp = (List.replicate dp.nvSelfIdCnt dp.descriptor).flatMap Descriptor.bytes := by
  rw [descriptors, List.flatMap_replicate]
  rfl

variable {snvt : SNVTstruct}

theorem contains_addDescriptors {ds body : List UInt8} (hds : snvt.sb.Contains 0 ds)
    (hbody : snvt.sb.Contains snvt.descPtr body) (hdesc : ds.length = snvt.descPtr)
    (halias : snvt.descPtr + body.length = snvt.aliasPtr) :
    (snvt.addDescriptors dp).Contains 0 (ds ++ (descriptors dp ++ body)) := by
  have hlength := length_descriptors dp
  have hmoved : (jumpUp snvt.sb snvt.descPtr (sizeofSNVTdescStruct * dp.nvSelfIdCnt)
      (snvt.aliasPtr - snvt.descPtr)).Contains
        (snvt.descPtr + sizeofSNVTdescStruct * dp.nvSelfIdCnt) body :=
    contains_jumpUp hbody (by omega)
  have hkept := (onlyIn_jumpUp snvt.sb snvt.descPtr (sizeofSNVTdescStruct * dp.nvSelfIdCnt)
    (snvt.aliasPtr - snvt.descPtr)).contains hds (.inl (by omega))
  have hwrite := Image.OnlyIn.write (jumpUp snvt.sb snvt.descPtr
    (sizeofSNVTdescStruct * dp.nvSelfIdCnt) (snvt.aliasPtr - snvt.descPtr)) snvt.descPtr
    (descriptors dp)
  rw [Image.contains_append, Image.contains_append, Nat.zero_add, hdesc, hlength]
  exact ⟨hwrite.contains hkept (.inl (by omega)), Image.slice_write _ _ _,
    hwrite.contains hmoved (.inr (by omega))⟩

theorem foldl_emitExtension (h : ShortStrings dp) (hplain : namesExploded dp = false)
    (l : List Nat) (c : Cursor) :
    l.foldl (fun c i => emitExtension dp dp.name i c) c =
      c.emit ((l.map dp.extension).flatMap Extension.bytes) := by
  induction l generalizing c with
  | nil => rfl
  | cons i l ih =>
    rw [List.foldl_cons, ih, emitExtension_eq h hplain, Cursor.emit_emit]
    rfl

theorem extPtr_foldl_emitExtension (h : ShortStrings dp) (l : List Nat) (c : Cursor) :
    (l.foldl (fun c i => emitExtension dp dp.name i c) c).extPtr +
      l.length * (if namesExploded dp then 1 else 0) =
        c.extPtr + ((l.map dp.extension).flatMap Extension.bytes).length := by
  induction l generalizing c with
  | nil => simp
  | cons i l ih =>
    have hfirst := extPtr_emitExtension h i c
    have hrest := ih (emitExtension dp dp.name i c)
    rw [List.foldl_cons, List.map_cons, List.flatMap_cons, List.length_append, List.length_cons,
      Nat.succ_mul]
    omega

def SkipsNames (dp : NVDefinition) : Prop := dp.extRec = true ∧ namesExploded dp = true

theorem addExtensions_eq (h : dp.extRec = true → ShortStrings dp) (hplain : ¬SkipsNames dp) :
    snvt.addExtensions dp dp.name =
      (Cursor.mk (snvt.addDescriptors dp)
        (snvt.aliasPtr + sizeofSNVTdescStruct * dp.nvSelfIdCnt)).emit
          (dp.extensions.flatMap Extension.bytes) := by
  unfold addExtensions NVDefinition.extensions
  cases hext : dp.extRec with
  | false => rfl
  | true =>
    refine foldl_emitExtension (h hext) (Bool.eq_false_of_not_eq_true fun hskip => ?_) _ _
    exact hplain ⟨hext, hskip⟩

theorem one_le_nvSelfIdCnt (dp : NVDefinition) : 1 ≤ dp.nvSelfIdCnt := by
  unfold NVDefinition.nvSelfIdCnt
  split
  case isTrue => exact NvRegistry.one_le_dim dp
  case isFalse => exact le_rfl

theorem extPtr_addExtensions_lt (h : ShortStrings dp) (hskip : SkipsNames dp) :
    (snvt.addExtensions dp dp.name).extPtr <
      snvt.aliasPtr + 2 * dp.nvSelfIdCnt + (dp.extensions.flatMap Extension.bytes).length := by
  have hcnt := one_le_nvSelfIdCnt dp
  have hfold := extPtr_foldl_emitExtension h (List.range dp.nvSelfIdCnt)
    ⟨snvt.addDescriptors dp, snvt.aliasPtr + sizeofSNVTdescStruct * dp.nvSelfIdCnt⟩
  unfold addExtensions NVDefinition.extensions
  rw [hskip.1, if_pos rfl, if_pos rfl]
  rw [hskip.2, if_pos rfl, List.length_range, Nat.mul_one] at hfold
  have hsize : sizeofSNVTdescStruct * dp.nvSelfIdCnt = 2 * dp.nvSelfIdCnt := rfl
  dsimp only at hfold ⊢
  omega

theorem shortStrings_of_length (hext : dp.extRec = true)
    (h : (dp.extensions.flatMap Extension.bytes).length < 65536) : ShortStrings dp := by
  have hcnt := one_le_nvSelfIdCnt dp
  have hfirst : (dp.extension 0).bytes.length ≤ (dp.extensions.flatMap Extension.bytes).length := by
    unfold NVDefinition.extensions
    rw [hext, if_pos rfl, List.flatMap_map]
    have hmem : 0 ∈ List.range dp.nvSelfIdCnt := List.mem_range.mpr (by omega)
    have hsub := List.sublist_flatten_of_mem
      (List.mem_map_of_mem (f := fun i => (dp.extension i).bytes) hmem)
    rw [List.flatMap_def]
    exact hsub.length_le
  rw [NVDefinition.bytes_extension] at hfirst
  simp only [List.length_append] at hfirst
  constructor
  · intro hnm
    have hname : dp.name.strlen ≤ (dp.elementName 0).length := by
      unfold NVDefinition.elementName CString.strlen
      split
      case isTrue => simp only [List.length_append]; omega
      case isFalse => exact le_rfl
    rw [if_pos hnm, List.length_append, List.length_singleton] at hfirst
    omega
  · intro hsd
    rw [if_pos hsd, List.length_append, List.length_singleton] at hfirst
    omega

structure Layout (snvt : SNVTstruct) (x : SelfId) : Prop where
  valid : x.Valid
  contains : snvt.sb.Contains 0 x.bytes
  descPtr : snvt.descPtr = sizeofSNVTdescStruct * x.descriptors.length
  aliasPtr : snvt.aliasPtr + sizeofAliasField = x.bytes.length
  count : snvt.count = x.descriptors.length
  length : snvt.length.toNat = x.bytes.length + sizeofSNVTheader

theorem valid_add {x : SelfId} (h : x.Valid) (hplain : ¬SkipsNames dp) : (x.add dp).Valid where
  nodeDoc := h.nodeDoc
  extensions_length := by
    have hrec : dp.descriptor.extRec = dp.extRec := rfl
    unfold SelfId.add NVDefinition.extensions
    dsimp only
    rw [List.length_append, List.countP_append, List.countP_replicate, hrec, h.extensions_length]
    cases dp.extRec with
    | false => rfl
    | true => rw [if_pos rfl, if_pos rfl, List.length_map, List.length_range]
  extensions := by
    intro e he
    rcases List.mem_append.mp he with he | he
    · exact h.extensions e he
    · unfold NVDefinition.extensions at he
      split at he
      case isTrue hext =>
        obtain ⟨i, -, rfl⟩ := List.mem_map.mp he
        refine NVDefinition.valid_extension fun hskip => hplain ⟨hext, ?_⟩
        rw [namesExploded, hskip.1, hskip.2, Bool.and_self]
      case isFalse => cases he
  aliasField := h.aliasField

theorem Layout.parts {x : SelfId} (h : snvt.Layout x) :
    let ds := x.descriptors.flatMap Descriptor.bytes
    let body := x.nodeDoc ++ [0] ++ x.extensions.flatMap Extension.bytes
    ds.length = snvt.descPtr ∧ snvt.descPtr + body.length = snvt.aliasPtr ∧
      snvt.sb.Contains 0 ds ∧ snvt.sb.Contains snvt.descPtr body ∧
        snvt.sb.slice snvt.aliasPtr sizeofAliasField = x.aliasField := by
  intro ds body
  have hbytes : x.bytes = ds ++ (body ++ x.aliasField) := by
    unfold SelfId.bytes
    rw [← List.append_assoc _ _ x.aliasField]
  have hds : ds.length = snvt.descPtr := by
    rw [h.descPtr, List.length_flatMap]
    simp [Descriptor.bytes, Nat.mul_comm]
  have hbody : snvt.descPtr + body.length = snvt.aliasPtr := by
    have halias := h.aliasPtr
    rw [hbytes, List.length_append, List.length_append, h.valid.aliasField, hds] at halias
    omega
  have hcontains := h.contains
  rw [hbytes, Image.contains_append, Image.contains_append, Nat.zero_add, hds, hbody] at hcontains
  refine ⟨hds, hbody, hcontains.1, hcontains.2.1, ?_⟩
  rw [← h.valid.aliasField]
  exact hcontains.2.2

theorem contains_addSelfId {x : SelfId} (h : snvt.Layout x)
    (hshort : dp.extRec = true → ShortStrings dp) (hplain : ¬SkipsNames dp) :
    (snvt.addSelfId dp dp.name).sb.Contains 0 (x.add dp).bytes ∧
      (snvt.addSelfId dp dp.name).aliasPtr + sizeofAliasField = (x.add dp).bytes.length := by
  obtain ⟨hds, hbody, hcds, hcbody, hsave⟩ := h.parts
  have hc : snvt.addExtensions dp dp.name = _ := addExtensions_eq hshort hplain
  have hptr : (snvt.addSelfId dp dp.name).aliasPtr = _ := congrArg Cursor.extPtr hc
  have hsb : (snvt.addSelfId dp dp.name).sb =
      (snvt.addExtensions dp dp.name).sb.write (snvt.addExtensions dp dp.name).extPtr
        (snvt.sb.slice snvt.aliasPtr sizeofAliasField) := rfl
  rw [hsave, hc] at hsb
  unfold Cursor.emit at hsb hptr
  dsimp only at hsb hptr
  have hdescribed : (snvt.addDescriptors dp).Contains 0 _ :=
    contains_addDescriptors hcds hcbody hds hbody
  have hlength := length_descriptors dp
  have hbytes : (x.add dp).bytes =
      x.descriptors.flatMap Descriptor.bytes ++ (descriptors dp ++
        (x.nodeDoc ++ [0] ++ x.extensions.flatMap Extension.bytes)) ++
          (dp.extensions.flatMap Extension.bytes ++ x.aliasField) := by
    unfold SelfId.bytes SelfId.add
    dsimp only
    rw [List.flatMap_append, List.flatMap_append, descriptors_eq]
    simp only [List.append_assoc]
  generalize x.descriptors.flatMap Descriptor.bytes = ds at *
  generalize x.nodeDoc ++ [0] ++ x.extensions.flatMap Extension.bytes = body at *
  generalize dp.extensions.flatMap Extension.bytes = es at *
  have hptr' : (ds ++ (descriptors dp ++ body)).length =
      snvt.aliasPtr + sizeofSNVTdescStruct * dp.nvSelfIdCnt := by
    simp only [List.length_append]
    omega
  have hextended := Image.OnlyIn.write (snvt.addDescriptors dp)
    (snvt.aliasPtr + sizeofSNVTdescStruct * dp.nvSelfIdCnt) es
  have haliased := Image.OnlyIn.write ((snvt.addDescriptors dp).write
    (snvt.aliasPtr + sizeofSNVTdescStruct * dp.nvSelfIdCnt) es)
    (snvt.aliasPtr + sizeofSNVTdescStruct * dp.nvSelfIdCnt + es.length) x.aliasField
  rw [hsb, hptr, hbytes]
  constructor
  · rw [Image.contains_append, @Image.contains_append _ _ es, hptr', Nat.zero_add]
    refine ⟨haliased.contains (hextended.contains hdescribed (.inl (by omega))) (.inl (by omega)),
      haliased.contains (Image.slice_write _ _ _) (.inl le_rfl), Image.slice_write _ _ _⟩
  · rw [List.length_append, hptr', List.length_append, h.valid.aliasField, Nat.add_assoc]

theorem two_bytes_add (a b c : Nat) (h : a * 256 + b + c < 65536) :
    (a + (b + c) / 256 % 2 ^ 8) % 2 ^ 8 * 256 + (b + c) % 256 % 2 ^ 8 = a * 256 + b + c := by
  have hsplit := Nat.div_add_mod (b + c) 256
  have hlow := Nat.mod_lt (b + c) (show 256 > 0 by decide)
  generalize (b + c) / 256 = q at hsplit ⊢
  generalize (b + c) % 256 = r at hsplit hlow ⊢
  have hq : q % 2 ^ 8 = q := Nat.mod_eq_of_lt (by omega)
  have hr : r % 2 ^ 8 = r := Nat.mod_eq_of_lt hlow
  rw [hq, hr, Nat.mod_eq_of_lt (by omega)]
  omega

theorem count_addSelfId {x : SelfId} (h : snvt.Layout x)
    (hlength : (x.add dp).bytes.length < 65536) :
    (snvt.addSelfId dp dp.name).count = (x.add dp).descriptors.length := by
  have hcount := h.count
  have hgrown := SelfId.length_bytes_add x dp
  have hds := h.parts.1
  have hdesc := h.descPtr
  have hbody := h.parts.2.1
  have halias := h.aliasPtr
  have hsize : sizeofSNVTdescStruct * x.descriptors.length = 2 * x.descriptors.length := rfl
  have hnum : (snvt.addSelfId dp dp.name).numNetvars =
      .ofNat ((snvt.numNetvars.toNat + dp.nvSelfIdCnt) % 256) := rfl
  have hmsb : (snvt.addSelfId dp dp.name).msbNumNetvars =
      snvt.msbNumNetvars + .ofNat ((snvt.numNetvars.toNat + dp.nvSelfIdCnt) / 256) := rfl
  have hadd : (x.add dp).descriptors.length = x.descriptors.length + dp.nvSelfIdCnt := by
    rw [SelfId.add, List.length_append, List.length_replicate]
  have hsmall : 2 * (x.descriptors.length + dp.nvSelfIdCnt) < 65536 := by omega
  unfold count at hcount ⊢
  rw [hnum, hmsb, hadd, UInt8.toNat_add, UInt8.toNat_ofNat', UInt8.toNat_ofNat', ← hcount]
  rw [← hcount] at hsmall
  exact two_bytes_add _ _ _ (by omega)

theorem Layout.add {x : SelfId} (h : snvt.Layout x)
    (hlength : (x.add dp).bytes.length + sizeofSNVTheader < 65536) (hplain : ¬SkipsNames dp) :
    (snvt.addSelfId dp dp.name).Layout (x.add dp) := by
  have hgrown := SelfId.length_bytes_add x dp
  have hshort : dp.extRec = true → ShortStrings dp := fun hext =>
    shortStrings_of_length hext (by omega)
  obtain ⟨hcontains, halias⟩ := contains_addSelfId h hshort hplain
  refine ⟨valid_add h.valid hplain, hcontains, ?_, halias, count_addSelfId h (by omega), ?_⟩
  · unfold addSelfId SelfId.add
    dsimp only
    rw [h.descPtr, List.length_append, List.length_replicate, Nat.mul_add]
  · have hsize : (snvt.addSelfId dp dp.name).length =
        .ofNat ((snvt.addSelfId dp dp.name).aliasPtr + sizeofAliasField + sizeofSNVTheader) := rfl
    rw [hsize, halias, UInt16.toNat_ofNat', Nat.mod_eq_of_lt hlength]

theorem length_extension (h : ShortStrings dp) (hplain : namesExploded dp = false) (i : Nat) :
    (dp.extension i).bytes.length =
      sizeofSNVTextension + (if dp.mre then 1 else 0) + (if dp.re then 1 else 0) +
        (if dp.nm then dp.nvNameLen dp.name else 0) + (if dp.sd then dp.docLen else 0) +
          (if dp.nc then 2 else 0) := by
  have hone : sizeofSNVTextension = 1 := rfl
  have hnm : (if dp.nm then dp.elementName i ++ [0] else []).length =
      if dp.nm then dp.nvNameLen dp.name else 0 := by
    cases hb : dp.nm with
    | false => rfl
    | true =>
      rw [namesExploded, hb, Bool.true_and] at hplain
      have hlt := h.name hb
      simp only [if_true, NVDefinition.elementName, NVDefinition.nvNameLen, hplain,
        Bool.false_eq_true, if_false, Nat.add_zero, Nat.mod_eq_of_lt hlt, List.length_append]
      rfl
  have hsd : (if dp.sd then dp.sdoc ++ [0] else []).length = if dp.sd then dp.docLen else 0 := by
    cases hb : dp.sd with
    | false => rfl
    | true =>
      have hlt := h.doc hb
      unfold NVDefinition.sdoc NVDefinition.docLen at *
      cases hsome : dp.nvSdoc with
      | none => rfl
      | some nvSdoc =>
        rw [hsome] at hlt
        exact (List.length_append).trans (Nat.mod_eq_of_lt hlt).symm
  rw [NVDefinition.bytes_extension]
  simp only [List.length_append]
  rw [hnm, hsd]
  simp only [apply_ite List.length, List.length_cons, List.length_nil, Nat.zero_add,
    Nat.reduceAdd]
  omega

theorem length_extensions (h : dp.extRec = true → ShortStrings dp) (hplain : ¬SkipsNames dp) :
    (dp.extensions.flatMap Extension.bytes).length =
      if dp.extRec then dp.nvSelfIdCnt * (dp.extension 0).bytes.length else 0 := by
  unfold NVDefinition.extensions
  cases hext : dp.extRec with
  | false => rfl
  | true =>
    have hnames : namesExploded dp = false :=
      Bool.eq_false_of_not_eq_true fun hskip => hplain ⟨hext, hskip⟩
    have hall : ∀ i ∈ List.range dp.nvSelfIdCnt,
        (dp.extension i).bytes.length = (dp.extension 0).bytes.length := fun i _ => by
      rw [length_extension (h hext) hnames, length_extension (h hext) hnames]
    rw [if_pos rfl, if_pos rfl, List.flatMap_map, List.length_flatMap, List.map_congr_left hall]
    simp

theorem sizeNeeded_eq (h : dp.extRec = true → ShortStrings dp) (hplain : ¬SkipsNames dp)
    (hlength : 2 * dp.nvSelfIdCnt + (dp.extensions.flatMap Extension.bytes).length < 65536) :
    dp.sizeNeeded dp.name =
      2 * dp.nvSelfIdCnt + (dp.extensions.flatMap Extension.bytes).length := by
  have hextensions := length_extensions h hplain
  unfold NVDefinition.sizeNeeded
  cases hext : dp.extRec with
  | false =>
    rw [hext, if_neg Bool.false_ne_true] at hextensions
    rw [hextensions] at hlength ⊢
    exact Nat.mod_eq_of_lt hlength
  | true =>
    have hnames : namesExploded dp = false :=
      Bool.eq_false_of_not_eq_true fun hskip => hplain ⟨hext, hskip⟩
    rw [hext, if_pos rfl, length_extension (h hext) hnames] at hextensions
    rw [if_pos rfl]
    have hsum : sizeofSNVTdescStruct * dp.nvSelfIdCnt +
        (sizeofSNVTextension * dp.nvSelfIdCnt + (if dp.mre then dp.nvSelfIdCnt else 0) +
          (if dp.re then dp.nvSelfIdCnt else 0) +
          (if dp.nm then dp.nvNameLen dp.name * dp.nvSelfIdCnt else 0) +
          (if dp.sd then dp.docLen * dp.nvSelfIdCnt else 0) +
          (if dp.nc then 2 * dp.nvSelfIdCnt else 0)) =
        2 * dp.nvSelfIdCnt + (dp.extensions.flatMap Extension.bytes).length := by
      rw [hextensions, Nat.mul_comm dp.nvSelfIdCnt]
      simp only [Nat.add_mul, ite_mul, Nat.zero_mul, Nat.one_mul]
    rw [hsum]
    exact Nat.mod_eq_of_lt hlength

end SNVTstruct

namespace NvRegistry

variable {gp gp' : NvRegistry} {dp : NVDefinition} {x : SelfId}

theorem addElements_snvt (n i : Nat) (selectorVal : UInt16) (nvAddress : Nat) (gp : NvRegistry) :
    (addElements dp n i selectorVal nvAddress gp).2.snvt = gp.snvt ∧
      (addElements dp n i selectorVal nvAddress gp).2.siDataLength = gp.siDataLength := by
  have hentry : ∀ (gp : NvRegistry) (i : Nat) (selectorVal : UInt16),
      (gp.addEntry dp i selectorVal).snvt = gp.snvt ∧
        (gp.addEntry dp i selectorVal).siDataLength = gp.siDataLength := by
    intro gp i selectorVal
    unfold addEntry
    split <;> exact ⟨rfl, rfl⟩
  induction n generalizing i selectorVal nvAddress gp with
  | zero => exact ⟨rfl, rfl⟩
  | succ n ih =>
    rw [addElements]
    obtain ⟨hsnvt, hlength⟩ := hentry gp i selectorVal
    split
    case isTrue => exact ⟨hsnvt, hlength⟩
    case isFalse =>
      obtain ⟨hsnvt', hlength'⟩ := ih (i + 1) (selectorVal - 1) (nvAddress + dp.nvLength.toNat)
        ((gp.addEntry dp i selectorVal).addFixed dp i nvAddress)
      exact ⟨hsnvt'.trans hsnvt, hlength'.trans hlength⟩

structure AddsSelfId (gp gp' : NvRegistry) (dp : NVDefinition) : Prop where
  snvt : gp'.snvt = gp.snvt.addSelfId dp dp.name
  siDataLength : gp'.siDataLength = gp.siDataLength
  room : gp.noRoom dp dp.name = false

theorem addsSelfId_addNV (hok : (gp.addNV dp).1 ≠ -1) : gp.AddsSelfId (gp.addNV dp).2 dp := by
  obtain ⟨nvName, nvAddress, hname, hrefused, -, hdesc⟩ := described_addNV hok
  have hname : dp.name = nvName := by rw [NVDefinition.name, hname, Option.getD_some]
  obtain ⟨hsnvt, hlength⟩ :=
    @addElements_snvt dp dp.dim gp.nvTableSize (gp.firstSelector dp) nvAddress gp
  simp only [refused, Bool.or_eq_false_iff] at hrefused
  subst hname
  refine ⟨?_, hdesc.siDataLength.trans hlength, hrefused.1.1.2⟩
  rw [hdesc.snvt, hsnvt]

theorem Describes.contains (h : gp.Describes x) :
    gp.snvt.sb.Contains 0 x.bytes ∧
      x.bytes.length = gp.snvt.aliasPtr + sizeofAliasField ∧
        x.aliasField.length = sizeofAliasField := by
  obtain ⟨hvalid, hbytes⟩ := Codec.decodeAll_eq_some_iff.mp h.parses
  rw [SelfId.encode_codec hvalid, h.length, Nat.add_sub_cancel] at hbytes
  have hlength := congrArg List.length hbytes
  rw [Image.length_slice] at hlength
  refine ⟨?_, hlength.symm, SelfId.length_aliasField_of_valid hvalid⟩
  unfold Image.Contains
  rw [← hlength]
  exact hbytes

theorem Describes.length_lt (h : gp.Describes x) : x.bytes.length + sizeofSNVTheader < 65536 := by
  have hlength := h.length
  have hlt := gp.snvt.length.toNat_lt
  rw [h.contains.2.1, ← hlength]
  exact hlt

theorem describes_of_layout (h : gp.snvt.Layout x)
    (hroom : gp.snvt.aliasPtr + sizeofAliasField ≤ gp.siDataLength.toNat) : gp.Describes x where
  parses := by
    rw [Codec.decodeAll_eq_some_iff, h.count]
    have hvalid := SelfId.valid_codec h.valid
    refine ⟨hvalid, ?_⟩
    rw [SelfId.encode_codec hvalid, h.length, Nat.add_sub_cancel]
    exact h.contains
  length := by rw [h.length, ← h.aliasPtr]
  allocated := hroom

theorem Describes.not_skipsNames (h : gp.Describes x) (hadd : gp.AddsSelfId gp' dp)
    (h' : gp'.Describes (x.add dp)) : ¬SNVTstruct.SkipsNames dp := by
  intro hskip
  have hlength := h.contains.2.1
  have hlength' := h'.contains.2.1
  have hlt := h'.length_lt
  have hgrown := SelfId.length_bytes_add x dp
  have hshort := SNVTstruct.shortStrings_of_length hskip.1 (by omega)
  have hextPtr := @SNVTstruct.extPtr_addExtensions_lt dp gp.snvt hshort hskip
  have hptr : gp'.snvt.aliasPtr = (gp.snvt.addExtensions dp dp.name).extPtr := by
    rw [hadd.snvt]
    rfl
  omega

theorem layout_add (h : gp.snvt.Layout x)
    (hroom : gp.snvt.aliasPtr + sizeofAliasField ≤ gp.siDataLength.toNat)
    (hadd : gp.AddsSelfId gp' dp)
    (hlength : (x.add dp).bytes.length + sizeofSNVTheader < 65536)
    (hplain : ¬SNVTstruct.SkipsNames dp) :
    gp'.snvt.Layout (x.add dp) ∧
      gp'.snvt.aliasPtr + sizeofAliasField ≤ gp'.siDataLength.toNat := by
  have hlayout := h.add hlength hplain
  rw [← hadd.snvt] at hlayout
  refine ⟨hlayout, ?_⟩
  have hgrown := SelfId.length_bytes_add x dp
  have hsize := SNVTstruct.sizeNeeded_eq (fun hext =>
    SNVTstruct.shortStrings_of_length hext (by omega)) hplain (by omega)
  have hfits : gp.snvt.aliasPtr + sizeofAliasField + dp.sizeNeeded dp.name ≤
      (gp.siDataLength - 1).toNat := not_lt.mp (of_decide_eq_false hadd.room)
  have hfield : sizeofAliasField = 3 := rfl
  have hone : (gp.siDataLength - 1).toNat = gp.siDataLength.toNat - 1 :=
    UInt32.toNat_sub_of_le _ _ (UInt32.le_iff_toNat_le.mpr (by
      change 1 ≤ _
      omega))
  have halias := h.aliasPtr
  have halias' := hlayout.aliasPtr
  rw [hadd.siDataLength]
  omega

theorem addAll_append (gp : NvRegistry) (dps dps' : List NVDefinition) :
    gp.addAll (dps ++ dps') = (gp.addAll dps).bind fun gp' => gp'.addAll dps' := by
  induction dps generalizing gp with
  | nil => rfl
  | cons dp dps ih =>
    rw [List.cons_append, addAll, addAll]
    split
    case isTrue => rfl
    case isFalse => exact ih _

theorem layout_addAll {dps : List NVDefinition} (h : gp.snvt.Layout x)
    (hroom : gp.snvt.aliasPtr + sizeofAliasField ≤ gp.siDataLength.toNat)
    (hlength : (x.addAll dps).bytes.length + sizeofSNVTheader < 65536)
    (hplain : ∀ dp ∈ dps, ¬SNVTstruct.SkipsNames dp) (hadd : gp.addAll dps = some gp') :
    gp'.snvt.Layout (x.addAll dps) ∧
      gp'.snvt.aliasPtr + sizeofAliasField ≤ gp'.siDataLength.toNat := by
  induction dps generalizing gp x with
  | nil =>
    cases hadd
    exact ⟨h, hroom⟩
  | cons dp dps ih =>
    rw [addAll] at hadd
    split at hadd
    case isTrue => cases hadd
    case isFalse hok =>
      have hle := SelfId.length_bytes_addAll (x.add dp) dps
      have hlength' : ((x.add dp).addAll dps).bytes.length + sizeofSNVTheader < 65536 := hlength
      obtain ⟨hlayout, hroom'⟩ := layout_add h hroom (addsSelfId_addNV hok) (by omega)
        (hplain dp List.mem_cons_self)
      exact ih hlayout hroom' hlength' (fun d hd => hplain d (List.mem_cons_of_mem _ hd)) hadd

variable {szSelfDoc : CString} {bindableMTagCount aliasTableCount : UInt8}

/-- What the size of the buffer has to do with the documentation of the node: there is room for an
empty one, and a length cut to 16 bits does not fit where the whole one does not. -/
structure DocFits (szSelfDoc : CString) (siDataLength : UInt32) : Prop where
  room : 1 + sizeofAliasField ≤ siDataLength.toNat
  doc : (szSelfDoc.strlen + 1) % 65536 + sizeofAliasField ≤ siDataLength.toNat →
    szSelfDoc.strlen + 1 + sizeofAliasField ≤ siDataLength.toNat

theorem fits_iff {siDataLength : UInt32} (h : 1 + sizeofAliasField ≤ siDataLength.toNat)
    (docLen : Nat) :
    docLen ≤ (siDataLength.toNat + 2 ^ 64 - sizeofAliasField) % 2 ^ 64 ↔
      docLen + sizeofAliasField ≤ siDataLength.toNat := by
  have hlt := siDataLength.toNat_lt
  have hfield : sizeofAliasField = 3 := rfl
  omega

def nodeDocLen (szSelfDoc : CString) (siDataLength : UInt32) : Nat :=
  if (szSelfDoc.strlen + 1) % 65536 + sizeofAliasField ≤ siDataLength.toNat then
    (szSelfDoc.strlen + 1) % 65536
  else 1

def nodeDocBytes (szSelfDoc : CString) (siDataLength : UInt32) : List UInt8 :=
  if (szSelfDoc.strlen + 1) % 65536 + sizeofAliasField ≤ siDataLength.toNat then szSelfDoc.bytes
  else [0]

theorem init_eq (snvt : SNVTstruct) {siDataLength : UInt32}
    (h : 1 + sizeofAliasField ≤ siDataLength.toNat) :
    snvt.init szSelfDoc siDataLength bindableMTagCount aliasTableCount =
      { length := .ofNat
          (sizeofSNVTheader + nodeDocLen szSelfDoc siDataLength + sizeofAliasField)
        numNetvars := 0
        version := 1
        msbNumNetvars := 0
        mtagCount := bindableMTagCount
        sb := (snvt.sb.write 0 (nodeDocBytes szSelfDoc siDataLength)).write
          (nodeDocLen szSelfDoc siDataLength) [0xFF, 0, aliasTableCount]
        descPtr := 0
        aliasPtr := nodeDocLen szSelfDoc siDataLength } := by
  unfold SNVTstruct.init nodeDocLen nodeDocBytes
  simp only [fits_iff h]

theorem bytes_ofNode (szSelfDoc : CString) (siDataLength : UInt32) (aliasTableCount : UInt8) :
    (SelfId.ofNode szSelfDoc siDataLength aliasTableCount).bytes =
      (SelfId.ofNode szSelfDoc siDataLength aliasTableCount).nodeDoc ++ [0] ++
        [0xFF, 0, aliasTableCount] := rfl

theorem DocFits.stored (h : DocFits szSelfDoc gp.siDataLength)
    (hlength : (SelfId.ofNode szSelfDoc gp.siDataLength aliasTableCount).bytes.length +
      sizeofSNVTheader < 65536) :
    nodeDocBytes szSelfDoc gp.siDataLength =
        (SelfId.ofNode szSelfDoc gp.siDataLength aliasTableCount).nodeDoc ++ [0] ∧
      nodeDocLen szSelfDoc gp.siDataLength = (nodeDocBytes szSelfDoc gp.siDataLength).length ∧
      nodeDocLen szSelfDoc gp.siDataLength + sizeofAliasField ≤ gp.siDataLength.toNat := by
  rw [bytes_ofNode, List.length_append, List.length_append, List.length_singleton] at hlength
  unfold nodeDocBytes nodeDocLen
  by_cases hfits : (szSelfDoc.strlen + 1) % 65536 + sizeofAliasField ≤ gp.siDataLength.toNat
  case pos =>
    have hwhole := h.doc hfits
    have hdoc : (SelfId.ofNode szSelfDoc gp.siDataLength aliasTableCount).nodeDoc =
        szSelfDoc.chars := if_pos hwhole
    have hstrlen : szSelfDoc.chars.length = szSelfDoc.strlen := rfl
    rw [hdoc] at hlength
    rw [if_pos hfits, if_pos hfits, hdoc]
    exact ⟨rfl, (Nat.mod_eq_of_lt (by omega)).trans szSelfDoc.length_bytes.symm, hfits⟩
  case neg =>
    have hmod := Nat.mod_le (szSelfDoc.strlen + 1) 65536
    have hdoc : (SelfId.ofNode szSelfDoc gp.siDataLength aliasTableCount).nodeDoc = [] :=
      if_neg (by omega)
    rw [if_neg hfits, if_neg hfits, hdoc]
    exact ⟨rfl, rfl, h.room⟩

theorem layout_appLayerInit (h : DocFits szSelfDoc gp.siDataLength)
    (hlength : (SelfId.ofNode szSelfDoc gp.siDataLength aliasTableCount).bytes.length +
      sizeofSNVTheader < 65536) :
    (gp.appLayerInit szSelfDoc bindableMTagCount aliasTableCount).snvt.Layout
        (.ofNode szSelfDoc gp.siDataLength aliasTableCount) ∧
      (gp.appLayerInit szSelfDoc bindableMTagCount aliasTableCount).snvt.aliasPtr +
        sizeofAliasField ≤ gp.siDataLength.toNat := by
  obtain ⟨hbytes, hlen, hroom⟩ := h.stored hlength
  have hsnvt : (gp.appLayerInit szSelfDoc bindableMTagCount aliasTableCount).snvt = _ :=
    init_eq gp.snvt h.room
  have hnodeDoc : 0 ∉ (SelfId.ofNode szSelfDoc gp.siDataLength aliasTableCount).nodeDoc := by
    unfold SelfId.ofNode
    dsimp only
    split
    case isTrue => exact szSelfDoc.noNul
    case isFalse => exact List.not_mem_nil
  have htotal : (SelfId.ofNode szSelfDoc gp.siDataLength aliasTableCount).bytes.length =
      nodeDocLen szSelfDoc gp.siDataLength + sizeofAliasField := by
    rw [bytes_ofNode, ← hbytes, List.length_append, hlen]
    rfl
  have hcount : (0 : UInt8).toNat * 256 + (0 : UInt8).toNat = 0 := by decide
  rw [hsnvt]
  refine ⟨⟨⟨hnodeDoc, rfl, nofun, rfl⟩, ?_, rfl, htotal.symm, hcount, ?_⟩, hroom⟩
  · rw [bytes_ofNode, ← hbytes, Image.contains_append, Nat.zero_add, ← hlen]
    have hwrite := Image.OnlyIn.write
      (gp.snvt.sb.write 0 (nodeDocBytes szSelfDoc gp.siDataLength))
      (nodeDocLen szSelfDoc gp.siDataLength) [0xFF, 0, aliasTableCount]
    exact ⟨hwrite.contains (Image.slice_write _ _ _) (.inl (by omega)), Image.slice_write _ _ _⟩
  · have hlt : sizeofSNVTheader + nodeDocLen szSelfDoc gp.siDataLength + sizeofAliasField < 65536 := by
      omega
    dsimp only
    rw [UInt16.toNat_ofNat', htotal, Nat.mod_eq_of_lt hlt, Nat.add_comm sizeofSNVTheader,
      Nat.add_right_comm]

theorem Describes.docFits
    (h : (gp.appLayerInit szSelfDoc bindableMTagCount aliasTableCount).Describes
      (.ofNode szSelfDoc gp.siDataLength aliasTableCount)) :
    DocFits szSelfDoc gp.siDataLength := by
  obtain ⟨hcontains, hlength, -⟩ := h.contains
  have hallocated : _ ≤ gp.siDataLength.toNat := h.allocated
  have hfield : sizeofAliasField = 3 := rfl
  have hroom : 1 + sizeofAliasField ≤ gp.siDataLength.toNat := by
    rw [bytes_ofNode, List.length_append, List.length_append] at hlength
    simp only [List.length_cons, List.length_nil] at hlength
    omega
  refine ⟨hroom, fun hfits => ?_⟩
  by_contra hwhole
  have hdoc : (SelfId.ofNode szSelfDoc gp.siDataLength aliasTableCount).nodeDoc = [] :=
    if_neg hwhole
  have hsnvt : (gp.appLayerInit szSelfDoc bindableMTagCount aliasTableCount).snvt = _ :=
    init_eq gp.snvt hroom
  have hbytes : nodeDocBytes szSelfDoc gp.siDataLength = szSelfDoc.bytes := if_pos hfits
  have hlen : nodeDocLen szSelfDoc gp.siDataLength = (szSelfDoc.strlen + 1) % 65536 := if_pos hfits
  -- The length in 16 bits would be that of an empty string, but the first byte is not the last.
  rw [hsnvt, bytes_ofNode, hdoc, List.nil_append] at hlength hcontains
  have hone : (szSelfDoc.strlen + 1) % 65536 = 1 := by
    rw [hlen] at hlength
    simp only [List.length_append, List.length_cons, List.length_nil] at hlength
    omega
  have hzero := (Image.contains_cons.mp hcontains).1
  rw [hbytes, hlen, hone] at hzero
  dsimp only at hzero
  rw [Image.write_of_lt _ _ Nat.one_pos] at hzero
  have hpos : 0 < szSelfDoc.chars.length := by
    have hstrlen : szSelfDoc.chars.length = szSelfDoc.strlen := rfl
    omega
  have hbytesPos : 0 < szSelfDoc.bytes.length := by
    rw [szSelfDoc.length_bytes]
    exact Nat.succ_pos _
  have hfirst := Image.write_of_mem gp.snvt.sb szSelfDoc.bytes (i := 0) (k := 0) hbytesPos
  rw [Nat.zero_add, hzero] at hfirst
  have hhead : szSelfDoc.bytes[0] = szSelfDoc.chars[0] := List.getElem_append_left hpos
  refine szSelfDoc.noNul (List.mem_iff_getElem.mpr ⟨0, hpos, ?_⟩)
  exact hhead.symm.trans hfirst.symm

structure SelfIdFits (szSelfDoc : CString) (siDataLength : UInt32) (aliasTableCount : UInt8)
    (dps : List NVDefinition) : Prop where
  doc : DocFits szSelfDoc siDataLength
  /-- The length of all that there is to be described has 16 bits. -/
  length : ((SelfId.ofNode szSelfDoc siDataLength aliasTableCount).addAll dps).bytes.length +
    sizeofSNVTheader < 65536
  names : ∀ dp ∈ dps, ¬SNVTstruct.SkipsNames dp

/-- For every sequence of variables that are accepted, the self-identification data describes them
if and only if it fits and no exploded array has names. -/
theorem describesAll_iff {dps : List NVDefinition}
    (hadd : (gp.appLayerInit szSelfDoc bindableMTagCount aliasTableCount).addAll dps = some gp') :
    (gp.appLayerInit szSelfDoc bindableMTagCount aliasTableCount).DescribesAll
        (.ofNode szSelfDoc gp.siDataLength aliasTableCount) dps ↔
      SelfIdFits szSelfDoc gp.siDataLength aliasTableCount dps := by
  constructor
  · intro hall
    refine ⟨(hall [] dps _ rfl rfl).docFits, (hall dps [] gp' (List.append_nil _).symm hadd).length_lt,
      fun dp hmem => ?_⟩
    obtain ⟨done, rest, rfl⟩ := List.append_of_mem hmem
    rw [addAll_append] at hadd
    obtain ⟨gp₁, hdone, hrest⟩ := Option.bind_eq_some_iff.mp hadd
    rw [addAll] at hrest
    split at hrest
    case isTrue => cases hrest
    case isFalse hok =>
      have hnext : (gp.appLayerInit szSelfDoc bindableMTagCount aliasTableCount).addAll
          (done ++ [dp]) = some (gp₁.addNV dp).2 := by
        rw [addAll_append, hdone, Option.bind_some, addAll_singleton hok]
      have hbefore := hall done (dp :: rest) gp₁ rfl hdone
      have hafter := hall (done ++ [dp]) rest _ (List.append_cons done dp rest) hnext
      rw [SelfId.addAll_append] at hafter
      exact hbefore.not_skipsNames (addsSelfId_addNV hok) hafter
  · rintro ⟨hdoc, hlength, hnames⟩ done rest gp₁ rfl hdone
    rw [SelfId.addAll_append] at hlength
    have hdoneLength := SelfId.length_bytes_addAll
      ((SelfId.ofNode szSelfDoc gp.siDataLength aliasTableCount).addAll done) rest
    have hnodeLength := SelfId.length_bytes_addAll
      (.ofNode szSelfDoc gp.siDataLength aliasTableCount) done
    obtain ⟨hlayout, hroom⟩ :=
      @layout_appLayerInit gp szSelfDoc bindableMTagCount aliasTableCount hdoc (by omega)
    obtain ⟨hlayout', hroom'⟩ := layout_addAll hlayout hroom (by omega)
      (fun dp hmem => hnames dp (List.mem_append_left rest hmem)) hdone
    exact describes_of_layout hlayout' hroom'

theorem describesAll_iff_simpleOutput :
    fresh.DescribesAll (.ofNode emptyString 100 0) [simpleOutput] ↔
      SelfIdFits emptyString 100 0 [simpleOutput] :=
  @describesAll_iff powerUp _ emptyString 0 0 [simpleOutput] (addAll_singleton (by decide +kernel))

def explodedArray : NVDefinition :=
  { simpleOutput with snvtDesc := 0x80, snvtExt := 0x20, arrayCnt := 1, explodeArray := true }

theorem not_describesAll :
    ¬∀ (gp gp' : NvRegistry) (szSelfDoc : CString) (bindableMTagCount aliasTableCount : UInt8)
        (dps : List NVDefinition),
        (gp.appLayerInit szSelfDoc bindableMTagCount aliasTableCount).addAll dps = some gp' →
          (gp.appLayerInit szSelfDoc bindableMTagCount aliasTableCount).DescribesAll
            (.ofNode szSelfDoc gp.siDataLength aliasTableCount) dps := by
  intro hall
  have hadd : fresh.addAll [explodedArray] = some (fresh.addNV explodedArray).2 :=
    addAll_singleton (by decide +kernel)
  have hdescribes := hall powerUp _ emptyString 0 0 [explodedArray] hadd [explodedArray] [] _ rfl hadd
  exact absurd hdescribes.parses (by decide +kernel)

end NvRegistry

end LonStack
