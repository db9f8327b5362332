import LonStack.Lib.Run
import LonStack.Tcs

namespace LonStack

open Lib

theorem nextTransID_ne (n : Nat) : nextTransID n ≠ n := by
  unfold nextTransID
  split <;> omega

theorem nextTransID_le {n : Nat} (h : n ≤ 15) : nextTransID n ≤ 15 := by
  unfold nextTransID
  split <;> omega

theorem nextTransID_pos {n : Nat} (h : n ≤ 15) : nextTransID n ≠ 0 := by
  unfold nextTransID
  split <;> omega

namespace TransCtrl

variable (eep : Eeprom) (tickCount : UInt32) (a : DestinationAddress) (c : TransCtrl)

@[simp]
theorem reuse_inProgress (i : Nat) : (c.reuse tickCount i).inProgress = true := rfl

@[simp]
theorem addEntry_inProgress (i : Nat) (h : c.tblSize < TID_TABLE_SIZE) :
    (c.addEntry eep tickCount a i h).inProgress = true := rfl

@[simp]
theorem addEntry_transID (i : Nat) (h : c.tblSize < TID_TABLE_SIZE) :
    (c.addEntry eep tickCount a i h).transID = c.transID := rfl

@[simp]
theorem addEntry_transNum (i : Nat) (h : c.tblSize < TID_TABLE_SIZE) :
    (c.addEntry eep tickCount a i h).transNum = c.transNum := rfl

theorem bump_spec (i : Nat) (h : c.transNum = c.transID) :
    (c.bump i).transNum = (c.bump i).transID ∧
      ((c.bump i).transID = c.transID ∨ (c.bump i).transID = nextTransID c.transID) ∧
      (c.bump i).transID ≠ (c.tbl i).tid := by
  unfold bump
  split
  case isTrue heq => exact ⟨rfl, .inr rfl, heq ▸ nextTransID_ne _⟩
  case isFalse hne => exact ⟨h, .inl rfl, fun h' => hne h'.symm⟩

theorem reuse_spec (i : Nat) (h : c.transNum = c.transID) :
    (c.reuse tickCount i).transNum = (c.reuse tickCount i).transID ∧
      ((c.reuse tickCount i).transID = c.transID ∨
        (c.reuse tickCount i).transID = nextTransID c.transID) ∧
      (c.reuse tickCount i).transID ≠ (c.tbl i).tid :=
  c.bump_spec i h

theorem newTrans_numbers :
    (c.inProgress = true ∧ c.newTrans eep tickCount a = (.transactionInProgress, c)) ∨
    (c.inProgress = false ∧ c.newTrans eep tickCount a =
      (.transactionNotAvailable, { c with transNum := c.transID })) ∨
    (c.inProgress = false ∧ (c.newTrans eep tickCount a).1 = .noError ∧
      (c.newTrans eep tickCount a).2.inProgress = true ∧
      (c.newTrans eep tickCount a).2.transNum = (c.newTrans eep tickCount a).2.transID ∧
      ((c.newTrans eep tickCount a).2.transID = c.transID ∨
        (c.newTrans eep tickCount a).2.transID = nextTransID c.transID)) := by
  unfold newTrans
  split
  case isTrue hp => exact .inl ⟨hp, rfl⟩
  case isFalse hp =>
    rw [Bool.not_eq_true] at hp
    refine .inr ?_
    dsimp only
    split
    case h_1 i _ =>
      have hspec := reuse_spec tickCount { c with transNum := c.transID } i rfl
      exact .inr ⟨hp, rfl, rfl, hspec.1, hspec.2.1⟩
    case h_2 =>
      split
      case isTrue hfull =>
        split
        case h_1 i _ => exact .inr ⟨hp, rfl, rfl, rfl, .inl rfl⟩
        case h_2 => exact .inl ⟨hp, rfl⟩
      case isFalse hroom => exact .inr ⟨hp, rfl, rfl, rfl, .inl rfl⟩

theorem newTrans_granted_iff :
    (c.newTrans eep tickCount a).1 = .noError ↔
      c.inProgress = false ∧ (c.newTrans eep tickCount a).2.inProgress = true := by
  rcases c.newTrans_numbers eep tickCount a with ⟨hp, h⟩ | ⟨hp, h⟩ | ⟨hp, h, hp', -⟩
  · simp [h, hp]
  · simp [h, hp]
  · simp [h, hp, hp']

end TransCtrl

inductive TcsOp
  | newTrans : Eeprom → UInt32 → DestinationAddress → TcsOp
  | overrideTrans : Nat → TcsOp
  | transDone

namespace TcsOp

def apply : TcsOp → TransCtrl → TransCtrl
  | .newTrans eep tickCount a, c => (c.newTrans eep tickCount a).2
  | .overrideTrans num, c => c.overrideTrans num
  | .transDone, c => c.transDone

def isOverride : TcsOp → Bool
  | .overrideTrans _ => true
  | _ => false

def isDone : TcsOp → Bool
  | .transDone => true
  | _ => false

end TcsOp

abbrev TcsHistory := List (TransCtrl × TcsOp)

def TcsHistory.anyDone (h : TcsHistory) : Bool := h.any fun x => x.2.isDone

/-- The counter and the number of the transaction in progress fit the 4 bits of a legacy header,
and 0 is gone after the first `transDone`. -/
def TransCtrl.Encodable (anyDone : Bool) (c : TransCtrl) : Prop :=
  (c.transID ≤ 15 ∧ (anyDone → c.transID ≠ 0)) ∧
    (c.inProgress → c.transNum ≤ 15 ∧ (anyDone → c.transNum ≠ 0))

def TcsOp.OverrideOk (anyDone : Bool) : TcsOp → Prop
  | .overrideTrans num => num ≤ 15 ∧ (anyDone → num ≠ 0)
  | _ => True

def TcsHistory.OverridesOk : TcsHistory → Prop
  | [] => True
  | (_, op) :: h => op.OverrideOk (TcsHistory.anyDone h) ∧ OverridesOk h

theorem TransCtrl.Encodable.newTrans {anyDone : Bool} {c : TransCtrl} (hc : c.Encodable anyDone)
    (eep : Eeprom) (tickCount : UInt32) (a : DestinationAddress) :
    (c.newTrans eep tickCount a).2.Encodable anyDone := by
  obtain ⟨⟨hle, hpos⟩, hnum⟩ := hc
  rcases c.newTrans_numbers eep tickCount a with ⟨hp, h⟩ | ⟨hp, h⟩ | ⟨hp, -, -, heq, hid⟩
  · rw [h]
    exact ⟨⟨hle, hpos⟩, hnum⟩
  · rw [h]
    exact ⟨⟨hle, hpos⟩, fun _ => ⟨hle, hpos⟩⟩
  · have hid' : (c.newTrans eep tickCount a).2.transID ≤ 15 ∧
        (anyDone → (c.newTrans eep tickCount a).2.transID ≠ 0) := by
      cases hid with
      | inl h => rw [h]; exact ⟨hle, hpos⟩
      | inr h => rw [h]; exact ⟨nextTransID_le hle, fun _ => nextTransID_pos hle⟩
    exact ⟨hid', fun _ => heq ▸ hid'⟩

theorem TransCtrl.Encodable.apply {h : TcsHistory} {c : TransCtrl} (hc : c.Encodable h.anyDone)
    (op : TcsOp) (hop : op.OverrideOk h.anyDone) :
    (op.apply c).Encodable (TcsHistory.anyDone ((c, op) :: h)) := by
  cases op with
  | newTrans eep tickCount a => exact hc.newTrans eep tickCount a
  | overrideTrans num => exact ⟨hop, fun _ => hop⟩
  | transDone =>
    refine ⟨⟨nextTransID_le hc.1.1, fun _ => nextTransID_pos hc.1.1⟩, fun hp => ?_⟩
    cases hp

theorem TcsOp.OverrideOk.of_encodable {h : TcsHistory} {c : TransCtrl} (op : TcsOp)
    (hc : (op.apply c).Encodable (TcsHistory.anyDone ((c, op) :: h))) :
    op.OverrideOk h.anyDone := by
  cases op with
  | newTrans => trivial
  | overrideTrans num => exact hc.1
  | transDone => trivial

/-- The transaction numbers stay encodable through a run exactly if every overriding number is
itself at most 15, and not 0 once a transaction is done. -/
theorem transNum_encodable_iff (c₀ c : TransCtrl) (h : TcsHistory)
    (hid : c₀.transID = 0) (hp : c₀.inProgress = false) (hrun : Run TcsOp.apply c₀ h c) :
    Always (fun h c => c.Encodable (TcsHistory.anyDone h)) h c ↔ h.OverridesOk := by
  induction hrun with
  | refl =>
    have h₀ : c₀.Encodable (TcsHistory.anyDone []) := by
      refine ⟨⟨by omega, fun hd => ?_⟩, fun hp' => ?_⟩
      · cases hd
      · rw [hp] at hp'
        cases hp'
    exact iff_of_true h₀ trivial
  | next op hrun ih =>
    constructor
    · intro hall
      exact ⟨.of_encodable op hall.1, ih.1 hall.2⟩
    · intro hok
      have hall := ih.2 hok.2
      exact ⟨hall.head.apply op hok.1, hall⟩

theorem transNum_encodable_iff_powerUp :
    Always (fun h c => c.Encodable (TcsHistory.anyDone h)) [(.powerUp, .overrideTrans 7)]
        (TransCtrl.powerUp.overrideTrans 7) ↔
      TcsHistory.OverridesOk [(.powerUp, .overrideTrans 7)] :=
  transNum_encodable_iff .powerUp _ _ rfl rfl
    (.single (TcsOp.overrideTrans 7) TransCtrl.powerUp)

def TcsOp.FromPdu : TcsOp → Prop
  | .overrideTrans num => ∃ (pdu : Pdu) (version : Nat), num = pdu.transNum version
  | _ => True

theorem transNum_not_encodable :
    ¬∀ (h : TcsHistory) (c : TransCtrl), Run TcsOp.apply .powerUp h c →
      (∀ x ∈ h, x.2.FromPdu) → Always (fun h c => c.Encodable (TcsHistory.anyDone h)) h c := by
  intro hall
  have hpdu : TcsOp.FromPdu (.overrideTrans 0x123) :=
    ⟨⟨Pdu.tspduHdr false Pdu.REQUEST_MSG 1, [0x23]⟩, LsProtocolModeEnhanced, by decide⟩
  have hrun : Run TcsOp.apply .powerUp [(.powerUp, .overrideTrans 0x123)] _ :=
    .single (TcsOp.overrideTrans 0x123) TransCtrl.powerUp
  have henc := hall _ _ hrun (by simpa using hpdu)
  have hle : 0x123 ≤ 15 := henc.1.1.1
  omega

theorem Pdu.transNumField_tspduHdr (auth : Bool) (pduMsgType : Fin 8) (n : Nat)
    (data : List UInt8) :
    (Pdu.mk (Pdu.tspduHdr auth (UInt8.ofNat pduMsgType) n) data).transNumField = n % 16 := by
  have hall : ∀ (auth : Bool) (t : Fin 8) (k : Fin 16),
      (Pdu.mk (Pdu.tspduHdr auth (UInt8.ofNat t) k) []).transNumField = k := by decide
  have := hall auth pduMsgType ⟨n % 16, Nat.mod_lt _ (by decide)⟩
  simp only [Pdu.tspduHdr, Pdu.transNumField, Nat.mod_mod] at this ⊢
  exact this

theorem TransCtrl.Encodable.validateTrans {anyDone : Bool} {c : TransCtrl}
    (hc : c.Encodable anyDone) (hp : c.inProgress = true) (auth : Bool) (pduMsgType : Fin 8)
    (data : List UInt8) :
    c.validateTrans ((Pdu.mk (Pdu.tspduHdr auth (UInt8.ofNat pduMsgType) c.transNum)
      data).transNum LsProtocolModeLegacy) = true := by
  have hle := (hc.2 hp).1
  unfold TransCtrl.validateTrans Pdu.transNum
  rw [if_pos rfl, Pdu.transNumField_tspduHdr, Nat.mod_eq_of_lt (by omega), hp]
  simp

end LonStack
