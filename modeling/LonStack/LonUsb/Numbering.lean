import LonStack.LonUsb.Downlink
import LonStack.LonUsb.Numbers
import LonStack.LonUsb.Ready

namespace LonStack.LonUsb

open Lib

theorem nextNumber_mem (n : Int) : 1 ≤ nextNumber n ∧ nextNumber n ≤ 7 := by
  unfold nextNumber
  split <;> omega

theorem iterate_nextNumber {n : Int} (h : 1 ≤ n) (h' : n ≤ 7) (k : Nat) :
    nextNumber^[k] n = (n - 1 + k) % 7 + 1 := by
  induction k with
  | zero =>
    change n = _
    omega
  | succ k ih =>
    rw [Function.iterate_succ_apply', ih, nextNumber]
    push_cast
    split <;> omega

def ComesAgain (m : UInt8) (k : Nat) : Prop := if m = 0 then k = 0 else 7 ∣ k

instance (m : UInt8) (k : Nat) : Decidable (ComesAgain m k) :=
  inferInstanceAs (Decidable (if m = 0 then k = 0 else 7 ∣ k))

theorem iterate_nextNumber_eq_iff {n : Nat} (h : n < 8) (k : Nat) :
    nextNumber^[k] (n : Int) = n ↔ ComesAgain (UInt8.ofNat n) k := by
  have hzero : UInt8.ofNat n = 0 ↔ n = 0 := by
    rw [← UInt8.toNat_inj, UInt8.toNat_ofNat_of_lt' (by change n < 256; omega)]
    rfl
  unfold ComesAgain
  by_cases hn : n = 0
  case pos =>
    rw [if_pos (hzero.mpr hn), hn]
    cases k with
    | zero => exact ⟨fun _ => rfl, fun _ => rfl⟩
    | succ k =>
      rw [Function.iterate_succ_apply']
      have hmem := nextNumber_mem (nextNumber^[k] ((0 : Nat) : Int))
      constructor
      · intro heq
        rw [heq] at hmem
        exact absurd hmem.1 (by decide)
      · exact fun heq => absurd heq (Nat.succ_ne_zero k)
  case neg =>
    rw [if_neg fun h => hn (hzero.mp h), iterate_nextNumber (by omega) (by omega)]
    omega

namespace LonUsbLinkState

def messageHeader (s : LonUsbLinkState) : LonFrameHeader :=
  codePacket { s with downlinkAckSeqNumber := ACK_WITH_NEXT_SEQ_NUM } MSG_FRAME_CMD 1

theorem seq_messageHeader {s : LonUsbLinkState} {n : Nat} (hseq : s.downlinkSeqNumber = n)
    (h : n < 8) : s.messageHeader.seq = UInt8.ofNat n := by
  have hheader : s.messageHeader.seq =
      (messageFrameCode (sequenceByte s.downlinkSeqNumber) &&& 0xE0) >>> 5 := rfl
  have hall : ∀ k < 8, (messageFrameCode (sequenceByte (k : Nat)) &&& 0xE0) >>> 5 = UInt8.ofNat k := by
    decide
  rw [hheader, hseq]
  exact hall n h

def messageNumber (s : LonUsbLinkState) (now : OsalTickCount) : Option UInt8 :=
  let r := s.sendAck.readDownlinkBuffer
  if r.2 = .noError ∧ ¬r.1.LocalNiCmd ∧ (r.1.writeDownlinkMessage now).2 = .noError then
    some r.1.messageHeader.seq
  else none

end LonUsbLinkState

def written (x : LonUsbLinkState × LinkEvent) : Option UInt8 :=
  match x.2 with
  | .processDownlinkRequests now => (x.1.beforeNext now).bind fun t => t.messageNumber now
  | _ => none

def StartsAnew (x : LonUsbLinkState × LinkEvent) : Prop :=
  match x.2 with
  | .processUplinkByte a => x.1.Restarts a.byte
  | .processDownlinkRequests now => x.1.Resyncs now
  | _ => False

instance : DecidablePred StartsAnew
  | (s, .processUplinkByte a) => inferInstanceAs (Decidable (s.Restarts a.byte))
  | (s, .processDownlinkRequests now) => inferInstanceAs (Decidable (s.Resyncs now))
  | (_, .writeLonUsbMsg _) | (_, .readUplinkBuffer) | (_, .setRing _) => .isFalse id

def LonUsbLinkState.SendsNull (s : LonUsbLinkState) (now : OsalTickCount) : Prop :=
  ∃ t ∈ s.beforeNext now, 0 ≤ t.downlinkAckSeqNumber

instance (s : LonUsbLinkState) (now : OsalTickCount) : Decidable (s.SendsNull now) :=
  inferInstanceAs (Decidable (∃ t ∈ s.beforeNext now, 0 ≤ t.downlinkAckSeqNumber))

def moves (x : LonUsbLinkState × LinkEvent) : Nat :=
  match x.2 with
  | .processUplinkByte a => if x.1.Releases a.byte then 1 else 0
  | .processDownlinkRequests now =>
    (if x.1.ReportsStatus now then 1 else 0) + (if x.1.SendsNull now then 1 else 0)
  | _ => 0

def lastWritten : LinkHistory → Option UInt8
  | [] => none
  | x :: h =>
    if (written x).isSome then written x
    else if StartsAnew x then none
    else lastWritten h

def movesSince : LinkHistory → Nat
  | [] => 0
  | x :: h => if (written x).isSome then 0 else moves x + movesSince h

structure Numbered (s : LonUsbLinkState) : Prop where
  shutdown : s.shutdown = false
  nonneg : 0 ≤ s.downlinkSeqNumber
  le : s.downlinkSeqNumber ≤ 7

section Run

variable {s t : LonUsbLinkState} {h : LinkHistory} {e : LinkEvent}

theorem shutdown_linkStep (hs : t.shutdown = false) : (linkStep e t).shutdown = false := by
  cases he : e.byte? with
  | none => exact (t.keepsParser_linkStep he).shutdown.trans hs
  | some b =>
    cases e with
    | writeLonUsbMsg | processDownlinkRequests | readUplinkBuffer | setRing => cases he
    | processUplinkByte x =>
      have hstep : linkStep (.processUplinkByte x) t =
          (t.processUplinkByte x.now x.last x.byte).1 := if_neg (by rw [hs]; decide)
      rw [hstep]
      exact (t.uplinks_processUplinkByte x.now x.last x.byte).shutdown.trans hs

theorem seq_poll_of_some {now : OsalTickCount} {u : LonUsbLinkState}
    (hu : t.beforeNext now = some u) : (linkStep (.processDownlinkRequests now) t).downlinkSeqNumber =
      (t.numbersBefore now).acknowledged.seq := by
  change (t.processDownlinkRequests now).1.downlinkSeqNumber = _
  rw [LonUsbLinkState.processDownlinkRequests_of_some hu, u.seq_processNextDownlinkMessage,
    LonUsbLinkState.numbers_beforeNext hu]

theorem seq_linkStep (hs : t.shutdown = false) (hanew : ¬StartsAnew (t, e)) :
    (linkStep e t).downlinkSeqNumber = nextNumber^[moves (t, e)] t.downlinkSeqNumber := by
  cases e with
  | writeLonUsbMsg f => exact congrArg Numbers.seq (t.numbers_writeLonUsbMsg f)
  | readUplinkBuffer =>
    change t.readUplinkBuffer.1.downlinkSeqNumber = t.downlinkSeqNumber
    unfold LonUsbLinkState.readUplinkBuffer
    split <;> split <;> rfl
  | setRing bytes => rfl
  | processUplinkByte x =>
    have hstep : linkStep (.processUplinkByte x) t =
        (t.processUplinkByte x.now x.last x.byte).1 := if_neg (by rw [hs]; decide)
    rw [hstep, LonUsbLinkState.seq_processUplinkByte, LonUsbLinkState.seqAfter,
      if_neg (show ¬t.Restarts x.byte from hanew)]
    change _ = nextNumber^[if t.Releases x.byte then 1 else 0] _
    split <;> rfl
  | processDownlinkRequests now =>
    have hresync : ¬t.Resyncs now := hanew
    change _ = nextNumber^[(if t.ReportsStatus now then 1 else 0) +
      (if t.SendsNull now then 1 else 0)] _
    cases hu : t.beforeNext now with
    | none =>
      have hreports : ¬t.ReportsStatus now := by
        rintro ⟨⟨hstate, hlate⟩, -⟩
        unfold LonUsbLinkState.beforeNext at hu
        rw [if_neg (by rw [hs]; decide)] at hu
        obtain hwait | hwait | hwait := hstate <;>
          · rw [hwait] at hu
            dsimp only at hu
            rw [if_pos ⟨by rw [hwait]; decide, hlate⟩] at hu
            cases hu
      have hnull : ¬t.SendsNull now := by
        rintro ⟨u, hu', -⟩
        rw [hu] at hu'
        cases hu'
      rw [if_neg hreports, if_neg hnull]
      exact congrArg Numbers.seq (LonUsbLinkState.numbers_of_beforeNext_none hu)
    | some u =>
      have hnumbers := LonUsbLinkState.numbers_beforeNext hu
      have hnull : t.SendsNull now ↔ 0 ≤ (t.numbersBefore now).ack := by
        rw [← hnumbers]
        constructor
        · rintro ⟨u', hu', hack⟩
          obtain rfl := Option.some.inj (hu.symm.trans hu')
          exact hack
        · exact fun hack => ⟨u, hu, hack⟩
      rw [seq_poll_of_some hu]
      simp only [hnull]
      unfold LonUsbLinkState.numbersBefore
      rw [if_neg hresync]
      by_cases hidle : t.StartsIdle
      case pos =>
        have hreports : ¬t.ReportsStatus now := fun h => h.1.1.elim
          (fun h => absurd (hidle.1.symm.trans h) (by decide))
          fun h => h.elim (fun h => absurd (hidle.1.symm.trans h) (by decide))
            fun h => absurd (hidle.1.symm.trans h) (by decide)
        rw [if_pos hidle, if_neg hreports]
        unfold Numbers.acknowledged
        split <;> rfl
      case neg =>
        rw [if_neg hidle]
        by_cases hreports : t.ReportsStatus now
        case pos =>
          rw [if_pos hreports, if_pos hreports]
          rfl
        case neg =>
          rw [if_neg hreports, if_neg hreports]
          unfold Numbers.acknowledged
          split <;> rfl

theorem seq_linkStep_anew (hs : t.shutdown = false) (hanew : StartsAnew (t, e)) :
    (linkStep e t).downlinkSeqNumber = 0 := by
  cases e with
  | writeLonUsbMsg | readUplinkBuffer | setRing => exact hanew.elim
  | processUplinkByte x =>
    have hstep : linkStep (.processUplinkByte x) t =
        (t.processUplinkByte x.now x.last x.byte).1 := if_neg (by rw [hs]; decide)
    rw [hstep, LonUsbLinkState.seq_processUplinkByte, LonUsbLinkState.seqAfter,
      if_pos (show t.Restarts x.byte from hanew)]
  | processDownlinkRequests now =>
    have hresync : t.Resyncs now := hanew
    have hsome : (t.beforeNext now).isSome := by
      unfold LonUsbLinkState.beforeNext
      rw [if_neg (by rw [hs]; decide)]
      obtain h | h := hresync.1 <;> rw [h.1] <;> rfl
    obtain ⟨u, hu⟩ := Option.isSome_iff_exists.mp hsome
    rw [seq_poll_of_some hu, LonUsbLinkState.numbersBefore, if_pos hresync]
    unfold Numbers.acknowledged
    split
    case isTrue hack =>
      have hneg : t.numbers.resynced.ack < 0 := by
        change (if -2 < t.downlinkAckSeqNumber then -2 else t.downlinkAckSeqNumber) < 0
        split <;> omega
      omega
    case isFalse => rfl

theorem Numbered.linkStep (ht : Numbered t) (e : LinkEvent) : Numbered (linkStep e t) := by
  have hshutdown := shutdown_linkStep (e := e) ht.shutdown
  by_cases hanew : StartsAnew (t, e)
  case pos =>
    have hseq := seq_linkStep_anew ht.shutdown hanew
    exact ⟨hshutdown, by omega, by omega⟩
  case neg =>
    have hseq := seq_linkStep ht.shutdown hanew
    cases hmoves : moves (t, e) with
    | zero =>
      rw [hmoves] at hseq
      have hnonneg := ht.nonneg
      have hle := ht.le
      change _ = t.downlinkSeqNumber at hseq
      exact ⟨hshutdown, by omega, by omega⟩
    | succ k =>
      rw [hmoves, Function.iterate_succ_apply'] at hseq
      have hmem := nextNumber_mem (nextNumber^[k] t.downlinkSeqNumber)
      rw [← hseq] at hmem
      exact ⟨hshutdown, by omega, hmem.2⟩

theorem written_eq_some {n : UInt8} {k : Nat} (hn : written (t, e) = some n)
    (hk : (linkStep e t).downlinkSeqNumber = k) (hlt : k < 8) : n = UInt8.ofNat k := by
  cases e with
  | writeLonUsbMsg | readUplinkBuffer | setRing | processUplinkByte => cases hn
  | processDownlinkRequests now =>
    obtain ⟨u, hu, hnumber⟩ := Option.bind_eq_some_iff.mp hn
    have hseq : u.sendAck.readDownlinkBuffer.1.downlinkSeqNumber = k := by
      rw [← hk]
      change _ = (t.processDownlinkRequests now).1.downlinkSeqNumber
      rw [LonUsbLinkState.processDownlinkRequests_of_some hu, u.seq_processNextDownlinkMessage]
      exact (congrArg Numbers.seq u.sendAck.numbers_readDownlinkBuffer).trans
        (congrArg Numbers.seq u.numbers_sendAck)
    unfold LonUsbLinkState.messageNumber at hnumber
    dsimp only at hnumber
    split at hnumber
    case isTrue =>
      rw [← Option.some.inj hnumber]
      exact LonUsbLinkState.seq_messageHeader hseq hlt
    case isFalse => cases hnumber

theorem seq_of_lastWritten (hs : Numbered s) (hrun : LinkRun s h t) :
    Numbered t ∧ ∀ m, lastWritten h = some m → ∃ k < 8, m = UInt8.ofNat k ∧
      t.downlinkSeqNumber = nextNumber^[movesSince h] (k : Int) := by
  induction hrun with
  | refl => exact ⟨hs, fun m hm => by cases hm⟩
  | @next h t e _ ih =>
    obtain ⟨hnumbered, hlast⟩ := ih
    have hnext := hnumbered.linkStep e
    refine ⟨hnext, fun m hm => ?_⟩
    unfold lastWritten at hm
    unfold movesSince
    split at hm
    case isTrue hwritten =>
      obtain ⟨k, hk⟩ := Int.eq_ofNat_of_zero_le hnext.nonneg
      have hle := hnext.le
      have hlt : k < 8 := by omega
      rw [if_pos hwritten]
      exact ⟨k, hlt, written_eq_some hm hk hlt, hk⟩
    case isFalse hwritten =>
      split at hm
      case isTrue => cases hm
      case isFalse hanew =>
        obtain ⟨k, hlt, hmk, hseq⟩ := hlast m hm
        rw [if_neg hwritten, seq_linkStep hnumbered.shutdown hanew, hseq, ← Function.iterate_add_apply]
        exact ⟨k, hlt, hmk, rfl⟩

end Run

def DistinctNumbers (h : LinkHistory) : Prop :=
  ∀ x h₁ m n, x :: h₁ <:+ h → ¬StartsAnew x → lastWritten h₁ = some m → written x = some n → n ≠ m

/-- Between the two the number was moved, and not once around its cycle. -/
def MovesOn (h : LinkHistory) : Prop :=
  ∀ x h₁ m, x :: h₁ <:+ h → ¬StartsAnew x → lastWritten h₁ = some m → (written x).isSome →
    ¬ComesAgain m (moves x + movesSince h₁)

def shortFrame : LonDataFrame := ⟨LonNiLocalNetMgmtCmd, 1, fun _ => 0⟩

def timeoutEvents : List LinkEvent :=
  readyEvents ++ [.writeLonUsbMsg shortFrame, .writeLonUsbMsg shortFrame,
    .processDownlinkRequests 3000, .processDownlinkRequests 5000]

end LonStack.LonUsb
