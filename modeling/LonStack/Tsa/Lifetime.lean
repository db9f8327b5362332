import LonStack.TimerLaws
import LonStack.Tsa.System

namespace LonStack

open Lib

variable {h : CallHistory} {gp : ProtocolStackData} {c : Call} {i : Fin RECEIVE_TRANS_COUNT}

def Call.keeps (gp : ProtocolStackData) : Call → Nat
  | .initRR _ p _ _ _ _ => computeRecvTimerValue gp.eep p.srcAddr.addressMode p.srcAddr.group
  | _ => 0

def openedAt (i : Fin RECEIVE_TRANS_COUNT) : CallHistory → UInt32
  | [] => 0
  | x :: h => if x.2.opened = some i then x.1.tickCount else openedAt i h

def lifetime (i : Fin RECEIVE_TRANS_COUNT) : CallHistory → Nat
  | [] => 0
  | x :: h => if x.2.opened = some i then x.2.keeps x.1 else lifetime i h

theorem openedAt_cons (hc : c.opened ≠ some i) : openedAt i ((gp, c) :: h) = openedAt i h :=
  if_neg hc

theorem lifetime_cons (hc : c.opened ≠ some i) : lifetime i ((gp, c) :: h) = lifetime i h :=
  if_neg hc

theorem decodeRcvTimer_lt {code rcvTimer : Nat} (h : decodeRcvTimer code = some rcvTimer) :
    rcvTimer < 65536 := by
  have hall : ∀ t ∈ rcvTimerCodeLGbl, t < 65536 := by decide
  exact hall _ (List.mem_of_getElem? h)

theorem foldlM_max_lt {α : Type} {f : α → Option Nat} {bound : Nat} {l : List α}
    {hit : α → Bool} (hf : ∀ a n, f a = some n → n < bound) {start result : Nat}
    (hstart : start < bound)
    (h : l.foldlM (fun max a => if hit a then (f a).map fun n => Nat.max max n else some max)
      start = some result) : result < bound := by
  induction l generalizing start with
  | nil => simp at h; omega
  | cons a l ih =>
    simp only [List.foldlM_cons, Option.bind_eq_bind, Option.bind_eq_some_iff] at h
    obtain ⟨next, hnext, h⟩ := h
    refine ih ?_ h
    split at hnext
    · simp only [Option.map_eq_some_iff] at hnext
      obtain ⟨n, hn, rfl⟩ := hnext
      exact Nat.max_lt.mpr ⟨hstart, hf a n hn⟩
    · simp only [Option.some.injEq] at hnext
      omega

theorem getD_lt {o : Option Nat} {bound : Nat} (ho : ∀ n, o = some n → n < bound)
    (hpos : 0 < bound) : o.getD 0 < bound := by
  cases o with
  | none => exact hpos
  | some n => exact ho n rfl

theorem computeRecvTimerValue_lt (eep : Eeprom) (addrMode : AddrMode) (groupId : UInt8) :
    computeRecvTimerValue eep addrMode groupId < 65536 := by
  simp only [computeRecvTimerValue]
  split
  · decide
  · split
    · exact getD_lt (fun _ hfold => foldlM_max_lt (fun _ _ => decodeRcvTimer_lt) (by decide) hfold)
        (by decide)
    · exact getD_lt (fun _ hcode => decodeRcvTimer_lt hcode) (by decide)

theorem keeps_lt : c.keeps gp < 65536 := by
  cases c with
  | initRR => exact computeRecvTimerValue_lt _ _ _
  | _ => exact Nat.zero_lt_succ _

structure LivesOn (i : Fin RECEIVE_TRANS_COUNT) (h : CallHistory) (rr : ReceiveRecord) : Prop where
  short : lifetime i h < 65536
  timer : rr.InUse →
    ∃ timer : LonTimer, rr.recvTimer = timer.set (openedAt i h) (UInt32.ofNat (lifetime i h))

theorem livesOn_step (hg : c.Guard h gp) (hpool : c.movesPool gp = false)
    (hl : LivesOn i h (gp.recvRec i)) : LivesOn i ((gp, c) :: h) ((c.apply gp).recvRec i) := by
  have hstep := recordStep hg hpool i
  have hother (hc : c.opened ≠ some i) : LivesOn i ((gp, c) :: h) (gp.recvRec i) := by
    constructor
    · rw [lifetime_cons hc]
      exact hl.short
    · rw [lifetime_cons hc, openedAt_cons hc]
      exact hl.timer
  have hnone (hc : c.opened = none) : c.opened ≠ some i := by simp [hc]
  generalize (c.apply gp).recvRec i = rr at hstep ⊢
  cases hstep with
  | opened layer p serviceType apdu clearReqId =>
    constructor
    · simp only [lifetime, Call.opened, if_true]
      exact keeps_lt
    · intro _
      simp only [lifetime, openedAt, Call.opened, if_true, Call.keeps, ProtocolStackData.initRR,
        ProtocolStackData.recvRec_modifyRR]
      exact ⟨_, rfl⟩
  | kept _ _ _ hc => exact ⟨(hother hc).short, (hother hc).timer⟩
  | released | freed => exact ⟨(hother (hnone rfl)).short, fun huse => absurd rfl huse⟩
  | closed _ hc => exact ⟨(hother (hnone hc)).short, (hother (hnone hc)).timer⟩
  | challenged | authenticated | delivered | responded =>
    exact ⟨(hother (hnone rfl)).short, (hother (hnone rfl)).timer⟩

theorem Reaches.livesOn {g₀ : ProtocolStackData} (hinit : g₀.PowerUp) (hrun : Reaches g₀ h gp)
    (hpool : ∀ x ∈ h, x.2.movesPool x.1 = false) (i : Fin RECEIVE_TRANS_COUNT) :
    EachCall (fun h gp c => c.Guard h gp ∧ LivesOn i h (gp.recvRec i)) h :=
  (hrun.invariant_of_forall (I := fun h gp => LivesOn i h (gp.recvRec i)) hpool
    ⟨Nat.zero_lt_succ _, fun huse => absurd huse (hinit.recvRec i)⟩
    fun _ _ _ hg hpool hl => livesOn_step hg hpool hl).2

/-- The time of record `i` is over. The comparison is that of a 32-bit clock, which turns. -/
structure Outlived (i : Fin RECEIVE_TRANS_COUNT) (h : CallHistory) (tickCount : UInt32) : Prop where
  limited : lifetime i h ≠ 0
  elapsed : LonTimer.delay (openedAt i h) (UInt32.ofNat (lifetime i h)) ≤
    (tickCount - openedAt i h).toNat
  turn : (tickCount - openedAt i h).toNat ≤
    LonTimer.delay (openedAt i h) (UInt32.ofNat (lifetime i h)) + 2 ^ 31

theorem LivesOn.isExpired_iff (hl : LivesOn i h (gp.recvRec i)) (huse : (gp.recvRec i).InUse) :
    (gp.recvRec i).recvTimer.isExpired gp.tickCount = true ↔ Outlived i h gp.tickCount := by
  obtain ⟨timer, htimer⟩ := hl.timer huse
  rw [htimer, LonTimer.isExpired_set_iff hl.short]
  exact ⟨fun ⟨hpos, hover, hturn⟩ => ⟨hpos, hover, hturn⟩,
    fun ho => ⟨ho.limited, ho.elapsed, ho.turn⟩⟩

theorem not_inUse_releaseExpired_iff (layer : Layer) (huse : (gp.recvRec i).InUse) :
    ¬((gp.releaseExpired layer).recvRec i).InUse ↔
      (gp.recvRec i).status = layer.rrStatus ∧
        (gp.recvRec i).recvTimer.isExpired gp.tickCount = true := by
  simp only [ProtocolStackData.releaseExpired]
  split
  case isTrue hexp =>
    simp only [Bool.and_eq_true, decide_eq_true_eq] at hexp
    exact iff_of_true (fun hin => hin rfl) hexp
  case isFalse hexp =>
    simp only [Bool.and_eq_true, decide_eq_true_eq] at hexp
    exact iff_of_false (not_not_intro huse) hexp

theorem inUse_step (hg : c.Guard h gp) (hpool : c.movesPool gp = false) (hfree : c ≠ .freeRR i)
    (hrelease : ∀ layer, c ≠ .releaseExpired layer) (huse : (gp.recvRec i).InUse) :
    ((c.apply gp).recvRec i).InUse := by
  have hstep := recordStep hg hpool i
  generalize (c.apply gp).recvRec i = rr at hstep ⊢
  cases hstep with
  | opened layer => simp [ProtocolStackData.initRR, ReceiveRecord.InUse, layer.rrStatus_ne]
  | released layer => exact absurd rfl (hrelease layer)
  | freed => exact absurd rfl hfree
  | kept | closed | challenged | authenticated | delivered | responded => exact huse

/-- A record is in use until its time is over, counted from the message that it was initialised
for: no retry of that message and no challenge or answer ends it or makes it last longer, unless an
answer moves the pool of records. -/
theorem records_live_out {g₀ : ProtocolStackData} (hinit : g₀.PowerUp) (hrun : Reaches g₀ h gp)
    (hpool : ∀ x ∈ h, x.2.movesPool x.1 = false) (i : Fin RECEIVE_TRANS_COUNT) :
    EachCall
      (fun h gp c => (gp.recvRec i).InUse →
        (¬((c.apply gp).recvRec i).InUse ↔
          c = .freeRR i ∨
            ∃ layer, c = .releaseExpired layer ∧ (gp.recvRec i).status = layer.rrStatus ∧
              Outlived i h gp.tickCount)) h := by
  refine ((hrun.livesOn hinit hpool i).and_mem hpool).mono fun h gp c ⟨⟨hg, hl⟩, hpool⟩ huse => ?_
  by_cases hfree : c = .freeRR i
  case pos =>
    subst hfree
    refine iff_of_true (fun hin => hin ?_) (.inl rfl)
    simp [Call.apply, ProtocolStackData.freeRR]
  case neg =>
    rw [or_iff_right hfree]
    by_cases hrelease : ∃ layer, c = .releaseExpired layer
    case pos =>
      obtain ⟨layer, rfl⟩ := hrelease
      rw [Call.apply, not_inUse_releaseExpired_iff layer huse, hl.isExpired_iff huse]
      simp
    case neg =>
      rw [not_exists] at hrelease
      refine iff_of_false (not_not_intro (inUse_step hg hpool hfree hrelease huse)) ?_
      rintro ⟨layer, hc, -⟩
      exact hrelease layer hc

def messageThenRetry : List Event :=
  [.env (.networkReceive (messageFrom (nodeSource 2) 0 .tpdu Pdu.ACKD_MSG 5 [0x10])),
    .transportLayerReceive, .env (.tick 127),
    .env (.networkReceive (messageFrom (nodeSource 2) 0 .tpdu Pdu.ACKD_MSG 5 [0x10])),
    .transportLayerReceive, .env (.tick 128), .transportLayerReceive]

theorem records_live_out_retriedMessage :
    EachCall
      (fun h gp c => (gp.recvRec 0).InUse →
        (¬((c.apply gp).recvRec 0).InUse ↔
          c = .freeRR 0 ∨
            ∃ layer, c = .releaseExpired layer ∧ (gp.recvRec 0).status = layer.rrStatus ∧
              Outlived 0 h gp.tickCount))
      (runEvents messageThenRetry ([], .reset default 3 50)).1 :=
  records_live_out (ProtocolStackData.powerUp_reset default 3 50)
    (ProtocolStackData.reaches_runEvents _ messageThenRetry) (by decide +kernel) 0

example : ((runEvents messageThenRetry ([], .reset default 3 50)).2.recvRec 0).status = .unused := by
  decide +kernel

end LonStack
