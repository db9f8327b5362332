import LonStack.Buffers
import LonStack.NetworkRoundTrip
import LonStack.Tsa.Frame
import LonStack.Tsa.NetworkEnv
import LonStack.Tsa.System

namespace LonStack

open Lib

variable {b : TsaBuffers} {g₀ gp : ProtocolStackData} {h : CallHistory} {c : Call}

def Call.copyFits (b : TsaBuffers) : Call → Bool
  | .initRR _ _ _ apdu _ _ => decide (apdu.length ≤ b.recvRecApdu)
  | .storeResponse response _ => decide (response.length ≤ b.recvRecResponse)
  | _ => true

def TSAReceiveParam.overhead (p : TSAReceiveParam) : Nat :=
  1 + p.dataIndex + (if p.pdu.pduMsgType = Pdu.REM_MSG_MSG then 1 + p.mListLength else 0)

def Call.SizeFits (b : TsaBuffers) (gp : ProtocolStackData) : Call → Prop
  | .initRR _ p _ _ _ _ => p.overhead ≤ p.pduSize ∧ p.pduSize ≤ p.overhead + b.recvRecApdu
  | .storeResponse _ _ => ∀ q ∈ gp.tsaRespQ.peek, q.apduSize ≤ b.recvRecResponse
  | _ => True

def NetworkStackData.Admits (r : NetworkStackData) (uninit : SourceAddress) (p : TSAReceiveParam) :
    Prop :=
  (r.networkLayerReceive uninit).tsaInQ.toList = r.tsaInQ.toList ++ [p]

theorem NetworkStackData.Admits.pduSize_le {r : NetworkStackData} {uninit : SourceAddress}
    {p : TSAReceiveParam} (hp : r.Admits uninit p) : p.pduSize ≤ r.tsaInBufSize := by
  have hstep := r.networkLayerReceive_step uninit
  unfold Admits at hp
  generalize (r.networkLayerReceive uninit).toProtocolStackData = gp at hstep hp
  cases hstep with
  | dropped => simp at hp
  | apdu x => simp [EnvCall.apply] at hp
  | tspdu p' hsize =>
    simp only [EnvCall.apply, Queue.toList_push] at hp
    split at hp
    case isTrue =>
      rw [List.append_cancel_left_eq, List.cons.injEq] at hp
      rw [← hp.1]
      exact hsize
    case isFalse => simp at hp

def Call.Admitted (b : TsaBuffers) (gp : ProtocolStackData) (c : Call) : Prop :=
  ∀ p, c = .env (.networkReceive p) →
    ∃ (r : NetworkStackData) (uninit : SourceAddress),
      r.toProtocolStackData = gp ∧ r.tsaInBufSize = b.tsaInBufSize ∧ r.Admits uninit p

theorem Reaches.pduSize_le (hrun : Reaches g₀ h gp) (hinit : g₀.PowerUp) :
    EachCall (fun h gp c => c.Guard h gp ∧
      ((∀ x ∈ h, x.2.Admitted b x.1) → ∀ p ∈ gp.tsaInQ.toList, p.pduSize ≤ b.tsaInBufSize)) h := by
  refine (hrun.invariant (I := fun h gp =>
    (∀ x ∈ h, x.2.Admitted b x.1) → ∀ p ∈ gp.tsaInQ.toList, p.pduSize ≤ b.tsaInBufSize) ?_ ?_).2
  · intro _ p hp
    rw [(g₀.tsaInQ.toList_eq_nil_iff).mpr hinit.tsaInQ] at hp
    simp at hp
  · intro h gp c _ ih hadmitted p hp
    rw [List.forall_mem_cons] at hadmitted
    rcases Call.mem_tsaInQ_apply hp with hp | hc
    · exact ih hadmitted.2 p hp
    · obtain ⟨r, uninit, -, hsize, hp⟩ := hadmitted.1 p hc
      rw [← hsize]
      exact hp.pduSize_le

theorem TSAReceiveParam.dataIndex_le (p : TSAReceiveParam) : p.dataIndex ≤ 1 := by
  unfold TSAReceiveParam.dataIndex LonStack.dataIndex
  split <;> omega

theorem length_newMsgApdu_le_iff {p : TSAReceiveParam} {n : Nat} (hn : n ≤ 255)
    (hsize : p.pduSize ≤ 259) (hmsg : p.pdu.pduMsgType ≠ Pdu.REM_MSG_MSG) :
    p.newMsgApdu.length ≤ n ↔ p.overhead ≤ p.pduSize ∧ p.pduSize ≤ p.overhead + n := by
  have hindex := p.dataIndex_le
  rw [TSAReceiveParam.newMsgApdu, length_bytesAt, TSAReceiveParam.overhead, if_neg hmsg]
  omega

theorem length_remApdu_le_iff {p : TSAReceiveParam} {n : Nat} (hn : n ≤ 255)
    (hsize : p.pduSize ≤ 259) (hmsg : p.pdu.pduMsgType = Pdu.REM_MSG_MSG) :
    p.remApdu.length ≤ n ↔ p.overhead ≤ p.pduSize ∧ p.pduSize ≤ p.overhead + n := by
  have hindex := p.dataIndex_le
  have hlength : p.mListLength < 256 := UInt8.toNat_lt _
  rw [TSAReceiveParam.remApdu, length_bytesAt, TSAReceiveParam.overhead, if_pos hmsg]
  omega

theorem copyFits_iff (hb : transactionServicesSublayerReset = some b) (hg : c.Guard h gp)
    (hsize : ∀ p ∈ gp.tsaInQ.toList, p.pduSize ≤ b.tsaInBufSize) :
    c.copyFits b = true ↔ c.SizeFits b gp := by
  obtain rfl := Option.some.inj (transactionServicesSublayerReset_eq.symm.trans hb)
  cases c with
  | initRR layer p serviceType apdu clearReqId i =>
    have hmem (hp : gp.Takes p) : p.pduSize ≤ 259 := by
      have hhead := hp.head
      rw [Queue.peek_eq_head?] at hhead
      exact hsize p (List.mem_of_head? hhead)
    cases hg with
    | newMsg hp hmsg =>
      rw [Call.copyFits, decide_eq_true_eq]
      exact length_newMsgApdu_le_iff (by decide) (hmem hp) hmsg
    | rem hp hmsg =>
      rw [Call.copyFits, decide_eq_true_eq]
      exact length_remApdu_le_iff (by decide) (hmem hp) hmsg
  | storeResponse response i =>
    obtain ⟨-, q, hq, rfl, -⟩ := hg
    simp only [Call.copyFits, Call.SizeFits, hq, Option.mem_def, Option.some.injEq, forall_eq',
      TSASendParam.apduSize, decide_eq_true_eq]
  | _ => simp [Call.copyFits, Call.SizeFits]

/-- In every run, what is copied into a receive record fits exactly if the sizes of the received
PDUs and of the responses do. -/
theorem copies_fit_iff (hb : transactionServicesSublayerReset = some b) (hrun : Reaches g₀ h gp)
    (hinit : g₀.PowerUp) (hadmitted : ∀ x ∈ h, x.2.Admitted b x.1) :
    (∀ x ∈ h, x.2.copyFits b = true) ↔ ∀ x ∈ h, x.2.SizeFits b x.1 := by
  have hcalls := hrun.pduSize_le (b := b) hinit
  clear hrun
  induction h with
  | nil => simp
  | cons x h ih =>
    rw [List.forall_mem_cons] at hadmitted
    rw [List.forall_mem_cons, List.forall_mem_cons]
    exact and_congr (copyFits_iff hb hcalls.1.1 (hcalls.1.2 hadmitted.2))
      (ih hadmitted.2 hcalls.2)

def Call.isEnv : Call → Bool
  | .env _ => true
  | _ => false

def admittingNode (n : Nat) : NetworkStackData :=
  { networkNode 2 1 with
    tsaInBufSize := 259
    nwInQ := (Queue.init default 3).push fun _ =>
      { priority := false
        altPath := 0
        pduSize := 1 + 5 + (1 + n)
        npdu :=
          ⟨Npdu.header LsProtocolModeLegacy PduType.tpdu.code 2 1,
            [1, 0x81, 1, 0x82, 1] ++ 0x01 :: List.replicate n 7⟩ } }

def admittedPdu (n : Nat) : TSAReceiveParam :=
  ((admittingNode n).networkLayerReceive default).tsaInQ.peek.getD default

def admittedRun (n : Nat) : CallHistory × ProtocolStackData :=
  runEvents [.env (.networkReceive (admittedPdu n)), .transportLayerReceive]
    ([], (admittingNode n).toProtocolStackData)

theorem reaches_admittedRun (n : Nat) :
    Reaches (admittingNode n).toProtocolStackData (admittedRun n).1 (admittedRun n).2 :=
  ProtocolStackData.reaches_runEvents _ _

theorem powerUp_admittingNode (n : Nat) : (admittingNode n).toProtocolStackData.PowerUp :=
  ProtocolStackData.powerUp_reset _ _ _

theorem admitted_admittedRun {n : Nat} {b : TsaBuffers}
    (hb : transactionServicesSublayerReset = some b)
    (hp : (admittingNode n).Admits default (admittedPdu n))
    (hlog : (Tsa.transportLayerReceive.log Call.apply
      ((EnvCall.networkReceive (admittedPdu n)).apply (admittingNode n).toProtocolStackData)).all
        (fun x => !x.2.isEnv) = true) :
    ∀ x ∈ (admittedRun n).1, x.2.Admitted b x.1 := by
  obtain rfl := Option.some.inj (transactionServicesSublayerReset_eq.symm.trans hb)
  intro x hx p hxp
  have hx : x ∈ Tsa.transportLayerReceive.log Call.apply
      ((EnvCall.networkReceive (admittedPdu n)).apply (admittingNode n).toProtocolStackData) ++
        [((admittingNode n).toProtocolStackData, Call.env (.networkReceive (admittedPdu n)))] := hx
  rcases List.mem_append.mp hx with hx | hx
  · have := List.all_eq_true.mp hlog x hx
    simp [hxp, Call.isEnv] at this
  · obtain rfl := List.mem_singleton.mp hx
    obtain rfl : admittedPdu n = p := by simpa using hxp
    exact ⟨admittingNode n, default, rfl, rfl, hp⟩

theorem copies_fit_iff_three :
    (∀ x ∈ (admittedRun 3).1, x.2.copyFits ⟨259, 259, 259, 255, 82, 82⟩ = true) ↔
      ∀ x ∈ (admittedRun 3).1, x.2.SizeFits ⟨259, 259, 259, 255, 82, 82⟩ x.1 :=
  copies_fit_iff transactionServicesSublayerReset_eq (reaches_admittedRun 3)
    (powerUp_admittingNode 3)
    (admitted_admittedRun transactionServicesSublayerReset_eq
      (by unfold NetworkStackData.Admits; decide +kernel) (by decide +kernel))

theorem not_copies_fit :
    ∃ (b : TsaBuffers) (g₀ gp : ProtocolStackData) (h : CallHistory),
      transactionServicesSublayerReset = some b ∧ g₀.PowerUp ∧ Reaches g₀ h gp ∧
      (∀ x ∈ h, x.2.Admitted b x.1) ∧ ¬∀ x ∈ h, x.2.copyFits b = true := by
  refine ⟨_, _, _, _, transactionServicesSublayerReset_eq, powerUp_admittingNode 83,
    reaches_admittedRun 83, admitted_admittedRun transactionServicesSublayerReset_eq
      (by unfold NetworkStackData.Admits; decide +kernel) (by decide +kernel), ?_⟩
  decide +kernel

end LonStack
