import LonStack.QueueLaws
import LonStack.Tsa.Auth
import LonStack.Tsa.Pool

namespace LonStack

theorem Layer.rrStatus_ne (layer : Layer) : layer.rrStatus ≠ .unused := by
  cases layer <;> simp [Layer.rrStatus]

namespace ProtocolStackData

variable (gp : ProtocolStackData) (i j : Fin RECEIVE_TRANS_COUNT)

@[simp]
theorem recvRec_modifyRR (f : ReceiveRecord → ReceiveRecord) :
    (gp.modifyRR i f).recvRec i = f (gp.recvRec i) :=
  Function.update_self ..

theorem recvRec_modifyRR_of_ne {i j : Fin RECEIVE_TRANS_COUNT} (h : j ≠ i)
    (f : ReceiveRecord → ReceiveRecord) : (gp.modifyRR i f).recvRec j = gp.recvRec j :=
  Function.update_of_ne h ..

@[simp]
theorem recvRec_dropTsaIn : gp.dropTsaIn.recvRec = gp.recvRec := rfl

@[simp]
theorem recvRec_pushNw (priority : Bool) (fill : NWSendParam → NWSendParam) :
    (gp.pushNw priority fill).recvRec = gp.recvRec := rfl

@[simp]
theorem eep_dropTsaIn : gp.dropTsaIn.eep = gp.eep := rfl

theorem inUse_initRR {layer : Layer} {p : TSAReceiveParam} {serviceType : ServiceType}
    {apdu : List UInt8} {clearReqId : Bool} :
    ((gp.initRR layer p serviceType apdu clearReqId i).recvRec i).InUse := by
  simp only [ReceiveRecord.InUse, initRR, recvRec_modifyRR]
  exact layer.rrStatus_ne

@[simp]
theorem transState_initRR {layer : Layer} {p : TSAReceiveParam} {serviceType : ServiceType}
    {apdu : List UInt8} {clearReqId : Bool} :
    ((gp.initRR layer p serviceType apdu clearReqId i).recvRec i).transState = .justReceived := by
  simp [initRR]

def deliverable : Bool :=
  !((gp.recvRec i).needAuth && (gp.recvRec i).transState != .authenticated) && !gp.appInQ.full &&
    (gp.recvRec i).apduSize ≤ gp.appInBufSize

theorem appInQ_deliver :
    (gp.deliver i).appInQ =
      if gp.deliverable i then gp.appInQ.push (gp.recvRec i).message else gp.appInQ := by
  simp only [deliver, deliverable]
  split
  case isTrue hauth => simp [hauth, modifyRR]
  case isFalse hauth =>
    split
    case isTrue hfull => simp [hfull]
    case isFalse hfull =>
      split
      case isTrue hsize => simp [hsize]
      case isFalse hsize =>
        simp [hauth, hfull, Nat.not_lt.mp hsize]

theorem recvRec_deliver :
    (gp.deliver i).recvRec =
      if gp.deliverable i then
        Function.update gp.recvRec i { gp.recvRec i with transState := .delivered }
      else if (gp.recvRec i).needAuth && (gp.recvRec i).transState != .authenticated then
        Function.update gp.recvRec i { gp.recvRec i with transState := .done }
      else gp.recvRec := by
  simp only [deliver, deliverable]
  split
  case isTrue hauth =>
    simp [hauth, modifyRR]
  case isFalse hauth =>
    split
    case isTrue hfull => simp [hauth, hfull]
    case isFalse hfull =>
      split
      case isTrue hsize => simp [hauth, hsize]
      case isFalse hsize => simp [hauth, hfull, Nat.not_lt.mp hsize, modifyRR]

theorem deliver_congr {β : Type} (f : ReceiveRecord → β)
    (hf : ∀ rr transState, f { rr with transState := transState } = f rr) :
    f ((gp.deliver i).recvRec j) = f (gp.recvRec j) := by
  rw [recvRec_deliver]
  by_cases hji : j = i
  · subst hji
    split
    · rw [Function.update_self, hf]
    · split
      · rw [Function.update_self, hf]
      · rfl
  · split
    · rw [Function.update_of_ne hji]
    · split
      · rw [Function.update_of_ne hji]
      · rfl

@[simp]
theorem status_deliver : ((gp.deliver i).recvRec j).status = (gp.recvRec j).status :=
  gp.deliver_congr i j (·.status) fun _ _ => rfl

@[simp]
theorem auth_deliver : ((gp.deliver i).recvRec j).auth = (gp.recvRec j).auth :=
  gp.deliver_congr i j (·.auth) fun _ _ => rfl

theorem recvRec_deliver_of_checked (h : gp.deliverable i = false)
    (hhandled : (gp.recvRec i).handled = false) (hchecked : (gp.recvRec i).unchallenged = false) :
    (gp.deliver i).recvRec = gp.recvRec := by
  rw [recvRec_deliver, if_neg (by simp [h]), if_neg]
  simp only [ReceiveRecord.handled, ReceiveRecord.unchallenged] at hhandled hchecked
  cases hstate : (gp.recvRec i).transState <;> simp_all

theorem recvRec_drawChallenge :
    (gp.drawChallenge i).recvRec =
      Function.update gp.recvRec i
        { gp.recvRec i with rand := ((gp.drawChallenge i).recvRec i).rand } := by
  unfold drawChallenge
  split
  · rw [Function.update_eq_self]
  · simp [modifyRR]

theorem recvRec_initiateChallenge :
    ∃ rand transState,
      (transState = (gp.recvRec i).transState ∨ transState = .authenticating) ∧
        (gp.initiateChallenge i).recvRec =
          Function.update gp.recvRec i
            { gp.recvRec i with rand := rand, transState := transState } := by
  simp only [initiateChallenge]
  split
  case isTrue => exact ⟨_, _, .inl rfl, (Function.update_eq_self i gp.recvRec).symm⟩
  case isFalse =>
    split
    case h_1 => exact ⟨_, _, .inl rfl, gp.recvRec_drawChallenge i⟩
    case h_2 =>
      refine ⟨((gp.drawChallenge i).recvRec i).rand, _, .inr rfl, ?_⟩
      rw [recvRec_pushNw, modifyRR, recvRec_drawChallenge]
      simp

theorem recvRec_tpSendAck : (gp.tpSendAck i).recvRec = gp.recvRec := by
  simp only [tpSendAck]
  split
  · rfl
  · split <;> rfl

theorem toRecvData_answerChallenge {useOma : Bool} {p : TSAReceiveParam} :
    (gp.answerChallenge useOma p).toRecvData = gp.toRecvData := by
  simp only [answerChallenge]
  split
  · rfl
  · split
    · rfl
    · split <;> rfl

theorem recvRec_sendReplyToChallenge {useOma : Bool} {p : TSAReceiveParam}
    (hpool : gp.movesPool useOma p = false) :
    (gp.sendReplyToChallenge useOma p).recvRec = gp.recvRec := by
  have hrecv : (gp.answerChallenge useOma p).toRecvData = gp.toRecvData :=
    gp.toRecvData_answerChallenge
  have hrec : (gp.answerChallenge useOma p).recvRec = gp.recvRec :=
    congrArg RecvData.recvRec hrecv
  have hlow : (gp.answerChallenge useOma p).recvRecLow = gp.recvRecLow :=
    congrArg RecvData.recvRecLow hrecv
  rw [sendReplyToChallenge]
  split
  case isFalse => exact hrec
  case isTrue hover =>
    rw [writeBehind]
    split
    case isFalse => exact hrec
    case isTrue hpriority =>
      simp only [movesPool, hpriority, hover, Bool.and_self, Bool.true_and,
        bne_eq_false_iff_eq] at hpool
      rw [moveRecvRec, if_pos (hpool.trans hlow.symm), hrec]

theorem retrieveRR_modifyRR {f : ReceiveRecord → ReceiveRecord} {src : SourceAddress}
    {priority : Bool} (hf : (f (gp.recvRec i)).lookupKey = (gp.recvRec i).lookupKey) :
    (gp.modifyRR i f).retrieveRR src priority = gp.retrieveRR src priority := by
  unfold retrieveRR
  congr 1
  funext j
  rw [Bool.eq_iff_iff, ReceiveRecord.matchesSource_iff, ReceiveRecord.matchesSource_iff]
  by_cases hji : j = i
  · rw [hji, recvRec_modifyRR, hf]
  · rw [recvRec_modifyRR_of_ne _ hji]

theorem retrieveRR_authenticate {useOma : Bool} {p : TSAReceiveParam} {src : SourceAddress}
    {priority : Bool} :
    (gp.authenticate useOma p i).retrieveRR src priority = gp.retrieveRR src priority :=
  gp.retrieveRR_modifyRR i rfl

theorem retrieveRR_freeRR {src : SourceAddress} {priority : Bool} :
    (gp.freeRR i).retrieveRR src priority = gp.retrieveRR src priority :=
  gp.retrieveRR_modifyRR i rfl

end ProtocolStackData

end LonStack
