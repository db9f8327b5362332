import LonStack.Tsa.Guard

namespace LonStack

def Call.opened : Call → Option (Fin RECEIVE_TRANS_COUNT)
  | .initRR _ _ _ _ _ i => some i
  | _ => none

variable {h : CallHistory} {gp : ProtocolStackData} {c : Call}

inductive RecordStep (gp : ProtocolStackData) (i : Fin RECEIVE_TRANS_COUNT) :
    Call → ReceiveRecord → Prop
  | opened (layer : Layer) (p : TSAReceiveParam) (serviceType : ServiceType) (apdu : List UInt8)
      (clearReqId : Bool) :
      RecordStep gp i (.initRR layer p serviceType apdu clearReqId i)
        ((gp.initRR layer p serviceType apdu clearReqId i).recvRec i)
  | kept (c : Call) (altPath : UInt8) (needAuth : Bool) :
      c.opened ≠ some i →
      RecordStep gp i c { gp.recvRec i with altPath := altPath, needAuth := needAuth }
  | released (layer : Layer) (recvTimer : LonTimer) :
      (gp.recvRec i).recvTimer.isExpired gp.tickCount = true →
      RecordStep gp i (.releaseExpired layer)
        { gp.recvRec i with status := .unused, recvTimer := recvTimer }
  | freed : RecordStep gp i (.freeRR i) { gp.recvRec i with status := .unused }
  | closed (c : Call) :
      c.opened = none → (gp.recvRec i).handled = true →
      RecordStep gp i c { gp.recvRec i with transState := .done }
  | challenged (rand : Challenge) (transState : TransactionState) :
      (gp.recvRec i).InUse → (gp.recvRec i).unchallenged = true →
      (transState = (gp.recvRec i).transState ∨ transState = .authenticating) →
      RecordStep gp i (.initiateChallenge i)
        { gp.recvRec i with rand := rand, transState := transState }
  | authenticated (useOma : Bool) (p : TSAReceiveParam) :
      (gp.recvRec i).transState = .authenticating →
      RecordStep gp i (.authenticate useOma p i)
        { gp.recvRec i with
          auth := (gp.expectedReply useOma p i).toList == p.authBytes
          transState := .authenticated }
  | delivered :
      gp.deliverable i = true → (gp.recvRec i).handled = false →
      RecordStep gp i (.deliver i) { gp.recvRec i with transState := .delivered }
  | responded (response : List UInt8) :
      (gp.recvRec i).transState = .delivered →
      RecordStep gp i (.storeResponse response i)
        { gp.recvRec i with response := response, transState := .responded }

theorem RecordStep.same {i : Fin RECEIVE_TRANS_COUNT} (hc : c.opened ≠ some i)
    (heq : (c.apply gp).recvRec i = gp.recvRec i) : RecordStep gp i c ((c.apply gp).recvRec i) := by
  rw [heq]
  exact .kept c _ _ hc

section

variable (gp) (i : Fin RECEIVE_TRANS_COUNT)

theorem recordStep_releaseExpired (layer : Layer) :
    RecordStep gp i (.releaseExpired layer) ((gp.releaseExpired layer).recvRec i) := by
  simp only [ProtocolStackData.releaseExpired]
  split
  case isTrue hexp =>
    simp only [Bool.and_eq_true] at hexp
    exact .released layer _ hexp.2
  case isFalse => exact .kept _ _ _ (by simp [Call.opened])

theorem recordStep_snSendResponse (nullResponse flexResponse : Bool)
    (j : Fin RECEIVE_TRANS_COUNT) :
    RecordStep gp i (.snSendResponse nullResponse flexResponse j)
      ((gp.snSendResponse j nullResponse flexResponse).recvRec i) := by
  have hkept : RecordStep gp i (.snSendResponse nullResponse flexResponse j) (gp.recvRec i) :=
    .kept _ _ _ (by simp [Call.opened])
  simp only [ProtocolStackData.snSendResponse]
  split
  case isTrue => exact hkept
  case isFalse =>
    split
    case isTrue => exact hkept
    case isFalse hstate =>
      split
      case isTrue =>
        by_cases hij : i = j
        · subst hij
          rw [ProtocolStackData.recvRec_modifyRR]
          refine .closed _ rfl ?_
          simp only [ReceiveRecord.handled, Bool.or_eq_true, beq_iff_eq]
          tauto
        · rw [ProtocolStackData.recvRec_modifyRR_of_ne _ hij]
          exact hkept
      case isFalse =>
        split
        case isTrue => exact hkept
        case isFalse =>
          split
          case h_1 => exact hkept
          case h_2 =>
            split
            case isTrue =>
              split
              · exact hkept
              · exact hkept
            case isFalse => exact hkept

end

theorem recordStep_update {i j : Fin RECEIVE_TRANS_COUNT} {rr : ReceiveRecord}
    (heq : (c.apply gp).recvRec = Function.update gp.recvRec j rr)
    (hc : ∀ i, i ≠ j → c.opened ≠ some i) (hj : RecordStep gp j c rr) :
    RecordStep gp i c ((c.apply gp).recvRec i) := by
  by_cases hij : i = j
  · subst hij
    rw [heq, Function.update_self]
    exact hj
  · exact .same (hc i hij) (by rw [heq, Function.update_of_ne hij])

theorem recordStep (hg : c.Guard h gp) (hpool : c.movesPool gp = false)
    (i : Fin RECEIVE_TRANS_COUNT) : RecordStep gp i c ((c.apply gp).recvRec i) := by
  cases c with
  | releaseExpired layer => exact recordStep_releaseExpired gp i layer
  | freeRR j => exact recordStep_update rfl (by simp [Call.opened]) .freed
  | initRR layer p serviceType apdu clearReqId j =>
    by_cases hij : i = j
    · subst hij
      exact .opened layer p serviceType apdu clearReqId
    · refine .same (by simp [Call.opened, Ne.symm hij]) ?_
      exact Function.update_of_ne hij ..
  | retryRR altPath j =>
    exact recordStep_update rfl (by simp [Call.opened])
      (.kept _ _ _ (by simp [Call.opened]))
  | setNeedAuth needAuth j =>
    exact recordStep_update rfl (by simp [Call.opened])
      (.kept _ _ _ (by simp [Call.opened]))
  | noteAnswered j =>
    refine recordStep_update rfl (by simp [Call.opened]) (.closed _ rfl ?_)
    rcases hg with hstate | hstate <;> simp [ReceiveRecord.handled, hstate]
  | initiateChallenge j =>
    obtain ⟨rand, transState, hstate, heq⟩ := gp.recvRec_initiateChallenge j
    exact recordStep_update heq (by simp [Call.opened]) (.challenged rand _ hg.1 hg.2 hstate)
  | authenticate useOma p j =>
    exact recordStep_update rfl (by simp [Call.opened]) (.authenticated useOma p hg.1)
  | deliver j =>
    cases hd : gp.deliverable j with
    | true =>
      refine recordStep_update (j := j) ?_ (by simp [Call.opened]) (.delivered hd hg.1)
      simp [Call.apply, ProtocolStackData.recvRec_deliver, hd]
    | false =>
      refine .same (by simp [Call.opened]) ?_
      rw [Call.apply, gp.recvRec_deliver_of_checked j hd hg.1 hg.2.1]
  | storeResponse response j =>
    exact recordStep_update rfl (by simp [Call.opened]) (.responded response hg.1.2)
  | snSendResponse nullResponse flexResponse j =>
    exact recordStep_snSendResponse gp i nullResponse flexResponse j
  | tpSendAck j => exact .same (by simp [Call.opened]) (by rw [Call.apply, gp.recvRec_tpSendAck])
  | sendReplyToChallenge useOma p =>
    exact .same (by simp [Call.opened]) (by rw [Call.apply, gp.recvRec_sendReplyToChallenge hpool])
  | sendCompletion priority success =>
    exact .same (by simp [Call.opened]) (by rw [Call.apply, gp.recvRec_sendCompletion])
  | terminate priority success => exact .same (by simp [Call.opened]) (by rw [Call.apply, gp.recvRec_terminate])
  | retransmit layer priority => exact .same (by simp [Call.opened]) (by rw [Call.apply, gp.recvRec_retransmit])
  | startTrans layer priority p nwDestAddr rptTimer =>
    exact .same (by simp [Call.opened]) (by rw [Call.apply, gp.recvRec_startTrans])
  | takeResponse p sent => exact .same (by simp [Call.opened]) (by rw [Call.apply, gp.recvRec_takeResponse])
  | restartTimer priority => exact .same (by simp [Call.opened]) (by rw [Call.apply, gp.recvRec_restartTimer])
  | env e => exact .same (by simp [Call.opened]) (by cases e <;> rfl)
  | receiveNewMsg | receiveRem | processReply | tpReceiveAck | dropTsaIn | dropTsaResp | countAck
    | countMember => exact .same (by simp [Call.opened]) rfl

end LonStack
