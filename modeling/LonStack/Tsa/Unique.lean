import LonStack.Tsa.System

namespace LonStack

open Lib

namespace ProtocolStackData

/-- `receiveRem` opens a record for a REM/MSG although the record of its source is in use, which it
leaves in place. -/
def strands (gp : ProtocolStackData) (layer : Layer) (p : TSAReceiveParam) : Bool :=
  !p.isReminder && gp.allocateRR.isSome &&
    match gp.retrieveRR p.srcAddr p.priority with
    | none => false
    | some i => decide (gp.recvRec i).InUse && gp.leaves layer p i

def RecordsUnique (gp : ProtocolStackData) : Prop :=
  ∀ i j, (gp.recvRec i).InUse → (gp.recvRec j).InUse →
    (gp.recvRec i).lookupKey = (gp.recvRec j).lookupKey → i = j

end ProtocolStackData

def Call.strands (gp : ProtocolStackData) : Call → Bool
  | .receiveRem layer p => gp.strands layer p
  | _ => false

def Call.strandsFor (k : LookupKey) (gp : ProtocolStackData) : Call → Bool
  | .receiveRem layer p => p.srcAddr.lookupKey p.priority == k && gp.strands layer p
  | _ => false

theorem Call.strands_of_strandsFor {k : LookupKey} {gp : ProtocolStackData} {c : Call}
    (h : c.strandsFor k gp = true) : c.strands gp = true := by
  cases c with
  | receiveRem layer p =>
    simp only [strandsFor, Bool.and_eq_true] at h
    exact h.2
  | _ => exact h

variable {k : LookupKey} {h : CallHistory} {gp : ProtocolStackData} {c : Call}

theorem RecordStep.key {i : Fin RECEIVE_TRANS_COUNT} {rr : ReceiveRecord}
    (hstep : RecordStep gp i c rr) (hc : c.opened ≠ some i) :
    rr.lookupKey = (gp.recvRec i).lookupKey ∧ (rr.InUse → (gp.recvRec i).InUse) := by
  cases hstep with
  | opened => exact absurd rfl hc
  | released => exact ⟨rfl, fun huse => absurd rfl huse⟩
  | freed => exact ⟨rfl, fun huse => absurd rfl huse⟩
  | kept | closed | challenged | authenticated | delivered | responded => exact ⟨rfl, id⟩

theorem lookupKey_initRR {layer : Layer} {p : TSAReceiveParam} {serviceType : ServiceType}
    {apdu : List UInt8} {clearReqId : Bool} (i : Fin RECEIVE_TRANS_COUNT) :
    ((gp.initRR layer p serviceType apdu clearReqId i).recvRec i).lookupKey =
      p.srcAddr.lookupKey p.priority := by
  simp [ProtocolStackData.initRR, ReceiveRecord.lookupKey]

theorem ProtocolStackData.Opens.slot {layer : Layer} {p : TSAReceiveParam}
    {i : Fin RECEIVE_TRANS_COUNT} {serviceType : ServiceType} {apdu : List UInt8}
    (hopens : gp.Opens h layer p i serviceType apdu)
    (hok : ∀ x ∈ h, x.2.strandsFor (p.srcAddr.lookupKey p.priority) x.1 = false)
    (hsettled : RecordsSettled (p.srcAddr.lookupKey p.priority) gp.recvRec) :
    (∀ j, (gp.recvRec j).lookupKey = p.srcAddr.lookupKey p.priority → i ≤ j) ∧
      ∀ j, j ≠ i → (gp.recvRec j).lookupKey = p.srcAddr.lookupKey p.priority →
        ¬(gp.recvRec j).InUse := by
  have hnone (hfound : gp.retrieveRR p.srcAddr p.priority = none)
      (j : Fin RECEIVE_TRANS_COUNT)
      (hj : (gp.recvRec j).lookupKey = p.srcAddr.lookupKey p.priority) : False :=
    ProtocolStackData.retrieveRR_eq_none.mp hfound j hj
  -- a free record that is retrieved comes before all others with the key
  have hfree (j₀ : Fin RECEIVE_TRANS_COUNT) (hfound : gp.retrieveRR p.srcAddr p.priority = some j₀)
      (hj₀ : ¬(gp.recvRec j₀).InUse) (halloc : gp.allocateRR = some i) :
      (∀ j, (gp.recvRec j).lookupKey = p.srcAddr.lookupKey p.priority → i ≤ j) ∧
        ∀ j, j ≠ i → (gp.recvRec j).lookupKey = p.srcAddr.lookupKey p.priority →
          ¬(gp.recvRec j).InUse := by
    rw [ProtocolStackData.retrieveRR_eq_some] at hfound
    rw [ProtocolStackData.allocateRR_eq_some] at halloc
    refine ⟨fun j hj => (halloc.2 j₀ hj₀).trans (hfound.2 j hj), fun j _ hj => ?_⟩
    by_cases hjj₀ : j = j₀
    · exact hjj₀ ▸ hj₀
    · exact hsettled.others_free hfound.1 hfound.2 hjj₀ hj
  cases hopens with
  | newMsg _ _ _ hslot =>
    rcases hslot with ⟨hfound, -⟩ | ⟨hfound, -⟩
    · exact ⟨fun j hj => (hnone hfound j hj).elim, fun j _ hj => (hnone hfound j hj).elim⟩
    · rw [ProtocolStackData.retrieveRR_eq_some] at hfound
      exact ⟨hfound.2, fun j hji => hsettled.others_free hfound.1 hfound.2 hji⟩
  | @rem r _ _ hmark hmsg hrem halloc =>
    cases hrem with
    | fresh hfound => exact ⟨fun j hj => (hnone hfound j hj).elim, fun j _ hj => (hnone hfound j hj).elim⟩
    | @freed j₀ hfound =>
      refine hfree j₀ ?_ ?_ halloc
      · rw [← hfound]
        exact r.retrieveRR_freeRR j₀
      · simp [ProtocolStackData.freeRR, ReceiveRecord.InUse]
    | @left j₀ hfound hleaves =>
      refine hfree j₀ hfound (fun huse => ?_) halloc
      have hstrands := hok _ hmark
      simp [Call.strandsFor, ProtocolStackData.strands, hmsg, halloc, hfound, huse, hleaves]
        at hstrands

theorem recordsSettled_step (hg : c.Guard h gp) (hok : ∀ x ∈ h, x.2.strandsFor k x.1 = false)
    (hpool : c.movesPool gp = false) (hsettled : RecordsSettled k gp.recvRec) : RecordsSettled k (c.apply gp).recvRec := by
  have hother (j : Fin RECEIVE_TRANS_COUNT) (hj : c.opened ≠ some j)
      (hk : ((c.apply gp).recvRec j).lookupKey = k) :
      (gp.recvRec j).lookupKey = k ∧
        (((c.apply gp).recvRec j).InUse → (gp.recvRec j).InUse) := by
    have hkey := (recordStep hg hpool j).key hj
    exact ⟨hkey.1 ▸ hk, hkey.2⟩
  cases hopened : c.opened with
  | none => exact hsettled.shrink fun j => hother j (by simp [hopened])
  | some i =>
    cases c with
    | initRR layer p serviceType apdu clearReqId i' =>
      obtain rfl : i' = i := by simpa [Call.opened] using hopened
      by_cases hp : p.srcAddr.lookupKey p.priority = k
      · subst hp
        have hslot := hg.slot hok hsettled
        exact FirstUsed.assign hslot.1 hslot.2 fun j hji =>
          hother j (by simpa [Call.opened] using Ne.symm hji)
      · refine hsettled.shrink fun j hj => ?_
        by_cases hji : j = i'
        · subst hji
          exact absurd ((lookupKey_initRR j).symm.trans hj) hp
        · exact hother j (by simpa [Call.opened] using Ne.symm hji) hj
    | _ => simp [Call.opened] at hopened

theorem Reaches.recordsSettled {g₀ : ProtocolStackData} (hrun : Reaches g₀ h gp)
    (hinit : g₀.PowerUp) (hok : ∀ x ∈ h, x.2.strandsFor k x.1 = false)
    (hpool : ∀ x ∈ h, x.2.movesPool x.1 = false) : RecordsSettled k gp.recvRec := by
  refine (hrun.invariant_of_forall (I := fun h gp => (∀ x ∈ h, x.2.strandsFor k x.1 = false) →
    RecordsSettled k gp.recvRec) hpool (fun _ => .of_unused hinit.recvRec) ?_).1 hok
  intro h gp c hg hpool ih hok
  rw [List.forall_mem_cons] at hok
  exact recordsSettled_step hg hok.2 hpool (ih hok.2)

/-- Receive records are unique as long as `receiveRem` strands none and no answer to a challenge
moves them. -/
theorem recordsUnique_of_not_strands {g₀ : ProtocolStackData} (hinit : g₀.PowerUp)
    (hrun : Reaches g₀ h gp) (hok : ∀ x ∈ h, x.2.strands x.1 = false)
    (hpool : ∀ x ∈ h, x.2.movesPool x.1 = false) : gp.RecordsUnique := by
  intro i j hi hj hkey
  have hsettled : RecordsSettled (gp.recvRec j).lookupKey gp.recvRec :=
    hrun.recordsSettled hinit (fun x hx => Bool.eq_false_iff.mpr fun hstrands =>
      absurd (Call.strands_of_strandsFor hstrands) (Bool.eq_false_iff.mp (hok x hx))) hpool
  exact hsettled.unique hi hj hkey rfl

def groupMember : Eeprom :=
  { (default : Eeprom) with addrTable := fun _ => ⟨0x83, 0x01, 0, 0, 5⟩ }

def responseTo1 : TSASendParam :=
  { (default : TSASendParam) with service := .response, reqId := 1, apdu := [0x20] }

def remAfterResponse : List Event :=
  [.env (.networkReceive (messageFrom (groupSource 2 5) 0 .spdu Pdu.REQUEST_MSG 1 [0x10])),
    .sessionLayerReceive, .env (.appRespond responseTo1), .sessionLayerSend,
    .env (.networkReceive (messageFrom (groupSource 2 5) 0 .spdu Pdu.REM_MSG_MSG 2 [0, 0x11])),
    .sessionLayerReceive]

theorem not_recordsUnique :
    ¬∀ (g₀ gp : ProtocolStackData) (h : CallHistory), g₀.PowerUp → Reaches g₀ h gp →
      gp.RecordsUnique := by
  intro hall
  have hunique := hall _ _ _ (ProtocolStackData.powerUp_reset groupMember 3 50)
    (ProtocolStackData.reaches_runEvents _ remAfterResponse)
  exact absurd (hunique 0 1 (by decide +kernel) (by decide +kernel) (by decide +kernel))
    (by decide)

theorem recordsUnique_of_rem_before_response :
    (runEvents (remAfterResponse.take 2 ++ remAfterResponse.drop 4)
      ([], .reset groupMember 3 50)).2.RecordsUnique :=
  recordsUnique_of_not_strands (ProtocolStackData.powerUp_reset groupMember 3 50)
    (ProtocolStackData.reaches_runEvents _ _) (by decide +kernel) (by decide +kernel)

end LonStack
