import LonStack.Tsa.System

namespace LonStack

open Lib

def Call.delivers : Call → Option (Fin RECEIVE_TRANS_COUNT)
  | .deliver i => some i
  | _ => none

def Enters (i : Fin RECEIVE_TRANS_COUNT) (apdu : List UInt8) (x : ProtocolStackData × Call) :
    Prop :=
  x.2.delivers = some i ∧ (x.1.recvRec i).apdu = apdu ∧
    ∃ slot, (x.2.apply x.1).appInQ.toList = x.1.appInQ.toList ++ [(x.1.recvRec i).message slot]

/-- A message is lost that `deliver` marks as delivered: `full` says that there is room, but only
the one slot is free that `write` does not use. -/
def Call.losesMessage (gp : ProtocolStackData) (c : Call) : Bool :=
  match c.delivers with
  | some i =>
    gp.deliverable i && gp.appInQ.queueEntries + 1 == gp.appInQ.queueCapacity
  | none => false

def ReceiveRecord.Delivered (rr : ReceiveRecord) : Prop :=
  rr.transState = .delivered ∨ rr.transState = .responded

variable {h : CallHistory} {gp : ProtocolStackData} {c : Call} {i : Fin RECEIVE_TRANS_COUNT}

theorem Call.eq_initRR (hc : c.opened = some i) :
    ∃ layer p serviceType apdu clearReqId, c = .initRR layer p serviceType apdu clearReqId i := by
  cases c with
  | initRR layer p serviceType apdu clearReqId j =>
    obtain rfl : j = i := Option.some.inj hc
    exact ⟨layer, p, serviceType, apdu, clearReqId, rfl⟩
  | _ => cases hc

theorem not_delivered_initRR {layer : Layer} {p : TSAReceiveParam} {serviceType : ServiceType}
    {apdu : List UInt8} {clearReqId : Bool} :
    ¬((gp.initRR layer p serviceType apdu clearReqId i).recvRec i).Delivered := by
  simp [ReceiveRecord.Delivered]

theorem Enters.room {apdu : List UInt8} (henters : Enters i apdu (gp, c)) :
    gp.appInQ.queueEntries + 1 < gp.appInQ.queueCapacity := by
  obtain ⟨hc, -, slot, hslot⟩ := henters
  cases c with
  | deliver j =>
    rw [Call.apply, ProtocolStackData.appInQ_deliver] at hslot
    split at hslot
    · rw [Queue.toList_push] at hslot
      split at hslot
      · assumption
      · simp at hslot
    · simp at hslot
  | _ => simp [Call.delivers] at hc

theorem enters_deliver (hd : gp.deliverable i = true)
    (hok : (Call.deliver i).losesMessage gp = false) :
    Enters i (gp.recvRec i).apdu (gp, .deliver i) := by
  have hfull : gp.appInQ.full = false := by
    simp only [ProtocolStackData.deliverable, Bool.and_eq_true, Bool.not_eq_true'] at hd
    exact hd.1.2
  rw [Queue.full_eq_false_iff] at hfull
  simp only [Call.losesMessage, Call.delivers, hd, Bool.true_and, beq_eq_false_iff_ne] at hok
  have hroom : gp.appInQ.queueEntries + 1 < gp.appInQ.queueCapacity := by omega
  refine ⟨rfl, rfl, gp.appInQ.tailSlot, ?_⟩
  rw [Call.apply, ProtocolStackData.appInQ_deliver, if_pos hd, Queue.toList_push, if_pos hroom]

theorem RecordStep.delivered_cases {rr : ReceiveRecord} (hstep : RecordStep gp i c rr)
    (hc : c.opened ≠ some i) (hrr : rr.Delivered) :
    rr.apdu = (gp.recvRec i).apdu ∧
      ((gp.recvRec i).Delivered ∨ c = .deliver i ∧ gp.deliverable i = true) := by
  cases hstep with
  | opened => exact absurd rfl hc
  | kept | released | freed => exact ⟨rfl, .inl hrr⟩
  | closed => simp [ReceiveRecord.Delivered] at hrr
  | challenged _ _ _ _ hstate =>
    rcases hstate with hstate | hstate
    · rw [ReceiveRecord.Delivered, hstate] at hrr
      exact ⟨rfl, .inl hrr⟩
    · simp [ReceiveRecord.Delivered, hstate] at hrr
  | authenticated => simp [ReceiveRecord.Delivered] at hrr
  | delivered hd => exact ⟨rfl, .inr ⟨rfl, hd⟩⟩
  | responded _ hstate => exact ⟨rfl, .inl (.inl hstate)⟩

abbrev EnteredSince (i : Fin RECEIVE_TRANS_COUNT) (apdu : List UInt8) (h : CallHistory) : Prop :=
  Since (Enters i apdu) (fun x => x.2.opened = some i) h

theorem enteredSince_step (hg : c.Guard h gp) (hok : c.losesMessage gp = false)
    (hpool : c.movesPool gp = false)
    (hin : Initialised i h → (gp.recvRec i).Delivered → EnteredSince i (gp.recvRec i).apdu h)
    (hinit : Initialised i ((gp, c) :: h)) (hrr : ((c.apply gp).recvRec i).Delivered) :
    EnteredSince i ((c.apply gp).recvRec i).apdu ((gp, c) :: h) := by
  rw [Initialised.cons_iff] at hinit
  by_cases hc : c.opened = some i
  · obtain ⟨layer, p, serviceType, apdu, clearReqId, rfl⟩ := Call.eq_initRR hc
    exact absurd hrr not_delivered_initRR
  · obtain ⟨hapdu, hdel⟩ := (recordStep hg hpool i).delivered_cases hc hrr
    rw [hapdu]
    rcases hdel with hdel | ⟨rfl, hd⟩
    · exact .inr ⟨hc, hin (hinit.resolve_left hc) hdel⟩
    · exact .inl (enters_deliver hd hok)

/-- An acknowledgement means delivery as long as `deliver` loses no message and the records stay
where they are. -/
theorem enteredSince_of_not_losesMessage {g₀ : ProtocolStackData} (hinit : g₀.PowerUp)
    (hrun : Reaches g₀ h gp) (hok : ∀ x ∈ h, x.2.losesMessage x.1 = false)
    (hpool : ∀ x ∈ h, x.2.movesPool x.1 = false) :
    (∀ i, Initialised i h → (gp.recvRec i).transState = .delivered →
      EnteredSince i (gp.recvRec i).apdu h) ∧
    ∀ h₂ g i h₁, h = h₂ ++ (g, .tpSendAck i) :: h₁ → EnteredSince i (g.recvRec i).apdu h₁ := by
  obtain ⟨hgp, hcalls⟩ := hrun.invariant_of_forall
    (I := fun h gp => ∀ i, Initialised i h → (gp.recvRec i).Delivered →
      EnteredSince i (gp.recvRec i).apdu h)
    (fun x hx => And.intro (hok x hx) (hpool x hx))
    (fun _ hi => by simp [Initialised] at hi)
    (fun _ _ _ hg hx ih i => enteredSince_step hg hx.1 hx.2 (ih i))
  constructor
  · intro i hi hstate
    exact hgp i hi (.inl hstate)
  · intro h₂ g i h₁ heq
    obtain ⟨⟨huse, hstate⟩, hentered⟩ := hcalls.split heq
    have hi := (hrun.initialised hinit hpool).2.split heq i huse
    exact hentered i hi hstate

def twoMessages : List Event :=
  [.env (.networkReceive (messageFrom (nodeSource 2) 0 .tpdu Pdu.ACKD_MSG 1 [0x10])),
    .transportLayerReceive,
    .env (.networkReceive (messageFrom (nodeSource 3) 0 .tpdu Pdu.ACKD_MSG 1 [0x11])),
    .transportLayerReceive]

theorem not_enteredSince :
    ¬∀ (g₀ gp : ProtocolStackData) (h : CallHistory), g₀.PowerUp → Reaches g₀ h gp →
      (∀ i, Initialised i h → (gp.recvRec i).transState = .delivered →
        EnteredSince i (gp.recvRec i).apdu h) ∧
      ∀ h₂ g i h₁, h = h₂ ++ (g, .tpSendAck i) :: h₁ → EnteredSince i (g.recvRec i).apdu h₁ := by
  intro hall
  have hrun := hall _ _ _ (ProtocolStackData.powerUp_reset default 2 50)
    (ProtocolStackData.reaches_runEvents _ twoMessages)
  obtain ⟨x, hx, henters⟩ := (hrun.1 1 (by decide +kernel) (by decide +kernel)).exists
  have hnone : ∀ x ∈ (runEvents twoMessages ([], .reset default 2 50)).1,
      x.2.delivers = some 1 → x.1.appInQ.queueCapacity ≤ x.1.appInQ.queueEntries + 1 := by
    decide +kernel
  exact absurd henters.room (Nat.not_lt.mpr (hnone x hx henters.1))

theorem enteredSince_twoMessages :
    EnteredSince 1 [0x11] (runEvents twoMessages ([], .reset default 3 50)).1 :=
  (enteredSince_of_not_losesMessage (ProtocolStackData.powerUp_reset default 3 50)
    (ProtocolStackData.reaches_runEvents _ twoMessages) (by decide +kernel) (by decide +kernel)).1 1
    (by decide +kernel) (by decide +kernel)

end LonStack
