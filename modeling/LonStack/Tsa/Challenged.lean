import LonStack.Tsa.Delivery

namespace LonStack

open Lib

def ProcessesReply (i : Fin RECEIVE_TRANS_COUNT) (x : ProtocolStackData × Call) : Prop :=
  ∃ useOma p, x.2 = .authenticate useOma p i

def ProcessesMatchingReply (i : Fin RECEIVE_TRANS_COUNT) (rand : Challenge) (apdu : List UInt8)
    (x : ProtocolStackData × Call) : Prop :=
  ∃ useOma p, x.2 = .authenticate useOma p i ∧
    p.authBytes =
      (encrypt rand apdu (x.1.eep.authKey useOma (x.1.recvRec i).srcAddr.dmn.domainIndex) useOma
        (replyOmaDestAddr x.1.eep (x.1.recvRec i).srcAddr p.pdu.fmt p.authGroup)).toList

abbrev SinceInit (i : Fin RECEIVE_TRANS_COUNT) (a : ProtocolStackData × Call → Prop)
    (h : CallHistory) : Prop :=
  Since a (fun x => x.2.opened = some i) h

structure Vouched (i : Fin RECEIVE_TRANS_COUNT) (h : CallHistory) (rr : ReceiveRecord) : Prop where
  settled :
    rr.auth = true → rr.transState ≠ .justReceived ∧ rr.transState ≠ .authenticating
  matching : rr.auth = true → SinceInit i (ProcessesMatchingReply i rr.rand rr.apdu) h
  replied : rr.transState = .authenticated → SinceInit i (ProcessesReply i) h

variable {h : CallHistory} {gp : ProtocolStackData} {c : Call} {i : Fin RECEIVE_TRANS_COUNT}

theorem vouched_initRR {layer : Layer} {p : TSAReceiveParam} {serviceType : ServiceType}
    {apdu : List UInt8} {clearReqId : Bool} :
    Vouched i h ((gp.initRR layer p serviceType apdu clearReqId i).recvRec i) := by
  have hauth : ((gp.initRR layer p serviceType apdu clearReqId i).recvRec i).auth = false := by
    simp [ProtocolStackData.initRR]
  constructor
  · simp [hauth]
  · simp [hauth]
  · simp

theorem Vouched.keep {rr rr' : ReceiveRecord} (hv : Vouched i h rr) (hc : c.opened ≠ some i)
    (hauth : rr'.auth = rr.auth) (hrand : rr'.rand = rr.rand) (hapdu : rr'.apdu = rr.apdu)
    (hstate : rr'.transState = rr.transState ∨
      rr'.transState ≠ .justReceived ∧ rr'.transState ≠ .authenticating ∧
        rr'.transState ≠ .authenticated) :
    Vouched i ((gp, c) :: h) rr' where
  settled ha := by
    rcases hstate with hstate | hstate
    · rw [hstate]
      exact hv.settled (hauth ▸ ha)
    · exact ⟨hstate.1, hstate.2.1⟩
  matching ha := by
    rw [hrand, hapdu]
    exact .inr ⟨hc, hv.matching (hauth ▸ ha)⟩
  replied hs := by
    rcases hstate with hstate | hstate
    · exact .inr ⟨hc, hv.replied (hstate ▸ hs)⟩
    · exact absurd hs hstate.2.2

theorem RecordStep.vouched {rr : ReceiveRecord} (hstep : RecordStep gp i c rr)
    (hv : c.opened ≠ some i → Vouched i h (gp.recvRec i)) : Vouched i ((gp, c) :: h) rr := by
  cases hstep with
  | opened => exact vouched_initRR
  | kept _ _ _ hc => exact (hv hc).keep hc rfl rfl rfl (.inl rfl)
  | released | freed => exact (hv (by simp [Call.opened])).keep (by simp [Call.opened]) rfl rfl rfl (.inl rfl)
  | closed _ hc =>
    exact (hv (by simp [hc])).keep (by simp [hc]) rfl rfl rfl (.inr (by simp))
  | delivered | responded =>
    exact (hv (by simp [Call.opened])).keep (by simp [Call.opened]) rfl rfl rfl (.inr (by simp))
  | challenged _ _ _ hunchallenged hstate =>
    simp only [ReceiveRecord.unchallenged, Bool.and_eq_true, Bool.or_eq_true, beq_iff_eq]
      at hunchallenged
    have hvouched := hv (by simp [Call.opened])
    have hauth : (gp.recvRec i).auth ≠ true := fun ha =>
      hunchallenged.2.elim (hvouched.settled ha).1 (hvouched.settled ha).2
    refine ⟨fun ha => absurd ha hauth, fun ha => absurd ha hauth, fun hs => ?_⟩
    rcases hstate with hstate | hstate
    · rcases hunchallenged.2 with hjr | hjr <;> simp_all
    · simp [hstate] at hs
  | authenticated useOma p =>
    refine ⟨fun _ => by simp, fun ha => .inl ⟨useOma, p, rfl, ?_⟩,
      fun _ => .inl ⟨useOma, p, rfl⟩⟩
    rw [beq_iff_eq] at ha
    exact ha.symm

theorem Enters.authenticated {apdu : List UInt8} (henters : Enters i apdu (gp, c))
    (hauth : (gp.recvRec i).needAuth = true) : (gp.recvRec i).transState = .authenticated := by
  obtain ⟨hc, -, slot, hslot⟩ := henters
  cases c with
  | deliver j =>
    obtain rfl : j = i := by simpa [Call.delivers] using hc
    by_contra hstate
    simp [Call.apply, ProtocolStackData.appInQ_deliver, ProtocolStackData.deliverable, hauth,
      hstate] at hslot
  | _ => simp [Call.delivers] at hc

/-- A record counts as authenticated only after a matching reply to its challenge, and a message
that needs authentication reaches the application only after a reply, as long as no answer to a
challenge moves the records. -/
theorem authenticated_of_not_movesPool {g₀ : ProtocolStackData} (hinit : g₀.PowerUp)
    (hrun : Reaches g₀ h gp) (hpool : ∀ x ∈ h, x.2.movesPool x.1 = false) :
    (∀ i, Initialised i h → (gp.recvRec i).auth = true →
      SinceInit i (ProcessesMatchingReply i (gp.recvRec i).rand (gp.recvRec i).apdu) h) ∧
    ∀ h₂ g c h₁ i apdu, h = h₂ ++ (g, c) :: h₁ → Enters i apdu (g, c) →
      (g.recvRec i).needAuth = true → SinceInit i (ProcessesReply i) h₁ := by
  obtain ⟨hgp, hcalls⟩ := hrun.invariant_of_forall
    (I := fun h gp => ∀ i, Initialised i h → Vouched i h (gp.recvRec i)) hpool
    (fun i hi => by simp [Initialised] at hi) (by
      intro h gp c hg hpool ih i hi
      rw [Initialised.cons_iff] at hi
      exact (recordStep hg hpool i).vouched fun hc => ih i (hi.resolve_left hc))
  constructor
  · intro i hi
    exact (hgp i hi).matching
  · intro h₂ g c h₁ i apdu heq henters hauth
    obtain ⟨hg, hv⟩ := hcalls.split heq
    have hstate := henters.authenticated hauth
    cases c with
    | deliver j =>
      obtain rfl : j = i := by simpa [Enters, Call.delivers] using henters.1
      rcases hg.2.2 with huse | ⟨r, useOma, p, h', hh, -⟩
      · exact (hv j ((hrun.initialised hinit hpool).2.split heq j huse)).replied hstate
      · rw [hh]
        exact .inl ⟨useOma, p, rfl⟩
    | _ => simp [Enters, Call.delivers] at henters

def Call.authenticates : Call → Bool
  | .authenticate _ _ _ => true
  | _ => false

def ReceiveRecord.nextByte (rr : ReceiveRecord) : ReceiveRecord :=
  { rr with
    status := if rr.srcAddr.dmn.domainIndex = 1 then .session else .unused
    transState := .justReceived
    priority := rr.altPath != 0
    altPath := if rr.auth then 1 else 0
    auth := rr.needAuth
    needAuth := rr.serviceType != .acknowledged }

def pooledNode : ProtocolStackData :=
  { ProtocolStackData.reset boundNode 3 50 with
    recvRecAt := fun _ pool i => (pool i).nextByte }

def unansweredChallenge : List Event :=
  [.env (.networkReceive
      { messageFrom
          { nodeSource 3 with dmn := { (default : Domain) with domainIndex := 1 } } 0 .tpdu
          Pdu.ACKD_MSG 1 [0x10] with
        pdu := ⟨Pdu.tspduHdr true Pdu.ACKD_MSG 1, [0x10]⟩ }),
    .transportLayerReceive] ++ challengedMessage true

theorem not_authenticated_means_challenged :
    ¬∀ (g₀ gp : ProtocolStackData) (h : CallHistory), g₀.PowerUp → Reaches g₀ h gp →
      (∀ i, Initialised i h → (gp.recvRec i).auth = true →
        SinceInit i (ProcessesMatchingReply i (gp.recvRec i).rand (gp.recvRec i).apdu) h) ∧
      ∀ h₂ g c h₁ i apdu, h = h₂ ++ (g, c) :: h₁ → Enters i apdu (g, c) →
        (g.recvRec i).needAuth = true → SinceInit i (ProcessesReply i) h₁ := by
  intro hall
  have hinit : pooledNode.PowerUp := { ProtocolStackData.powerUp_reset boundNode 3 50 with }
  have hmatching := (hall _ _ _ hinit (pooledNode.reaches_runEvents unansweredChallenge)).1 0
    (by decide +kernel) (by decide +kernel)
  obtain ⟨x, hx, useOma, p, hcall, -⟩ := hmatching.exists
  have hnone : ∀ x ∈ (runEvents unansweredChallenge ([], pooledNode)).1,
      x.2.authenticates = false := by
    decide +kernel
  exact absurd (hnone x hx) (by simp [hcall, Call.authenticates])

def configuredNode : ProtocolStackData := .reset { (default : Eeprom) with nodeState := 4 } 3 50

def answeredChallenge : List Event :=
  [.env (.networkReceive
      { messageFrom (nodeSource 2) 0 .tpdu Pdu.ACKD_MSG 1 [0x10] with
        pdu := ⟨Pdu.tspduHdr true Pdu.ACKD_MSG 1, [0x10]⟩ }),
    .transportLayerReceive,
    .env (.networkReceive
      { messageFrom (nodeSource 2) 0 .authpdu 0 1 [] with
        pduSize := 9
        pdu := ⟨Pdu.authHdr 2 Pdu.REPLY_MSG 1,
          (encrypt default [0x10] (configuredNode.eep.authKey false 0) false default).toList⟩ }),
    .authReceive]

theorem authenticated_answeredChallenge :
    SinceInit 0
      (ProcessesMatchingReply 0
        ((runEvents answeredChallenge ([], configuredNode)).2.recvRec 0).rand
        ((runEvents answeredChallenge ([], configuredNode)).2.recvRec 0).apdu)
      (runEvents answeredChallenge ([], configuredNode)).1 := by
  have hinit : configuredNode.PowerUp := ProtocolStackData.powerUp_reset ..
  have hrun := configuredNode.reaches_runEvents answeredChallenge
  exact (authenticated_of_not_movesPool hinit hrun (by decide +kernel)).1 0 (by decide +kernel)
    (by decide +kernel)

end LonStack
