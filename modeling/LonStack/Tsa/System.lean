import LonStack.Tsa.RecordStep

namespace LonStack

open Lib

/-- A node after a reset: no record is in use, no transaction is in progress and the queues are
empty. The memory of records and queues holds anything. -/
structure ProtocolStackData.PowerUp (gp : ProtocolStackData) : Prop where
  recvRec : ∀ i, ¬(gp.recvRec i).InUse
  xmitRec : ∀ priority, (gp.xmitRec priority).status = .unused
  transCtrl : ∀ priority, (gp.transCtrl priority).inProgress = false
  tsaOutQ : ∀ priority, (gp.tsaOutQ priority).queueEntries = 0
  appCeRspInQ : gp.appCeRspInQ.queueEntries = 0
  appInQ : gp.appInQ.queueEntries = 0
  tsaRespQ : gp.tsaRespQ.queueEntries = 0
  tsaInQ : gp.tsaInQ.queueEntries = 0
  nwOutQ : ∀ priority, (gp.nwOutQ priority).queueEntries = 0

abbrev Reaches (g₀ : ProtocolStackData) (h : CallHistory) (gp : ProtocolStackData) : Prop :=
  Trace Call.apply Event.prog g₀ h gp

theorem Reaches.invariant {g₀ gp : ProtocolStackData} {h : CallHistory}
    {I : CallHistory → ProtocolStackData → Prop} (hrun : Reaches g₀ h gp) (hs : I [] g₀)
    (hI : ∀ h gp c, c.Guard h gp → I h gp → I ((gp, c) :: h) (c.apply gp)) :
    I h gp ∧ EachCall (fun h gp c => c.Guard h gp ∧ I h gp) h :=
  hrun.invariant_calls hs Event.guarded hI

theorem Reaches.invariant_while {P : ProtocolStackData × Call → Prop}
    {g₀ gp : ProtocolStackData} {h : CallHistory} {I : CallHistory → ProtocolStackData → Prop}
    (hrun : Reaches g₀ h gp) (hs : I [] g₀)
    (hI : ∀ h gp c, c.Guard h gp → P (gp, c) → I h gp → I ((gp, c) :: h) (c.apply gp)) :
    ((∀ x ∈ h, P x) → I h gp) ∧
      EachCall (fun h gp c => c.Guard h gp ∧ ((∀ x ∈ h, P x) → I h gp)) h :=
  hrun.invariant_calls_while hs Event.guarded hI

theorem Reaches.invariant_of_forall {P : ProtocolStackData × Call → Prop}
    {g₀ gp : ProtocolStackData} {h : CallHistory} {I : CallHistory → ProtocolStackData → Prop}
    (hrun : Reaches g₀ h gp) (hP : ∀ x ∈ h, P x) (hs : I [] g₀)
    (hI : ∀ h gp c, c.Guard h gp → P (gp, c) → I h gp → I ((gp, c) :: h) (c.apply gp)) :
    I h gp ∧ EachCall (fun h gp c => c.Guard h gp ∧ I h gp) h :=
  have hwhile := hrun.invariant_while hs hI
  ⟨hwhile.1 hP, hwhile.2.of_forall hP⟩

section

variable {i : Fin RECEIVE_TRANS_COUNT} {h : CallHistory} {gp : ProtocolStackData} {c : Call}

def Initialised (i : Fin RECEIVE_TRANS_COUNT) (h : CallHistory) : Prop :=
  ∃ x ∈ h, x.2.opened = some i

instance : Decidable (Initialised i h) := inferInstanceAs (Decidable (∃ x ∈ h, _))

theorem Initialised.cons_iff {x : ProtocolStackData × Call} :
    Initialised i (x :: h) ↔ x.2.opened = some i ∨ Initialised i h := by
  simp [Initialised]

theorem initialised_step (hg : c.Guard h gp) (hpool : c.movesPool gp = false)
    (hin : (gp.recvRec i).InUse → Initialised i h)
    (huse : ((c.apply gp).recvRec i).InUse) : Initialised i ((gp, c) :: h) := by
  rw [Initialised.cons_iff]
  by_cases hc : c.opened = some i
  · exact .inl hc
  · right
    have hstep := recordStep hg hpool i
    generalize (c.apply gp).recvRec i = rr at hstep huse
    cases hstep with
    | opened => exact absurd rfl hc
    | released | freed => exact absurd rfl huse
    | kept | closed | challenged | authenticated | delivered | responded => exact hin huse

theorem Reaches.initialised {g₀ : ProtocolStackData} (hrun : Reaches g₀ h gp)
    (hinit : g₀.PowerUp) (hpool : ∀ x ∈ h, x.2.movesPool x.1 = false) :
    (∀ i, (gp.recvRec i).InUse → Initialised i h) ∧
      EachCall (fun h gp _ => ∀ i, (gp.recvRec i).InUse → Initialised i h) h := by
  obtain ⟨hgp, hcalls⟩ := hrun.invariant_of_forall hpool
    (I := fun h gp => ∀ i, (gp.recvRec i).InUse → Initialised i h)
    (fun i huse => absurd huse (hinit.recvRec i))
    (fun _ _ _ hg hpool ih i huse => initialised_step hg hpool (ih i) huse)
  exact ⟨hgp, hcalls.mono fun _ _ _ hx => hx.2⟩

end

def runEvents (es : List Event) (s : CallHistory × ProtocolStackData) :
    CallHistory × ProtocolStackData :=
  es.foldl (fun s e => (e.prog.log Call.apply s.2 ++ s.1, e.prog.state Call.apply s.2)) s

theorem Reaches.runEvents {g₀ : ProtocolStackData} {s : CallHistory × ProtocolStackData}
    (hrun : Reaches g₀ s.1 s.2) (es : List Event) :
    Reaches g₀ (runEvents es s).1 (runEvents es s).2 := by
  induction es generalizing s with
  | nil => exact hrun
  | cons e es ih => exact ih (.next e hrun)

theorem ProtocolStackData.reaches_runEvents (g₀ : ProtocolStackData) (es : List Event) :
    Reaches g₀ (LonStack.runEvents es ([], g₀)).1 (LonStack.runEvents es ([], g₀)).2 :=
  Reaches.runEvents (s := ([], g₀)) .refl es

def ProtocolStackData.reset (eep : Eeprom) (queueCapacity bufSize : Nat) : ProtocolStackData where
  eep := eep
  tickCount := 0
  tsDelayTimer := default
  appInBufSize := bufSize
  nwOutBufSize := fun _ => bufSize
  transCtrl := fun _ => .powerUp
  xmitRec := fun _ => default
  tsaOutQ := fun _ => .init default queueCapacity
  appCeRspInQ := .init default queueCapacity
  recvRec := fun _ => default
  recvRecLow := 0
  recvRecAt := fun _ _ => default
  reqId := 0
  prevChallenge := default
  rand := fun _ => 0
  appInQ := .init default queueCapacity
  tsaRespQ := .init default queueCapacity
  tsaInQ := .init default queueCapacity
  nwOutQ := fun _ => .init default queueCapacity

theorem ProtocolStackData.powerUp_reset (eep : Eeprom) (queueCapacity bufSize : Nat) :
    (reset eep queueCapacity bufSize).PowerUp where
  recvRec _ huse := huse rfl
  xmitRec _ := rfl
  transCtrl _ := rfl
  tsaOutQ _ := rfl
  appCeRspInQ := rfl
  appInQ := rfl
  tsaRespQ := rfl
  tsaInQ := rfl
  nwOutQ _ := rfl

def nodeSource (node : UInt8) : SourceAddress :=
  { (default : SourceAddress) with subnetAddr := ⟨1, node⟩, addressMode := .subnetNode }

def groupSource (node group : UInt8) : SourceAddress :=
  { (default : SourceAddress) with
    subnetAddr := ⟨1, node⟩
    addressMode := .multicast
    group := group }

def messageFrom (src : SourceAddress) (version : Nat) (pduType : PduType) (pduMsgType : UInt8)
    (transNum : Nat) (bytes : List UInt8) : TSAReceiveParam where
  srcAddr := src
  priority := false
  pduSize := 1 + dataIndex version + bytes.length
  pduType := pduType
  altPath := 0
  xcvrParams := default
  version := version
  pdu :=
    ⟨Pdu.tspduHdr false pduMsgType (transNumHi version transNum),
      transNumLo version transNum ++ bytes⟩

def challengeTo (priority : Bool) : TSAReceiveParam where
  srcAddr := nodeSource 2
  priority := priority
  pduSize := 9
  pduType := .authpdu
  altPath := 0
  xcvrParams := default
  version := LsProtocolModeLegacy
  pdu := ⟨Pdu.authHdr 2 Pdu.CHALLENGE_MSG 0, List.replicate 8 0⟩

def nodeAddress (node : UInt8) : SendAddress :=
  { (default : SendAddress) with typeSize := 1, domainNode := node, subnet := 1 }

def groupAddress (group size : UInt8) : SendAddress :=
  { (default : SendAddress) with typeSize := 0x80 ||| size, subnet := group }

def messageTo (destAddr : SendAddress) (service : ServiceType) (tag : MsgTag)
    (apdu : List UInt8) : TSASendParam :=
  { (default : TSASendParam) with
    destAddr := destAddr
    service := service
    tag := tag
    apdu := apdu }

def boundNode : Eeprom :=
  { (default : Eeprom) with
    nodeState := 4
    addrTable := fun i =>
      if i.val = 1 then { (default : IzotAddress) with typeSize := 1 } else default }

def challengedMessage (priority : Bool) : List Event :=
  [.env (.appSend priority { messageTo (nodeAddress 2) .acknowledged 7 [0x10] with auth := true }),
    .transportLayerSend, .env (.networkReceive (challengeTo priority)), .authReceive]

end LonStack
