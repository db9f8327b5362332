import LonStack.Tsa.MemberList

namespace LonStack

open Lib

namespace TSAReceiveParam

def HoldsList (p : TSAReceiveParam) : Prop := 2 + p.dataIndex + p.mListLength ≤ p.pduSize

instance (p : TSAReceiveParam) : Decidable p.HoldsList :=
  inferInstanceAs (Decidable (2 + p.dataIndex + p.mListLength ≤ p.pduSize))

def RemInside (p : TSAReceiveParam) : Prop :=
  2 + p.dataIndex + p.mListLength + p.remApdu.length ≤ p.pduSize

theorem remInside_iff {p : TSAReceiveParam} (hsize : p.pduSize < 65536) :
    p.RemInside ↔ p.HoldsList := by
  have hindex : p.dataIndex ≤ 1 := by
    unfold dataIndex LonStack.dataIndex
    split <;> omega
  have hlist : p.mListLength < 256 := (p.pdu.byte p.dataIndex).toNat_lt
  rw [RemInside, HoldsList, remApdu, length_bytesAt]
  omega

end TSAReceiveParam

namespace Tsa

def layerReceive : Layer → Tsa Unit
  | .transport => transportLayerReceive
  | .session => sessionLayerReceive

theorem log_call_bind (c : Call) (f : Unit → Tsa Unit) (gp : ProtocolStackData) :
    (call c >>= f).log Call.apply gp = (f ()).log Call.apply (c.apply gp) ++ [(gp, c)] := rfl

theorem log_gp_bind (f : ProtocolStackData → Tsa Unit) (s : ProtocolStackData) :
    (gp >>= f).log Call.apply s = (f s).log Call.apply s := rfl

end Tsa

namespace ProtocolStackData

variable {gp : ProtocolStackData} {layer : Layer} {p : TSAReceiveParam}

structure TakesRem (gp : ProtocolStackData) (layer : Layer) (p : TSAReceiveParam) : Prop where
  head : gp.tsaInQ.peek = some p
  pduType : p.pduType = layer.pduType
  pduMsgType : p.pdu.pduMsgType = Pdu.REMINDER_MSG ∨ p.pdu.pduMsgType = Pdu.REM_MSG_MSG

def ComparesApdu (gp : ProtocolStackData) (layer : Layer) (p : TSAReceiveParam) : Prop :=
  1 ≤ p.pduSize ∧ p.isReminder = false ∧
    ∃ i, (gp.releaseExpired layer).retrieveRR p.srcAddr p.priority = some i ∧
      let rr := (gp.releaseExpired layer).recvRec i
      rr.srcAddr.addressMode = .multicast ∧ rr.transNum = p.transNum ∧ rr.status = layer.rrStatus

def CopiesApdu (gp : ProtocolStackData) (layer : Layer) : Prop :=
  ∃ x ∈ (Tsa.layerReceive layer).log Call.apply gp, x.2.opened.isSome

/-- The APDU of a REM/MSG is used only if it lies inside the PDU, and a PDU that is too short for its
list is dropped and leaves the records as they are. -/
structure HandlesRem (gp : ProtocolStackData) (layer : Layer) (p : TSAReceiveParam) : Prop where
  inside : gp.ComparesApdu layer p ∨ gp.CopiesApdu layer → p.RemInside
  dropped : ¬p.HoldsList →
    ((Tsa.layerReceive layer).state Call.apply gp).tsaInQ = gp.tsaInQ.dropHead ∧
      ((Tsa.layerReceive layer).state Call.apply gp).recvRec = (gp.releaseExpired layer).recvRec

def NotesAnswer (gp : ProtocolStackData) (layer : Layer) (p : TSAReceiveParam) : Prop :=
  ∃ i member, (gp.releaseExpired layer).RemindedMember layer p i member ∧
    p.asksMember member = false ∧
    (((gp.releaseExpired layer).recvRec i).transState = .delivered ∨
      ((gp.releaseExpired layer).recvRec i).transState = .responded)

theorem layerReceive_eq (h : gp.TakesRem layer p) :
    (Tsa.layerReceive layer).state Call.apply gp =
        (if p.pduSize < 1 then Tsa.call .dropTsaIn else Tsa.receiveRem layer p).state Call.apply
          (gp.releaseExpired layer) ∧
      (Tsa.layerReceive layer).log Call.apply gp =
        (if p.pduSize < 1 then Tsa.call .dropTsaIn else Tsa.receiveRem layer p).log Call.apply
          (gp.releaseExpired layer) ++ [(gp, .releaseExpired layer)] := by
  have hhead : (gp.releaseExpired layer).tsaInQ.peek = some p := h.head
  have htype := h.pduType
  have hother : p.pdu.pduMsgType ≠ Pdu.ACK_MSG ∧ p.pdu.pduMsgType ≠ Pdu.ACKD_MSG ∧
      p.pdu.pduMsgType ≠ Pdu.UNACK_RPT_MSG ∧ p.pdu.pduMsgType ≠ Pdu.RESPONSE_MSG ∧
      p.pdu.pduMsgType ≠ Pdu.REQUEST_MSG := by
    rcases h.pduMsgType with hmsg | hmsg
    · rw [hmsg]
      decide
    · rw [hmsg]
      decide
  cases layer with
  | transport =>
    rw [Tsa.layerReceive, Tsa.transportLayerReceive, Tsa.state_call_bind, Tsa.log_call_bind,
      Tsa.state_gp_bind, Tsa.log_gp_bind, Call.apply, hhead]
    dsimp only
    rw [htype, if_neg (by simp [Layer.pduType]), if_neg hother.1,
      if_neg (not_or.mpr ⟨hother.2.1, hother.2.2.1⟩), if_pos h.pduMsgType]
    exact ⟨rfl, rfl⟩
  | session =>
    rw [Tsa.layerReceive, Tsa.sessionLayerReceive, Tsa.state_call_bind, Tsa.log_call_bind,
      Tsa.state_gp_bind, Tsa.log_gp_bind, Call.apply, hhead]
    dsimp only
    rw [htype, if_neg (by simp [Layer.pduType]), if_neg hother.2.2.2.1, if_neg hother.2.2.2.2,
      if_pos h.pduMsgType]
    exact ⟨rfl, rfl⟩

variable {r : ProtocolStackData}

theorem receiveRem_reminder (hrem : p.isReminder = true) :
    (Tsa.receiveRem layer p).wp Call.apply (fun _ _ c => c.opened = none)
      (fun _ _ s => s = r.dropTsaIn ∨
        ∃ i member, r.RemindedMember layer p i member ∧ p.asksMember member = false ∧
          ((r.recvRec i).transState = .delivered ∨ (r.recvRec i).transState = .responded) ∧
          s = (Call.apply (.noteAnswered i) r).dropTsaIn) [] r := by
  simp only [Tsa.receiveRem, Prog.monadBind_eq, Prog.wp_bind, Tsa.wp_gp, Tsa.wp_call]
  refine ⟨rfl, ?_⟩
  rw [Tsa.apply_receiveRem]
  split
  case h_1 =>
    rw [if_pos hrem]
    exact ⟨rfl, .inl rfl⟩
  case h_2 i hfound =>
    split
    case isTrue => exact ⟨rfl, .inl rfl⟩
    case isFalse hmatch =>
      split
      case isTrue => exact ⟨rfl, .inl rfl⟩
      case isFalse hservice =>
        simp only [Tsa.receiveRemFor, Prog.monadBind_eq, Prog.wp_bind, Tsa.wp_gp]
        split
        case h_1 => exact ⟨rfl, .inl rfl⟩
        case h_2 member hmember =>
          split
          case isTrue => exact ⟨rfl, .inl rfl⟩
          case isFalse hasks =>
            split
            case isTrue hstate =>
              exact ⟨rfl, rfl, .inr ⟨i, member,
                ⟨hfound, Bool.not_eq_false _ ▸ hmatch, hservice, hmember⟩,
                Bool.eq_false_iff.mpr hasks, hstate, rfl⟩⟩
            case isFalse => exact ⟨rfl, .inl rfl⟩

theorem wp_opened (m : Tsa Unit) {h : CallHistory} (hopened : ∃ x ∈ h, x.2.opened.isSome) :
    m.wp Call.apply (fun _ _ _ => True) (fun _ h _ => ∃ x ∈ h, x.2.opened.isSome) h r :=
  (m.wp_true.invariant (I := fun h _ => ∃ x ∈ h, x.2.opened.isSome)
    (fun _ _ _ _ ⟨x, hx, hsome⟩ => ⟨x, List.mem_cons_of_mem _ hx, hsome⟩) hopened).mono
    (fun _ _ _ _ => trivial) fun _ _ _ hend => hend.2

theorem receiveRemAsNew_stays {h : CallHistory} :
    (Tsa.receiveRemAsNew layer p).wp Call.apply (fun _ _ _ => True)
      (fun _ h s => (∃ x ∈ h, x.2.opened.isSome) ∨ s.tsaInQ = r.tsaInQ) h r := by
  simp only [Tsa.receiveRemAsNew, Prog.monadBind_eq, Prog.wp_bind, Tsa.wp_gp]
  split
  case h_1 => exact .inr rfl
  case h_2 i _ =>
    rw [Prog.wp_bind, Tsa.wp_call]
    exact ⟨trivial, (wp_opened _ ⟨_, List.mem_cons_self, rfl⟩).mono (fun _ _ _ h => h)
      fun _ _ _ hend => .inl hend⟩

theorem receiveRem_message (hrem : p.isReminder = false)
    (hcompared : ∀ i, r.retrieveRR p.srcAddr p.priority = some i →
      ¬((r.recvRec i).srcAddr.addressMode = .multicast ∧ (r.recvRec i).transNum = p.transNum ∧
        (r.recvRec i).status = layer.rrStatus)) :
    (Tsa.receiveRem layer p).wp Call.apply (fun _ _ _ => True)
      (fun _ h s => (∃ x ∈ h, x.2.opened.isSome) ∨ s.tsaInQ = r.tsaInQ) [] r := by
  simp only [Tsa.receiveRem, Prog.monadBind_eq, Prog.wp_bind, Tsa.wp_gp, Tsa.wp_call]
  refine ⟨trivial, ?_⟩
  rw [Tsa.apply_receiveRem]
  split
  case h_1 =>
    rw [if_neg (by simp [hrem])]
    exact receiveRemAsNew_stays
  case h_2 i hfound =>
    have hmismatch : p.isRemOf layer (r.recvRec i) = false := by
      rw [← Bool.not_eq_true]
      intro hmatch
      simp only [TSAReceiveParam.isRemOf, Bool.and_eq_true, beq_iff_eq] at hmatch
      exact hcompared i hfound ⟨hmatch.1.1.1, hmatch.1.1.2, hmatch.1.2⟩
    rw [if_pos hmismatch, if_neg (by simp [hrem])]
    split
    · exact ⟨trivial, receiveRemAsNew_stays (r := r.freeRR i)⟩
    · exact receiveRemAsNew_stays

theorem dropHead_ne {q : Queue TSAReceiveParam} (h : q.peek = some p) : q.dropHead ≠ q := by
  intro heq
  have htail : q.toList.tail = q.toList := by rw [← Queue.toList_dropHead, heq]
  rw [Queue.peek_eq_head?, List.head?_eq_some_iff] at h
  obtain ⟨rest, hrest⟩ := h
  rw [hrest, List.tail_cons] at htail
  exact List.cons_ne_self p rest htail.symm

theorem not_handlesRem_of_message (h : gp.TakesRem layer p) (hbyte : 1 ≤ p.pduSize)
    (hsize : p.pduSize < 65536) (hrem : p.isReminder = false) (hshort : ¬p.HoldsList) :
    ¬gp.HandlesRem layer p := by
  intro hhandles
  have houtside : ¬p.RemInside := fun hinside =>
    hshort ((TSAReceiveParam.remInside_iff hsize).mp hinside)
  obtain ⟨hstate, hlog⟩ := layerReceive_eq h
  rw [if_neg (by omega)] at hstate hlog
  by_cases hcompared : ∃ i, (gp.releaseExpired layer).retrieveRR p.srcAddr p.priority = some i ∧
      ((gp.releaseExpired layer).recvRec i).srcAddr.addressMode = .multicast ∧
      ((gp.releaseExpired layer).recvRec i).transNum = p.transNum ∧
      ((gp.releaseExpired layer).recvRec i).status = layer.rrStatus
  · exact houtside (hhandles.inside (.inl ⟨hbyte, hrem, hcompared⟩))
  · push Not at hcompared
    have hwp : (Tsa.receiveRem layer p).wp Call.apply _ _ [] (gp.releaseExpired layer) :=
      receiveRem_message hrem fun i hfound hmatch =>
        hcompared i hfound hmatch.1 hmatch.2.1 hmatch.2.2
    obtain ⟨-, -, hend⟩ := hwp.log trivial
    rw [List.append_nil] at hend
    rcases hend with ⟨x, hx, hopened⟩ | hstays
    · refine houtside (hhandles.inside (.inr ⟨x, ?_, hopened⟩))
      rw [hlog]
      exact List.mem_append_left _ hx
    · have hdropped := (hhandles.dropped hshort).1
      rw [hstate, hstays] at hdropped
      exact dropHead_ne h.head hdropped.symm

theorem unused_of_reminder (h : gp.TakesRem layer p) (hrem : p.isReminder = true) :
    ¬(gp.ComparesApdu layer p ∨ gp.CopiesApdu layer) := by
  rintro (hcompares | ⟨x, hx, hopened⟩)
  · rw [hcompares.2.1] at hrem
    exact Bool.false_ne_true hrem
  · rw [(layerReceive_eq h).2, List.mem_append, List.mem_singleton] at hx
    rcases hx with hx | rfl
    · split at hx
      · rw [Tsa.call, Prog.perform, Prog.log, Prog.log, List.nil_append, List.mem_singleton] at hx
        rw [hx] at hopened
        exact Bool.false_ne_true hopened
      · have hwp : (Tsa.receiveRem layer p).wp Call.apply _ _ [] (gp.releaseExpired layer) :=
          receiveRem_reminder hrem
        have hcalls := (hwp.log trivial).1
        rw [List.append_nil] at hcalls
        have hnone := hcalls.forall_mem (P := fun x => x.2.opened = none) x hx
        rw [hnone] at hopened
        exact Bool.false_ne_true hopened
    · exact Bool.false_ne_true hopened

theorem handlesRem_reminder_iff (h : gp.TakesRem layer p) (hbyte : 1 ≤ p.pduSize)
    (hrem : p.isReminder = true) (hshort : ¬p.HoldsList) :
    gp.HandlesRem layer p ↔ ¬gp.NotesAnswer layer p := by
  have hstate := (layerReceive_eq h).1
  rw [if_neg (by omega)] at hstate
  have hwp : (Tsa.receiveRem layer p).wp Call.apply _ _ [] (gp.releaseExpired layer) :=
    receiveRem_reminder hrem
  obtain ⟨-, -, hend⟩ := hwp.log trivial
  constructor
  · rintro hhandles ⟨i, member, hmember, hasks, hanswered⟩
    have hkept := congrFun (hhandles.dropped hshort).2 i
    rw [hstate, Tsa.state_receiveRem hmember, hasks, if_neg Bool.false_ne_true, Tsa.noteRem,
      Tsa.state_gp_bind] at hkept
    dsimp only at hkept
    rw [if_pos hanswered, Tsa.state_call_bind] at hkept
    have hdone : ((gp.releaseExpired layer).modifyRR i
        fun rr => { rr with transState := .done }).recvRec i =
          (gp.releaseExpired layer).recvRec i := hkept
    rw [recvRec_modifyRR] at hdone
    rw [← hdone] at hanswered
    exact hanswered.elim (by simp) (by simp)
  · intro hquiet
    refine ⟨fun huse => absurd huse (unused_of_reminder h hrem), fun _ => ?_⟩
    rw [hstate]
    rcases hend with hdropped | ⟨i, member, hmember, hasks, hanswered, -⟩
    · rw [hdropped]
      exact ⟨rfl, rfl⟩
    · exact absurd ⟨i, member, hmember, hasks, hanswered⟩ hquiet

theorem handlesRem_of_empty (h : gp.TakesRem layer p) (hempty : p.pduSize < 1) :
    gp.HandlesRem layer p := by
  obtain ⟨hstate, hlog⟩ := layerReceive_eq h
  rw [if_pos hempty] at hstate hlog
  constructor
  · rintro (hcompares | ⟨x, hx, hopened⟩)
    · have hbyte := hcompares.1
      omega
    · rw [hlog, Tsa.call, Prog.perform, Prog.log, Prog.log] at hx
      simp only [List.nil_append, List.singleton_append, List.mem_cons, List.not_mem_nil,
        or_false] at hx
      rcases hx with rfl | rfl
      · exact absurd hopened Bool.false_ne_true
      · exact absurd hopened Bool.false_ne_true
  · intro _
    rw [hstate]
    exact ⟨rfl, rfl⟩

/-- A REMINDER or REM/MSG is handled if it is empty, if there is room for its list, or if it is a
REMINDER that changes no record. -/
theorem handlesRem_iff (h : gp.TakesRem layer p) (hsize : p.pduSize < 65536) :
    gp.HandlesRem layer p ↔
      p.pduSize < 1 ∨ p.HoldsList ∨ p.isReminder = true ∧ ¬gp.NotesAnswer layer p := by
  by_cases hempty : p.pduSize < 1
  · exact iff_of_true (handlesRem_of_empty h hempty) (.inl hempty)
  by_cases hlist : p.HoldsList
  · refine iff_of_true ⟨fun _ => ?_, fun hshort => absurd hlist hshort⟩ (.inr (.inl hlist))
    exact (TSAReceiveParam.remInside_iff hsize).mpr hlist
  rw [or_iff_right hempty, or_iff_right hlist]
  cases hrem : p.isReminder with
  | true => rw [handlesRem_reminder_iff h (by omega) hrem hlist, eq_self, true_and]
  | false =>
    rw [Bool.false_eq_true, false_and, iff_false]
    exact not_handlesRem_of_message h (by omega) hsize hrem hlist

def waiting (p : TSAReceiveParam) : ProtocolStackData :=
  { reset default 3 50 with tsaInQ := (Queue.init default 3).push fun _ => p }

theorem handlesRem_emptyList :
    (waiting (messageFrom (groupSource 9 4) LsProtocolModeEnhanced .tpdu Pdu.REM_MSG_MSG 7
      [0, 0x10, 0x20])).HandlesRem .transport
      (messageFrom (groupSource 9 4) LsProtocolModeEnhanced .tpdu Pdu.REM_MSG_MSG 7
        [0, 0x10, 0x20]) :=
  (handlesRem_iff ⟨by decide +kernel, rfl, .inr (by decide)⟩ (by decide)).mpr
    (.inr (.inl (by decide)))

def shortRem : TSAReceiveParam :=
  { messageFrom (groupSource 9 4) LsProtocolModeLegacy .tpdu Pdu.REM_MSG_MSG 0 [] with
    pduSize := 2
    pdu := ⟨Pdu.tspduHdr false Pdu.REM_MSG_MSG 0, [5]⟩ }

theorem not_handlesRem :
    ¬∀ (gp : ProtocolStackData) (layer : Layer) (p : TSAReceiveParam), gp.TakesRem layer p →
      p.pduSize < 65536 → gp.HandlesRem layer p := by
  intro hall
  have htakes : (waiting shortRem).TakesRem .transport shortRem :=
    ⟨by decide +kernel, rfl, .inr (by decide)⟩
  exact not_handlesRem_of_message htakes (by decide) (by decide) (by decide) (by decide)
    (hall _ _ _ htakes (by decide))

end ProtocolStackData

end LonStack
