import LonStack.App.Outputs
import LonStack.App.Receive

namespace LonStack

open Lib

namespace AppStackData

variable (gp : AppStackData) (p : APPReceiveParam) (apdu : Apdu)

def polled : List Nat :=
  (List.range gp.indices).filter (gp.hasSelector apdu.nvSelector apdu.nvDir)

def PollsOne (v : Nat) : Prop :=
  gp.polled apdu ≠ [] ∧ ∀ i ∈ gp.polled apdu, gp.getPrimaryIndex i = v

def PollsTwo : Prop :=
  ∃ i ∈ gp.polled apdu, ∃ j ∈ gp.polled apdu,
    0 ≤ gp.getPrimaryIndex i ∧ 0 ≤ gp.getPrimaryIndex j ∧
      gp.getPrimaryIndex i ≠ gp.getPrimaryIndex j

def PollRefused : Prop :=
  p.auth = false ∧ ∃ i, (gp.polled apdu).head? = some i ∧ (gp.entryOf i).authentication = true

def noData : List UInt8 := [nvCode (1 - apdu.nvDir) apdu.nvCode, apdu.data 0]

def Responds (gp' : AppStackData) (nullResponse : Bool) (bytes : List UInt8) : Prop :=
  ∃ r, gp'.tsaRespQ.toList = gp.tsaRespQ.toList ++ [r] ∧ r.service = .response ∧
    r.reqId = p.reqId ∧ r.nullResponse = nullResponse ∧ (nullResponse = false → r.apdu = bytes)

structure AnswersPoll : Prop where
  noMatch : gp.polled apdu = [] →
    gp.Responds p (gp.processNVPoll p apdu) false (noData apdu)
  refused : ∀ v, gp.PollsOne apdu v → gp.PollRefused p apdu →
    gp.Responds p (gp.processNVPoll p apdu) false (noData apdu)
  answered : ∀ v : Nat, gp.PollsOne apdu v → ¬gp.PollRefused p apdu →
    gp.Responds p (gp.processNVPoll p apdu) false (noData apdu ++ gp.networkValue v)
  ambiguous : gp.PollsTwo apdu → gp.Responds p (gp.processNVPoll p apdu) true []

structure CanAnswer : Prop where
  size : p.pduSize = 2
  configured : gp.nodeUnConfigured = false
  runs : gp.appPgmRuns = true
  room : gp.tsaRespQ.queueEntries + 1 < gp.tsaRespQ.queueCapacity
  fits : ∀ v, (gp.nvFixed v).nvLength.toNat + 2 ≤ gp.tsaRespBufSize

def RepeatsFirst : Prop :=
  ∃ i rest, gp.polled apdu = i :: rest ∧ ∃ j ∈ rest, gp.getPrimaryIndex i = gp.getPrimaryIndex j

/-- The poll is about no entry or about one entry of a variable, or it is about several entries and
two of them belong to different variables, a later one to the variable of the first. -/
structure WellPolled : Prop where
  single : ∀ v, gp.PollsOne apdu v → (gp.polled apdu).length = 1
  ambiguous : gp.PollsTwo apdu → gp.RepeatsFirst apdu

variable {gp p apdu}

theorem pollScan_some (selector : Nat) (direction : UInt8) (l : List Nat) (first : Nat) :
    gp.pollScan selector direction l (some first) =
      if (l.filter (gp.hasSelector selector direction)).any fun j =>
          gp.getPrimaryIndex first = gp.getPrimaryIndex j
      then none else some (some first) := by
  induction l with
  | nil => rfl
  | cons i l ih =>
    rw [pollScan, ih, List.filter_cons]
    cases gp.hasSelector selector direction i with
    | false => rfl
    | true =>
      rw [if_pos rfl, if_pos rfl, List.any_cons]
      by_cases heq : gp.getPrimaryIndex first = gp.getPrimaryIndex i
      · rw [decide_eq_true heq, Bool.true_or]
        exact if_pos heq
      · rw [decide_eq_false heq, Bool.false_or]
        exact if_neg heq

theorem pollScan_none (selector : Nat) (direction : UInt8) (l : List Nat) :
    gp.pollScan selector direction l none =
      match l.filter (gp.hasSelector selector direction) with
      | [] => some none
      | first :: rest =>
        if rest.any fun j => gp.getPrimaryIndex first = gp.getPrimaryIndex j then none
        else some (some first) := by
  induction l with
  | nil => rfl
  | cons i l ih =>
    rw [pollScan, ih, List.filter_cons]
    cases gp.hasSelector selector direction i with
    | false => rfl
    | true => exact pollScan_some selector direction l i

def answer (gp : AppStackData) (p : APPReceiveParam) (apdu : Apdu) (matching : Option Nat) :
    AppStackData :=
  dropAppIn { gp with
    toAppData := gp.writeResponse p.reqId false false (noData apdu ++ gp.pollData p matching) }

theorem responds_nullResponse (h : gp.CanAnswer p) :
    gp.Responds p (gp.nullResponse p.reqId).dropAppIn true [] := by
  have hroom := h.room
  have hbuf := h.fits 0
  have hfull : gp.tsaRespQ.full = false := by
    rw [Queue.full_eq_false_iff]
    omega
  refine ⟨gp.tsaRespQ.tailSlot.asResponse p.reqId true false [0], ?_, rfl, rfl, rfl, nofun⟩
  show (gp.sendNullResponse p.reqId).2.tsaRespQ.toList = _
  unfold AppData.sendNullResponse AppData.allocSendResponse
  rw [hfull, if_neg Bool.false_ne_true, if_pos (by rw [List.length_nil]; omega)]
  exact (Queue.toList_push _ _).trans (if_pos hroom)

theorem responds_answer (h : gp.CanAnswer p) (matching : Option Nat) :
    gp.Responds p (gp.answer p apdu matching) false (noData apdu ++ gp.pollData p matching) :=
  ⟨gp.tsaRespQ.tailSlot.asResponse p.reqId false false (noData apdu ++ gp.pollData p matching),
    (Queue.toList_push _ _).trans (if_pos h.room), rfl, rfl, rfl, fun _ => rfl⟩

theorem processNVPoll_eq (h : gp.CanAnswer p) :
    gp.processNVPoll p apdu =
      match gp.polled apdu with
      | [] => gp.answer p apdu none
      | first :: rest =>
        if rest.any fun j => gp.getPrimaryIndex first = gp.getPrimaryIndex j then
          (gp.nullResponse p.reqId).dropAppIn
        else gp.answer p apdu (some first) := by
  have hroom := h.room
  have hfull : gp.tsaRespQ.full = false := by
    rw [Queue.full_eq_false_iff]
    omega
  unfold processNVPoll polled
  dsimp only
  rw [if_neg (not_not.mpr h.size), hfull, if_neg Bool.false_ne_true, h.configured,
    if_neg Bool.false_ne_true, h.runs, if_pos rfl, pollScan_none]
  cases (List.range gp.indices).filter (gp.hasSelector apdu.nvSelector apdu.nvDir) with
  | nil => rfl
  | cons first rest =>
    dsimp only
    cases rest.any fun j => gp.getPrimaryIndex first = gp.getPrimaryIndex j <;> rfl

theorem Responds.unique {gp' : AppStackData} {b b' : Bool} {bytes bytes' : List UInt8}
    (h : gp.Responds p gp' b bytes) (h' : gp.Responds p gp' b' bytes') : b = b' := by
  obtain ⟨r, hlist, -, -, hb, -⟩ := h
  obtain ⟨r', hlist', -, -, hb', -⟩ := h'
  have heq : [r] = [r'] := List.append_cancel_left (hlist.symm.trans hlist')
  cases heq
  exact hb.symm.trans hb'

theorem responds_of_repeatsFirst (h : gp.CanAnswer p) (hrep : gp.RepeatsFirst apdu) :
    gp.Responds p (gp.processNVPoll p apdu) true [] := by
  obtain ⟨i, rest, hlist, j, hj, heq⟩ := hrep
  rw [processNVPoll_eq h, hlist]
  dsimp only
  rw [if_pos (List.any_eq_true.mpr ⟨j, hj, decide_eq_true heq⟩)]
  exact responds_nullResponse h

theorem responds_of_not_repeatsFirst (h : gp.CanAnswer p) (hrep : ¬gp.RepeatsFirst apdu) :
    gp.Responds p (gp.processNVPoll p apdu) false
      (noData apdu ++ gp.pollData p (gp.polled apdu).head?) := by
  rw [processNVPoll_eq h]
  cases hlist : gp.polled apdu with
  | nil => exact responds_answer h none
  | cons i rest =>
    dsimp only
    rw [if_neg]
    · exact responds_answer h (some i)
    · intro hany
      obtain ⟨j, hj, heq⟩ := List.any_eq_true.mp hany
      exact hrep ⟨i, rest, hlist, j, hj, of_decide_eq_true heq⟩

theorem pollData_of_refused (href : gp.PollRefused p apdu) :
    gp.pollData p (gp.polled apdu).head? = [] := by
  obtain ⟨hauth, i, hhead, hentry⟩ := href
  rw [hhead, pollData, hauth, hentry]
  rfl

theorem getPrimaryIndex_lt (i : Int) : gp.getPrimaryIndex i < 254 := by
  have hsize : gp.nvTableSize ≤ 254 := gp.nvTableSize_le
  unfold getPrimaryIndex
  split
  case isTrue => omega
  case isFalse =>
    split
    case isTrue => omega
    case isFalse =>
      dsimp only
      split <;> omega

theorem pollData_of_pollsOne (h : gp.CanAnswer p) {v : Nat} (hone : gp.PollsOne apdu v)
    (href : ¬gp.PollRefused p apdu) :
    gp.pollData p (gp.polled apdu).head? = gp.networkValue v := by
  obtain ⟨hne, hall⟩ := hone
  obtain ⟨i, rest, hlist⟩ := List.exists_cons_of_ne_nil hne
  have hprimary := hall i (by rw [hlist]; exact List.mem_cons_self)
  have hlt : gp.getPrimaryIndex i < 254 := getPrimaryIndex_lt i
  have hindex : ubits16 (gp.getPrimaryIndex i) = v := by
    rw [hprimary] at hlt ⊢
    unfold ubits16
    omega
  have hentry : (!p.auth && (gp.entryOf i).authentication) = false := by
    cases hauth : p.auth with
    | true => rfl
    | false =>
      rw [Bool.not_false, Bool.true_and]
      refine Bool.eq_false_of_not_eq_true fun hentry => href ⟨hauth, i, ?_, hentry⟩
      rw [hlist, List.head?_cons]
  rw [hlist, List.head?_cons, pollData]
  rw [hindex, hentry, if_neg Bool.false_ne_true, if_pos (h.fits v)]

theorem not_repeatsFirst_of_length (hlen : (gp.polled apdu).length = 1) :
    ¬gp.RepeatsFirst apdu := by
  rintro ⟨i, rest, hlist, j, hj, -⟩
  rw [hlist, List.length_cons, Nat.add_eq_right, List.length_eq_zero_iff] at hlen
  rw [hlen] at hj
  cases hj

/-- A poll is answered from the one matching variable exactly when no alias repeats the selector of
its own variable, unless two variables have it and the scan finds the first of them again. -/
theorem answersPoll_iff (h : gp.CanAnswer p) : gp.AnswersPoll p apdu ↔ gp.WellPolled apdu := by
  constructor
  · intro ha
    constructor
    · intro v hone
      obtain ⟨i, rest, hlist⟩ := List.exists_cons_of_ne_nil hone.1
      cases rest with
      | nil => rw [hlist, List.length_singleton]
      | cons j rest =>
        have hi := hone.2 i (by simp [hlist])
        have hj := hone.2 j (by simp [hlist])
        have hnull := responds_of_repeatsFirst h
          ⟨i, j :: rest, hlist, j, List.mem_cons_self, hi.trans hj.symm⟩
        by_cases href : gp.PollRefused p apdu
        · exact absurd ((ha.refused v hone href).unique hnull) Bool.false_ne_true
        · exact absurd ((ha.answered v hone href).unique hnull) Bool.false_ne_true
    · intro htwo
      by_contra hrep
      exact absurd ((responds_of_not_repeatsFirst h hrep).unique (ha.ambiguous htwo))
        Bool.false_ne_true
  · intro hw
    constructor
    · intro hnil
      have hrep : ¬gp.RepeatsFirst apdu := by
        rintro ⟨i, rest, hlist, -⟩
        rw [hnil] at hlist
        cases hlist
      have hresp := responds_of_not_repeatsFirst h hrep
      rwa [hnil, List.head?_nil, pollData, List.append_nil] at hresp
    · intro v hone href
      have hresp := responds_of_not_repeatsFirst h (not_repeatsFirst_of_length (hw.single v hone))
      rwa [pollData_of_refused href, List.append_nil] at hresp
    · intro v hone href
      have hresp := responds_of_not_repeatsFirst h (not_repeatsFirst_of_length (hw.single v hone))
      rwa [pollData_of_pollsOne h hone href] at hresp
    · exact fun htwo => responds_of_repeatsFirst h (hw.ambiguous htwo)

def pollZero : Apdu := fun k => [0xC0, 0].getD k 0

def pollReceived : APPReceiveParam := { (default : APPReceiveParam) with pduSize := 2 }

theorem fits_oneOutput (v : Int) : (oneOutput.nvFixed v).nvLength.toNat + 2 ≤ 255 := by
  unfold nvFixed
  split
  case isTrue => decide
  case isFalse => exact Nat.le_of_ble_eq_true rfl

theorem canAnswer_oneOutput : oneOutput.CanAnswer pollReceived :=
  ⟨rfl, by decide +kernel, by decide +kernel, by decide, fits_oneOutput⟩

theorem answersPoll_iff_oneOutput :
    oneOutput.AnswersPoll pollReceived pollZero ↔ oneOutput.WellPolled pollZero :=
  answersPoll_iff canAnswer_oneOutput

def aliasedOutput : AppStackData :=
  oneOutput.withMem (oneOutput.mem.write (oneOutput.nvAliasTable 0) [0x40, 0, 0, 0, 0])

theorem canAnswer_aliasedOutput : aliasedOutput.CanAnswer pollReceived :=
  ⟨rfl, by decide +kernel, by decide +kernel, by decide, fits_oneOutput⟩

theorem polled_aliasedOutput : aliasedOutput.polled pollZero = [0, 1] := by
  decide +kernel

theorem pollsOne_aliasedOutput : aliasedOutput.PollsOne pollZero 0 := by
  refine ⟨by rw [polled_aliasedOutput]; nofun, fun i hi => ?_⟩
  rw [polled_aliasedOutput, List.mem_cons, List.mem_singleton] at hi
  rcases hi with rfl | rfl <;> decide +kernel

theorem not_answersPoll :
    ¬∀ (gp : AppStackData) (p : APPReceiveParam) (apdu : Apdu),
        gp.CanAnswer p → gp.AnswersPoll p apdu := by
  intro hall
  have hresp := (hall aliasedOutput pollReceived pollZero canAnswer_aliasedOutput).answered 0
    pollsOne_aliasedOutput (by
      rintro ⟨-, i, hhead, hauth⟩
      rw [polled_aliasedOutput] at hhead
      cases hhead
      exact absurd hauth (by decide +kernel))
  have hrep : aliasedOutput.RepeatsFirst pollZero :=
    ⟨0, [1], polled_aliasedOutput, 1, List.mem_cons_self, by decide +kernel⟩
  have hnull := responds_of_repeatsFirst canAnswer_aliasedOutput hrep
  exact absurd (hresp.unique hnull) Bool.false_ne_true

end AppStackData

end LonStack
