import LonStack.Lib.Ledger
import LonStack.Tsa.TransAgree

namespace LonStack

open Lib

namespace Queue

variable {α β : Type} {q q' : Queue α} {f : α → β}

def added (q q' : Queue α) : List α := q'.toList.drop q.queueEntries

def removed (q q' : Queue α) : List α := q.toList.take (q.queueEntries - q'.queueEntries)

theorem map_added_of_append {more : List β} (hq : q'.toList.map f = q.toList.map f ++ more) :
    (q.added q').map f = more := by
  rw [added, List.map_drop, hq, List.drop_left' (by simp)]

theorem removed_of_append {more : List β} (hq : q'.toList.map f = q.toList.map f ++ more) :
    q.removed q' = [] := by
  have hlength := congrArg List.length hq
  simp only [List.length_map, length_toList, List.length_append] at hlength
  rw [removed, Nat.sub_eq_zero_of_le (by omega), List.take_zero]

theorem added_of_tail (hq : q'.toList.map f = (q.toList.map f).tail) : q.added q' = [] := by
  have hlength := congrArg List.length hq
  simp only [List.length_map, length_toList, List.length_tail] at hlength
  rw [added, List.drop_eq_nil_iff, length_toList]
  omega

theorem removed_of_tail (hq : q'.toList.map f = (q.toList.map f).tail) :
    q.removed q' = q.toList.take 1 := by
  have hlength := congrArg List.length hq
  simp only [List.length_map, length_toList, List.length_tail] at hlength
  rw [removed, hlength]
  cases hl : q.toList with
  | nil => simp
  | cons x xs =>
    have hentries : q.queueEntries = xs.length + 1 := by rw [← length_toList, hl, List.length_cons]
    rw [hentries, Nat.add_sub_cancel, Nat.add_sub_cancel_left]

theorem added_push {q : Queue α} (fill : α → α) :
    q.added (q.push fill) =
      if q.queueEntries + 1 < q.queueCapacity then [fill q.tailSlot] else [] := by
  rw [added, toList_push]
  split
  · rw [List.drop_left' q.length_toList]
  · rw [List.drop_eq_nil_iff, length_toList]

theorem added_self (q : Queue α) : q.added q = [] := by
  rw [added, List.drop_eq_nil_iff, length_toList]

theorem eq_of_mem_added_push {q : Queue α} {fill : α → α} {x : α} (h : x ∈ q.added (q.push fill)) :
    x = fill q.tailSlot := by
  rw [added_push] at h
  split at h
  · exact List.mem_singleton.1 h
  · simp at h

theorem eq_of_mem_added_push_push {q : Queue α} {fill fill' : α → α} {x : α}
    (h : x ∈ q.added ((q.push fill).push fill')) : x = fill q.tailSlot ∨ x = fill' q.nextSlot := by
  by_cases hroom : q.queueEntries + 1 < q.queueCapacity
  · rw [added, toList_push, toList_push, if_pos hroom, tailSlot_push q fill hroom] at h
    split at h
    · rw [List.append_assoc, List.drop_left' q.length_toList] at h
      simpa using h
    · rw [List.drop_left' q.length_toList] at h
      exact .inl (List.mem_singleton.1 h)
  · rw [added, toList_push, queueEntries_push, queueCapacity_push, if_neg hroom, if_neg hroom,
      toList_push, if_neg hroom, List.drop_of_length_le (Nat.le_of_eq q.length_toList)] at h
    simp at h

end Queue

def Call.completes (b : Bool) : Call → Bool
  | .sendCompletion b' _ => b' == b
  | .terminate b' _ => b' == b
  | _ => false

def acceptedTags (b : Bool) (x : ProtocolStackData × Call) : List MsgTag :=
  ((x.1.tsaOutQ b).added ((x.2.apply x.1).tsaOutQ b)).map TSASendParam.tag

def removedTags (b : Bool) (x : ProtocolStackData × Call) : List MsgTag :=
  ((x.1.tsaOutQ b).removed ((x.2.apply x.1).tsaOutQ b)).map TSASendParam.tag

def reportedTags (b : Bool) (x : ProtocolStackData × Call) : List (ApIndType × MsgTag) :=
  if x.2.completes b then
    (x.1.appCeRspInQ.added (x.2.apply x.1).appCeRspInQ).map fun e => (e.indication, e.tag)
  else []

/-- A completion is lost: `full` says that there is room, but only the one slot is free that
`write` does not use. -/
def losesCompletion (b : Bool) (x : ProtocolStackData × Call) : Bool :=
  x.2.completes b && !(x.1.tsaOutQ b).toList.isEmpty &&
    x.1.appCeRspInQ.queueEntries + 1 == x.1.appCeRspInQ.queueCapacity

variable {h : CallHistory} {gp : ProtocolStackData} {c : Call} {b : Bool}

theorem Queue.map_tag_messages (q : Queue TSASendParam) :
    q.messages.map Message.tag = q.toList.map TSASendParam.tag := by
  rw [messages, List.map_map]
  rfl

theorem SendStep.tags {x : TransmitRecord} {ctrl : TransCtrl} {q : Queue TSASendParam}
    (hstep : SendStep gp b c x ctrl q) :
    (c.completes b = true ∧ gp.appCeRspInQ.full = false ∧
      q.toList.map TSASendParam.tag = ((gp.tsaOutQ b).toList.map TSASendParam.tag).tail) ∨
    ((c.completes b = false ∨ gp.appCeRspInQ.full = true) ∧
      ∃ more, q.toList.map TSASendParam.tag =
        (gp.tsaOutQ b).toList.map TSASendParam.tag ++ more) := by
  have hgrows {q : Queue TSASendParam} (hq : Queue.Grows b (gp.tsaOutQ b) q) :
      ∃ more, q.toList.map TSASendParam.tag =
        (gp.tsaOutQ b).toList.map TSASendParam.tag ++ more := by
    obtain ⟨more, -, heq⟩ := hq.messages
    exact ⟨more.map Message.tag, by
      rw [← Queue.map_tag_messages, heq, List.map_append, Queue.map_tag_messages]⟩
  have htail {q : Queue TSASendParam} (hq : q.messages = (gp.tsaOutQ b).messages.tail) :
      q.toList.map TSASendParam.tag = ((gp.tsaOutQ b).toList.map TSASendParam.tag).tail := by
    rw [← Queue.map_tag_messages, hq, List.map_tail, Queue.map_tag_messages]
  cases hstep with
  | kept hc _ hq =>
    refine .inr ⟨.inl ?_, hgrows hq⟩
    cases c with
    | sendCompletion | terminate => exact hc
    | _ => rfl
  | refused _ _ _ _ hq | started _ _ _ _ _ _ hq | responseTaken _ _ _ _ hq =>
    exact .inr ⟨.inl rfl, hgrows hq⟩
  | ackCounted | memberCounted => exact .inr ⟨.inl rfl, hgrows .refl⟩
  | terminated _ hroom _ hq => exact .inl ⟨beq_self_eq_true b, hroom, htail hq⟩
  | completed _ _ hq =>
    cases hfull : gp.appCeRspInQ.full with
    | true =>
      rw [if_pos hfull] at hq
      refine .inr ⟨.inr rfl, [], ?_⟩
      rw [← Queue.map_tag_messages, hq, Queue.map_tag_messages, List.append_nil]
    | false =>
      rw [if_neg (by simp [hfull])] at hq
      exact .inl ⟨beq_self_eq_true b, rfl, htail hq⟩

theorem added_sendCompletion (success : Bool) :
    (gp.appCeRspInQ.added (gp.sendCompletion b success).appCeRspInQ).map
        (fun e => (e.indication, e.tag)) =
      if gp.appCeRspInQ.queueEntries + 1 < gp.appCeRspInQ.queueCapacity then
        ((gp.tsaOutQ b).toList.take 1).map fun p => (.completion, p.tag)
      else [] := by
  have hsame : gp.appCeRspInQ.added gp.appCeRspInQ = [] := by
    rw [Queue.added, List.drop_eq_nil_iff, Queue.length_toList]
  have hpeek := (gp.tsaOutQ b).peek_eq_head?
  simp only [ProtocolStackData.sendCompletion]
  split
  case h_1 hnone =>
    rw [hnone, eq_comm, List.head?_eq_none_iff] at hpeek
    simp [hsame, hpeek]
  case h_2 p hp =>
    rw [hp, eq_comm, List.head?_eq_some_iff] at hpeek
    obtain ⟨ps, hps⟩ := hpeek
    split
    case isTrue hfull =>
      rw [Queue.full_iff] at hfull
      rw [hsame, if_neg (by omega)]
      rfl
    case isFalse =>
      simp only [Queue.added_push, hps]
      split
      · rfl
      · rfl

theorem reportedTags_of_completes (hc : c.completes b = true) :
    reportedTags b (gp, c) =
      if gp.appCeRspInQ.queueEntries + 1 < gp.appCeRspInQ.queueCapacity then
        ((gp.tsaOutQ b).toList.take 1).map fun p => (.completion, p.tag)
      else [] := by
  rw [reportedTags, if_pos hc]
  cases c with
  | sendCompletion b' success =>
    obtain rfl : b' = b := by simpa [Call.completes] using hc
    exact added_sendCompletion success
  | terminate b' success =>
    obtain rfl : b' = b := by simpa [Call.completes] using hc
    exact @added_sendCompletion (gp.endTrans b') b' success
  | _ => simp [Call.completes] at hc

theorem tags_balance (hg : c.Guard h gp) (hm : gp.QueuesMarked) :
    (gp.tsaOutQ b).toList.map TSASendParam.tag ++ acceptedTags b (gp, c) =
      removedTags b (gp, c) ++ ((c.apply gp).tsaOutQ b).toList.map TSASendParam.tag := by
  rw [acceptedTags, removedTags]
  obtain ⟨_, hstep, -⟩ := exists_sendStep hg hm b
  rcases hstep.tags with ⟨-, -, hq⟩ | ⟨-, more, hq⟩
  · rw [Queue.added_of_tail hq, Queue.removed_of_tail hq, hq, List.map_nil, List.append_nil]
    cases (gp.tsaOutQ b).toList with
    | nil => rfl
    | cons => rfl
  · rw [Queue.map_added_of_append hq, Queue.removed_of_append hq, hq, List.map_nil,
      List.nil_append]

theorem reportedTags_step (hg : c.Guard h gp) (hm : gp.QueuesMarked) :
    (losesCompletion b (gp, c) = false ∧
      reportedTags b (gp, c) = (removedTags b (gp, c)).map (Prod.mk .completion)) ∨
    (losesCompletion b (gp, c) = true ∧
      (reportedTags b (gp, c)).length < ((removedTags b (gp, c)).map
        (Prod.mk ApIndType.completion)).length) := by
  obtain ⟨_, hstep, -⟩ := exists_sendStep hg hm b
  rcases hstep.tags with ⟨hc, hroom, hq⟩ | ⟨hc, more, hq⟩
  · rw [reportedTags_of_completes hc, removedTags, Queue.removed_of_tail hq]
    rw [Queue.full_eq_false_iff] at hroom
    by_cases hwrite : gp.appCeRspInQ.queueEntries + 1 < gp.appCeRspInQ.queueCapacity
    · refine .inl ⟨?_, ?_⟩
      · have hne : gp.appCeRspInQ.queueEntries + 1 ≠ gp.appCeRspInQ.queueCapacity := by omega
        simp [losesCompletion, hne]
      · rw [if_pos hwrite, List.map_map]
        rfl
    · rw [if_neg hwrite]
      have hlast : gp.appCeRspInQ.queueEntries + 1 = gp.appCeRspInQ.queueCapacity := by omega
      cases hl : (gp.tsaOutQ b).toList with
      | nil => exact .inl ⟨by simp [losesCompletion, hl], rfl⟩
      | cons p ps => exact .inr ⟨by simp [losesCompletion, hl, hc, hlast], by simp⟩
  · rw [removedTags, Queue.removed_of_append hq]
    rcases hc with hc | hfull
    · exact .inl ⟨by simp [losesCompletion, hc], by simp [reportedTags, hc]⟩
    · rw [Queue.full_iff] at hfull
      refine .inl ⟨?_, ?_⟩
      · simp [losesCompletion, hfull]
      · by_cases hc : c.completes b = true
        · rw [reportedTags_of_completes hc, if_neg (by omega)]
          rfl
        · simp [reportedTags, hc]

/-- The messages of one priority leave their queue in the order in which they came. They are
reported, each once and in that order, exactly as long as no completion is lost. -/
theorem completions_match_iff {g₀ : ProtocolStackData} (hinit : g₀.PowerUp)
    (hrun : Reaches g₀ h gp) (b : Bool) :
    ledger (acceptedTags b) h =
        ledger (removedTags b) h ++ (gp.tsaOutQ b).toList.map TSASendParam.tag ∧
      (ledger (reportedTags b) h = (ledger (removedTags b) h).map (Prod.mk .completion) ↔
        ∀ x ∈ h, losesCompletion b x = false) := by
  obtain ⟨⟨-, hbalance⟩, hcalls⟩ := hrun.invariant
    (I := fun h gp => gp.QueuesMarked ∧
      [] ++ ledger (acceptedTags b) h =
        ledger (removedTags b) h ++ (gp.tsaOutQ b).toList.map TSASendParam.tag)
    ⟨fun b m hm => by simp [hinit.messages b] at hm, by
      rw [← Queue.map_tag_messages, hinit.messages b]
      rfl⟩
    (fun h gp c hg hI =>
      ⟨queuesMarked_step hg hI.1, ledger_balance (tags_balance hg hI.1) hI.2⟩)
  have hsteps := (hcalls.mono fun h gp c hx => reportedTags_step (b := b) hx.1 hx.2.1).forall_mem
    (P := fun x =>
      (losesCompletion b x = false ∧ reportedTags b x = (removedTags b x).map (Prod.mk .completion)) ∨
      (losesCompletion b x = true ∧
        (reportedTags b x).length < ((removedTags b x).map (Prod.mk ApIndType.completion)).length))
  refine ⟨hbalance, ?_⟩
  rw [map_ledger, ledger_eq_iff fun x hx => (hsteps x hx).imp And.right And.right]
  refine forall₂_congr fun x hx => ?_
  rcases hsteps x hx with ⟨hkeeps, heq⟩ | ⟨hloses, hlt⟩
  · simp [hkeeps, heq]
  · rw [hloses]
    refine iff_of_false (fun heq => ?_) (by simp)
    rw [heq] at hlt
    exact Nat.lt_irrefl _ hlt

def twoTimeouts : List Event :=
  [.env (.appSend false (messageTo (nodeAddress 2) .acknowledged 7 [0x10])),
    .transportLayerSend,
    .env (.tick 1000),
    .transportLayerSend,
    .env (.appSend false (messageTo (nodeAddress 2) .acknowledged 8 [0x11])),
    .transportLayerSend,
    .env (.tick 2000),
    .transportLayerSend]

theorem not_completions_match :
    ¬∀ (g₀ gp : ProtocolStackData) (h : CallHistory), g₀.PowerUp → Reaches g₀ h gp → ∀ b,
      ledger (acceptedTags b) h =
          ledger (removedTags b) h ++ (gp.tsaOutQ b).toList.map TSASendParam.tag ∧
        ledger (reportedTags b) h = (ledger (removedTags b) h).map (Prod.mk .completion) := by
  intro hall
  have hmatch := (hall _ _ _ (ProtocolStackData.powerUp_reset default 2 50)
    (ProtocolStackData.reaches_runEvents _ twoTimeouts) false).2
  revert hmatch
  decide +kernel

theorem completions_match_twoTimeouts :
    ledger (reportedTags false) (runEvents twoTimeouts ([], .reset default 3 50)).1 =
      (ledger (removedTags false) (runEvents twoTimeouts ([], .reset default 3 50)).1).map
        (Prod.mk .completion) :=
  (completions_match_iff (ProtocolStackData.powerUp_reset default 3 50)
    (ProtocolStackData.reaches_runEvents _ twoTimeouts) false).2.2 (by decide +kernel)

end LonStack
