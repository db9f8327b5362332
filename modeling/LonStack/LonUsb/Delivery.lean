import LonStack.LonUsb.CodePacket

namespace LonStack.LonUsb

open Lib

namespace LonUsbLinkState

variable {s t : LonUsbLinkState}

/-- The uplink queues of a running link. Nothing ever asks for the priority queue, since the
priority of `uplinkBuffer` keeps its initial value. -/
structure UplinkQueues (s : LonUsbLinkState) : Prop where
  shutdown : s.shutdown = false
  priority : s.uplinkBuffer.priority = .normalPriority
  priorityCapacity : s.lonUsbUplinkPriorityQueue.queueCapacity = MAX_LON_UPLINK_BUFFERS
  priorityEmpty : s.lonUsbUplinkPriorityQueue.toList = []
  capacity : s.lonUsbUplinkNormalQueue.queueCapacity = MAX_LON_UPLINK_BUFFERS

theorem UplinkQueues.of_uplinks (hs : UplinkQueues s) (h : Uplinks s t) : UplinkQueues t where
  shutdown := h.shutdown.trans hs.shutdown
  priority := h.priority.trans hs.priority
  priorityCapacity := by rw [h.priorityQueue hs.priority, hs.priorityCapacity]
  priorityEmpty := by rw [h.priorityQueue hs.priority, hs.priorityEmpty]
  capacity := h.capacity.trans hs.capacity

abbrev uplinkEntries (s : LonUsbLinkState) : List LonUsbQueueBuffer :=
  s.lonUsbUplinkNormalQueue.toList

theorem readUplinkBuffer_cons (hs : UplinkQueues s) {e : LonUsbQueueBuffer}
    {l : List LonUsbQueueBuffer} (h : s.uplinkEntries = e :: l) :
    s.readUplinkBuffer.2 = some e ∧ UplinkQueues s.readUplinkBuffer.1 ∧
      s.readUplinkBuffer.1.uplinkEntries = l := by
  have hempty : s.lonUsbUplinkPriorityQueue.empty = true := by
    rw [Queue.empty_iff _ (by rw [hs.priorityCapacity]; decide), hs.priorityEmpty]
  have hl : s.lonUsbUplinkNormalQueue.toList = e :: l := h
  unfold readUplinkBuffer
  rw [if_pos hempty, Queue.peek_eq_head?, hl, List.head?_cons]
  refine ⟨rfl, ⟨hs.shutdown, hs.priority, hs.priorityCapacity, hs.priorityEmpty, ?_⟩, ?_⟩
  · exact (Queue.queueCapacity_dropHead _).trans hs.capacity
  · dsimp only [uplinkEntries]
    rw [Queue.toList_dropHead, hl, List.tail_cons]

theorem deliver_cons (hs : UplinkQueues s) {e : LonUsbQueueBuffer} {l : List LonUsbQueueBuffer}
    (h : s.uplinkEntries = e :: l) :
    s.deliver = (s.readUplinkBuffer.1, .noError, some e.usbNiDataFrame.toDataFrame) := by
  have hread := (readUplinkBuffer_cons hs h).1
  unfold deliver
  generalize s.readUplinkBuffer = r at hread
  obtain ⟨t, b⟩ := r
  dsimp only at hread
  subst hread
  rfl

theorem readLonUsbMsg_cons (hs : UplinkQueues s) {e : LonUsbQueueBuffer}
    {l : List LonUsbQueueBuffer} (h : s.uplinkEntries = e :: l) (now : OsalTickCount) :
    (s.readLonUsbMsg now).2 = (.noError, some e.usbNiDataFrame.toDataFrame) ∧
      UplinkQueues (s.readLonUsbMsg now).1 ∧ l <+: (s.readLonUsbMsg now).1.uplinkEntries := by
  have hparse : Uplinks s (s.parsePending now) :=
    .ite (fun _ => uplinks_parseRing now _ 0 s) fun _ => .refl s
  obtain ⟨more, hmore⟩ := hparse.entries
  have hentries : (s.parsePending now).uplinkEntries = e :: (l ++ more) :=
    hmore.symm.trans (congrArg (· ++ more) h)
  obtain ⟨-, hqueues, hrest⟩ := readUplinkBuffer_cons (hs.of_uplinks hparse) hentries
  rw [readLonUsbMsg, if_neg (by rw [hs.shutdown]; decide),
    deliver_cons (hs.of_uplinks hparse) hentries]
  exact ⟨rfl, hqueues, by rw [hrest]; exact List.prefix_append _ _⟩

def readsUplink (now : OsalTickCount) (k : Nat) (s : LonUsbLinkState) : LonUsbLinkState :=
  (fun s => (s.readLonUsbMsg now).1)^[k] s

theorem readLonUsbMsg_readsUplink (hs : UplinkQueues s) (now : OsalTickCount)
    {l rest : List LonUsbQueueBuffer} {e : LonUsbQueueBuffer}
    (h : s.uplinkEntries = l ++ e :: rest) :
    ((readsUplink now l.length s).readLonUsbMsg now).2 =
      (.noError, some e.usbNiDataFrame.toDataFrame) := by
  induction l generalizing s rest with
  | nil => exact (readLonUsbMsg_cons hs h now).1
  | cons b l ih =>
    obtain ⟨-, hqueues, more, hmore⟩ := readLonUsbMsg_cons hs h now
    exact ih hqueues (hmore.symm.trans (List.append_assoc _ _ _))

theorem queueUplinkBuffer_spec (hs : UplinkQueues s)
    (hroom : s.lonUsbUplinkNormalQueue.queueEntries < MAX_LON_UPLINK_BUFFERS) :
    s.queueUplinkBuffer.2 = .noError ∧
      s.queueUplinkBuffer.1.uplinkEntries =
        if s.lonUsbUplinkNormalQueue.queueEntries + 1 < MAX_LON_UPLINK_BUFFERS then
          s.uplinkEntries ++ [s.uplinkBuffer] else s.uplinkEntries := by
  have hfull : s.lonUsbUplinkNormalQueue.full = false := by
    rw [Queue.full_eq_false_iff, hs.capacity]
    exact hroom
  unfold queueUplinkBuffer
  rw [if_neg (by rw [hs.priority]; decide), Queue.tail_eq_some _ hfull]
  refine ⟨rfl, ?_⟩
  dsimp only [uplinkEntries]
  rw [Queue.toList_push, hs.capacity]

end LonUsbLinkState

theorem LonNiFrame.pdu_toDataFrame (f : LonNiFrame) {j : Nat}
    (h : j < f.toDataFrame.shortPduLength.toNat) : f.toDataFrame.pdu j = f.image (j + 2) := by
  change Image.copy (fun _ => 0) 0 f.pdu 0 f.toDataFrame.shortPduLength.toNat j = _
  rw [Image.copy_of_lt h]
  rfl

/-- Chunks of which no two are further apart than the receiver allows within a message. -/
def Timely (llpTimeout : UInt32) (chunks : List (OsalTickCount × List UInt8)) : Prop :=
  chunks.Pairwise fun c d => ¬llpTimeout < d.1 - c.1

theorem pairwise_allArrivals {llpTimeout : UInt32} {chunks : List (OsalTickCount × List UInt8)}
    (h : Timely llpTimeout chunks) :
    (allArrivals chunks).Pairwise fun x y => ¬llpTimeout < y.now - x.now := by
  rw [allArrivals, List.pairwise_flatMap]
  refine ⟨fun c _ => List.pairwise_of_forall_mem_list fun x hx y hy => ?_, h.imp fun hcd x hx y hy => ?_⟩
  · rw [now_of_mem_arrivals hx, now_of_mem_arrivals hy, UInt32.sub_self]
    exact UInt32.not_lt_zero
  · rw [now_of_mem_arrivals hx, now_of_mem_arrivals hy]
    exact hcd

theorem foldl_arrive_messageBytes {r : LonUsbLinkState} (hidle : r.uplinkState = .idle)
    (hu50 : r.lonUsbIfaceType = .u50) {code parameter : UInt8}
    (hcmd : code &&& 0x0F = MSG_FRAME_CMD) (bytes : List UInt8) {zs : List Arrival}
    (hzs : zs.map Arrival.byte = codePacketBytes code parameter ++ stuff FRAME_SYNC bytes)
    (htimely : zs.Pairwise fun x y => ¬r.llpTimeout < y.now - x.now) :
    ∃ t, KeepsMessage r t ∧ t.uplinkState = .message ∧
      ((∀ p b q, bytes = p ++ b :: q →
          Open t.uplinkMsgTimer t.llpTimeout (readBytes (t, .noError) p)) →
        zs.foldl arrive (r, .noError) = readBytes (t, .noError) bytes) := by
  obtain ⟨xs, ys, rfl, hxs, hys⟩ := List.map_eq_append_iff.mp hzs
  obtain ⟨t, x, hx, ht, hkeeps, hstate, htimer⟩ := arrive_codePacket hidle hu50 hcmd hxs
  refine ⟨t, hkeeps, hstate, fun hopen => ?_⟩
  rw [List.pairwise_append] at htimely
  rw [List.foldl_append, ht]
  refine foldl_arrive_message bytes hys (fun y hy => ?_) hopen
  rw [htimer, hkeeps.uplinks.llpTimeout]
  exact htimely.2.2 x (List.mem_of_getLast? hx) y hy

end LonStack.LonUsb
