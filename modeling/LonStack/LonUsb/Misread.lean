import LonStack.LonUsb.Stale

namespace LonStack.LonUsb

open Lib LonUsbLinkState

variable {f : LonDataFrame} {k m : Nat} {r t : LonUsbLinkState}

theorem KeepsMessage.believedLength (h : KeepsMessage r t) (hi : UInt8) :
    t.believedLength hi = r.believedLength hi := by
  unfold LonUsbLinkState.believedLength
  rw [h.frame]

theorem open_extended (hindex : t.uplinkMsgIndex = 0) (hstate : t.uplinkState = .message)
    {cmd hi : UInt8} {bs p q : List UInt8} {b : UInt8}
    (hp : EXT_LENGTH :: cmd :: hi :: bs = p ++ b :: q)
    (hle : bs.length ≤ 1 ∨ 2 + bs.length ≤ t.believedLength hi + 1) :
    Open t.uplinkMsgTimer t.llpTimeout (readBytes (t, .noError) p) := by
  match p with
  | [] => exact ⟨rfl, hstate, rfl, rfl⟩
  | [x] =>
    obtain ⟨rfl, -⟩ := List.cons.inj hp
    rw [readBytes_cons, t.readByte_first hindex]
    exact ⟨rfl, hstate, rfl, rfl⟩
  | [x, y] =>
    obtain ⟨rfl, -⟩ := List.cons.inj hp
    rw [readBytes_cons, t.readByte_first hindex, readBytes_cons,
      t.readByte_within (List.cons_ne_nil _ _) (by decide) (by decide)]
    exact ⟨rfl, hstate, rfl, rfl⟩
  | x :: y :: z :: p =>
    simp only [List.cons_append, List.cons.injEq] at hp
    obtain ⟨rfl, rfl, rfl, hp⟩ := hp
    have hlength := congrArg List.length hp
    simp only [List.length_append, List.length_cons] at hlength
    rw [readBytes_extended hindex]
    · exact ⟨rfl, hstate, rfl, rfl⟩
    · cases hle with
      | inl hle => exact .inl (List.eq_nil_of_length_eq_zero (by omega))
      | inr hle => exact .inr (by omega)

theorem pairwise_arrivals (llpTimeout : UInt32) (now : OsalTickCount) (chunk : List UInt8) :
    (arrivals now chunk).Pairwise fun x y => ¬llpTimeout < y.now - x.now := by
  have h := @pairwise_allArrivals llpTimeout _ (List.pairwise_singleton _ (now, chunk))
  rwa [allArrivals, List.flatMap_singleton] at h

theorem flatMap_single (now : OsalTickCount) (chunk : List UInt8) :
    [(now, chunk)].flatMap Prod.snd = chunk :=
  List.flatMap_singleton ..

theorem Receiver.feed_unfinished (hr : Receiver m r) (seq cmd hi : UInt8) (bs : List UInt8)
    (hle : 3 + bs.length ≤ r.believedLength hi + 1) (now : OsalTickCount) :
    (feedUplink r [(now, codePacketBytes (messageFrameCode seq) 1 ++
      stuff FRAME_SYNC (EXT_LENGTH :: cmd :: hi :: bs))]).uplinkEntries = r.uplinkEntries := by
  obtain ⟨t, hkeeps, hstate, hfold⟩ := foldl_arrive_messageBytes hr.idle hr.u50
    (messageFrameCode_cmd seq) (EXT_LENGTH :: cmd :: hi :: bs) (map_byte_arrivals now _)
    (pairwise_arrivals _ _ _)
  obtain ⟨-, hindex, -⟩ := hkeeps.receiver hr
  rw [← hkeeps.believedLength] at hle
  have hread := readBytes_extended hindex cmd hi bs (.inr hle)
  rw [feedUplink_single hr.queues.shutdown, hfold fun p b q hp =>
    open_extended hindex hstate hp (.inr (by omega)), hread]
  exact congrArg Queue.toList hkeeps.queue

theorem Receiver.feed_overrun (hr : Receiver m r) (hroom : m + 1 < MAX_LON_UPLINK_BUFFERS)
    (seq cmd hi : UInt8) (bs : List UInt8) (b : UInt8) (q : List UInt8)
    (hfilter : ¬FilteredUplink cmd) (hle : bs = [] ∨ 3 + bs.length ≤ r.believedLength hi + 1)
    (hlt : r.believedLength hi < 3 + bs.length)
    (hlength : r.believedLength hi ≤ LonUsbQueueBuffer.sizeofLonNiFrame) (now : OsalTickCount) :
    ∃ t e more, KeepsMessage r t ∧
      (feedUplink r [(now, codePacketBytes (messageFrameCode seq) 1 ++
        stuff FRAME_SYNC ((EXT_LENGTH :: cmd :: hi :: bs) ++ b :: q))]).uplinkEntries =
          r.uplinkEntries ++ e :: more ∧
      e.usbNiDataFrame = t.queuedFrame ((EXT_LENGTH :: cmd :: hi :: bs) ++ [b]) := by
  have hsplit : (EXT_LENGTH :: cmd :: hi :: bs) ++ b :: q =
      (EXT_LENGTH :: cmd :: hi :: (bs ++ [b])) ++ q := by
    simp only [List.cons_append, List.append_assoc, List.nil_append]
  rw [feedUplink_single hr.queues.shutdown, hsplit, stuff_append, ← List.append_assoc]
  obtain ⟨xs, ys, hxsys, hxs, -⟩ := List.map_eq_append_iff.mp (map_byte_arrivals now
    (codePacketBytes (messageFrameCode seq) 1 ++
      stuff FRAME_SYNC (EXT_LENGTH :: cmd :: hi :: (bs ++ [b])) ++ stuff FRAME_SYNC q))
  have htimely := pairwise_arrivals r.llpTimeout now (codePacketBytes (messageFrameCode seq) 1 ++
      stuff FRAME_SYNC (EXT_LENGTH :: cmd :: hi :: (bs ++ [b])) ++ stuff FRAME_SYNC q)
  rw [hxsys, List.pairwise_append] at htimely
  obtain ⟨t, hkeeps, hstate, hfold⟩ := foldl_arrive_messageBytes hr.idle hr.u50
    (messageFrameCode_cmd seq) (EXT_LENGTH :: cmd :: hi :: (bs ++ [b])) hxs htimely.1
  obtain ⟨-, hindex, -⟩ := hkeeps.receiver hr
  rw [← hkeeps.believedLength] at hle hlt hlength
  have hcmd : (t.held ((EXT_LENGTH :: cmd :: hi :: bs) ++ [b])
      (t.believedLength hi)).uplinkBuffer.usbNiDataFrame.niCommand = cmd := by
    change t.uplinkBuffer.usbNiDataFrame.image.write 0 _ (0 + 1) = _
    rw [Image.write_of_mem _ _ (by simp)]
    rfl
  have hread : readBytes (t, .noError) (EXT_LENGTH :: cmd :: hi :: (bs ++ [b])) =
      t.completed ((EXT_LENGTH :: cmd :: hi :: bs) ++ [b]) (t.believedLength hi) := by
    rw [show EXT_LENGTH :: cmd :: hi :: (bs ++ [b]) = (EXT_LENGTH :: cmd :: hi :: bs) ++ [b] from rfl,
      readBytes_append, readBytes_extended hindex cmd hi bs hle, readBytes_cons,
      readByte_last t (List.cons_ne_nil _ _) (fun h => by simp at h) (by simp; omega) b
        (by rw [hcmd]; exact hfilter)]
    rfl
  obtain ⟨-, -, -, e, hentries, he⟩ := completed_spec hkeeps hr (Nat.lt_of_succ_lt hroom)
    ((EXT_LENGTH :: cmd :: hi :: bs) ++ [b]) hlength
  rw [if_pos hroom] at hentries
  obtain ⟨more, hmore⟩ := (uplinks_foldl_arrive (readBytes (t, .noError)
    (EXT_LENGTH :: cmd :: hi :: (bs ++ [b]))) ys).entries
  refine ⟨t, e, more, hkeeps, ?_, he⟩
  rw [hxsys, List.foldl_append, hfold fun p b q hp => open_extended hindex hstate hp ?_]
  · rw [uplinkEntries, ← hmore, hread]
    exact (congrArg (· ++ more) hentries).trans (List.append_assoc _ _ _)
  · rw [List.length_append, List.length_singleton]
    cases hle with
    | inl hnil => exact .inl (by rw [hnil]; decide)
    | inr hle => exact .inr (by omega)

theorem Receiver.feed_zero (hr : Receiver m r) (seq : UInt8) (now : OsalTickCount) :
    (feedUplink r [(now, codePacketBytes (messageFrameCode seq) 1 ++
      stuff FRAME_SYNC [0])]).uplinkEntries = r.uplinkEntries := by
  obtain ⟨t, hkeeps, hstate, hfold⟩ := foldl_arrive_messageBytes hr.idle hr.u50
    (messageFrameCode_cmd seq) [0] (map_byte_arrivals now _) (pairwise_arrivals _ _ _)
  obtain ⟨-, hindex, -⟩ := hkeeps.receiver hr
  have hopen (p : List UInt8) (b : UInt8) (q : List UInt8) (hp : [0] = p ++ b :: q) :
      Open t.uplinkMsgTimer t.llpTimeout (readBytes (t, .noError) p) := by
    cases p with
    | nil => exact ⟨rfl, hstate, rfl, rfl⟩
    | cons x p =>
      have := congrArg List.length hp
      simp only [List.length_cons, List.length_append, List.length_nil] at this
      omega
  rw [feedUplink_single hr.queues.shutdown, hfold hopen, readBytes_cons, t.readByte_first hindex]
  exact congrArg Queue.toList hkeeps.queue

theorem image_queuedFrame (t : LonUsbLinkState) (p : List UInt8) {j : Nat} (hj : j ≠ 0) :
    (t.queuedFrame p).image j = t.uplinkBuffer.usbNiDataFrame.image.write 0 p j := by
  unfold queuedFrame
  dsimp only
  split
  case isTrue => exact Function.update_of_ne hj _ _
  case isFalse => rfl

theorem shortPduLength_queuedFrame (t : LonUsbLinkState) (p : List UInt8) :
    (t.queuedFrame (EXT_LENGTH :: p)).toDataFrame.shortPduLength =
      if (LonNiFrame.mk (t.uplinkBuffer.usbNiDataFrame.image.write 0 (EXT_LENGTH :: p))).niCommand =
        LonNiResetDeviceCmd then 255 else 254 := by
  have hfirst : t.uplinkBuffer.usbNiDataFrame.image.write 0 (EXT_LENGTH :: p) (0 + 0) = EXT_LENGTH :=
    Image.write_of_mem _ _ (Nat.zero_lt_succ _)
  unfold queuedFrame
  dsimp only
  split
  case isTrue => rfl
  case isFalse =>
    change t.uplinkBuffer.usbNiDataFrame.image.write 0 (EXT_LENGTH :: p) 0 - 1 = 254
    rw [hfirst]
    decide

theorem pdu_queuedFrame (t : LonUsbLinkState) (p : List UInt8) {j : Nat} (hj : j < 254) :
    (t.queuedFrame (EXT_LENGTH :: p)).toDataFrame.pdu j =
      t.uplinkBuffer.usbNiDataFrame.image.write 0 (EXT_LENGTH :: p) (j + 2) := by
  have hlength : 254 ≤ (t.queuedFrame (EXT_LENGTH :: p)).toDataFrame.shortPduLength.toNat := by
    rw [shortPduLength_queuedFrame]
    split <;> decide
  rw [LonNiFrame.pdu_toDataFrame _ (Nat.lt_of_lt_of_le hj hlength)]
  exact image_queuedFrame t _ (Nat.succ_ne_zero _)

theorem Receives.ne_entries (h : Receives f m r t) : t.uplinkEntries ≠ r.uplinkEntries := by
  obtain ⟨e, he⟩ := h.queued
  intro heq
  rw [heq, List.self_eq_append_right] at he
  cases he

section Stale

variable (hk : k < MAX_LON_DOWNLINK_BUFFERS) (hm : m < MAX_LON_UPLINK_BUFFERS)

include hk hm

theorem RoundTrips.receives (h : RoundTrips f k m) (hacc : f.Accepted)
    (hmode : f.niCommand ≠ LonNiLayerModeCmd) (frame : Image) :
    ∃ bytes, (staleSender f k hk.le).carry f 0 = some bytes ∧
      Receives f m (staleReceiver frame m hm.le)
        (feedUplink (staleReceiver frame m hm.le) [(0, bytes)]) := by
  obtain ⟨bytes, hbytes, hreceives⟩ := h _ (sender_staleSender f hk hacc hmode) 0
  refine ⟨bytes, hbytes, hreceives _ _ (receiver_staleReceiver frame hm.le) ?_ ?_ ?_⟩
  · exact (by decide : (1 : Int) ≠ 0 % 8)
  · exact flatMap_single 0 bytes
  · exact List.pairwise_singleton _ _

theorem RoundTrips.sender_room (h : RoundTrips f k m) (hacc : f.Accepted)
    (hmode : f.niCommand ≠ LonNiLayerModeCmd) : k + 1 < MAX_LON_DOWNLINK_BUFFERS := by
  by_contra hroom
  obtain ⟨bytes, hbytes, -⟩ := h.receives hk hm hacc hmode extBytes
  rw [carry_lastSlot hacc hmode hk (Nat.le_of_not_lt hroom)] at hbytes
  cases hbytes

theorem RoundTrips.receiver_room (h : RoundTrips f k m) (hacc : f.Accepted)
    (hmode : f.niCommand ≠ LonNiLayerModeCmd) : m + 1 < MAX_LON_UPLINK_BUFFERS := by
  obtain ⟨bytes, -, hreceives⟩ := h.receives hk hm hacc hmode extBytes
  obtain ⟨e, he⟩ := hreceives.queued
  have hlength := congrArg List.length he
  have hbounded := (uplinks_feedUplink (staleReceiver extBytes m hm.le) [(0, bytes)]).bounded
  rw [Queue.length_toList, List.length_append, Queue.length_toList, List.length_singleton]
    at hlength
  change _ ≤ max m 15 at hbounded
  change _ = m + 1 at hlength
  change m + 1 < 16
  change m < 16 at hm
  omega

theorem RoundTrips.not_reset (h : RoundTrips f k m) (hlength : f.shortPduLength < 254)
    (hfilter : ¬FilteredUplink f.niCommand) (hroom : k + 1 < MAX_LON_DOWNLINK_BUFFERS)
    (hroom' : m + 1 < MAX_LON_UPLINK_BUFFERS) : f.niCommand ≠ LonNiResetDeviceCmd := by
  intro hreset
  have hne : f.shortPduLength ≠ EXT_LENGTH := fun hf => by
    rw [hf] at hlength
    exact absurd hlength (by decide)
  have hmode : f.niCommand ≠ LonNiLayerModeCmd := fun hf => hfilter (.inr hf)
  have hacc : f.Accepted := fun hf => absurd hf hne
  have hr := receiver_staleReceiver extBytes hm.le
  obtain ⟨bytes, hbytes, hreceives⟩ := h.receives hk hm hacc hmode extBytes
  rw [(sender_staleSender f hk hacc hmode).carry_short hmode hne hroom] at hbytes
  obtain rfl := Option.some.inj hbytes
  obtain ⟨-, hqueues, e, t, -, hentries, he⟩ :=
    hr.feed_short hm hlength hfilter _ (flatMap_single 0 _) (List.pairwise_singleton _ _)
  rw [if_pos hroom'] at hentries
  have hsame := (hreceives.same hr hqueues hentries).shortPduLength
  rw [he] at hsame
  have hcmd : (LonNiFrame.mk (t.uplinkBuffer.usbNiDataFrame.image.write 0
      (f.shortBytes ++ [-computeChecksum f.shortBytes]))).niCommand = LonNiResetDeviceCmd := by
    rw [← hreset]
    change t.uplinkBuffer.usbNiDataFrame.image.write 0 _ (0 + 1) = _
    rw [Image.write_of_mem _ _ (by simp [LonDataFrame.shortBytes])]
    rfl
  rw [queuedFrame, if_pos hcmd] at hsame
  rw [← hsame] at hlength
  exact absurd (show (255 : UInt8) < 254 from hlength) (by decide)

theorem RoundTrips.ne_254 (h : RoundTrips f k m) (hfilter : ¬FilteredUplink f.niCommand)
    (hroom : k + 1 < MAX_LON_DOWNLINK_BUFFERS) (hroom' : m + 1 < MAX_LON_UPLINK_BUFFERS) :
    f.shortPduLength ≠ 254 := by
  intro hlength
  have hne : f.shortPduLength ≠ EXT_LENGTH := by
    rw [hlength]
    decide
  have hmode : f.niCommand ≠ LonNiLayerModeCmd := fun hf => hfilter (.inr hf)
  have hacc : f.Accepted := fun hf => absurd hf hne
  let stale : Image := fun j => if j = 4 then f.pdu 2 + 1 else 0
  have hr := receiver_staleReceiver stale hm.le
  obtain ⟨bytes, hbytes, hreceives⟩ := h.receives hk hm hacc hmode stale
  rw [(sender_staleSender f hk hacc hmode).carry_short hmode hne hroom] at hbytes
  obtain rfl := Option.some.inj hbytes
  have hbytes : f.shortBytes =
      EXT_LENGTH :: f.niCommand :: f.pdu 0 :: f.pdu 1 :: (f.pdu.bytes 254).drop 2 := by
    rw [LonDataFrame.shortBytes, hlength]
    rfl
  have hrest : ((f.pdu.bytes 254).drop 2).length = 252 := by
    rw [List.length_drop, Image.length_bytes]
  have hbelieved : (staleReceiver stale m hm.le).believedLength (f.pdu 0) =
      256 * (f.pdu 0).toNat := rfl
  unfold messageBytes at hreceives
  generalize -computeChecksum f.shortBytes = checksum at hreceives
  rw [hbytes] at hreceives
  by_cases hzero : f.pdu 0 = 0
  case neg =>
    have hpos : (f.pdu 0).toNat ≠ 0 := fun heq => hzero (UInt8.toNat_inj.mp heq)
    refine hreceives.ne_entries (hr.feed_unfinished _ _ (f.pdu 0)
      (f.pdu 1 :: (f.pdu.bytes 254).drop 2 ++ [checksum]) ?_ 0)
    rw [hbelieved, List.length_append, List.length_cons, hrest, List.length_singleton]
    omega
  case pos =>
    obtain ⟨t, e, more, hkeeps, hentries, he⟩ := hr.feed_overrun hroom' (sequenceByte 0)
      f.niCommand (f.pdu 0) [] (f.pdu 1) ((f.pdu.bytes 254).drop 2 ++ [checksum]) hfilter (.inl rfl)
      (by rw [hbelieved, hzero]; decide) (by rw [hbelieved, hzero]; decide) 0
    have hsame := hreceives.same hr (hr.queues.of_uplinks (uplinks_feedUplink _ _)) hentries
    have hstale : e.usbNiDataFrame.toDataFrame.pdu 2 = f.pdu 2 + 1 := by
      rw [he]
      refine (pdu_queuedFrame t _ (by decide)).trans ?_
      rw [Image.write_of_le _ _ (by simp), hkeeps.frame]
      rfl
    rw [hsame.pdu hne 2 (by rw [hlength]; decide)] at hstale
    exact absurd hstale.symm (by simp)

theorem RoundTrips.not_extended (h : RoundTrips f k m) (hacc : f.Accepted)
    (hfilter : ¬FilteredUplink f.niCommand) (hroom : k + 1 < MAX_LON_DOWNLINK_BUFFERS)
    (hroom' : m + 1 < MAX_LON_UPLINK_BUFFERS) : f.shortPduLength ≠ EXT_LENGTH := by
  intro hext
  have hmode : f.niCommand ≠ LonNiLayerModeCmd := fun hf => hfilter (.inr hf)
  have hmax : f.extLength ≤ 1280 := hacc hext
  have hr := receiver_staleReceiver extBytes hm.le
  obtain ⟨bytes, hbytes, hreceives⟩ := h.receives hk hm hacc hmode extBytes
  obtain rfl := carry_extended hext hacc hmode hk hroom 0 hbytes
  unfold messageBytes at hreceives
  by_cases hzero : f.extLength = 0
  case pos =>
    have hnil : (sentExtended f).bytes 0 = [] := rfl
    have hchecksum : -computeChecksum [] = 0 := by decide
    rw [extSize, if_pos hzero, hnil, hchecksum, List.nil_append] at hreceives
    exact hreceives.ne_entries (hr.feed_zero _ 0)
  case neg =>
    rw [extSize, if_neg hzero] at hreceives
    generalize -computeChecksum _ = checksum at hreceives
    have hsent : (sentExtended f).bytes (4 + f.extLength) =
        EXT_LENGTH :: sentExtended f 1 :: sentExtended f 2 :: sentExtended f 3 ::
          Image.bytes (fun j => sentExtended f (j + 4)) f.extLength := by
      rw [Nat.add_comm 4, ← sentExtended_zero hext]
      simp only [Image.bytes_succ_eq_cons]
    rw [hsent] at hreceives
    obtain ⟨rest, hrest, hlength⟩ : ∃ rest,
        Image.bytes (fun j => sentExtended f (j + 4)) f.extLength ++ [checksum] = rest ∧
          rest.length = f.extLength + 1 :=
      ⟨_, rfl, by rw [List.length_append, Image.length_bytes, List.length_singleton]⟩
    simp only [List.cons_append, hrest] at hreceives
    have hbelieved (hi : UInt8) :
        (staleReceiver extBytes m hm.le).believedLength hi = 256 * hi.toNat + 255 := rfl
    by_cases hlong : f.extLength + 5 ≤ 256 * (sentExtended f 2).toNat + 256
    case pos =>
      refine hreceives.ne_entries (hr.feed_unfinished _ _ _ (sentExtended f 3 :: rest) ?_ 0)
      rw [hbelieved, List.length_cons, hlength]
      omega
    case neg =>
      -- the high byte of the length was sent, since the stale one is too large
      have h18 : 18 < f.extLength := by
        by_contra hle
        rw [sentExtended_of_le (j := 2) (by omega)] at hlong
        exact hlong (by change _ ≤ 256 * 255 + 256; omega)
      have hhi : (sentExtended f 2).toNat = (f.extLength + 1) / 256 := by
        rw [sentExtended_two hext h18, UInt8.toNat_ofNat', Nat.mod_eq_of_lt (by omega)]
      rw [hhi] at hlong
      obtain ⟨bs, b, q, rfl, hbs⟩ : ∃ bs b q, rest = bs ++ b :: q ∧
          bs.length = 256 * ((f.extLength + 1) / 256) + 252 := by
        have hw : 256 * ((f.extLength + 1) / 256) + 252 < rest.length := by omega
        generalize 256 * ((f.extLength + 1) / 256) + 252 = w at hw
        refine ⟨rest.take w, rest[w], rest.drop (w + 1), ?_, List.length_take_of_le hw.le⟩
        rw [← List.drop_eq_getElem_cons hw, List.take_append_drop]
      obtain ⟨t, e, more, -, hentries, he⟩ := hr.feed_overrun hroom' (sequenceByte 0)
        (sentExtended f 1) (sentExtended f 2) (sentExtended f 3 :: bs) b q
        (by rw [sentExtended_one hext (by omega)]; exact hfilter)
        (.inr (by rw [hbelieved, hhi, List.length_cons, hbs]; omega))
        (by rw [hbelieved, hhi, List.length_cons, hbs]; omega)
        (by rw [hbelieved, hhi]; change _ ≤ 1282; omega) 0
      have hsame := (hreceives.same hr (hr.queues.of_uplinks (uplinks_feedUplink _ _))
        hentries).extLength hext
      have hpdu (j : Nat) (hj : j < 2) : e.usbNiDataFrame.toDataFrame.pdu j =
          (if j = 0 then sentExtended f 2 else sentExtended f 3) := by
        rw [he]
        refine (pdu_queuedFrame t _ (by omega)).trans ?_
        have hlt : j + 2 < ((EXT_LENGTH :: sentExtended f 1 :: sentExtended f 2 ::
            sentExtended f 3 :: bs) ++ [b]).length := by
          simp only [List.length_append, List.length_cons]
          omega
        rw [← Nat.zero_add (j + 2)]
        refine (Image.write_of_mem _ _ hlt).trans ?_
        cases j with
        | zero => rfl
        | succ j =>
          obtain rfl : j = 0 := by omega
          rfl
      rw [LonDataFrame.extLength, hpdu 0 (by decide), hpdu 1 (by decide), if_pos rfl,
        if_neg (by decide), ntoh16, hhi, sentExtended_three hext (by omega),
        UInt8.toNat_ofNat'] at hsame
      omega

end Stale

/-- A frame makes the round trip through any two links exactly if its length byte is below the mark
of an extended frame, it is no reset, and neither queue is down to its last slot. -/
theorem roundTrips_iff (hk : k < MAX_LON_DOWNLINK_BUFFERS) (hm : m < MAX_LON_UPLINK_BUFFERS)
    (hacc : f.Accepted) (hfilter : ¬FilteredUplink f.niCommand) :
    RoundTrips f k m ↔
      f.shortPduLength < 254 ∧ f.niCommand ≠ LonNiResetDeviceCmd ∧
        k + 1 < MAX_LON_DOWNLINK_BUFFERS ∧ m + 1 < MAX_LON_UPLINK_BUFFERS := by
  constructor
  · intro h
    have hmode : f.niCommand ≠ LonNiLayerModeCmd := fun hf => hfilter (.inr hf)
    have hroom := h.sender_room hk hm hacc hmode
    have hroom' := h.receiver_room hk hm hacc hmode
    have hext := h.not_extended hk hm hacc hfilter hroom hroom'
    have h254 := h.ne_254 hk hm hfilter hroom hroom'
    have hlength : f.shortPduLength < 254 := by
      rw [UInt8.lt_iff_toNat_lt]
      have hlt := f.shortPduLength.toNat_lt
      have hext' : f.shortPduLength.toNat ≠ 255 := fun heq => hext (UInt8.toNat_inj.mp heq)
      have h254' : f.shortPduLength.toNat ≠ 254 := fun heq => h254 (UInt8.toNat_inj.mp heq)
      change _ < 254
      omega
    exact ⟨hlength, h.not_reset hk hm hlength hfilter hroom hroom', hroom, hroom'⟩
  · rintro ⟨hlength, hreset, hroom, hroom'⟩
    exact roundTrips_of_short hlength hfilter hreset hroom hroom'

theorem roundTrips_iff_data :
    RoundTrips ⟨LonNiApplicationData, 2, fun _ => FRAME_SYNC⟩ 0 0 ↔
      (2 : UInt8) < 254 ∧ LonNiApplicationData ≠ LonNiResetDeviceCmd ∧
        0 + 1 < MAX_LON_DOWNLINK_BUFFERS ∧ 0 + 1 < MAX_LON_UPLINK_BUFFERS :=
  roundTrips_iff (by decide) (by decide) (fun h => absurd h (by decide)) (by decide)

theorem not_roundTrips_254 :
    ¬∀ f : LonDataFrame, f.Accepted → ¬FilteredUplink f.niCommand → RoundTrips f 0 0 := by
  intro h
  exact (h ⟨LonNiApplicationData, 254, fun _ => 0x12⟩ (fun hext => absurd hext (by decide))
    (by decide)).ne_254 (by decide) (by decide) (by decide) (by decide) (by decide) rfl

end LonStack.LonUsb
