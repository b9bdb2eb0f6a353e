import OpenQti.Lib.Buffer
import OpenQti.Lib.Ensures
import OpenQti.Sms.Effects
import OpenQti.Sms.Handed

/-!
# Pages of cell broadcasts

`intercept_cb_message` with all that it reads and copies. The length that it looks at first is two
bytes short of the fields that it then reads. The number of bytes of the page comes from the
network: it is limited for the copy to `output`, and not for the call that queues them, and below 0
it is a very large `size_t`. `pages_queued_iff` says which packets come through.
-/

namespace OpenQti.Sms.CellBroadcast

open Bytes Buffer Except Text

/-! ## The code -/

/-- What ends a run: a read behind the packet, a store behind `output`, or a fault of the queue. -/
inductive CbFault where
  | read (index : Nat)
  | output (overflow : Overflow)
  | queue (fault : Fault)
  deriving DecidableEq, Repr

/-- `MAX_CB_MESSAGE_SIZE`. -/
def maxCbMessageSize : Nat := 1839

/-- A byte of the packet. -/
def readByte (bytes : Bytes) (len i : Nat) : Except CbFault UInt8 :=
  if i < len then .ok (bytes i) else .error (.read i)

/-- Bytes that are read for the log. -/
def readAll (bytes : Bytes) (len : Nat) : List Nat → Except CbFault Unit
  | [] => .ok ()
  | i :: rest => do
      let _ ← readByte bytes len i
      readAll bytes len rest

/-- `memcpy(output, pkt->message.pdu.contents, n)`. -/
def copyContents (bytes : Bytes) (len n : Nat) : Except CbFault Bytes :=
  if 30 + n ≤ len then
    (memcpy maxCbMessageSize (fun k => bytes (30 + k)) n fun _ => 0).mapError .output
  else .error (.read len)

/-- The first page of a message is announced. -/
def announcePage (callSimulation : Bool) (pageParam : UInt8) (s : SmsRuntime) :
    Except Fault SmsRuntime :=
  if pageParam >>> 4 = 0x01 then
    addMessageToQueue callSimulation
      (ascii "WARNING: Incoming Cell Broadcast Message from the network") s
  else .ok s

/-- `intercept_cb_message(bytes, len)`. -/
def interceptCbMessage (callSimulation : Bool) (bytes : Bytes) (len : Nat) (s : SmsRuntime) :
    Except CbFault SmsRuntime :=
  if cellBroadcastHeaderSize ≤ len then do
    let headerId ← readByte bytes len 13
    let messageId ← readByte bytes len 21
    if headerId = tlvTransferMtMessage ∧ messageId = 0x07 then do
      -- the ids, the length of the header, the serial number, the encoding and the page
      readAll bytes len [13, 14, 15, 24, 25, 26, 27, 28, 29]
      let pageParam ← readByte bytes len 29
      let s ← (announcePage callSimulation pageParam s).mapError .queue
      let encoding ← readByte bytes len 28
      let low ← readByte bytes len 22
      let high ← readByte bytes len 23
      let sz : Int := (low.toNat + 256 * high.toNat : Nat) - 6
      let output ← copyContents bytes len (if sz > maxMessageSize then maxMessageSize else sizeT sz)
      -- the length is `sz`, whatever has been copied
      (addRawSmsToQueue ((List.range (sizeT sz)).map output) (encoding &&& 0x2C) true s).mapError
        .queue
    else .ok s
  else .ok s

/-! ## The property -/

/-- The packet is taken for a cell broadcast. -/
def IsCellBroadcast (bytes : Bytes) (len : Nat) : Prop :=
  cellBroadcastHeaderSize ≤ len ∧ cbHeaderId bytes = tlvTransferMtMessage ∧
    cbMessageId bytes = 0x07

instance (bytes : Bytes) (len : Nat) : Decidable (IsCellBroadcast bytes len) :=
  inferInstanceAs (Decidable (_ ∧ _ ∧ _))

/-- The container has the 6 bytes before a page, and ends with the packet at the latest. -/
def ContainerInside (bytes : Bytes) (len : Nat) : Prop :=
  6 ≤ cbMessageLen bytes ∧ 24 + cbMessageLen bytes ≤ len

instance (bytes : Bytes) (len : Nat) : Decidable (ContainerInside bytes len) :=
  inferInstanceAs (Decidable (_ ∧ _))

/-- The bytes of the page. -/
def pageBytes (bytes : Bytes) : List UInt8 :=
  (List.range (cbMessageLen bytes - 6)).map fun k => bytes (30 + k)

/-- After the announcement, if there is one, up to 160 bytes of the page are queued as a raw
message, unless there are none, or the queue is full. -/
def PageQueued (callSimulation : Bool) (bytes : Bytes) (s next : SmsRuntime) : Prop :=
  ∃ announced, announcePage callSimulation (cbPageParam bytes) s = .ok announced ∧
    ((next = announced ∧ (announced.queuePos > 254 ∨ pageBytes bytes = [])) ∨
      ∃ i : Nat, announced.queuePos + 1 = i ∧ next.queuePos = i ∧
        (next.msg i).isRaw = true ∧ (next.msg i).isCb = true ∧
        (next.msg i).len = min 160 (pageBytes bytes).length ∧
        Holds (next.msg i).pkt 0 ((pageBytes bytes).take 160))

/-- In every state of the queue, nothing behind the packet is read, and the page is queued if the
container is in the packet, and nothing else. -/
def QueuesPages (bytes : Bytes) (len : Nat) : Prop :=
  ∀ callSimulation s, -1 ≤ s.queuePos →
    (interceptCbMessage callSimulation bytes len s).Ensures fun next =>
      if IsCellBroadcast bytes len ∧ ContainerInside bytes len then
        PageQueued callSimulation bytes s next
      else next = s

/-! ## What is read and copied -/

variable {bytes : Bytes} {len : Nat} {callSimulation : Bool} {s : SmsRuntime}

theorem ensures_read_byte {i : Nat} {post : UInt8 → Prop} :
    (readByte bytes len i).Ensures post ↔ i < len ∧ post (bytes i) := by
  unfold readByte
  by_cases h : i < len <;> simp [h, ensures_ok, ensures_error]

theorem ensures_read_all {indices : List Nat} {post : Unit → Prop} :
    (readAll bytes len indices).Ensures post ↔ (∀ i ∈ indices, i < len) ∧ post () := by
  induction indices with
  | nil => simp [readAll, ensures_ok]
  | cons i rest ih => simp [readAll, ensures_bind, ensures_read_byte, ih, and_assoc]

theorem ensures_copy_contents {n : Nat} {post : Bytes → Prop} :
    (copyContents bytes len n).Ensures post ↔
      30 + n ≤ len ∧ n ≤ maxCbMessageSize ∧ post fun k => if k < n then bytes (30 + k) else 0 := by
  unfold copyContents memcpy
  by_cases hread : 30 + n ≤ len
  · by_cases hfits : n ≤ maxCbMessageSize
    · simp [hread, hfits, ensures_map_error, ensures_ok]
    · simp [hread, hfits, ensures_map_error, ensures_error]
  · simp [hread, ensures_error]

/-- The number of bytes that are copied. -/
def copiedBytes (bytes : Bytes) : Nat :=
  if (cbMessageLen bytes : Int) - 6 > maxMessageSize then maxMessageSize
  else sizeT (cbMessageLen bytes - 6)

/-- The text that is handed to `add_raw_sms_to_queue`. -/
def handedBytes (bytes : Bytes) : List UInt8 :=
  (List.range (sizeT (cbMessageLen bytes - 6))).map fun k =>
    if k < copiedBytes bytes then bytes (30 + k) else 0

/-- A packet that is no cell broadcast is left alone. -/
theorem intercept_other (h : ¬ IsCellBroadcast bytes len) :
    interceptCbMessage callSimulation bytes len s = .ok s := by
  unfold interceptCbMessage
  by_cases hlen : cellBroadcastHeaderSize ≤ len
  · have hread : ∀ i < 28, readByte bytes len i = .ok (bytes i) := fun i hi =>
      if_pos (Nat.lt_of_lt_of_le hi hlen)
    rw [if_pos hlen, hread 13 (by decide), hread 21 (by decide)]
    simp only [bind, Except.bind]
    exact if_neg fun hids => h ⟨hlen, hids⟩
  · rw [if_neg hlen]

/-- What the interception of a cell broadcast comes to. -/
theorem ensures_intercept (h : IsCellBroadcast bytes len) {post : SmsRuntime → Prop} :
    (interceptCbMessage callSimulation bytes len s).Ensures post ↔
      30 ≤ len ∧ (announcePage callSimulation (cbPageParam bytes) s).Ensures fun announced =>
        30 + copiedBytes bytes ≤ len ∧ copiedBytes bytes ≤ maxCbMessageSize ∧
          (addRawSmsToQueue (handedBytes bytes) (cbEncoding bytes &&& 0x2C) true
            announced).Ensures post := by
  obtain ⟨hlen, hheader, hid⟩ := h
  have hids : bytes 13 = tlvTransferMtMessage ∧ bytes 21 = 0x07 := ⟨hheader, hid⟩
  have hmin : 28 ≤ len := hlen
  unfold interceptCbMessage
  rw [if_pos hlen]
  simp only [ensures_bind, ensures_read_byte, ensures_read_all, ensures_copy_contents,
    ensures_map_error, if_pos hids]
  have hfields : (∀ i ∈ [13, 14, 15, 24, 25, 26, 27, 28, 29], i < len) ↔ 30 ≤ len := by
    constructor
    · intro hall
      exact hall 29 (by simp)
    · intro hlong i hi
      simp only [List.mem_cons, List.not_mem_nil, or_false] at hi
      omega
  have hfirst : 13 < len ∧ 21 < len ∧ 22 < len ∧ 23 < len := by omega
  simp only [hfields, hfirst, true_and]
  refine and_congr_right fun hlong => ?_
  have hlast : 29 < len ∧ 28 < len := by omega
  simp only [hlast, true_and]
  rfl

/-! ## Which packets come through -/

/-- A page of at most 160 bytes is copied whole, and handed over as it is. -/
theorem handed_bytes_eq (hpos : 6 ≤ cbMessageLen bytes) (hmax : cbMessageLen bytes ≤ 166) :
    copiedBytes bytes = cbMessageLen bytes - 6 ∧ handedBytes bytes = pageBytes bytes := by
  have hsize : sizeT (cbMessageLen bytes - 6) = cbMessageLen bytes - 6 := by
    unfold sizeT
    omega
  have hcopied : copiedBytes bytes = cbMessageLen bytes - 6 := by
    unfold copiedBytes maxMessageSize
    rw [hsize, if_neg (by omega)]
  refine ⟨hcopied, ?_⟩
  unfold handedBytes pageBytes
  rw [hsize, hcopied]
  exact List.map_congr_left fun k hk => if_pos (List.mem_range.1 hk)

theorem length_page_bytes (bytes : Bytes) : (pageBytes bytes).length = cbMessageLen bytes - 6 := by
  rw [pageBytes, List.length_map, List.length_range]

theorem length_handed_bytes (bytes : Bytes) :
    (handedBytes bytes).length = sizeT (cbMessageLen bytes - 6) := by
  rw [handedBytes, List.length_map, List.length_range]

/-- The calls of `Sms.interceptCbMessage` are those that are made here. -/
theorem intercept_calls (h : IsCellBroadcast bytes len) :
    Sms.interceptCbMessage bytes len =
      (if cbPageParam bytes >>> 4 = 0x01 then
        [.message (ascii "WARNING: Incoming Cell Broadcast Message from the network").length]
      else []) ++ [.rawSms (handedBytes bytes).length (cbEncoding bytes &&& 0x2C) true] := by
  unfold IsCellBroadcast at h
  rw [Sms.interceptCbMessage, if_pos h, length_handed_bytes]

/-- The announcement fits an entry, so it is queued or refused. -/
theorem announce_page_ok (callSimulation : Bool) (pageParam : UInt8) (hpos : -1 ≤ s.queuePos) :
    ∃ announced, announcePage callSimulation pageParam s = .ok announced ∧
      s.queuePos ≤ announced.queuePos ∧ announced.queuePos ≤ s.queuePos + 1 := by
  have hlength : (ascii "WARNING: Incoming Cell Broadcast Message from the network").length = 57 :=
    length_ascii _
  unfold announcePage
  by_cases hfirst : pageParam >>> 4 = 0x01
  · have hshort : (ascii "WARNING: Incoming Cell Broadcast Message from the network").length ≤
        maxMessageSize := by
      rw [hlength]
      decide
    obtain ⟨announced, hok, -⟩ := add_message_changes_only_text callSimulation hshort hpos
    rw [if_pos hfirst]
    refine ⟨announced, hok, ?_⟩
    rw [addMessageToQueue, if_neg (by omega)] at hok
    cases callSimulation with
    | true =>
        cases hok
        omega
    | false =>
        obtain ⟨rfl, -⟩ | ⟨i, hi, -, -, -, rfl⟩ := add_to_queue_cases hok
        · omega
        · simp only
          omega
  · rw [if_neg hfirst]
    exact ⟨s, rfl, by omega, by omega⟩

/-- A page of at most 160 bytes is queued, or refused. -/
theorem page_queued_of_fits (callSimulation : Bool) (hpos : -1 ≤ s.queuePos)
    (hsix : 6 ≤ cbMessageLen bytes) (hmax : cbMessageLen bytes ≤ 166) :
    (announcePage callSimulation (cbPageParam bytes) s).Ensures fun announced =>
      (addRawSmsToQueue (handedBytes bytes) (cbEncoding bytes &&& 0x2C) true
        announced).Ensures (PageQueued callSimulation bytes s) := by
  obtain ⟨announced, hannounced, hlow, -⟩ :=
    announce_page_ok callSimulation (cbPageParam bytes) hpos
  obtain ⟨-, hhanded⟩ := handed_bytes_eq hsix hmax
  have hlength := length_page_bytes bytes
  have hshort : (pageBytes bytes).length ≤ maxMessageSize := by
    unfold maxMessageSize
    omega
  obtain ⟨next, hnext, -⟩ := add_to_queue_changes_only_text
    (raw_fields_attributes (pageBytes bytes) (cbEncoding bytes &&& 0x2C) true) hshort
    (Int.le_trans hpos hlow)
  refine ⟨announced, hannounced, next, ?_, announced, hannounced, ?_⟩
  · rw [hhanded]
    exact hnext
  obtain ⟨rfl, hrefused⟩ | ⟨i, hi, -, -, -, rfl⟩ := add_to_queue_cases hnext
  · exact .inl ⟨rfl, hrefused⟩
  · refine .inr ⟨i, hi, rfl, ?_⟩
    simp only [Function.update_self, rawFields, true_and, if_true]
    refine ⟨?_, ?_⟩
    · omega
    · rw [List.take_of_length_le (by omega)]
      exact holds_copy_text _ _

/-- For every packet, the page is queued whole in every state of the queue if and only if the packet
is no cell broadcast, or its container ends inside the packet and has the bytes before the page
and a page of at most 160 bytes. -/
theorem pages_queued_iff (bytes : Bytes) (len : Nat) :
    QueuesPages bytes len ↔
      (IsCellBroadcast bytes len → 6 ≤ cbMessageLen bytes ∧ cbMessageLen bytes ≤ 166 ∧
        24 + cbMessageLen bytes ≤ len) := by
  have hmessage := le16_lt bytes 22
  constructor
  · intro hqueues hcell
    -- an empty queue refuses nothing
    obtain ⟨-, announced, hannounced, hread, -, next, hnext, -⟩ :=
      (ensures_intercept hcell).1 (hqueues false start (by decide))
    obtain ⟨other, hother, -, hroom⟩ :=
      announce_page_ok false (cbPageParam bytes) (s := start) (by decide)
    cases hannounced.symm.trans hother
    have hempty : start.queuePos = -1 := rfl
    have hsize : sizeT (cbMessageLen bytes - 6) ≤ maxMessageSize := by
      rw [← length_handed_bytes]
      obtain ⟨-, hfull | hnone⟩ | ⟨-, -, -, -, hlength, -⟩ := add_to_queue_cases hnext
      · omega
      · rw [hnone]
        exact Nat.zero_le _
      · exact hlength
    obtain ⟨hsix, hmax⟩ := (size_t_le_iff hmessage).1 hsize
    have hcopied := (handed_bytes_eq hsix hmax).1
    exact ⟨hsix, hmax, by omega⟩
  · intro hfits callSimulation s hpos
    by_cases hcell : IsCellBroadcast bytes len
    · obtain ⟨hsix, hmax, hinside⟩ := hfits hcell
      have hcopied := (handed_bytes_eq hsix hmax).1
      obtain ⟨announced, hannounced, hqueued⟩ := page_queued_of_fits callSimulation hpos hsix hmax
      rw [ensures_intercept hcell]
      refine ⟨by omega, announced, hannounced, by omega, ?_, ?_⟩
      · unfold maxCbMessageSize
        omega
      · simp only [hcell, ContainerInside, hsix, hinside, and_self, if_true]
        exact hqueued
    · rw [intercept_other hcell, ensures_ok, if_neg fun h => hcell h.1]

/-- An event report with a page of this length in the container, of which `present` bytes follow. -/
def pagePacket (messageLen : UInt8) (present : List UInt8) : List UInt8 :=
  [0x01, 0x2B, 0x00, 0x80, 0x05, 0x01, 0x04, 0x02, 0x00, 0x01, 0x00, 0x1F, 0x00, 0x11, 0x18, 0x00,
    0x00, 0xFF, 0xFF, 0xFF, 0xFF, 0x07, messageLen, 0x00, 0x40, 0x00, 0x11, 0x1C, 0x00, 0x11] ++
    present

/-- The container of a page announces 22 bytes, and four follow. -/
theorem short_page_read_outside : ¬ ∀ bytes len, QueuesPages bytes len := by
  intro h
  let bytes := Bytes.ofList (pagePacket 22 [0xC8, 0x32, 0x9B, 0xFD])
  have hcell : IsCellBroadcast bytes 34 := by decide
  obtain ⟨-, announced, -, hread, -⟩ :=
    (ensures_intercept hcell).1 (h bytes 34 false start (by decide))
  exact absurd hread (by decide)

end OpenQti.Sms.CellBroadcast
