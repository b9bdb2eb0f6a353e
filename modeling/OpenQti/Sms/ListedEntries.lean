import OpenQti.Sms.Proxy
import OpenQti.Sms.TransactionIds

/-!
# Entries of a list of messages

The answer of the baseband to `WMS_LIST_ALL_MESSAGES` says how many messages it lists. The entries
are gone through twice: `check_wms_list_all_messages` logs them and keeps a copy of the packet,
and `retrieve_and_delete` later goes through the copy. The length of the packet is compared with
the size of the structure, in which the list has no entry, and the number of messages with
nothing. `list_stays_inside_iff` says for which packets the entries are nevertheless in the
packet.
-/

namespace OpenQti.Sms.Recovery

open Bytes Qmi

/-! ## The code -/

/-- `sizeof(struct sms_list_all_message_data)`. -/
def listedEntrySize : Nat := 5

/-- An entry of the list: where it is, and what is read from it. -/
structure ListedEntry where
  offset : Nat
  messageId : Nat
  messageType : UInt8
  deriving DecidableEq, Repr

/-- `pkt->data[i]`. -/
def listedEntry (bytes : Bytes) (i : Nat) : ListedEntry :=
  let offset := smsListAllRespSize + listedEntrySize * i
  ⟨offset, le32 bytes offset, bytes (offset + 4)⟩

/-- The loop of `check_wms_list_all_messages` from entry `i` on: the entries that are logged. -/
def inspectedEntries (bytes : Bytes) : Nat → Nat → List ListedEntry
  | 0, _ => []
  | remaining + 1, i => listedEntry bytes i :: inspectedEntries bytes remaining (i + 1)

/-- What `malloc(len)` and `memcpy` leave on the heap. -/
def heapCopy (bytes : Bytes) (len : Nat) (heap : Bytes) : Bytes :=
  fun k => if k < len then bytes k else heap k

/-- The simulated reply: the headers of the packet with other lengths, and an empty list. -/
def emptyAnswer (bytes : Bytes) : List UInt8 :=
  [bytes 0, 0x1a, 0x00, bytes 3, bytes 4, bytes 5, bytes 6, bytes 7, bytes 8, bytes 9, bytes 10,
    0x0e, 0x00, 0x02, 0x04, 0x00, 0x00, 0x00, 0x00, 0x00, 0x01, 0x04, 0x00, 0x00, 0x00, 0x00, 0x00]

/-- What `check_wms_list_all_messages` does. -/
structure ListCheck where
  needsBypass : Bool
  inspected : List ListedEntry
  answer : Option (List UInt8)
  runtime : StuckRuntime

/-- `check_wms_list_all_messages(source, bytes, len, adspfd, usbfd)`; `heap` is what the copy of the
packet is followed by. -/
def checkWmsListAllMessages (source : PacketSource) (bytes : Bytes) (len : Nat) (heap : Bytes)
    (s : StuckRuntime) : ListCheck :=
  if source = .fromDsp ∧ len ≥ smsListAllRespSize ∧ qmiMsgid bytes = wmsListAllMessages then
    let entries := inspectedEntries bytes (numberOfMessagesListed bytes) 0
    if numberOfMessagesListed bytes > 0 then
      ⟨true, entries, some (emptyAnswer bytes),
        { s with stuckMessageData := some (heapCopy bytes len heap), stuckMessageDataPending := true }⟩
    else ⟨false, entries, none, s⟩
  else ⟨false, [], none, s⟩

/-- The loop of `retrieve_and_delete` from entry `i` on: the entries that are read, up to a fault in
the round of the last one. -/
def retrievedEntries (bytes : Bytes) (exchanges : Nat → Exchange) :
    Nat → Nat → Nat → SmsRuntime → List ListedEntry
  | 0, _, _, _ => []
  | remaining + 1, i, transactionId, s =>
      listedEntry bytes i ::
        match retrieveRound (qmuxInstanceId bytes) transactionId (listedEntry bytes i).messageId
          (exchanges i) s with
        | .error _ => []
        | .ok round =>
            retrievedEntries bytes exchanges remaining (i + 1) round.nextTransactionId round.after

/-! ## The property -/

/-- The entries are in a packet of `len` bytes, and there are no more of them than it has room
for. -/
def EntriesInside (len : Nat) (entries : List ListedEntry) : Prop :=
  (∀ entry ∈ entries, entry.offset + listedEntrySize ≤ len) ∧
    entries.length ≤ (len - smsListAllRespSize) / listedEntrySize

/-- The entries that are logged are in the packet, and so are those that are read from its copy,
whatever the baseband does then. -/
def ListStaysInside (source : PacketSource) (bytes : Bytes) (len : Nat) (heap : Bytes)
    (s : StuckRuntime) : Prop :=
  let check := checkWmsListAllMessages source bytes len heap s
  EntriesInside len check.inspected ∧
    ∀ saved, check.needsBypass = true → check.runtime.stuckMessageData = some saved →
      ∀ exchanges later, EntriesInside len
        (retrievedEntries saved exchanges (numberOfMessagesListed saved) 0 1 later)

/-- A list of messages from the baseband has room for as many as it announces. -/
def AnnouncesWhatItHolds (source : PacketSource) (bytes : Bytes) (len : Nat) : Prop :=
  source = .fromDsp → smsListAllRespSize ≤ len → qmiMsgid bytes = wmsListAllMessages →
    smsListAllRespSize + listedEntrySize * numberOfMessagesListed bytes ≤ len

/-! ## The two loops -/

variable {source : PacketSource} {bytes saved heap : Bytes} {len : Nat} {s : StuckRuntime}

/-- The value returned is the one that the proxy looks at. -/
theorem check_list_needs_bypass :
    (checkWmsListAllMessages source bytes len heap s).needsBypass =
      Sms.checkWmsListAllMessages source bytes len := by
  unfold checkWmsListAllMessages Sms.checkWmsListAllMessages numberOfMessagesListed
  by_cases htaken :
      source = .fromDsp ∧ len ≥ smsListAllRespSize ∧ qmiMsgid bytes = wmsListAllMessages
  · obtain ⟨hsource, hlen, hid⟩ := htaken
    by_cases hcount : le32 bytes 23 > 0 <;> simp [hsource, hlen, hid, hcount]
  · rw [if_neg htaken]
    refine (decide_eq_false fun h => htaken ?_).symm
    exact ⟨h.1, h.2.1, h.2.2.1⟩

theorem length_inspected_entries (bytes : Bytes) (remaining i : Nat) :
    (inspectedEntries bytes remaining i).length = remaining := by
  induction remaining generalizing i with
  | zero => rfl
  | succ remaining ih => rw [inspectedEntries, List.length_cons, ih]

/-- An entry that is logged begins before the end of the list. -/
theorem offset_of_mem_inspected {remaining i : Nat} {entry : ListedEntry}
    (h : entry ∈ inspectedEntries bytes remaining i) :
    entry.offset + listedEntrySize ≤ smsListAllRespSize + listedEntrySize * (i + remaining) := by
  induction remaining generalizing i with
  | zero => cases h
  | succ remaining ih =>
      cases h with
      | head =>
          simp only [listedEntry, listedEntrySize]
          omega
      | tail _ hrest =>
          have hoffset := ih hrest
          rwa [Nat.add_right_comm i 1] at hoffset

/-- The entries of the second loop are the first ones of the list. -/
theorem retrieved_entries_initial (exchanges : Nat → Exchange) (remaining i transactionId : Nat)
    (later : SmsRuntime) :
    retrievedEntries bytes exchanges remaining i transactionId later <+:
      inspectedEntries bytes remaining i := by
  induction remaining generalizing i transactionId later with
  | zero => exact List.nil_prefix
  | succ remaining ih =>
      rw [retrievedEntries, inspectedEntries, List.cons_prefix_cons]
      refine ⟨rfl, ?_⟩
      cases retrieveRound (qmuxInstanceId bytes) transactionId (listedEntry bytes i).messageId
          (exchanges i) later with
      | error fault => exact List.nil_prefix
      | ok round => exact ih _ _ _

/-- The rounds of `retrieve_and_delete` are for the entries it reads, but for one that faults. -/
theorem rounds_of_retrieved_entries (exchanges : Nat → Exchange)
    (remaining i transactionId : Nat) (later : SmsRuntime) :
    (retrieveLoop bytes exchanges remaining i transactionId later).1.map Round.messageId <+:
      (retrievedEntries bytes exchanges remaining i transactionId later).map
        ListedEntry.messageId := by
  induction remaining generalizing i transactionId later with
  | zero => exact List.prefix_refl _
  | succ remaining ih =>
      have hid : (listedEntry bytes i).messageId = listedMessageId bytes i := rfl
      rw [retrievedEntries, retrieveLoop, hid]
      cases hround : retrieveRound (qmuxInstanceId bytes) transactionId (listedMessageId bytes i)
          (exchanges i) later with
      | error fault => exact List.nil_prefix
      | ok round =>
          obtain ⟨⟨hmessage, -, -⟩, -⟩ := retrieve_round_cases hround
          rw [List.map_cons, List.map_cons, List.cons_prefix_cons]
          exact ⟨hmessage, ih _ _ _⟩

/-- A list with room for all that it announces is gone through inside the packet, and no other
is. -/
theorem entries_inside_iff (hlen : smsListAllRespSize ≤ len) (count : Nat) :
    EntriesInside len (inspectedEntries bytes count 0) ↔
      smsListAllRespSize + listedEntrySize * count ≤ len := by
  have hpos : 0 < listedEntrySize := by decide
  unfold EntriesInside
  rw [length_inspected_entries, Nat.le_div_iff_mul_le hpos, Nat.mul_comm count]
  constructor
  · rintro ⟨-, hcount⟩
    omega
  · intro hroom
    refine ⟨fun entry hentry => ?_, by omega⟩
    have hoffset := offset_of_mem_inspected hentry
    rw [Nat.zero_add] at hoffset
    exact hoffset.trans hroom

theorem EntriesInside.of_initial {entries all : List ListedEntry} (h : EntriesInside len all)
    (hinitial : entries <+: all) : EntriesInside len entries :=
  ⟨fun entry hentry => h.1 entry (hinitial.mem hentry), hinitial.length_le.trans h.2⟩

/-- The copy has the number of messages of the packet. -/
theorem number_listed_heap_copy (hlen : smsListAllRespSize ≤ len) :
    numberOfMessagesListed (heapCopy bytes len heap) = numberOfMessagesListed bytes := by
  have hbyte : ∀ k < smsListAllRespSize, heapCopy bytes len heap k = bytes k :=
    fun k hk => if_pos (Nat.lt_of_lt_of_le hk hlen)
  have hsize : smsListAllRespSize = 27 := rfl
  simp only [numberOfMessagesListed, le32, le16]
  rw [hbyte _ (by omega), hbyte _ (by omega), hbyte _ (by omega), hbyte _ (by omega)]

/-- The entries of a list are read inside the packet, by both loops, exactly if the packet is no
list of messages from the baseband or has room for as many as it announces. -/
theorem list_stays_inside_iff (source : PacketSource) (bytes : Bytes) (len : Nat) (heap : Bytes)
    (s : StuckRuntime) :
    ListStaysInside source bytes len heap s ↔ AnnouncesWhatItHolds source bytes len := by
  unfold ListStaysInside AnnouncesWhatItHolds checkWmsListAllMessages
  by_cases htaken :
      source = .fromDsp ∧ len ≥ smsListAllRespSize ∧ qmiMsgid bytes = wmsListAllMessages
  · obtain ⟨hsource, hlen, hid⟩ := htaken
    simp only [hsource, hlen, hid, and_self, if_true, true_implies]
    have hinside : EntriesInside len (inspectedEntries bytes (numberOfMessagesListed bytes) 0) ↔ _ :=
      entries_inside_iff hlen _
    by_cases hcount : numberOfMessagesListed bytes > 0
    · simp only [if_pos hcount, hinside]
      refine and_iff_left_of_imp fun hroom saved _ hsaved exchanges later => ?_
      cases hsaved
      rw [number_listed_heap_copy hlen]
      exact ((entries_inside_iff hlen _).2 hroom).of_initial (retrieved_entries_initial ..)
    · simp only [if_neg hcount, hinside]
      exact and_iff_left nofun
  · rw [if_neg htaken]
    refine iff_of_true ⟨⟨nofun, Nat.zero_le _⟩, nofun⟩ fun hsource hlen hid => ?_
    exact absurd ⟨hsource, hlen, hid⟩ htaken

/-- A packet of the baseband that announces one message and ends before it. -/
def announcedOnly : Bytes :=
  ofList ([0x01, 0x1a, 0x00, 0x80, 0x05, 0x01, 0x02, 0x01, 0x00, 0x31, 0x00, 0x0e, 0x00, 0x02, 0x04] ++
    List.replicate 5 0 ++ [0x01, 0x04, 0x00, 0x01])

/-- The entry is behind the packet. -/
theorem announced_entry_outside :
    ¬ ∀ source bytes len heap s, ListStaysInside source bytes len heap s := by
  intro h
  obtain ⟨⟨-, hcount⟩, -⟩ :=
    h .fromDsp announcedOnly 27 (fun _ => 0) ⟨start, none, false⟩
  revert hcount
  decide

end OpenQti.Sms.Recovery
