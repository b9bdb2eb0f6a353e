import OpenQti.Config.Settings
import OpenQti.Qmi.Client
import OpenQti.Sms.MessagePacket
import OpenQti.Wds.Connection

/-!
# Requests for a connection

`wds_attempt_to_connect` and `wds_attempt_to_connect_ims` compute the size of a request from the
settings, allocate it, and lay down the headers and the TLVs one behind the other.
`connection_request_encoded` says that the request of the first one is well-formed and carries the
settings. The second one takes the size from the settings of the internal network and the texts from
those of the IMS network; `ims_request_encoded_iff` says when the two agree.
-/

namespace OpenQti.Wds

open Buffer Bytes Config Qmi
open Sms (QmiPacket QmuxPacket le16_of_holds littleEndian little_endian_of_nat length_little_endian)

/-! ## The settings -/

/-- The texts by which a network is reached. -/
structure NetworkTexts where
  apnName : List UInt8
  username : List UInt8
  pass : List UInt8

/-- `get_internal_network_apn_name()`, `get_internal_network_username()` and
`get_internal_network_pass()`. -/
def internalNetwork (settings : ConfigPrototype) : NetworkTexts where
  apnName := settings.text .apnAddr
  username := settings.text .apnUsername
  pass := settings.text .apnPassword

/-- `get_ims_network_apn_name()`, `get_ims_network_username()` and `get_ims_network_pass()`. -/
def imsNetwork (settings : ConfigPrototype) : NetworkTexts where
  apnName := settings.text .imsApnAddr
  username := settings.text .imsApnUsername
  pass := settings.text .imsApnPassword

/-- `get_internal_network_auth_method()`. -/
def getInternalNetworkAuthMethod (settings : ConfigPrototype) : UInt8 :=
  settings.number .apnAuthMethod

/-- Settings whose texts fit into their arrays, with their terminators. -/
structure StoredSettings where
  settings : ConfigPrototype
  fits : ∀ field, (settings.text field).length < textSize field

/-! ## The requests -/

/-- `QMI_SERVICE_WDS`. -/
def qmiServiceWds : UInt8 := 0x01

/-- `WDS_APN_TYPE_INTERNET` and `WDS_APN_TYPE_IMS`. -/
inductive ApnType where
  | internet
  | ims
  deriving DecidableEq, Repr

def ApnType.code : ApnType → UInt8
  | .internet => 1
  | .ims => 2

inductive StartFault where
  /-- There is no room for a header, and `-EINVAL` is returned. -/
  | header
  /-- A store behind the packet. -/
  | overflow (fault : Overflow)
  | client (fault : ClientFault)
  deriving DecidableEq, Repr

/-- `sizeof(struct qmux_packet) + sizeof(struct qmi_packet)`. -/
def headerSize : Nat := 6 + 7

/-- `pkt_len`: the headers, `struct apn_config`, `struct apn_type`, and, if there is an
authentication, `struct wds_auth_pref`, `struct wds_auth_username` and `struct wds_auth_password`;
then `struct ip_family_preference`, `struct call_type` and `struct block_in_roaming`. -/
def startPktLen (authMethod : UInt8) (network : NetworkTexts) : Nat :=
  headerSize + 3 + network.apnName.length + 7 +
    (if authMethod ≠ 0 then 4 + 3 + 3 + network.username.length + network.pass.length else 0) +
    4 + 4 + 4

/-- Stores to the packet. -/
def store (pktLen : Nat) (pkt : Bytes) (offset : Nat) (data : List UInt8) :
    Except StartFault Bytes :=
  match putAll pktLen pkt offset data with
  | .ok pkt => .ok pkt
  | .error fault => .error (.overflow fault)

/-- `build_qmux_header(output, output_len, control, service, instance)`. -/
def buildQmuxHeader (pktLen : Nat) (pkt : Bytes) (control service instanceId : UInt8) :
    Except StartFault Bytes :=
  if pktLen < 6 then .error .header
  else store pktLen pkt 0
    (QmuxPacket.encode ⟨0x01, UInt16.ofNat (pktLen - 1), control, service, instanceId⟩)

/-- `build_qmi_header(output, output_len, ctlid, transaction_id, message_id)`. -/
def buildQmiHeader (pktLen : Nat) (pkt : Bytes) (ctlid : UInt8) (transactionId messageId : UInt16) :
    Except StartFault Bytes :=
  if pktLen < headerSize then .error .header
  else store pktLen pkt 6
    (QmiPacket.encode ⟨ctlid, transactionId, messageId, UInt16.ofNat (pktLen - 6 - 7)⟩)

/-- The packet and `curr_offset`. -/
structure PacketWriter where
  pkt : Bytes
  currOffset : Nat

/-- A TLV is laid down at `curr_offset`: its `type`, its `len` and its value. -/
def PacketWriter.putTlv (pktLen : Nat) (type : UInt8) (value : List UInt8) (w : PacketWriter) :
    Except StartFault PacketWriter := do
  let pkt ← store pktLen w.pkt w.currOffset
    (type :: littleEndian (UInt16.ofNat value.length) ++ value)
  .ok ⟨pkt, w.currOffset + (3 + value.length)⟩

/-- What the two functions share: the size is that of a request with the texts of one network, and
the texts of another one are laid down. -/
def startRequest (authMethod : UInt8) (sized written : NetworkTexts) (apnType : ApnType) :
    Except StartFault (List UInt8) := do
  let pktLen := startPktLen authMethod sized
  let pkt ← buildQmuxHeader pktLen (fun _ => 0) 0x00 qmiServiceWds 0
  let pkt ← buildQmiHeader pktLen pkt 0x00 0 (UInt16.ofNat WdsMsgid.startNetwork.code)
  let w ← PacketWriter.putTlv pktLen 0x14 written.apnName ⟨pkt, headerSize⟩
  let w ←
    if authMethod ≠ 0 then do
      let w ← w.putTlv pktLen 0x16 [authMethod]
      let w ← w.putTlv pktLen 0x17 written.username
      w.putTlv pktLen 0x18 written.pass
    else .ok w
  let w ← w.putTlv pktLen 0x19 [4]
  let w ← w.putTlv pktLen 0x35 [1]
  let w ← w.putTlv pktLen 0x38 [apnType.code, 0, 0, 0]
  let w ← w.putTlv pktLen 0x39 [0]
  .ok ((List.range pktLen).map w.pkt)

/-- The request is left with the internal client. -/
def queueRequest (client : InternalQmiClient) (request : Except StartFault (List UInt8)) :
    Except StartFault InternalQmiClient := do
  let pkt ← request
  match addPendingMessage client qmiServiceWds pkt with
  | .ok (_, client) => .ok client
  | .error fault => .error (.client fault)

/-- The packet of `wds_attempt_to_connect()`. -/
def connectRequest (settings : ConfigPrototype) : Except StartFault (List UInt8) :=
  startRequest (getInternalNetworkAuthMethod settings) (internalNetwork settings)
    (internalNetwork settings) .internet

/-- `wds_attempt_to_connect()`. -/
def wdsAttemptToConnect (settings : ConfigPrototype) (client : InternalQmiClient) :
    Except StartFault InternalQmiClient :=
  queueRequest client (connectRequest settings)

/-- The packet of `wds_attempt_to_connect_ims()`. -/
def imsRequest (settings : ConfigPrototype) : Except StartFault (List UInt8) :=
  startRequest (getInternalNetworkAuthMethod settings) (internalNetwork settings)
    (imsNetwork settings) .ims

/-- `wds_attempt_to_connect_ims()`. -/
def wdsAttemptToConnectIms (settings : ConfigPrototype) (client : InternalQmiClient) :
    Except StartFault InternalQmiClient :=
  queueRequest client (imsRequest settings)

/-! ## The properties -/

/-- The texts fit into the arrays of the settings. -/
structure NetworkTexts.Fit (network : NetworkTexts) : Prop where
  apnName : network.apnName.length ≤ 127
  username : network.username.length ≤ 127
  pass : network.pass.length ≤ 127

theorem StoredSettings.internal_fit (stored : StoredSettings) :
    (internalNetwork stored.settings).Fit :=
  ⟨Nat.le_of_lt_succ (stored.fits _), Nat.le_of_lt_succ (stored.fits _),
    Nat.le_of_lt_succ (stored.fits _)⟩

theorem StoredSettings.ims_fit (stored : StoredSettings) : (imsNetwork stored.settings).Fit :=
  ⟨Nat.le_of_lt_succ (stored.fits _), Nat.le_of_lt_succ (stored.fits _),
    Nat.le_of_lt_succ (stored.fits _)⟩

section Tlvs

variable (authMethod : UInt8) {network : NetworkTexts} (hfit : network.Fit) (apnType : ApnType)

/-- The TLVs of the authentication. -/
def authTlvs : List Tlv :=
  [⟨0x16, [authMethod], by simp⟩, ⟨0x17, network.username, hfit.username.trans_lt (by decide)⟩,
    ⟨0x18, network.pass, hfit.pass.trans_lt (by decide)⟩]

/-- The TLVs with fixed values. -/
def fixedTlvs : List Tlv :=
  [⟨0x19, [4], by decide⟩, ⟨0x35, [1], by decide⟩, ⟨0x38, [apnType.code, 0, 0, 0], by simp⟩,
    ⟨0x39, [0], by decide⟩]

/-- The TLVs of a request. -/
def startTlvs : List Tlv :=
  ⟨0x14, network.apnName, hfit.apnName.trans_lt (by decide)⟩ ::
    ((if authMethod ≠ 0 then authTlvs authMethod hfit else []) ++ fixedTlvs apnType)

end Tlvs

/-- The look-up of a TLV gives this value. -/
def Gives (pkt : List UInt8) (tlvid : UInt8) (value : List UInt8) : Prop :=
  ∃ offset, getTlvOffsetById (ofList pkt) pkt.length tlvid = some offset ∧ offset ≠ 0 ∧
    le16 (ofList pkt) (offset + 1) = value.length ∧ Holds (ofList pkt) (offset + 3) value

/-- The look-up of a TLV finds nothing. -/
def Lacks (pkt : List UInt8) (tlvid : UInt8) : Prop :=
  getTlvOffsetById (ofList pkt) pkt.length tlvid = some 0

/-- What the TLVs of a request give. -/
structure Carries (authMethod : UInt8) (network : NetworkTexts) (apnType : ApnType)
    (pkt : List UInt8) : Prop where
  apnName : Gives pkt 0x14 network.apnName
  authenticated : authMethod ≠ 0 →
    Gives pkt 0x16 [authMethod] ∧ Gives pkt 0x17 network.username ∧ Gives pkt 0x18 network.pass
  unauthenticated : authMethod = 0 → Lacks pkt 0x16 ∧ Lacks pkt 0x17 ∧ Lacks pkt 0x18
  ipFamily : Gives pkt 0x19 [4]
  callType : Gives pkt 0x35 [1]
  apnType : Gives pkt 0x38 [apnType.code, 0, 0, 0]
  blockInRoaming : Gives pkt 0x39 [0]

/-- The packet is a request with the settings of the internal network. -/
structure ConnectionEncoded (stored : StoredSettings) (pkt : List UInt8) : Prop where
  filled : WellFormed (ofList pkt) pkt.length
    (startTlvs (getInternalNetworkAuthMethod stored.settings) stored.internal_fit .internet)
  qmuxLength : le16 (ofList pkt) 1 = pkt.length - 1
  qmiLength : le16 (ofList pkt) 11 = pkt.length - 13
  carries : Carries (getInternalNetworkAuthMethod stored.settings)
    (internalNetwork stored.settings) .internet pkt

/-- A packet is in the slot of the service. -/
def Queues (connect : InternalQmiClient → Except StartFault InternalQmiClient)
    (pkt : List UInt8) : Prop :=
  ∀ client, (client.services qmiServiceWds.toNat).hasPendingMessage = false →
    ∃ next, connect client = .ok next ∧
      (next.services qmiServiceWds.toNat).message = some pkt ∧
      (next.services qmiServiceWds.toNat).hasPendingMessage = true

/-- The packet is a request with the settings of the IMS network, the credentials included. -/
structure ImsEncoded (stored : StoredSettings) (pkt : List UInt8) : Prop where
  filled : WellFormed (ofList pkt) pkt.length
    (startTlvs (getInternalNetworkAuthMethod stored.settings) stored.ims_fit .ims)
  apnName : Gives pkt 0x14 (imsNetwork stored.settings).apnName
  username : Gives pkt 0x17 (imsNetwork stored.settings).username
  pass : Gives pkt 0x18 (imsNetwork stored.settings).pass

/-- All stores are inside the packet, and it is queued and has the settings of the IMS network. -/
def ImsRequestEncoded (stored : StoredSettings) : Prop :=
  ∃ pkt, imsRequest stored.settings = .ok pkt ∧
    Queues (wdsAttemptToConnectIms stored.settings) pkt ∧ ImsEncoded stored pkt

/-- The same, with credentials only if there is an authentication. -/
def ImsRequestCarries (stored : StoredSettings) : Prop :=
  ∃ pkt, imsRequest stored.settings = .ok pkt ∧
    Queues (wdsAttemptToConnectIms stored.settings) pkt ∧
    WellFormed (ofList pkt) pkt.length
      (startTlvs (getInternalNetworkAuthMethod stored.settings) stored.ims_fit .ims) ∧
    Carries (getInternalNetworkAuthMethod stored.settings) (imsNetwork stored.settings) .ims pkt

/-- The bytes of the three texts. -/
def NetworkTexts.total (network : NetworkTexts) : Nat :=
  network.apnName.length + network.username.length + network.pass.length

/-! ## Laying down TLVs -/

/-- The bytes that have been laid down, and zeros behind them. -/
def writerAt (bytes : List UInt8) : PacketWriter := ⟨ofList bytes, bytes.length⟩

variable {pktLen : Nat} {bytes : List UInt8}

theorem store_ofList (bytes data : List UInt8) (hinside : bytes.length ≤ pktLen) :
    store pktLen (ofList bytes) bytes.length data =
      if bytes.length + data.length ≤ pktLen then .ok (ofList (bytes ++ data))
      else .error (.overflow ⟨pktLen, pktLen⟩) := by
  rw [store, put_all_ofList bytes data hinside]
  split_ifs <;> rfl

/-- A TLV is appended, if it fits. -/
theorem put_tlv_writer_at (tlv : Tlv) (hinside : bytes.length ≤ pktLen) :
    (writerAt bytes).putTlv pktLen tlv.id tlv.value =
      if bytes.length + tlv.size ≤ pktLen then .ok (writerAt (bytes ++ tlv.encode))
      else .error (.overflow ⟨pktLen, pktLen⟩) := by
  have hencode : tlv.id :: littleEndian (UInt16.ofNat tlv.value.length) ++ tlv.value =
      tlv.encode := by
    rw [little_endian_of_nat tlv.length_lt]
    rfl
  rw [PacketWriter.putTlv, hencode, writerAt, store_ofList _ _ hinside, Tlv.length_encode]
  split_ifs
  · rw [writerAt, List.length_append, Tlv.length_encode]
    rfl
  · rfl

/-- Several TLVs are appended, if they fit. -/
theorem put_tlvs_writer_at (bytes : List UInt8) (tlvs : List Tlv)
    (hinside : bytes.length ≤ pktLen) :
    tlvs.foldlM (fun w tlv => PacketWriter.putTlv pktLen tlv.id tlv.value w) (writerAt bytes) =
      if bytes.length + (encodeTlvs tlvs).length ≤ pktLen then
        .ok (writerAt (bytes ++ encodeTlvs tlvs))
      else .error (.overflow ⟨pktLen, pktLen⟩) := by
  induction tlvs generalizing bytes with
  | nil => simp [encodeTlvs, hinside, pure, Except.pure]
  | cons tlv rest ih =>
      rw [List.foldlM_cons, put_tlv_writer_at tlv hinside, length_encode_tlvs_cons]
      by_cases hfits : bytes.length + tlv.size ≤ pktLen
      · have hlength : (bytes ++ tlv.encode).length = bytes.length + tlv.size := by
          rw [List.length_append, Tlv.length_encode]
        have hinside : (bytes ++ tlv.encode).length ≤ pktLen := by omega
        have hrest := ih (bytes ++ tlv.encode) hinside
        rw [hlength, List.append_assoc, ← encode_tlvs_cons, Nat.add_assoc] at hrest
        rw [if_pos hfits]
        exact hrest
      · rw [if_neg hfits, if_neg (by omega)]
        rfl

/-! ## The packets -/

/-- The two headers. -/
def startHeader (pktLen : Nat) : List UInt8 :=
  QmuxPacket.encode ⟨0x01, UInt16.ofNat (pktLen - 1), 0x00, qmiServiceWds, 0⟩ ++
    QmiPacket.encode ⟨0x00, 0, UInt16.ofNat WdsMsgid.startNetwork.code,
      UInt16.ofNat (pktLen - 6 - 7)⟩

variable {authMethod : UInt8} {network sized : NetworkTexts} {apnType : ApnType}

/-- The size that is computed is that of a request with the same texts. -/
theorem length_start_tlvs (authMethod : UInt8) (hfit : network.Fit) (apnType : ApnType) :
    headerSize + (encodeTlvs (startTlvs authMethod hfit apnType)).length =
      startPktLen authMethod network := by
  rw [startTlvs, startPktLen, length_encode_tlvs_cons]
  split_ifs
  · simp [authTlvs, fixedTlvs, encodeTlvs, Tlv.length_encode, Tlv.size]
    omega
  · simp [fixedTlvs, encodeTlvs, Tlv.length_encode, Tlv.size]
    omega

theorem header_size_le (authMethod : UInt8) (network : NetworkTexts) :
    headerSize + 4 ≤ startPktLen authMethod network := by
  unfold startPktLen
  omega

/-- The TLVs are laid down in the order of the list. -/
theorem start_request_fold (hfit : network.Fit) :
    startRequest authMethod sized network apnType =
      ((buildQmuxHeader (startPktLen authMethod sized) (fun _ => 0) 0x00 qmiServiceWds 0 >>=
        fun pkt => buildQmiHeader (startPktLen authMethod sized) pkt 0x00 0
          (UInt16.ofNat WdsMsgid.startNetwork.code)) >>=
        fun pkt => (startTlvs authMethod hfit apnType).foldlM
          (fun w tlv => PacketWriter.putTlv (startPktLen authMethod sized) tlv.id tlv.value w)
          ⟨pkt, headerSize⟩) >>=
        fun w => .ok ((List.range (startPktLen authMethod sized)).map w.pkt) := by
  unfold startRequest startTlvs
  by_cases hauth : authMethod ≠ 0
  · simp only [if_pos hauth, authTlvs, fixedTlvs, List.cons_append, List.nil_append,
      List.foldlM_cons, List.foldlM_nil, bind_assoc, pure_bind]
  · simp only [if_neg hauth, fixedTlvs, List.nil_append, List.foldlM_cons, List.foldlM_nil,
      bind_assoc, pure_bind]
    rfl

theorem build_headers_eq (hlong : 13 ≤ pktLen) :
    (buildQmuxHeader pktLen (fun _ => 0) 0x00 qmiServiceWds 0 >>= fun pkt =>
      buildQmiHeader pktLen pkt 0x00 0 (UInt16.ofNat WdsMsgid.startNetwork.code)) =
      .ok (ofList (startHeader pktLen)) := by
  have hempty : (fun _ => 0 : Bytes) = ofList [] := by
    funext i
    simp [ofList]
  have hqmux : buildQmuxHeader pktLen (fun _ => 0) 0x00 qmiServiceWds 0 =
      .ok (ofList (QmuxPacket.encode
        ⟨0x01, UInt16.ofNat (pktLen - 1), 0x00, qmiServiceWds, 0⟩)) := by
    have hstore := store_ofList []
      (QmuxPacket.encode ⟨0x01, UInt16.ofNat (pktLen - 1), 0x00, qmiServiceWds, 0⟩)
      (Nat.zero_le pktLen)
    rw [if_pos (by simp [Sms.length_qmux_packet]; omega), List.nil_append] at hstore
    rw [buildQmuxHeader, if_neg (by omega), hempty]
    exact hstore
  have hqmi := store_ofList
    (QmuxPacket.encode ⟨0x01, UInt16.ofNat (pktLen - 1), 0x00, qmiServiceWds, 0⟩)
    (QmiPacket.encode ⟨0x00, 0, UInt16.ofNat WdsMsgid.startNetwork.code,
      UInt16.ofNat (pktLen - 6 - 7)⟩) (by rw [Sms.length_qmux_packet]; omega : _ ≤ pktLen)
  rw [if_pos (by rw [Sms.length_qmux_packet, Sms.length_qmi_packet]; omega)] at hqmi
  rw [hqmux]
  show buildQmiHeader _ _ _ _ _ = _
  rw [buildQmiHeader, if_neg (by unfold headerSize; omega)]
  exact hqmi

theorem length_start_header (pktLen : Nat) : (startHeader pktLen).length = headerSize := rfl

/-- A request is the headers and its TLVs, if they fit. -/
theorem start_request_eq (hfit : network.Fit) :
    startRequest authMethod sized network apnType =
      if startPktLen authMethod network ≤ startPktLen authMethod sized then
        .ok ((List.range (startPktLen authMethod sized)).map
          (ofList (startHeader (startPktLen authMethod sized) ++
            encodeTlvs (startTlvs authMethod hfit apnType))))
      else
        .error (.overflow ⟨startPktLen authMethod sized, startPktLen authMethod sized⟩) := by
  have hlong := header_size_le authMethod sized
  rw [start_request_fold hfit, ← length_start_tlvs authMethod hfit apnType]
  generalize startPktLen authMethod sized = pktLen at hlong
  have hinside : (startHeader pktLen).length ≤ pktLen := by
    rw [length_start_header]
    omega
  have hstart : writerAt (startHeader pktLen) = ⟨ofList (startHeader pktLen), headerSize⟩ := rfl
  have htlvs := put_tlvs_writer_at _ (startTlvs authMethod hfit apnType) hinside
  rw [hstart, length_start_header] at htlvs
  rw [build_headers_eq (by unfold headerSize at hlong; omega)]
  simp only [bind, Except.bind, htlvs]
  split_ifs
  · rfl
  · rfl

/-- A request that takes as many bytes as have been allocated. -/
theorem start_request_exact (hfit : network.Fit)
    (hexact : startPktLen authMethod network = startPktLen authMethod sized) :
    startRequest authMethod sized network apnType =
      .ok (startHeader (startPktLen authMethod network) ++
        encodeTlvs (startTlvs authMethod hfit apnType)) := by
  have hlength : (startHeader (startPktLen authMethod sized) ++
      encodeTlvs (startTlvs authMethod hfit apnType)).length = startPktLen authMethod sized := by
    rw [List.length_append, length_start_header, length_start_tlvs, hexact]
  rw [start_request_eq hfit, if_pos (Nat.le_of_eq hexact), hexact]
  refine congrArg Except.ok (List.ext_getElem (by simpa using hlength.symm) fun i hi hlt => ?_)
  rw [List.getElem_map, List.getElem_range, ofList, List.getD_eq_getElem?_getD,
    List.getElem?_eq_getElem hlt, Option.getD_some]

/-! ## What the packets hold -/

section Packet

variable {pkt : List UInt8} {tlvs : List Tlv} {tlvid : UInt8} {tlv : Tlv}

/-- A TLV of a well-formed packet is looked up. -/
theorem gives_of_find (h : WellFormed (ofList pkt) pkt.length tlvs) (hmin : 17 ≤ pkt.length)
    (hmax : pkt.length ≤ 65535) (hfind : tlvs.find? (fun tlv => tlv.id = tlvid) = some tlv) :
    Gives pkt tlvid tlv.value := by
  obtain ⟨hle, rest, hholds⟩ := firstOffset_holds h.holds hfind
  obtain ⟨-, hlength, hvalue, -⟩ := holds_encode_tlvs_cons hholds
  refine ⟨_, get_tlv_offset_of_well_formed h hmin hmax tlvid, ?_, hlength, hvalue⟩
  unfold encapsulatedQmiPacketSize at hle
  omega

/-- A TLV that a well-formed packet does not have is not found. -/
theorem lacks_of_find (h : WellFormed (ofList pkt) pkt.length tlvs) (hmin : 17 ≤ pkt.length)
    (hmax : pkt.length ≤ 65535) (hfind : tlvs.find? (fun tlv => tlv.id = tlvid) = none) :
    Lacks pkt tlvid := by
  rw [Lacks, get_tlv_offset_of_well_formed h hmin hmax tlvid, firstOffset_of_none hfind]

theorem Gives.not_lacks {value : List UInt8} (h : Gives pkt tlvid value) : ¬ Lacks pkt tlvid := by
  intro hlacks
  obtain ⟨offset, hfound, hne, -⟩ := h
  rw [Lacks] at hlacks
  rw [hlacks, Option.some.injEq] at hfound
  exact hne hfound.symm

end Packet

/-- The bytes of a request whose size is the one that has been allocated. -/
def requestBytes (authMethod : UInt8) (hfit : network.Fit) (apnType : ApnType) : List UInt8 :=
  startHeader (startPktLen authMethod network) ++ encodeTlvs (startTlvs authMethod hfit apnType)

theorem length_request_bytes (authMethod : UInt8) (hfit : network.Fit) (apnType : ApnType) :
    (requestBytes authMethod hfit apnType).length = startPktLen authMethod network := by
  rw [requestBytes, List.length_append, length_start_header, length_start_tlvs]

theorem start_pkt_len_bounds (authMethod : UInt8) (hfit : network.Fit) :
    17 ≤ startPktLen authMethod network ∧ startPktLen authMethod network ≤ 65535 := by
  obtain ⟨hname, huser, hpass⟩ := hfit
  unfold startPktLen headerSize
  split_ifs <;> omega

/-- Its TLVs fill it. -/
theorem well_formed_request (authMethod : UInt8) (hfit : network.Fit) (apnType : ApnType) :
    WellFormed (ofList (requestBytes authMethod hfit apnType))
      (requestBytes authMethod hfit apnType).length (startTlvs authMethod hfit apnType) := by
  have hholds := holds_ofList (requestBytes authMethod hfit apnType)
  rw [length_request_bytes, ← length_start_tlvs authMethod hfit apnType]
  unfold requestBytes at hholds ⊢
  rw [holds_append, length_start_header] at hholds
  exact ⟨hholds.2, rfl⟩

/-- The two lengths in its headers. -/
theorem lengths_request (authMethod : UInt8) (hfit : network.Fit) (apnType : ApnType) :
    le16 (ofList (requestBytes authMethod hfit apnType)) 1 =
        (requestBytes authMethod hfit apnType).length - 1 ∧
      le16 (ofList (requestBytes authMethod hfit apnType)) 11 =
        (requestBytes authMethod hfit apnType).length - 13 := by
  have hholds := holds_ofList (requestBytes authMethod hfit apnType)
  obtain ⟨hmin, hmax⟩ := start_pkt_len_bounds authMethod hfit
  rw [length_request_bytes]
  generalize ofList (requestBytes authMethod hfit apnType) = bytes at hholds ⊢
  generalize hlen : startPktLen authMethod network = pktLen at hmin hmax
  rw [requestBytes, hlen, holds_append, startHeader, holds_append, Sms.length_qmux_packet,
    QmuxPacket.encode, QmiPacket.encode] at hholds
  obtain ⟨⟨hqmux, hqmi⟩, -⟩ := hholds
  simp only [List.cons_append, holds_cons, holds_append, length_little_endian,
    List.append_assoc] at hqmux hqmi
  have hpacket : le16 bytes 1 = (UInt16.ofNat (pktLen - 1)).toNat := le16_of_holds hqmux.2.1
  have hmessage : le16 bytes 11 = (UInt16.ofNat (pktLen - 6 - 7)).toNat :=
    le16_of_holds hqmi.2.2.2
  rw [hpacket, hmessage, UInt16.toNat_ofNat', UInt16.toNat_ofNat']
  omega

/-- A TLV of a request is looked up. -/
theorem gives_request (hfit : network.Fit) {tlvid : UInt8} {value : List UInt8}
    (h : ((startTlvs authMethod hfit apnType).find? (fun tlv => tlv.id = tlvid)).map Tlv.value =
      some value) :
    Gives (requestBytes authMethod hfit apnType) tlvid value := by
  obtain ⟨hmin, hmax⟩ := start_pkt_len_bounds authMethod hfit
  rw [← length_request_bytes authMethod hfit apnType] at hmin hmax
  obtain ⟨tlv, hfind, rfl⟩ := Option.map_eq_some_iff.1 h
  exact gives_of_find (well_formed_request authMethod hfit apnType) hmin hmax hfind

/-- A TLV that a request does not have is not found. -/
theorem lacks_request (hfit : network.Fit) {tlvid : UInt8}
    (h : (startTlvs authMethod hfit apnType).find? (fun tlv => tlv.id = tlvid) = none) :
    Lacks (requestBytes authMethod hfit apnType) tlvid := by
  obtain ⟨hmin, hmax⟩ := start_pkt_len_bounds authMethod hfit
  rw [← length_request_bytes authMethod hfit apnType] at hmin hmax
  exact lacks_of_find (well_formed_request authMethod hfit apnType) hmin hmax h

theorem carries_request (authMethod : UInt8) (hfit : network.Fit) (apnType : ApnType) :
    Carries authMethod network apnType (requestBytes authMethod hfit apnType) := by
  by_cases hauth : authMethod = 0
  · have htlvs : startTlvs authMethod hfit apnType =
        ⟨0x14, network.apnName, hfit.apnName.trans_lt (by decide)⟩ :: fixedTlvs apnType := by
      rw [startTlvs, if_neg (not_not.2 hauth), List.nil_append]
    exact ⟨gives_request hfit rfl, fun h => absurd hauth h,
      fun _ => ⟨lacks_request hfit (by rw [htlvs]; rfl), lacks_request hfit (by rw [htlvs]; rfl),
        lacks_request hfit (by rw [htlvs]; rfl)⟩,
      gives_request hfit (by rw [htlvs]; rfl), gives_request hfit (by rw [htlvs]; rfl),
      gives_request hfit (by rw [htlvs]; rfl), gives_request hfit (by rw [htlvs]; rfl)⟩
  · have htlvs : startTlvs authMethod hfit apnType =
        ⟨0x14, network.apnName, hfit.apnName.trans_lt (by decide)⟩ ::
          (authTlvs authMethod hfit ++ fixedTlvs apnType) := by
      rw [startTlvs, if_pos hauth]
    exact ⟨gives_request hfit rfl,
      fun _ => ⟨gives_request hfit (by rw [htlvs]; rfl), gives_request hfit (by rw [htlvs]; rfl),
        gives_request hfit (by rw [htlvs]; rfl)⟩, fun h => absurd h hauth,
      gives_request hfit (by rw [htlvs]; rfl), gives_request hfit (by rw [htlvs]; rfl),
      gives_request hfit (by rw [htlvs]; rfl), gives_request hfit (by rw [htlvs]; rfl)⟩

/-! ## The queue -/

/-- A request that has been built is put into the empty slot. -/
theorem queues_request {request : Except StartFault (List UInt8)} {pkt : List UInt8}
    (h : request = .ok pkt) : Queues (fun client => queueRequest client request) pkt := by
  subst h
  intro client hempty
  have hservice : ¬ qmiServiceWds.toNat > qmiServicesLast := by decide
  have hindex : qmiServiceWds.toNat < qmiServicesLast := by decide
  let binding := client.services qmiServiceWds.toNat
  refine ⟨{ client with
    hasPendingMessage := true
    services := Function.update client.services qmiServiceWds.toNat
      { binding with message := some pkt, hasPendingMessage := true } }, ?_, ?_, ?_⟩
  · simp only [queueRequest, addPendingMessage, InternalQmiClient.get, InternalQmiClient.modify,
      if_neg hservice, if_pos hindex, hempty, bind, Except.bind, Bool.false_eq_true, if_false,
      binding]
  · simp only [Function.update_self]
  · simp only [Function.update_self]

/-- For all settings with texts that fit, the request that `wds_attempt_to_connect` queues is filled
by its TLVs, has the lengths of its headers right, and carries the settings. -/
theorem connection_request_encoded (stored : StoredSettings) :
    ∃ pkt, connectRequest stored.settings = .ok pkt ∧
      Queues (wdsAttemptToConnect stored.settings) pkt ∧ ConnectionEncoded stored pkt := by
  have hbuilt : connectRequest stored.settings = .ok (requestBytes
      (getInternalNetworkAuthMethod stored.settings) stored.internal_fit .internet) :=
    start_request_exact stored.internal_fit rfl
  obtain ⟨hqmux, hqmi⟩ := lengths_request (getInternalNetworkAuthMethod stored.settings)
    stored.internal_fit .internet
  exact ⟨_, hbuilt, queues_request hbuilt, well_formed_request _ _ _, hqmux, hqmi,
    carries_request _ _ _⟩

/-! ## The request for the IMS network -/

theorem start_pkt_len_eq_iff (authMethod : UInt8) (network other : NetworkTexts) :
    startPktLen authMethod network = startPktLen authMethod other ↔
      (authMethod = 0 → network.apnName.length = other.apnName.length) ∧
        (authMethod ≠ 0 → network.total = other.total) := by
  unfold startPktLen NetworkTexts.total
  by_cases hauth : authMethod = 0
  · simp [hauth]
  · simp [hauth]
    omega

/-- The stores are inside the packet and its TLVs fill it if and only if the texts take as many
bytes as those of the internal network. -/
theorem ims_request_filled_iff (stored : StoredSettings) (pkt : List UInt8) :
    (imsRequest stored.settings = .ok pkt ∧
        WellFormed (ofList pkt) pkt.length
          (startTlvs (getInternalNetworkAuthMethod stored.settings) stored.ims_fit .ims)) ↔
      startPktLen (getInternalNetworkAuthMethod stored.settings) (imsNetwork stored.settings) =
          startPktLen (getInternalNetworkAuthMethod stored.settings)
            (internalNetwork stored.settings) ∧
        pkt = requestBytes (getInternalNetworkAuthMethod stored.settings) stored.ims_fit .ims := by
  constructor
  · rintro ⟨hbuilt, hfilled⟩
    have hexact : startPktLen (getInternalNetworkAuthMethod stored.settings)
        (imsNetwork stored.settings) =
        startPktLen (getInternalNetworkAuthMethod stored.settings)
          (internalNetwork stored.settings) := by
      have hlength := hfilled.length_eq
      rw [imsRequest, start_request_eq stored.ims_fit] at hbuilt
      split_ifs at hbuilt
      cases hbuilt
      rw [List.length_map, List.length_range] at hlength
      rw [hlength]
      exact (length_start_tlvs _ stored.ims_fit .ims).symm
    refine ⟨hexact, ?_⟩
    rw [imsRequest, start_request_exact stored.ims_fit hexact] at hbuilt
    exact (Except.ok.inj hbuilt).symm
  · rintro ⟨hexact, rfl⟩
    exact ⟨start_request_exact stored.ims_fit hexact, well_formed_request _ _ _⟩

/-- For all settings with texts that fit, the request of `wds_attempt_to_connect_ims` stays inside
the packet, fills it and has the three texts of the IMS network if and only if there is an
authentication and the texts take as many bytes as those of the internal network. Without an
authentication the credentials are left out, and the rest holds if the two APN names are equally
long. -/
theorem ims_request_encoded_iff (stored : StoredSettings) :
    (ImsRequestEncoded stored ↔
      getInternalNetworkAuthMethod stored.settings ≠ 0 ∧
        (imsNetwork stored.settings).total = (internalNetwork stored.settings).total) ∧
    (ImsRequestCarries stored ↔
      (getInternalNetworkAuthMethod stored.settings = 0 →
        (imsNetwork stored.settings).apnName.length =
          (internalNetwork stored.settings).apnName.length) ∧
      (getInternalNetworkAuthMethod stored.settings ≠ 0 →
        (imsNetwork stored.settings).total = (internalNetwork stored.settings).total)) := by
  have hcarries :=
    carries_request (getInternalNetworkAuthMethod stored.settings) stored.ims_fit .ims
  constructor
  · constructor
    · rintro ⟨pkt, hbuilt, -, hencoded⟩
      obtain ⟨hexact, rfl⟩ := (ims_request_filled_iff stored pkt).1 ⟨hbuilt, hencoded.filled⟩
      have hauth : getInternalNetworkAuthMethod stored.settings ≠ 0 := by
        intro hnone
        exact hencoded.username.not_lacks (hcarries.unauthenticated hnone).2.1
      exact ⟨hauth, ((start_pkt_len_eq_iff _ _ _).1 hexact).2 hauth⟩
    · rintro ⟨hauth, htotal⟩
      have hexact := (start_pkt_len_eq_iff (getInternalNetworkAuthMethod stored.settings)
        (imsNetwork stored.settings) (internalNetwork stored.settings)).2
        ⟨fun h => absurd h hauth, fun _ => htotal⟩
      obtain ⟨hbuilt, hfilled⟩ := (ims_request_filled_iff stored _).2 ⟨hexact, rfl⟩
      obtain ⟨-, husername, hpass⟩ := hcarries.authenticated hauth
      exact ⟨_, hbuilt, queues_request hbuilt, hfilled, hcarries.apnName, husername, hpass⟩
  · rw [← start_pkt_len_eq_iff]
    constructor
    · rintro ⟨pkt, hbuilt, -, hfilled, -⟩
      exact ((ims_request_filled_iff stored pkt).1 ⟨hbuilt, hfilled⟩).1
    · intro hexact
      obtain ⟨hbuilt, hfilled⟩ := (ims_request_filled_iff stored _).2 ⟨hexact, rfl⟩
      exact ⟨_, hbuilt, queues_request hbuilt, hfilled, hcarries⟩

/-- The initial settings, with PAP as the method of authentication. -/
def initialWithPap : StoredSettings where
  settings := (setInitialConfig 0).setNumber .apnAuthMethod 1
  fits := by
    intro field
    cases field <;> decide

/-- The APN name `ims` does not fit into the packet. -/
theorem initial_ims_request_overflows : ¬ ∀ stored, ImsRequestEncoded stored := by
  intro h
  obtain ⟨pkt, hbuilt, -⟩ := h initialWithPap
  rw [imsRequest, start_request_eq initialWithPap.ims_fit, if_neg (by decide)] at hbuilt
  cases hbuilt

end OpenQti.Wds
