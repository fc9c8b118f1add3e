import CoreVpn.Protocol.Data
import CoreVpn.Protocol.Reliable
import CoreVpn.Crypto.HmacAuth

/-!
# Protocol sessions

`ProtocolSession` (`corevpn-protocol/src/session.rs`): one OpenVPN peer's view of
a connection. Incoming datagrams go through the tls-auth check and the packet
parser to the control or the data path; outgoing control packets are built from
the session's ids and the reliable layer's acknowledgements, then serialized and
wrapped.

The AEAD and HMAC-SHA256 are parameters, and so are the inputs the source takes
from the system: the random local session id and which retransmit timers have
expired. The instants of creation and last activity are left out.
-/

namespace CoreVpn.Protocol

open CoreVpn.Crypto

set_option autoImplicit false

inductive ProtocolState
  | initial
  | tlsHandshake
  | keyExchange
  | authenticating
  | established
  | rekeying
  | terminated
  deriving DecidableEq, Repr

inductive ProcessedPacket
  | none
  | hardReset (sessionId : SessionId)
  | hardResetAck
  | tlsData (records : List (List UInt8))
  | data (bytes : List UInt8)
  | softReset
  deriving DecidableEq

/-- `struct ProtocolSession` without its two instants. -/
structure ProtocolSession where
  localSessionId : SessionId
  remoteSessionId : Option SessionId
  state : ProtocolState
  currentKeyId : KeyId
  reliable : ReliableTransport
  tlsReassembler : TlsRecordReassembler
  dataChannels : List.Vector (Option DataChannel) 8
  peerId : Option UInt32
  useTlsAuth : Bool
  tlsAuthKey : Option HmacAuth
  cipherSuite : CipherSuite

def keyIndex (keyId : KeyId) : Option (Fin 8) :=
  if inside : keyId.val.toNat < 8 then some ⟨keyId.val.toNat, inside⟩ else none

theorem keyIndex_of_lt {keyId : KeyId} (small : keyId.val.toNat < 8) :
    keyIndex keyId = some ⟨keyId.val.toNat, small⟩ := by
  simp [keyIndex, small]

namespace ProtocolSession

/-- `new_server`, with the session id `generate_session_id` would draw. -/
def newServer (localSessionId : SessionId) (cipherSuite : CipherSuite) : ProtocolSession where
  localSessionId := localSessionId
  remoteSessionId := none
  state := .initial
  currentKeyId := default
  reliable := ReliableTransport.new ReliableConfig.default
  tlsReassembler := TlsRecordReassembler.new 65536
  dataChannels := List.Vector.replicate 8 none
  peerId := none
  useTlsAuth := false
  tlsAuthKey := none
  cipherSuite := cipherSuite

/-- `new_client`: a server session, set to `Initial`. -/
def newClient (localSessionId : SessionId) (cipherSuite : CipherSuite) : ProtocolSession :=
  { newServer localSessionId cipherSuite with state := .initial }

def setState (session : ProtocolSession) (state : ProtocolState) : ProtocolSession :=
  { session with state := state }

def setRemoteSessionId (session : ProtocolSession) (id : SessionId) : ProtocolSession :=
  { session with remoteSessionId := some id }

def setTlsAuth (session : ProtocolSession) (key : HmacAuth) : ProtocolSession :=
  { session with useTlsAuth := true, tlsAuthKey := some key }

def rotateKey (session : ProtocolSession) : ProtocolSession :=
  { session with currentKeyId := session.currentKeyId.next }

def channelAt (session : ProtocolSession) (keyId : KeyId) : Option DataChannel :=
  (keyIndex keyId).bind session.dataChannels.get

theorem channelAt_set (session : ProtocolSession) {keyId : KeyId} {index : Fin 8}
    (located : keyIndex keyId = some index) (channel : Option DataChannel) :
    { session with dataChannels := session.dataChannels.set index channel }.channelAt keyId =
      channel := by
  simp [channelAt, located]

theorem get_of_channelAt {session : ProtocolSession} {keyId : KeyId} {channel : DataChannel}
    (found : session.channelAt keyId = some channel) :
    ∃ index, keyIndex keyId = some index ∧ session.dataChannels.get index = some channel :=
  Option.bind_eq_some_iff.mp found

def controlHeader (session : ProtocolSession) (opcode : OpCode) (keyId : KeyId) : PacketHeader :=
  ⟨opcode, keyId, some session.localSessionId, none, none, none⟩

section Operations

variable (aead : Aead) (mac : Key → List UInt8 → List.Vector UInt8 32)

def maybeWrapTlsAuth (session : ProtocolSession) (data : List UInt8) : List UInt8 :=
  if session.useTlsAuth then
    match session.tlsAuthKey with
    | some key => key.wrap mac data
    | none => data
  else data

def unwrapTlsAuth (session : ProtocolSession) (data : List UInt8) :
    Except ProtocolError (List UInt8) :=
  if session.useTlsAuth then
    match session.tlsAuthKey, data with
    | some key, first :: _ => do
        let opcode ← OpCode.fromByte first
        if opcode.isControl then
          match key.unwrap mac data with
          | .ok unwrapped => pure unwrapped
          | .error failure => .error (.cryptoError failure)
        else pure data
    | _, _ => pure data
  else pure data

theorem unwrapTlsAuth_data (session : ProtocolSession) {first : UInt8} {opcode : OpCode}
    (decoded : OpCode.fromByte first = .ok opcode) (isData : opcode.isData = true)
    (rest : List UInt8) :
    unwrapTlsAuth mac session (first :: rest) = .ok (first :: rest) := by
  have notControl : opcode.isControl = false := by
    rw [OpCode.isControl_eq_not_isData, isData]
    rfl
  unfold unwrapTlsAuth
  cases session.useTlsAuth
  · rfl
  · cases session.tlsAuthKey
    · rfl
    · simp only [if_true, decoded, Wire.ok_bind, notControl, Bool.false_eq_true, if_false]
      rfl

def receiveTlsPayload (session : ProtocolSession) (messagePacketId : Option PacketId)
    (payload : List UInt8) : Except ProtocolError ProcessedPacket × ProtocolSession :=
  match messagePacketId with
  | none => (.ok .none, session)
  | some packetId =>
      let (received, reliable) := session.reliable.receive packetId payload
      let session := { session with reliable := reliable }
      match received with
      | none => (.ok .none, session)
      | some data =>
          let (added, reassembler) := session.tlsReassembler.add data
          let session := { session with tlsReassembler := reassembler }
          match added with
          | .error failure => (.error failure, session)
          | .ok () =>
              let (records, reassembler) := session.tlsReassembler.extractRecords
              let session := { session with tlsReassembler := reassembler }
              if records.isEmpty then (.ok .none, session) else (.ok (.tlsData records), session)

def processControlPacket (session : ProtocolSession) (ctrl : ControlPacketData) :
    Except ProtocolError ProcessedPacket × ProtocolSession :=
  let session :=
    if ctrl.acks.isEmpty then session
    else { session with reliable := session.reliable.processAcks ctrl.acks }
  let learnRemote (session : ProtocolSession) : ProtocolSession :=
    match ctrl.header.sessionId with
    | some remote => { session with remoteSessionId := some remote }
    | none => session
  match ctrl.header.opcode with
  | .hardResetClientV2 | .hardResetClientV3 =>
      (.ok (.hardReset (ctrl.header.sessionId.getD (List.Vector.replicate 8 0))),
        { learnRemote session with state := .tlsHandshake })
  | .hardResetServerV2 => (.ok .hardResetAck, learnRemote session)
  | .controlV1 => receiveTlsPayload session ctrl.messagePacketId ctrl.payload
  | .ackV1 => (.ok .none, session)
  | .softResetV1 => (.ok .softReset, { session with state := .rekeying })
  | opcode => (.error (.unknownOpcode opcode.asU8), session)

def processDataPacket (session : ProtocolSession) (dataPacket : DataPacketData) :
    Except ProtocolError ProcessedPacket × ProtocolSession :=
  let packet : DataPacket := ⟨dataPacket.header.keyId, dataPacket.peerId, dataPacket.payload⟩
  match keyIndex packet.keyId with
  | some index =>
      match session.dataChannels.get index with
      | some channel =>
          let (result, channel) := channel.decrypt aead packet
          let session := { session with dataChannels := session.dataChannels.set index (some channel) }
          match result with
          | .ok decrypted => (.ok (.data decrypted), session)
          | .error failure => (.error failure, session)
      | none => (.error (.keyNotAvailable packet.keyId.val), session)
  | none => (.error (.keyNotAvailable packet.keyId.val), session)

def processPacket (session : ProtocolSession) (data : List UInt8) :
    Except ProtocolError ProcessedPacket × ProtocolSession :=
  match unwrapTlsAuth mac session data >>= fun data => Packet.parse data false with
  | .error failure => (.error failure, session)
  | .ok (.control ctrl) => processControlPacket session ctrl
  | .ok (.data dataPacket) => processDataPacket aead session dataPacket

theorem processPacket_dataPacket (session : ProtocolSession) (packet : DataPacket)
    (small : packet.keyId.val.toNat < 8)
    (peerSmall : ∀ peerId ∈ packet.peerId, peerId.toNat < 2 ^ 24) {index : Fin 8}
    {channel : DataChannel} (located : keyIndex packet.keyId = some index)
    (stored : session.dataChannels.get index = some channel) :
    session.processPacket aead mac packet.serialize =
      ((channel.decrypt aead packet).1.map .data,
        { session with
          dataChannels := session.dataChannels.set index (some (channel.decrypt aead packet).2) }) := by
  have isData : packet.opcode.isData = true := by
    unfold DataPacket.opcode
    split <;> rfl
  have passed : unwrapTlsAuth mac session packet.serialize = .ok packet.serialize :=
    unwrapTlsAuth_data mac session (OpCode.fromByte_toByte _ _) isData _
  have parsed := packet.parse_serialize_packet small peerSmall false
  obtain ⟨keyId, peerId, payload⟩ := packet
  simp only [processPacket, passed, Wire.ok_bind, parsed, DataPacket.toPacket, processDataPacket,
    located, stored]
  rcases channel.decrypt aead ⟨keyId, peerId, payload⟩ with ⟨_ | _, _⟩ <;> rfl

/-- Two TLS records sent as control messages 0 and 1 and delivered in the order 1,
0: message 1 is buffered, message 0 fills the gap and only its record comes out,
and the reliable layer moves past message 1 without handing its payload on. A
retransmission of message 1 is then a duplicate, so its record never arrives. -/
theorem out_of_order_control_payload_lost :
    let receiver : ProtocolSession :=
      ProtocolSession.newServer ⟨[1, 2, 3, 4, 5, 6, 7, 8], rfl⟩ .chaCha20Poly1305
    let first : List UInt8 := [0x20, 9, 9, 9, 9, 9, 9, 9, 9, 0, 0, 0, 0, 0, 22, 3, 3, 0, 1, 0xAA]
    let second : List UInt8 := [0x20, 9, 9, 9, 9, 9, 9, 9, 9, 0, 0, 0, 0, 1, 22, 3, 3, 0, 1, 0xBB]
    let afterSecond := receiver.processPacket aead mac second
    let afterFirst := afterSecond.2.processPacket aead mac first
    let afterResend := afterFirst.2.processPacket aead mac second
    afterSecond.1 = .ok .none ∧ afterFirst.1 = .ok (.tlsData [[22, 3, 3, 0, 1, 0xAA]]) ∧
      afterResend.1 = .ok .none ∧ afterResend.2.reliable.nextRecvId = 2 ∧
      afterResend.2.tlsReassembler.buffer = [] := by
  intro receiver first second afterSecond afterFirst afterResend
  refine ⟨?_, ?_, ?_, ?_, ?_⟩
  · rfl
  · rfl
  · rfl
  · rfl
  · rfl

theorem toList_eq_get_zero_cons {α : Type} {n : Nat} (vector : List.Vector α (n + 1)) :
    vector.toList = vector.get 0 :: vector.tail.toList := by
  conv_lhs => rw [← List.Vector.cons_head_tail vector]
  rw [List.Vector.toList_cons, List.Vector.get_zero]

theorem processPacket_rejects_undecodable_tag (session : ProtocolSession) {key : HmacAuth}
    (enabled : session.useTlsAuth = true) (keyed : session.tlsAuthKey = some key)
    (sender : HmacAuth) (data : List UInt8) {failure : ProtocolError}
    (undecodable : OpCode.fromByte ((sender.authenticate mac data).get 0) = .error failure) :
    session.processPacket aead mac (sender.wrap mac data) = (.error failure, session) := by
  have split : sender.wrap mac data =
      (sender.authenticate mac data).get 0 :: ((sender.authenticate mac data).tail.toList ++ data) := by
    rw [HmacAuth.wrap, toList_eq_get_zero_cons, List.cons_append]
  have rejected : unwrapTlsAuth mac session (sender.wrap mac data) = .error failure := by
    rw [split]
    unfold unwrapTlsAuth
    simp only [enabled, keyed, if_true, undecodable, Wire.error_bind]
  simp only [processPacket, rejected, Wire.error_bind]

/-- `create_hard_reset_response`; it never fails. -/
def createHardResetResponse (session : ProtocolSession) : List UInt8 × ProtocolSession :=
  let (acks, reliable) := session.reliable.getAcks
  let session := { session with reliable := reliable }
  let packet : ControlPacketData :=
    ⟨session.controlHeader .hardResetServerV2 default, session.remoteSessionId, acks, none, []⟩
  (maybeWrapTlsAuth mac session (Packet.control packet).serialize, session)

/-- `create_control_packet`: queue the TLS data with the reliable layer and send it
with every pending acknowledgement. -/
def createControlPacket (session : ProtocolSession) (tlsData : List UInt8) :
    Except ProtocolError (List UInt8) × ProtocolSession :=
  match session.reliable.send tlsData with
  | (.error failure, reliable) => (.error failure, { session with reliable := reliable })
  | (.ok (packetId, _), reliable) =>
      let session := { session with reliable := reliable }
      let (acks, reliable) := session.reliable.getAcks
      let session := { session with reliable := reliable }
      let packet : ControlPacketData :=
        ⟨session.controlHeader .controlV1 session.currentKeyId, session.remoteSessionId, acks,
          some packetId, tlsData⟩
      (.ok (maybeWrapTlsAuth mac session (Packet.control packet).serialize), session)

/-- `create_ack_packet`: nothing when no acknowledgement is pending. (`ack_sent`
only records the time.) -/
def createAckPacket (session : ProtocolSession) : Option (List UInt8) × ProtocolSession :=
  let (acks, reliable) := session.reliable.getAcks
  let session := { session with reliable := reliable }
  if acks.isEmpty then (none, session)
  else
    let packet : ControlPacketData :=
      ⟨session.controlHeader .ackV1 session.currentKeyId, session.remoteSessionId, acks, none, []⟩
    (some (maybeWrapTlsAuth mac session (Packet.control packet).serialize), session)

/-- A session that acknowledges a control packet before it has learnt the peer's
session id sends an ACK packet without the remote session id, and the peer's parser,
which expects that id after every non-empty ack list, rejects it as too short. -/
theorem ack_without_remote_session_id_rejected :
    let sender : ProtocolSession :=
      ((ProtocolSession.newServer ⟨[1, 2, 3, 4, 5, 6, 7, 8], rfl⟩ .chaCha20Poly1305).processPacket
        aead mac [0x20, 9, 9, 9, 9, 9, 9, 9, 9, 0, 0, 0, 0, 0]).2
    let receiver := ProtocolSession.newClient ⟨[9, 9, 9, 9, 9, 9, 9, 9], rfl⟩ .chaCha20Poly1305
    let ackOnly : ControlPacketData :=
      ⟨⟨.ackV1, default, some ⟨[1, 2, 3, 4, 5, 6, 7, 8], rfl⟩, none, none, none⟩, none, [0], none, []⟩
    (sender.createAckPacket mac).1 = some (Packet.control ackOnly).serialize ∧
      (Packet.control ackOnly).serialize = [0x28, 1, 2, 3, 4, 5, 6, 7, 8, 1, 0, 0, 0, 0] ∧
      (receiver.processPacket aead mac (Packet.control ackOnly).serialize).1 =
        .error (.packetTooShort 22 14) := by
  intro sender receiver ackOnly
  have serialized : (Packet.control ackOnly).serialize = [0x28, 1, 2, 3, 4, 5, 6, 7, 8, 1, 0, 0, 0, 0] := by
    decide
  refine ⟨rfl, serialized, ?_⟩
  rw [serialized]
  rfl

/-- `get_retransmits`, for the pending ids whose timer `due` says has expired. -/
def getRetransmits (session : ProtocolSession) (due : UInt32 → Bool) :
    List (List UInt8) × ProtocolSession :=
  let (resent, reliable) := session.reliable.getRetransmits due
  let session := { session with reliable := reliable }
  (resent.map fun (id, data) =>
      let packet : ControlPacketData :=
        ⟨session.controlHeader .controlV1 session.currentKeyId, session.remoteSessionId, [],
          some id, data⟩
      maybeWrapTlsAuth mac session (Packet.control packet).serialize,
    session)

/-- `install_keys`: the data channel for the current key id, sending under our own
direction's key and receiving under the peer's. -/
def installKeys (session : ProtocolSession) (keyMaterial : KeyMaterial) (isServer : Bool) :
    ProtocolSession :=
  let keyId := session.currentKeyId
  let (encryptKey, decryptKey) :=
    if isServer then
      (keyMaterial.serverDataKey session.cipherSuite, keyMaterial.clientDataKey session.cipherSuite)
    else
      (keyMaterial.clientDataKey session.cipherSuite, keyMaterial.serverDataKey session.cipherSuite)
  match keyIndex keyId with
  | some index =>
      { session with
        dataChannels := session.dataChannels.set index
          (some (DataChannel.new keyId encryptKey decryptKey true session.peerId)) }
  | none => session

theorem currentKeyId_installKeys (session : ProtocolSession) (keyMaterial : KeyMaterial)
    (isServer : Bool) :
    (session.installKeys keyMaterial isServer).currentKeyId = session.currentKeyId := by
  unfold installKeys
  cases isServer <;> dsimp only [Bool.false_eq_true, if_true, if_false] <;> split <;> rfl

theorem channelAt_installKeys (session : ProtocolSession) (keyMaterial : KeyMaterial)
    (isServer : Bool) (small : session.currentKeyId.val.toNat < 8) :
    (session.installKeys keyMaterial isServer).channelAt session.currentKeyId =
      some (DataChannel.new session.currentKeyId
        (if isServer then keyMaterial.serverDataKey session.cipherSuite
          else keyMaterial.clientDataKey session.cipherSuite)
        (if isServer then keyMaterial.clientDataKey session.cipherSuite
          else keyMaterial.serverDataKey session.cipherSuite)
        true session.peerId) := by
  unfold installKeys
  cases isServer <;> simp only [Bool.false_eq_true, if_true, if_false, keyIndex_of_lt small] <;>
    exact channelAt_set session (keyIndex_of_lt small) _

def encryptData (session : ProtocolSession) (data : List UInt8) :
    Except ProtocolError (List UInt8) × ProtocolSession :=
  match keyIndex session.currentKeyId with
  | some index =>
      match session.dataChannels.get index with
      | some channel =>
          let (result, channel) := channel.encrypt aead data
          let session := { session with dataChannels := session.dataChannels.set index (some channel) }
          match result with
          | .ok packet => (.ok packet.serialize, session)
          | .error failure => (.error failure, session)
      | none => (.error (.keyNotAvailable session.currentKeyId.val), session)
  | none => (.error (.keyNotAvailable session.currentKeyId.val), session)

theorem encryptData_eq {session : ProtocolSession} {index : Fin 8} {channel : DataChannel}
    (located : keyIndex session.currentKeyId = some index)
    (stored : session.dataChannels.get index = some channel) (data : List UInt8) :
    session.encryptData aead data =
      ((channel.encrypt aead data).1.map DataPacket.serialize,
        { session with
          dataChannels := session.dataChannels.set index (some (channel.encrypt aead data).2) }) := by
  simp only [encryptData, located, stored]
  rcases channel.encrypt aead data with ⟨_ | _, _⟩ <;> rfl

end Operations

end ProtocolSession

end CoreVpn.Protocol
