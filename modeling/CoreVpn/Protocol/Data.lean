import CoreVpn.Protocol.Packet

/-!
# Data channel packets

`DataPacket` and `DataChannel` (`corevpn-protocol/src/data.rs`). A data channel
holds one packet cipher per direction; `encrypt` seals an IP packet under the
send cipher, `decrypt` checks the key id and opens a payload under the receive
cipher. A serialized `DataPacket` is exactly the `Packet::Data` the packet
parser reads back (`serialize_eq_packet`).
-/

namespace CoreVpn.Protocol

open CoreVpn.Crypto

set_option autoImplicit false

structure DataPacket where
  keyId : KeyId
  peerId : Option UInt32
  payload : List UInt8
  deriving DecidableEq

namespace DataPacket

def new (keyId : KeyId) (payload : List UInt8) : DataPacket := ⟨keyId, none, payload⟩

def newV2 (keyId : KeyId) (peerId : UInt32) (payload : List UInt8) : DataPacket :=
  ⟨keyId, some peerId, payload⟩

def parse (data : List UInt8) : Except ProtocolError DataPacket :=
  match data with
  | [] => .error (.packetTooShort 1 0)
  | first :: rest => do
      let opcode ← OpCode.fromByte first
      let keyId := KeyId.fromByte first
      if opcode = .dataV2 then
        match rest with
        | high :: middle :: low :: payload => pure ⟨keyId, some (peerIdOf high middle low), payload⟩
        | _ => .error (.packetTooShort 4 data.length)
      else pure ⟨keyId, none, rest⟩

def opcode (packet : DataPacket) : OpCode := if packet.peerId.isSome then .dataV2 else .dataV1

def serialize (packet : DataPacket) : List UInt8 :=
  packet.opcode.toByte packet.keyId :: (putIfSome putPeerId packet.peerId ++ packet.payload)

def toPacket (packet : DataPacket) : Packet :=
  .data ⟨⟨packet.opcode, packet.keyId, none, none, none, none⟩, packet.peerId, packet.payload⟩

theorem serialize_eq_packet (packet : DataPacket) : packet.serialize = packet.toPacket.serialize := by
  simp [serialize, toPacket, Packet.serialize, PacketHeader.serialize]

theorem parse_serialize_packet (packet : DataPacket) (small : packet.keyId.val.toNat < 8)
    (peerSmall : ∀ peerId ∈ packet.peerId, peerId.toNat < 2 ^ 24) (hasTlsAuth : Bool) :
    Packet.parse packet.serialize hasTlsAuth = .ok packet.toPacket := by
  rw [serialize_eq_packet]
  apply Packet.parse_serialize_data
  obtain ⟨keyId, peerId, payload⟩ := packet
  cases peerId with
  | none => exact ⟨.inl rfl, small, rfl, rfl, rfl, rfl, by simp [opcode], rfl⟩
  | some peerId =>
      have fits := peerSmall peerId rfl
      exact ⟨.inr rfl, small, rfl, rfl, rfl, rfl, by simp [opcode], by simpa using fits⟩

theorem parse_serialize (packet : DataPacket) (small : packet.keyId.val.toNat < 8)
    (peerSmall : ∀ peerId ∈ packet.peerId, peerId.toNat < 2 ^ 24) :
    parse packet.serialize = .ok packet := by
  obtain ⟨keyId, peerId, payload⟩ := packet
  cases peerId with
  | none =>
      simp only [serialize, opcode, Option.isSome_none, Bool.false_eq_true, ite_false,
        putIfSome_none, List.nil_append, parse, OpCode.fromByte_toByte, Wire.ok_bind,
        OpCode.keyId_fromByte_toByte _ small, reduceCtorEq]
      rfl
  | some peerId =>
      have fits := peerSmall peerId rfl
      simp only [serialize, opcode, Option.isSome_some, ite_true, putIfSome_some, putPeerId,
        List.cons_append, List.nil_append, parse, OpCode.fromByte_toByte, Wire.ok_bind,
        OpCode.keyId_fromByte_toByte _ small]
      rw [peerIdOf_putPeerId fits]
      rfl

theorem parse_cases {first : UInt8} {rest : List UInt8} {packet : DataPacket}
    (parsed : parse (first :: rest) = .ok packet) :
    ∃ opcode, OpCode.fromByte first = .ok opcode ∧ packet.keyId = KeyId.fromByte first ∧
      ((opcode = .dataV2 ∧ ∃ high middle low, rest = high :: middle :: low :: packet.payload ∧
          packet.peerId = some (peerIdOf high middle low)) ∨
        (opcode ≠ .dataV2 ∧ packet.peerId = none ∧ packet.payload = rest)) := by
  cases decoded : OpCode.fromByte first with
  | error failure => simp [parse, decoded] at parsed
  | ok opcode =>
      refine ⟨opcode, rfl, ?_⟩
      simp only [parse, decoded, Wire.ok_bind] at parsed
      by_cases second : opcode = .dataV2
      · subst second
        simp only [ite_true] at parsed
        match rest, parsed with
        | high :: middle :: low :: payload, parsed =>
            cases parsed
            exact ⟨rfl, .inl ⟨rfl, high, middle, low, rfl, rfl⟩⟩
      · simp only [second, ite_false] at parsed
        cases parsed
        exact ⟨rfl, .inr ⟨second, rfl, rfl⟩⟩

theorem serialize_parse_iff {first : UInt8} {rest : List UInt8} {packet : DataPacket}
    (parsed : parse (first :: rest) = .ok packet) :
    packet.serialize = first :: rest ↔
      ∃ opcode, OpCode.fromByte first = .ok opcode ∧ opcode.isData := by
  obtain ⟨opcode, decoded, keyId, layout⟩ := parse_cases parsed
  obtain ⟨keyIdField, peerIdField, payloadField⟩ := packet
  simp only at keyId layout
  subst keyId
  rcases layout with ⟨rfl, high, middle, low, rfl, rfl⟩ | ⟨second, rfl, rfl⟩
  · -- P_DATA_V2: the header is rebuilt byte for byte
    have header : OpCode.dataV2.toByte (KeyId.fromByte first) = first := OpCode.toByte_fromByte decoded
    simp [serialize, opcode, header, putPeerId_peerIdOf, decoded, OpCode.isData]
  · -- any other opcode: serialize writes P_DATA_V1, which is the first byte only for P_DATA_V1
    simp only [serialize, DataPacket.opcode, Option.isSome_none, Bool.false_eq_true, ite_false,
      putIfSome_none, List.nil_append, List.cons.injEq, and_true, decoded, Except.ok.injEq,
      exists_eq_left']
    constructor
    · intro header
      have same : OpCode.fromByte first = .ok .dataV1 := header ▸ OpCode.fromByte_toByte _ _
      rw [decoded, Except.ok.injEq] at same
      rw [same]
      rfl
    · intro isData
      have first_opcode : opcode = .dataV1 := by
        cases opcode <;> simp_all [OpCode.isData]
      subst first_opcode
      exact OpCode.toByte_fromByte decoded

/-- A control opcode in the first byte is read as a V1 data packet: for the
P_CONTROL_V1 byte 0x20, `parse` succeeds, and the packet it returns serializes
to P_DATA_V1 (0x30). -/
theorem control_byte_parses_as_data_packet :
    OpCode.fromByte 0x20 = .ok .controlV1 ∧
      parse [0x20] = .ok ⟨⟨0⟩, none, []⟩ ∧ serialize ⟨⟨0⟩, none, []⟩ = [0x30] := by
  decide

end DataPacket

structure DataChannel where
  keyId : KeyId
  peerId : Option UInt32
  encryptCipher : PacketCipher
  decryptCipher : PacketCipher
  useV2 : Bool
  deriving DecidableEq

namespace DataChannel

def new (keyId : KeyId) (encryptKey decryptKey : DataChannelKey) (useV2 : Bool)
    (peerId : Option UInt32) : DataChannel :=
  ⟨keyId, peerId, PacketCipher.new encryptKey, PacketCipher.new decryptKey, useV2⟩

variable (aead : Aead)

/-- `encrypt`: seal under the send cipher; a crypto failure becomes `CryptoError`. -/
def encrypt (channel : DataChannel) (ipPacket : List UInt8) :
    Except ProtocolError DataPacket × DataChannel :=
  match channel.encryptCipher.encrypt aead ipPacket with
  | (.ok encrypted, cipher) =>
      (.ok ⟨channel.keyId, if channel.useV2 then channel.peerId else none, encrypted⟩,
        { channel with encryptCipher := cipher })
  | (.error failure, cipher) => (.error (.cryptoError failure), { channel with encryptCipher := cipher })

/-- `decrypt`: a packet under another key id is refused before any cipher state changes. -/
def decrypt (channel : DataChannel) (packet : DataPacket) :
    Except ProtocolError (List UInt8) × DataChannel :=
  if packet.keyId ≠ channel.keyId then (.error (.keyNotAvailable packet.keyId.val), channel)
  else
    match channel.decryptCipher.decrypt aead packet.payload with
    | (.ok decrypted, cipher) => (.ok decrypted, { channel with decryptCipher := cipher })
    | (.error failure, cipher) => (.error (.cryptoError failure), { channel with decryptCipher := cipher })

theorem decrypt_of_keyId (channel : DataChannel) {packet : DataPacket}
    (same : packet.keyId = channel.keyId) :
    channel.decrypt aead packet =
      ((channel.decryptCipher.decrypt aead packet.payload).1.mapError .cryptoError,
        { channel with decryptCipher := (channel.decryptCipher.decrypt aead packet.payload).2 }) := by
  simp only [decrypt, same, ne_eq, not_true_eq_false, if_false]
  rcases channel.decryptCipher.decrypt aead packet.payload with ⟨_ | _, _⟩ <;> rfl

end DataChannel

end CoreVpn.Protocol
