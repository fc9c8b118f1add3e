import CoreVpn.Protocol.Opcode

/-!
# The OpenVPN packet codec

`PacketHeader::parse`/`serialize` and `Packet::parse`/`serialize`
(`corevpn-protocol/src/packet.rs`). The parser keeps an offset into the datagram
and checks the remaining length before every fixed-width field; each check and
slice is one `readBytes`. The serializer decides the same fields from which
options are present.

Every lemma follows the unread suffix `data.drop offset` from one field to the
next. Parsing then serializing gives back the datagram; serializing a packet
whose fields have the shape the parser produces parses back to it, provided a
`Control` value carries a control opcode: one built with a data opcode is read
back as a data packet.
-/

namespace CoreVpn.Protocol

open CoreVpn.Crypto

set_option autoImplicit false

abbrev SessionId := List.Vector UInt8 8

abbrev PacketId := UInt32

structure PacketHeader where
  opcode : OpCode
  keyId : KeyId
  sessionId : Option SessionId
  hmac : Option (List.Vector UInt8 32)
  packetId : Option PacketId
  timestamp : Option UInt32
  deriving DecidableEq

structure ControlPacketData where
  header : PacketHeader
  remoteSessionId : Option SessionId
  acks : List PacketId
  messagePacketId : Option PacketId
  payload : List UInt8
  deriving DecidableEq

structure DataPacketData where
  header : PacketHeader
  peerId : Option UInt32
  payload : List UInt8
  deriving DecidableEq

inductive Packet
  | control (control : ControlPacketData)
  | data (data : DataPacketData)
  deriving DecidableEq

/-! ## Field codecs -/

def u32FromBeBytes (bytes : List UInt8) : UInt32 := UInt32.ofNat (Wire.decode bytes)

/-- `BufMut::put_u32`, big-endian. -/
def putU32 (value : UInt32) : List UInt8 := Wire.encode 4 value.toNat

def peerIdOf (high middle low : UInt8) : UInt32 :=
  high.toUInt32 <<< 16 ||| middle.toUInt32 <<< 8 ||| low.toUInt32

def putPeerId (peerId : UInt32) : List UInt8 :=
  [(peerId >>> 16).toUInt8, (peerId >>> 8).toUInt8, peerId.toUInt8]

def putIfSome {α : Type} (put : α → List UInt8) : Option α → List UInt8
  | some value => put value
  | none => []

@[simp] theorem length_putU32 (value : UInt32) : (putU32 value).length = 4 := by
  simp [putU32]

@[simp] theorem length_putPeerId (peerId : UInt32) : (putPeerId peerId).length = 3 := rfl

@[simp] theorem putIfSome_none {α : Type} (put : α → List UInt8) : putIfSome put none = [] := rfl

@[simp] theorem putIfSome_some {α : Type} (put : α → List UInt8) (value : α) :
    putIfSome put (some value) = put value := rfl

theorem u32FromBeBytes_putU32 (value : UInt32) : u32FromBeBytes (putU32 value) = value := by
  have bound : value.toNat < 256 ^ 4 := by simpa using value.toNat_lt
  rw [u32FromBeBytes, putU32, Wire.decode_encode, Nat.mod_eq_of_lt bound]
  exact UInt32.ofNat_toNat

theorem putU32_u32FromBeBytes {bytes : List UInt8} (four : bytes.length = 4) :
    putU32 (u32FromBeBytes bytes) = bytes := by
  have below := Wire.decode_lt bytes
  rw [four] at below
  rw [putU32, u32FromBeBytes, UInt32.toNat_ofNat', Nat.mod_eq_of_lt (by simpa using below),
    ← four, Wire.encode_decode]

theorem peerIdOf_toNat (high middle low : UInt8) :
    (peerIdOf high middle low).toNat = high.toNat * 65536 + middle.toNat * 256 + low.toNat := by
  have highBound := high.toNat_lt
  have middleBound := middle.toNat_lt
  have lowBound := low.toNat_lt
  have shiftedHigh : (high.toUInt32 <<< 16).toNat = high.toNat <<< 16 := by
    rw [UInt32.toNat_shiftLeft, UInt8.toNat_toUInt32]
    simp only [UInt32.reduceToNat, Nat.reduceMod, Nat.shiftLeft_eq]
    omega
  have shiftedMiddle : (middle.toUInt32 <<< 8).toNat = middle.toNat <<< 8 := by
    rw [UInt32.toNat_shiftLeft, UInt8.toNat_toUInt32]
    simp only [UInt32.reduceToNat, Nat.reduceMod, Nat.shiftLeft_eq]
    omega
  have lowPair : middle.toNat <<< 8 ||| low.toNat = middle.toNat <<< 8 + low.toNat :=
    (Nat.shiftLeft_add_eq_or_of_lt (by simpa using lowBound) _).symm
  have highPair : high.toNat <<< 16 ||| (middle.toNat <<< 8 + low.toNat) =
      high.toNat <<< 16 + (middle.toNat <<< 8 + low.toNat) := by
    refine (Nat.shiftLeft_add_eq_or_of_lt ?_ _).symm
    rw [Nat.shiftLeft_eq]
    omega
  rw [peerIdOf, UInt32.toNat_or, UInt32.toNat_or, shiftedHigh, shiftedMiddle,
    UInt8.toNat_toUInt32, Nat.or_assoc, lowPair, highPair, Nat.shiftLeft_eq, Nat.shiftLeft_eq]
  omega

theorem putPeerId_peerIdOf (high middle low : UInt8) :
    putPeerId (peerIdOf high middle low) = [high, middle, low] := by
  have value := peerIdOf_toNat high middle low
  have highBound := high.toNat_lt
  have middleBound := middle.toNat_lt
  have lowBound := low.toNat_lt
  simp only [putPeerId, List.cons.injEq, and_true]
  refine ⟨?_, ?_, ?_⟩ <;> apply UInt8.toNat.inj <;>
    simp only [UInt32.toNat_toUInt8, UInt32.toNat_shiftRight, value, UInt32.reduceToNat,
      Nat.reduceMod, Nat.shiftRight_eq_div_pow, Nat.reducePow] <;> omega

theorem peerIdOf_putPeerId {peerId : UInt32} (small : peerId.toNat < 2 ^ 24) :
    peerIdOf (peerId >>> 16).toUInt8 (peerId >>> 8).toUInt8 peerId.toUInt8 = peerId := by
  apply UInt32.toNat.inj
  rw [peerIdOf_toNat]
  simp only [UInt32.toNat_toUInt8, UInt32.toNat_shiftRight, UInt32.reduceToNat, Nat.reduceMod,
    Nat.shiftRight_eq_div_pow, Nat.reducePow]
  omega

/-! ## Parsing -/

abbrev readBytes (data : List UInt8) (offset count : Nat) :
    Except ProtocolError (List.Vector UInt8 count) :=
  Wire.readAt ProtocolError.packetTooShort data offset count

def parseTlsAuth (data : List UInt8) (hasTlsAuth : Bool) :
    Except ProtocolError (Option (List.Vector UInt8 32) × Option PacketId × Option UInt32 × Nat) :=
  if hasTlsAuth then do
    let hmac ← readBytes data 1 32
    let packetId ← readBytes data (1 + 32) 4
    let timestamp ← readBytes data (1 + 32 + 4) 4
    pure (some hmac, some (u32FromBeBytes packetId.toList),
      some (u32FromBeBytes timestamp.toList), 1 + 32 + 4 + 4)
  else pure (none, none, none, 1)

/-- `PacketHeader::parse`: the header and the offset after it. -/
def PacketHeader.parse (data : List UInt8) (hasTlsAuth : Bool) :
    Except ProtocolError (PacketHeader × Nat) :=
  match data with
  | [] => .error (.packetTooShort 1 0)
  | first :: _ => do
      let opcode ← OpCode.fromByte first
      let keyId := KeyId.fromByte first
      if opcode.isData then
        pure (⟨opcode, keyId, none, none, none, none⟩, 1)
      else do
        let (hmac, packetId, timestamp, offset) ← parseTlsAuth data hasTlsAuth
        let sessionId ← readBytes data offset 8
        pure (⟨opcode, keyId, some sessionId, hmac, packetId, timestamp⟩, offset + 8)

def parseAckIds (data : List UInt8) : Nat → Nat → List PacketId →
    Except ProtocolError (List PacketId × Nat)
  | 0, offset, acks => pure (acks, offset)
  | count + 1, offset, acks => do
      let id ← readBytes data offset 4
      parseAckIds data count (offset + 4) (acks ++ [u32FromBeBytes id.toList])

def parseAcks (data : List UInt8) (offset : Nat) :
    Except ProtocolError (List PacketId × Option SessionId × Nat) := do
  let count ← readBytes data offset 1
  let ackCount := (count.get 0).toNat
  if ackCount > 0 then do
    let (acks, offset) ← parseAckIds data ackCount (offset + 1) []
    let remoteSessionId ← readBytes data offset 8
    pure (acks, some remoteSessionId, offset + 8)
  else pure ([], none, offset + 1)

def parseMessagePacketId (opcode : OpCode) (data : List UInt8) (offset : Nat) :
    Option PacketId × Nat :=
  if opcode ≠ .ackV1 ∧ data.length ≥ offset + 4 then
    (some (u32FromBeBytes ((data.drop offset).take 4)), offset + 4)
  else (none, offset)

def Packet.parse (data : List UInt8) (hasTlsAuth : Bool) : Except ProtocolError Packet := do
  let (header, offset) ← PacketHeader.parse data hasTlsAuth
  if header.opcode.isData then
    if header.opcode = .dataV2 then do
      let peer ← readBytes data offset 3
      pure (.data ⟨header, some (peerIdOf (peer.get 0) (peer.get 1) (peer.get 2)),
        data.drop (offset + 3)⟩)
    else pure (.data ⟨header, none, data.drop offset⟩)
  else do
    let (acks, remoteSessionId, offset) ← parseAcks data offset
    let (messagePacketId, offset) := parseMessagePacketId header.opcode data offset
    let payload := if offset < data.length then data.drop offset else []
    pure (.control ⟨header, remoteSessionId, acks, messagePacketId, payload⟩)

/-! ## Serializing -/

def PacketHeader.serialize (header : PacketHeader) : List UInt8 :=
  header.opcode.toByte header.keyId ::
    (putIfSome List.Vector.toList header.hmac ++ putIfSome putU32 header.packetId ++
      putIfSome putU32 header.timestamp ++ putIfSome List.Vector.toList header.sessionId)

/-- `Packet::serialize`; the ack count is written as `acks.len() as u8`. -/
def Packet.serialize : Packet → List UInt8
  | .control ctrl =>
      ctrl.header.serialize ++ [UInt8.ofNat ctrl.acks.length] ++ ctrl.acks.flatMap putU32 ++
        (if ctrl.acks.isEmpty then [] else putIfSome List.Vector.toList ctrl.remoteSessionId) ++
        putIfSome putU32 ctrl.messagePacketId ++ ctrl.payload
  | .data packetData =>
      packetData.header.serialize ++ putIfSome putPeerId packetData.peerId ++ packetData.payload

def Packet.opcode : Packet → OpCode
  | .control ctrl => ctrl.header.opcode
  | .data packetData => packetData.header.opcode

def Packet.keyId : Packet → KeyId
  | .control ctrl => ctrl.header.keyId
  | .data packetData => packetData.header.keyId

/-! ## Reads that consume a serialized field -/

section Reads

variable {data rest : List UInt8} {offset : Nat}

theorem readBytes_vector {count : Nat} (positive : 0 < count) (bytes : List.Vector UInt8 count)
    (suffix : data.drop offset = bytes.toList ++ rest) :
    readBytes data offset count = .ok bytes ∧ data.drop (offset + count) = rest :=
  ⟨Wire.readAt_of_drop_eq _ positive bytes suffix, Wire.drop_after_read bytes.toList_length suffix⟩

theorem readBytes_putU32 (value : UInt32) (suffix : data.drop offset = putU32 value ++ rest) :
    ∃ bytes, readBytes data offset 4 = .ok bytes ∧ u32FromBeBytes bytes.toList = value ∧
      data.drop (offset + 4) = rest := by
  obtain ⟨read, after⟩ := readBytes_vector (by decide) ⟨putU32 value, length_putU32 value⟩ suffix
  exact ⟨_, read, u32FromBeBytes_putU32 value, after⟩

end Reads

theorem toList_eq_get_three {α : Type} (bytes : List.Vector α 3) :
    bytes.toList = [bytes.get 0, bytes.get 1, bytes.get 2] := by
  obtain ⟨list, three⟩ := bytes
  rcases list with _ | ⟨a, _ | ⟨b, _ | ⟨c, _ | ⟨d, list⟩⟩⟩⟩
  all_goals first | rfl | simp at three

/-! ## Parse, then serialize -/

theorem parseTlsAuth_eq_ok {data : List UInt8} {hasTlsAuth : Bool}
    {hmac : Option (List.Vector UInt8 32)} {packetId timestamp : Option UInt32} {offset : Nat}
    (parsed : parseTlsAuth data hasTlsAuth = .ok (hmac, packetId, timestamp, offset)) :
    data.drop 1 = putIfSome List.Vector.toList hmac ++ (putIfSome putU32 packetId ++
      (putIfSome putU32 timestamp ++ data.drop offset)) := by
  cases hasTlsAuth with
  | false =>
      cases parsed
      rfl
  | true =>
      obtain ⟨hmacBytes, readHmac, parsed⟩ := Wire.bind_eq_ok.mp parsed
      obtain ⟨idBytes, readId, parsed⟩ := Wire.bind_eq_ok.mp parsed
      obtain ⟨stampBytes, readStamp, parsed⟩ := Wire.bind_eq_ok.mp parsed
      cases parsed
      rw [putIfSome_some, putIfSome_some, putIfSome_some,
        putU32_u32FromBeBytes idBytes.toList_length, putU32_u32FromBeBytes stampBytes.toList_length,
        (Wire.readAt_eq_ok readHmac).2, (Wire.readAt_eq_ok readId).2, (Wire.readAt_eq_ok readStamp).2]

theorem PacketHeader.parse_eq_ok {data : List UInt8} {hasTlsAuth : Bool} {header : PacketHeader}
    {offset : Nat} (parsed : PacketHeader.parse data hasTlsAuth = .ok (header, offset)) :
    header.serialize ++ data.drop offset = data := by
  cases data with
  | nil => cases parsed
  | cons first rest =>
      obtain ⟨opcode, decoded, parsed⟩ := Wire.bind_eq_ok.mp parsed
      have firstByte := OpCode.toByte_fromByte decoded
      by_cases isData : opcode.isData
      · simp only [isData, ite_true] at parsed
        cases parsed
        simp only [PacketHeader.serialize, putIfSome_none, List.append_nil, firstByte,
          List.drop_one, List.tail_cons, List.cons_append, List.nil_append]
      · simp only [isData, Bool.false_eq_true, ite_false] at parsed
        obtain ⟨⟨hmac, packetId, timestamp, afterAuth⟩, auth, parsed⟩ := Wire.bind_eq_ok.mp parsed
        obtain ⟨sessionId, readSession, parsed⟩ := Wire.bind_eq_ok.mp parsed
        cases parsed
        have authFields := parseTlsAuth_eq_ok auth
        rw [(Wire.readAt_eq_ok readSession).2, List.drop_one, List.tail_cons] at authFields
        simp only [PacketHeader.serialize, firstByte, List.cons_append, List.append_assoc,
          putIfSome_some]
        conv_rhs => rw [authFields]

theorem parseAckIds_eq_ok {data : List UInt8} {count offset after : Nat}
    {acc acks : List PacketId} (parsed : parseAckIds data count offset acc = .ok (acks, after)) :
    ∃ ids : List PacketId, acks = acc ++ ids ∧ ids.length = count ∧
      data.drop offset = ids.flatMap putU32 ++ data.drop after := by
  induction count generalizing offset acc with
  | zero =>
      cases parsed
      exact ⟨[], by simp, rfl, rfl⟩
  | succ count ih =>
      obtain ⟨idBytes, readId, parsed⟩ := Wire.bind_eq_ok.mp parsed
      obtain ⟨ids, accumulated, counted, suffix⟩ := ih parsed
      refine ⟨u32FromBeBytes idBytes.toList :: ids, by simp [accumulated], by simp [counted], ?_⟩
      rw [(Wire.readAt_eq_ok readId).2, suffix, List.flatMap_cons,
        putU32_u32FromBeBytes idBytes.toList_length, List.append_assoc]

theorem parseAcks_eq_ok {data : List UInt8} {offset after : Nat} {acks : List PacketId}
    {remoteSessionId : Option SessionId}
    (parsed : parseAcks data offset = .ok (acks, remoteSessionId, after)) :
    data.drop offset = UInt8.ofNat acks.length :: (acks.flatMap putU32 ++
      ((if acks.isEmpty then [] else putIfSome List.Vector.toList remoteSessionId) ++
        data.drop after)) := by
  obtain ⟨count, readCount, parsed⟩ := Wire.bind_eq_ok.mp parsed
  have counted := (Wire.readAt_eq_ok readCount).2
  rw [List.Vector.toList_singleton, ← List.Vector.get_zero, List.singleton_append] at counted
  by_cases present : (count.get 0).toNat > 0
  · simp only [present, ite_true] at parsed
    obtain ⟨⟨ids, afterIds⟩, idsParsed, parsed⟩ := Wire.bind_eq_ok.mp parsed
    obtain ⟨sessionId, readSession, parsed⟩ := Wire.bind_eq_ok.mp parsed
    cases parsed
    obtain ⟨found, accumulated, length, suffix⟩ := parseAckIds_eq_ok idsParsed
    rw [List.nil_append] at accumulated
    subst accumulated
    have nonempty : ids.isEmpty = false := by
      rw [List.isEmpty_eq_false_iff, ← List.length_pos_iff]
      omega
    have lengthByte : UInt8.ofNat ids.length = count.get 0 := by
      rw [length, UInt8.ofNat_toNat]
    rw [counted, lengthByte, suffix, (Wire.readAt_eq_ok readSession).2, nonempty]
    rfl
  · simp only [present, ite_false] at parsed
    cases parsed
    have zero : count.get 0 = 0 := UInt8.toNat.inj (by simp only [UInt8.toNat_zero]; omega)
    rw [counted, zero]
    rfl

theorem parseMessagePacketId_suffix (opcode : OpCode) (data : List UInt8) (offset : Nat) :
    data.drop offset = putIfSome putU32 (parseMessagePacketId opcode data offset).1 ++
      data.drop (parseMessagePacketId opcode data offset).2 := by
  unfold parseMessagePacketId
  split
  · rename_i present
    have four : ((data.drop offset).take 4).length = 4 := by
      simp only [List.length_take, List.length_drop]
      omega
    rw [putIfSome_some, putU32_u32FromBeBytes four, ← List.drop_drop, List.take_append_drop]
  · rfl

theorem payload_eq_drop (data : List UInt8) (offset : Nat) :
    (if offset < data.length then data.drop offset else []) = data.drop offset := by
  split
  · rfl
  · rename_i past
    exact (List.drop_eq_nil_of_le (by omega)).symm

theorem Packet.parse_then_serialize {data : List UInt8} {hasTlsAuth : Bool} {packet : Packet}
    (parsed : Packet.parse data hasTlsAuth = .ok packet) : packet.serialize = data := by
  obtain ⟨⟨header, offset⟩, headerParsed, parsed⟩ := Wire.bind_eq_ok.mp parsed
  have front := PacketHeader.parse_eq_ok headerParsed
  by_cases isData : header.opcode.isData
  · simp only [isData, ite_true] at parsed
    by_cases second : header.opcode = .dataV2
    · simp only [second, ite_true] at parsed
      obtain ⟨peer, readPeer, parsed⟩ := Wire.bind_eq_ok.mp parsed
      cases parsed
      have peerSuffix := (Wire.readAt_eq_ok readPeer).2
      rw [toList_eq_get_three, ← putPeerId_peerIdOf] at peerSuffix
      rw [Packet.serialize, putIfSome_some, List.append_assoc, ← peerSuffix, front]
    · simp only [second, ite_false] at parsed
      cases parsed
      rw [Packet.serialize, putIfSome_none, List.append_nil, front]
  · simp only [isData, Bool.false_eq_true, ite_false] at parsed
    obtain ⟨⟨acks, remoteSessionId, afterAcks⟩, acksParsed, parsed⟩ := Wire.bind_eq_ok.mp parsed
    have acksSuffix := parseAcks_eq_ok acksParsed
    have idSuffix := parseMessagePacketId_suffix header.opcode data afterAcks
    generalize parseMessagePacketId header.opcode data afterAcks = messageId at parsed idSuffix
    obtain ⟨messagePacketId, afterId⟩ := messageId
    cases parsed
    dsimp only at idSuffix
    rw [Packet.serialize, payload_eq_drop]
    simp only [List.append_assoc, List.cons_append, List.nil_append]
    rw [← idSuffix, ← acksSuffix, front]

/-! ## Serialize, then parse -/

def Packet.WellFormed (hasTlsAuth : Bool) : Packet → Prop
  | .data packetData =>
      (packetData.header.opcode = .dataV1 ∨ packetData.header.opcode = .dataV2) ∧
      packetData.header.keyId.val.toNat < 8 ∧
      packetData.header.sessionId = none ∧ packetData.header.hmac = none ∧
      packetData.header.packetId = none ∧ packetData.header.timestamp = none ∧
      (packetData.peerId.isSome ↔ packetData.header.opcode = .dataV2) ∧
      packetData.peerId.all (fun peerId => decide (peerId.toNat < 2 ^ 24))
  | .control ctrl =>
      ctrl.header.keyId.val.toNat < 8 ∧
      ctrl.header.sessionId.isSome ∧
      ctrl.header.hmac.isSome = hasTlsAuth ∧
      ctrl.header.packetId.isSome = hasTlsAuth ∧
      ctrl.header.timestamp.isSome = hasTlsAuth ∧
      ctrl.acks.length ≤ 255 ∧
      ctrl.remoteSessionId.isSome = !ctrl.acks.isEmpty ∧
      (ctrl.header.opcode = .ackV1 → ctrl.messagePacketId = none) ∧
      (ctrl.header.opcode ≠ .ackV1 → ctrl.messagePacketId.isSome ∨ ctrl.payload.length < 4)

instance (hasTlsAuth : Bool) (packet : Packet) : Decidable (packet.WellFormed hasTlsAuth) := by
  cases packet <;> unfold Packet.WellFormed <;> infer_instance

def Packet.opcodeMatches (packet : Packet) : Bool :=
  match packet with
  | .control _ => packet.opcode.isControl
  | .data _ => packet.opcode.isData

theorem PacketHeader.parse_data_header {opcode : OpCode} {keyId : KeyId} (isData : opcode.isData)
    (small : keyId.val.toNat < 8) (rest : List UInt8) (hasTlsAuth : Bool) :
    PacketHeader.parse (opcode.toByte keyId :: rest) hasTlsAuth =
      .ok (⟨opcode, keyId, none, none, none, none⟩, 1) := by
  simp only [PacketHeader.parse, OpCode.fromByte_toByte, Wire.ok_bind, isData, ite_true,
    OpCode.keyId_fromByte_toByte opcode small]
  rfl

theorem parseTlsAuth_fields {data rest : List UInt8} {hasTlsAuth : Bool}
    {hmac : Option (List.Vector UInt8 32)} {packetId timestamp : Option UInt32}
    (hmacPresent : hmac.isSome = hasTlsAuth) (idPresent : packetId.isSome = hasTlsAuth)
    (stampPresent : timestamp.isSome = hasTlsAuth)
    (suffix : data.drop 1 = putIfSome List.Vector.toList hmac ++ (putIfSome putU32 packetId ++
      (putIfSome putU32 timestamp ++ rest))) :
    ∃ offset, parseTlsAuth data hasTlsAuth = .ok (hmac, packetId, timestamp, offset) ∧
      data.drop offset = rest := by
  cases hasTlsAuth with
  | false =>
      obtain rfl : hmac = none := by simpa using hmacPresent
      obtain rfl : packetId = none := by simpa using idPresent
      obtain rfl : timestamp = none := by simpa using stampPresent
      exact ⟨1, rfl, suffix⟩
  | true =>
      obtain ⟨hmac, rfl⟩ := Option.isSome_iff_exists.mp hmacPresent
      obtain ⟨packetId, rfl⟩ := Option.isSome_iff_exists.mp idPresent
      obtain ⟨timestamp, rfl⟩ := Option.isSome_iff_exists.mp stampPresent
      obtain ⟨readHmac, afterHmac⟩ := readBytes_vector (by decide) hmac suffix
      obtain ⟨idBytes, readId, idValue, afterId⟩ := readBytes_putU32 packetId afterHmac
      obtain ⟨stampBytes, readStamp, stampValue, afterStamp⟩ := readBytes_putU32 timestamp afterId
      refine ⟨1 + 32 + 4 + 4, ?_, afterStamp⟩
      simp only [parseTlsAuth, ite_true, readHmac, readId, readStamp, Wire.ok_bind, idValue,
        stampValue]
      rfl

theorem PacketHeader.parse_control_header {header : PacketHeader} {hasTlsAuth : Bool}
    (isControl : header.opcode.isData = false) (small : header.keyId.val.toNat < 8)
    (session : header.sessionId.isSome) (hmacPresent : header.hmac.isSome = hasTlsAuth)
    (idPresent : header.packetId.isSome = hasTlsAuth)
    (stampPresent : header.timestamp.isSome = hasTlsAuth) (rest : List UInt8) :
    ∃ offset, PacketHeader.parse (header.serialize ++ rest) hasTlsAuth = .ok (header, offset) ∧
      (header.serialize ++ rest).drop offset = rest := by
  obtain ⟨opcode, keyId, sessionId, hmac, packetId, timestamp⟩ := header
  obtain ⟨sessionId, rfl⟩ := Option.isSome_iff_exists.mp session
  have authSuffix : (PacketHeader.serialize ⟨opcode, keyId, some sessionId, hmac, packetId,
      timestamp⟩ ++ rest).drop 1 = putIfSome List.Vector.toList hmac ++ (putIfSome putU32 packetId ++
        (putIfSome putU32 timestamp ++ (sessionId.toList ++ rest))) := by
    simp [PacketHeader.serialize]
  obtain ⟨afterAuth, auth, sessionSuffix⟩ :=
    parseTlsAuth_fields hmacPresent idPresent stampPresent authSuffix
  obtain ⟨readSession, afterSession⟩ := readBytes_vector (by decide) sessionId sessionSuffix
  refine ⟨afterAuth + 8, ?_, afterSession⟩
  have firstByte : PacketHeader.serialize ⟨opcode, keyId, some sessionId, hmac, packetId,
      timestamp⟩ ++ rest = opcode.toByte keyId :: (putIfSome List.Vector.toList hmac ++
        (putIfSome putU32 packetId ++ (putIfSome putU32 timestamp ++ (sessionId.toList ++ rest)))) := by
    simp [PacketHeader.serialize]
  rw [firstByte] at auth readSession ⊢
  simp only [PacketHeader.parse, OpCode.fromByte_toByte, Wire.ok_bind, isControl,
    Bool.false_eq_true, ite_false, OpCode.keyId_fromByte_toByte opcode small, auth, readSession]
  rfl

theorem parseAckIds_putU32 {data rest : List UInt8} (ids : List PacketId) (offset : Nat)
    (acc : List PacketId) (suffix : data.drop offset = ids.flatMap putU32 ++ rest) :
    ∃ after, parseAckIds data ids.length offset acc = .ok (acc ++ ids, after) ∧
      data.drop after = rest := by
  induction ids generalizing offset acc with
  | nil => exact ⟨offset, by rw [List.append_nil]; rfl, suffix⟩
  | cons id ids ih =>
      rw [List.flatMap_cons, List.append_assoc] at suffix
      obtain ⟨idBytes, readId, idValue, afterId⟩ := readBytes_putU32 id suffix
      obtain ⟨after, parsed, afterIds⟩ := ih (offset + 4) (acc ++ [id]) afterId
      refine ⟨after, ?_, afterIds⟩
      simp only [List.length_cons, parseAckIds, readId, Wire.ok_bind, idValue, parsed,
        List.append_assoc, List.singleton_append]

theorem parseAcks_serialized {data rest : List UInt8} (acks : List PacketId)
    (remoteSessionId : Option SessionId) (offset : Nat) (bound : acks.length ≤ 255)
    (paired : remoteSessionId.isSome = !acks.isEmpty)
    (suffix : data.drop offset = UInt8.ofNat acks.length :: (acks.flatMap putU32 ++
      ((if acks.isEmpty then [] else putIfSome List.Vector.toList remoteSessionId) ++ rest))) :
    ∃ after, parseAcks data offset = .ok (acks, remoteSessionId, after) ∧ data.drop after = rest := by
  obtain ⟨readCount, afterCount⟩ :=
    readBytes_vector (by decide) (List.Vector.cons (UInt8.ofNat acks.length) List.Vector.nil) suffix
  have countValue : (UInt8.ofNat acks.length).toNat = acks.length := by
    rw [UInt8.toNat_ofNat']
    omega
  cases acks with
  | nil =>
      obtain rfl : remoteSessionId = none := by simpa using paired
      refine ⟨offset + 1, ?_, afterCount⟩
      simp only [parseAcks, readCount, Wire.ok_bind, List.Vector.get_cons_zero, List.length_nil]
      rfl
  | cons ack acks =>
      obtain ⟨sessionId, rfl⟩ := Option.isSome_iff_exists.mp (by simpa using paired)
      simp only [List.isEmpty_cons, Bool.false_eq_true, ite_false, putIfSome_some] at afterCount
      obtain ⟨afterIds, idsParsed, idsSuffix⟩ :=
        parseAckIds_putU32 (ack :: acks) (offset + 1) [] afterCount
      obtain ⟨readSession, afterSession⟩ := readBytes_vector (by decide) sessionId idsSuffix
      refine ⟨afterIds + 8, ?_, afterSession⟩
      have present : (ack :: acks).length > 0 := Nat.zero_lt_succ _
      simp only [parseAcks, readCount, Wire.ok_bind, List.Vector.get_cons_zero, countValue]
      simp only [present, ite_true, idsParsed, Wire.ok_bind, List.nil_append, readSession]
      rfl

theorem parseMessagePacketId_serialized {data payload : List UInt8} {opcode : OpCode}
    {messagePacketId : Option PacketId} {offset : Nat}
    (ack : opcode = .ackV1 → messagePacketId = none)
    (other : opcode ≠ .ackV1 → messagePacketId.isSome ∨ payload.length < 4)
    (suffix : data.drop offset = putIfSome putU32 messagePacketId ++ payload) :
    parseMessagePacketId opcode data offset =
      (messagePacketId, (parseMessagePacketId opcode data offset).2) ∧
    data.drop (parseMessagePacketId opcode data offset).2 = payload := by
  have lengths := congrArg List.length suffix
  rw [List.length_drop, List.length_append] at lengths
  cases messagePacketId with
  | some id =>
      have notAck : opcode ≠ .ackV1 := fun isAck => by cases ack isAck
      have enough : data.length ≥ offset + 4 := by
        rw [putIfSome_some, length_putU32] at lengths
        omega
      rw [putIfSome_some] at suffix
      have front : (data.drop offset).take 4 = putU32 id := by
        rw [suffix, List.take_left' (length_putU32 id)]
      simp only [parseMessagePacketId, ne_eq, notAck, not_false_eq_true, enough, and_self,
        ite_true, front, u32FromBeBytes_putU32, true_and]
      exact Wire.drop_after_read (length_putU32 id) suffix
  | none =>
      rw [putIfSome_none, List.nil_append] at suffix
      have unread : ¬ (opcode ≠ .ackV1 ∧ data.length ≥ offset + 4) := by
        rintro ⟨notAck, enough⟩
        rcases other notAck with present | short
        · simp at present
        · rw [putIfSome_none, List.length_nil] at lengths
          omega
      simp only [parseMessagePacketId, unread, ite_false, true_and]
      exact suffix

theorem Packet.parse_serialize_data (data : DataPacketData) {hasTlsAuth : Bool}
    (wellFormed : (Packet.data data).WellFormed hasTlsAuth) :
    Packet.parse (Packet.data data).serialize hasTlsAuth = .ok (.data data) := by
  obtain ⟨⟨opcode, keyId, sessionId, hmac, packetId, timestamp⟩, peerId, payload⟩ := data
  obtain ⟨dataOpcode, small, rfl, rfl, rfl, rfl, peerPresent, peerSmall⟩ := wellFormed
  have isData : opcode.isData := by rcases dataOpcode with rfl | rfl <;> rfl
  have header := PacketHeader.parse_data_header isData small
    (putIfSome putPeerId peerId ++ payload) hasTlsAuth
  simp only [Packet.serialize, PacketHeader.serialize, putIfSome_none, List.append_nil,
    List.cons_append, List.nil_append]
  simp only [Packet.parse, header, Wire.ok_bind, isData, ite_true]
  cases peerId with
  | none =>
      have notSecond : opcode ≠ .dataV2 := fun second => by simp [second] at peerPresent
      simp only [notSecond, ite_false, putIfSome_none, List.nil_append]
      rfl
  | some peerId =>
      obtain rfl : opcode = .dataV2 := peerPresent.mp rfl
      have fits : peerId.toNat < 2 ^ 24 := by simpa using peerSmall
      obtain ⟨readPeer, afterPeer⟩ := readBytes_vector (by decide)
        (⟨putPeerId peerId, length_putPeerId peerId⟩ : List.Vector UInt8 3)
        (show (OpCode.dataV2.toByte keyId :: (putIfSome putPeerId (some peerId) ++ payload)).drop 1 =
          putPeerId peerId ++ payload from rfl)
      simp only [ite_true, readPeer]
      rw [afterPeer]
      change Except.ok (Packet.data ⟨_, some (peerIdOf (peerId >>> 16).toUInt8
        (peerId >>> 8).toUInt8 peerId.toUInt8), payload⟩) = _
      rw [peerIdOf_putPeerId fits]

theorem Packet.parse_serialize_control (control : ControlPacketData) {hasTlsAuth : Bool}
    (wellFormed : (Packet.control control).WellFormed hasTlsAuth)
    (isControl : control.header.opcode.isControl) :
    Packet.parse (Packet.control control).serialize hasTlsAuth = .ok (.control control) := by
  obtain ⟨header, remoteSessionId, acks, messagePacketId, payload⟩ := control
  obtain ⟨small, session, hmacPresent, idPresent, stampPresent, bound, paired, ack, other⟩ :=
    wellFormed
  have notData : header.opcode.isData = false := by
    rw [OpCode.isControl_eq_not_isData] at isControl
    simpa using isControl
  obtain ⟨afterHeader, headerParsed, headerSuffix⟩ :=
    PacketHeader.parse_control_header notData small session hmacPresent idPresent stampPresent
      (UInt8.ofNat acks.length :: (acks.flatMap putU32 ++
        ((if acks.isEmpty then [] else putIfSome List.Vector.toList remoteSessionId) ++
          (putIfSome putU32 messagePacketId ++ payload))))
  obtain ⟨afterAcks, acksParsed, acksSuffix⟩ :=
    parseAcks_serialized acks remoteSessionId afterHeader bound paired headerSuffix
  obtain ⟨idParsed, idSuffix⟩ := parseMessagePacketId_serialized ack other acksSuffix
  have serialized : (Packet.control ⟨header, remoteSessionId, acks, messagePacketId, payload⟩).serialize =
      header.serialize ++ UInt8.ofNat acks.length :: (acks.flatMap putU32 ++
        ((if acks.isEmpty then [] else putIfSome List.Vector.toList remoteSessionId) ++
          (putIfSome putU32 messagePacketId ++ payload))) := by
    simp only [Packet.serialize, List.append_assoc, List.cons_append, List.nil_append]
  rw [serialized]
  simp only [Packet.parse, headerParsed, Wire.ok_bind, notData, Bool.false_eq_true, ite_false,
    acksParsed]
  rw [idParsed]
  dsimp only
  rw [payload_eq_drop, idSuffix]
  rfl

/-- The codec round-trips both ways: every accepted datagram is the serialization
of what was parsed, and every packet with the parser's field shape whose variant
agrees with its opcode class parses back from its serialization. -/
theorem packet_codec_round_trip (hasTlsAuth : Bool) :
    (∀ data packet, Packet.parse data hasTlsAuth = .ok packet → packet.serialize = data) ∧
    (∀ packet, packet.WellFormed hasTlsAuth → packet.opcodeMatches →
      Packet.parse packet.serialize hasTlsAuth = .ok packet) := by
  refine ⟨fun data packet parsed => Packet.parse_then_serialize parsed, ?_⟩
  intro packet wellFormed classMatches
  cases packet with
  | control ctrl => exact Packet.parse_serialize_control ctrl wellFormed classMatches
  | data packetData => exact Packet.parse_serialize_data packetData wellFormed

/-- Both directions at the hard-reset datagram of the source's parser test. -/
theorem packet_codec_round_trip_hard_reset :
    let datagram : List UInt8 := [0x38, 1, 2, 3, 4, 5, 6, 7, 8, 0]
    let packet := Packet.control ⟨⟨.hardResetClientV2, ⟨0⟩, some ⟨[1, 2, 3, 4, 5, 6, 7, 8], rfl⟩,
      none, none, none⟩, none, [], none, []⟩
    packet.serialize = datagram ∧ Packet.parse packet.serialize false = .ok packet := by
  intro datagram packet
  have parsed : Packet.parse datagram false = .ok packet := by decide
  exact ⟨(packet_codec_round_trip false).1 datagram packet parsed,
    (packet_codec_round_trip false).2 packet (by decide) rfl⟩

/-- A `Control` value with a data opcode meets every field condition, but its
first byte sends the parser down the data path. -/
theorem control_with_data_opcode_reparses_as_data :
    let packet := Packet.control ⟨⟨.dataV1, ⟨0⟩, some (List.Vector.replicate 8 0), none, none, none⟩,
      none, [], none, []⟩
    packet.WellFormed false ∧ Packet.parse packet.serialize false ≠ .ok packet := by
  decide

end CoreVpn.Protocol
