import CoreVpn.Protocol.Session
import Mathlib.Data.List.GetD

/-!
# The data channel end to end

A client and a server that installed keys from one `KeyMaterial` under one key id
exchange IP packets over the data channel. The client's `encrypt_data` seals
packet `i` under counter `i + 1`, so under a nonce of its own; the server's
`process_packet` hands each datagram to the channel of its key id, whose replay
window decides on the counter, and an accepted datagram gives back the packet.

`Sending` and `Receiving` say what an installed channel looks like between two
calls. `encryptData_sealed` and `processPacket_sealed` are the two step lemmas,
`encryptData_run` and `processPacket_run` the run lemmas; the second says the
server answers a run of sealed datagrams exactly as `ReplayWindow.answers` answers
their counters, which is where the replay window's own theorems take over.
-/

namespace CoreVpn.Protocol

open CoreVpn.Crypto PacketCipher

set_option autoImplicit false

/-! ## Counters below the limit -/

theorem toNat_uint64_ofNat {n : Nat} (small : n < 2 ^ 64) : (UInt64.ofNat n).toNat = n := by
  rw [UInt64.toNat_ofNat', Nat.mod_eq_of_lt small]

theorem counter_succ {counter : UInt64} {sent : Nat} (counted : counter.toNat = sent)
    (room : sent + 1 < 2 ^ 64) : counter + 1 = UInt64.ofNat (sent + 1) := by
  apply UInt64.toNat_inj.mp
  rw [UInt64.toNat_add, UInt64.toNat_one, counted, toNat_uint64_ofNat room, Nat.mod_eq_of_lt room]

theorem counter_ne_max {counter : UInt64} {sent : Nat} (counted : counter.toNat = sent)
    (room : sent + 1 < 2 ^ 64) : counter ≠ UInt64.ofNat (2 ^ 64 - 1) := by
  intro full
  have same := congrArg UInt64.toNat full
  rw [counted, toNat_uint64_ofNat (by norm_num)] at same
  omega

theorem counter_injective {left right : Nat} (leftSmall : left < 2 ^ 64) (rightSmall : right < 2 ^ 64)
    (same : UInt64.ofNat left = UInt64.ofNat right) : left = right := by
  rw [← toNat_uint64_ofNat leftSmall, ← toNat_uint64_ofNat rightSmall, same]

namespace ProtocolSession

def sendNonce (session : ProtocolSession) : Option Nonce :=
  (session.channelAt session.currentKeyId).map fun channel => channel.encryptCipher.nextNonce

def deliveryOf (fresh : Bool) (message : List UInt8) : Except ProtocolError ProcessedPacket :=
  if fresh then .ok (.data message) else .error (.cryptoError .replayDetected)

section DataPath

variable (aead : Aead) (mac : Key → List UInt8 → List.Vector UInt8 32)

/-- A datagram that carries `message` under `counter`, sealed with `cipher` by a
channel of key id `keyId`. -/
def Sealed (cipher : Cipher) (keyId : KeyId) (counter : UInt64) (message datagram : List UInt8) :
    Prop :=
  ∃ peerId ciphertext, (∀ id ∈ peerId, id.toNat < 2 ^ 24) ∧
    datagram = (DataPacket.mk keyId peerId (u64ToBeBytes counter ++ ciphertext)).serialize ∧
    aead.encrypt cipher.suite cipher.key (nonceOf (u64ToBeBytes counter)) message
      (u64ToBeBytes counter) = some ciphertext

/-- A sender between calls: its current key id has a channel that seals with
`cipher` and has sent `sent` packets. -/
structure Sending (session : ProtocolSession) (keyId : KeyId) (cipher : Cipher) (sent : Nat) :
    Prop where
  current : session.currentKeyId = keyId
  small : keyId.val.toNat < 8
  installed : ∃ channel, session.channelAt keyId = some channel ∧ channel.keyId = keyId ∧
    (∀ id ∈ (if channel.useV2 then channel.peerId else none), id.toNat < 2 ^ 24) ∧
    channel.encryptCipher.cipher = cipher ∧ channel.encryptCipher.txCounter.toNat = sent

/-- A receiver between calls: key id `keyId` has a channel that opens with `cipher`
and whose replay window is `window`. -/
structure Receiving (session : ProtocolSession) (keyId : KeyId) (cipher : Cipher)
    (window : ReplayWindow) : Prop where
  small : keyId.val.toNat < 8
  installed : ∃ channel, session.channelAt keyId = some channel ∧ channel.keyId = keyId ∧
    channel.decryptCipher.cipher = cipher ∧ channel.decryptCipher.rxWindow = window

theorem encryptData_sealed (correct : aead.Correct) {session : ProtocolSession} {keyId : KeyId}
    {cipher : Cipher} {sent : Nat} (sending : Sending session keyId cipher sent)
    (room : sent + 1 < 2 ^ 64) (message : List UInt8) :
    ∃ datagram, (session.encryptData aead message).1 = .ok datagram ∧
      Sealed aead cipher keyId (UInt64.ofNat (sent + 1)) message datagram ∧
      Sending (session.encryptData aead message).2 keyId cipher (sent + 1) ∧
      session.sendNonce = some (nonceOf (u64ToBeBytes (UInt64.ofNat (sent + 1)))) := by
  obtain ⟨current, small, channel, found, keyed, peerSmall, ciphered, counted⟩ := sending
  obtain ⟨index, located, stored⟩ := get_of_channelAt found
  have next := counter_succ counted room
  obtain ⟨ciphertext, sealed⟩ := correct.seals cipher.suite cipher.key
    (nonceOf (u64ToBeBytes (UInt64.ofNat (sent + 1)))) message (u64ToBeBytes (UInt64.ofNat (sent + 1)))
  have encrypted : channel.encryptCipher.encrypt aead message =
      (.ok (u64ToBeBytes (UInt64.ofNat (sent + 1)) ++ ciphertext),
        { channel.encryptCipher with txCounter := UInt64.ofNat (sent + 1) }) := by
    rw [← next]
    apply encrypt_of_sealed aead _ _ (counter_ne_max counted room)
    rw [nextNonce, next, ciphered]
    exact sealed
  have currentLocated : keyIndex session.currentKeyId = some index := by
    rw [current]
    exact located
  rw [encryptData_eq aead currentLocated stored]
  simp only [DataChannel.encrypt, encrypted, keyed]
  refine ⟨_, rfl, ⟨_, ciphertext, peerSmall, rfl, sealed⟩,
    ⟨current, small, _, channelAt_set session located _, rfl, peerSmall, ciphered, ?_⟩, ?_⟩
  · exact toNat_uint64_ofNat room
  · simp only [sendNonce, current, found, Option.map_some, nextNonce, next]

theorem processPacket_sealed (correct : aead.Correct) {session : ProtocolSession} {keyId : KeyId}
    {cipher : Cipher} {window : ReplayWindow} (receiving : Receiving session keyId cipher window)
    {counter : UInt64} {message datagram : List UInt8}
    (sealed : Sealed aead cipher keyId counter message datagram) :
    (session.processPacket aead mac datagram).1 =
        deliveryOf (window.checkAndUpdate counter).1 message ∧
      Receiving (session.processPacket aead mac datagram).2 keyId cipher
        (window.checkAndUpdate counter).2 := by
  obtain ⟨small, channel, found, keyed, ciphered, windowed⟩ := receiving
  obtain ⟨index, located, stored⟩ := get_of_channelAt found
  obtain ⟨peerId, ciphertext, peerSmall, rfl, encrypted⟩ := sealed
  have tagged : CipherSuite.tagSize ≤ ciphertext.length := by
    rw [correct.tagged _ _ _ _ _ _ encrypted]
    omega
  have opened := channel.decryptCipher.decrypt_sealed aead counter tagged
    (by rw [ciphered]; exact correct.opens _ _ _ _ _ _ encrypted)
  rw [processPacket_dataPacket aead mac session _ small peerSmall located stored,
    DataChannel.decrypt_of_keyId aead channel keyed.symm]
  simp only [opened, windowed]
  constructor
  · unfold deliveryOf
    split <;> rfl
  · exact ⟨small, _, channelAt_set session located _, keyed, ciphered, rfl⟩

theorem encryptData_run (correct : aead.Correct) {keyId : KeyId} {cipher : Cipher}
    (messages : List (List UInt8)) :
    ∀ {session : ProtocolSession} {sent : Nat}, Sending session keyId cipher sent →
      sent + messages.length < 2 ^ 64 →
      ∃ datagrams : List (List UInt8),
        (Machine.run (encryptData aead) session messages).1 = datagrams.map .ok ∧
        ∀ i (inside : i < messages.length),
          Sealed aead cipher keyId (UInt64.ofNat (sent + i + 1)) messages[i] (datagrams.getD i []) ∧
          (Machine.run (encryptData aead) session (messages.take i)).2.sendNonce =
            some (nonceOf (u64ToBeBytes (UInt64.ofNat (sent + i + 1)))) := by
  induction messages with
  | nil => exact fun _ _ => ⟨[], rfl, fun i inside => absurd inside (Nat.not_lt_zero i)⟩
  | cons message messages ih =>
      intro session sent sending room
      simp only [List.length_cons] at room
      obtain ⟨datagram, answered, sealedNow, sendingNext, nonceNow⟩ :=
        encryptData_sealed aead correct sending (by omega) message
      obtain ⟨datagrams, answers, later⟩ := ih sendingNext (by omega)
      refine ⟨datagram :: datagrams, ?_, ?_⟩
      · simp only [Machine.run_cons, answered, answers, List.map_cons]
      · intro i inside
        cases i with
        | zero => exact ⟨sealedNow, nonceNow⟩
        | succ i =>
            have shifted : sent + (i + 1) + 1 = sent + 1 + i + 1 := by omega
            obtain ⟨sealedLater, nonceLater⟩ := later i (by simpa using inside)
            rw [shifted]
            exact ⟨sealedLater, nonceLater⟩

theorem processPacket_run (correct : aead.Correct) {keyId : KeyId} {cipher : Cipher}
    (deliveries : List (UInt64 × List UInt8 × List UInt8))
    (sealedAll : ∀ delivery ∈ deliveries,
      Sealed aead cipher keyId delivery.1 delivery.2.1 delivery.2.2) :
    ∀ {session : ProtocolSession} {window : ReplayWindow}, Receiving session keyId cipher window →
      (Machine.run (processPacket aead mac) session (deliveries.map (·.2.2))).1 =
        List.zipWith deliveryOf (Machine.run ReplayWindow.checkAndUpdate window
          (deliveries.map (·.1))).1 (deliveries.map (·.2.1)) := by
  induction deliveries with
  | nil => exact fun _ => rfl
  | cons delivery deliveries ih =>
      intro session window receiving
      obtain ⟨answered, receivingNext⟩ :=
        processPacket_sealed aead mac correct receiving (sealedAll delivery List.mem_cons_self)
      have rest := ih (fun later member => sealedAll later (List.mem_cons_of_mem _ member))
        receivingNext
      simp only [List.map_cons, Machine.run_cons, List.zipWith_cons_cons, answered, rest]

/-! ## Both ends installed from one key material -/

theorem sending_installKeys (session : ProtocolSession) (keyMaterial : KeyMaterial)
    (small : session.currentKeyId.val.toNat < 8)
    (peerSmall : ∀ id ∈ session.peerId, id.toNat < 2 ^ 24) :
    Sending (session.installKeys keyMaterial false) session.currentKeyId
      (keyMaterial.clientDataKey session.cipherSuite).cipher 0 :=
  ⟨currentKeyId_installKeys session keyMaterial false, small, _,
    channelAt_installKeys session keyMaterial false small, rfl, peerSmall, rfl, rfl⟩

theorem receiving_installKeys (session : ProtocolSession) (keyMaterial : KeyMaterial)
    (small : session.currentKeyId.val.toNat < 8) :
    Receiving (session.installKeys keyMaterial true) session.currentKeyId
      (keyMaterial.clientDataKey session.cipherSuite).cipher ReplayWindow.new :=
  ⟨small, _, channelAt_installKeys session keyMaterial true small, rfl, rfl, rfl⟩

theorem toNat_counters {order : List Nat} (below : ∀ i ∈ order, i + 1 < 2 ^ 64) :
    (order.map fun i => UInt64.ofNat (i + 1)).map UInt64.toNat = order.map (· + 1) := by
  rw [List.map_map]
  exact List.map_congr_left fun i member => toNat_uint64_ofNat (below i member)

theorem counter_mem_counters {order : List Nat} (below : ∀ i ∈ order, i + 1 < 2 ^ 64) {i : Nat}
    (small : i + 1 < 2 ^ 64) :
    UInt64.ofNat (i + 1) ∈ order.map (fun j => UInt64.ofNat (j + 1)) ↔ i ∈ order := by
  constructor
  · intro member
    obtain ⟨j, inOrder, same⟩ := List.mem_map.mp member
    have equal := counter_injective (below j inOrder) small same
    rw [← Nat.add_right_cancel equal]
    exact inOrder
  · exact List.mem_map_of_mem

/-- The data channel end to end. A client and a server install keys from one key
material, under one cipher suite and one key id. The client seals the IP packets
`messages` with one `encrypt_data` call each, and the server is handed the datagrams
in the order `order`, indices into `messages` with repeats allowed. While each
datagram's counter (`i + 1` for datagram `i`) is above, or less than 128 below, the
highest counter handed over before it, the server answers the first delivery of
datagram `i` with packet `i` and every later delivery with a replay error; and no
two `encrypt_data` calls seal under the same nonce. -/
theorem data_channel_delivers_each_packet_once (correct : aead.Correct)
    (client server : ProtocolSession) (keyMaterial : KeyMaterial)
    (sameSuite : client.cipherSuite = server.cipherSuite)
    (sameKeyId : client.currentKeyId = server.currentKeyId)
    (small : client.currentKeyId.val.toNat < 8)
    (peerSmall : ∀ id ∈ client.peerId, id.toNat < 2 ^ 24)
    (messages : List (List UInt8)) (few : messages.length + 1 < 2 ^ 64)
    (order : List Nat) (sentBefore : ∀ i ∈ order, i < messages.length)
    (nearHighest : ∀ k (inside : k < order.length),
      ((order.take k).map (· + 1)).foldr max 0 < order[k] + 1 + 128) :
    ∃ datagrams : List (List UInt8),
      (Machine.run (encryptData aead) (client.installKeys keyMaterial false) messages).1 =
        datagrams.map .ok ∧
      (∀ k (inside : k < order.length),
        (Machine.run (processPacket aead mac) (server.installKeys keyMaterial true)
            (order.map fun i => datagrams.getD i [])).1[k]? =
          some (if order[k] ∈ order.take k then .error (.cryptoError .replayDetected)
            else .ok (.data (messages.getD order[k] [])))) ∧
      (∀ i j, i ≠ j → i < messages.length → j < messages.length →
        (Machine.run (encryptData aead) (client.installKeys keyMaterial false)
            (messages.take i)).2.sendNonce ≠
          (Machine.run (encryptData aead) (client.installKeys keyMaterial false)
            (messages.take j)).2.sendNonce) := by
  have below : ∀ i ∈ order, i + 1 < 2 ^ 64 := fun i member => by
    have := sentBefore i member
    omega
  have receiving : Receiving (server.installKeys keyMaterial true) client.currentKeyId
      (keyMaterial.clientDataKey client.cipherSuite).cipher ReplayWindow.new := by
    rw [sameKeyId, sameSuite]
    exact receiving_installKeys server keyMaterial (sameKeyId ▸ small)
  obtain ⟨datagrams, answers, sealedEach⟩ :=
    encryptData_run aead correct messages (sending_installKeys client keyMaterial small peerSmall)
      (by omega)
  refine ⟨datagrams, answers, ?_, ?_⟩
  · -- the server's run is the replay window's run on the counters
    let delivery (i : Nat) : UInt64 × List UInt8 × List UInt8 :=
      (UInt64.ofNat (i + 1), messages.getD i [], datagrams.getD i [])
    have sealedAll : ∀ handed ∈ order.map delivery,
        Sealed aead (keyMaterial.clientDataKey client.cipherSuite).cipher client.currentKeyId
          handed.1 handed.2.1 handed.2.2 := by
      intro handed member
      obtain ⟨i, inOrder, rfl⟩ := List.mem_map.mp member
      have inside := sentBefore i inOrder
      have sealedNow := (sealedEach i inside).1
      rw [Nat.zero_add, ← List.getD_eq_getElem messages [] inside] at sealedNow
      exact sealedNow
    have outputs := processPacket_run aead mac correct (order.map delivery) sealedAll receiving
    simp only [List.map_map] at outputs
    intro k inside
    have fresh := ReplayWindow.answers_getElem?_of_near (order.map fun i => UInt64.ofNat (i + 1))
      (fun counter member => by
        obtain ⟨i, inOrder, rfl⟩ := List.mem_map.mp member
        rw [ne_eq, ← UInt64.toNat_inj, toNat_uint64_ofNat (below i inOrder)]
        exact Nat.succ_ne_zero i)
      (fun j within => by
        rw [List.map_take, toNat_counters below, List.getElem_map,
          toNat_uint64_ofNat (below _ (List.getElem_mem _)), ← List.map_take]
        exact nearHighest j (by simpa using within))
      k (by simpa using inside)
    have delivered : (fun handed => handed.2.2) ∘ delivery = fun i => datagrams.getD i [] := rfl
    have countersOf : (fun handed => handed.1) ∘ delivery = fun i => UInt64.ofNat (i + 1) := rfl
    have messagesOf : (fun handed => handed.2.1) ∘ delivery = fun i => messages.getD i [] := rfl
    have earlier : ∀ i ∈ order.take k, i + 1 < 2 ^ 64 := fun i member =>
      below i (List.mem_of_mem_take member)
    rw [delivered] at outputs
    unfold ReplayWindow.answers at fresh
    rw [outputs, List.getElem?_zipWith, countersOf, messagesOf, fresh, List.getElem?_map,
      List.getElem?_eq_getElem inside, Option.map_some]
    simp only [List.getElem_map, ← List.map_take,
      counter_mem_counters earlier (below _ (List.getElem_mem inside))]
    unfold deliveryOf
    by_cases seen : order[k] ∈ order.take k <;> simp [seen]
  · intro i j different first second same
    have nonceFirst := (sealedEach i first).2
    have nonceSecond := (sealedEach j second).2
    rw [nonceFirst, nonceSecond, Option.some.injEq] at same
    have counters := counter_injective (by omega) (by omega) (nonceOf_u64ToBeBytes_injective same)
    omega

def zeroTagAead : Aead where
  encrypt _ _ _ plaintext _ := some (plaintext ++ List.replicate CipherSuite.tagSize 0)
  decrypt _ _ _ ciphertext _ := some (ciphertext.take (ciphertext.length - CipherSuite.tagSize))

theorem zeroTagAead_correct : zeroTagAead.Correct where
  seals _ _ _ _ _ := ⟨_, rfl⟩
  tagged _ _ _ plaintext _ ciphertext sealed := by
    obtain rfl := Option.some.inj sealed
    simp
  opens _ _ _ plaintext _ ciphertext sealed := by
    obtain rfl := Option.some.inj sealed
    simp [zeroTagAead]

theorem data_channel_delivers_each_packet_once_reordered :
    let client := ProtocolSession.newClient ⟨[1, 2, 3, 4, 5, 6, 7, 8], rfl⟩ .chaCha20Poly1305
    let server := ProtocolSession.newServer ⟨[8, 7, 6, 5, 4, 3, 2, 1], rfl⟩ .chaCha20Poly1305
    let keyMaterial : KeyMaterial := ⟨List.Vector.replicate 32 1, List.Vector.replicate 32 2,
      List.Vector.replicate 32 3, List.Vector.replicate 32 4⟩
    let messages : List (List UInt8) := [[0x45, 0], [0x45, 1]]
    let order := [1, 0, 1]
    zeroTagAead.Correct ∧ client.cipherSuite = server.cipherSuite ∧
      client.currentKeyId = server.currentKeyId ∧ client.currentKeyId.val.toNat < 8 ∧
      (∀ id ∈ client.peerId, id.toNat < 2 ^ 24) ∧ messages.length + 1 < 2 ^ 64 ∧
      (∀ i ∈ order, i < messages.length) ∧
      (∀ k (inside : k < order.length),
        ((order.take k).map (· + 1)).foldr max 0 < order[k] + 1 + 128) ∧
      ∃ datagrams : List (List UInt8),
        (Machine.run (encryptData zeroTagAead) (client.installKeys keyMaterial false) messages).1 =
          datagrams.map .ok ∧
        (∀ k (inside : k < order.length),
          (Machine.run (processPacket zeroTagAead fun key _ => key)
              (server.installKeys keyMaterial true) (order.map fun i => datagrams.getD i [])).1[k]? =
            some (if order[k] ∈ order.take k then .error (.cryptoError .replayDetected)
              else .ok (.data (messages.getD order[k] [])))) ∧
        (∀ i j, i ≠ j → i < messages.length → j < messages.length →
          (Machine.run (encryptData zeroTagAead) (client.installKeys keyMaterial false)
              (messages.take i)).2.sendNonce ≠
            (Machine.run (encryptData zeroTagAead) (client.installKeys keyMaterial false)
              (messages.take j)).2.sendNonce) :=
  ⟨zeroTagAead_correct, rfl, rfl, by decide, (by intro _ absent; cases absent), by decide, by decide,
    by decide,
    data_channel_delivers_each_packet_once zeroTagAead (fun key _ => key) zeroTagAead_correct
      (ProtocolSession.newClient ⟨[1, 2, 3, 4, 5, 6, 7, 8], rfl⟩ .chaCha20Poly1305)
      (ProtocolSession.newServer ⟨[8, 7, 6, 5, 4, 3, 2, 1], rfl⟩ .chaCha20Poly1305) _ rfl rfl (by decide) (by intro _ absent; cases absent) [[0x45, 0], [0x45, 1]] (by decide)
      [1, 0, 1] (by decide) (by decide)⟩

end DataPath

end ProtocolSession

end CoreVpn.Protocol
