import CoreVpn.Protocol.Opcode
import CoreVpn.Lib.SortedMap
import CoreVpn.Lib.Machine

/-!
# The reliable control channel and TLS record reassembly

`ReliableTransport` and `TlsRecordReassembler` (`corevpn-protocol/src/reliable.rs`).

Time is outside the model. The RTT estimate, the send and retransmit instants
and the instant of the last ACK decide only *when* something happens, so
`getRetransmits` takes the set of pending ids whose timer has expired from its
caller, and the fields that hold instants and durations are left out.

The reassembler is a machine over `add` and `extractRecords` calls. Over any
run it returns exactly the bytes it accepted, cut into records whose length
field is right, and holds at most `maxSize` bytes.
-/

namespace CoreVpn.Protocol

set_option autoImplicit false

/-- `u32` values compare as numbers; ordered maps keyed by packet ids use this order. -/
instance uint32LinearOrder : LinearOrder UInt32 where
  le_refl a := UInt32.le_iff_toNat_le.mpr (Nat.le_refl _)
  le_trans a b c first second := UInt32.le_iff_toNat_le.mpr
    (Nat.le_trans (UInt32.le_iff_toNat_le.mp first) (UInt32.le_iff_toNat_le.mp second))
  le_antisymm a b first second := UInt32.toNat_inj.mp
    (Nat.le_antisymm (UInt32.le_iff_toNat_le.mp first) (UInt32.le_iff_toNat_le.mp second))
  le_total a b := by
    simp only [UInt32.le_iff_toNat_le]
    omega
  lt_iff_le_not_ge a b := by
    simp only [UInt32.lt_iff_toNat_lt, UInt32.le_iff_toNat_le]
    omega
  toDecidableLE := inferInstance
  toDecidableEq := inferInstance
  toDecidableLT := inferInstance

/-- `struct ReliableConfig`, the two limits the modelled operations read. -/
structure ReliableConfig where
  maxRetransmits : UInt32
  windowSize : UInt32
  deriving DecidableEq, Repr

def ReliableConfig.default : ReliableConfig := ⟨10, 8⟩

/-- `struct PendingPacket` without its instants and timeout. -/
structure PendingPacket where
  data : List UInt8
  retransmits : UInt32
  deriving DecidableEq

/-- `struct ReliableTransport` without its clock fields. -/
structure ReliableTransport where
  config : ReliableConfig
  nextSendId : UInt32
  nextRecvId : UInt32
  pending : SortedMap UInt32 PendingPacket
  pendingAcks : List UInt32
  outOfOrder : SortedMap UInt32 (List UInt8)
  deriving DecidableEq

namespace ReliableTransport

def new (config : ReliableConfig) : ReliableTransport :=
  ⟨config, 0, 0, .empty, [], .empty⟩

/-- `send`: refused when the window is full, otherwise queued under the next id. -/
def send (transport : ReliableTransport) (data : List UInt8) :
    Except ProtocolError (UInt32 × List UInt8) × ReliableTransport :=
  if transport.pending.size ≥ transport.config.windowSize.toNat then
    (.error (.invalidPacket "send window full"), transport)
  else
    let packetId := transport.nextSendId
    (.ok (packetId, data),
      { transport with
        nextSendId := packetId + 1
        pending := transport.pending.insert packetId ⟨data, 0⟩ })

def skipBuffered : Nat → UInt32 → SortedMap UInt32 (List UInt8) →
    UInt32 × SortedMap UInt32 (List UInt8)
  | 0, next, buffered => (next, buffered)
  | fuel + 1, next, buffered =>
      match buffered.remove next with
      | (some _, buffered) => skipBuffered fuel (next + 1) buffered
      | (none, buffered) => (next, buffered)

/-- `receive`: an in-order packet is returned, a later one is buffered, an earlier
one is a duplicate; every id received is queued for acknowledgement. -/
def receive (transport : ReliableTransport) (packetId : UInt32) (data : List UInt8) :
    Option (List UInt8) × ReliableTransport :=
  let transport := { transport with pendingAcks := transport.pendingAcks ++ [packetId] }
  if packetId = transport.nextRecvId then
    let (next, outOfOrder) :=
      skipBuffered transport.outOfOrder.size (transport.nextRecvId + 1) transport.outOfOrder
    (some data, { transport with nextRecvId := next, outOfOrder := outOfOrder })
  else if packetId > transport.nextRecvId then
    (none, { transport with outOfOrder := transport.outOfOrder.insert packetId data })
  else (none, transport)

/-- `process_acks`: every acknowledged id leaves the pending map. -/
def processAcks (transport : ReliableTransport) (acks : List UInt32) : ReliableTransport :=
  { transport with pending := acks.foldl (fun pending ackId => pending.erase ackId) transport.pending }

/-- `get_acks`: drain the queued acknowledgements. -/
def getAcks (transport : ReliableTransport) : List UInt32 × ReliableTransport :=
  (transport.pendingAcks, { transport with pendingAcks := [] })

/-- `get_retransmits`, for the pending ids whose timer `due` says has expired: each
one still under the retransmit limit is resent in id order and counted. -/
def getRetransmits (transport : ReliableTransport) (due : UInt32 → Bool) :
    List (UInt32 × List UInt8) × ReliableTransport :=
  let resend (id : UInt32) (pending : PendingPacket) : Bool :=
    due id && decide (pending.retransmits < transport.config.maxRetransmits)
  ((transport.pending.entries.filter (fun entry => resend entry.1 entry.2)).map
      (fun entry => (entry.1, entry.2.data)),
    { transport with
      pending := transport.pending.mapValues fun id pending =>
        if resend id pending then { pending with retransmits := pending.retransmits + 1 }
        else pending })

/-! ### What the operations change -/

@[simp] theorem getAcks_fst (transport : ReliableTransport) :
    transport.getAcks.1 = transport.pendingAcks := rfl

@[simp] theorem getAcks_snd (transport : ReliableTransport) :
    transport.getAcks.2 = { transport with pendingAcks := [] } := rfl

@[simp] theorem nextRecvId_send (transport : ReliableTransport) (data : List UInt8) :
    (transport.send data).2.nextRecvId = transport.nextRecvId := by
  unfold send
  split <;> rfl

@[simp] theorem pendingAcks_send (transport : ReliableTransport) (data : List UInt8) :
    (transport.send data).2.pendingAcks = transport.pendingAcks := by
  unfold send
  split <;> rfl

theorem skipBuffered_stops (fuel : Nat) (next : UInt32) (buffered : SortedMap UInt32 (List UInt8))
    (enough : buffered.size ≤ fuel) :
    (skipBuffered fuel next buffered).2.find? (skipBuffered fuel next buffered).1 = none := by
  induction fuel generalizing next buffered with
  | zero =>
      have empty : buffered.entries = [] := List.eq_nil_of_length_eq_zero (by
        simp only [SortedMap.size] at enough
        omega)
      simp only [skipBuffered, SortedMap.find?, empty, List.dlookup_nil]
  | succ fuel ih =>
      simp only [skipBuffered, SortedMap.remove]
      cases found : buffered.find? next with
      | none => simp only [SortedMap.find?_erase_self]
      | some payload =>
          apply ih
          have fewer := buffered.size_erase_of_find?_isSome
            (show (buffered.find? next).isSome by simp [found])
          omega

theorem receive_ahead (transport : ReliableTransport) {packetId : UInt32} (data : List UInt8)
    (ahead : transport.nextRecvId < packetId) :
    transport.receive packetId data =
      (none, { transport with
        pendingAcks := transport.pendingAcks ++ [packetId]
        outOfOrder := transport.outOfOrder.insert packetId data }) := by
  have distinct : packetId ≠ transport.nextRecvId := ne_of_gt ahead
  simp only [receive, distinct, if_false, gt_iff_lt, ahead, if_true]

theorem receive_in_order (transport : ReliableTransport) (data : List UInt8) :
    transport.receive transport.nextRecvId data =
      (some data, { transport with
        pendingAcks := transport.pendingAcks ++ [transport.nextRecvId]
        nextRecvId := (skipBuffered transport.outOfOrder.size (transport.nextRecvId + 1)
          transport.outOfOrder).1
        outOfOrder := (skipBuffered transport.outOfOrder.size (transport.nextRecvId + 1)
          transport.outOfOrder).2 }) := by
  simp only [receive, if_true]

theorem receive_duplicate (transport : ReliableTransport) {packetId : UInt32} (data : List UInt8)
    (behind : packetId < transport.nextRecvId) :
    transport.receive packetId data =
      (none, { transport with pendingAcks := transport.pendingAcks ++ [packetId] }) := by
  have distinct : packetId ≠ transport.nextRecvId := ne_of_lt behind
  have notAhead : ¬ transport.nextRecvId < packetId := not_lt_of_gt behind
  simp only [receive, distinct, if_false, gt_iff_lt, notAhead]

theorem receive_delivers_own_payload (transport : ReliableTransport) (packetId : UInt32)
    (data : List UInt8) {delivered : List UInt8}
    (returned : (transport.receive packetId data).1 = some delivered) : delivered = data := by
  rcases lt_trichotomy packetId transport.nextRecvId with behind | rfl | ahead
  · rw [receive_duplicate transport data behind] at returned
    cases returned
  · rw [receive_in_order] at returned
    exact (Option.some.inj returned).symm
  · rw [receive_ahead transport data ahead] at returned
    cases returned

/-! ### What the send side's operations do -/

theorem send_of_full (transport : ReliableTransport) (data : List UInt8)
    (full : transport.config.windowSize.toNat ≤ transport.pending.size) :
    transport.send data = (.error (.invalidPacket "send window full"), transport) := by
  simp only [send, ge_iff_le, full, if_true]

theorem send_of_room (transport : ReliableTransport) (data : List UInt8)
    (room : transport.pending.size < transport.config.windowSize.toNat) :
    transport.send data =
      (.ok (transport.nextSendId, data),
        { transport with
          nextSendId := transport.nextSendId + 1
          pending := transport.pending.insert transport.nextSendId ⟨data, 0⟩ }) := by
  simp only [send, ge_iff_le, Nat.not_le.mpr room, if_false]

theorem find?_processAcks (transport : ReliableTransport) (acks : List UInt32) (id : UInt32) :
    (transport.processAcks acks).pending.find? id =
      if id ∈ acks then none else transport.pending.find? id :=
  SortedMap.find?_foldl_erase _ _ _

def resends (transport : ReliableTransport) (due : UInt32 → Bool) (id : UInt32)
    (pending : PendingPacket) : Bool :=
  due id && decide (pending.retransmits < transport.config.maxRetransmits)

theorem getRetransmits_fst (transport : ReliableTransport) (due : UInt32 → Bool) :
    (transport.getRetransmits due).1 =
      (transport.pending.entries.filter (fun entry => transport.resends due entry.1 entry.2)).map
        (fun entry => (entry.1, entry.2.data)) := rfl

theorem find?_getRetransmits (transport : ReliableTransport) (due : UInt32 → Bool) (id : UInt32) :
    (transport.getRetransmits due).2.pending.find? id =
      (transport.pending.find? id).map fun pending =>
        if transport.resends due id pending then
          { pending with retransmits := pending.retransmits + 1 }
        else pending :=
  SortedMap.find?_mapValues _ _ _

theorem mem_getRetransmits_fst (transport : ReliableTransport) (due : UInt32 → Bool)
    (packet : UInt32 × List UInt8) :
    packet ∈ (transport.getRetransmits due).1 ↔
      ∃ pending, transport.pending.find? packet.1 = some pending ∧ packet.2 = pending.data ∧
        transport.resends due packet.1 pending := by
  rw [getRetransmits_fst, List.mem_map]
  constructor
  · rintro ⟨⟨id, pending⟩, member, rfl⟩
    rw [List.mem_filter] at member
    exact ⟨pending, (SortedMap.find?_eq_some_iff _ _ _).mpr member.1, rfl, member.2⟩
  · rintro ⟨pending, found, sameData, accepted⟩
    refine ⟨⟨packet.1, pending⟩, ?_, by rw [← sameData]⟩
    rw [List.mem_filter]
    exact ⟨(SortedMap.find?_eq_some_iff _ _ _).mp found, accepted⟩

theorem count_getRetransmits (transport : ReliableTransport) (due : UInt32 → Bool) (id : UInt32) :
    ((transport.getRetransmits due).1.map Prod.fst).count id =
      if ∃ pending, transport.pending.find? id = some pending ∧ transport.resends due id pending
      then 1 else 0 := by
  have keys : (transport.getRetransmits due).1.map Prod.fst =
      (transport.pending.entries.filter (fun entry => transport.resends due entry.1 entry.2)).map
        (·.1) := by
    rw [getRetransmits_fst, List.map_map]
    rfl
  have distinct := SortedMap.nodup_keys_filter transport.pending
    (fun entry => transport.resends due entry.1 entry.2)
  rw [keys]
  split
  · rename_i returned
    obtain ⟨pending, found, accepted⟩ := returned
    apply List.count_eq_one_of_mem distinct
    rw [List.mem_map]
    exact ⟨⟨id, pending⟩, List.mem_filter.mpr ⟨(SortedMap.find?_eq_some_iff _ _ _).mp found, accepted⟩, rfl⟩
  · rename_i notReturned
    apply List.count_eq_zero_of_not_mem
    intro member
    obtain ⟨⟨key, pending⟩, kept, rfl⟩ := List.mem_map.mp member
    rw [List.mem_filter] at kept
    exact notReturned ⟨pending, (SortedMap.find?_eq_some_iff _ _ _).mpr kept.1, kept.2⟩

/-! ### The send side over a run -/

/-- A call on the send side. The retransmission timer is the caller's: `due` says which
pending ids have reached their retransmit instant. -/
inductive SendCall
  | send (data : List UInt8)
  | processAcks (acks : List UInt32)
  | getRetransmits (due : UInt32 → Bool)

inductive SendReply
  | sent (result : Except ProtocolError (UInt32 × List UInt8))
  | acked
  | retransmits (packets : List (UInt32 × List UInt8))
  deriving DecidableEq

def sendSide (transport : ReliableTransport) : SendCall → SendReply × ReliableTransport
  | .send data => (.sent (transport.send data).1, (transport.send data).2)
  | .processAcks acks => (.acked, transport.processAcks acks)
  | .getRetransmits due =>
      (.retransmits (transport.getRetransmits due).1, (transport.getRetransmits due).2)

end ReliableTransport

open ReliableTransport in
/-- What a caller of the send side knows from its calls and their replies alone: how
many sends succeeded, the packets sent and not acknowledged since, in send order, and
every id a retransmission round returned. -/
structure SendLedger where
  sends : Nat
  outstanding : List (UInt32 × List UInt8)
  returned : List UInt32

namespace SendLedger

open ReliableTransport

def empty : SendLedger := ⟨0, [], []⟩

def record (ledger : SendLedger) : SendCall × SendReply → SendLedger
  | (_, .sent (.ok packet)) => ⟨ledger.sends + 1, ledger.outstanding ++ [packet], ledger.returned⟩
  | (.processAcks acks, _) =>
      { ledger with outstanding := ledger.outstanding.filter fun packet => !acks.contains packet.1 }
  | (_, .retransmits packets) => { ledger with returned := ledger.returned ++ packets.map Prod.fst }
  | _ => ledger

@[simp] theorem record_sent_ok (ledger : SendLedger) (call : SendCall)
    (packet : UInt32 × List UInt8) :
    ledger.record (call, .sent (.ok packet)) =
      ⟨ledger.sends + 1, ledger.outstanding ++ [packet], ledger.returned⟩ := by
  cases call <;> rfl

@[simp] theorem record_send_error (ledger : SendLedger) (data : List UInt8) (failure : ProtocolError) :
    ledger.record (.send data, .sent (.error failure)) = ledger := rfl

@[simp] theorem record_processAcks (ledger : SendLedger) (acks : List UInt32) :
    ledger.record (.processAcks acks, .acked) =
      { ledger with outstanding := ledger.outstanding.filter fun packet => !acks.contains packet.1 } :=
  rfl

@[simp] theorem record_getRetransmits (ledger : SendLedger) (due : UInt32 → Bool)
    (packets : List (UInt32 × List UInt8)) :
    ledger.record (.getRetransmits due, .retransmits packets) =
      { ledger with returned := ledger.returned ++ packets.map Prod.fst } := rfl

theorem sends_le_record (ledger : SendLedger) (entry : SendCall × SendReply) :
    ledger.sends ≤ (ledger.record entry).sends := by
  unfold record
  split <;> simp

end SendLedger

namespace ReliableTransport

def sendLedger (config : ReliableConfig) (calls : List SendCall) : SendLedger :=
  (calls.zip (Machine.run sendSide (new config) calls).1).foldl SendLedger.record .empty

theorem lookup_filter_not_mem {α β : Type} [BEq α] [LawfulBEq α] (entries : List (α × β))
    (removed : List α) (key : α) :
    (entries.filter fun entry => !removed.contains entry.1).lookup key =
      if key ∈ removed then none else entries.lookup key := by
  induction entries with
  | nil => simp
  | cons entry entries ih =>
      obtain ⟨other, value⟩ := entry
      rw [List.filter_cons]
      by_cases gone : other ∈ removed
      · rw [if_neg (by simp [gone]), ih, List.lookup_cons]
        by_cases inside : key ∈ removed
        · simp [inside]
        · have distinct : key ≠ other := fun same => inside (same ▸ gone)
          simp [inside, beq_false_of_ne distinct]
      · rw [if_pos (by simp [gone])]
        simp only [List.lookup_cons, ih]
        by_cases same : key = other
        · subst same
          simp [gone]
        · simp [beq_false_of_ne same]

/-- How a transport stands to the ledger of the run that reached it. -/
structure Tracks (config : ReliableConfig) (transport : ReliableTransport) (ledger : SendLedger) :
    Prop where
  config_eq : transport.config = config
  nextSendId_toNat : transport.nextSendId.toNat = ledger.sends
  sent_before : ∀ packet ∈ ledger.outstanding, packet.1.toNat < ledger.sends
  data_eq : ∀ id, (transport.pending.find? id).map PendingPacket.data = ledger.outstanding.lookup id
  retransmits_eq : ∀ id pending, transport.pending.find? id = some pending →
    pending.retransmits.toNat = ledger.returned.count id
  returned_le : ∀ id, ledger.returned.count id ≤ config.maxRetransmits.toNat
  unsent_not_returned : ∀ id, ledger.sends ≤ id.toNat → ledger.returned.count id = 0
  size_le : transport.pending.size ≤ config.windowSize.toNat

theorem tracks_new (config : ReliableConfig) : Tracks config (new config) .empty where
  config_eq := rfl
  nextSendId_toNat := rfl
  sent_before := by simp [SendLedger.empty]
  data_eq := by simp [new, SendLedger.empty]
  retransmits_eq := by simp [new]
  returned_le := by simp [SendLedger.empty]
  unsent_not_returned := by simp [SendLedger.empty]
  size_le := Nat.zero_le _

section Steps

variable {config : ReliableConfig} {transport : ReliableTransport} {ledger : SendLedger}

theorem Tracks.sent_of_find? (tracks : Tracks config transport ledger) {id : UInt32}
    {pending : PendingPacket} (found : transport.pending.find? id = some pending) :
    id.toNat < ledger.sends := by
  have listed := tracks.data_eq id
  rw [found, Option.map_some] at listed
  obtain ⟨front, back, split, -⟩ := List.lookup_eq_some_iff.mp listed.symm
  exact tracks.sent_before (id, pending.data) (by rw [split]; simp)

theorem Tracks.send (tracks : Tracks config transport ledger) (data : List UInt8)
    (room : transport.pending.size < config.windowSize.toNat) (fewSends : ledger.sends + 1 < 2 ^ 32) :
    Tracks config (transport.send data).2
      (ledger.record (.send data, .sent (transport.send data).1)) := by
  rw [send_of_room transport data (tracks.config_eq ▸ room), SendLedger.record_sent_ok]
  have unlisted : ledger.outstanding.lookup transport.nextSendId = none := by
    rw [List.lookup_eq_none_iff]
    intro packet member
    have before := tracks.sent_before packet member
    rw [bne_iff_ne]
    intro same
    rw [← same, tracks.nextSendId_toNat] at before
    exact Nat.lt_irrefl _ before
  have nextId : (transport.nextSendId + 1).toNat = ledger.sends + 1 := by
    rw [UInt32.toNat_add, UInt32.toNat_one, tracks.nextSendId_toNat]
    exact Nat.mod_eq_of_lt fewSends
  have sentBefore : ∀ packet ∈ ledger.outstanding ++ [(transport.nextSendId, data)],
      packet.1.toNat < ledger.sends + 1 := by
    intro packet member
    rw [List.mem_append, List.mem_singleton] at member
    rcases member with old | rfl
    · exact Nat.lt_succ_of_lt (tracks.sent_before packet old)
    · exact Nat.lt_succ_of_le tracks.nextSendId_toNat.le
  have listed : ∀ id, ((transport.pending.insert transport.nextSendId ⟨data, 0⟩).find? id).map
      PendingPacket.data = (ledger.outstanding ++ [(transport.nextSendId, data)]).lookup id := by
    intro id
    rw [List.lookup_append]
    by_cases same : transport.nextSendId = id
    · subst same
      rw [SortedMap.find?_insert_self, unlisted, Option.none_or, List.lookup_cons_self]
      rfl
    · rw [SortedMap.find?_insert_ne _ _ same, tracks.data_eq id]
      simp [List.lookup_cons, beq_false_of_ne (Ne.symm same)]
  have counted : ∀ id pending,
      (transport.pending.insert transport.nextSendId ⟨data, 0⟩).find? id = some pending →
      pending.retransmits.toNat = ledger.returned.count id := by
    intro id pending found
    rw [SortedMap.find?_insert] at found
    split at found
    · rename_i same
      subst same
      cases found
      rw [tracks.unsent_not_returned _ tracks.nextSendId_toNat.ge]
      rfl
    · exact tracks.retransmits_eq id pending found
  have grown := transport.pending.size_insert_le transport.nextSendId ⟨data, 0⟩
  exact ⟨tracks.config_eq, nextId, sentBefore, listed, counted, tracks.returned_le,
    fun id later => tracks.unsent_not_returned id (Nat.le_of_succ_le later), grown.trans room⟩

theorem Tracks.send_full (tracks : Tracks config transport ledger) (data : List UInt8)
    (full : config.windowSize.toNat ≤ transport.pending.size) :
    (transport.send data).2 = transport ∧
      ledger.record (.send data, .sent (transport.send data).1) = ledger := by
  rw [send_of_full transport data (tracks.config_eq ▸ full)]
  exact ⟨rfl, rfl⟩

theorem Tracks.processAcks (tracks : Tracks config transport ledger) (acks : List UInt32) :
    Tracks config (transport.processAcks acks) (ledger.record (.processAcks acks, .acked)) where
  config_eq := tracks.config_eq
  nextSendId_toNat := tracks.nextSendId_toNat
  sent_before packet member := tracks.sent_before packet (List.mem_of_mem_filter member)
  data_eq id := by
    simp only [SendLedger.record, find?_processAcks, lookup_filter_not_mem]
    split
    · rfl
    · exact tracks.data_eq id
  retransmits_eq id pending found := by
    rw [find?_processAcks] at found
    split at found
    · cases found
    · exact tracks.retransmits_eq id pending found
  returned_le := tracks.returned_le
  unsent_not_returned := tracks.unsent_not_returned
  size_le := (SortedMap.size_foldl_erase_le _ _).trans tracks.size_le

theorem Tracks.getRetransmits (tracks : Tracks config transport ledger) (due : UInt32 → Bool) :
    Tracks config (transport.getRetransmits due).2
      (ledger.record (.getRetransmits due, .retransmits (transport.getRetransmits due).1)) := by
  rw [SendLedger.record_getRetransmits]
  have counted : ∀ id, (ledger.returned ++ (transport.getRetransmits due).1.map Prod.fst).count id =
      ledger.returned.count id +
        if ∃ pending, transport.pending.find? id = some pending ∧ transport.resends due id pending
        then 1 else 0 := by
    intro id
    rw [List.count_append, count_getRetransmits]
  have listed : ∀ id, ((transport.getRetransmits due).2.pending.find? id).map PendingPacket.data =
      ledger.outstanding.lookup id := by
    intro id
    rw [find?_getRetransmits, Option.map_map, ← tracks.data_eq id]
    congr 1
    funext pending
    simp only [Function.comp_apply]
    split <;> rfl
  have retransmitted : ∀ id updated, (transport.getRetransmits due).2.pending.find? id = some updated →
      updated.retransmits.toNat =
        (ledger.returned ++ (transport.getRetransmits due).1.map Prod.fst).count id := by
    intro id updated found
    rw [find?_getRetransmits, Option.map_eq_some_iff] at found
    obtain ⟨pending, old, rfl⟩ := found
    rw [counted, ← tracks.retransmits_eq id pending old]
    by_cases resent : transport.resends due id pending
    · have below : pending.retransmits < transport.config.maxRetransmits := by
        simp only [resends, Bool.and_eq_true, decide_eq_true_eq] at resent
        exact resent.2
      have limit := transport.config.maxRetransmits.toNat_lt
      rw [UInt32.lt_iff_toNat_lt] at below
      rw [if_pos resent, if_pos ⟨pending, old, resent⟩, UInt32.toNat_add, UInt32.toNat_one,
        Nat.mod_eq_of_lt (by omega)]
    · have notResent : ¬∃ other, transport.pending.find? id = some other ∧
          transport.resends due id other := by
        rintro ⟨other, found, accepted⟩
        rw [old, Option.some.injEq] at found
        exact resent (found ▸ accepted)
      rw [if_neg resent, if_neg notResent, Nat.add_zero]
  have bounded : ∀ id, (ledger.returned ++ (transport.getRetransmits due).1.map Prod.fst).count id ≤
      config.maxRetransmits.toNat := by
    intro id
    rw [counted]
    split
    · rename_i returned
      obtain ⟨pending, old, accepted⟩ := returned
      have below : pending.retransmits < config.maxRetransmits := by
        simp only [resends, tracks.config_eq, Bool.and_eq_true, decide_eq_true_eq] at accepted
        exact accepted.2
      rw [← tracks.retransmits_eq id pending old]
      rw [UInt32.lt_iff_toNat_lt] at below
      omega
    · exact tracks.returned_le id
  have unsent : ∀ id, ledger.sends ≤ id.toNat →
      (ledger.returned ++ (transport.getRetransmits due).1.map Prod.fst).count id = 0 := by
    intro id later
    rw [counted, tracks.unsent_not_returned id later, Nat.zero_add, if_neg]
    rintro ⟨pending, found, -⟩
    have := tracks.sent_of_find? found
    omega
  have sized : (transport.getRetransmits due).2.pending.size ≤ config.windowSize.toNat := by
    rw [show (transport.getRetransmits due).2.pending.size = transport.pending.size from
      SortedMap.size_mapValues _ _]
    exact tracks.size_le
  exact ⟨tracks.config_eq, tracks.nextSendId_toNat, tracks.sent_before, listed, retransmitted,
    bounded, unsent, sized⟩

end Steps

theorem tracks_step (config : ReliableConfig) (state : ReliableTransport × SendLedger)
    (call : SendCall) (tracks : Tracks config state.1 state.2)
    (fewSends : (Machine.observe sendSide SendLedger.record state call).2.2.sends < 2 ^ 32) :
    Tracks config (Machine.observe sendSide SendLedger.record state call).2.1
      (Machine.observe sendSide SendLedger.record state call).2.2 := by
  obtain ⟨transport, ledger⟩ := state
  cases call with
  | send data =>
      by_cases room : transport.pending.size < config.windowSize.toNat
      · apply tracks.send data room
        simp only [Machine.observe, sendSide, send_of_room transport data (tracks.config_eq ▸ room),
          SendLedger.record] at fewSends
        exact fewSends
      · obtain ⟨same, unchanged⟩ := tracks.send_full data (Nat.le_of_not_lt room)
        simp only [Machine.observe, sendSide]
        rw [same, unchanged]
        exact tracks
  | processAcks acks => exact tracks.processAcks acks
  | getRetransmits due => exact tracks.getRetransmits due

theorem tracks_run (config : ReliableConfig) (calls : List SendCall)
    (fewSends : (sendLedger config calls).sends < 2 ^ 32) :
    Tracks config (Machine.run sendSide (new config) calls).2 (sendLedger config calls) := by
  have observed := Machine.run_observe sendSide SendLedger.record (new config) .empty calls
  have invariant := Machine.run_invariant (Machine.observe sendSide SendLedger.record)
    (fun state => state.2.sends < 2 ^ 32 → Tracks config state.1 state.2)
    (fun state call held fresh => tracks_step config state call
      (held (lt_of_le_of_lt (state.2.sends_le_record _) fresh)) fresh)
    (show (new config, SendLedger.empty).2.sends < 2 ^ 32 →
        Tracks config (new config, SendLedger.empty).1 (new config, SendLedger.empty).2 from
      fun _ => tracks_new config) calls
  rw [observed] at invariant
  exact invariant fewSends

/-- The send side keeps an exact record of what is unacknowledged. Over every run of
`send`, `process_acks` and `get_retransmits` calls from a new transport in which fewer
than 2^32 sends succeed: the pending ids are the ids of the packets sent and not named
by an ACK list processed since; there are at most `window_size` of them; a further send
fails exactly when there are `window_size`, and then changes nothing; a retransmission
round returns only such packets, each with the data it was sent with; and no id has been
returned more than `max_retransmits` times. -/
theorem send_side_keeps_exact_record (config : ReliableConfig) (calls : List SendCall)
    (fewSends : (sendLedger config calls).sends < 2 ^ 32) :
    let transport : ReliableTransport := (Machine.run sendSide (new config) calls).2
    let ledger : SendLedger := sendLedger config calls
    (∀ id, id ∈ transport.pending.keys ↔ id ∈ ledger.outstanding.map Prod.fst) ∧
      transport.pending.size ≤ config.windowSize.toNat ∧
      (∀ data, ((∃ failure, (transport.send data).1 = .error failure) ↔
          transport.pending.size = config.windowSize.toNat) ∧
        ∀ failure, (transport.send data).1 = .error failure → (transport.send data).2 = transport) ∧
      (∀ due, ∀ packet ∈ (transport.getRetransmits due).1, packet ∈ ledger.outstanding) ∧
      ∀ id, ledger.returned.count id ≤ config.maxRetransmits.toNat := by
  intro transport ledger
  have tracks : Tracks config transport ledger := tracks_run config calls fewSends
  refine ⟨fun id => ?_, tracks.size_le, fun data => ⟨?_, ?_⟩, fun due packet returned => ?_,
    tracks.returned_le⟩
  · -- the pending map and the record list the same packets
    have listed := congrArg Option.isSome (tracks.data_eq id)
    rw [Option.isSome_map] at listed
    rw [SortedMap.mem_keys_iff, listed, List.lookup_isSome_iff]
    simp
  · constructor
    · rintro ⟨failure, refused⟩
      by_contra notFull
      have room : transport.pending.size < transport.config.windowSize.toNat := by
        rw [tracks.config_eq]
        exact lt_of_le_of_ne tracks.size_le notFull
      rw [send_of_room transport data room] at refused
      cases refused
    · intro full
      rw [send_of_full transport data (by rw [tracks.config_eq, full])]
      exact ⟨_, rfl⟩
  · intro failure refused
    by_cases full : transport.config.windowSize.toNat ≤ transport.pending.size
    · rw [send_of_full transport data full]
    · rw [send_of_room transport data (Nat.lt_of_not_le full)] at refused
      cases refused
  · -- a returned packet is pending with that data, and the pending data is the record's
    obtain ⟨pending, found, sameData, -⟩ := (mem_getRetransmits_fst transport due packet).mp returned
    have listed := tracks.data_eq packet.1
    rw [found, Option.map_some, ← sameData] at listed
    obtain ⟨front, back, split, -⟩ := List.lookup_eq_some_iff.mp listed.symm
    rw [split]
    simp

/-- Eight sends fill the default window, an ACK list names id 0 and an id never sent,
and a retransmission round with every timer due resends the other seven. -/
theorem send_side_keeps_exact_record_window :
    (sendLedger .default ((List.range 8).map (fun n => SendCall.send [n.toUInt8]) ++
        [.processAcks [0, 99], .getRetransmits fun _ => true])).sends < 2 ^ 32 ∧
      ∀ id, (sendLedger .default ((List.range 8).map (fun n => SendCall.send [n.toUInt8]) ++
        [.processAcks [0, 99], .getRetransmits fun _ => true])).returned.count id ≤ 10 :=
  ⟨by decide, (send_side_keeps_exact_record _ _ (by decide)).2.2.2.2⟩

/-- An ACK list processed before a send can name the id that send is about to return:
after `process_acks([0])` and a send, id 0 is pending although an ACK list named it. -/
theorem ack_before_send_leaves_id_pending :
    (Machine.run sendSide (new .default) [.processAcks [0], .send [1]]).1 =
        [.acked, .sent (.ok (0, [1]))] ∧
      (0 : UInt32) ∈ (Machine.run sendSide (new .default) [.processAcks [0], .send [1]]).2.pending.keys := by
  decide

end ReliableTransport


/-! ## TLS record reassembly -/

structure TlsRecordReassembler where
  buffer : List UInt8
  maxSize : Nat
  deriving DecidableEq

/-- The big-endian `u16` length field in bytes 3 and 4 of a TLS record header. -/
def recordLength (buffer : List UInt8) : Nat := Wire.decode ((buffer.drop 3).take 2)

/-- The buffer starts with a whole record: a five-byte header and the body it announces. -/
def BeginsWithRecord (buffer : List UInt8) : Prop :=
  5 ≤ buffer.length ∧ 5 + recordLength buffer ≤ buffer.length

instance (buffer : List UInt8) : Decidable (BeginsWithRecord buffer) :=
  inferInstanceAs (Decidable (_ ∧ _))

namespace TlsRecordReassembler

def new (maxSize : Nat) : TlsRecordReassembler := ⟨[], maxSize⟩

/-- `add`: append the chunk unless the buffer would grow past `maxSize`. -/
def add (reassembler : TlsRecordReassembler) (data : List UInt8) :
    Except ProtocolError Unit × TlsRecordReassembler :=
  if reassembler.buffer.length + data.length > reassembler.maxSize then
    (.error (.invalidPacket "TLS record too large"), reassembler)
  else (.ok (), { reassembler with buffer := reassembler.buffer ++ data })

def extractLoop : Nat → List UInt8 → List (List UInt8) × List UInt8
  | 0, buffer => ([], buffer)
  | fuel + 1, buffer =>
      if buffer.length ≥ 5 then
        if buffer.length < 5 + recordLength buffer then ([], buffer)
        else
          let (records, rest) := extractLoop fuel (buffer.drop (5 + recordLength buffer))
          (buffer.take (5 + recordLength buffer) :: records, rest)
      else ([], buffer)

@[simp] theorem extractLoop_zero (buffer : List UInt8) : extractLoop 0 buffer = ([], buffer) := rfl

theorem extractLoop_succ (fuel : Nat) (buffer : List UInt8) :
    extractLoop (fuel + 1) buffer =
      if buffer.length ≥ 5 then
        if buffer.length < 5 + recordLength buffer then ([], buffer)
        else (buffer.take (5 + recordLength buffer) ::
            (extractLoop fuel (buffer.drop (5 + recordLength buffer))).1,
          (extractLoop fuel (buffer.drop (5 + recordLength buffer))).2)
      else ([], buffer) := rfl

/-- `extract_records`. Every pass drains at least five bytes, so one pass per
buffered byte lets the loop reach its own exit (`extractLoop_exhausts`). -/
def extractRecords (reassembler : TlsRecordReassembler) :
    List (List UInt8) × TlsRecordReassembler :=
  let (records, buffer) := extractLoop reassembler.buffer.length reassembler.buffer
  (records, { reassembler with buffer := buffer })

theorem add_eq (reassembler : TlsRecordReassembler) (data : List UInt8) :
    reassembler.add data =
      if reassembler.maxSize < reassembler.buffer.length + data.length then
        (.error (.invalidPacket "TLS record too large"), reassembler)
      else (.ok (), { reassembler with buffer := reassembler.buffer ++ data }) := rfl

@[simp] theorem maxSize_add (reassembler : TlsRecordReassembler) (data : List UInt8) :
    (reassembler.add data).2.maxSize = reassembler.maxSize := by
  rw [add_eq]
  split <;> rfl

@[simp] theorem maxSize_extractRecords (reassembler : TlsRecordReassembler) :
    reassembler.extractRecords.2.maxSize = reassembler.maxSize := rfl

theorem extractLoop_flow (fuel : Nat) (buffer : List UInt8) :
    (extractLoop fuel buffer).1.flatten ++ (extractLoop fuel buffer).2 = buffer := by
  induction fuel generalizing buffer with
  | zero => rfl
  | succ fuel ih =>
      rw [extractLoop_succ]
      split_ifs with long short
      · rfl
      · simp only [List.flatten_cons, List.append_assoc, ih, List.take_append_drop]
      · rfl

theorem recordLength_take {buffer : List UInt8} {count : Nat} (header : 5 ≤ count) :
    recordLength (buffer.take count) = recordLength buffer := by
  have window : ((buffer.take count).drop 3).take 2 = (buffer.drop 3).take 2 := by
    rw [List.drop_take, List.take_take]
    congr 1
    omega
  rw [recordLength, window, recordLength]

theorem extractLoop_record_length (fuel : Nat) (buffer : List UInt8) :
    ∀ record ∈ (extractLoop fuel buffer).1, record.length = 5 + recordLength record := by
  induction fuel generalizing buffer with
  | zero => simp
  | succ fuel ih =>
      rw [extractLoop_succ]
      split_ifs with long short
      · simp
      · intro record member
        rcases List.mem_cons.mp member with rfl | later
        · rw [recordLength_take (by omega), List.length_take]
          omega
        · exact ih _ record later
      · simp

theorem length_extractLoop_le (fuel : Nat) (buffer : List UInt8) :
    (extractLoop fuel buffer).2.length ≤ buffer.length := by
  have flow := congrArg List.length (extractLoop_flow fuel buffer)
  rw [List.length_append] at flow
  omega

theorem extractLoop_exhausts (fuel : Nat) (buffer : List UInt8) (enough : buffer.length ≤ fuel) :
    ¬ BeginsWithRecord (extractLoop fuel buffer).2 := by
  induction fuel generalizing buffer with
  | zero =>
      simp only [extractLoop_zero, BeginsWithRecord]
      omega
  | succ fuel ih =>
      rw [extractLoop_succ]
      split_ifs with long short
      · simp only [BeginsWithRecord]
        omega
      · apply ih
        rw [List.length_drop]
        omega
      · simp only [BeginsWithRecord]
        omega

/-! ### A run of calls -/

inductive Call
  | add (chunk : List UInt8)
  | extractRecords

inductive Reply
  | added (result : Except ProtocolError Unit)
  | extracted (records : List (List UInt8))

def call (reassembler : TlsRecordReassembler) : Call → Reply × TlsRecordReassembler
  | .add chunk => (.added (reassembler.add chunk).1, (reassembler.add chunk).2)
  | .extractRecords => (.extracted reassembler.extractRecords.1, reassembler.extractRecords.2)

def Reply.records : Reply → List (List UInt8)
  | .added _ => []
  | .extracted records => records

def accepted : Call → Reply → List UInt8
  | .add chunk, .added (.ok ()) => chunk
  | _, _ => []

theorem call_flow (reassembler : TlsRecordReassembler) (request : Call) :
    (reassembler.call request).1.records.flatten ++ (reassembler.call request).2.buffer =
      reassembler.buffer ++ accepted request (reassembler.call request).1 := by
  cases request with
  | add chunk =>
      simp only [call, Reply.records, List.flatten_nil, List.nil_append, add_eq]
      split <;> simp [accepted]
  | extractRecords =>
      simp only [call, extractRecords, Reply.records, accepted, List.append_nil]
      exact extractLoop_flow _ _

theorem call_record_length (reassembler : TlsRecordReassembler) (request : Call) :
    ∀ record ∈ (reassembler.call request).1.records, record.length = 5 + recordLength record := by
  cases request with
  | add chunk => simp [call, Reply.records]
  | extractRecords => exact extractLoop_record_length _ _

theorem call_bounded (reassembler : TlsRecordReassembler) (request : Call)
    (bounded : reassembler.buffer.length ≤ reassembler.maxSize) :
    (reassembler.call request).2.buffer.length ≤ (reassembler.call request).2.maxSize := by
  cases request with
  | add chunk =>
      simp only [call, add_eq]
      split
      · exact bounded
      · rename_i fits
        simp only [List.length_append]
        omega
  | extractRecords =>
      simp only [call, maxSize_extractRecords]
      exact (length_extractLoop_le _ _).trans bounded

theorem call_maxSize (reassembler : TlsRecordReassembler) (request : Call) :
    (reassembler.call request).2.maxSize = reassembler.maxSize := by
  cases request <;> simp [call]

theorem call_add_error (reassembler : TlsRecordReassembler) (chunk : List UInt8)
    {failure : ProtocolError} (refused : (reassembler.call (.add chunk)).1 = .added (.error failure)) :
    (reassembler.call (.add chunk)).2 = reassembler := by
  simp only [call, add_eq] at refused ⊢
  split
  · rfl
  · rename_i fits
    simp only [fits, if_false, Reply.added.injEq, reduceCtorEq] at refused

theorem run_bounded (maxSize : Nat) (calls : List Call) :
    (Machine.run call (new maxSize) calls).2.buffer.length ≤ maxSize ∧
      (Machine.run call (new maxSize) calls).2.maxSize = maxSize :=
  Machine.run_invariant call (fun reassembler => reassembler.buffer.length ≤ maxSize ∧
      reassembler.maxSize = maxSize)
    (fun reassembler request ⟨bounded, same⟩ => by
      have stepBound := call_bounded reassembler request (same ▸ bounded)
      rw [call_maxSize, same] at stepBound
      exact ⟨stepBound, (call_maxSize reassembler request).trans same⟩)
    ⟨Nat.zero_le _, rfl⟩ calls

/-- TLS record reassembly loses and invents nothing. Over every run of calls from
an empty reassembler: the records returned, followed by the buffer, are the
accepted chunks in order; each record is as long as its header says; after each
extraction the buffer does not start with a complete record; the buffer never
exceeds `maxSize`; and a refused `add` changes nothing. -/
theorem reassembly_loses_and_invents_nothing (maxSize : Nat) (calls : List Call) :
    (Machine.run call (new maxSize) calls).1.flatMap (fun reply => reply.records.flatten) ++
        (Machine.run call (new maxSize) calls).2.buffer =
      (calls.zip (Machine.run call (new maxSize) calls).1).flatMap
        (fun pair => accepted pair.1 pair.2) ∧
    (∀ reply ∈ (Machine.run call (new maxSize) calls).1, ∀ record ∈ reply.records,
      record.length = 5 + recordLength record) ∧
    ∀ k (inside : k < calls.length),
      (calls[k] = .extractRecords →
        ¬ BeginsWithRecord ((Machine.run call (new maxSize) (calls.take k)).2.call calls[k]).2.buffer) ∧
      ((Machine.run call (new maxSize) (calls.take k)).2.call calls[k]).2.buffer.length ≤ maxSize ∧
      (∀ chunk failure, calls[k] = .add chunk →
        ((Machine.run call (new maxSize) (calls.take k)).2.call calls[k]).1 = .added (.error failure) →
        ((Machine.run call (new maxSize) (calls.take k)).2.call calls[k]).2 =
          (Machine.run call (new maxSize) (calls.take k)).2) := by
  refine ⟨?_, ?_, ?_⟩
  · -- the conservation law of one call, carried over the run
    have flow := Machine.run_flow call (fun request reply => accepted request reply)
      (fun reply => reply.records.flatten) TlsRecordReassembler.buffer call_flow (new maxSize) calls
    simpa [new] using flow
  · exact Machine.forall_mem_run call _ call_record_length (new maxSize) calls
  · intro k inside
    have before := run_bounded maxSize (calls.take k)
    refine ⟨fun extracting => ?_, ?_, fun chunk failure adding refused => ?_⟩
    · rw [extracting]
      exact extractLoop_exhausts _ _ le_rfl
    · have stepBound := call_bounded _ calls[k] (before.1.trans_eq before.2.symm)
      rwa [call_maxSize, before.2] at stepBound
    · rw [adding] at refused ⊢
      exact call_add_error _ chunk refused

/-- One add of a six-byte record followed by two bytes of the next, then an
extraction: the record comes out and the two bytes stay, not a complete record. -/
theorem reassembly_keeps_partial_record :
    ¬ BeginsWithRecord ((Machine.run call (new 16) [.add [22, 3, 3, 0, 1, 0xAA, 22, 3]]).2.call
        .extractRecords).2.buffer ∧
      ((Machine.run call (new 16) [.add [22, 3, 3, 0, 1, 0xAA, 22, 3]]).2.call
        .extractRecords).1.records = [[22, 3, 3, 0, 1, 0xAA]] :=
  ⟨((reassembly_loses_and_invents_nothing 16
      [.add [22, 3, 3, 0, 1, 0xAA, 22, 3], .extractRecords]).2.2 1 (by decide)).1 rfl, by decide⟩

end TlsRecordReassembler

end CoreVpn.Protocol
