import CoreVpn.Protocol.Session
import CoreVpn.Config.ServerConfig
import CoreVpn.Lib.SortedMap
import CoreVpn.Lib.Machine

/-!
# The server's packet loop

`handle_packet`, its three handlers and `cleanup_stale_connections`
(`corevpn-server/src/server.rs`). The server keeps one `Connection` per peer address: a
hard reset creates it, a control packet goes through its protocol session to rustls, and
a data packet goes to its data channel. A second task removes the connections idle for
longer than 300 seconds, in two steps: it collects them and logs their disconnection,
then it removes their addresses (`sweepStale`, `removeSwept`), and the packet loop may run
in between.

rustls, the clocks, the random ids and the timers of the reliable layer are outside the
repository: what they do while one datagram is handled is an input (`Moment`). The events
the handlers pass to `log_event` are the model's output; anonymisation and the logging
backends come after that. Sending a datagram is taken to succeed.

No packet moves a protocol session to Established, and the server calls `set_state` only
to move a session from TlsHandshake to KeyExchange. So over any interleaving of datagrams
and cleanups, no connection is ever Established and no connection counts a byte
(`run_quiet`). `handle_data_packet` reads data only from an established connection, so it
drops every data datagram (`data_datagrams_dropped`). With every connection-event flag
off, as in the default configuration, the server still logs one idle-timeout
disconnection with zero traffic for each connection the cleanup collects, and nothing
else (`logged_with_events_off`).
-/

namespace CoreVpn

set_option autoImplicit false

/-! ## What the server reads from the protocol session -/

namespace Protocol

/-- `ReliableTransport::should_send_ack`: acknowledgements are queued and the ACK delay
has passed since the last one was sent, which the caller says (`ackDelayPassed`). -/
def ReliableTransport.shouldSendAck (transport : ReliableTransport) (ackDelayPassed : Bool) : Bool :=
  !transport.pendingAcks.isEmpty && ackDelayPassed

namespace ProtocolSession

open Crypto

def shouldSendAck (session : ProtocolSession) (ackDelayPassed : Bool) : Bool :=
  session.reliable.shouldSendAck ackDelayPassed

def isEstablished (session : ProtocolSession) : Bool := session.state == .established

section States

variable (aead : Aead) (mac : Key → List UInt8 → List.Vector UInt8 32)

/-! Which states a packet can move a session to: only a hard reset and a soft reset
change it, to TlsHandshake and to Rekeying. -/

theorem state_receiveTlsPayload (session : ProtocolSession) (messagePacketId : Option PacketId)
    (payload : List UInt8) : (session.receiveTlsPayload messagePacketId payload).2.state = session.state := by
  unfold receiveTlsPayload
  split
  · rfl
  · dsimp only
    split
    · rfl
    · split
      · rfl
      · split <;> rfl

theorem state_processControlPacket (session : ProtocolSession) (ctrl : ControlPacketData) :
    (session.processControlPacket ctrl).2.state = session.state ∨
      (session.processControlPacket ctrl).2.state = .tlsHandshake ∨
      (session.processControlPacket ctrl).2.state = .rekeying := by
  unfold processControlPacket
  dsimp only
  generalize acked : (if ctrl.acks.isEmpty = true then session
    else { session with reliable := session.reliable.processAcks ctrl.acks }) = afterAcks
  have same : afterAcks.state = session.state := by
    rw [← acked]
    split <;> rfl
  split
  · exact .inr (.inl rfl)
  · exact .inr (.inl rfl)
  · left
    split <;> exact same
  · left
    rw [state_receiveTlsPayload, same]
  · exact .inl same
  · exact .inr (.inr rfl)
  · exact .inl same

theorem state_processDataPacket (session : ProtocolSession) (dataPacket : DataPacketData) :
    (session.processDataPacket aead dataPacket).2.state = session.state := by
  unfold processDataPacket
  dsimp only
  split
  · split
    · split <;> rfl
    · rfl
  · rfl

theorem state_processPacket (session : ProtocolSession) (data : List UInt8) :
    (session.processPacket aead mac data).2.state = session.state ∨
      (session.processPacket aead mac data).2.state = .tlsHandshake ∨
      (session.processPacket aead mac data).2.state = .rekeying := by
  unfold processPacket
  split
  · exact .inl rfl
  · exact state_processControlPacket session _
  · exact .inl (state_processDataPacket aead session _)

theorem processPacket_not_established (session : ProtocolSession) (data : List UInt8)
    (before : session.state ≠ .established) : (session.processPacket aead mac data).2.state ≠ .established := by
  rcases state_processPacket aead mac session data with same | handshake | rekeying
  · rwa [same]
  · rw [handshake]
    exact ProtocolState.noConfusion
  · rw [rekeying]
    exact ProtocolState.noConfusion

theorem state_createHardResetResponse (session : ProtocolSession) :
    (session.createHardResetResponse mac).2.state = session.state := rfl

theorem state_createControlPacket (session : ProtocolSession) (tlsData : List UInt8) :
    (session.createControlPacket mac tlsData).2.state = session.state := by
  unfold createControlPacket
  split <;> rfl

theorem state_ite_createAckPacket (session : ProtocolSession) (send : Bool) :
    (if send = true then session.createAckPacket mac else (none, session)).2.state = session.state := by
  split
  · unfold createAckPacket
    dsimp only
    split <;> rfl
  · rfl

theorem state_getRetransmits (session : ProtocolSession) (due : UInt32 → Bool) :
    (session.getRetransmits mac due).2.state = session.state := rfl

end States

end ProtocolSession

end Protocol

namespace Server

open Protocol ConnectionLog Config Crypto

/-! ## Peer addresses as keys -/

def addrCode (addr : SocketAddr) : List Nat :=
  match addr.ip with
  | .v4 ip => [4, ip.toNat, addr.port.toNat]
  | .v6 ip => [6, ip.toNat, addr.port.toNat]

theorem addrCode_injective : Function.Injective addrCode := by
  rintro ⟨ip, port⟩ ⟨ip', port'⟩ same
  cases ip <;> cases ip' <;> simp [addrCode, BitVec.toNat_inj, UInt16.toNat_inj] at same ⊢ <;> exact same

instance socketAddrLinearOrder : LinearOrder SocketAddr := LinearOrder.lift' addrCode addrCode_injective

/-! ## Connections -/

/-- `struct Connection`. Its instants are seconds on the server's monotonic clock, and
`tls` says whether it has a `TlsHandler`, whose state belongs to rustls. -/
structure Connection where
  protocol : ProtocolSession
  tls : Bool
  lastActivity : Nat
  connectedAt : Nat
  peerAddr : SocketAddr
  vpnIp : Option Core.Ipv4Addr
  connectionId : ConnectionId
  username : Option String
  authMethod : AuthMethod
  stats : TransferStats

namespace Connection

/-- `Connection::new`, with the session id `new_server` draws and the clock. -/
def new (peerAddr : SocketAddr) (cipherSuite : CipherSuite) (connectionId : ConnectionId)
    (localSessionId : Protocol.SessionId) (now : Nat) : Connection where
  protocol := ProtocolSession.newServer localSessionId cipherSuite
  tls := false
  lastActivity := now
  connectedAt := now
  peerAddr := peerAddr
  vpnIp := none
  connectionId := connectionId
  username := none
  authMethod := .unknown
  stats := ⟨0, 0, 0, 0⟩

def touch (conn : Connection) (now : Nat) : Connection := { conn with lastActivity := now }

/-- `is_stale`: idle for longer than `timeout`. -/
def isStale (conn : Connection) (timeout now : Nat) : Bool := decide (timeout < now - conn.lastActivity)

/-- `duration`, in whole seconds. -/
def duration (conn : Connection) (now : Nat) : Duration := Duration.fromSecs (UInt64.ofNat (now - conn.connectedAt))

def addBytesRx (conn : Connection) (bytes : UInt64) : Connection :=
  { conn with stats := { conn.stats with bytesRx := conn.stats.bytesRx + bytes, packetsRx := conn.stats.packetsRx + 1 } }

end Connection

/-- `struct VpnServer`, the parts the packet loop reads: the configuration, the
connection map, and whether TLS is configured. -/
structure VpnServer where
  config : ServerConfig
  connections : SortedMap SocketAddr Connection
  tlsConfig : Bool

/-- What rustls does with the records of one control packet: whether it takes them, the
chunks it then has to write, whether fetching one more fails, and whether the handshake
is complete afterwards. -/
structure TlsOutcome where
  processed : Bool
  outgoing : List (List UInt8)
  outgoingFails : Bool
  handshakeComplete : Bool

/-- What the world supplies while one datagram is handled: the two clocks, the random
ids of a new connection, whether rustls starts a handler and what it does with the
records, whether the ACK delay has passed, and which retransmit timers have expired. -/
structure Moment where
  instant : Nat
  now : DateTime
  connectionId : ConnectionId
  localSessionId : Protocol.SessionId
  tlsStarts : Bool
  tls : TlsOutcome
  ackDelayPassed : Bool
  due : UInt32 → Bool

/-- Why a handler returns `Err`; the texts rustls puts into the last three are left out. -/
inductive HandleError
  | protocol (error : ProtocolError)
  | tlsInit
  | tlsProcessing
  | tlsOutgoing

/-- What handling one datagram produced: its result, the events passed to `log_event`,
and the datagrams sent back. -/
structure Handled where
  result : Except HandleError Unit
  logged : List ConnectionEvent
  sent : List (List UInt8)

def Handled.silent (result : Except HandleError Unit) : Handled := ⟨result, [], []⟩

namespace VpnServer

def getCipherSuite (server : VpnServer) : CipherSuite :=
  if RustStr.contains server.config.security.cipher "chacha" then .chaCha20Poly1305 else .aes256Gcm

def store (server : VpnServer) (peer : SocketAddr) (conn : Connection) : VpnServer :=
  { server with connections := server.connections.insert peer conn }

section Handlers

variable (aead : Aead) (mac : Key → List UInt8 → List.Vector UInt8 32)

def finishHardReset (server : VpnServer) (peer : SocketAddr) (conn : Connection) (moment : Moment)
    (logged : List ConnectionEvent) : Handled × VpnServer :=
  if server.tlsConfig && !moment.tlsStarts then (⟨.error .tlsInit, logged, []⟩, server)
  else
    let conn := { conn with tls := server.tlsConfig }
    let response := conn.protocol.createHardResetResponse mac
    (⟨.ok (), logged, [response.1]⟩, server.store peer { conn with protocol := response.2 })

/-- `handle_hard_reset`: the attempt is logged when configured, before anything can fail. -/
def handleHardReset (server : VpnServer) (peer : SocketAddr) (data : List UInt8) (moment : Moment) :
    Handled × VpnServer :=
  let logged :=
    if server.config.logging.connectionEvents.attempts then [ConnectionEventBuilder.attempt moment.connectionId moment.now peer]
    else []
  let conn := Connection.new peer server.getCipherSuite moment.connectionId moment.localSessionId moment.instant
  let processed := conn.protocol.processPacket aead mac data
  match processed.1 with
  | .error failure => (⟨.error (.protocol failure), logged, []⟩, server)
  | .ok _ => finishHardReset mac server peer { conn with protocol := processed.2 } moment logged

def sendChunks (session : ProtocolSession) : List (List UInt8) → Except ProtocolError (List (List UInt8)) × ProtocolSession
  | [] => (.ok [], session)
  | chunk :: rest =>
      let created := session.createControlPacket mac chunk
      match created.1 with
      | .error failure => (.error failure, created.2)
      | .ok packet =>
          let others := sendChunks created.2 rest
          (others.1.map (packet :: ·), others.2)

def handleTls (server : VpnServer) (peer : SocketAddr) (conn : Connection) (moment : Moment) :
    Except HandleError (List (List UInt8) × List ConnectionEvent) × Connection :=
  if !moment.tls.processed then (.error .tlsProcessing, conn)
  else
    let written := sendChunks mac conn.protocol moment.tls.outgoing
    let conn := { conn with protocol := written.2 }
    match written.1 with
    | .error failure => (.error (.protocol failure), conn)
    | .ok packets =>
        if moment.tls.outgoingFails then (.error .tlsOutgoing, conn)
        else if moment.tls.handshakeComplete && conn.protocol.state == .tlsHandshake then
          let conn := { conn with protocol := conn.protocol.setState .keyExchange, authMethod := .certificate }
          let logged :=
            if server.config.logging.connectionEvents.authEvents then
              [ConnectionEventBuilder.authentication conn.connectionId moment.now peer conn.username .certificate .success]
            else []
          (.ok (packets, logged), conn)
        else (.ok (packets, []), conn)

def reactTo (server : VpnServer) (peer : SocketAddr) (conn : Connection) (moment : Moment) :
    ProcessedPacket → Except HandleError (List (List UInt8) × List ConnectionEvent) × Connection
  | .tlsData _ => if conn.tls then handleTls mac server peer conn moment else (.ok ([], []), conn)
  | .softReset =>
      (.ok ([],
        if server.config.logging.connectionEvents.renegotiations then
          [ConnectionEventBuilder.renegotiation conn.connectionId moment.now peer true]
        else []), conn)
  | _ => (.ok ([], []), conn)

/-- `handle_control_packet`. A failure returns at once: the connection keeps what was
done to it, and nothing is logged or sent. Otherwise the pending acknowledgement and the
due retransmissions follow what rustls wrote. -/
def handleControlPacket (server : VpnServer) (peer : SocketAddr) (data : List UInt8) (moment : Moment) :
    Handled × VpnServer :=
  match server.connections.find? peer with
  | none => (.silent (.ok ()), server)
  | some conn =>
      let conn := conn.touch moment.instant
      let processed := conn.protocol.processPacket aead mac data
      let conn := { conn with protocol := processed.2 }
      match processed.1 with
      | .error failure => (.silent (.error (.protocol failure)), server.store peer conn)
      | .ok result =>
          let reacted := reactTo mac server peer conn moment result
          let conn := reacted.2
          match reacted.1 with
          | .error failure => (.silent (.error failure), server.store peer conn)
          | .ok (packets, logged) =>
              let ack :=
                if conn.protocol.shouldSendAck moment.ackDelayPassed then conn.protocol.createAckPacket mac
                else (none, conn.protocol)
              let retransmits := ack.2.getRetransmits mac moment.due
              (⟨.ok (), logged, packets ++ ack.1.toList ++ retransmits.1⟩,
                server.store peer { conn with protocol := retransmits.2 })

/-- `handle_data_packet`: data is read only from an established connection, and counted
before it is decrypted. -/
def handleDataPacket (server : VpnServer) (peer : SocketAddr) (data : List UInt8) (moment : Moment) :
    Handled × VpnServer :=
  match server.connections.find? peer with
  | none => (.silent (.ok ()), server)
  | some conn =>
      let conn := conn.touch moment.instant
      if conn.protocol.state ≠ .established then (.silent (.ok ()), server.store peer conn)
      else
        let conn := conn.addBytesRx (UInt64.ofNat data.length)
        let processed := conn.protocol.processPacket aead mac data
        let conn := { conn with protocol := processed.2 }
        match processed.1 with
        | .error failure => (.silent (.error (.protocol failure)), server.store peer conn)
        | .ok _ => (.silent (.ok ()), server.store peer conn)

/-- `handle_packet`: the first byte's opcode picks the handler. -/
def handlePacket (server : VpnServer) (peer : SocketAddr) (data : List UInt8) (moment : Moment) :
    Handled × VpnServer :=
  match data with
  | [] => (.silent (.ok ()), server)
  | first :: _ =>
      match OpCode.fromByte first with
      | .error failure => (.silent (.error (.protocol failure)), server)
      | .ok .hardResetClientV2 | .ok .hardResetClientV3 => handleHardReset aead mac server peer data moment
      | .ok .controlV1 | .ok .ackV1 | .ok .softResetV1 => handleControlPacket aead mac server peer data moment
      | .ok .dataV1 | .ok .dataV2 => handleDataPacket aead mac server peer data moment
      | .ok _ => (.silent (.ok ()), server)

end Handlers

def sweepStale (server : VpnServer) (timeout instant : Nat) (now : DateTime) :
    List ConnectionEvent × List SocketAddr :=
  let stale := server.connections.entries.filter fun entry => entry.2.isStale timeout instant
  (stale.map fun entry =>
      ConnectionEventBuilder.disconnected entry.2.connectionId now entry.1 entry.2.username .idleTimeout
        (entry.2.duration instant) (some entry.2.stats),
    stale.map (·.1))

def removeSwept (server : VpnServer) (addrs : List SocketAddr) : VpnServer :=
  { server with connections := addrs.foldl (fun connections addr => connections.erase addr) server.connections }

end VpnServer

/-! ## The two tasks -/

/-- The packet loop's server and the addresses the cleanup task has collected and not yet
removed. -/
structure Running where
  server : VpnServer
  swept : List SocketAddr

/-- One atomic step of either task: a datagram handled by the packet loop, or one half of
a cleanup, which runs every minute with a timeout of 300 seconds. -/
inductive Event
  | datagram (peer : SocketAddr) (data : List UInt8) (moment : Moment)
  | sweep (instant : Nat) (now : DateTime)
  | removeSwept

section Tasks

variable (aead : Aead) (mac : Key → List UInt8 → List.Vector UInt8 32)

def step (running : Running) : Event → Handled × Running
  | .datagram peer data moment =>
      let handled := running.server.handlePacket aead mac peer data moment
      (handled.1, { running with server := handled.2 })
  | .sweep instant now =>
      let swept := running.server.sweepStale 300 instant now
      (⟨.ok (), swept.1, []⟩, { running with swept := swept.2 })
  | .removeSwept => (.silent (.ok ()), ⟨running.server.removeSwept running.swept, []⟩)

end Tasks

def start (config : ServerConfig) (tlsConfig : Bool) : Running := ⟨⟨config, .empty, tlsConfig⟩, []⟩

def Event.isDatagram : Event → Bool
  | .datagram .. => true
  | _ => false

structure ServerStats where
  connections : UInt64
  activeSessions : UInt64
  bytesRx : UInt64
  bytesTx : UInt64
  packetsRx : UInt64
  packetsTx : UInt64

/-- `ServerStats::from_server`: the traffic fields keep their defaults. -/
def ServerStats.fromServer (server : VpnServer) : ServerStats :=
  ⟨UInt64.ofNat server.connections.size,
    UInt64.ofNat (server.connections.entries.filter fun entry => entry.2.protocol.isEstablished).length,
    0, 0, 0, 0⟩

/-! ## No connection is ever established -/

namespace Connection

/-- What every stored connection keeps: its session is not established, it has counted
no traffic, and no user is known. -/
structure Quiet (conn : Connection) : Prop where
  notEstablished : conn.protocol.state ≠ .established
  noTraffic : conn.stats = ⟨0, 0, 0, 0⟩
  noUser : conn.username = none

theorem new_quiet (peerAddr : SocketAddr) (cipherSuite : CipherSuite) (connectionId : ConnectionId)
    (localSessionId : Protocol.SessionId) (now : Nat) :
    (Connection.new peerAddr cipherSuite connectionId localSessionId now).Quiet :=
  ⟨ProtocolState.noConfusion, rfl, rfl⟩

theorem Quiet.touch {conn : Connection} (quiet : conn.Quiet) (now : Nat) : (conn.touch now).Quiet :=
  ⟨quiet.notEstablished, quiet.noTraffic, quiet.noUser⟩

end Connection

namespace VpnServer

/-- Every connection of the map is quiet. -/
def Quiet (server : VpnServer) : Prop := server.connections.All fun _ conn => conn.Quiet

/-- What a handler may do to the server: nothing, or store one quiet connection under
the peer's address. -/
def StoresQuiet (server : VpnServer) (peer : SocketAddr) (next : VpnServer) : Prop :=
  next = server ∨ ∃ conn : Connection, conn.Quiet ∧ next = server.store peer conn

section Stores

variable {server next : VpnServer} {peer : SocketAddr}

theorem StoresQuiet.config_eq (stores : StoresQuiet server peer next) : next.config = server.config := by
  rcases stores with rfl | ⟨conn, _, rfl⟩ <;> rfl

theorem StoresQuiet.quiet (stores : StoresQuiet server peer next) (quiet : server.Quiet) : next.Quiet := by
  rcases stores with rfl | ⟨conn, connQuiet, rfl⟩
  · exact quiet
  · exact SortedMap.All.insert quiet connQuiet

end Stores

section Handlers

variable (aead : Aead) (mac : Key → List UInt8 → List.Vector UInt8 32)

open Protocol.ProtocolSession

theorem finishHardReset_stores (server : VpnServer) (peer : SocketAddr) {conn : Connection} (moment : Moment)
    (logged : List ConnectionEvent) (quiet : conn.Quiet) :
    StoresQuiet server peer (finishHardReset mac server peer conn moment logged).2 := by
  unfold finishHardReset
  dsimp only
  split
  · exact .inl rfl
  · refine .inr ⟨_, ?_, rfl⟩
    exact ⟨quiet.notEstablished, quiet.noTraffic, quiet.noUser⟩

theorem handleHardReset_stores (server : VpnServer) (peer : SocketAddr) (data : List UInt8) (moment : Moment) :
    StoresQuiet server peer (handleHardReset aead mac server peer data moment).2 := by
  have fresh := Connection.new_quiet peer server.getCipherSuite moment.connectionId moment.localSessionId
    moment.instant
  unfold handleHardReset
  dsimp only
  split
  · exact .inl rfl
  · apply finishHardReset_stores
    exact ⟨processPacket_not_established aead mac _ data fresh.notEstablished, fresh.noTraffic, fresh.noUser⟩

theorem state_sendChunks (session : ProtocolSession) (chunks : List (List UInt8)) :
    (sendChunks mac session chunks).2.state = session.state := by
  induction chunks generalizing session with
  | nil => rfl
  | cons chunk rest ih =>
      unfold sendChunks
      dsimp only
      split
      · exact state_createControlPacket mac session chunk
      · rw [ih, state_createControlPacket]

theorem handleTls_quiet (server : VpnServer) (peer : SocketAddr) {conn : Connection} (moment : Moment)
    (quiet : conn.Quiet) : (handleTls mac server peer conn moment).2.Quiet := by
  have written : { conn with protocol := (sendChunks mac conn.protocol moment.tls.outgoing).2 }.Quiet :=
    ⟨by rw [state_sendChunks]; exact quiet.notEstablished, quiet.noTraffic, quiet.noUser⟩
  unfold handleTls
  split
  · exact quiet
  · dsimp only
    split
    · exact written
    · split
      · exact written
      · split
        · exact ⟨ProtocolState.noConfusion, quiet.noTraffic, quiet.noUser⟩
        · exact written

theorem reactTo_quiet (server : VpnServer) (peer : SocketAddr) {conn : Connection} (moment : Moment)
    (result : ProcessedPacket) (quiet : conn.Quiet) : (reactTo mac server peer conn moment result).2.Quiet := by
  unfold reactTo
  split
  · split
    · exact handleTls_quiet mac server peer moment quiet
    · exact quiet
  · exact quiet
  · exact quiet

theorem handleControlPacket_stores {server : VpnServer} (quiet : server.Quiet) (peer : SocketAddr)
    (data : List UInt8) (moment : Moment) :
    StoresQuiet server peer (handleControlPacket aead mac server peer data moment).2 := by
  unfold handleControlPacket
  split
  · exact .inl rfl
  · rename_i conn found
    have touched : (conn.touch moment.instant).Quiet := (quiet peer conn found).touch moment.instant
    have processed : { conn.touch moment.instant with
        protocol := ((conn.touch moment.instant).protocol.processPacket aead mac data).2 }.Quiet :=
      ⟨processPacket_not_established aead mac _ data touched.notEstablished, touched.noTraffic, touched.noUser⟩
    dsimp only
    split
    · exact .inr ⟨_, processed, rfl⟩
    · rename_i result _
      have reacted := reactTo_quiet mac server peer moment result processed
      split
      · exact .inr ⟨_, reacted, rfl⟩
      · -- the acknowledgement and the retransmissions leave the state as it is
        refine .inr ⟨_, ?_, rfl⟩
        refine ⟨?_, reacted.noTraffic, reacted.noUser⟩
        rw [state_getRetransmits, state_ite_createAckPacket]
        exact reacted.notEstablished

theorem handleDataPacket_of_quiet {server : VpnServer} (quiet : server.Quiet) (peer : SocketAddr)
    (data : List UInt8) (moment : Moment) :
    handleDataPacket aead mac server peer data moment =
      (.silent (.ok ()),
        match server.connections.find? peer with
        | none => server
        | some conn => server.store peer (conn.touch moment.instant)) := by
  unfold handleDataPacket
  split
  · rfl
  · rename_i conn found
    dsimp only
    rw [if_pos ((quiet peer conn found).touch moment.instant).notEstablished]

theorem handleDataPacket_stores {server : VpnServer} (quiet : server.Quiet) (peer : SocketAddr)
    (data : List UInt8) (moment : Moment) :
    StoresQuiet server peer (handleDataPacket aead mac server peer data moment).2 := by
  rw [handleDataPacket_of_quiet aead mac quiet]
  dsimp only
  split
  · exact .inl rfl
  · rename_i conn found
    exact .inr ⟨_, (quiet peer conn found).touch moment.instant, rfl⟩

theorem handlePacket_stores {server : VpnServer} (quiet : server.Quiet) (peer : SocketAddr)
    (data : List UInt8) (moment : Moment) :
    StoresQuiet server peer (handlePacket aead mac server peer data moment).2 := by
  unfold handlePacket
  split
  · exact .inl rfl
  · -- one case per opcode `handle_packet` dispatches on
    split
    · exact .inl rfl
    · exact handleHardReset_stores aead mac server peer _ moment
    · exact handleHardReset_stores aead mac server peer _ moment
    · exact handleControlPacket_stores aead mac quiet peer _ moment
    · exact handleControlPacket_stores aead mac quiet peer _ moment
    · exact handleControlPacket_stores aead mac quiet peer _ moment
    · exact handleDataPacket_stores aead mac quiet peer _ moment
    · exact handleDataPacket_stores aead mac quiet peer _ moment
    · exact .inl rfl

end Handlers

end VpnServer

/-- What every running server started from `config` keeps. -/
structure Serving (config : ServerConfig) (running : Running) : Prop where
  config_eq : running.server.config = config
  quiet : running.server.Quiet

section Runs

variable (aead : Aead) (mac : Key → List UInt8 → List.Vector UInt8 32)

theorem start_serving (config : ServerConfig) (tlsConfig : Bool) : Serving config (start config tlsConfig) :=
  ⟨rfl, SortedMap.all_empty _⟩

theorem step_serving {config : ServerConfig} {running : Running} (serving : Serving config running)
    (event : Event) : Serving config (step aead mac running event).2 := by
  cases event with
  | datagram peer data moment =>
      have stores := VpnServer.handlePacket_stores aead mac serving.quiet peer data moment
      exact ⟨stores.config_eq.trans serving.config_eq, stores.quiet serving.quiet⟩
  | sweep instant now => exact ⟨serving.config_eq, serving.quiet⟩
  | removeSwept => exact ⟨serving.config_eq, SortedMap.All.foldl_erase serving.quiet running.swept⟩

theorem run_serving (config : ServerConfig) (tlsConfig : Bool) (events : List Event) :
    Serving config (Machine.run (step aead mac) (start config tlsConfig) events).2 :=
  Machine.run_invariant (step aead mac) (Serving config) (fun _ event serving => step_serving aead mac serving event)
    (start_serving config tlsConfig) events

/-- Over any interleaving of datagrams and cleanups, every connection the server holds
is short of Established, has counted no traffic and has no user. -/
theorem run_quiet (config : ServerConfig) (tlsConfig : Bool) (events : List Event) :
    (Machine.run (step aead mac) (start config tlsConfig) events).2.server.Quiet :=
  (run_serving aead mac config tlsConfig events).quiet

/-- `ServerStats::from_server` reports no active session, whatever the server has been
sent. -/
theorem activeSessions_zero (config : ServerConfig) (tlsConfig : Bool) (events : List Event) :
    (ServerStats.fromServer (Machine.run (step aead mac) (start config tlsConfig) events).2.server).activeSessions = 0 := by
  have quiet := (run_serving aead mac config tlsConfig events).quiet
  have none : (Machine.run (step aead mac) (start config tlsConfig) events).2.server.connections.entries.filter
      (fun entry => entry.2.protocol.isEstablished) = [] := by
    rw [List.filter_eq_nil_iff]
    intro entry member
    have notEstablished := (quiet.of_mem member).notEstablished
    simpa [Protocol.ProtocolSession.isEstablished] using notEstablished
  simp only [ServerStats.fromServer, none, List.length_nil]
  rfl

/-- After any run, a data datagram is dropped: nothing is logged, nothing is sent, and
the result is `Ok`. -/
theorem data_datagrams_dropped (config : ServerConfig) (tlsConfig : Bool) (events : List Event)
    (peer : SocketAddr) {first : UInt8} (rest : List UInt8) (moment : Moment) {opcode : OpCode}
    (decoded : OpCode.fromByte first = .ok opcode) (isData : opcode.isData = true) :
    (step aead mac (Machine.run (step aead mac) (start config tlsConfig) events).2
      (.datagram peer (first :: rest) moment)).1 = .silent (.ok ()) := by
  have quiet := (run_serving aead mac config tlsConfig events).quiet
  obtain rfl | rfl : opcode = .dataV1 ∨ opcode = .dataV2 := by
    cases opcode <;> simp_all [OpCode.isData]
  all_goals
    simp only [step, VpnServer.handlePacket, decoded]
    rw [VpnServer.handleDataPacket_of_quiet aead mac quiet]

theorem data_datagrams_dropped_dataV1 :
    let aead : Aead := ⟨fun _ _ _ plaintext _ => some plaintext, fun _ _ _ ciphertext _ => some ciphertext⟩
    let mac : Key → List UInt8 → List.Vector UInt8 32 := fun _ _ => List.Vector.replicate 32 0
    OpCode.fromByte 0x30 = .ok .dataV1 ∧ OpCode.dataV1.isData = true ∧
      (step aead mac (Machine.run (step aead mac) (start (ServerConfig.defaultConfig "vpn.example.com") false) []).2
        (.datagram ⟨.v4 (ipv4 10 0 0 1), 1194⟩ [0x30, 1, 2, 3] ⟨0, ⟨0, ⟨0, 0, by decide, by decide⟩⟩, ⟨Vector.replicate 16 0⟩,
          List.Vector.replicate 8 0, false, ⟨false, [], false, false⟩, false, fun _ => false⟩)).1 =
        .silent (.ok ()) :=
  by
  intro aead mac
  exact ⟨rfl, rfl, data_datagrams_dropped aead mac _ false [] _ [1, 2, 3] _ rfl rfl⟩

/-! ## What is logged -/

section Logged

variable {aead} {mac}

theorem handleHardReset_logged (server : VpnServer) (peer : SocketAddr) (data : List UInt8) (moment : Moment) :
    (server.handleHardReset aead mac peer data moment).1.logged =
      if server.config.logging.connectionEvents.attempts then
        [ConnectionEventBuilder.attempt moment.connectionId moment.now peer]
      else [] := by
  unfold VpnServer.handleHardReset VpnServer.finishHardReset
  dsimp only
  split
  · rfl
  · split <;> rfl

theorem handleDataPacket_logged (server : VpnServer) (peer : SocketAddr) (data : List UInt8) (moment : Moment) :
    (server.handleDataPacket aead mac peer data moment).1.logged = [] := by
  unfold VpnServer.handleDataPacket
  split
  · rfl
  · dsimp only
    split
    · rfl
    · split <;> rfl

theorem handleTls_logged_nil {server : VpnServer} {peer : SocketAddr} {conn : Connection} {moment : Moment}
    {packets : List (List UInt8)} {logged : List ConnectionEvent}
    (off : server.config.logging.connectionEvents.authEvents = false)
    (answered : (server.handleTls mac peer conn moment).1 = .ok (packets, logged)) : logged = [] := by
  unfold VpnServer.handleTls at answered
  split at answered
  · cases answered
  · dsimp only at answered
    split at answered
    · cases answered
    · split at answered
      · cases answered
      · split at answered
        · simp only [off, Bool.false_eq_true, if_false, Except.ok.injEq, Prod.mk.injEq] at answered
          exact answered.2.symm
        · simp only [Except.ok.injEq, Prod.mk.injEq] at answered
          exact answered.2.symm

theorem reactTo_logged_nil {server : VpnServer} {peer : SocketAddr} {conn : Connection} {moment : Moment}
    {result : ProcessedPacket} {packets : List (List UInt8)} {logged : List ConnectionEvent}
    (offAuth : server.config.logging.connectionEvents.authEvents = false)
    (offRenegotiations : server.config.logging.connectionEvents.renegotiations = false)
    (answered : (server.reactTo mac peer conn moment result).1 = .ok (packets, logged)) : logged = [] := by
  unfold VpnServer.reactTo at answered
  split at answered
  · split at answered
    · exact handleTls_logged_nil offAuth answered
    · simp only [Except.ok.injEq, Prod.mk.injEq] at answered
      exact answered.2.symm
  · simp only [offRenegotiations, Bool.false_eq_true, if_false, Except.ok.injEq, Prod.mk.injEq] at answered
    exact answered.2.symm
  · simp only [Except.ok.injEq, Prod.mk.injEq] at answered
    exact answered.2.symm

theorem handleControlPacket_logged_nil {server : VpnServer}
    (offAuth : server.config.logging.connectionEvents.authEvents = false)
    (offRenegotiations : server.config.logging.connectionEvents.renegotiations = false)
    (peer : SocketAddr) (data : List UInt8) (moment : Moment) :
    (server.handleControlPacket aead mac peer data moment).1.logged = [] := by
  unfold VpnServer.handleControlPacket
  split
  · rfl
  · dsimp only
    split
    · rfl
    · split
      · rfl
      · rename_i answered
        exact reactTo_logged_nil offAuth offRenegotiations answered

theorem handlePacket_logged_nil {server : VpnServer}
    (off : server.config.logging.connectionEvents = ConnectionLogEvents.default)
    (peer : SocketAddr) (data : List UInt8) (moment : Moment) :
    (server.handlePacket aead mac peer data moment).1.logged = [] := by
  have offAttempts : server.config.logging.connectionEvents.attempts = false := by rw [off]; rfl
  have offAuth : server.config.logging.connectionEvents.authEvents = false := by rw [off]; rfl
  have offRenegotiations : server.config.logging.connectionEvents.renegotiations = false := by rw [off]; rfl
  unfold VpnServer.handlePacket
  split
  · rfl
  · split
    · rfl
    · rw [handleHardReset_logged, offAttempts, if_neg Bool.false_ne_true]
    · rw [handleHardReset_logged, offAttempts, if_neg Bool.false_ne_true]
    · exact handleControlPacket_logged_nil offAuth offRenegotiations peer _ moment
    · exact handleControlPacket_logged_nil offAuth offRenegotiations peer _ moment
    · exact handleControlPacket_logged_nil offAuth offRenegotiations peer _ moment
    · exact handleDataPacket_logged server peer _ moment
    · exact handleDataPacket_logged server peer _ moment
    · rfl

end Logged

theorem sweepStale_logged {server : VpnServer} (quiet : server.Quiet) (timeout instant : Nat) (now : DateTime) :
    ∀ event ∈ (server.sweepStale timeout instant now).1, ∃ connectionId clientAddr duration,
      event = .disconnected connectionId now clientAddr none .idleTimeout duration (some ⟨0, 0, 0, 0⟩) := by
  intro event member
  simp only [VpnServer.sweepStale, List.mem_map, List.mem_filter] at member
  obtain ⟨entry, ⟨stored, _⟩, rfl⟩ := member
  have entryQuiet : entry.2.Quiet := SortedMap.All.of_mem quiet stored
  refine ⟨entry.2.connectionId, entry.1, entry.2.duration instant, ?_⟩
  rw [ConnectionEventBuilder.disconnected, entryQuiet.noUser, entryQuiet.noTraffic]

/-- With every connection-event flag off, as in the default configuration, the server
logs, over any interleaving, only the idle-timeout disconnections of the cleanup, each
with no user and zero traffic. -/
theorem logged_with_events_off {config : ServerConfig} (tlsConfig : Bool)
    (off : config.logging.connectionEvents = ConnectionLogEvents.default) (events : List Event) :
    ∀ handled ∈ (Machine.run (step aead mac) (start config tlsConfig) events).1, ∀ event ∈ handled.logged,
      ∃ connectionId now clientAddr duration,
        event = .disconnected connectionId now clientAddr none .idleTimeout duration (some ⟨0, 0, 0, 0⟩) := by
  refine Machine.forall_mem_run_of_invariant (step aead mac) (Serving config) _
    (fun _ event serving => step_serving aead mac serving event) ?_ (start_serving config tlsConfig) events
  intro running event serving
  cases event with
  | datagram peer data moment =>
      intro logged member
      have silent : (running.server.handlePacket aead mac peer data moment).1.logged = [] :=
        handlePacket_logged_nil (serving.config_eq ▸ off) peer data moment
      rw [step, silent] at member
      cases member
  | sweep instant now =>
      intro logged member
      obtain ⟨connectionId, clientAddr, duration, rfl⟩ := sweepStale_logged serving.quiet 300 instant now logged member
      exact ⟨connectionId, now, clientAddr, duration, rfl⟩
  | removeSwept =>
      intro logged member
      cases member

theorem logged_with_events_off_default :
    let aead : Aead := ⟨fun _ _ _ plaintext _ => some plaintext, fun _ _ _ ciphertext _ => some ciphertext⟩
    let mac : Key → List UInt8 → List.Vector UInt8 32 := fun _ _ => List.Vector.replicate 32 0
    (ServerConfig.defaultConfig "vpn.example.com").logging.connectionEvents = ConnectionLogEvents.default ∧
      ∀ handled ∈ (Machine.run (step aead mac) (start (ServerConfig.defaultConfig "vpn.example.com") true)
          [.sweep 400 ⟨0, ⟨0, 0, by decide, by decide⟩⟩, .removeSwept]).1, ∀ event ∈ handled.logged,
        ∃ connectionId now clientAddr duration,
          event = .disconnected connectionId now clientAddr none .idleTimeout duration (some ⟨0, 0, 0, 0⟩) := by
  intro aead mac
  exact ⟨rfl, logged_with_events_off aead mac true rfl _⟩

/-! ## The cleanup task -/

theorem mem_sweepStale_iff (server : VpnServer) (timeout instant : Nat) (now : DateTime) (addr : SocketAddr) :
    addr ∈ (server.sweepStale timeout instant now).2 ↔
      ∃ conn, server.connections.find? addr = some conn ∧ conn.isStale timeout instant = true := by
  simp only [VpnServer.sweepStale, List.mem_map, List.mem_filter]
  constructor
  · rintro ⟨entry, ⟨stored, stale⟩, rfl⟩
    exact ⟨entry.2, (SortedMap.find?_eq_some_iff _ _ _).mpr stored, stale⟩
  · rintro ⟨conn, found, stale⟩
    exact ⟨⟨addr, conn⟩, ⟨(SortedMap.find?_eq_some_iff _ _ _).mp found, stale⟩, rfl⟩

theorem find?_removeSwept_of_mem (server : VpnServer) {addrs : List SocketAddr} {addr : SocketAddr}
    (swept : addr ∈ addrs) : (server.removeSwept addrs).connections.find? addr = none := by
  rw [VpnServer.removeSwept, SortedMap.find?_foldl_erase, if_pos swept]

theorem find?_removeSwept_of_not_mem (server : VpnServer) {addrs : List SocketAddr} {addr : SocketAddr}
    (kept : addr ∉ addrs) : (server.removeSwept addrs).connections.find? addr = server.connections.find? addr := by
  rw [VpnServer.removeSwept, SortedMap.find?_foldl_erase, if_neg kept]

theorem swept_step_of_isDatagram (running : Running) {event : Event} (datagram : event.isDatagram = true) :
    (step aead mac running event).2.swept = running.swept := by
  cases event with
  | datagram => rfl
  | sweep => cases datagram
  | removeSwept => cases datagram

/-- The removal does not look again: a peer whose connection the scan found stale has no
connection after the removal, whatever datagrams came in between, so a peer that
reconnects while the disconnections are logged loses its new connection. -/
theorem swept_peer_loses_connection (running : Running) (instant : Nat) (now : DateTime) {peer : SocketAddr}
    {conn : Connection} (found : running.server.connections.find? peer = some conn)
    (stale : conn.isStale 300 instant = true) (between : List Event)
    (onlyDatagrams : ∀ event ∈ between, event.isDatagram = true) :
    (step aead mac (Machine.run (step aead mac) (step aead mac running (.sweep instant now)).2 between).2
      .removeSwept).2.server.connections.find? peer = none := by
  have swept : peer ∈ (step aead mac running (.sweep instant now)).2.swept :=
    (mem_sweepStale_iff running.server 300 instant now peer).mpr ⟨conn, found, stale⟩
  have kept : peer ∈ (Machine.run (step aead mac) (step aead mac running (.sweep instant now)).2 between).2.swept :=
    Machine.run_invariant_guarded (step aead mac) (fun running => peer ∈ running.swept)
      (fun _ event => event.isDatagram = true)
      (fun running _ member datagram => (swept_step_of_isDatagram aead mac running datagram).symm ▸ member)
      swept between (fun _ inside => onlyDatagrams _ (List.getElem_mem inside))
  exact find?_removeSwept_of_mem _ kept

theorem swept_peer_loses_connection_reconnect :
    let aead : Aead := ⟨fun _ _ _ plaintext _ => some plaintext, fun _ _ _ ciphertext _ => some ciphertext⟩
    let mac : Key → List UInt8 → List.Vector UInt8 32 := fun _ _ => List.Vector.replicate 32 0
    let midnight : DateTime := ⟨0, ⟨0, 0, by decide, by decide⟩⟩
    let peer : SocketAddr := ⟨.v4 (ipv4 10 0 0 1), 1194⟩
    let old := Connection.new peer .chaCha20Poly1305 ⟨Vector.replicate 16 0⟩ (List.Vector.replicate 8 0) 0
    let running : Running := ⟨⟨ServerConfig.defaultConfig "vpn.example.com", SortedMap.empty.insert peer old, false⟩, []⟩
    let hardReset : Event := .datagram peer [0x38, 9, 9, 9, 9, 9, 9, 9, 9, 0, 0, 0, 0, 0]
      ⟨400, midnight, ⟨Vector.replicate 16 1⟩, List.Vector.replicate 8 1, false, ⟨false, [], false, false⟩, false,
        fun _ => false⟩
    let scanned := (step aead mac running (.sweep 400 midnight)).2
    (∃ fresh, (step aead mac scanned hardReset).2.server.connections.find? peer = some fresh ∧
        fresh.isStale 300 400 = false) ∧
      (step aead mac (Machine.run (step aead mac) scanned [hardReset]).2 .removeSwept).2.server.connections.find? peer =
        none := by
  intro aead mac midnight peer old running hardReset scanned
  refine ⟨⟨_, rfl, rfl⟩, ?_⟩
  exact swept_peer_loses_connection aead mac running 400 midnight (SortedMap.find?_insert_self _ _ _) rfl
    [hardReset] (by simp [hardReset, Event.isDatagram])

end Runs

end Server

end CoreVpn
