import CoreVpn.Core.AddressPool

/-!
# Connection events

`corevpn-server/src/connection_log/events.rs`: the six events the connection log
records, with the `std::net` addresses, the `chrono` UTC timestamps and the
`std::time` durations they hold. An IPv4 address is its 32 bits in network order,
built from and read as four octets; an IPv6 address is its 128 bits, built from and
read as eight segments. A timestamp is a day and a `NaiveTime`, whose setters
`with_minute`, `with_second` and `with_nanosecond` are `chrono`'s.
-/

namespace CoreVpn.ConnectionLog

open CoreVpn.Core

set_option autoImplicit false

def ipv4 (a b c d : UInt8) : Ipv4Addr := a.toBitVec ++ b.toBitVec ++ c.toBitVec ++ d.toBitVec

def octets (addr : Ipv4Addr) : Vector UInt8 4 :=
  #v[⟨addr.extractLsb' 24 8⟩, ⟨addr.extractLsb' 16 8⟩, ⟨addr.extractLsb' 8 8⟩, ⟨addr.extractLsb' 0 8⟩]

def ipv6 (a b c d e f g h : UInt16) : Ipv6Addr :=
  a.toBitVec ++ b.toBitVec ++ c.toBitVec ++ d.toBitVec ++ e.toBitVec ++ f.toBitVec ++ g.toBitVec ++
    h.toBitVec

def segments (addr : Ipv6Addr) : Vector UInt16 8 :=
  Vector.ofFn fun i => ⟨addr.extractLsb' (112 - 16 * i.val) 16⟩

/-- `Ipv6Addr::from([u8; 16])`: the bytes in network order. -/
def ipv6OfBytes (bytes : Vector UInt8 16) : Ipv6Addr :=
  BitVec.ofNat 128 (bytes.toList.foldl (fun value byte => value * 256 + byte.toNat) 0)

inductive IpAddr
  | v4 (addr : Ipv4Addr)
  | v6 (addr : Ipv6Addr)
  deriving DecidableEq

structure SocketAddr where
  ip : IpAddr
  port : UInt16
  deriving DecidableEq

/-- `chrono::NaiveTime`: seconds since midnight and nanoseconds, where a count of a
second or more marks a leap second. -/
structure NaiveTime where
  secs : Nat
  frac : Nat
  secs_lt : secs < 86400
  frac_lt : frac < 2000000000
  deriving DecidableEq

namespace NaiveTime

def withMinute (time : NaiveTime) (min : Nat) : Option NaiveTime :=
  if small : min < 60 then
    some ⟨time.secs / 3600 * 3600 + min * 60 + time.secs % 60, time.frac,
      by have := time.secs_lt; omega, time.frac_lt⟩
  else none

def withSecond (time : NaiveTime) (sec : Nat) : Option NaiveTime :=
  if small : sec < 60 then
    some ⟨time.secs / 60 * 60 + sec, time.frac, by have := time.secs_lt; omega, time.frac_lt⟩
  else none

def withNanosecond (time : NaiveTime) (nano : Nat) : Option NaiveTime :=
  if small : nano < 2000000000 then some ⟨time.secs, nano, time.secs_lt, small⟩ else none

end NaiveTime

/-- `DateTime<Utc>`: a day, counted from an epoch, and a time of day. -/
structure DateTime where
  date : Int
  time : NaiveTime
  deriving DecidableEq

namespace DateTime

def withMinute (t : DateTime) (min : Nat) : Option DateTime :=
  (t.time.withMinute min).map fun time => { t with time }

def withSecond (t : DateTime) (sec : Nat) : Option DateTime :=
  (t.time.withSecond sec).map fun time => { t with time }

def withNanosecond (t : DateTime) (nano : Nat) : Option DateTime :=
  (t.time.withNanosecond nano).map fun time => { t with time }

end DateTime

structure Duration where
  secs : UInt64
  nanos : UInt32
  nanos_lt : nanos.toNat < 1000000000
  deriving DecidableEq

def Duration.fromSecs (secs : UInt64) : Duration := ⟨secs, 0, by decide⟩

/-- `struct ConnectionId(Uuid)`, the UUID as its sixteen bytes. -/
structure ConnectionId where
  uuid : Vector UInt8 16
  deriving DecidableEq

inductive AuthMethod
  | certificate
  | usernamePassword
  | oAuth2
  | saml
  | psk
  | unknown
  deriving DecidableEq, Repr

inductive DisconnectReason
  | clientDisconnect
  | serverDisconnect
  | idleTimeout
  | sessionTimeout
  | authFailure
  | protocolError
  | connectionReset
  | serverShutdown
  | adminTerminated
  | renegotiationFailure
  | unknown
  deriving DecidableEq, Repr

inductive AuthResult
  | success
  | invalidCredentials
  | expired
  | notAuthorized
  | rateLimited
  | providerError
  | timeout
  | unknown
  deriving DecidableEq, Repr

structure TransferStats where
  bytesRx : UInt64
  bytesTx : UInt64
  packetsRx : UInt64
  packetsTx : UInt64
  deriving DecidableEq

inductive ConnectionEvent
  | connectionAttempt (connectionId : ConnectionId) (timestamp : DateTime) (clientAddr : SocketAddr)
      (protocolVersion : Option String)
  | authentication (connectionId : ConnectionId) (timestamp : DateTime) (clientAddr : SocketAddr)
      (username : Option String) (authMethod : AuthMethod) (result : AuthResult) (details : Option String)
  | connected (connectionId : ConnectionId) (timestamp : DateTime) (clientAddr : SocketAddr)
      (username : Option String) (vpnIp : IpAddr) (authMethod : AuthMethod) (clientInfo : Option String)
  | disconnected (connectionId : ConnectionId) (timestamp : DateTime) (clientAddr : SocketAddr)
      (username : Option String) (reason : DisconnectReason) (duration : Duration)
      (stats : Option TransferStats)
  | ipChange (connectionId : ConnectionId) (timestamp : DateTime) (oldAddr newAddr : SocketAddr)
      (username : Option String)
  | renegotiation (connectionId : ConnectionId) (timestamp : DateTime) (clientAddr : SocketAddr)
      (success : Bool)
  deriving DecidableEq

namespace ConnectionEvent

def eventType : ConnectionEvent → String
  | .connectionAttempt .. => "connection_attempt"
  | .authentication .. => "authentication"
  | .connected .. => "connected"
  | .disconnected .. => "disconnected"
  | .ipChange .. => "ip_change"
  | .renegotiation .. => "renegotiation"

def connectionId : ConnectionEvent → ConnectionId
  | .connectionAttempt connectionId .. => connectionId
  | .authentication connectionId .. => connectionId
  | .connected connectionId .. => connectionId
  | .disconnected connectionId .. => connectionId
  | .ipChange connectionId .. => connectionId
  | .renegotiation connectionId .. => connectionId

def timestamp : ConnectionEvent → DateTime
  | .connectionAttempt _ timestamp .. => timestamp
  | .authentication _ timestamp .. => timestamp
  | .connected _ timestamp .. => timestamp
  | .disconnected _ timestamp .. => timestamp
  | .ipChange _ timestamp .. => timestamp
  | .renegotiation _ timestamp .. => timestamp

end ConnectionEvent

/-! ## Building events

The methods of `ConnectionEventBuilder` that the server calls, for a builder of
`connectionId`; each stamps its event with `Utc::now()`, here `now`. -/

namespace ConnectionEventBuilder

def attempt (connectionId : ConnectionId) (now : DateTime) (clientAddr : SocketAddr) : ConnectionEvent :=
  .connectionAttempt connectionId now clientAddr none

def authentication (connectionId : ConnectionId) (now : DateTime) (clientAddr : SocketAddr)
    (username : Option String) (authMethod : AuthMethod) (result : AuthResult) : ConnectionEvent :=
  .authentication connectionId now clientAddr username authMethod result none

def disconnected (connectionId : ConnectionId) (now : DateTime) (clientAddr : SocketAddr)
    (username : Option String) (reason : DisconnectReason) (duration : Duration) (stats : Option TransferStats) :
    ConnectionEvent :=
  .disconnected connectionId now clientAddr username reason duration stats

def renegotiation (connectionId : ConnectionId) (now : DateTime) (clientAddr : SocketAddr) (success : Bool) :
    ConnectionEvent :=
  .renegotiation connectionId now clientAddr success

end ConnectionEventBuilder

end CoreVpn.ConnectionLog
