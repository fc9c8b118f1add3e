import CoreVpn.ConnectionLog.Events
import CoreVpn.Lib.RustStr
import Mathlib.Logic.Equiv.List

/-!
# Connection log rows

`DatabaseConnectionLogger` (`corevpn-server/src/connection_log/db_logger.rs`) stores each
event as one row of `connection_events`: `insert_event` binds the columns its constructor
has and leaves the others NULL, and `parse_event_row` reads the row back. Identifiers,
addresses and timestamps are stored as their `Display` text and read back with their
parsers, taken here as lawful codecs; enums are stored as their `Debug` names and read
back through the lower-case tables of `parse_auth_method`, `parse_auth_result` and
`parse_disconnect_reason`; counters pass through `i64` columns.

`Row::try_get` decodes a column with sqlx's `Decode` impls, which are third-party code and
a parameter here (`Decoder`). `parse_event_row` reads an optional column as
`try_get::<String, _>(..).ok()`, so what an absent field comes back as depends on how the
decoder treats NULL. If it refuses NULL, as sqlx-postgres does, every row reads back as
its event (`parseEventRow_insertEvent`). sqlx-sqlite 0.8 decodes NULL as `""` and `0`
(`Decoder.NullAsEmpty`), and then an absent text reads back as `Some("")` and absent
statistics as zeros (`parseEventRow_insertEvent_sqlite`).
-/

namespace CoreVpn.ConnectionLog

open RustStr

set_option autoImplicit false

/-- A SQLite value as `sqlx` binds and returns it. -/
inductive SqlValue
  | null
  | text (value : String)
  | integer (value : Int64)
  deriving DecidableEq

namespace SqlValue

def ofText? : Option String → SqlValue
  | some value => .text value
  | none => .null

def ofInteger? : Option Int64 → SqlValue
  | some value => .integer value
  | none => .null

end SqlValue

/-- A row of `connection_events`: the columns an insert binds, every other one NULL. -/
structure Row where
  columns : List (String × SqlValue)

/-- sqlx's `Decode` of a SQLite value into the Rust type `try_get` asks for: `String`,
`i64` or `i32`. An error is `try_get`'s `Err`. -/
structure Decoder where
  text : SqlValue → Except String String
  int64 : SqlValue → Except String Int64
  int32 : SqlValue → Except String Int32

namespace Decoder

/-- A value of the column's own type decodes as it was bound, and an `i32` is range
checked. -/
structure ReadsBound (decoder : Decoder) : Prop where
  text : ∀ value, decoder.text (.text value) = .ok value
  int64 : ∀ value, decoder.int64 (.integer value) = .ok value
  int32 : ∀ value : Int32, decoder.int32 (.integer value.toInt64) = .ok value
  int32_range : ∀ value : Int64, value.toInt32.toInt64 ≠ value → ∃ message, decoder.int32 (.integer value) = .error message

/-- sqlx-sqlite 0.8: NULL decodes as `""` (`sqlite3_value_bytes` is 0) and as `0`
(`sqlite3_value_int64`). -/
structure NullAsEmpty (decoder : Decoder) : Prop where
  text : decoder.text .null = .ok ""
  int64 : decoder.int64 .null = .ok 0
  int32 : decoder.int32 .null = .ok 0

/-- NULL refused for a type that is not an `Option`, as sqlx's PostgreSQL driver does. -/
structure NullRefused (decoder : Decoder) : Prop where
  text : ∃ message, decoder.text .null = .error message
  int64 : ∃ message, decoder.int64 .null = .error message
  int32 : ∃ message, decoder.int32 .null = .error message

end Decoder

namespace Row

def get (row : Row) (column : String) : SqlValue := (List.lookup column row.columns).getD .null

def tryGetText (decoder : Decoder) (row : Row) (column : String) : Except String String :=
  decoder.text (row.get column)

def tryGetI64 (decoder : Decoder) (row : Row) (column : String) : Except String Int64 :=
  decoder.int64 (row.get column)

def tryGetI32 (decoder : Decoder) (row : Row) (column : String) : Except String Int32 :=
  decoder.int32 (row.get column)

end Row

/-- The `Display` texts and parsers the logger stores identifiers, addresses and
timestamps with: `Uuid`, `SocketAddr`, `IpAddr`, and RFC 3339 for `DateTime<Utc>`. -/
structure Codecs where
  uuid : TextCodec (Vector UInt8 16)
  socketAddr : TextCodec SocketAddr
  ipAddr : TextCodec IpAddr
  rfc3339 : TextCodec DateTime

/-! ## Enum names -/

def AuthMethod.debug : AuthMethod → String
  | .certificate => "Certificate"
  | .usernamePassword => "UsernamePassword"
  | .oAuth2 => "OAuth2"
  | .saml => "Saml"
  | .psk => "Psk"
  | .unknown => "Unknown"

def AuthResult.debug : AuthResult → String
  | .success => "Success"
  | .invalidCredentials => "InvalidCredentials"
  | .expired => "Expired"
  | .notAuthorized => "NotAuthorized"
  | .rateLimited => "RateLimited"
  | .providerError => "ProviderError"
  | .timeout => "Timeout"
  | .unknown => "Unknown"

def DisconnectReason.debug : DisconnectReason → String
  | .clientDisconnect => "ClientDisconnect"
  | .serverDisconnect => "ServerDisconnect"
  | .idleTimeout => "IdleTimeout"
  | .sessionTimeout => "SessionTimeout"
  | .authFailure => "AuthFailure"
  | .protocolError => "ProtocolError"
  | .connectionReset => "ConnectionReset"
  | .serverShutdown => "ServerShutdown"
  | .adminTerminated => "AdminTerminated"
  | .renegotiationFailure => "RenegotiationFailure"
  | .unknown => "Unknown"

def parseByName {α : Type} (names : List (String × α)) (fallback : α) (s : String) : α :=
  (List.lookup (toLowercase s) names).getD fallback

def parseAuthMethod : String → AuthMethod :=
  parseByName [("certificate", .certificate), ("usernamepassword", .usernamePassword),
    ("oauth2", .oAuth2), ("saml", .saml), ("psk", .psk)] .unknown

def parseAuthResult : String → AuthResult :=
  parseByName [("success", .success), ("invalidcredentials", .invalidCredentials),
    ("expired", .expired), ("notauthorized", .notAuthorized), ("ratelimited", .rateLimited),
    ("providererror", .providerError), ("timeout", .timeout)] .unknown

def parseDisconnectReason : String → DisconnectReason :=
  parseByName [("clientdisconnect", .clientDisconnect), ("serverdisconnect", .serverDisconnect),
    ("idletimeout", .idleTimeout), ("sessiontimeout", .sessionTimeout), ("authfailure", .authFailure),
    ("protocolerror", .protocolError), ("connectionreset", .connectionReset),
    ("servershutdown", .serverShutdown), ("adminterminated", .adminTerminated),
    ("renegotiationfailure", .renegotiationFailure)] .unknown

-- every `Debug` name is in its table in lower case, and `Unknown` falls to the last arm
@[simp] theorem parseAuthMethod_debug (method : AuthMethod) : parseAuthMethod method.debug = method := by
  cases method <;> decide

@[simp] theorem parseAuthResult_debug (result : AuthResult) : parseAuthResult result.debug = result := by
  cases result <;> decide

@[simp] theorem parseDisconnectReason_debug (reason : DisconnectReason) :
    parseDisconnectReason reason.debug = reason := by
  cases reason <;> decide

/-! ## Writing and reading a row -/

def insertHeader (codecs : Codecs) (eventType : String) (connectionId : ConnectionId) (timestamp : DateTime) :
    List (String × SqlValue) :=
  [("connection_id", .text (codecs.uuid.render connectionId.uuid)), ("event_type", .text eventType),
    ("timestamp", .text (codecs.rfc3339.render timestamp))]

/-- `insert_event`: the row its query binds. -/
def insertEvent (codecs : Codecs) : ConnectionEvent → Row
  | .connectionAttempt connectionId timestamp clientAddr protocolVersion =>
      ⟨insertHeader codecs "connection_attempt" connectionId timestamp ++
        [("client_addr", .text (codecs.socketAddr.render clientAddr)),
          ("protocol_version", .ofText? protocolVersion)]⟩
  | .authentication connectionId timestamp clientAddr username authMethod result details =>
      ⟨insertHeader codecs "authentication" connectionId timestamp ++
        [("client_addr", .text (codecs.socketAddr.render clientAddr)), ("username", .ofText? username),
          ("auth_method", .text authMethod.debug), ("auth_result", .text result.debug),
          ("details", .ofText? details)]⟩
  | .connected connectionId timestamp clientAddr username vpnIp authMethod clientInfo =>
      ⟨insertHeader codecs "connected" connectionId timestamp ++
        [("client_addr", .text (codecs.socketAddr.render clientAddr)), ("username", .ofText? username),
          ("vpn_ip", .text (codecs.ipAddr.render vpnIp)), ("auth_method", .text authMethod.debug),
          ("client_info", .ofText? clientInfo)]⟩
  | .disconnected connectionId timestamp clientAddr username reason duration stats =>
      -- the four counters are all bound, or all NULL when there are no statistics
      ⟨insertHeader codecs "disconnected" connectionId timestamp ++
        [("client_addr", .text (codecs.socketAddr.render clientAddr)), ("username", .ofText? username),
          ("disconnect_reason", .text reason.debug), ("duration_secs", .integer duration.secs.toInt64),
          ("bytes_rx", .ofInteger? (stats.map fun stats => stats.bytesRx.toInt64)),
          ("bytes_tx", .ofInteger? (stats.map fun stats => stats.bytesTx.toInt64)),
          ("packets_rx", .ofInteger? (stats.map fun stats => stats.packetsRx.toInt64)),
          ("packets_tx", .ofInteger? (stats.map fun stats => stats.packetsTx.toInt64))]⟩
  | .ipChange connectionId timestamp oldAddr newAddr username =>
      ⟨insertHeader codecs "ip_change" connectionId timestamp ++
        [("old_addr", .text (codecs.socketAddr.render oldAddr)),
          ("new_addr", .text (codecs.socketAddr.render newAddr)), ("username", .ofText? username)]⟩
  | .renegotiation connectionId timestamp clientAddr success =>
      ⟨insertHeader codecs "renegotiation" connectionId timestamp ++
        [("client_addr", .text (codecs.socketAddr.render clientAddr)),
          ("success", .integer (if success then 1 else 0 : Int32).toInt64)]⟩

/-- `parse_event_row`: `.ok()` is `Except.toOption`, `unwrap_or_default()` and
`unwrap_or(0)` are `getD` of it. -/
def parseEventRow (decoder : Decoder) (codecs : Codecs) (row : Row) : Option ConnectionEvent := do
  let text := fun column => (row.tryGetText decoder column).toOption
  let eventType ← text "event_type"
  let connectionIdStr ← text "connection_id"
  let connectionId := ConnectionId.mk (← codecs.uuid.parse connectionIdStr)
  let timestampStr ← text "timestamp"
  let timestamp ← codecs.rfc3339.parse timestampStr
  match eventType with
  | "connection_attempt" =>
      let clientAddrStr ← text "client_addr"
      let clientAddr ← codecs.socketAddr.parse clientAddrStr
      let protocolVersion := text "protocol_version"
      pure (.connectionAttempt connectionId timestamp clientAddr protocolVersion)
  | "authentication" =>
      let clientAddrStr ← text "client_addr"
      let clientAddr ← codecs.socketAddr.parse clientAddrStr
      let username := text "username"
      let authMethodStr := (text "auth_method").getD ""
      let authResultStr := (text "auth_result").getD ""
      let details := text "details"
      pure (.authentication connectionId timestamp clientAddr username (parseAuthMethod authMethodStr)
        (parseAuthResult authResultStr) details)
  | "connected" =>
      let clientAddrStr ← text "client_addr"
      let clientAddr ← codecs.socketAddr.parse clientAddrStr
      let username := text "username"
      let vpnIpStr ← text "vpn_ip"
      let vpnIp ← codecs.ipAddr.parse vpnIpStr
      let authMethodStr := (text "auth_method").getD ""
      let clientInfo := text "client_info"
      pure (.connected connectionId timestamp clientAddr username vpnIp (parseAuthMethod authMethodStr)
        clientInfo)
  | "disconnected" =>
      let clientAddrStr ← text "client_addr"
      let clientAddr ← codecs.socketAddr.parse clientAddrStr
      let username := text "username"
      let reasonStr := (text "disconnect_reason").getD ""
      let integer := fun column => (row.tryGetI64 decoder column).toOption
      let durationSecs := (integer "duration_secs").getD 0
      let bytesRx := integer "bytes_rx"
      let bytesTx := integer "bytes_tx"
      let packetsRx := integer "packets_rx"
      let packetsTx := integer "packets_tx"
      let stats : Option TransferStats :=
        if bytesRx.isSome || bytesTx.isSome then
          some ⟨(bytesRx.getD 0).toUInt64, (bytesTx.getD 0).toUInt64, (packetsRx.getD 0).toUInt64,
            (packetsTx.getD 0).toUInt64⟩
        else none
      pure (.disconnected connectionId timestamp clientAddr username (parseDisconnectReason reasonStr)
        (Duration.fromSecs durationSecs.toUInt64) stats)
  | "ip_change" =>
      let oldAddrStr ← text "old_addr"
      let newAddrStr ← text "new_addr"
      let oldAddr ← codecs.socketAddr.parse oldAddrStr
      let newAddr ← codecs.socketAddr.parse newAddrStr
      let username := text "username"
      pure (.ipChange connectionId timestamp oldAddr newAddr username)
  | "renegotiation" =>
      let clientAddrStr ← text "client_addr"
      let clientAddr ← codecs.socketAddr.parse clientAddrStr
      let success := ((row.tryGetI32 decoder "success").toOption).getD 0
      pure (.renegotiation connectionId timestamp clientAddr (success != 0))
  | _ => none

/-! ## Lawful codecs exist

Each of the four types injects into an encodable one, so each has a text form that its
parser reads back. -/

def ipCode : IpAddr → Nat ⊕ Nat
  | .v4 addr => .inl addr.toNat
  | .v6 addr => .inr addr.toNat

theorem ipCode_injective : Function.Injective ipCode := by
  rintro (a | a) (b | b) same
  · exact congrArg IpAddr.v4 (BitVec.toNat_inj.mp (Sum.inl_injective same))
  · cases same
  · cases same
  · exact congrArg IpAddr.v6 (BitVec.toNat_inj.mp (Sum.inr_injective same))

theorem uuidCode_injective : Function.Injective fun uuid : Vector UInt8 16 => uuid.toList.map UInt8.toNat := by
  intro a b same
  have bytes : Function.Injective UInt8.toNat := fun x y equal => UInt8.toNat_inj.mp equal
  exact Vector.toList_inj.mp (List.map_injective_iff.mpr bytes same)

theorem socketAddrCode_injective :
    Function.Injective fun addr : SocketAddr => (ipCode addr.ip, addr.port.toNat) := by
  rintro ⟨ip, port⟩ ⟨ip', port'⟩ same
  obtain ⟨sameIp, samePort⟩ := Prod.mk.inj same
  dsimp only at sameIp samePort
  rw [ipCode_injective sameIp, UInt16.toNat_inj.mp samePort]

theorem dateTimeCode_injective :
    Function.Injective fun t : DateTime => (t.date, t.time.secs, t.time.frac) := by
  rintro ⟨date, secs, frac, _, _⟩ ⟨date', secs', frac', _, _⟩ same
  simp only [Prod.mk.injEq] at same
  obtain ⟨rfl, rfl, rfl⟩ := same
  rfl

noncomputable def Codecs.encodable : Codecs where
  uuid := .ofInjective _ uuidCode_injective
  socketAddr := .ofInjective _ socketAddrCode_injective
  ipAddr := .ofInjective _ ipCode_injective
  rfc3339 := .ofInjective _ dateTimeCode_injective

/-! ## Reading back what was written -/

def ConnectionEvent.HasWholeSeconds : ConnectionEvent → Prop
  | .disconnected _ _ _ _ _ duration _ => duration.nanos = 0
  | _ => True

def ConnectionEvent.nullsAsEmpty : ConnectionEvent → ConnectionEvent
  | .connectionAttempt connectionId timestamp clientAddr protocolVersion =>
      .connectionAttempt connectionId timestamp clientAddr (some (protocolVersion.getD ""))
  | .authentication connectionId timestamp clientAddr username authMethod result details =>
      .authentication connectionId timestamp clientAddr (some (username.getD "")) authMethod result
        (some (details.getD ""))
  | .connected connectionId timestamp clientAddr username vpnIp authMethod clientInfo =>
      .connected connectionId timestamp clientAddr (some (username.getD "")) vpnIp authMethod
        (some (clientInfo.getD ""))
  | .disconnected connectionId timestamp clientAddr username reason duration stats =>
      .disconnected connectionId timestamp clientAddr (some (username.getD "")) reason duration
        (some (stats.getD ⟨0, 0, 0, 0⟩))
  | .ipChange connectionId timestamp oldAddr newAddr username =>
      .ipChange connectionId timestamp oldAddr newAddr (some (username.getD ""))
  | event@(.renegotiation ..) => event

theorem Duration.fromSecs_secs (duration : Duration) (whole : duration.nanos = 0) :
    Duration.fromSecs duration.secs = duration := by
  obtain ⟨secs, nanos, nanos_lt⟩ := duration
  dsimp only at whole
  subst whole
  rfl

section Reading

variable {decoder : Decoder} (bound : decoder.ReadsBound)
include bound

theorem text_text (value : String) : (decoder.text (.text value)).toOption = some value := by
  rw [bound.text]
  rfl

theorem int64_integer (value : Int64) : (decoder.int64 (.integer value)).toOption = some value := by
  rw [bound.int64]
  rfl

theorem int32_integer (value : Int32) : (decoder.int32 (.integer value.toInt64)).toOption = some value := by
  rw [bound.int32]
  rfl

theorem success_integer (success : Bool) :
    ((decoder.int32 (.integer (if success then 1 else 0 : Int32).toInt64)).toOption.getD 0 != 0) = success := by
  rw [int32_integer bound]
  cases success <;> rfl

theorem text_ofText?_of_refused (refused : decoder.NullRefused) (value : Option String) :
    (decoder.text (.ofText? value)).toOption = value := by
  obtain ⟨message, nullText⟩ := refused.text
  cases value with
  | none => rw [SqlValue.ofText?, nullText]; rfl
  | some value => exact text_text bound value

theorem int64_ofInteger?_of_refused (refused : decoder.NullRefused) (value : Option Int64) :
    (decoder.int64 (.ofInteger? value)).toOption = value := by
  obtain ⟨message, nullInteger⟩ := refused.int64
  cases value with
  | none => rw [SqlValue.ofInteger?, nullInteger]; rfl
  | some value => exact int64_integer bound value

theorem text_ofText?_of_empty (empty : decoder.NullAsEmpty) (value : Option String) :
    (decoder.text (.ofText? value)).toOption = some (value.getD "") := by
  cases value with
  | none => rw [SqlValue.ofText?, empty.text]; rfl
  | some value => exact text_text bound value

theorem int64_ofInteger?_of_empty (empty : decoder.NullAsEmpty) (value : Option Int64) :
    (decoder.int64 (.ofInteger? value)).toOption = some (value.getD 0) := by
  cases value with
  | none => rw [SqlValue.ofInteger?, empty.int64]; rfl
  | some value => exact int64_integer bound value

variable (codecs : Codecs)

theorem parseEventRow_insertEvent (refused : decoder.NullRefused) (event : ConnectionEvent)
    (whole : event.HasWholeSeconds) :
    parseEventRow decoder codecs (insertEvent codecs event) = some event := by
  cases event with
  | connectionAttempt | authentication | connected | ipChange =>
      simp [parseEventRow, insertEvent, insertHeader, Row.tryGetText, Row.get, List.lookup_cons, List.lookup_nil,
        text_text bound, text_ofText?_of_refused bound refused]
  | disconnected connectionId timestamp clientAddr username reason duration stats =>
      have whole : duration.nanos = 0 := whole
      cases stats <;>
        simp [parseEventRow, insertEvent, insertHeader, Row.tryGetText, Row.tryGetI64, Row.get, List.lookup_cons,
          List.lookup_nil, text_text bound, text_ofText?_of_refused bound refused, int64_integer bound,
          int64_ofInteger?_of_refused bound refused, Duration.fromSecs_secs duration whole]
  | renegotiation connectionId timestamp clientAddr success =>
      simp [parseEventRow, insertEvent, insertHeader, Row.tryGetText, Row.tryGetI32, Row.get, List.lookup_cons,
        List.lookup_nil, text_text bound]
      exact success_integer bound success

/-- With sqlx-sqlite's decoding, a row reads back as its event with every absent text
`Some("")` and absent statistics four zeros. -/
theorem parseEventRow_insertEvent_sqlite (empty : decoder.NullAsEmpty) (event : ConnectionEvent)
    (whole : event.HasWholeSeconds) :
    parseEventRow decoder codecs (insertEvent codecs event) = some event.nullsAsEmpty := by
  cases event with
  | connectionAttempt | authentication | connected | ipChange =>
      simp [parseEventRow, insertEvent, insertHeader, Row.tryGetText, Row.get, List.lookup_cons, List.lookup_nil,
        text_text bound, text_ofText?_of_empty bound empty, ConnectionEvent.nullsAsEmpty]
  | disconnected connectionId timestamp clientAddr username reason duration stats =>
      have whole : duration.nanos = 0 := whole
      have zeroCounter : Int64.toUInt64 0 = 0 := rfl
      cases stats <;>
        simp [parseEventRow, insertEvent, insertHeader, Row.tryGetText, Row.tryGetI64, Row.get, List.lookup_cons,
          List.lookup_nil, text_text bound, text_ofText?_of_empty bound empty, int64_integer bound,
          int64_ofInteger?_of_empty bound empty, Duration.fromSecs_secs duration whole, ConnectionEvent.nullsAsEmpty,
          zeroCounter]
  | renegotiation connectionId timestamp clientAddr success =>
      simp [parseEventRow, insertEvent, insertHeader, Row.tryGetText, Row.tryGetI32, Row.get, List.lookup_cons,
        List.lookup_nil, text_text bound, ConnectionEvent.nullsAsEmpty]
      exact success_integer bound success

end Reading

/-- A decoding that behaves as sqlx-sqlite 0.8 does on NULL, TEXT and INTEGER values. A
connection attempt without a protocol version comes back with the version `""`. -/
theorem parseEventRow_insertEvent_sqlite_attempt :
    let decoder : Decoder :=
      ⟨fun | .text value => .ok value | .null => .ok "" | .integer _ => .error "mismatched types",
        fun | .integer value => .ok value | .null => .ok 0 | .text _ => .error "mismatched types",
        fun | .integer value => if value.toInt32.toInt64 = value then .ok value.toInt32 else .error "out of range"
            | .null => .ok 0
            | .text _ => .error "mismatched types"⟩
    let attempt := ConnectionEvent.connectionAttempt ⟨Vector.replicate 16 7⟩ ⟨19000, ⟨36061, 5, by decide, by decide⟩⟩
      ⟨.v4 (ipv4 10 0 0 5), 51000⟩ none
    decoder.ReadsBound ∧ decoder.NullAsEmpty ∧ attempt.HasWholeSeconds ∧
      parseEventRow decoder Codecs.encodable (insertEvent Codecs.encodable attempt) =
        some (.connectionAttempt ⟨Vector.replicate 16 7⟩ ⟨19000, ⟨36061, 5, by decide, by decide⟩⟩
          ⟨.v4 (ipv4 10 0 0 5), 51000⟩ (some "")) := by
  intro decoder attempt
  have bound : decoder.ReadsBound :=
    ⟨fun _ => rfl, fun _ => rfl, fun value => by simp [decoder],
      fun value outside => ⟨"out of range", by simp [decoder, outside]⟩⟩
  have empty : decoder.NullAsEmpty := ⟨rfl, rfl, rfl⟩
  exact ⟨bound, empty, trivial, parseEventRow_insertEvent_sqlite bound Codecs.encodable empty attempt trivial⟩

end CoreVpn.ConnectionLog
