import CoreVpn.Config.ServerConfig
import CoreVpn.Lib.Serde

/-!
# Saving and loading the server configuration

`ServerConfig::save` writes `toml::to_string_pretty(self)` and `ServerConfig::load` reads
the file back with `toml::from_str` and validates it. Between the two stands the value
tree serde derives for the configuration: `serialize` writes each struct as a table, and
`deserialize` reads it back under the attributes of `server.rs`. TOML's printer and parser
are a `Serde.Format`, which reads back every tree it prints; the text of a TOML error is
the serde message, without the location TOML puts before it.

The two `skip_serializing` fields are not written. An absent `api_key` reads as `None`, but
`client_secret` has neither a default nor an `Option` type, so a configuration with OAuth
settings does not load from its own file (`load_save_of_oauth`), and one with an API key
loads without it (`load_save_of_no_oauth`).
-/

namespace CoreVpn.Config

open Serde RustStr CoreVpn.ConnectionLog CoreVpn.Core

set_option autoImplicit false

/-- What `save`, `load` and `validate` rest on: the `Display` and `FromStr` of
`SocketAddr`, the `Ipv4Net` parser of `ipnet`, and TOML. -/
structure Libraries where
  socketAddr : TextCodec SocketAddr
  parseIpv4Net : String → Except String Ipv4Net
  toml : Serde.Format

/-! ## Primitive types -/

def writeU16 (n : UInt16) : Value := .integer n.toNat
def writeU32 (n : UInt32) : Value := .integer n.toNat
def writeU64 (n : UInt64) : Value := .integer n.toNat
def writeStrings (items : List String) : Value := .array (items.map .string)

def readU16 (value : Value) : Except String UInt16 := UInt16.ofNat <$> readUnsigned 16 "u16" value
def readU32 (value : Value) : Except String UInt32 := UInt32.ofNat <$> readUnsigned 32 "u32" value
def readU64 (name : String) (value : Value) : Except String UInt64 :=
  UInt64.ofNat <$> readUnsigned 64 name value
def readStrings : Value → Except String (List String) := readArray readString

def writeSocketAddr (codec : TextCodec SocketAddr) (addr : SocketAddr) : Value := .string (codec.render addr)

def readSocketAddr (codec : TextCodec SocketAddr) (value : Value) : Except String SocketAddr := do
  let text ← readString value
  match codec.parse text with
  | some addr => pure addr
  | none => throw "invalid socket address syntax"

@[simp] theorem readU16_writeU16 (n : UInt16) : readU16 (writeU16 n) = .ok n := by
  rw [readU16, writeU16, readUnsigned_integer _ _ _ n.toNat_lt]
  exact congrArg Except.ok (UInt16.ofNat_toNat)

@[simp] theorem readU32_writeU32 (n : UInt32) : readU32 (writeU32 n) = .ok n := by
  rw [readU32, writeU32, readUnsigned_integer _ _ _ n.toNat_lt]
  exact congrArg Except.ok (UInt32.ofNat_toNat)

@[simp] theorem readU64_writeU64 (name : String) (n : UInt64) : readU64 name (writeU64 n) = .ok n := by
  rw [readU64, writeU64, readUnsigned_integer _ _ _ n.toNat_lt]
  exact congrArg Except.ok (UInt64.ofNat_toNat)

@[simp] theorem readStrings_writeStrings (items : List String) : readStrings (writeStrings items) = .ok items :=
  readArray_map _ _ items fun _ _ => rfl

@[simp] theorem readSocketAddr_writeSocketAddr (codec : TextCodec SocketAddr) (addr : SocketAddr) :
    readSocketAddr codec (writeSocketAddr codec addr) = .ok addr := by
  simp only [readSocketAddr, writeSocketAddr, readString_string, bind, Except.bind, TextCodec.parse_render]
  rfl

/-! ## The value tree of each struct -/

namespace ServerSettings

def serialize (codec : TextCodec SocketAddr) (s : ServerSettings) : Value :=
  .table ([("listen_addr", writeSocketAddr codec s.listenAddr)] ++
    optionEntry "tcp_listen_addr" (s.tcpListenAddr.map (writeSocketAddr codec)) ++
    [("public_host", .string s.publicHost), ("protocol", .string s.protocol),
      ("max_clients", writeU32 s.maxClients), ("data_dir", .string s.dataDir)])

def deserialize (codec : TextCodec SocketAddr) (value : Value) : Except String ServerSettings := do
  let entries ← readTable "struct ServerSettings" value
  return {
    listenAddr := ← defaultField entries "listen_addr" (readSocketAddr codec) defaultListenAddr
    tcpListenAddr := ← optionField entries "tcp_listen_addr" (readSocketAddr codec)
    publicHost := ← requiredField entries "public_host" readString
    protocol := ← defaultField entries "protocol" readString defaultProtocol
    maxClients := ← defaultField entries "max_clients" readU32 defaultMaxClients
    dataDir := ← defaultField entries "data_dir" readString defaultDataDir }

end ServerSettings

namespace NetworkSettings

def serialize (s : NetworkSettings) : Value :=
  .table ([("subnet", .string s.subnet)] ++ optionEntry "subnet_v6" (s.subnetV6.map .string) ++
    [("dns", writeStrings s.dns), ("dns_search", writeStrings s.dnsSearch),
      ("push_routes", writeStrings s.pushRoutes), ("redirect_gateway", .boolean s.redirectGateway),
      ("mtu", writeU16 s.mtu)])

def deserialize (value : Value) : Except String NetworkSettings := do
  let entries ← readTable "struct NetworkSettings" value
  return {
    subnet := ← defaultField entries "subnet" readString defaultSubnet
    subnetV6 := ← optionField entries "subnet_v6" readString
    dns := ← defaultField entries "dns" readStrings defaultDns
    dnsSearch := ← defaultField entries "dns_search" readStrings []
    pushRoutes := ← defaultField entries "push_routes" readStrings []
    redirectGateway := ← defaultField entries "redirect_gateway" readBool defaultRedirectGateway
    mtu := ← defaultField entries "mtu" readU16 defaultMtu }

end NetworkSettings

namespace SecuritySettings

def serialize (s : SecuritySettings) : Value :=
  .table [("cipher", .string s.cipher), ("tls_min_version", .string s.tlsMinVersion),
    ("tls_auth", .boolean s.tlsAuth), ("tls_crypt", .boolean s.tlsCrypt),
    ("cert_lifetime_days", writeU32 s.certLifetimeDays),
    ("client_cert_lifetime_days", writeU32 s.clientCertLifetimeDays), ("reneg_sec", writeU32 s.renegSec),
    ("pfs", .boolean s.pfs)]

def deserialize (value : Value) : Except String SecuritySettings := do
  let entries ← readTable "struct SecuritySettings" value
  return {
    cipher := ← defaultField entries "cipher" readString defaultCipher
    tlsMinVersion := ← defaultField entries "tls_min_version" readString defaultTlsVersion
    tlsAuth := ← defaultField entries "tls_auth" readBool defaultTrue
    tlsCrypt := ← defaultField entries "tls_crypt" readBool false
    certLifetimeDays := ← defaultField entries "cert_lifetime_days" readU32 defaultCertLifetime
    clientCertLifetimeDays := ← defaultField entries "client_cert_lifetime_days" readU32 defaultClientCertLifetime
    renegSec := ← defaultField entries "reneg_sec" readU32 defaultRenegSec
    pfs := ← defaultField entries "pfs" readBool defaultTrue }

end SecuritySettings

namespace OAuthSettings

/-- `client_secret` is `skip_serializing`. -/
def serialize (s : OAuthSettings) : Value :=
  .table ([("enabled", .boolean s.enabled), ("provider", .string s.provider), ("client_id", .string s.clientId)] ++
    optionEntry "issuer_url" (s.issuerUrl.map .string) ++ optionEntry "tenant_id" (s.tenantId.map .string) ++
    optionEntry "domain" (s.domain.map .string) ++
    [("allowed_domains", writeStrings s.allowedDomains), ("required_groups", writeStrings s.requiredGroups)])

def deserialize (value : Value) : Except String OAuthSettings := do
  let entries ← readTable "struct OAuthSettings" value
  return {
    enabled := ← defaultField entries "enabled" readBool false
    provider := ← requiredField entries "provider" readString
    clientId := ← requiredField entries "client_id" readString
    clientSecret := ← requiredField entries "client_secret" readString
    issuerUrl := ← optionField entries "issuer_url" readString
    tenantId := ← optionField entries "tenant_id" readString
    domain := ← optionField entries "domain" readString
    allowedDomains := ← defaultField entries "allowed_domains" readStrings []
    requiredGroups := ← defaultField entries "required_groups" readStrings [] }

end OAuthSettings

namespace ConnectionLogMode

def name : ConnectionLogMode → String
  | .none => "none"
  | .memory => "memory"
  | .file => "file"
  | .database => "database"
  | .both => "both"

def serialize (mode : ConnectionLogMode) : Value := .string mode.name

def deserialize : Value → Except String ConnectionLogMode
  | .string "none" => .ok .none
  | .string "memory" => .ok .memory
  | .string "file" => .ok .file
  | .string "database" => .ok .database
  | .string "both" => .ok .both
  | .string tag => .error (unknownVariant tag ["none", "memory", "file", "database", "both"])
  | value => .error (invalidType value "enum ConnectionLogMode")

end ConnectionLogMode

namespace ConnectionLogEvents

def serialize (s : ConnectionLogEvents) : Value :=
  .table [("attempts", .boolean s.attempts), ("connects", .boolean s.connects),
    ("disconnects", .boolean s.disconnects), ("auth_events", .boolean s.authEvents),
    ("transfer_stats", .boolean s.transferStats), ("ip_changes", .boolean s.ipChanges),
    ("renegotiations", .boolean s.renegotiations)]

def deserialize (value : Value) : Except String ConnectionLogEvents := do
  let entries ← readTable "struct ConnectionLogEvents" value
  return {
    attempts := ← defaultField entries "attempts" readBool false
    connects := ← defaultField entries "connects" readBool defaultTrue
    disconnects := ← defaultField entries "disconnects" readBool defaultTrue
    authEvents := ← defaultField entries "auth_events" readBool false
    transferStats := ← defaultField entries "transfer_stats" readBool false
    ipChanges := ← defaultField entries "ip_changes" readBool false
    renegotiations := ← defaultField entries "renegotiations" readBool false }

end ConnectionLogEvents

namespace ConnectionLogAnonymization

def serialize (s : ConnectionLogAnonymization) : Value :=
  .table [("hash_client_ips", .boolean s.hashClientIps), ("truncate_client_ips", .boolean s.truncateClientIps),
    ("hash_usernames", .boolean s.hashUsernames), ("round_timestamps", .boolean s.roundTimestamps),
    ("aggregate_transfer_stats", .boolean s.aggregateTransferStats)]

def deserialize (value : Value) : Except String ConnectionLogAnonymization := do
  let entries ← readTable "struct ConnectionLogAnonymization" value
  return {
    hashClientIps := ← defaultField entries "hash_client_ips" readBool false
    truncateClientIps := ← defaultField entries "truncate_client_ips" readBool false
    hashUsernames := ← defaultField entries "hash_usernames" readBool false
    roundTimestamps := ← defaultField entries "round_timestamps" readBool false
    aggregateTransferStats := ← defaultField entries "aggregate_transfer_stats" readBool false }

end ConnectionLogAnonymization

namespace ConnectionLogRetention

def serialize (s : ConnectionLogRetention) : Value :=
  .table [("days", writeU32 s.days), ("max_file_size_mb", writeU32 s.maxFileSizeMb),
    ("max_files", writeU32 s.maxFiles), ("auto_purge", .boolean s.autoPurge),
    ("secure_delete", .boolean s.secureDelete)]

def deserialize (value : Value) : Except String ConnectionLogRetention := do
  let entries ← readTable "struct ConnectionLogRetention" value
  return {
    days := ← defaultField entries "days" readU32 defaultRetentionDays
    maxFileSizeMb := ← defaultField entries "max_file_size_mb" readU32 defaultMaxLogSizeMb
    maxFiles := ← defaultField entries "max_files" readU32 defaultMaxLogFiles
    autoPurge := ← defaultField entries "auto_purge" readBool defaultTrue
    secureDelete := ← defaultField entries "secure_delete" readBool false }

end ConnectionLogRetention

namespace LoggingSettings

def serialize (s : LoggingSettings) : Value :=
  .table ([("level", .string s.level), ("format", .string s.format)] ++ optionEntry "file" (s.file.map .string) ++
    [("connection_mode", s.connectionMode.serialize)] ++
    optionEntry "connection_log_file" (s.connectionLogFile.map .string) ++
    optionEntry "connection_log_db" (s.connectionLogDb.map .string) ++
    [("connection_events", s.connectionEvents.serialize), ("anonymization", ConnectionLogAnonymization.serialize s.anonymization),
      ("retention", s.retention.serialize), ("log_connections", .boolean s.logConnections)])

def deserialize (value : Value) : Except String LoggingSettings := do
  let entries ← readTable "struct LoggingSettings" value
  return {
    level := ← defaultField entries "level" readString defaultLogLevel
    format := ← defaultField entries "format" readString defaultLogFormat
    file := ← optionField entries "file" readString
    connectionMode := ← defaultField entries "connection_mode" ConnectionLogMode.deserialize
      ConnectionLogMode.default
    connectionLogFile := ← optionField entries "connection_log_file" readString
    connectionLogDb := ← optionField entries "connection_log_db" readString
    connectionEvents := ← defaultField entries "connection_events" ConnectionLogEvents.deserialize
      ConnectionLogEvents.default
    anonymization := ← defaultField entries "anonymization" ConnectionLogAnonymization.deserialize
      ConnectionLogAnonymization.default
    retention := ← defaultField entries "retention" ConnectionLogRetention.deserialize
      ConnectionLogRetention.default
    logConnections := ← defaultField entries "log_connections" readBool defaultTrue }

end LoggingSettings

namespace AdminSettings

/-- `api_key` is `skip_serializing`. -/
def serialize (codec : TextCodec SocketAddr) (s : AdminSettings) : Value :=
  .table [("enabled", .boolean s.enabled), ("listen_addr", writeSocketAddr codec s.listenAddr),
    ("allowed_ips", writeStrings s.allowedIps)]

def deserialize (codec : TextCodec SocketAddr) (value : Value) : Except String AdminSettings := do
  let entries ← readTable "struct AdminSettings" value
  return {
    enabled := ← defaultField entries "enabled" readBool false
    listenAddr := ← defaultField entries "listen_addr" (readSocketAddr codec) defaultAdminAddr
    apiKey := ← optionField entries "api_key" readString
    allowedIps := ← defaultField entries "allowed_ips" readStrings [] }

end AdminSettings

namespace AuditSinkConfig

def stringEntry? (name : String) (value : Option String) : List (String × Value) :=
  optionEntry name (value.map .string)

/-- `#[serde(tag = "type", rename_all = "snake_case")]`: a table whose `type` names the
variant, followed by the variant's fields. -/
def serialize : AuditSinkConfig → Value
  | .awsCloudwatch region logGroup logStream profile roleArn =>
      .table ([("type", .string "aws_cloudwatch"), ("region", .string region), ("log_group", .string logGroup),
        ("log_stream", .string logStream)] ++ stringEntry? "profile" profile ++ stringEntry? "role_arn" roleArn)
  | .awsS3 region bucket keyPrefix profile =>
      .table ([("type", .string "aws_s3"), ("region", .string region), ("bucket", .string bucket),
        ("prefix", .string keyPrefix)] ++ stringEntry? "profile" profile)
  | .awsSecurityHub region accountId profile =>
      .table ([("type", .string "aws_security_hub"), ("region", .string region),
        ("account_id", .string accountId)] ++ stringEntry? "profile" profile)
  | .awsEventBridge region eventBus profile =>
      .table ([("type", .string "aws_event_bridge"), ("region", .string region), ("event_bus", .string eventBus)] ++
        stringEntry? "profile" profile)
  | .azureMonitor workspaceId sharedKey logType =>
      .table [("type", .string "azure_monitor"), ("workspace_id", .string workspaceId),
        ("shared_key", .string sharedKey), ("log_type", .string logType)]
  | .azureEventHub hubNamespace eventHub policyName policyKey =>
      .table [("type", .string "azure_event_hub"), ("namespace", .string hubNamespace),
        ("event_hub", .string eventHub), ("policy_name", .string policyName), ("policy_key", .string policyKey)]
  | .azureSentinel workspaceId sharedKey logType =>
      .table [("type", .string "azure_sentinel"), ("workspace_id", .string workspaceId),
        ("shared_key", .string sharedKey), ("log_type", .string logType)]
  | .oracleLogging region logId tenancyId userId fingerprint privateKey =>
      .table [("type", .string "oracle_logging"), ("region", .string region), ("log_id", .string logId),
        ("tenancy_id", .string tenancyId), ("user_id", .string userId), ("fingerprint", .string fingerprint),
        ("private_key", .string privateKey)]
  | .oracleStreaming region streamId tenancyId userId fingerprint privateKey =>
      .table [("type", .string "oracle_streaming"), ("region", .string region), ("stream_id", .string streamId),
        ("tenancy_id", .string tenancyId), ("user_id", .string userId), ("fingerprint", .string fingerprint),
        ("private_key", .string privateKey)]
  | .elasticsearch urls index username password apiKey =>
      .table ([("type", .string "elasticsearch"), ("urls", writeStrings urls), ("index", .string index)] ++
        stringEntry? "username" username ++ stringEntry? "password" password ++ stringEntry? "api_key" apiKey)
  | .splunk url token sourcetype index =>
      .table ([("type", .string "splunk"), ("url", .string url), ("token", .string token),
        ("sourcetype", .string sourcetype)] ++ stringEntry? "index" index)
  | .kafka brokers topic saslUsername saslPassword =>
      .table ([("type", .string "kafka"), ("brokers", writeStrings brokers), ("topic", .string topic)] ++
        stringEntry? "sasl_username" saslUsername ++ stringEntry? "sasl_password" saslPassword)
  | .syslog address port protocol useCef useLeef =>
      .table [("type", .string "syslog"), ("address", .string address), ("port", writeU16 port),
        ("protocol", .string protocol), ("use_cef", .boolean useCef), ("use_leef", .boolean useLeef)]
  | .webhook url headers bearerToken apiKeyHeader apiKeyValue =>
      .table ([("type", .string "webhook"), ("url", .string url),
        ("headers", .table (headers.map fun (key, item) => (key, .string item)))] ++
        stringEntry? "bearer_token" bearerToken ++ stringEntry? "api_key_header" apiKeyHeader ++
        stringEntry? "api_key_value" apiKeyValue)
  | .file path format maxSizeMb maxFiles =>
      .table [("type", .string "file"), ("path", .string path), ("format", .string format),
        ("max_size_mb", writeU64 maxSizeMb), ("max_files", writeU32 maxFiles)]

def tags : List String :=
  ["aws_cloudwatch", "aws_s3", "aws_security_hub", "aws_event_bridge", "azure_monitor", "azure_event_hub",
    "azure_sentinel", "oracle_logging", "oracle_streaming", "elasticsearch", "splunk", "kafka", "syslog",
    "webhook", "file"]

def deserialize (value : Value) : Except String AuditSinkConfig := do
  let entries ← readTable "internally tagged enum AuditSinkConfig" value
  let tag ← requiredField entries "type" readString
  match tag with
  | "aws_cloudwatch" =>
      return .awsCloudwatch (← requiredField entries "region" readString)
        (← requiredField entries "log_group" readString)
        (← defaultField entries "log_stream" readString defaultCloudwatchStream)
        (← optionField entries "profile" readString) (← optionField entries "role_arn" readString)
  | "aws_s3" =>
      return .awsS3 (← requiredField entries "region" readString) (← requiredField entries "bucket" readString)
        (← defaultField entries "prefix" readString defaultS3Prefix) (← optionField entries "profile" readString)
  | "aws_security_hub" =>
      return .awsSecurityHub (← requiredField entries "region" readString)
        (← requiredField entries "account_id" readString) (← optionField entries "profile" readString)
  | "aws_event_bridge" =>
      return .awsEventBridge (← requiredField entries "region" readString)
        (← defaultField entries "event_bus" readString defaultEventBus) (← optionField entries "profile" readString)
  | "azure_monitor" =>
      return .azureMonitor (← requiredField entries "workspace_id" readString)
        (← requiredField entries "shared_key" readString)
        (← defaultField entries "log_type" readString defaultAzureLogType)
  | "azure_event_hub" =>
      return .azureEventHub (← requiredField entries "namespace" readString)
        (← requiredField entries "event_hub" readString) (← requiredField entries "policy_name" readString)
        (← requiredField entries "policy_key" readString)
  | "azure_sentinel" =>
      return .azureSentinel (← requiredField entries "workspace_id" readString)
        (← requiredField entries "shared_key" readString)
        (← defaultField entries "log_type" readString defaultSentinelLogType)
  | "oracle_logging" =>
      return .oracleLogging (← requiredField entries "region" readString) (← requiredField entries "log_id" readString)
        (← requiredField entries "tenancy_id" readString) (← requiredField entries "user_id" readString)
        (← requiredField entries "fingerprint" readString) (← requiredField entries "private_key" readString)
  | "oracle_streaming" =>
      return .oracleStreaming (← requiredField entries "region" readString)
        (← requiredField entries "stream_id" readString) (← requiredField entries "tenancy_id" readString)
        (← requiredField entries "user_id" readString) (← requiredField entries "fingerprint" readString)
        (← requiredField entries "private_key" readString)
  | "elasticsearch" =>
      return .elasticsearch (← requiredField entries "urls" readStrings)
        (← defaultField entries "index" readString defaultEsIndex) (← optionField entries "username" readString)
        (← optionField entries "password" readString) (← optionField entries "api_key" readString)
  | "splunk" =>
      return .splunk (← requiredField entries "url" readString) (← requiredField entries "token" readString)
        (← defaultField entries "sourcetype" readString defaultSplunkSourcetype)
        (← optionField entries "index" readString)
  | "kafka" =>
      return .kafka (← requiredField entries "brokers" readStrings) (← requiredField entries "topic" readString)
        (← optionField entries "sasl_username" readString) (← optionField entries "sasl_password" readString)
  | "syslog" =>
      return .syslog (← requiredField entries "address" readString)
        (← defaultField entries "port" readU16 defaultSyslogPort)
        (← defaultField entries "protocol" readString defaultSyslogProtocol)
        (← defaultField entries "use_cef" readBool false) (← defaultField entries "use_leef" readBool false)
  | "webhook" =>
      return .webhook (← requiredField entries "url" readString) (← defaultField entries "headers" readStringMap [])
        (← optionField entries "bearer_token" readString) (← optionField entries "api_key_header" readString)
        (← optionField entries "api_key_value" readString)
  | "file" =>
      return .file (← requiredField entries "path" readString)
        (← defaultField entries "format" readString defaultAuditFormat)
        (← defaultField entries "max_size_mb" (readU64 "u64") defaultMaxSize)
        (← defaultField entries "max_files" readU32 defaultMaxFiles)
  | _ => throw (unknownVariant tag tags)

end AuditSinkConfig

namespace AuditSettings

def serialize (s : AuditSettings) : Value :=
  .table [("enabled", .boolean s.enabled), ("buffer_size", writeU64 s.bufferSize),
    ("include_source_ip", .boolean s.includeSourceIp), ("include_user_identity", .boolean s.includeUserIdentity),
    ("hash_sensitive_fields", .boolean s.hashSensitiveFields), ("sinks", .array (s.sinks.map AuditSinkConfig.serialize))]

def deserialize (value : Value) : Except String AuditSettings := do
  let entries ← readTable "struct AuditSettings" value
  return {
    enabled := ← defaultField entries "enabled" readBool false
    bufferSize := ← defaultField entries "buffer_size" (readU64 "usize") defaultAuditBuffer
    includeSourceIp := ← defaultField entries "include_source_ip" readBool defaultTrue
    includeUserIdentity := ← defaultField entries "include_user_identity" readBool defaultTrue
    hashSensitiveFields := ← defaultField entries "hash_sensitive_fields" readBool false
    sinks := ← defaultField entries "sinks" (readArray AuditSinkConfig.deserialize) [] }

end AuditSettings

namespace ServerConfig

def serialize (codec : TextCodec SocketAddr) (config : ServerConfig) : Value :=
  .table ([("server", config.server.serialize codec), ("network", config.network.serialize),
    ("security", config.security.serialize)] ++ optionEntry "oauth" (config.oauth.map OAuthSettings.serialize) ++
    [("logging", config.logging.serialize), ("admin", config.admin.serialize codec),
      ("audit", config.audit.serialize)])

def deserialize (codec : TextCodec SocketAddr) (value : Value) : Except String ServerConfig := do
  let entries ← readTable "struct ServerConfig" value
  return {
    server := ← requiredField entries "server" (ServerSettings.deserialize codec)
    network := ← requiredField entries "network" NetworkSettings.deserialize
    security := ← requiredField entries "security" SecuritySettings.deserialize
    oauth := ← optionField entries "oauth" OAuthSettings.deserialize
    logging := ← defaultField entries "logging" LoggingSettings.deserialize LoggingSettings.default
    admin := ← defaultField entries "admin" (AdminSettings.deserialize codec) AdminSettings.default
    audit := ← defaultField entries "audit" AuditSettings.deserialize AuditSettings.default }

end ServerConfig

/-! ## Reading back the tree of each struct

Each struct reads back from its own table; the lookups go key by key, and an `Option`
entry reads back as the option it was written from. -/

section ReadBack

theorem ServerSettings.deserialize_serialize (codec : TextCodec SocketAddr) (s : ServerSettings) :
    ServerSettings.deserialize codec (s.serialize codec) = .ok s := by
  rw [ServerSettings.deserialize, ServerSettings.serialize, readTable_table, Wire.ok_bind]
  simp [requiredField, defaultField, optionField_optionEntry _ _ _ (readSocketAddr_writeSocketAddr codec)]

theorem NetworkSettings.deserialize_serialize (s : NetworkSettings) :
    NetworkSettings.deserialize s.serialize = .ok s := by
  rw [NetworkSettings.deserialize, NetworkSettings.serialize, readTable_table, Wire.ok_bind]
  simp [defaultField, optionField_optionEntry _ readString Value.string (fun _ => rfl)]

theorem SecuritySettings.deserialize_serialize (s : SecuritySettings) :
    SecuritySettings.deserialize s.serialize = .ok s := by
  rw [SecuritySettings.deserialize, SecuritySettings.serialize, readTable_table, Wire.ok_bind]
  simp [defaultField]

theorem OAuthSettings.deserialize_serialize (s : OAuthSettings) :
    OAuthSettings.deserialize s.serialize = .error (missingField "client_secret") := by
  rw [OAuthSettings.deserialize, OAuthSettings.serialize, readTable_table, Wire.ok_bind]
  simp [requiredField, defaultField]

theorem ConnectionLogMode.deserialize_serialize (mode : ConnectionLogMode) :
    ConnectionLogMode.deserialize mode.serialize = .ok mode := by
  cases mode <;> rfl

theorem ConnectionLogEvents.deserialize_serialize (s : ConnectionLogEvents) :
    ConnectionLogEvents.deserialize s.serialize = .ok s := by
  rw [ConnectionLogEvents.deserialize, ConnectionLogEvents.serialize, readTable_table, Wire.ok_bind]
  simp [defaultField]

theorem ConnectionLogAnonymization.deserialize_serialize (s : ConnectionLogAnonymization) :
    ConnectionLogAnonymization.deserialize (ConnectionLogAnonymization.serialize s) = .ok s := by
  rw [ConnectionLogAnonymization.deserialize, ConnectionLogAnonymization.serialize, readTable_table, Wire.ok_bind]
  simp [defaultField]

theorem ConnectionLogRetention.deserialize_serialize (s : ConnectionLogRetention) :
    ConnectionLogRetention.deserialize s.serialize = .ok s := by
  rw [ConnectionLogRetention.deserialize, ConnectionLogRetention.serialize, readTable_table, Wire.ok_bind]
  simp [defaultField]

theorem LoggingSettings.deserialize_serialize (s : LoggingSettings) :
    LoggingSettings.deserialize s.serialize = .ok s := by
  rw [LoggingSettings.deserialize, LoggingSettings.serialize, readTable_table, Wire.ok_bind]
  simp [defaultField, optionField_optionEntry _ readString Value.string (fun _ => rfl),
    ConnectionLogMode.deserialize_serialize, ConnectionLogEvents.deserialize_serialize,
    ConnectionLogAnonymization.deserialize_serialize, ConnectionLogRetention.deserialize_serialize]

theorem AdminSettings.deserialize_serialize (codec : TextCodec SocketAddr) (s : AdminSettings) :
    AdminSettings.deserialize codec (s.serialize codec) = .ok { s with apiKey := none } := by
  rw [AdminSettings.deserialize, AdminSettings.serialize, readTable_table, Wire.ok_bind]
  simp [defaultField, optionField]

theorem AuditSinkConfig.deserialize_serialize (sink : AuditSinkConfig) :
    AuditSinkConfig.deserialize sink.serialize = .ok sink := by
  cases sink <;> rw [AuditSinkConfig.deserialize, AuditSinkConfig.serialize, readTable_table, Wire.ok_bind] <;>
    simp [requiredField, defaultField, AuditSinkConfig.stringEntry?, readStringMap_table,
      optionField_optionEntry _ readString Value.string (fun _ => rfl),
      optionField_optionEntry_last _ readString Value.string (fun _ => rfl)]

theorem AuditSettings.deserialize_serialize (s : AuditSettings) :
    AuditSettings.deserialize s.serialize = .ok s := by
  have sinks := readArray_map _ _ s.sinks fun sink _ => AuditSinkConfig.deserialize_serialize sink
  rw [AuditSettings.deserialize, AuditSettings.serialize, readTable_table, Wire.ok_bind]
  simp [defaultField, sinks]

end ReadBack

/-- `ServerConfig::save`: the text written to the file. -/
def save (libs : Libraries) (config : ServerConfig) : String :=
  libs.toml.print (config.serialize libs.socketAddr)

/-- `ServerConfig::load`, from the text read from the file. -/
def load (libs : Libraries) (content : String) : Except ConfigError ServerConfig := do
  let tree ← (libs.toml.parse content).mapError .serializationError
  let config ← (ServerConfig.deserialize libs.socketAddr tree).mapError .serializationError
  config.validate libs.parseIpv4Net
  pure config

/-! ## Loading what was saved -/

theorem ServerConfig.deserialize_serialize (codec : TextCodec SocketAddr) (config : ServerConfig) :
    ServerConfig.deserialize codec (config.serialize codec) =
      match config.oauth with
      | some _ => .error (missingField "client_secret")
      | none => .ok { config with admin := { config.admin with apiKey := none } } := by
  obtain ⟨server, network, security, oauth, logging, admin, audit⟩ := config
  rw [ServerConfig.deserialize, ServerConfig.serialize, readTable_table, Wire.ok_bind]
  cases oauth <;>
    simp [requiredField, defaultField, optionField, ServerSettings.deserialize_serialize,
      NetworkSettings.deserialize_serialize, SecuritySettings.deserialize_serialize,
      OAuthSettings.deserialize_serialize, LoggingSettings.deserialize_serialize,
      AdminSettings.deserialize_serialize, AuditSettings.deserialize_serialize]

theorem ServerConfig.validate_admin (parseIpv4Net : String → Except String Ipv4Net) (config : ServerConfig)
    (admin : AdminSettings) :
    ServerConfig.validate parseIpv4Net { config with admin } = config.validate parseIpv4Net := rfl

theorem load_save_of_oauth (libs : Libraries) (config : ServerConfig) (oauth : OAuthSettings)
    (configured : config.oauth = some oauth) :
    load libs (save libs config) = .error (.serializationError (missingField "client_secret")) := by
  have tree := ServerConfig.deserialize_serialize libs.socketAddr config
  simp only [configured] at tree
  simp [load, save, tree, Except.mapError]

theorem load_save_of_no_oauth (libs : Libraries) (config : ServerConfig) (noOAuth : config.oauth = none) :
    load libs (save libs config) =
      (fun _ => { config with admin := { config.admin with apiKey := none } }) <$>
        config.validate libs.parseIpv4Net := by
  have tree := ServerConfig.deserialize_serialize libs.socketAddr config
  simp only [noOAuth] at tree
  have same := ServerConfig.validate_admin libs.parseIpv4Net config { config.admin with apiKey := none }
  obtain ⟨server, network, security, oauth, logging, admin, audit⟩ := config
  dsimp only at noOAuth tree same ⊢
  subst noOAuth
  cases valid : ServerConfig.validate libs.parseIpv4Net ⟨server, network, security, none, logging, admin, audit⟩ <;>
    simp [load, save, tree, Except.mapError, same, valid]

theorem load_save_eq_ok_iff (libs : Libraries) (config : ServerConfig)
    (valid : config.validate libs.parseIpv4Net = .ok ()) :
    load libs (save libs config) = .ok config ↔ config.oauth = none ∧ config.admin.apiKey = none := by
  cases configured : config.oauth with
  | some oauth =>
      rw [load_save_of_oauth libs config oauth configured]
      simp
  | none =>
      rw [load_save_of_no_oauth libs config configured, valid]
      obtain ⟨server, network, security, oauth, logging, ⟨enabled, listenAddr, apiKey, allowedIps⟩, audit⟩ := config
      simp [eq_comm]

/-- The configuration the setup wizard saves after Google OAuth was chosen is valid
wherever `ipnet` accepts the default subnet, and does not load back from its file. -/
theorem setup_wizard_oauth_config_does_not_reload (libs : Libraries) :
    ((setupConfig "vpn.example.com" 1194 "udp" "/var/lib/corevpn" "10.8.0.0/24" true
          (some (googleOAuth "client-id" "client-secret" ""))).validate libs.parseIpv4Net = .ok () ↔
        ∃ net, libs.parseIpv4Net "10.8.0.0/24" = .ok net) ∧
      load libs (save libs (setupConfig "vpn.example.com" 1194 "udp" "/var/lib/corevpn" "10.8.0.0/24" true
          (some (googleOAuth "client-id" "client-secret" "")))) =
        .error (.serializationError (missingField "client_secret")) := by
  constructor
  · cases parsed : libs.parseIpv4Net "10.8.0.0/24" <;>
      simp [ServerConfig.validate, setupConfig, ServerConfig.defaultConfig, googleOAuth, parsed, pure, Except.pure]
  · exact load_save_of_oauth libs _ _ rfl

end CoreVpn.Config
