import CoreVpn.ConnectionLog.Anonymizer
import CoreVpn.Lib.RustStr

/-!
# Server configuration

`ServerConfig` (`corevpn-config/src/server.rs`): the settings tree a server reads from
its TOML file, the defaults its fields take, `default_config`, and `validate`. Paths are
their text. The setup wizard (`corevpn-server/src/setup.rs`) builds its configuration
from `default_config` and the answers it was given (`setupConfig`), with OAuth settings
such as `setup_google_oauth` returns (`googleOAuth`).
-/

namespace CoreVpn.Config

open CoreVpn.ConnectionLog CoreVpn.Core

set_option autoImplicit false

/-- `ConfigError`, without the file system's `IoError`. -/
inductive ConfigError
  | serializationError (message : String)
  | validationError (message : String)
  | missingField (field : String)
  deriving DecidableEq, Repr

structure ServerSettings where
  listenAddr : SocketAddr
  tcpListenAddr : Option SocketAddr
  publicHost : String
  protocol : String
  maxClients : UInt32
  dataDir : String
  deriving DecidableEq

def defaultListenAddr : SocketAddr := ⟨.v4 (ipv4 0 0 0 0), 1194⟩
def defaultProtocol : String := "udp"
def defaultMaxClients : UInt32 := 1000
def defaultDataDir : String := "/var/lib/corevpn"

structure NetworkSettings where
  subnet : String
  subnetV6 : Option String
  dns : List String
  dnsSearch : List String
  pushRoutes : List String
  redirectGateway : Bool
  mtu : UInt16
  deriving DecidableEq

def defaultSubnet : String := "10.8.0.0/24"
def defaultDns : List String := ["1.1.1.1", "1.0.0.1"]
def defaultRedirectGateway : Bool := true
def defaultMtu : UInt16 := 1420

structure SecuritySettings where
  cipher : String
  tlsMinVersion : String
  tlsAuth : Bool
  tlsCrypt : Bool
  certLifetimeDays : UInt32
  clientCertLifetimeDays : UInt32
  renegSec : UInt32
  pfs : Bool
  deriving DecidableEq

def defaultCipher : String := "chacha20-poly1305"
def defaultTlsVersion : String := "1.3"
def defaultTrue : Bool := true
def defaultCertLifetime : UInt32 := 3650
def defaultClientCertLifetime : UInt32 := 90
def defaultRenegSec : UInt32 := 3600

/-- `OAuthSettings`; `client_secret` is `skip_serializing`. -/
structure OAuthSettings where
  enabled : Bool
  provider : String
  clientId : String
  clientSecret : String
  issuerUrl : Option String
  tenantId : Option String
  domain : Option String
  allowedDomains : List String
  requiredGroups : List String
  deriving DecidableEq

inductive ConnectionLogMode
  | none
  | memory
  | file
  | database
  | both
  deriving DecidableEq, Repr

def ConnectionLogMode.default : ConnectionLogMode := .memory

structure ConnectionLogEvents where
  attempts : Bool
  connects : Bool
  disconnects : Bool
  authEvents : Bool
  transferStats : Bool
  ipChanges : Bool
  renegotiations : Bool
  deriving DecidableEq

def ConnectionLogEvents.default : ConnectionLogEvents := ⟨false, false, false, false, false, false, false⟩

def ConnectionLogAnonymization.default : ConnectionLogAnonymization := ⟨false, false, false, false, false⟩

structure ConnectionLogRetention where
  days : UInt32
  maxFileSizeMb : UInt32
  maxFiles : UInt32
  autoPurge : Bool
  secureDelete : Bool
  deriving DecidableEq

def defaultRetentionDays : UInt32 := 7
def defaultMaxLogSizeMb : UInt32 := 100
def defaultMaxLogFiles : UInt32 := 5

def ConnectionLogRetention.default : ConnectionLogRetention :=
  ⟨defaultRetentionDays, defaultMaxLogSizeMb, defaultMaxLogFiles, true, false⟩

structure LoggingSettings where
  level : String
  format : String
  file : Option String
  connectionMode : ConnectionLogMode
  connectionLogFile : Option String
  connectionLogDb : Option String
  connectionEvents : ConnectionLogEvents
  anonymization : ConnectionLogAnonymization
  retention : ConnectionLogRetention
  logConnections : Bool
  deriving DecidableEq

def defaultLogLevel : String := "info"
def defaultLogFormat : String := "pretty"

def LoggingSettings.default : LoggingSettings :=
  ⟨defaultLogLevel, defaultLogFormat, none, ConnectionLogMode.default, none, none,
    ConnectionLogEvents.default, ConnectionLogAnonymization.default, ConnectionLogRetention.default, true⟩

/-- `AdminSettings`; `api_key` is `skip_serializing`. -/
structure AdminSettings where
  enabled : Bool
  listenAddr : SocketAddr
  apiKey : Option String
  allowedIps : List String
  deriving DecidableEq

def defaultAdminAddr : SocketAddr := ⟨.v4 (ipv4 127 0 0 1), 8443⟩

def AdminSettings.default : AdminSettings := ⟨false, defaultAdminAddr, none, ["127.0.0.1"]⟩

/-- `AuditSinkConfig`. The S3 key prefix and the Event Hub namespace are named
`keyPrefix` and `hubNamespace` here; their keys are `prefix` and `namespace`. A header
map is its list of entries. -/
inductive AuditSinkConfig
  | awsCloudwatch (region logGroup logStream : String) (profile roleArn : Option String)
  | awsS3 (region bucket keyPrefix : String) (profile : Option String)
  | awsSecurityHub (region accountId : String) (profile : Option String)
  | awsEventBridge (region eventBus : String) (profile : Option String)
  | azureMonitor (workspaceId sharedKey logType : String)
  | azureEventHub (hubNamespace eventHub policyName policyKey : String)
  | azureSentinel (workspaceId sharedKey logType : String)
  | oracleLogging (region logId tenancyId userId fingerprint privateKey : String)
  | oracleStreaming (region streamId tenancyId userId fingerprint privateKey : String)
  | elasticsearch (urls : List String) (index : String) (username password apiKey : Option String)
  | splunk (url token sourcetype : String) (index : Option String)
  | kafka (brokers : List String) (topic : String) (saslUsername saslPassword : Option String)
  | syslog (address : String) (port : UInt16) (protocol : String) (useCef useLeef : Bool)
  | webhook (url : String) (headers : List (String × String))
      (bearerToken apiKeyHeader apiKeyValue : Option String)
  | file (path format : String) (maxSizeMb : UInt64) (maxFiles : UInt32)
  deriving DecidableEq

def defaultCloudwatchStream : String := "corevpn-audit-{date}"
def defaultS3Prefix : String := "audit-logs/{date}/{hour}/"
def defaultEventBus : String := "default"
def defaultAzureLogType : String := "CoreVPNAudit"
def defaultSentinelLogType : String := "CoreVPNSecurity"
def defaultEsIndex : String := "corevpn-audit-{date}"
def defaultSplunkSourcetype : String := "corevpn:audit"
def defaultSyslogPort : UInt16 := 514
def defaultSyslogProtocol : String := "udp"
def defaultAuditFormat : String := "json"
def defaultMaxSize : UInt64 := 100
def defaultMaxFiles : UInt32 := 10

structure AuditSettings where
  enabled : Bool
  bufferSize : UInt64
  includeSourceIp : Bool
  includeUserIdentity : Bool
  hashSensitiveFields : Bool
  sinks : List AuditSinkConfig
  deriving DecidableEq

def defaultAuditBuffer : UInt64 := 10000

def AuditSettings.default : AuditSettings := ⟨false, 10000, true, true, false, []⟩

structure ServerConfig where
  server : ServerSettings
  network : NetworkSettings
  security : SecuritySettings
  oauth : Option OAuthSettings
  logging : LoggingSettings
  admin : AdminSettings
  audit : AuditSettings
  deriving DecidableEq

namespace ServerConfig

def defaultConfig (publicHost : String) : ServerConfig where
  server := ⟨defaultListenAddr, none, publicHost, defaultProtocol, defaultMaxClients, defaultDataDir⟩
  network := ⟨defaultSubnet, none, defaultDns, [], [], defaultRedirectGateway, defaultMtu⟩
  security := ⟨defaultCipher, defaultTlsVersion, true, false, defaultCertLifetime, defaultClientCertLifetime,
    defaultRenegSec, true⟩
  oauth := none
  logging := LoggingSettings.default
  admin := AdminSettings.default
  audit := AuditSettings.default

/-- `validate`, with `parseIpv4Net` the `Ipv4Net` parser of `ipnet`, whose errors are
texts. -/
def validate (parseIpv4Net : String → Except String Ipv4Net) (config : ServerConfig) :
    Except ConfigError Unit := do
  if config.server.publicHost.isEmpty then
    throw (.missingField "server.public_host")
  match parseIpv4Net config.network.subnet with
  | .error message => throw (.validationError ("invalid subnet: " ++ message))
  | .ok _ => pure ()
  match config.oauth with
  | some oauth =>
      if oauth.enabled then
        if oauth.clientId.isEmpty then
          throw (.missingField "oauth.client_id")
        if oauth.clientSecret.isEmpty then
          throw (.missingField "oauth.client_secret")
  | none => pure ()

end ServerConfig

/-- `setup_google_oauth`, from the client id, the client secret and the allowed domain
it was given. -/
def googleOAuth (clientId clientSecret domain : String) : OAuthSettings :=
  ⟨true, "google", clientId, clientSecret, none, none, none, if domain.isEmpty then [] else [domain], []⟩

def setupConfig (publicHost : String) (port : UInt16) (protocol dataDir subnet : String)
    (redirectGateway : Bool) (oauthConfig : Option OAuthSettings) : ServerConfig :=
  let config := ServerConfig.defaultConfig publicHost
  let config := { config with
    server := { config.server with listenAddr := ⟨.v4 (ipv4 0 0 0 0), port⟩, protocol, dataDir }
    network := { config.network with subnet, redirectGateway } }
  match oauthConfig with
  | some oauth => { config with oauth := some oauth }
  | none => config

end CoreVpn.Config
