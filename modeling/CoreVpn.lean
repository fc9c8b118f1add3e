import CoreVpn.Lib.Wire
import CoreVpn.Lib.Machine
import CoreVpn.Lib.SortedMap
import CoreVpn.Lib.FirstFit
import CoreVpn.Lib.Escape
import CoreVpn.Lib.Framing
import CoreVpn.Crypto.ReplayWindow
import CoreVpn.Crypto.Cipher
import CoreVpn.Crypto.HmacAuth
import CoreVpn.Protocol.Opcode
import CoreVpn.Protocol.Packet
import CoreVpn.Protocol.Reliable
import CoreVpn.Protocol.Data
import CoreVpn.Protocol.Session
import CoreVpn.Protocol.DataPath
import CoreVpn.Core.AddressPool
import CoreVpn.Auth.SessionManager
import CoreVpn.Auth.Provider
import CoreVpn.Audit.Events
import CoreVpn.Audit.Formats
import CoreVpn.Audit.SyslogSink
import CoreVpn.Lib.RustStr
import CoreVpn.Protocol.Control
import CoreVpn.Crypto.StaticKey
import CoreVpn.ConnectionLog.Anonymizer
import CoreVpn.ConnectionLog.DbLogger
import CoreVpn.Config.ServerConfig
import CoreVpn.Lib.Serde
import CoreVpn.Config.Persist
import CoreVpn.Crypto.Kdf
import CoreVpn.Server.Startup
import CoreVpn.ConnectionLog.FileLogger
import CoreVpn.Audit.FileSink
import CoreVpn.ConnectionLog.FileQuery
import CoreVpn.Audit.Logger
import CoreVpn.Lib.Fanout
import CoreVpn.Lib.Window
import CoreVpn.ConnectionLog.MemoryLogger
import CoreVpn.Core.Session
import CoreVpn.Crypto.TlsCrypt
import CoreVpn.Server.Connections
import CoreVpn.Lib.Base64
import CoreVpn.Lib.PercentEncoding
import CoreVpn.WebUi.BasicAuth
import CoreVpn.Auth.Token
import CoreVpn.Auth.Flow
import CoreVpn.Lib.ConfigFile
import CoreVpn.Config.ClientConfig
import CoreVpn.Audit.BatchSinks
