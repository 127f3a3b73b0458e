import RemoteDesktop.Config.Validity
import RemoteDesktop.Document.Json
import RemoteDesktop.Document.Toml

/-!
# Configurations as documents

A configuration file is a TOML document with six tables. Some settings may be left out; keys that name
no setting are passed over. A configuration can be shown as a document of the same form.
-/

namespace RemoteDesktop.Config

open Document
open Document.RecordReader (required withDefault nullable)

/-! ### As values -/

def Server.toValue (s : Server) : Value :=
  .ofEntries [("listen_addr", .ofString s.listenAddress),
    ("max_connections", .ofNat s.maxConnections.toNat),
    ("handshake_timeout_secs", .ofNat s.handshakeSeconds.toNat),
    ("update_queue_depth", .ofNat s.queueDepth.toNat)]

def Security.toValue (s : Security) : Value :=
  .ofEntries [("enable_tls", .boolean s.enableTls), ("cert_path", .ofString s.certPath),
    ("key_path", .ofString s.keyPath), ("generate_cert", .boolean s.generateCert),
    ("username", .ofString s.username), ("password", .ofOption .ofString s.password),
    ("nt_hash", .ofOption .ofString s.ntHash),
    ("credential_dir", .ofString s.credentialDirectory)]

def Screen.toValue (s : Screen) : Value :=
  .ofEntries [("display", .ofOption .ofString s.display), ("width", .ofNat s.size.width.toNat),
    ("height", .ofNat s.size.height.toNat), ("target_fps", .ofNat s.framesPerSecond.toNat)]

def Encoding.toValue (e : Encoding) : Value :=
  .ofEntries [("mode", .ofString e.mode.name), ("frame_diff", .boolean e.onlyChanges),
    ("tile_size", .ofNat e.pixelTile.toNat)]

def Logging.toValue (l : Logging) : Value :=
  .ofEntries [("level", .ofString l.level), ("log_dir", .ofOption .ofString l.directory)]

/-- The configuration as a value. -/
def toValue (config : Config) : Value :=
  .ofEntries [("server", config.server.toValue), ("security", config.security.toValue),
    ("capture", config.screen.toValue), ("encoding", config.encoding.toValue),
    ("handover", .ofEntries [("socket_path", .ofString config.handoverSocket)]),
    ("logging", config.logging.toValue)]

/-! ### From values -/

/-- A text that may be left out or null. -/
def readTextIfAny (name : String) : RecordReader (Option String) :=
  withDefault name (Value.readOptional Value.readText) none

def Server.reader : RecordReader Server :=
  Server.mk <$> required "listen_addr" Value.readText <*> required "max_connections" Value.readWord64
    <*> withDefault "handshake_timeout_secs" Value.readWord64 10
    <*> withDefault "update_queue_depth" Value.readWord64 4

def Security.reader : RecordReader Security :=
  Security.mk <$> required "enable_tls" Value.readBoolean <*> required "cert_path" Value.readText
    <*> required "key_path" Value.readText <*> withDefault "generate_cert" Value.readBoolean false
    <*> required "username" Value.readText <*> readTextIfAny "password" <*> readTextIfAny "nt_hash"
    <*> required "credential_dir" Value.readText

def Screen.reader : RecordReader Screen :=
  (fun display width height rate => ⟨display, ⟨width, height⟩, rate⟩)
    <$> readTextIfAny "display" <*> required "width" Value.readWord32
    <*> required "height" Value.readWord32 <*> required "target_fps" Value.readWord32

def Encoding.reader (dialect : Dialect) : RecordReader Encoding :=
  Encoding.mk <$> required "mode" (Value.readChoice dialect Mode.ofName?)
    <*> required "frame_diff" Value.readBoolean <*> withDefault "tile_size" Value.readWord32 64

def Logging.reader : RecordReader Logging :=
  Logging.mk <$> required "level" Value.readText <*> nullable "log_dir" Value.readText

/-- Reads a configuration. -/
def reader (dialect : Dialect) : RecordReader Config :=
  Config.mk <$> required "server" (Server.reader.read dialect)
    <*> required "security" (Security.reader.read dialect)
    <*> required "capture" (Screen.reader.read dialect)
    <*> required "encoding" ((Encoding.reader dialect).read dialect)
    <*> required "handover" ((required "socket_path" Value.readText).read dialect)
    <*> required "logging" (Logging.reader.read dialect)

/-- The configuration that a value holds. -/
def ofValue (dialect : Dialect) (value : Value) : Except ConfigError Config :=
  ((reader dialect).read dialect value).mapError fun _ => .malformed

/-! ### As text -/

/-- The configuration in a file at `path`, valid in every respect. -/
def load (fileExists : String → Bool) (path : String) (contents : Except FileError String) :
    Except ConfigError Config := do
  let text ← contents.mapError (.unreadable path)
  match Toml.document? text with
  | none => .error .malformed
  | some value => do
    let config ← ofValue Toml.dialect value
    config.validate fileExists
    .ok config

/-- The configuration as text. -/
def write (config : Config) : String := Json.write config.toValue

end RemoteDesktop.Config
