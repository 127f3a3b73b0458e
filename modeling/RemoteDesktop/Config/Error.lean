import RemoteDesktop.Credential.Record
import RemoteDesktop.Text.Quoted

/-!
# Configuration errors

Why a configuration could not be read or is not in order.
-/

namespace RemoteDesktop

/-- The settings that must not be zero. -/
inductive PositiveSetting where
  | maxConnections
  | handshakeSeconds
  | queueDepth
  deriving DecidableEq, Repr

/-- The name of a setting in the text of a configuration. -/
def PositiveSetting.name : PositiveSetting → String
  | maxConnections => "max_connections"
  | handshakeSeconds => "handshake_timeout_secs"
  | queueDepth => "update_queue_depth"

/-- What is wrong with a configuration. -/
inductive ConfigError where
  | unreadable (path : String) (cause : FileError)
  /-- The text does not hold a configuration. -/
  | malformed
  | listenAddress
  | zero (setting : PositiveSetting)
  | noCertificate (path : String)
  | noPrivateKey (path : String)
  | username (cause : CredentialError)
  | noCredential
  | twoCredentials
  | hash (cause : CredentialError)
  | frameRate (framesPerSecond : UInt32)
  | tileSize (side : UInt32)
  | level (name : String)
  deriving DecidableEq, Repr

/-- The wording of a configuration error, with its cause. -/
def ConfigError.message : ConfigError → String
  | unreadable path cause => s!"Failed to read config file: {path}: {cause.message}"
  | malformed => "Failed to parse config file"
  | listenAddress => "Invalid listen address: invalid socket address syntax"
  | zero setting => setting.name ++ " must be at least 1"
  | noCertificate path => "Certificate not found: " ++ Text.quoted path
  | noPrivateKey path => "Private key not found: " ++ Text.quoted path
  | username cause => "Invalid security.username: " ++ cause.message
  | noCredential => "No credential configured: set security.password or security.nt_hash"
  | twoCredentials => "Set either security.password or security.nt_hash, not both"
  | hash cause => "Invalid security.nt_hash: " ++ cause.message
  | frameRate n => s!"target_fps must be between 1 and 120, got {n}"
  | tileSize n => s!"tile_size must be a multiple of 16 (>= 16), got {n}"
  | level name => s!"Unknown logging.level '{name}'"

end RemoteDesktop
