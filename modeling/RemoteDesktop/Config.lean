import RemoteDesktop.Config.Error
import RemoteDesktop.Files.Path
import RemoteDesktop.Net.SocketAddress
import RemoteDesktop.Session.Settings

/-!
# Configuration

What the server is told at its start: where to listen, whom to let in, what to show and how. Paths and
the address stay texts here; they are looked at when they are used.
-/

namespace RemoteDesktop

namespace Config

/-- How the server meets its clients. -/
structure Server where
  listenAddress : String
  /-- The greatest number of connections at a time. -/
  maxConnections : UInt64
  /-- The seconds that a client has for its login. -/
  handshakeSeconds : UInt64 := 10
  /-- How many updates may wait for a slow client. -/
  queueDepth : UInt64 := 4
  deriving DecidableEq, Repr

/-- Whom the server lets in. -/
structure Security where
  enableTls : Bool
  certPath : String
  keyPath : String
  /-- Make a certificate if there is none. -/
  generateCert : Bool := false
  username : String
  password : Option String := none
  /-- The hash of the password, in place of the password. -/
  ntHash : Option String := none
  /-- Where the records of issued credentials are kept. -/
  credentialDirectory : String
  deriving DecidableEq, Repr

/-- What the server shows. -/
structure Screen where
  display : Option String := none
  /-- The size to show; a zero stands for the size of the desktop. -/
  size : Size
  framesPerSecond : UInt32
  deriving DecidableEq, Repr

/-- How the server shows it. -/
structure Encoding where
  mode : Mode
  onlyChanges : Bool
  /-- The side of the tiles in which changes of plain pixels are found. -/
  pixelTile : UInt32 := 64
  deriving DecidableEq, Repr

/-- What the server writes down. -/
structure Logging where
  level : String
  directory : Option String := none
  deriving DecidableEq, Repr

end Config

/-- The configuration of the server. -/
structure Config where
  server : Config.Server
  security : Config.Security
  screen : Config.Screen
  encoding : Config.Encoding
  /-- The socket on which sessions are handed over. -/
  handoverSocket : String
  logging : Config.Logging
  deriving DecidableEq, Repr

namespace Config

/-- The configuration of a server that was told nothing, with its own files under `runtimeDirectory`. -/
def standard (runtimeDirectory : String) : Config where
  server := { listenAddress := "0.0.0.0:3389", maxConnections := 10 }
  security := {
    enableTls := true
    certPath := "/etc/lamco-x11-rdp-server/cert.pem"
    keyPath := "/etc/lamco-x11-rdp-server/key.pem"
    username := "rdp"
    credentialDirectory := runtimeDirectory ++ "/lamco-x11-rdp-server/credentials" }
  screen := { size := ⟨0, 0⟩, framesPerSecond := 30 }
  encoding := { mode := .rfx, onlyChanges := true }
  handoverSocket := runtimeDirectory ++ "/lamco-x11-rdp-server/handover.sock"
  logging := { level := "info" }

/-! ### The listen address -/

/-- The address to listen on. -/
def listenAddress (config : Config) : Except ConfigError Net.SocketAddress :=
  match Net.SocketAddress.ofText? config.server.listenAddress.toList with
  | some address => .ok address
  | none => .error .listenAddress

/-- The configuration with another text for the listen address. -/
def withListenText (config : Config) (text : String) : Config :=
  { config with server := { config.server with listenAddress := text } }

/-- A host and a port as one text. -/
def hostAndPort (host : String) (port : UInt16) : String :=
  host ++ ":" ++ String.ofList (Text.Numeral.write 10 port.toNat)

/-- The port to fall back on. -/
def standardPort : UInt16 := 3389

/-- The configuration with the host and port given at the start in place of its own. A host alone
keeps the port configured; a port alone keeps the address, if there is one. -/
def override (config : Config) (host : Option String) (port : Option UInt16) : Config :=
  match host, port with
  | some host, some port => config.withListenText (hostAndPort host port)
  | some host, none =>
    let port := match config.listenAddress with
      | .ok address => address.port
      | .error _ => standardPort
    config.withListenText (hostAndPort host port)
  | none, some port =>
    match config.listenAddress with
    | .ok address => config.withListenText (String.ofList (address.withPort port).write)
    | .error _ => config
  | none, none => config

/-! ### Credentials, time and sessions -/

/-- The hash whose knowledge a client must prove. -/
def expectedHash (config : Config) : Except ConfigError NtHash :=
  match config.security.password, config.security.ntHash with
  | some password, none => .ok (NtHash.ofPassword password)
  | none, some hex =>
    match NtHash.ofHex? hex.toList with
    | some hash => .ok hash
    | none => .error (.hash .invalidHash)
  | some _, some _ => .error .twoCredentials
  | none, none => .error .noCredential

/-- The milliseconds that a client has for its login. -/
def handshakeMilliseconds (config : Config) : Nat := config.server.handshakeSeconds.toNat * 1000

/-- The settings of a new session. The configured size stands in for each zero in the size asked for. -/
def sessionSettings (config : Config) (requested : Size) : SessionSettings where
  size := ⟨if requested.width = 0 then config.screen.size.width else requested.width,
    if requested.height = 0 then config.screen.size.height else requested.height⟩
  mode := config.encoding.mode
  onlyChanges := config.encoding.onlyChanges
  nextSequence := 0

/-! ### Logging -/

namespace Logging

/-- The names of levels, most talkative first. -/
def levels : List String := ["trace", "debug", "info", "warn", "error"]

/-- The name of the log file in its directory. -/
def fileName : String := "lamco-x11-rdp-server.log"

/-- The level in force when the server was asked so many times to say more. -/
def effectiveLevel (logging : Logging) : (more : Nat) → String
  | 0 => logging.level
  | 1 => "debug"
  | _ => "trace"

/-- The log file, if there is one. One given at the start wins. -/
def file (logging : Logging) (given : Option String) : Option String :=
  given.or (logging.directory.map (Path.join · fileName))

end Logging

end Config

end RemoteDesktop
