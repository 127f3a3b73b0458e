import RemoteDesktop.Config

/-!
# Valid configurations

A server starts only with a configuration that passes every check. The checks run in a fixed order, and
the first that fails is reported.
-/

namespace RemoteDesktop.Config

/-- A check that fails with the given error. -/
def demand (condition : Bool) (error : ConfigError) : Except ConfigError Unit :=
  if condition then .ok () else .error error

/-- The certificate and its key are there, or need not be. -/
def checkFiles (fileExists : String → Bool) (s : Security) : Except ConfigError Unit :=
  if s.enableTls ∧ ¬s.generateCert then do
    demand (fileExists s.certPath) (.noCertificate s.certPath)
    demand (fileExists s.keyPath) (.noPrivateKey s.keyPath)
  else .ok ()

/-- The configuration passes every check; `fileExists` says which paths there are. -/
def validate (fileExists : String → Bool) (config : Config) : Except ConfigError Unit := do
  let _ ← config.listenAddress
  demand (config.server.maxConnections != 0) (.zero .maxConnections)
  demand (config.server.handshakeSeconds != 0) (.zero .handshakeSeconds)
  demand (config.server.queueDepth != 0) (.zero .queueDepth)
  checkFiles fileExists config.security
  (Record.checkUsername config.security.username).mapError .username
  let _ ← config.expectedHash
  let rate := config.screen.framesPerSecond
  demand (1 ≤ rate && rate ≤ 120) (.frameRate rate)
  let side := config.encoding.pixelTile
  demand (16 ≤ side && side % 16 == 0) (.tileSize side)
  demand (Logging.levels.contains config.logging.level) (.level config.logging.level)

end RemoteDesktop.Config
