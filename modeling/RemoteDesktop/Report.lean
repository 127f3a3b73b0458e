import RemoteDesktop.Text.Blank

/-!
# Failure reports

A failure is known by the messages that led to it, the outermost first. A report names the kind of
failure, which is recognised by words in the messages, and lists what usually causes it and what helps.
-/

namespace RemoteDesktop.Report

/-- A kind of failure. -/
inductive Category where
  | display
  | tls
  | network
  | credential
  | handover
  | config
  | other
  deriving DecidableEq, Repr

/-- The name of a category. -/
def Category.name : Category → String
  | display => "Display"
  | tls => "Tls"
  | network => "Network"
  | credential => "Credential"
  | handover => "Handover"
  | config => "Config"
  | other => "Other"

/-- The words by which categories are recognised, in the order in which they are looked for. -/
def keywords : List (Category × List String) :=
  [(.display, ["x server", "x11", "display", "xtest"]),
    (.tls, ["tls", "certificate"]),
    (.network, ["bind", "address"]),
    (.credential, ["credential", "sam record"]),
    (.handover, ["handover"]),
    (.config, ["config"])]

/-- The messages in one line, the outermost first. -/
def oneLine (messages : List String) : String := ": ".intercalate messages

/-- A word stands somewhere in a text. -/
def mentions (word : List Char) : List Char → Bool
  | [] => word.isEmpty
  | c :: rest => word.isPrefixOf (c :: rest) || mentions word rest

/-- The first category one of whose words stands in the messages. All words looked for are in small
ASCII letters, and no character beyond ASCII has one of their letters as its small form. -/
def category (messages : List String) : Category :=
  let text := (oneLine messages).toList.map Text.foldAscii
  match keywords.find? fun entry => entry.2.any fun word => mentions word.toList text with
  | some (category, _) => category
  | none => .other

/-- What usually causes a failure, and what helps. -/
structure Hint where
  cause : String
  remedy : String
  deriving DecidableEq, Repr

/-- The headline of a category. -/
def title : Category → String
  | .display => "X Display Error"
  | .tls => "TLS Certificate Error"
  | .network => "Network Error"
  | .credential => "Credential Error"
  | .handover => "Handover Error"
  | .config => "Configuration Error"
  | .other => "Server Error"

/-- What a category means, in a sentence. -/
def summary : Category → String
  | .display => "Could not capture or control the X11 desktop."
  | .tls => "Could not load the TLS certificate or private key."
  | .network => "Could not listen on the configured address."
  | .credential => "Could not set up authentication."
  | .handover => "Could not set up the session handover socket."
  | .config => "The configuration file is invalid."
  | .other => "The server failed to start."

/-- The usual causes of a category. -/
def hints : Category → List Hint
  | .display =>
    [⟨"DISPLAY is not set or points to the wrong server",
        "Set capture.display in the config or export DISPLAY=:0"⟩,
      ⟨"The X server refuses the connection",
        "Run as the desktop user or allow it with: xhost +SI:localuser:$USER"⟩,
      ⟨"The XTEST extension is missing", "Enable XTEST in the X server configuration"⟩,
      ⟨"The screen depth is not 24/32 bit", "Start the X server with -depth 24"⟩]
  | .tls =>
    [⟨"Certificate or key file missing",
        "Check security.cert_path and security.key_path, or pass --generate-cert"⟩,
      ⟨"Files are not PEM encoded",
        "Convert with: openssl x509 -in cert.der -inform der -out cert.pem"⟩]
  | .network =>
    [⟨"Port already in use", "Check with: ss -tlnp | grep 3389, or use --port"⟩,
      ⟨"Ports below 1024 need privileges", "Use a higher port or grant CAP_NET_BIND_SERVICE"⟩,
      ⟨"Malformed listen address", "Use host:port, for example 0.0.0.0:3389"⟩]
  | .credential =>
    [⟨"Neither or both of security.password and security.nt_hash are set",
        "Configure exactly one of them"⟩,
      ⟨"The credential directory is not writable",
        "Check security.credential_dir ownership and permissions"⟩]
  | .handover =>
    [⟨"Another worker owns the socket or the path is not a socket",
        "Check handover.socket_path and stop the other worker"⟩]
  | .config =>
    [⟨"TOML syntax error or missing section",
        "Compare with the default config written by the package"⟩,
      ⟨"Value out of range", "See the message below for the offending field"⟩]
  | .other => []

/-- The lines of one hint, with its number. -/
def hintLines (number : Nat) (hint : Hint) : List String :=
  [s!"  {number}. {hint.cause}", s!"     → {hint.remedy}"]

/-- The lines of all hints, under a heading of their own. -/
def hintSection (hints : List Hint) : List String :=
  if hints.isEmpty then []
  else
    ["", "Common Causes:", ""]
      ++ (hints.zipIdx 1).flatMap fun entry => hintLines entry.2 entry.1

/-- A line across the page. -/
def rule : String := "━━━━━━━━━━━━━━━━━━━━━━━━━━━━━━━━━━━━━━━━━━━━━━━━━━━━━━━━━━"

/-- The lines of a report. -/
def lines (messages : List String) : List String :=
  let category := category messages
  ["",
    "╔════════════════════════════════════════════════════════════╗",
    "║                     ERROR                                  ║",
    "╚════════════════════════════════════════════════════════════╝",
    "", title category, "", summary category]
    ++ hintSection (hints category)
    ++ ["", rule, "Technical Details:", "", oneLine messages, "", rule, "Need Help?",
      "  - Run with --verbose for detailed logs: lamco-x11-rdp-server -vv",
      "  - Report issues: https://github.com/lamco-admin/lamco-x11-rdp-server/issues"]

/-- The report of a failure. -/
def render (messages : List String) : String := String.join ((lines messages).map (· ++ "\n"))

end RemoteDesktop.Report
