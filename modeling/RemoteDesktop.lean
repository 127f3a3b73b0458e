import RemoteDesktop.Bytes
import RemoteDesktop.Capture
import RemoteDesktop.Capture.Canvas
import RemoteDesktop.Capture.Course
import RemoteDesktop.Capture.History
import RemoteDesktop.Capture.Source
import RemoteDesktop.Checked
import RemoteDesktop.Config
import RemoteDesktop.Config.Document
import RemoteDesktop.Config.Error
import RemoteDesktop.Config.Validity
import RemoteDesktop.Connection
import RemoteDesktop.Connection.Context
import RemoteDesktop.Connection.Error
import RemoteDesktop.Connection.Inbound
import RemoteDesktop.Connection.Relay
import RemoteDesktop.Credential.Custody
import RemoteDesktop.Credential.Directory
import RemoteDesktop.Credential.Proof
import RemoteDesktop.Credential.Provisioner
import RemoteDesktop.Credential.Record
import RemoteDesktop.Damage
import RemoteDesktop.Damage.History
import RemoteDesktop.Damage.Share
import RemoteDesktop.Digest.Block
import RemoteDesktop.Digest.Md4
import RemoteDesktop.Digest.Sha256
import RemoteDesktop.Display
import RemoteDesktop.Display.Error
import RemoteDesktop.Display.Screen
import RemoteDesktop.Document.Json
import RemoteDesktop.Document.Json.Number
import RemoteDesktop.Document.Json.Text
import RemoteDesktop.Document.Magnitude
import RemoteDesktop.Document.Reader
import RemoteDesktop.Document.Toml
import RemoteDesktop.Document.Toml.Number
import RemoteDesktop.Document.Toml.Table
import RemoteDesktop.Document.Toml.Text
import RemoteDesktop.Document.Value
import RemoteDesktop.Encoder
import RemoteDesktop.Encoder.Pump
import RemoteDesktop.Encoder.TileCodec
import RemoteDesktop.FileError
import RemoteDesktop.Files.Path
import RemoteDesktop.Files.Tree
import RemoteDesktop.Frame
import RemoteDesktop.Frame.History
import RemoteDesktop.Frame.Queue
import RemoteDesktop.Frame.Queue.History
import RemoteDesktop.Handover.Error
import RemoteDesktop.Handover.Exchange
import RemoteDesktop.Handover.State
import RemoteDesktop.Handover.Transfer
import RemoteDesktop.Input.Action
import RemoteDesktop.Input.Dispatcher
import RemoteDesktop.Input.Dispatcher.History
import RemoteDesktop.Input.Error
import RemoteDesktop.Input.Event
import RemoteDesktop.Input.Keysym
import RemoteDesktop.Input.Scancode
import RemoteDesktop.Keyboard.Keymap
import RemoteDesktop.Keyboard.Keymap.History
import RemoteDesktop.Keyboard.Mapping
import RemoteDesktop.Keyboard.Sharing
import RemoteDesktop.Keyboard.Typist
import RemoteDesktop.Login
import RemoteDesktop.Login.Error
import RemoteDesktop.Lz4.Block
import RemoteDesktop.Lz4.Matcher
import RemoteDesktop.Lz4.Plan
import RemoteDesktop.Net.IpAddress
import RemoteDesktop.Net.Ipv4
import RemoteDesktop.Net.Ipv6
import RemoteDesktop.Net.SocketAddress
import RemoteDesktop.Proofs.Bytes
import RemoteDesktop.Proofs.Capture.Freshness
import RemoteDesktop.Proofs.Capture.Geometry
import RemoteDesktop.Proofs.Config.Override
import RemoteDesktop.Proofs.Connection.Answers
import RemoteDesktop.Proofs.Connection.Inbound
import RemoteDesktop.Proofs.Connection.Relay
import RemoteDesktop.Proofs.Credential.Custody
import RemoteDesktop.Proofs.Credential.Cut
import RemoteDesktop.Proofs.Credential.Record
import RemoteDesktop.Proofs.Damage
import RemoteDesktop.Proofs.Damage.Exact
import RemoteDesktop.Proofs.Damage.Share
import RemoteDesktop.Proofs.Damage.Totals
import RemoteDesktop.Proofs.Document.Json
import RemoteDesktop.Proofs.Document.Reader
import RemoteDesktop.Proofs.Emission
import RemoteDesktop.Proofs.Fidelity
import RemoteDesktop.Proofs.Frame
import RemoteDesktop.Proofs.Frame.Queue
import RemoteDesktop.Proofs.Frame.Reuse
import RemoteDesktop.Proofs.Grid
import RemoteDesktop.Proofs.Handover.Agreement
import RemoteDesktop.Proofs.Handover.Document
import RemoteDesktop.Proofs.Handover.Verdict
import RemoteDesktop.Proofs.Input.Held
import RemoteDesktop.Proofs.Input.Wheel
import RemoteDesktop.Proofs.Keyboard.Keymap
import RemoteDesktop.Proofs.Keyboard.Sharing
import RemoteDesktop.Proofs.Keyboard.Spares
import RemoteDesktop.Proofs.Keyboard.Turns
import RemoteDesktop.Proofs.Login
import RemoteDesktop.Proofs.Lz4.Matcher
import RemoteDesktop.Proofs.Lz4.Unpack
import RemoteDesktop.Proofs.Merge
import RemoteDesktop.Proofs.Merge.Order
import RemoteDesktop.Proofs.Net.Address
import RemoteDesktop.Proofs.Padding
import RemoteDesktop.Proofs.Painting
import RemoteDesktop.Proofs.Region.Area
import RemoteDesktop.Proofs.Server.Lifecycle
import RemoteDesktop.Proofs.Server.Stop
import RemoteDesktop.Proofs.Session.Geometry
import RemoteDesktop.Proofs.Session.Numbering
import RemoteDesktop.Proofs.Session.Turn
import RemoteDesktop.Proofs.Tiling
import RemoteDesktop.Proofs.Viewer.Client
import RemoteDesktop.Proofs.Viewer.Tiles
import RemoteDesktop.Proofs.Wire.Assembly
import RemoteDesktop.Proofs.Wire.Bands
import RemoteDesktop.Proofs.Wire.Cursor
import RemoteDesktop.Proofs.Wire.Framing
import RemoteDesktop.Proofs.Wire.Message
import RemoteDesktop.Proofs.Wire.Parts
import RemoteDesktop.Proofs.Wire.Shortest
import RemoteDesktop.Region
import RemoteDesktop.Region.Grid
import RemoteDesktop.Region.Merge
import RemoteDesktop.Report
import RemoteDesktop.Report.DisplayEnvironment
import RemoteDesktop.Rounding
import RemoteDesktop.Server.CloseReason
import RemoteDesktop.Server.ConnectionState
import RemoteDesktop.Server.Error
import RemoteDesktop.Server.Event
import RemoteDesktop.Server.Lifecycle
import RemoteDesktop.Server.Listener
import RemoteDesktop.Server.Mailbox
import RemoteDesktop.Server.Task
import RemoteDesktop.Session
import RemoteDesktop.Session.Departure
import RemoteDesktop.Session.Flow
import RemoteDesktop.Session.Pipeline
import RemoteDesktop.Session.Settings
import RemoteDesktop.Text.Blank
import RemoteDesktop.Text.Numeral
import RemoteDesktop.Text.Quoted
import RemoteDesktop.Text.Split
import RemoteDesktop.Text.Utf16
import RemoteDesktop.Text.Utf8
import RemoteDesktop.Text.Visible
import RemoteDesktop.Update
import RemoteDesktop.Viewer.Client
import RemoteDesktop.Viewer.Picture
import RemoteDesktop.Wire.Cursor
import RemoteDesktop.Wire.Framing
import RemoteDesktop.Wire.Integer
import RemoteDesktop.Wire.Message
import RemoteDesktop.Wire.Parts
import RemoteDesktop.Wire.Parts.History
import RemoteDesktop.Wire.View
