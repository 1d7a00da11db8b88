import Keepalive.Address
import Keepalive.Bench
import Keepalive.Binary64
import Keepalive.Binary64.Shortest
import Keepalive.Bytes
import Keepalive.Bytes.Hex
import Keepalive.Calendar
import Keepalive.Checksum.Fault
import Keepalive.Checksum.Fold
import Keepalive.Checksum.Mode
import Keepalive.Checksum.Sample
import Keepalive.Config
import Keepalive.Config.Document
import Keepalive.Config.Fault
import Keepalive.Config.File
import Keepalive.Config.Settings
import Keepalive.Demo
import Keepalive.Digest.Block
import Keepalive.Digest.Md4
import Keepalive.Digest.Md5
import Keepalive.Digest.Sha1
import Keepalive.EnvFile
import Keepalive.EnvFile.Binding
import Keepalive.EnvFile.Loader
import Keepalive.Environment
import Keepalive.Fault
import Keepalive.Files
import Keepalive.Journal
import Keepalive.Main
import Keepalive.Notice
import Keepalive.Packet.Challenge
import Keepalive.Packet.Fault
import Keepalive.Packet.Heartbeat
import Keepalive.Packet.Traffic
import Keepalive.Path
import Keepalive.Proofs.Bytes.Places
import Keepalive.Proofs.Checksum.Fold
import Keepalive.Proofs.Checksum.Offsets
import Keepalive.Proofs.Checksum.Sample
import Keepalive.Proofs.Heartbeat.Admission
import Keepalive.Proofs.Heartbeat.Checksum
import Keepalive.Proofs.Heartbeat.Detection
import Keepalive.Proofs.Heartbeat.Draft
import Keepalive.Proofs.Heartbeat.Layout
import Keepalive.Proofs.Heartbeat.Source
import Keepalive.Proofs.Heartbeat.Succession
import Keepalive.Proofs.Outcome
import Keepalive.Session
import Keepalive.Source
import Keepalive.Stream
import Keepalive.Stream.Reader
import Keepalive.Text.Blank
import Keepalive.Text.DecimalDigit
import Keepalive.Text.Numeral
import Keepalive.Text.Printable
import Keepalive.Text.Quoted
import Keepalive.Text.Utf8
import Keepalive.Toml.Document
import Keepalive.Toml.Moment
import Keepalive.Toml.Number
import Keepalive.Toml.Scan
import Keepalive.Toml.Text
import Keepalive.Toml.Tree
import Keepalive.Value
import Keepalive.Proofs.Stream.Advance
import Keepalive.Proofs.Challenge.Decoding
import Keepalive.Proofs.Bench.Position
import Keepalive.Proofs.Bench.Conservation
import Keepalive.Proofs.Bench.Items
import Keepalive.Proofs.Bench.Pieces
import Keepalive.Proofs.Config.Heartbeat
import Keepalive.Proofs.Text.Numeral
import Keepalive.Proofs.Address
import Keepalive.Proofs.Environment.History
import Keepalive.Proofs.Environment.Steps
import Keepalive.Proofs.Environment.Variables
import Keepalive.Proofs.EnvFile
import Keepalive.Proofs.Config.Spelling
import Keepalive.Proofs.Config.Routes
import Keepalive.Proofs.Config.Escapes
import Keepalive.Proofs.Config.Sections
import Keepalive.Proofs.Journal
import Keepalive.Proofs.Demo.Walk
import Keepalive.Proofs.Demo.Fallback
import Keepalive.Proofs.Bytes.Words
import Keepalive.Proofs.Checksum.Laws
import Keepalive.Proofs.Stream.Script
import Keepalive.Proofs.Config.Mac
import Keepalive.Proofs.Config.Host
import Keepalive.Proofs.Text.Integer
import Keepalive.Proofs.Config.Number
import Keepalive.Proofs.Config.Precedence
import Keepalive.Proofs.Bench.Snapshot
import Keepalive.Proofs.Demo.Records
import Keepalive.Proofs.Session
