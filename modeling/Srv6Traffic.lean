import Srv6Traffic.Address.Ip
import Srv6Traffic.Address.Mac
import Srv6Traffic.Buffer.Edit
import Srv6Traffic.Buffer.Slice
import Srv6Traffic.Buffer.Writer
import Srv6Traffic.CommandLine.Arguments
import Srv6Traffic.CommandLine.HexDump
import Srv6Traffic.CommandLine.Invocation
import Srv6Traffic.CommandLine.LayerSummary
import Srv6Traffic.CommandLine.Run
import Srv6Traffic.Dictionary
import Srv6Traffic.Header.Ethernet
import Srv6Traffic.Header.Field
import Srv6Traffic.Header.Ipv4
import Srv6Traffic.Header.Ipv6
import Srv6Traffic.Header.SegmentRouting
import Srv6Traffic.Header.Udp
import Srv6Traffic.Journal
import Srv6Traffic.Main
import Srv6Traffic.Packet.Basic
import Srv6Traffic.Packet.Codec
import Srv6Traffic.Signed
import Srv6Traffic.SliceTable
import Srv6Traffic.Stream.Basic
import Srv6Traffic.Stream.EndDx4
import Srv6Traffic.Stream.Options
import Srv6Traffic.Stream.Profile
import Srv6Traffic.Stream.Registry
import Srv6Traffic.Template
import Srv6Traffic.Text.Blank
import Srv6Traffic.Text.Hex
import Srv6Traffic.Text.Integer
import Srv6Traffic.Text.Split
import Srv6Traffic.Wire.OnesSum
import Srv6Traffic.Wire.Reader
import Srv6Traffic.Wire.Word
import Srv6Traffic.Proofs.Header.Fixed
import Srv6Traffic.Proofs.Buffer.Views
import Srv6Traffic.Proofs.Header.Ipv4
import Srv6Traffic.Proofs.Header.SegmentRouting
import Srv6Traffic.Proofs.Wire.Change
import Srv6Traffic.Proofs.Packet.Frame
import Srv6Traffic.Proofs.Header.Checksum
import Srv6Traffic.Proofs.Header.Damage
import Srv6Traffic.Proofs.Header.Extent
import Srv6Traffic.Proofs.Packet.Layout
import Srv6Traffic.Proofs.Packet.RoundTrip
import Srv6Traffic.Proofs.Packet.Checksums
import Srv6Traffic.Proofs.Packet.Grammar
import Srv6Traffic.Proofs.Packet.Agreement
import Srv6Traffic.Proofs.Packet.Damage
import Srv6Traffic.Proofs.Packet.Stages
import Srv6Traffic.Proofs.Packet.Lengths
import Srv6Traffic.Proofs.Packet.Traps
import Srv6Traffic.Proofs.Template.Construction
import Srv6Traffic.Proofs.Packet.Advance
import Srv6Traffic.Proofs.Template.Frames
import Srv6Traffic.Proofs.Buffer.Faults
import Srv6Traffic.Proofs.Packet.Routing
import Srv6Traffic.Proofs.SliceTable.Past
import Srv6Traffic.Proofs.SliceTable.Faults
import Srv6Traffic.Proofs.SliceTable.Program
import Srv6Traffic.Proofs.Packet.Window
import Srv6Traffic.Proofs.Stream.EndDx4
import Srv6Traffic.Proofs.CommandLine.Settings
import Srv6Traffic.Proofs.Stream.Registry
import Srv6Traffic.Proofs.Header.Windows
import Srv6Traffic.Proofs.Template.Influence
import Srv6Traffic.Proofs.CommandLine.Outcome
import Srv6Traffic.Proofs.Packet.Refusals
import Srv6Traffic.Proofs.Packet.Invariant
import Srv6Traffic.Proofs.Buffer.Ends
import Srv6Traffic.Proofs.Stream.Journal
import Srv6Traffic.Proofs.Stream.Parts
import Srv6Traffic.Proofs.Stream.Calls
import Srv6Traffic.Proofs.CommandLine.Appended
import Srv6Traffic.Proofs.Text.Hex
import Srv6Traffic.Proofs.Address.Mac
import Srv6Traffic.Proofs.Address.Ip
import Srv6Traffic.Proofs.CommandLine.LayerSummary
import Srv6Traffic.Proofs.Text.Numeral
import Srv6Traffic.Proofs.CommandLine.Grammar
import Srv6Traffic.Proofs.CommandLine.Addresses
import Srv6Traffic.Proofs.CommandLine.HexDump
